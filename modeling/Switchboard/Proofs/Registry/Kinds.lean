import Switchboard.Access.Gate
import Switchboard.Proofs.Registry.Reordering

/-!
# Other ways of running

The way that one function of a registry runs is given another value.  A name and an
integer of sixty-four bits are read whatever they are, and one that means no way of
running that is known stays in the registry, for the gate to deny.  Any other value is no
way of running, and the whole registry is then not read.

## Main definitions

* `Registry.withExecution name v`: a registry with another value for one way of running.
* `Execution.Spelled`: the values that are ways of running.

## Main statements

* `Entry.ofJson_withExecution`: what an entry with another value is read as.
* `Registry.ofJson_withExecution`: what a registry with another value is read as.
* `Registry.withExecution_iff_spelled`: which values leave a registry.
* `Registry.not_forall_withExecution_read`: not all do.
-/

namespace Switchboard

/-! ## Rows with other values -/

namespace Dict

variable {α β : Type}

@[simp] theorem lookup_map_row (change : String → α → β) (rows : List (String × α)) (key : String) :
    (rows.map fun row => (row.1, change row.1 row.2)).lookup key =
      (rows.lookup key).map (change key) := by
  induction rows with
  | nil => rfl
  | cons row rest ih =>
    rw [List.map_cons, lookup_cons_row, lookup_cons_row, ih]
    by_cases h : key = row.1 <;> simp [h]

/-- What is made of each row is made of what is looked up behind the rows. -/
theorem get?_foldl_insert_map (change : String → α → β) (rows : List (String × α)) {d : Dict α}
    {d' : Dict β} (h : ∀ key, d'.get? key = (d.get? key).map (change key)) (key : String) :
    ((rows.map fun row => (row.1, change row.1 row.2)).foldl
        (fun d row => d.insert row.1 row.2) d').get? key =
      ((rows.foldl (fun d row => d.insert row.1 row.2) d).get? key).map (change key) := by
  induction rows generalizing d d' with
  | nil => exact h key
  | cons row rest ih =>
    refine ih fun key => ?_
    by_cases hkey : key = row.1 <;> simp [h, hkey]

@[simp] theorem get?_ofList_map (change : String → α → β) (rows : List (String × α))
    (key : String) :
    (ofList (rows.map fun row => (row.1, change row.1 row.2))).get? key =
      ((ofList rows).get? key).map (change key) :=
  get?_foldl_insert_map change rows (fun _ => rfl) key

end Dict

namespace Json

/-- Fields with what is made of the value under a name. -/
def Fields.modify (fields : Fields) (name : String) (change : Json → Json) : Fields :=
  fields.map fun row => (row.1, if row.1 = name then change row.2 else row.2)

/-- An object with what is made of the value under a name. -/
def modify (name : String) (change : Json → Json) : Json → Json
  | .obj fields => .obj (Fields.modify fields name change)
  | v => v

@[simp] theorem Fields.modify_cons (name : String) (change : Json → Json) (row : String × Json)
    (rest : Fields) :
    Fields.modify (row :: rest) name change =
      (row.1, if row.1 = name then change row.2 else row.2) :: rest.modify name change :=
  rfl

theorem Fields.get?_modify (fields : Fields) (name : String) (change : Json → Json)
    (key : String) :
    (fields.modify name change).get? key =
      (fields.get? key).map fun v => if key = name then change v else v :=
  Dict.lookup_map_row (fun key v => if key = name then change v else v) fields key

@[simp] theorem Fields.get?_modify_self (fields : Fields) (name : String) (change : Json → Json) :
    (fields.modify name change).get? name = (fields.get? name).map change := by
  simp only [get?_modify, if_true]

theorem Fields.get?_modify_of_ne (fields : Fields) {name key : String} (h : key ≠ name)
    (change : Json → Json) : (fields.modify name change).get? key = fields.get? key := by
  simp only [get?_modify, if_neg h, Option.map_id']

theorem fieldOr_modify_of_ne (fields : Fields) {name key : String} (h : key ≠ name)
    (change : Json → Json) {α : Type} (default : α) (read : Json → Except Mismatch α) :
    fieldOr (fields.modify name change) key default read = fieldOr fields key default read := by
  rw [fieldOr, Fields.get?_modify_of_ne fields h, fieldOr]

@[simp] theorem itemOr_cons_zero {α : Type} (v : Json) (rest : List Json) (default : α)
    (read : Json → Except Mismatch α) : itemOr (v :: rest) 0 default read = read v := rfl

@[simp] theorem itemOr_cons_succ {α : Type} (v : Json) (rest : List Json) (index : Nat)
    (default : α) (read : Json → Except Mismatch α) :
    itemOr (v :: rest) (index + 1) default read = itemOr rest index default read := rfl

end Json

/-! ## The ways of running that there are -/

namespace Execution

/-- The values that are ways of running: names and integers of sixty-four bits. -/
inductive Spelled : Json → Execution → Prop
  | nativeName : Spelled (.str "native") .native
  | nativeCode : Spelled (.int 0) .native
  | scriptName : Spelled (.str "script") .script
  | scriptCode : Spelled (.int 1) .script
  | otherName {name : String} (hnative : name ≠ "native") (hscript : name ≠ "script") :
      Spelled (.str name) (.unsupported name)
  | otherCode {code : Int} (hnative : code ≠ 0) (hscript : code ≠ 1)
      (hbits : Decimal.isInt64 code = true) :
      Spelled (.int code) (.unsupported (String.ofList (Decimal.intChars code)))

theorem spelled_ofName (name : String) : Spelled (.str name) (ofName name) := by
  unfold ofName
  split
  · subst name
    exact .nativeName
  · split
    · subst name
      exact .scriptName
    · exact .otherName ‹_› ‹_›

theorem spelled_ofCode {code : Int} (h : Decimal.isInt64 code = true) :
    Spelled (.int code) (ofCode code) := by
  unfold ofCode
  split
  · subst code
    exact .nativeCode
  · split
    · subst code
      exact .scriptCode
    · exact .otherCode ‹_› ‹_› h

theorem Spelled.ofJson {v : Json} {execution : Execution} (h : Spelled v execution) :
    ofJson v = .ok execution := by
  cases h with
  | otherName hnative hscript =>
    simp only [Execution.ofJson, ofName, if_neg hnative, if_neg hscript]
  | otherCode hnative hscript hbits =>
    simp only [Json.int, Execution.ofJson, ofCode, if_pos hbits, if_neg hnative, if_neg hscript]
  | _ => rfl

/-- A value is a way of running or is refused as none. -/
theorem ofJson_cases (v : Json) :
    (∃ execution, Spelled v execution ∧ ofJson v = .ok execution) ∨
      (¬ ∃ execution, Spelled v execution) ∧ ofJson v = .error (.noReading "KindRepr") := by
  cases hread : ofJson v with
  | ok execution =>
    refine Or.inl ⟨execution, ?_, rfl⟩
    unfold ofJson at hread
    split at hread
    · obtain rfl := Except.ok.inj hread
      exact spelled_ofName _
    · split at hread
      · obtain rfl := Except.ok.inj hread
        exact spelled_ofCode ‹_›
      · cases hread
    · cases hread
  | error e =>
    refine Or.inr ⟨fun ⟨execution, hspelled⟩ => ?_, ?_⟩
    · rw [hspelled.ofJson] at hread
      cases hread
    · unfold ofJson at hread
      split at hread
      · cases hread
      · split at hread
        · cases hread
        · rw [← hread]
      · rw [← hread]

end Execution

/-! ## One entry -/

namespace Entry

/-- The entry of a function that runs in another way. -/
def runAs (entry : Entry) (execution : Execution) : Entry :=
  { entry with execution }

/-- An entry with another value for its way of running, which is a field or the first
item. -/
def withExecution (v : Json) : Json → Json
  | .arr (_ :: rest) => .arr (v :: rest)
  | row => row.modify "executionKind" fun _ => v

theorem ofFields_withExecution {fields : Json.Fields} {entry : Entry}
    (h : ofFields fields = .ok entry) (v : Json) :
    ofFields (fields.modify "executionKind" fun _ => v) =
      (Execution.ofJson v).map entry.runAs := by
  have hread := ofFields_eq_ok_iff.1 h
  have hexecution : Json.fieldOr (fields.modify "executionKind" fun _ => v) "executionKind" none
      (fun v => (Execution.ofJson v).map some) = (Execution.ofJson v).map some := by
    -- The entry was read, so the field is there to be given another value.
    have hthere := hread.execution
    rw [Json.fieldOr] at hthere ⊢
    rw [Json.Fields.get?_modify_self]
    cases hget : fields.get? "executionKind" with
    | some u => rfl
    | none => cases hget ▸ hthere
  rw [ofFields, hexecution, Json.fieldOr_modify_of_ne fields (by decide), hread.methods,
    Json.fieldOr_modify_of_ne fields (by decide), hread.returns,
    Json.fieldOr_modify_of_ne fields (by decide), hread.minVersion,
    Json.fieldOr_modify_of_ne fields (by decide), hread.tag,
    Json.fieldOr_modify_of_ne fields (by decide), hread.source]
  cases Execution.ofJson v <;> rfl

theorem ofItems_withExecution {u : Json} {rest : List Json} {entry : Entry}
    (h : ofItems (u :: rest) = .ok entry) (v : Json) :
    ofItems (v :: rest) = (Execution.ofJson v).map entry.runAs := by
  obtain ⟨execution, -, h⟩ := bind_eq_ok_iff.1 h
  cases execution with
  | none => cases h
  | some execution =>
    -- Behind the first item both arrays are one and the same.
    simp only [Json.itemOr_cons_succ, Json.atMost, List.length_cons, bind_eq_ok_iff] at h
    obtain ⟨execution', -, minVersion, hminVersion, tag, htag, methods, hmethods, returns,
      hreturns, source, hsource, ⟨⟩, hlength, hentry⟩ := h
    obtain rfl := Except.ok.inj hentry
    simp only [ofItems, Json.itemOr_cons_zero, Json.itemOr_cons_succ, Json.atMost,
      List.length_cons, hminVersion, htag, hmethods, hreturns, hsource, hlength]
    cases Execution.ofJson v <;> rfl

/-- An entry that was read is read with another way of running, if it is one. -/
theorem ofJson_withExecution {row : Json} {entry : Entry} (h : ofJson row = .ok entry) (v : Json) :
    ofJson (withExecution v row) = (Execution.ofJson v).map entry.runAs := by
  cases row with
  | obj fields => exact ofFields_withExecution h v
  | arr items =>
    cases items with
    | nil => cases h
    | cons u rest => exact ofItems_withExecution h v
  | _ => cases h

end Entry

/-! ## One row of a registry -/

namespace Registry

/-- A registry, in a frame or without, with another value for the way of running of the
function under a name. -/
def withExecution (name : String) (v : Json) : Json → Json
  | .obj fields =>
    let change := Json.modify name (Entry.withExecution v)
    if (Json.Fields.get? fields "functions").isSome then
      Json.modify "functions" change (.obj fields)
    else change (.obj fields)
  | raw => raw

/-- The rows of what is read with another value are the rows with it. -/
theorem Holds.withExecution {raw : Json} {rows : Json.Fields} (h : Holds raw rows) (name : String)
    (v : Json) :
    Holds (withExecution name v raw) (rows.modify name (Entry.withExecution v)) := by
  cases h with
  | @document fields rows hrows hkind hschema =>
    have hother := fun {key : String} (hne : key ≠ "functions") =>
      fields.get?_modify_of_ne hne (Json.modify name (Entry.withExecution v))
    have hframe : Registry.withExecution name v (.obj fields) =
        .obj (fields.modify "functions" (Json.modify name (Entry.withExecution v))) := by
      simp only [Registry.withExecution, hrows, Option.isSome_some, if_true, Json.modify]
    rw [hframe]
    refine .document ?_ ?_ ?_
    · simp [hrows, Json.modify]
    · rwa [checkKind, hother (by decide), ← checkKind]
    · rwa [checkSchema, hother (by decide), ← checkSchema]
  | bare hbare =>
    have hrows : Registry.withExecution name v (.obj rows) =
        .obj (rows.modify name (Entry.withExecution v)) := by
      simp only [Registry.withExecution, hbare, Option.isSome_none, Bool.false_eq_true, if_false,
        Json.modify]
    rw [hrows]
    exact .bare (by rw [Json.Fields.get?_modify, hbare, Option.map_none])

theorem readRows_withExecution {fields : Json.Fields} {rows : List (String × Entry)}
    (h : readRows fields = .ok rows) {v : Json} {execution : Execution}
    (hv : Execution.ofJson v = .ok execution) (name : String) :
    readRows (fields.modify name (Entry.withExecution v)) =
      .ok (rows.map fun row =>
        (row.1, if row.1 = name then row.2.runAs execution else row.2)) := by
  induction fields generalizing rows with
  | nil =>
    obtain rfl := Except.ok.inj h
    rfl
  | cons field rest ih =>
    obtain ⟨entry, others, hentry, hothers, rfl⟩ := readRows_cons_eq_ok_iff.1 h
    refine readRows_cons_eq_ok_iff.2 ⟨_, _, ?_, ih hothers, rfl⟩
    by_cases hname : field.1 = name
    · simp only [if_pos hname, Entry.ofJson_withExecution hentry, hv, Except.map]
    · simp only [if_neg hname, hentry]

theorem readRows_withExecution_error {fields : Json.Fields} {rows : List (String × Entry)}
    (h : readRows fields = .ok rows) {v : Json} {e : Json.Mismatch}
    (hv : Execution.ofJson v = .error e) {name : String} (hname : name ∈ fields.map Prod.fst) :
    readRows (fields.modify name (Entry.withExecution v)) = .error (.row name e) := by
  induction fields generalizing rows with
  | nil => cases hname
  | cons field rest ih =>
    obtain ⟨entry, others, hentry, hothers, -⟩ := readRows_cons_eq_ok_iff.1 h
    rw [Json.Fields.modify_cons, readRows]
    by_cases hfield : field.1 = name
    · rw [if_pos hfield, Entry.ofJson_withExecution hentry, hv, hfield]
      rfl
    · have hrest : name ∈ rest.map Prod.fst :=
        (List.mem_cons.1 hname).resolve_left (Ne.symm hfield)
      simp only [if_neg hfield, hentry, ih hothers hrest]

/-- What a registry with another value for the way of running of one function is read as:
the registry with that way of running, or none if it is no way of running. -/
theorem ofJson_withExecution {raw : Json} {registry : Registry} (h : ofJson raw = .ok registry)
    {name : String} {entry : Entry} (hget : registry.get? name = some entry) (v : Json) :
    ofJson (withExecution name v raw) =
      match Execution.ofJson v with
      | .ok execution => .ok (registry.insert name (entry.runAs execution))
      | .error e => .error (.row name e) := by
  obtain ⟨fields, hholds⟩ := exists_holds h
  rw [hholds.ofJson_eq] at h
  obtain ⟨rows, hrows, rfl⟩ := map_eq_ok_iff.1 h
  rw [(hholds.withExecution name v).ofJson_eq, ofRows]
  cases hv : Execution.ofJson v with
  | ok execution =>
    rw [readRows_withExecution hrows hv]
    refine congrArg Except.ok (Dict.ext_get? fun key => ?_)
    rw [Dict.get?_ofList_map fun key (entry : Entry) =>
      if key = name then entry.runAs execution else entry,
      Dict.get?_insert]
    by_cases hkey : key = name <;> simp [hkey, hget]
  | error e =>
    have hmem : name ∈ fields.map Prod.fst := by
      rw [← map_fst_of_readRows hrows]
      exact List.mem_map_of_mem (Dict.mem_of_mem_entries_ofList (Dict.get?_eq_some_iff.1 hget))
    rw [readRows_withExecution_error hrows hv hmem]
    rfl

end Registry

/-! ## What the gate says -/

/-- A function that runs in no way that is known is denied to all for that reason. -/
theorem Gate.grant_of_unsupported {entry : Entry} {kind : String}
    (h : entry.execution = .unsupported kind) (name : String) (caller : Caller)
    (settings : Settings) :
    grant name (some entry) caller settings = .error (.unsupportedKind name kind) := by
  simp only [grant, requireExecution, h]
  rfl

namespace Registry

/-- Whatever name or integer of sixty-four bits the way of running of one function is
replaced by, the registry is read, with every other entry as it was and this one with the
way of running that is meant; one that is not known is denied to all callers, with any
settings, for that reason.  With any other value the whole registry is not read. -/
theorem withExecution_iff_spelled {raw : Json} {registry : Registry}
    (h : ofJson raw = .ok registry) {name : String} {entry : Entry}
    (hget : registry.get? name = some entry) (v : Json) :
    (∀ execution, Execution.Spelled v execution →
      ∃ registry', ofJson (withExecution name v raw) = .ok registry' ∧
        registry'.get? name = some (entry.runAs execution) ∧
        (∀ other, other ≠ name → registry'.get? other = registry.get? other) ∧
        ∀ kind, execution = .unsupported kind → ∀ (caller : Caller) (settings : Settings),
          Gate.grant name (registry'.get? name) caller settings =
            .error (.unsupportedKind name kind)) ∧
    ((¬ ∃ execution, Execution.Spelled v execution) →
      ofJson (withExecution name v raw) = .error (.row name (.noReading "KindRepr"))) := by
  have hread := ofJson_withExecution h hget v
  constructor
  · intro execution hspelled
    rw [hspelled.ofJson] at hread
    have hself : (registry.insert name (entry.runAs execution)).get? name =
        some (entry.runAs execution) := by
      simp
    refine ⟨_, hread, hself, fun other hne => ?_, ?_⟩
    · simp [hne]
    · rintro kind rfl caller settings
      rw [hself]
      exact Gate.grant_of_unsupported rfl name caller settings
  · intro hnone
    rcases Execution.ofJson_cases v with ⟨execution, hspelled, -⟩ | ⟨-, herror⟩
    · exact absurd ⟨execution, hspelled⟩ hnone
    · rwa [herror] at hread

/-- An integer that means nothing is denied by its digits, and `null` is not read. -/
theorem withExecution_iff_spelled_mixedSpellings :
    ofJson mixedSpellings = .ok mixedRegistry ∧
      (∃ registry, ofJson (withExecution "greet" (.int (-1)) mixedSpellings) = .ok registry ∧
        registry.get? "odd one" = mixedRegistry.get? "odd one" ∧
        ∀ (caller : Caller) (settings : Settings),
          Gate.grant "greet" (registry.get? "greet") caller settings =
            .error (.unsupportedKind "greet" "-1")) ∧
      ofJson (withExecution "odd one" .null mixedSpellings) =
        .error (.row "odd one" (.noReading "KindRepr")) := by
  have hread : ofJson mixedSpellings = .ok mixedRegistry := rfl
  have hget : mixedRegistry.get? "greet" = some _ := rfl
  refine ⟨hread, ?_, ?_⟩
  · obtain ⟨registry, hregistry, -, hothers, hdenied⟩ :=
      (withExecution_iff_spelled hread hget (.int (-1))).1 (.unsupported "-1")
        (.otherCode (by decide) (by decide) (by decide))
    exact ⟨registry, hregistry, hothers "odd one" (by decide), hdenied "-1" rfl⟩
  · have hget : mixedRegistry.get? "odd one" = some _ := rfl
    exact (withExecution_iff_spelled hread hget .null).2 fun ⟨_, hspelled⟩ => nomatch hspelled

/-- A truth value for a way of running loses the whole registry. -/
theorem not_forall_withExecution_read :
    ¬ ∀ (raw : Json) (registry : Registry) (name : String) (entry : Entry) (v : Json),
      ofJson raw = .ok registry → registry.get? name = some entry →
      ∃ registry', ofJson (withExecution name v raw) = .ok registry' ∧
        ∀ other, other ≠ name → registry'.get? other = registry.get? other := by
  intro h
  obtain ⟨registry, hread, -⟩ := h mixedSpellings mixedRegistry "greet" _ (.bool true) rfl rfl
  cases hread

end Registry

end Switchboard
