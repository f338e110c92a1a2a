import Switchboard.Proofs.Checks
import Switchboard.Proofs.Json.Reading
import Switchboard.Proofs.Text.Trimming
import Switchboard.Registry.Reader

/-!
# Registries that are written and read again

A registry is read from many spellings and written in one.  What reading leaves
is in normal form: a way of running that its name means, a version of sixty-four
bits, and a set of trimmed methods or none.  An entry in normal form is read
back from its written form, in whatever order its fields stand.

## Main definitions

* `Entry.Normal`: the normal form of entries.
* `Entry.ReadFrom`: the fields that an entry is read from.
* `Registry.document`: a registry as a document.

## Main statements

* `Entry.normal_of_ofJson`: what is read is in normal form.
* `Entry.ofJson_toJson`: what is in normal form is read back.
* `Registry.ofJson_document`: a registry that was read is read back from its
  document.
-/

namespace Switchboard

/-! ## Ways of running -/

/-- An integer is written with digits, and a minus sign. -/
theorem Decimal.isDigit_or_minus_of_mem_intChars {n : Int} {c : Char} (h : c ∈ intChars n) :
    c.isDigit = true ∨ c = '-' := by
  cases n with
  | ofNat n => exact Or.inl (Nat.isDigit_of_mem_toDigits (by decide) (by decide) h)
  | negSucc n =>
    rcases List.mem_cons.1 h with rfl | h
    · exact Or.inr rfl
    · exact Or.inl (Nat.isDigit_of_mem_toDigits (by decide) (by decide) h)

namespace Execution

/-- The numeral of an integer has no letters, so it names no way of running. -/
@[simp] theorem ofName_intChars (n : Int) :
    ofName (String.ofList (Decimal.intChars n)) =
      unsupported (String.ofList (Decimal.intChars n)) := by
  have hletter : ∀ (word : String) (c : Char), c ∈ word.toList → ¬ (c.isDigit = true ∨ c = '-') →
      String.ofList (Decimal.intChars n) ≠ word := by
    rintro word c hmem hc rfl
    rw [String.toList_ofList] at hmem
    exact hc (Decimal.isDigit_or_minus_of_mem_intChars hmem)
  rw [ofName, if_neg (hletter "native" 'n' (by decide) (by decide)),
    if_neg (hletter "script" 's' (by decide) (by decide))]

@[simp] theorem ofName_name_ofName (name : String) : ofName (ofName name).name = ofName name := by
  by_cases hnative : name = "native"
  · subst hnative
    rfl
  · by_cases hscript : name = "script"
    · subst hscript
      rfl
    · have hname : ofName name = unsupported name := by
        rw [ofName, if_neg hnative, if_neg hscript]
      rw [hname]
      exact hname

@[simp] theorem ofName_name_ofCode (code : Int) : ofName (ofCode code).name = ofCode code := by
  unfold ofCode
  split
  · rfl
  · split
    · rfl
    · exact ofName_intChars code

/-- A way of running that was read is the one that its name means. -/
theorem ofName_name_of_ofJson {v : Json} {execution : Execution} (h : ofJson v = .ok execution) :
    ofName execution.name = execution := by
  unfold ofJson at h
  split at h
  · obtain rfl := Except.ok.inj h
    exact ofName_name_ofName _
  · split at h
    · obtain rfl := Except.ok.inj h
      exact ofName_name_ofCode _
    · cases h
  · cases h

end Execution

/-! ## Methods -/

namespace Entry

/-- The methods of a set are trimmed and not empty, and there are some. -/
def Trimmed (set : TextSet) : Prop :=
  set.keys ≠ [] ∧ ∀ method ∈ set.keys, method ≠ "" ∧ Text.trim method = method

@[simp] theorem isEmpty_eq_true_iff {set : TextSet} : set.isEmpty = true ↔ set.keys = [] := by
  simp [Dict.isEmpty, Dict.keys]

theorem trimmed_of_methodSet {listed : List String} {set : TextSet}
    (h : methodSet listed = some set) : Trimmed set := by
  simp only [methodSet] at h
  split at h
  · cases h
  · rename_i hne
    obtain rfl := Option.some.inj h
    refine ⟨mt isEmpty_eq_true_iff.2 hne, fun method hmem => ?_⟩
    have hlisted := TextSet.mem_keys_ofList.1 hmem
    rw [List.mem_filter, List.mem_map] at hlisted
    obtain ⟨⟨raw, -, rfl⟩, hfilled⟩ := hlisted
    exact ⟨by simpa using hfilled, Text.trim_trim raw⟩

/-- Trimmed methods stay as they are. -/
theorem methodSet_keys {set : TextSet} (h : Trimmed set) : methodSet set.keys = some set := by
  have hmap : set.keys.map Text.trim = set.keys :=
    (List.map_congr_left fun method hmem => (h.2 method hmem).2).trans (List.map_id _)
  have hfilter : (set.keys.filter fun method => !method.isEmpty) = set.keys :=
    List.filter_eq_self.2 fun method hmem => by simpa using (h.2 method hmem).1
  rw [methodSet, hmap, hfilter, TextSet.ofList_keys, if_neg (mt isEmpty_eq_true_iff.1 h.1)]

theorem trimmed_of_readMethods {v : Json} {set : TextSet} (h : readMethods v = .ok (some set)) :
    Trimmed set := by
  unfold readMethods at h
  split at h
  · cases h
  · exact trimmed_of_methodSet (Except.ok.inj h)
  · split at h
    · exact trimmed_of_methodSet (Except.ok.inj h)
    · cases h
  · cases h

@[simp] theorem mapM_str?_map_str (texts : List String) :
    (texts.map Json.str).mapM Json.str? = some texts := by
  induction texts with
  | nil => rfl
  | cons text rest ih => simp [Json.str?, ih]

/-- Methods are read back from the array of them. -/
theorem readMethods_texts {set : TextSet} (h : Trimmed set) :
    readMethods (Json.texts set.keys) = .ok (some set) := by
  simp only [Json.texts, readMethods, mapM_str?_map_str, methodSet_keys h]

end Entry

/-! ## Readers of parts -/

namespace Json

/-- An array of texts can be read back from text. -/
theorem readable_texts (depth : Nat) (items : List String) :
    Readable (depth + 1) (texts items) := by
  refine .arr fun v hmem => ?_
  obtain ⟨s, -, rfl⟩ := List.mem_map.1 hmem
  exact .str s

theorem isInt64_of_asInt64 {v : Json} {n : Int} (h : asInt64 v = .ok n) :
    Decimal.isInt64 n = true := by
  unfold asInt64 at h
  split at h
  · split at h
    · obtain rfl := Except.ok.inj h
      assumption
    · cases h
  · cases h

variable {α : Type} {default a : α} {read : Json → Except Mismatch α}

/-- What is read of a field is the default or read from a value. -/
theorem eq_or_of_fieldOr {fields : Fields} {name : String}
    (h : fieldOr fields name default read = .ok a) : a = default ∨ ∃ v, read v = .ok a := by
  unfold fieldOr at h
  split at h
  · exact Or.inr ⟨_, h⟩
  · exact Or.inl (Except.ok.inj h).symm

/-- What is read of an item is the default or read from a value. -/
theorem eq_or_of_itemOr {items : List Json} {index : Nat}
    (h : itemOr items index default read = .ok a) : a = default ∨ ∃ v, read v = .ok a := by
  unfold itemOr at h
  split at h
  · exact Or.inr ⟨_, h⟩
  · exact Or.inl (Except.ok.inj h).symm

end Json

/-! ## Entries in normal form -/

namespace Entry

/-- What reading an entry leaves. -/
structure Normal (entry : Entry) : Prop where
  execution : Execution.ofName entry.execution.name = entry.execution
  minVersion : Decimal.isInt64 entry.minVersion = true
  methods : ∀ set, entry.allowedMethods = some set → Trimmed set

/-- The fields from which an entry is read. -/
structure ReadFrom (fields : Json.Fields) (entry : Entry) : Prop where
  methods : Json.fieldOr fields "allowedCallerMethods" none readMethods = .ok entry.allowedMethods
  returns : Json.fieldOr fields "declaredReturnType" none readText = .ok entry.returns
  execution : Json.fieldOr fields "executionKind" none (fun v => (Execution.ofJson v).map some) =
    .ok (some entry.execution)
  minVersion : Json.fieldOr fields "minVersion" 0 Json.asInt64 = .ok entry.minVersion
  tag : Json.fieldOr fields "requiredTag" none readText = .ok entry.requiredTag
  source : Json.fieldOr fields "scriptSource" none readText = .ok entry.source

theorem ofFields_eq_ok_iff {fields : Json.Fields} {entry : Entry} :
    ofFields fields = .ok entry ↔ ReadFrom fields entry := by
  simp only [ofFields, bind_eq_ok_iff]
  constructor
  · rintro ⟨methods, hmethods, returns, hreturns, execution, hexecution, minVersion, hminVersion,
      tag, htag, source, hsource, hentry⟩
    cases execution with
    | none => cases hentry
    | some execution =>
      obtain rfl := Except.ok.inj hentry
      exact ⟨hmethods, hreturns, hexecution, hminVersion, htag, hsource⟩
  · intro h
    exact ⟨_, h.methods, _, h.returns, _, h.execution, _, h.minVersion, _, h.tag, _, h.source, rfl⟩

theorem normal_of_parts {entry : Entry} {execution : Option Execution}
    (hexecution : execution = none ∨ ∃ v, (Execution.ofJson v).map some = .ok execution)
    (hsome : execution = some entry.execution)
    (hminVersion : entry.minVersion = 0 ∨ ∃ v, Json.asInt64 v = .ok entry.minVersion)
    (hmethods : entry.allowedMethods = none ∨ ∃ v, readMethods v = .ok entry.allowedMethods) :
    Normal entry := by
  subst hsome
  refine ⟨?_, ?_, fun set hset => ?_⟩
  · obtain ⟨v, hv⟩ := hexecution.resolve_left (by simp)
    obtain ⟨execution, hread, heq⟩ := map_eq_ok_iff.1 hv
    exact Option.some.inj heq ▸ Execution.ofName_name_of_ofJson hread
  · rcases hminVersion with hzero | ⟨v, hv⟩
    · rw [hzero]
      rfl
    · exact Json.isInt64_of_asInt64 hv
  · rw [hset] at hmethods
    obtain ⟨v, hv⟩ := hmethods.resolve_left (by simp)
    exact trimmed_of_readMethods hv

/-- An entry that was read is in normal form. -/
theorem normal_of_ofJson {v : Json} {entry : Entry} (h : ofJson v = .ok entry) : Normal entry := by
  unfold ofJson at h
  split at h
  · rw [ofFields_eq_ok_iff] at h
    exact normal_of_parts (Json.eq_or_of_fieldOr h.execution) rfl
      (Json.eq_or_of_fieldOr h.minVersion) (Json.eq_or_of_fieldOr h.methods)
  · obtain ⟨execution, hexecution, h⟩ := bind_eq_ok_iff.1 h
    cases execution with
    | none => cases h
    | some execution =>
      simp only [bind_eq_ok_iff] at h
      obtain ⟨execution', hsome, minVersion, hminVersion, tag, -, methods, hmethods, returns, -,
        source, -, -, -, hentry⟩ := h
      obtain rfl := Except.ok.inj hentry
      exact normal_of_parts (Json.eq_or_of_itemOr hexecution)
        (congrArg some (Except.ok.inj hsome)) (Json.eq_or_of_itemOr hminVersion)
        (Json.eq_or_of_itemOr hmethods)
  · cases h

/-! ## Entries that are read back -/

def fields (entry : Entry) : Json.Fields :=
  [("executionKind", .str entry.execution.name), ("minVersion", .int entry.minVersion)] ++
    optionalField "requiredTag" (entry.requiredTag.map Json.str) ++
    optionalField "allowedCallerMethods"
      (entry.allowedMethods.map fun set => Json.texts set.keys) ++
    optionalField "declaredReturnType" (entry.returns.map Json.str) ++
    optionalField "scriptSource" (entry.source.map Json.str)

theorem toJson_eq (entry : Entry) : entry.toJson = .obj entry.fields := rfl

@[simp] theorem lookup_optionalField (name key : String) (v : Option Json) :
    (optionalField name v).lookup key = if key = name then v else none := by
  cases v with
  | none => simp [optionalField]
  | some v => simp [optionalField, Dict.lookup_cons_row]

/-- Fields that say what the written form of an entry says. -/
structure Spells (entry : Entry) (fields : Json.Fields) : Prop where
  execution : fields.get? "executionKind" = some (.str entry.execution.name)
  minVersion : fields.get? "minVersion" = some (.int entry.minVersion)
  tag : fields.get? "requiredTag" = entry.requiredTag.map Json.str
  methods : fields.get? "allowedCallerMethods" =
    entry.allowedMethods.map fun set => Json.texts set.keys
  returns : fields.get? "declaredReturnType" = entry.returns.map Json.str
  source : fields.get? "scriptSource" = entry.source.map Json.str

theorem spells_fields (entry : Entry) : entry.Spells entry.fields := by
  constructor <;>
    simp [Json.Fields.get?, fields, List.lookup_append, Dict.lookup_cons_row]

theorem nodup_fields (entry : Entry) : (entry.fields.map Prod.fst).Nodup := by
  unfold fields
  cases entry.requiredTag <;> cases entry.allowedMethods <;> cases entry.returns <;>
    cases entry.source <;> simp [optionalField]

end Entry

namespace Json

/-- A field that is there if there is a text is read as that text or none. -/
theorem fieldOr_text {fields : Fields} {name : String} {text : Option String}
    (h : fields.get? name = text.map Json.str) :
    fieldOr fields name none Entry.readText = .ok text := by
  rw [fieldOr, h]
  cases text <;> rfl

end Json

namespace Entry

/-- An entry in normal form is read from fields that spell it. -/
theorem Normal.readFrom {entry : Entry} (hnormal : Normal entry) {fields : Json.Fields}
    (h : entry.Spells fields) : ReadFrom fields entry where
  methods := by
    rw [Json.fieldOr, h.methods]
    cases hmethods : entry.allowedMethods with
    | none => rfl
    | some set => exact readMethods_texts (hnormal.methods set hmethods)
  returns := Json.fieldOr_text h.returns
  execution := by
    rw [Json.fieldOr, h.execution]
    exact congrArg (fun execution => Except.ok (some execution)) hnormal.execution
  minVersion := by
    rw [Json.fieldOr, h.minVersion]
    simp [Json.int, Json.asInt64, hnormal.minVersion]
  tag := Json.fieldOr_text h.tag
  source := Json.fieldOr_text h.source

/-- An entry in normal form is read back. -/
theorem ofJson_toJson {entry : Entry} (h : Normal entry) : ofJson entry.toJson = .ok entry :=
  ofFields_eq_ok_iff.2 (h.readFrom entry.spells_fields)

/-! ## Fields in key order -/

/-- Every field holds a text, the version or an array of texts. -/
theorem forall_mem_fields {entry : Entry} {P : Json → Prop} (htext : ∀ s, P (.str s))
    (hversion : P (.int entry.minVersion)) (htexts : ∀ items, P (Json.texts items)) :
    ∀ row ∈ entry.fields, P row.2 := by
  have hoptional : ∀ (name : String) (v : Option Json), (∀ w, v = some w → P w) →
      ∀ row ∈ optionalField name v, P row.2 := by
    intro name v hv row hmem
    cases v with
    | none => cases hmem
    | some w =>
      obtain rfl := List.mem_singleton.1 hmem
      exact hv w rfl
  have htextOf : ∀ (text : Option String) (w : Json), text.map Json.str = some w → P w := by
    intro text w hw
    obtain ⟨s, -, rfl⟩ := Option.map_eq_some_iff.1 hw
    exact htext s
  intro row h
  simp only [fields, List.mem_append] at h
  rcases h with (((hfirst | htag) | hmethods) | hreturns) | hsource
  · simp only [List.mem_cons, List.not_mem_nil, or_false] at hfirst
    rcases hfirst with rfl | rfl
    · exact htext _
    · exact hversion
  · exact hoptional _ _ (htextOf _) row htag
  · refine hoptional _ _ (fun w hw => ?_) row hmethods
    obtain ⟨set, -, rfl⟩ := Option.map_eq_some_iff.1 hw
    exact htexts set.keys
  · exact hoptional _ _ (htextOf _) row hreturns
  · exact hoptional _ _ (htextOf _) row hsource

theorem canonical_toJson (entry : Entry) :
    entry.toJson.canonical = .obj (Dict.ofList entry.fields).entries := by
  have hvalues : ∀ row ∈ entry.fields, row.2.canonical = row.2 :=
    @forall_mem_fields entry (fun v => v.canonical = v) (fun _ => rfl) rfl Json.canonical_texts
  have hfields : (entry.fields.map fun row => (row.1, row.2.canonical)) = entry.fields :=
    (List.map_congr_left fun row hmem => by rw [hvalues row hmem]; rfl).trans (List.map_id _)
  simp [toJson_eq, Json.canonical, hfields]

/-- Fields say the same in key order. -/
theorem spells_ofList_fields (entry : Entry) : entry.Spells (Dict.ofList entry.fields).entries := by
  have hget : ∀ key, Json.Fields.get? (Dict.ofList entry.fields).entries key =
      Json.Fields.get? entry.fields key := Dict.get?_ofList entry.nodup_fields
  have h := entry.spells_fields
  constructor <;> rw [hget]
  exacts [h.execution, h.minVersion, h.tag, h.methods, h.returns, h.source]

theorem ofJson_canonical_toJson {entry : Entry} (h : Normal entry) :
    ofJson entry.toJson.canonical = .ok entry := by
  rw [canonical_toJson]
  exact ofFields_eq_ok_iff.2 (h.readFrom entry.spells_ofList_fields)

/-- The written form of an entry can be read back from text. -/
theorem readable_toJson {entry : Entry} (h : Decimal.isInt64 entry.minVersion = true)
    (depth : Nat) : Json.Readable (depth + 2) entry.toJson :=
  .obj (forall_mem_fields (fun s => .str s) (.int (Json.fitsNumeral_of_isInt64 h))
    fun items => Json.readable_texts depth items)

end Entry

/-! ## Registries -/

namespace Registry

/-- Every entry is in normal form. -/
def Normal (registry : Registry) : Prop :=
  ∀ row ∈ registry.entries, row.2.Normal

theorem readRows_eq_ok {fields : Json.Fields} {rows : List (String × Entry)}
    (h : readRows fields = .ok rows) : ∀ row ∈ rows, row.2.Normal := by
  induction fields generalizing rows with
  | nil =>
    obtain rfl := Except.ok.inj h
    exact fun row hmem => absurd hmem List.not_mem_nil
  | cons field rest ih =>
    rw [readRows] at h
    split at h
    · cases h
    · rename_i entry hentry
      split at h
      · cases h
      · rename_i others hothers
        obtain rfl := Except.ok.inj h
        exact List.forall_mem_cons.2 ⟨Entry.normal_of_ofJson hentry, ih hothers⟩

theorem normal_of_ofRows {v : Json} {registry : Registry} (h : ofRows v = .ok registry) :
    Normal registry := by
  cases v with
  | obj fields =>
    obtain ⟨rows, hrows, rfl⟩ := map_eq_ok_iff.1 h
    exact fun row hmem => readRows_eq_ok hrows row (Dict.mem_of_mem_entries_ofList hmem)
  | _ => cases h

/-- A registry that was read is in normal form. -/
theorem normal_of_ofJson {raw : Json} {registry : Registry} (h : ofJson raw = .ok registry) :
    Normal registry := by
  unfold ofJson at h
  split at h
  · split at h
    · simp only [bind_eq_ok_iff] at h
      obtain ⟨-, -, -, -, hrows⟩ := h
      exact normal_of_ofRows hrows
    · exact normal_of_ofRows h
  · cases h

/-- Rows of entries that are read back are read as the registry of them. -/
theorem ofRows_entries {registry : Registry} {write : Entry → Json}
    (h : ∀ row ∈ registry.entries, Entry.ofJson (write row.2) = .ok row.2) :
    ofRows (.obj (registry.entries.map fun row => (row.1, write row.2))) = .ok registry := by
  have hrows : ∀ rows : List (String × Entry),
      (∀ row ∈ rows, Entry.ofJson (write row.2) = .ok row.2) →
      readRows (rows.map fun row => (row.1, write row.2)) = .ok rows := by
    intro rows hread
    induction rows with
    | nil => rfl
    | cons row rest ih =>
      rw [List.forall_mem_cons] at hread
      simp only [List.map_cons, readRows, hread.1, ih hread.2]
  rw [ofRows, hrows registry.entries h]
  exact congrArg Except.ok registry.ofList_entries

theorem Normal.ofRows_toJson {registry : Registry} (h : Normal registry) :
    ofRows registry.toJson = .ok registry :=
  ofRows_entries fun row hmem => Entry.ofJson_toJson (h row hmem)

theorem canonical_toJson (registry : Registry) :
    registry.toJson.canonical =
      .obj (registry.entries.map fun row => (row.1, row.2.toJson.canonical)) := by
  have hsorted : (registry.entries.map fun row => (row.1, row.2.toJson.canonical)).Pairwise
      (fun a b => a.1 < b.1) := List.pairwise_map.2 registry.sorted
  rw [toJson, Json.canonical, Json.canonicalFields_eq_map, List.map_map]
  exact congrArg Json.obj (Dict.entries_ofList hsorted)

theorem Normal.ofRows_canonical_toJson {registry : Registry} (h : Normal registry) :
    ofRows registry.toJson.canonical = .ok registry := by
  rw [canonical_toJson]
  exact @ofRows_entries registry (fun entry => entry.toJson.canonical)
    fun row hmem => Entry.ofJson_canonical_toJson (h row hmem)

/-- The document that holds a registry and says nothing else. -/
def document (registry : Registry) : Json :=
  .obj [("functions", registry.toJson)]

/-- A document that says nothing of itself is read as its rows. -/
@[simp] theorem ofJson_functions (v : Json) : ofJson (.obj [("functions", v)]) = ofRows v := rfl

@[simp] theorem canonical_document (registry : Registry) :
    registry.document.canonical = .obj [("functions", registry.toJson.canonical)] := rfl

/-- The written form of a registry can be read back from text. -/
theorem readable_toJson {registry : Registry}
    (h : ∀ row ∈ registry.entries, Decimal.isInt64 row.2.minVersion = true) (depth : Nat) :
    Json.Readable (depth + 3) registry.toJson := by
  refine .obj fun row hrow => ?_
  obtain ⟨row, hmem, rfl⟩ := List.mem_map.1 hrow
  exact Entry.readable_toJson (h row hmem) depth

/-- A document and all that it holds can be read back from text. -/
theorem Normal.readable_document {registry : Registry} (h : Normal registry) (depth : Nat) :
    Json.Readable (depth + 4) registry.document := by
  refine .obj fun row hrow => ?_
  obtain rfl := List.mem_singleton.1 hrow
  exact readable_toJson (fun row hmem => (h row hmem).minVersion) depth

/-- A registry that was read, whatever its spelling, is read back from the
document of it: with the fields as they are written or in key order, and so from
the text of the document. -/
theorem ofJson_document {raw : Json} {registry : Registry} (h : ofJson raw = .ok registry) :
    ofJson registry.document = .ok registry ∧
      ofJson registry.document.canonical = .ok registry ∧
      Json.parse? registry.document.compact = some registry.document.canonical := by
  have hnormal := normal_of_ofJson h
  refine ⟨?_, ?_, Json.parse?_compact (hnormal.readable_document 123)⟩
  · simp [document, hnormal.ofRows_toJson]
  · simp [hnormal.ofRows_canonical_toJson]

/-- A document with one row of fields and one of items, and methods in one text
and in a list. -/
def mixedSpellings : Json :=
  .obj [("functions", .obj [
      ("greet", .obj [("allowedCallerMethods", .str " GET, post ,"), ("executionKind", .int 1),
        ("requiredTag", .null), ("scriptSource", .str "fn greet() \x7b 1 \x7d")]),
      ("odd one", .arr [.int 7, .int (-2), .str "Moment", .arr [.str "\tPUT", .str " "]])]),
    ("schema", .int 1)]

/-- The registry that the document spells. -/
def mixedRegistry : Registry :=
  Dict.ofList [("greet", { Entry.script "fn greet() \x7b 1 \x7d" with
      allowedMethods := some (TextSet.ofList ["GET", "post"]) }),
    ("odd one", { Entry.native with
      execution := .unsupported "7", minVersion := -2, requiredTag := some "Moment",
      allowedMethods := some (TextSet.ofList ["PUT"]) })]

/-- A way of running that is a number no one knows is read back by its name. -/
theorem ofJson_document_mixedSpellings :
    ofJson mixedSpellings = .ok mixedRegistry ∧
      ofJson mixedRegistry.document = .ok mixedRegistry ∧
      ofJson mixedRegistry.document.canonical = .ok mixedRegistry ∧
      Json.parse? mixedRegistry.document.compact = some mixedRegistry.document.canonical :=
  ⟨rfl, ofJson_document (rfl : ofJson mixedSpellings = .ok mixedRegistry)⟩

end Registry

end Switchboard
