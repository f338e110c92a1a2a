import Switchboard.Proofs.Registry.RoundTrip

/-!
# Registries given in another order

The functions of a registry, the fields of an entry and the methods of callers can be
given in any order, and the methods also in one text instead of a list.  No order is
kept: what is read depends on what is given only.

## Main definitions

* `Entry.Reordered`, `Registry.Reordered`: the same entry and the same rows in another
  order.
* `Registry.Holds`: the rows that a value is read from.

## Main statements

* `Entry.ofJson_congr`: an entry is read in one way in every order.
* `Registry.ofJson_congr`: so is a registry.
-/

namespace Switchboard

namespace Entry

/-! ## Methods -/

/-- The methods that a value lists, as they are given. -/
inductive Lists : Json → List String → Prop
  | array (listed : List String) : Lists (Json.texts listed) listed
  | text (joined : String) : Lists (.str joined) (splitMethods joined)

/-- Two values list the same methods. -/
def SameMethods (v v' : Json) : Prop :=
  ∃ listed listed', Lists v listed ∧ Lists v' listed' ∧ ∀ method, method ∈ listed ↔ method ∈ listed'

theorem Lists.readMethods {v : Json} {listed : List String} (h : Lists v listed) :
    readMethods v = .ok (methodSet listed) := by
  cases h with
  | array => simp only [Json.texts, Entry.readMethods, mapM_str?_map_str]
  | text => rfl

theorem methodSet_congr {listed listed' : List String}
    (h : ∀ method, method ∈ listed ↔ method ∈ listed') : methodSet listed = methodSet listed' := by
  have hset : TextSet.ofList ((listed.map Text.trim).filter fun method => !method.isEmpty) =
      TextSet.ofList ((listed'.map Text.trim).filter fun method => !method.isEmpty) :=
    TextSet.ofList_congr fun method => by simp only [List.mem_filter, List.mem_map, h]
  simp only [methodSet, hset]

theorem SameMethods.readMethods {v v' : Json} (h : SameMethods v v') :
    readMethods v = readMethods v' := by
  obtain ⟨listed, listed', hlists, hlists', hmem⟩ := h
  rw [hlists.readMethods, hlists'.readMethods, methodSet_congr hmem]

/-! ## Entries -/

/-- An entry in another order of its fields, none of them given twice, or with its
methods listed in another way. -/
inductive Reordered : Json → Json → Prop
  | refl (v : Json) : Reordered v v
  | fields {fields fields' : Json.Fields} (hperm : fields.Perm fields')
      (hdistinct : (fields.map Prod.fst).Nodup) : Reordered (.obj fields) (.obj fields')
  | methods {v v' : Json} (h : SameMethods v v') (before after : Json.Fields) :
      Reordered (.obj (before ++ ("allowedCallerMethods", v) :: after))
        (.obj (before ++ ("allowedCallerMethods", v') :: after))
  | item {v v' : Json} (h : SameMethods v v') (execution minVersion tag : Json)
      (after : List Json) :
      Reordered (.arr (execution :: minVersion :: tag :: v :: after))
        (.arr (execution :: minVersion :: tag :: v' :: after))
  | trans {v v' v'' : Json} (h : Reordered v v') (h' : Reordered v' v'') : Reordered v v''

theorem ofFields_perm {fields fields' : Json.Fields} (hperm : fields.Perm fields')
    (hdistinct : (fields.map Prod.fst).Nodup) : ofFields fields = ofFields fields' := by
  have hget : ∀ name, fields.get? name = fields'.get? name := Dict.lookup_perm hperm hdistinct
  simp only [ofFields, Json.fieldOr, hget]

theorem ofFields_methods {v v' : Json} (h : readMethods v = readMethods v')
    (before after : Json.Fields) :
    ofFields (before ++ ("allowedCallerMethods", v) :: after) =
      ofFields (before ++ ("allowedCallerMethods", v') :: after) := by
  have hmethods : Json.fieldOr (before ++ ("allowedCallerMethods", v) :: after)
        "allowedCallerMethods" none readMethods =
      Json.fieldOr (before ++ ("allowedCallerMethods", v') :: after)
        "allowedCallerMethods" none readMethods := by
    simp only [Json.fieldOr, Json.Fields.get?, List.lookup_append, Dict.lookup_cons_row, if_true]
    cases before.lookup "allowedCallerMethods" with
    | none => exact h
    | some w => rfl
  have hother : ∀ name, name ≠ "allowedCallerMethods" →
      Json.Fields.get? (before ++ ("allowedCallerMethods", v) :: after) name =
        Json.Fields.get? (before ++ ("allowedCallerMethods", v') :: after) name := by
    intro name hne
    simp only [Json.Fields.get?, List.lookup_append, Dict.lookup_cons_row, if_neg hne]
  unfold ofFields
  rw [hmethods]
  simp only [Json.fieldOr, hother "declaredReturnType" (by decide),
    hother "executionKind" (by decide), hother "minVersion" (by decide),
    hother "requiredTag" (by decide), hother "scriptSource" (by decide)]

theorem ofItems_methods {v v' : Json} (h : readMethods v = readMethods v')
    (execution minVersion tag : Json) (after : List Json) :
    ofItems (execution :: minVersion :: tag :: v :: after) =
      ofItems (execution :: minVersion :: tag :: v' :: after) := by
  simp only [ofItems, Json.itemOr, Json.atMost, List.getElem?_cons_zero, List.getElem?_cons_succ,
    List.length_cons, h]

/-- An entry is read in one way in every order. -/
theorem ofJson_congr {v v' : Json} (h : Reordered v v') : ofJson v = ofJson v' := by
  induction h with
  | refl => rfl
  | fields hperm hdistinct => exact ofFields_perm hperm hdistinct
  | methods h before after => exact ofFields_methods h.readMethods before after
  | item h execution minVersion tag after =>
    exact ofItems_methods h.readMethods execution minVersion tag after
  | trans _ _ ih ih' => exact ih.trans ih'

end Entry

/-! ## Registries -/

namespace Registry

/-- The same rows in another order, each with its entry in any order. -/
inductive Reordered : Json.Fields → Json.Fields → Prop
  | nil : Reordered [] []
  | cons {v v' : Json} {rows rows' : Json.Fields} (name : String) (h : Entry.Reordered v v')
      (hrest : Reordered rows rows') : Reordered ((name, v) :: rows) ((name, v') :: rows')
  | swap (row row' : String × Json) (rows : Json.Fields) :
      Reordered (row :: row' :: rows) (row' :: row :: rows)
  | trans {rows rows' rows'' : Json.Fields} (h : Reordered rows rows')
      (h' : Reordered rows' rows'') : Reordered rows rows''

/-- The rows that a value is read from: those of a document, or those that it is. -/
inductive Holds : Json → Json.Fields → Prop
  | document {fields rows : Json.Fields} (hrows : fields.get? "functions" = some (.obj rows))
      (hkind : checkKind fields = .ok ()) (hschema : checkSchema fields = .ok ()) :
      Holds (.obj fields) rows
  | bare {rows : Json.Fields} (hbare : rows.get? "functions" = none) : Holds (.obj rows) rows

theorem Holds.ofJson_eq {raw : Json} {rows : Json.Fields} (h : Holds raw rows) :
    ofJson raw = ofRows (.obj rows) := by
  cases h with
  | document hrows hkind hschema =>
    simp only [ofJson, hrows, hkind, hschema]
    rfl
  | bare hbare => simp only [ofJson, hbare]

/-- What is read is read from some rows. -/
theorem exists_holds {raw : Json} {registry : Registry} (h : ofJson raw = .ok registry) :
    ∃ rows, Holds raw rows := by
  cases raw with
  | obj fields =>
    cases hget : Json.Fields.get? fields "functions" with
    | none => exact ⟨fields, .bare hget⟩
    | some functions =>
      simp only [ofJson, hget, bind_eq_ok_iff] at h
      obtain ⟨⟨⟩, hkind, ⟨⟩, hschema, hrows⟩ := h
      cases functions with
      | obj rows => exact ⟨rows, .document hget hkind hschema⟩
      | _ => cases hrows
  | _ => cases h

theorem readRows_cons_eq_ok_iff {name : String} {v : Json} {fields : Json.Fields}
    {rows : List (String × Entry)} :
    readRows ((name, v) :: fields) = .ok rows ↔
      ∃ entry rest, Entry.ofJson v = .ok entry ∧ readRows fields = .ok rest ∧
        rows = (name, entry) :: rest := by
  rw [readRows]
  cases Entry.ofJson v with
  | error e => simp
  | ok entry => cases readRows fields <;> simp [eq_comm]

theorem map_fst_of_readRows {fields : Json.Fields} {rows : List (String × Entry)}
    (h : readRows fields = .ok rows) : rows.map Prod.fst = fields.map Prod.fst := by
  induction fields generalizing rows with
  | nil =>
    obtain rfl := Except.ok.inj h
    rfl
  | cons field fields ih =>
    obtain ⟨entry, rest, -, hrest, rfl⟩ := readRows_cons_eq_ok_iff.1 h
    rw [List.map_cons, List.map_cons, ih hrest]

/-- Rows in another order are read as the same entries in that order. -/
theorem Reordered.exists_readRows {fields fields' : Json.Fields} (h : Reordered fields fields')
    {rows : List (String × Entry)} (hread : readRows fields = .ok rows) :
    ∃ rows', readRows fields' = .ok rows' ∧ rows.Perm rows' := by
  induction h generalizing rows with
  | nil => exact ⟨rows, hread, .refl rows⟩
  | cons name h hrest ih =>
    obtain ⟨entry, rest, hentry, hreadRest, rfl⟩ := readRows_cons_eq_ok_iff.1 hread
    obtain ⟨rest', hreadRest', hperm⟩ := ih hreadRest
    exact ⟨_, readRows_cons_eq_ok_iff.2
      ⟨entry, rest', (Entry.ofJson_congr h).symm.trans hentry, hreadRest', rfl⟩, hperm.cons _⟩
  | swap row row' rows =>
    obtain ⟨entry, rest, hentry, hreadRest, rfl⟩ := readRows_cons_eq_ok_iff.1 hread
    obtain ⟨entry', rest', hentry', hreadRest', rfl⟩ := readRows_cons_eq_ok_iff.1 hreadRest
    exact ⟨_, readRows_cons_eq_ok_iff.2 ⟨entry', _, hentry',
      readRows_cons_eq_ok_iff.2 ⟨entry, rest', hentry, hreadRest', rfl⟩, rfl⟩, .swap _ _ _⟩
  | trans _ _ ih ih' =>
    obtain ⟨rows', hread', hperm⟩ := ih hread
    obtain ⟨rows'', hread'', hperm'⟩ := ih' hread'
    exact ⟨rows'', hread'', hperm.trans hperm'⟩

theorem Reordered.ofRows_eq_ok {fields fields' : Json.Fields} (h : Reordered fields fields')
    (hdistinct : (fields.map Prod.fst).Nodup) {registry : Registry}
    (hread : ofRows (.obj fields) = .ok registry) : ofRows (.obj fields') = .ok registry := by
  obtain ⟨rows, hrows, rfl⟩ := map_eq_ok_iff.1 hread
  obtain ⟨rows', hrows', hperm⟩ := h.exists_readRows hrows
  have hnames : (rows.map Prod.fst).Nodup := (map_fst_of_readRows hrows).symm ▸ hdistinct
  exact map_eq_ok_iff.2 ⟨rows', hrows', (Dict.ofList_perm hperm hnames).symm⟩

/-- A registry is read in one way in every order, with a frame around it and without. -/
theorem ofJson_congr {raw raw' : Json} {rows rows' : Json.Fields} (hholds : Holds raw rows)
    (hholds' : Holds raw' rows') (h : Reordered rows rows')
    (hdistinct : (rows.map Prod.fst).Nodup) {registry : Registry}
    (hread : ofJson raw = .ok registry) : ofJson raw' = .ok registry := by
  rw [hholds.ofJson_eq] at hread
  rw [hholds'.ofJson_eq]
  exact h.ofRows_eq_ok hdistinct hread

end Registry

end Switchboard
