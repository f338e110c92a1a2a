/-!
# Dictionaries kept in key order

A `Dict α` holds entries under distinct texts, in increasing order of the
texts by code point.  The order is a field of the type, so two dictionaries
with the same look-ups are equal and whatever is printed from one comes out
in one way.

## Main definitions

* `Dict.get? d k`: the entry under `k`.
* `Dict.insert d k a`: `d` with `a` under `k`, replacing what was there.
* `Dict.ofList rows`: the rows inserted one after another, so the last wins.
* `TextSet`: a set of texts.

## Main statements

* `Dict.get?_insert`: what is looked up behind an insertion.
* `Dict.ext_get?`: dictionaries with the same look-ups are equal.
* `Dict.get?_ofList`: what is looked up among rows under distinct keys.
* `Dict.ofList_perm`: the order of such rows does not matter.
* `Dict.ofList_entries`: a dictionary is made of its entries.
-/

namespace Switchboard

/-- Entries under distinct texts, in increasing order of the texts. -/
structure Dict (α : Type) where
  entries : List (String × α)
  sorted : entries.Pairwise (fun a b => a.1 < b.1)
deriving DecidableEq

namespace Dict

variable {α : Type}

def empty : Dict α :=
  ⟨[], List.Pairwise.nil⟩

instance : Inhabited (Dict α) := ⟨empty⟩

def get? (d : Dict α) (key : String) : Option α :=
  d.entries.lookup key

/-- The keys in increasing order. -/
def keys (d : Dict α) : List String :=
  d.entries.map Prod.fst

def size (d : Dict α) : Nat :=
  d.entries.length

def isEmpty (d : Dict α) : Bool :=
  d.entries.isEmpty

/-! ## Insertion -/

/-- Put a row into rows in key order, in place of the row with its key. -/
def insertRow (key : String) (a : α) : List (String × α) → List (String × α)
  | [] => [(key, a)]
  | row :: rest =>
    if key < row.1 then (key, a) :: row :: rest
    else if key = row.1 then (key, a) :: rest
    else row :: insertRow key a rest

/-- Every key of the result is the new one or was there before. -/
theorem fst_mem_insertRow {key : String} {a : α} {rows : List (String × α)}
    {x : String × α} (h : x ∈ insertRow key a rows) :
    x.1 = key ∨ x ∈ rows := by
  induction rows with
  | nil => simp_all [insertRow]
  | cons row rest ih =>
    unfold insertRow at h
    split at h
    · simp only [List.mem_cons] at h ⊢
      rcases h with rfl | h
      · exact Or.inl rfl
      · exact Or.inr h
    · split at h
      · simp only [List.mem_cons] at h ⊢
        rcases h with rfl | h
        · exact Or.inl rfl
        · exact Or.inr (Or.inr h)
      · simp only [List.mem_cons] at h ⊢
        rcases h with rfl | h
        · exact Or.inr (Or.inl rfl)
        · rcases ih h with h | h
          · exact Or.inl h
          · exact Or.inr (Or.inr h)

/-- Of two distinct texts one comes first. -/
theorem lt_of_not_lt_of_ne {s t : String} (h : ¬ s < t) (hne : ¬ s = t) : t < s := by
  rcases String.le_total s t with hle | hle
  · exact absurd (String.le_antisymm hle (String.not_lt.1 h)) hne
  · exact String.not_le.1 fun hst => hne (String.le_antisymm hst hle)

theorem sorted_insertRow (key : String) (a : α) {rows : List (String × α)}
    (h : rows.Pairwise (fun a b => a.1 < b.1)) :
    (insertRow key a rows).Pairwise (fun a b => a.1 < b.1) := by
  induction rows with
  | nil => simp [insertRow]
  | cons row rest ih =>
    rw [List.pairwise_cons] at h
    unfold insertRow
    split
    · rename_i hlt
      refine List.pairwise_cons.2 ⟨?_, List.pairwise_cons.2 h⟩
      intro b hb
      rcases List.mem_cons.1 hb with rfl | hb
      · exact hlt
      · exact String.lt_trans hlt (h.1 b hb)
    · split
      · rename_i heq
        exact List.pairwise_cons.2 ⟨fun b hb => heq ▸ h.1 b hb, h.2⟩
      · rename_i hlt heq
        refine List.pairwise_cons.2 ⟨?_, ih h.2⟩
        intro b hb
        rcases fst_mem_insertRow hb with hb | hb
        · exact hb ▸ lt_of_not_lt_of_ne hlt heq
        · exact h.1 b hb

def insert (d : Dict α) (key : String) (a : α) : Dict α :=
  ⟨insertRow key a d.entries, sorted_insertRow key a d.sorted⟩

/-- The rows inserted one after another, so that of two rows under one key
the later counts. -/
def ofList (rows : List (String × α)) : Dict α :=
  rows.foldl (fun d row => d.insert row.1 row.2) empty

/-! ## Look-ups -/

@[simp] theorem get?_empty (key : String) : (empty : Dict α).get? key = none := rfl

/-- A look-up compares with the first row and goes on behind it. -/
theorem lookup_cons_row (key : String) (row : String × α) (rest : List (String × α)) :
    (row :: rest).lookup key = if key = row.1 then some row.2 else rest.lookup key := by
  obtain ⟨k, a⟩ := row
  rw [List.lookup_cons]
  by_cases h : key = k
  · simp [h]
  · have hne : (key == k) = false := beq_eq_false_iff_ne.2 h
    simp [h, hne]

/-- A look-up behind an insertion finds the new row under its key and the old
ones elsewhere. -/
@[simp] theorem lookup_insertRow (key l : String) (a : α) (rows : List (String × α)) :
    (insertRow key a rows).lookup l = if l = key then some a else rows.lookup l := by
  induction rows with
  | nil => simp [insertRow, lookup_cons_row]
  | cons row rest ih =>
    unfold insertRow
    split
    · rw [lookup_cons_row]
    · split
      · rename_i heq
        by_cases h : l = key
        · simp [h]
        · simp [lookup_cons_row, h, heq ▸ h]
      · rename_i hne
        rw [lookup_cons_row, lookup_cons_row, ih]
        by_cases h : l = row.1
        · have hl : l ≠ key := fun he => hne (he ▸ h)
          simp [h] at hl ⊢
          simp [hl]
        · simp [h]

/-- A look-up behind an insertion finds the new entry under its key and the old
ones elsewhere. -/
@[simp] theorem get?_insert (d : Dict α) (key l : String) (a : α) :
    (d.insert key a).get? l = if l = key then some a else d.get? l :=
  lookup_insertRow key l a d.entries

/-- A look-up among distinct keys finds exactly the rows. -/
theorem lookup_eq_some_iff {rows : List (String × α)} (h : (rows.map Prod.fst).Nodup)
    {key : String} {a : α} : rows.lookup key = some a ↔ (key, a) ∈ rows := by
  induction rows with
  | nil => simp
  | cons row rest ih =>
    rw [List.map_cons, List.nodup_cons] at h
    rw [lookup_cons_row, List.mem_cons]
    by_cases hk : key = row.1
    · have hrest : (key, a) ∉ rest := fun hm => h.1 (hk ▸ List.mem_map_of_mem hm)
      simp [hk, Prod.ext_iff, eq_comm] at hrest ⊢
      simp [hrest]
    · have hrow : (key, a) ≠ row := fun he => hk (he ▸ rfl)
      simp [hk, ih h.2, hrow]

/-- The order of rows under distinct keys does not matter to a look-up. -/
theorem lookup_perm {rows rows' : List (String × α)} (h : rows.Perm rows')
    (hdistinct : (rows.map Prod.fst).Nodup) (key : String) :
    rows.lookup key = rows'.lookup key := by
  refine Option.ext fun a => ?_
  rw [lookup_eq_some_iff hdistinct, lookup_eq_some_iff ((h.map Prod.fst).nodup hdistinct),
    h.mem_iff]

/-- The keys are distinct. -/
theorem nodup_keys (d : Dict α) : d.keys.Nodup := by
  refine List.pairwise_map.2 (d.sorted.imp ?_)
  intro a b hlt heq
  exact String.lt_irrefl a.1 (heq ▸ hlt)

/-- A look-up finds exactly the entries. -/
theorem get?_eq_some_iff {d : Dict α} {key : String} {a : α} :
    d.get? key = some a ↔ (key, a) ∈ d.entries :=
  lookup_eq_some_iff d.nodup_keys

/-- Rows in key order are determined by their members. -/
theorem eq_of_mem_iff {rows rows' : List (String × α)}
    (h : rows.Pairwise (fun a b => a.1 < b.1)) (h' : rows'.Pairwise (fun a b => a.1 < b.1))
    (hmem : ∀ x, x ∈ rows ↔ x ∈ rows') : rows = rows' := by
  induction rows generalizing rows' with
  | nil => cases rows' with
    | nil => rfl
    | cons row rest => exact absurd ((hmem row).2 (by simp)) (by simp)
  | cons row rest ih =>
    cases rows' with
    | nil => exact absurd ((hmem row).1 (by simp)) (by simp)
    | cons row' rest' =>
      rw [List.pairwise_cons] at h h'
      have hrow : row = row' := by
        rcases List.mem_cons.1 ((hmem row).1 (by simp)) with he | hm
        · exact he
        · rcases List.mem_cons.1 ((hmem row').2 (by simp)) with he | hm'
          · exact he.symm
          · exact absurd (String.lt_trans (h.1 _ hm') (h'.1 _ hm)) (String.lt_irrefl _)
      subst hrow
      congr 1
      refine ih h.2 h'.2 fun x => ⟨fun hx => ?_, fun hx => ?_⟩
      · rcases List.mem_cons.1 ((hmem x).1 (List.mem_cons_of_mem _ hx)) with he | hm
        · exact absurd (he ▸ h.1 _ hx) (String.lt_irrefl _)
        · exact hm
      · rcases List.mem_cons.1 ((hmem x).2 (List.mem_cons_of_mem _ hx)) with he | hm
        · exact absurd (he ▸ h'.1 _ hx) (String.lt_irrefl _)
        · exact hm

/-- Dictionaries with the same look-ups are equal. -/
@[ext] theorem ext_get? {d d' : Dict α} (h : ∀ key, d.get? key = d'.get? key) : d = d' := by
  have hentries : d.entries = d'.entries := by
    refine eq_of_mem_iff d.sorted d'.sorted fun x => ?_
    rw [← get?_eq_some_iff (d := d), ← get?_eq_some_iff (d := d'), h]
  cases d; cases d'; simp_all

/-! ## Rows in a list -/

/-- Behind rows under distinct keys a look-up finds the row of its key, if there
is one, and else what was there. -/
theorem get?_foldl_insert {rows : List (String × α)} (h : (rows.map Prod.fst).Nodup)
    (d : Dict α) (key : String) :
    (rows.foldl (fun d row => d.insert row.1 row.2) d).get? key =
      (rows.lookup key).or (d.get? key) := by
  induction rows generalizing d with
  | nil => rfl
  | cons row rest ih =>
    rw [List.map_cons, List.nodup_cons] at h
    rw [List.foldl_cons, ih h.2, get?_insert, lookup_cons_row]
    by_cases hkey : key = row.1
    · have hrest : rest.lookup key = none := by
        rw [List.lookup_eq_none_iff]
        intro other hother
        have hne : key ≠ other.1 := fun heq =>
          h.1 (hkey ▸ heq ▸ List.mem_map_of_mem hother)
        simpa using hne
      simp [hkey, hkey ▸ hrest]
    · simp [hkey]

/-- Among rows under distinct keys a look-up finds the row of its key. -/
theorem get?_ofList {rows : List (String × α)} (h : (rows.map Prod.fst).Nodup) (key : String) :
    (ofList rows).get? key = rows.lookup key := by
  simp [ofList, get?_foldl_insert h]

/-- The order of rows under distinct keys does not matter to the dictionary of them. -/
theorem ofList_perm {rows rows' : List (String × α)} (h : rows.Perm rows')
    (hdistinct : (rows.map Prod.fst).Nodup) : ofList rows = ofList rows' := by
  refine ext_get? fun key => ?_
  rw [get?_ofList hdistinct, get?_ofList ((h.map Prod.fst).nodup hdistinct),
    lookup_perm h hdistinct]

/-- A dictionary is made of its entries. -/
@[simp] theorem ofList_entries (d : Dict α) : ofList d.entries = d :=
  ext_get? fun key => get?_ofList d.nodup_keys key

/-- Rows in key order are the entries of what is made of them. -/
theorem entries_ofList {rows : List (String × α)} (h : rows.Pairwise (fun a b => a.1 < b.1)) :
    (ofList rows).entries = rows :=
  congrArg entries (ofList_entries ⟨rows, h⟩)

/-- What is looked up behind rows is in one of them or was there before. -/
theorem mem_or_of_get?_foldl_insert {rows : List (String × α)} {d : Dict α} {key : String} {a : α}
    (h : (rows.foldl (fun d row => d.insert row.1 row.2) d).get? key = some a) :
    (key, a) ∈ rows ∨ d.get? key = some a := by
  induction rows generalizing d with
  | nil => exact Or.inr h
  | cons row rest ih =>
    rcases ih h with hmem | hget
    · exact Or.inl (List.mem_cons_of_mem _ hmem)
    · rw [get?_insert] at hget
      split at hget
      · rename_i heq
        obtain rfl := Option.some.inj hget
        exact Or.inl (heq ▸ List.mem_cons_self)
      · exact Or.inr hget

/-- Every entry is one of the rows that the dictionary is made of. -/
theorem mem_of_mem_entries_ofList {rows : List (String × α)} {entry : String × α}
    (h : entry ∈ (ofList rows).entries) : entry ∈ rows := by
  have hget : (ofList rows).get? entry.1 = some entry.2 := get?_eq_some_iff.2 h
  rcases mem_or_of_get?_foldl_insert hget with hmem | hempty
  · exact hmem
  · cases hempty

/-- Something is looked up behind rows under the keys of the rows and those from before. -/
theorem isSome_get?_foldl_insert (rows : List (String × α)) (d : Dict α) (key : String) :
    ((rows.foldl (fun d row => d.insert row.1 row.2) d).get? key).isSome = true ↔
      key ∈ rows.map Prod.fst ∨ (d.get? key).isSome = true := by
  induction rows generalizing d with
  | nil => simp
  | cons row rest ih =>
    rw [List.foldl_cons, ih, get?_insert, List.map_cons, List.mem_cons]
    by_cases h : key = row.1 <;> simp [h]

end Dict

/-! ## Sets of texts -/

/-- A set of texts, listed in increasing order. -/
abbrev TextSet := Dict Unit

namespace TextSet

/-- The set of the texts in a list. -/
def ofList (texts : List String) : TextSet :=
  Dict.ofList (texts.map fun text => (text, ()))

/-- The members in increasing order. -/
def toList (set : TextSet) : List String :=
  set.keys

@[simp] theorem get?_ofList_eq_some_iff {texts : List String} {text : String} {u : Unit} :
    (ofList texts).get? text = some u ↔ text ∈ texts := by
  have hisSome : ((ofList texts).get? text).isSome = true ↔ text ∈ texts := by
    rw [ofList, Dict.ofList, Dict.isSome_get?_foldl_insert, List.map_map]
    simp
  rw [← hisSome, Option.isSome_iff_exists]
  exact ⟨fun h => ⟨u, h⟩, fun ⟨_, h⟩ => h⟩

/-- The members are the texts that the set is made of. -/
@[simp] theorem mem_keys_ofList {texts : List String} {text : String} :
    text ∈ (ofList texts).keys ↔ text ∈ texts := by
  refine Iff.trans ?_ (get?_ofList_eq_some_iff (u := ()))
  rw [Dict.get?_eq_some_iff, Dict.keys, List.mem_map]
  constructor
  · rintro ⟨⟨key, ⟨⟩⟩, hentry, rfl⟩
    exact hentry
  · exact fun hentry => ⟨_, hentry, rfl⟩

/-- A set depends only on which texts it is made of, not on their order. -/
theorem ofList_congr {texts texts' : List String} (h : ∀ text, text ∈ texts ↔ text ∈ texts') :
    ofList texts = ofList texts' :=
  Dict.ext_get? fun text => Option.ext fun _ => by
    simp [h]

/-- A set is made of its members. -/
@[simp] theorem ofList_keys (set : TextSet) : ofList set.keys = set := by
  rw [ofList, Dict.keys, List.map_map]
  exact (congrArg Dict.ofList (List.map_id _)).trans set.ofList_entries

end TextSet

end Switchboard
