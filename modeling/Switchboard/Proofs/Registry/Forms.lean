import Switchboard.Proofs.Registry.RoundTrip

/-!
# Registries with and without a frame

A registry is read from a document or from the rows alone.  What has a field
`functions` is a document, so the rows alone are read as the document of them is
exactly if no function is named `functions`; the rows of a document are no
entries, and so rows with that name are not read at all.

## Main statements

* `Registry.exists_readRows_iff`: which rows are read.
* `Registry.rows_read_as_document_iff`: which rows are read without a frame.
* `Registry.not_forall_rows_read_as_document`: not all rows are.
-/

namespace Switchboard.Registry

/-- Rows are read exactly if each is an entry. -/
theorem exists_readRows_iff {fields : Json.Fields} :
    (∃ rows, readRows fields = .ok rows) ↔
      ∀ field ∈ fields, ∃ entry, Entry.ofJson field.2 = .ok entry := by
  induction fields with
  | nil => simp [readRows]
  | cons field rest ih =>
    rw [List.forall_mem_cons, ← ih, readRows]
    cases hentry : Entry.ofJson field.2 with
    | error e => simp
    | ok entry => cases hrest : readRows rest <;> simp

/-- Rows that are entries make a registry. -/
theorem exists_ofRows {rows : Json.Fields}
    (h : ∀ row ∈ rows, ∃ entry, Entry.ofJson row.2 = .ok entry) :
    ∃ registry, ofRows (.obj rows) = .ok registry := by
  obtain ⟨entries, hentries⟩ := exists_readRows_iff.2 h
  exact ⟨Dict.ofList entries, map_eq_ok_iff.2 ⟨entries, hentries, rfl⟩⟩

/-- The way of running that a field names is no entry. -/
theorem not_ofJson_of_execution {v : Json} {execution : Execution}
    (h : Execution.ofJson v = .ok execution) (entry : Entry) : Entry.ofJson v ≠ .ok entry := by
  intro hentry
  cases v with
  | str name => cases hentry
  | num n => cases hentry
  | _ => cases h

/-- The fields of an entry are no rows of a registry. -/
theorem not_ofRows_of_entry {v : Json} {entry : Entry} (h : Entry.ofJson v = .ok entry)
    (registry : Registry) : ofRows v ≠ .ok registry := by
  intro hrows
  cases v with
  | obj fields =>
    obtain ⟨rows, hread, -⟩ := map_eq_ok_iff.1 hrows
    have hexecution := (Entry.ofFields_eq_ok_iff.1 h).execution
    unfold Json.fieldOr at hexecution
    split at hexecution
    · rename_i v hget
      obtain ⟨execution, hofJson, -⟩ := map_eq_ok_iff.1 hexecution
      obtain ⟨before, after, hfields, -⟩ := List.lookup_eq_some_iff.1 hget
      have hmem : ("executionKind", v) ∈ fields := by simp [hfields]
      obtain ⟨other, hother⟩ := exists_readRows_iff.1 ⟨rows, hread⟩ _ hmem
      exact not_ofJson_of_execution hofJson other hother
    · cases hexecution
  | _ => cases hrows

/-- What has a field `functions` is read as what that field holds, if at all. -/
theorem ofRows_of_ofJson {fields : Json.Fields} {functions : Json} {registry : Registry}
    (hget : fields.get? "functions" = some functions)
    (h : ofJson (.obj fields) = .ok registry) : ofRows functions = .ok registry := by
  simp only [ofJson, hget, bind_eq_ok_iff] at h
  obtain ⟨-, -, -, -, hrows⟩ := h
  exact hrows

/-- Rows are read without a frame exactly if none has the name of the frame. -/
theorem ofJson_rows_iff {rows : Json.Fields} {registry : Registry}
    (hentries : ∀ row ∈ rows, ∃ entry, Entry.ofJson row.2 = .ok entry)
    (h : ofRows (.obj rows) = .ok registry) :
    ofJson (.obj rows) = .ok registry ↔ ∀ row ∈ rows, row.1 ≠ "functions" := by
  cases hget : Json.Fields.get? rows "functions" with
  | none =>
    refine iff_of_true (by simp only [ofJson, hget, h]) fun row hmem heq => ?_
    have hne := List.lookup_eq_none_iff.1 hget row hmem
    simp [heq] at hne
  | some functions =>
    obtain ⟨before, after, hrows, -⟩ := List.lookup_eq_some_iff.1 hget
    have hmem : ("functions", functions) ∈ rows := by simp [hrows]
    refine iff_of_false (fun hread => ?_) fun hnames => hnames _ hmem rfl
    obtain ⟨entry, hentry⟩ := hentries _ hmem
    exact not_ofRows_of_entry hentry registry (ofRows_of_ofJson hget hread)

/-- A registry has an entry under a name exactly if one of its entries is. -/
@[simp] theorem get?_eq_none_iff {registry : Registry} {name : String} :
    registry.get? name = none ↔ ∀ row ∈ registry.entries, row.1 ≠ name := by
  rw [Dict.get?, List.lookup_eq_none_iff]
  simp only [bne_iff_ne, ne_comm]

/-- Entries that are read back are read without a frame exactly if none has the
name of the frame. -/
theorem ofJson_entries_iff {registry : Registry} (write : Entry → Json)
    (h : ∀ row ∈ registry.entries, Entry.ofJson (write row.2) = .ok row.2) :
    ofJson (.obj (registry.entries.map fun row => (row.1, write row.2))) = .ok registry ↔
      registry.get? "functions" = none := by
  have hentries : ∀ row ∈ registry.entries.map fun row => (row.1, write row.2),
      ∃ entry, Entry.ofJson row.2 = .ok entry := by
    intro row hrow
    obtain ⟨row, hmem, rfl⟩ := List.mem_map.1 hrow
    exact ⟨row.2, h row hmem⟩
  rw [ofJson_rows_iff hentries (ofRows_entries h), get?_eq_none_iff, List.forall_mem_map]

/-- Rows that are entries are read with a frame, and without it as the same
registry exactly if no function has the name of the frame.  So the written form
of a registry that was read, with the fields of its entries as they are written
or in key order, is read back without a frame in just that case. -/
theorem rows_read_as_document_iff :
    (∀ rows : Json.Fields, (∀ row ∈ rows, ∃ entry, Entry.ofJson row.2 = .ok entry) →
      ∃ registry, ofJson (.obj [("functions", .obj rows)]) = .ok registry ∧
        (ofJson (.obj rows) = .ok registry ↔ ∀ row ∈ rows, row.1 ≠ "functions")) ∧
    ∀ (raw : Json) (registry : Registry), ofJson raw = .ok registry →
      (ofJson registry.toJson = .ok registry ↔ registry.get? "functions" = none) ∧
        (ofJson registry.toJson.canonical = .ok registry ↔ registry.get? "functions" = none) := by
  constructor
  · intro rows hentries
    obtain ⟨registry, hrows⟩ := exists_ofRows hentries
    exact ⟨registry, hrows, ofJson_rows_iff hentries hrows⟩
  · intro raw registry h
    have hnormal := normal_of_ofJson h
    refine ⟨ofJson_entries_iff Entry.toJson fun row hmem =>
      Entry.ofJson_toJson (hnormal row hmem), ?_⟩
    rw [canonical_toJson]
    exact ofJson_entries_iff (fun entry => entry.toJson.canonical) fun row hmem =>
      Entry.ofJson_canonical_toJson (hnormal row hmem)

/-- Rows under names of other fields of a document. -/
def frameNames : Json.Fields :=
  [("registryKind", .obj [("executionKind", .str "native")]), ("schema", .arr [.int 1])]

/-- The names of other fields of a document are names like any other. -/
theorem frameNames_read_as_document :
    (∃ registry, ofJson (.obj [("functions", .obj frameNames)]) = .ok registry ∧
      ofJson (.obj frameNames) = .ok registry) ∧
    ofJson mixedRegistry.toJson.canonical = .ok mixedRegistry := by
  have hentries : ∀ row ∈ frameNames, ∃ entry, Entry.ofJson row.2 = .ok entry := by
    rintro row (_ | ⟨_, _ | ⟨_, ⟨⟩⟩⟩)
    · exact ⟨.native, rfl⟩
    · exact ⟨{ Entry.native with execution := .script }, rfl⟩
  obtain ⟨registry, hdocument, hrows⟩ := rows_read_as_document_iff.1 frameNames hentries
  exact ⟨⟨registry, hdocument, hrows.2 (by decide)⟩,
    (rows_read_as_document_iff.2 mixedSpellings mixedRegistry rfl).2.2 rfl⟩

/-- A row under the name of the frame is taken for the frame. -/
theorem not_forall_rows_read_as_document :
    ¬ ∀ rows : Json.Fields, (∀ row ∈ rows, ∃ entry, Entry.ofJson row.2 = .ok entry) →
      ofJson (.obj rows) = ofJson (.obj [("functions", .obj rows)]) := by
  intro h
  have hentries : ∀ row ∈ [("functions", Json.obj [("executionKind", .str "native")])],
      ∃ entry, Entry.ofJson row.2 = .ok entry := by
    rintro row (_ | ⟨_, ⟨⟩⟩)
    exact ⟨.native, rfl⟩
  have hsame := h _ hentries
  have hframed : ofJson (.obj [("functions", .obj [("functions",
      .obj [("executionKind", .str "native")])])]) = .ok (Dict.ofList [("functions", .native)]) :=
    rfl
  rw [hframed] at hsame
  exact absurd hsame (by decide)

end Switchboard.Registry
