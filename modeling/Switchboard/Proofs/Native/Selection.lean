import Switchboard.Native.Table

/-!
# Which overload a call runs

Of the overloads of a name the first one registered that takes the kinds of the
arguments is picked.  A look-up finds it if there is one, and otherwise tells
which overloads take as many arguments.

## Main statements

* `Table.lookUp_cases`: what a look-up finds, said without the look-up.
* `Table.Picks.unique`: at most one overload is picked.
* `Table.Picks.swap`: the functions of other overloads do not matter.
-/

namespace Switchboard.Native

variable {ν : Type}

/-- An overload takes arguments of the given kinds: one for each parameter, and
of its kind unless the parameter is open to any. -/
structure Overload.Takes (overload : Overload ν) (kinds : List Kind) : Prop where
  arity : overload.params.length = kinds.length
  fits : ∀ pair ∈ overload.params.zip kinds, pair.1 = .any ∨ pair.1 = pair.2

@[simp] theorem Overload.accepts_iff {overload : Overload ν} {kinds : List Kind} :
    overload.accepts kinds = true ↔ overload.Takes kinds := by
  simp only [Overload.accepts, Kind.accepts, Bool.and_eq_true, beq_iff_eq, List.all_eq_true,
    Bool.or_eq_true]
  exact ⟨fun h => ⟨h.1, h.2⟩, fun h => ⟨h.arity, h.fits⟩⟩

namespace Table

/-- The overloads of a name with a number of parameters, as registered. -/
def ofArity (table : Table ν) (name : String) (arity : Nat) : List (Overload ν) :=
  table.rows.filter fun overload => overload.name == name && overload.params.length == arity

@[simp] theorem mem_ofArity {table : Table ν} {name : String} {arity : Nat}
    {overload : Overload ν} :
    overload ∈ table.ofArity name arity ↔
      overload ∈ table.rows ∧ overload.name = name ∧ overload.params.length = arity := by
  simp [ofArity]

/-- The overload at a place is the first of its name that takes the kinds. -/
structure Picks (table : Table ν) (name : String) (kinds : List Kind) (row : Nat)
    (overload : Overload ν) : Prop where
  at_row : table.rows[row]? = some overload
  name_eq : overload.name = name
  takes : overload.Takes kinds
  first : ∀ earlier, earlier < row → ∀ other, table.rows[earlier]? = some other →
    other.name = name → ¬ other.Takes kinds

theorem Picks.mem {table : Table ν} {name : String} {kinds : List Kind} {row : Nat}
    {overload : Overload ν} (h : table.Picks name kinds row overload) : overload ∈ table.rows :=
  List.mem_of_getElem? h.at_row

theorem Picks.unique {table : Table ν} {name : String} {kinds : List Kind} {row row' : Nat}
    {overload overload' : Overload ν} (h : table.Picks name kinds row overload)
    (h' : table.Picks name kinds row' overload') : row = row' ∧ overload = overload' := by
  have hrow : row = row' := by
    rcases Nat.lt_trichotomy row row' with hlt | heq | hlt
    · exact absurd h.takes (h'.first row hlt overload h.at_row h.name_eq)
    · exact heq
    · exact absurd h'.takes (h.first row' hlt overload' h'.at_row h'.name_eq)
  subst hrow
  exact ⟨rfl, Option.some.inj (h.at_row.symm.trans h'.at_row)⟩

@[simp] theorem mem_candidates {table : Table ν} {name : String} {arity row : Nat}
    {overload : Overload ν} :
    (overload, row) ∈ table.candidates name arity ↔
      table.rows[row]? = some overload ∧ overload.name = name ∧ overload.params.length = arity := by
  simp [candidates, List.mk_mem_zipIdx_iff_getElem?]

@[simp] theorem map_fst_candidates (table : Table ν) (name : String) (arity : Nat) :
    (table.candidates name arity).map Prod.fst = table.ofArity name arity := by
  rw [ofArity, ← List.zipIdx_map_fst 0 table.rows, List.filter_map]
  rfl

/-- The first candidate that takes the arguments is the overload picked: the
candidates are listed in the order of their places. -/
theorem picks_of_find?_candidates {table : Table ν} {name : String} {kinds : List Kind}
    {row : Nat} {overload : Overload ν}
    (h : (table.candidates name kinds.length).find? (fun row => row.1.accepts kinds) =
      some (overload, row)) : table.Picks name kinds row overload := by
  have haccepts := List.find?_some h
  have htakes : overload.Takes kinds := Overload.accepts_iff.1 haccepts
  obtain ⟨hrow, hname, -⟩ := mem_candidates.1 (List.mem_of_find?_eq_some h)
  refine ⟨hrow, hname, htakes, ?_⟩
  intro earlier hlt other hother hothername hothertakes
  rw [candidates, List.find?_filter, List.find?_eq_some_iff_getElem] at h
  obtain ⟨-, i, hi, hat, hbefore⟩ := h
  have hplace : i = row := by
    rw [List.getElem_zipIdx, Prod.mk.injEq] at hat
    omega
  have hlt' : earlier < i := by omega
  have hno := hbefore earlier hlt'
  obtain ⟨hbound, hget⟩ := List.getElem?_eq_some_iff.1 hother
  simp [List.getElem_zipIdx, hget, hothername, hothertakes.arity,
    Overload.accepts_iff.2 hothertakes] at hno

/-- What a look-up finds: the overload picked or, where none takes the
arguments, the overloads that take as many. -/
theorem lookUp_cases (table : Table ν) (name : String) (args : List Json) :
    (∃ row overload, table.lookUp name args = .found row overload ∧
        table.Picks name (args.map Kind.of) row overload) ∨
      (∀ overload ∈ table.rows, overload.name = name → ¬ overload.Takes (args.map Kind.of)) ∧
        (table.lookUp name args = .noArity ∧ table.ofArity name args.length = [] ∨
          table.lookUp name args = .kindMismatch (table.ofArity name args.length) ∧
            table.ofArity name args.length ≠ []) := by
  have hlength : (args.map Kind.of).length = args.length := List.length_map _
  have hmem : ∀ overload ∈ table.rows, overload.name = name → overload.Takes (args.map Kind.of) →
      ∃ row, (overload, row) ∈ table.candidates name (args.map Kind.of).length := by
    intro overload hover hname htakes
    obtain ⟨row, hrow⟩ := List.mem_iff_getElem?.1 hover
    exact ⟨row, mem_candidates.2 ⟨hrow, hname, htakes.arity⟩⟩
  have hfst := map_fst_candidates table name (args.map Kind.of).length
  rw [hlength] at hfst
  cases hc : table.candidates name (args.map Kind.of).length with
  | nil =>
    refine Or.inr ⟨?_, Or.inl ⟨by simp only [lookUp, hc], ?_⟩⟩
    · intro overload hover hname htakes
      obtain ⟨row, hrow⟩ := hmem overload hover hname htakes
      rw [hc] at hrow
      exact absurd hrow List.not_mem_nil
    · rw [← hfst, ← hlength, hc]
      rfl
  | cons candidate rest =>
    cases hfind : (table.candidates name (args.map Kind.of).length).find?
        (fun row => row.1.accepts (args.map Kind.of)) with
    | some found =>
      obtain ⟨overload, row⟩ := found
      refine Or.inl ⟨row, overload, ?_, picks_of_find?_candidates hfind⟩
      rw [hc] at hfind
      simp only [lookUp, hc, hfind]
    | none =>
      refine Or.inr ⟨?_, Or.inr ?_⟩
      · intro overload hover hname htakes
        obtain ⟨row, hrow⟩ := hmem overload hover hname htakes
        exact absurd (Overload.accepts_iff.2 htakes) (List.find?_eq_none.1 hfind _ hrow)
      · rw [← hfst, ← hlength, hc]
        rw [hc] at hfind
        exact ⟨by simp only [lookUp, hc, hfind], List.cons_ne_nil _ _⟩

/-! ## Functions that are not picked -/

/-- The table with other functions behind the rows that are not kept. -/
def swap (table : Table ν) (keep : Nat → Bool)
    (run : Nat → List Json → ν → Except Fault Json × ν) : Table ν :=
  ⟨table.rows.mapIdx fun row overload =>
    if keep row then overload else { overload with run := run row }⟩

section

variable {table : Table ν} (keep : Nat → Bool)
  (run : Nat → List Json → ν → Except Fault Json × ν)

@[simp] theorem getElem?_rows_swap (row : Nat) :
    (table.swap keep run).rows[row]? = table.rows[row]?.map fun overload =>
      if keep row then overload else { overload with run := run row } := by
  simp only [swap, List.getElem?_mapIdx]

/-- A swap shows in no name and no parameter. -/
theorem heads_swap :
    (table.swap keep run).rows.map (fun overload => (overload.name, overload.params)) =
      table.rows.map fun overload => (overload.name, overload.params) := by
  refine List.ext_getElem? fun row => ?_
  rw [List.getElem?_map, List.getElem?_map, getElem?_rows_swap, Option.map_map]
  congr 1
  funext overload
  simp only [Function.comp_apply]
  split <;> rfl

@[simp] theorem params_ofArity_swap (name : String) (arity : Nat) :
    ((table.swap keep run).ofArity name arity).map Overload.params =
      (table.ofArity name arity).map Overload.params := by
  have h : ∀ rows : List (Overload ν), (rows.filter fun overload =>
      overload.name == name && overload.params.length == arity).map Overload.params =
      ((rows.map fun overload => (overload.name, overload.params)).filter fun row =>
        row.1 == name && row.2.length == arity).map Prod.snd := by
    intro rows
    rw [List.filter_map, List.map_map]
    rfl
  rw [ofArity, ofArity, h, h, heads_swap]

/-- An overload that is kept is picked behind a swap as before it. -/
theorem Picks.swap {keep : Nat → Bool} {name : String} {kinds : List Kind} {row : Nat}
    {overload : Overload ν} (h : table.Picks name kinds row overload) (hkeep : keep row = true) :
    (table.swap keep run).Picks name kinds row overload := by
  refine ⟨?_, h.name_eq, h.takes, ?_⟩
  · rw [getElem?_rows_swap, h.at_row]
    simp [hkeep]
  · intro earlier hlt other hother hname htakes
    rw [getElem?_rows_swap, Option.map_eq_some_iff] at hother
    obtain ⟨old, hold, rfl⟩ := hother
    refine h.first earlier hlt old hold ?_ ?_
    · split at hname <;> exact hname
    · split at htakes
      · exact htakes
      · exact ⟨htakes.arity, htakes.fits⟩

/-- Where no overload takes the arguments, none does behind a swap. -/
theorem not_takes_swap {name : String} {kinds : List Kind}
    (h : ∀ overload ∈ table.rows, overload.name = name → ¬ overload.Takes kinds) :
    ∀ overload ∈ (table.swap keep run).rows, overload.name = name → ¬ overload.Takes kinds := by
  intro overload hmem hname htakes
  have hhead : (overload.name, overload.params) ∈
      (table.swap keep run).rows.map fun overload => (overload.name, overload.params) :=
    List.mem_map_of_mem hmem
  rw [heads_swap] at hhead
  obtain ⟨old, hold, heq⟩ := List.mem_map.1 hhead
  obtain ⟨hnames, hparams⟩ := Prod.mk.inj heq
  exact h old hold (hnames.trans hname) ⟨hparams ▸ htakes.arity, hparams ▸ htakes.fits⟩

end

end Table

end Switchboard.Native
