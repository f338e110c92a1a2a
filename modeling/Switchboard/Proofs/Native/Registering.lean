import Switchboard.Proofs.Native.Arguments

/-!
# What registering another function can change

A look-up goes by the overloads of a name with as many parameters as there are arguments, in
the order in which they were registered.  The first that takes the arguments is found, so
one that is registered later cannot take its place; and one under another name, or for
another number of arguments, plays no part at all.

## Main definitions

* `Table.Finds`: what a look-up finds, one rule for each way that it can go.
* `LookUp.Agrees`: look-ups that find the same, whatever its place in the table.
* `Registration.isFor`: a registration is under a name and for a number of arguments.

## Main statements

* `Table.lookUp_eq_iff_finds`: the rules give each look-up just one outcome.
* `Table.Finds.agrees`: only the overloads of the name and the number matter.
* `Table.lookUp_ofRegistrations`: look-ups while functions are registered.
-/

namespace Switchboard.Native

variable {ν : Type}

/-- Two look-ups find the same overload, at whatever places, or miss in the same way. -/
inductive LookUp.Agrees : LookUp ν → LookUp ν → Prop
  | found (row row' : Nat) (overload : Overload ν) :
      Agrees (.found row overload) (.found row' overload)
  | noArity : Agrees .noArity .noArity
  | kindMismatch (candidates : List (Overload ν)) :
      Agrees (.kindMismatch candidates) (.kindMismatch candidates)

namespace Table

/-! ## What a look-up finds -/

/-- What a look-up finds for arguments of the given kinds. -/
inductive Finds (table : Table ν) (name : String) (kinds : List Kind) : LookUp ν → Prop
  /-- The first overload of the name that takes the arguments. -/
  | found {row : Nat} {overload : Overload ν} (h : table.Picks name kinds row overload) :
      Finds table name kinds (.found row overload)
  /-- Nothing, as no overload of the name has as many parameters. -/
  | noArity (h : table.ofArity name kinds.length = []) : Finds table name kinds .noArity
  /-- Nothing but the overloads of the name with as many parameters, none of which takes the
  arguments. -/
  | kindMismatch (hsome : table.ofArity name kinds.length ≠ [])
      (hnone : ∀ overload ∈ table.ofArity name kinds.length, ¬ overload.Takes kinds) :
      Finds table name kinds (.kindMismatch (table.ofArity name kinds.length))

variable {table table' : Table ν} {name : String} {kinds : List Kind}

theorem Picks.mem_ofArity {row : Nat} {overload : Overload ν}
    (h : table.Picks name kinds row overload) : overload ∈ table.ofArity name kinds.length :=
  Table.mem_ofArity.2 ⟨h.mem, h.name_eq, h.takes.arity⟩

/-- The overload that is picked is the first of its name and number that takes the
arguments. -/
theorem Picks.find?_ofArity {row : Nat} {overload : Overload ν}
    (h : table.Picks name kinds row overload) :
    (table.ofArity name kinds.length).find? (·.accepts kinds) = some overload := by
  obtain ⟨hbound, hget⟩ := List.getElem?_eq_some_iff.1 h.at_row
  rw [ofArity, List.find?_filter, List.find?_eq_some_iff_getElem]
  refine ⟨?_, row, hbound, hget, ?_⟩
  · simp [h.name_eq, h.takes.arity, Overload.accepts_iff.2 h.takes]
  · intro earlier hlt
    have hbound' : earlier < table.rows.length := by omega
    have hno := h.first earlier hlt _ (List.getElem?_eq_getElem hbound')
    by_cases hname : table.rows[earlier].name = name
    · simp [mt Overload.accepts_iff.1 (hno hname)]
    · simp [hname]

/-- Only the overloads of the name with the number of parameters matter to a look-up, and
their order. -/
theorem Finds.agrees {found found' : LookUp ν}
    (hsame : table.ofArity name kinds.length = table'.ofArity name kinds.length)
    (h : table.Finds name kinds found) (h' : table'.Finds name kinds found') :
    found.Agrees found' := by
  cases h with
  | found hpicks =>
    cases h' with
    | found hpicks' =>
      have hfind := hpicks.find?_ofArity
      rw [hsame, hpicks'.find?_ofArity] at hfind
      obtain rfl := Option.some.inj hfind
      exact .found _ _ _
    | noArity hnil => exact absurd hpicks.mem_ofArity (by rw [hsame, hnil]; exact List.not_mem_nil)
    | kindMismatch _ hnone => exact absurd hpicks.takes (hnone _ (hsame ▸ hpicks.mem_ofArity))
  | noArity hnil =>
    cases h' with
    | found hpicks =>
      exact absurd hpicks.mem_ofArity (by rw [← hsame, hnil]; exact List.not_mem_nil)
    | noArity => exact .noArity
    | kindMismatch hsome => exact absurd (hsame ▸ hnil) hsome
  | kindMismatch hsome hnone =>
    cases h' with
    | found hpicks => exact absurd hpicks.takes (hnone _ (hsame ▸ hpicks.mem_ofArity))
    | noArity hnil => exact absurd (hsame.trans hnil) hsome
    | kindMismatch =>
      rw [hsame]
      exact .kindMismatch _

/-- Only one outcome follows from the rules. -/
theorem Finds.unique {found found' : LookUp ν} (h : table.Finds name kinds found)
    (h' : table.Finds name kinds found') : found = found' := by
  cases h.agrees rfl h' with
  | found =>
    cases h with
    | found hpicks =>
      cases h' with
      | found hpicks' =>
        obtain ⟨rfl, -⟩ := hpicks.unique hpicks'
        rfl
  | noArity => rfl
  | kindMismatch => rfl

/-- A look-up finds what the rules say. -/
theorem finds_lookUp (table : Table ν) (name : String) (args : List Json) :
    table.Finds name (args.map Kind.of) (table.lookUp name args) := by
  have hlength : (args.map Kind.of).length = args.length := List.length_map _
  rcases table.lookUp_cases name args with
    ⟨row, overload, hfound, hpicks⟩ | ⟨hnone, ⟨hno, hnil⟩ | ⟨hother, hsome⟩⟩
  · rw [hfound]
    exact .found hpicks
  · rw [hno]
    exact .noArity (hlength.symm ▸ hnil)
  · rw [hother, ← hlength]
    rw [← hlength] at hsome
    refine .kindMismatch hsome fun overload hmem => ?_
    obtain ⟨hmem, hname, -⟩ := mem_ofArity.1 hmem
    exact hnone overload hmem hname

theorem lookUp_eq_iff_finds {args : List Json} {found : LookUp ν} :
    table.lookUp name args = found ↔ table.Finds name (args.map Kind.of) found := by
  constructor
  · rintro rfl
    exact finds_lookUp table name args
  · exact (finds_lookUp table name args).unique

/-! ## More rows -/

/-- An overload that is picked is picked with more rows behind. -/
theorem Picks.append {row : Nat} {overload : Overload ν} (h : table.Picks name kinds row overload)
    {more : List (Overload ν)} (hrows : table'.rows = table.rows ++ more) :
    table'.Picks name kinds row overload := by
  obtain ⟨hbound, -⟩ := List.getElem?_eq_some_iff.1 h.at_row
  have hbefore : ∀ earlier ≤ row, table'.rows[earlier]? = table.rows[earlier]? := by
    intro earlier hle
    rw [hrows, List.getElem?_append_left (by omega)]
  refine ⟨(hbefore row (Nat.le_refl row)).trans h.at_row, h.name_eq, h.takes, ?_⟩
  intro earlier hlt other hother
  rw [hbefore earlier (by omega)] at hother
  exact h.first earlier hlt other hother

/-- More rows of other names and numbers of parameters leave a look-up as it is. -/
theorem Finds.append {found : LookUp ν} (h : table.Finds name kinds found)
    {more : List (Overload ν)} (hrows : table'.rows = table.rows ++ more)
    (hother : ∀ overload ∈ more, overload.name = name → overload.params.length ≠ kinds.length) :
    table'.Finds name kinds found := by
  have hsame : table'.ofArity name kinds.length = table.ofArity name kinds.length := by
    have hnone : more.filter (fun overload =>
        overload.name == name && overload.params.length == kinds.length) = [] := by
      rw [List.filter_eq_nil_iff]
      intro overload hmem
      simpa using hother overload hmem
    rw [ofArity, hrows, List.filter_append, hnone, List.append_nil, ofArity]
  cases h with
  | found hpicks => exact .found (hpicks.append hrows)
  | noArity hnil => exact .noArity (hsame.trans hnil)
  | kindMismatch hsome hnone =>
    rw [← hsame] at hsome hnone ⊢
    exact .kindMismatch hsome hnone

end Table

/-! ## Look-ups while functions are registered -/

/-- A registration is under a name and for a number of arguments. -/
def Registration.isFor (name : String) (arity : Nat) (registration : Registration ν) : Bool :=
  registration.overload.name == name && registration.overload.params.length == arity

namespace Table

theorem ofArity_ofRegistrations (registrations : List (Registration ν)) (name : String)
    (arity : Nat) :
    (ofRegistrations registrations).ofArity name arity =
      (registrations.filter (Registration.isFor name arity)).map Registration.overload := by
  rw [ofArity, rows_ofRegistrations, List.filter_map]
  rfl

@[simp] theorem rows_ofRegistrations_append (registrations more : List (Registration ν)) :
    (ofRegistrations (registrations ++ more)).rows =
      (ofRegistrations registrations).rows ++ more.map Registration.overload := by
  simp

/-- While functions are registered a look-up finds the first of its name that takes the
arguments, or tells which of the name take as many: those that the failure of a call lists.
What is found stays found, whatever else is registered, and registrations under other names
or for other numbers of arguments change nothing, behind the others or between them. -/
theorem lookUp_ofRegistrations :
    (∀ registrations : List (Registration ν),
      (ofRegistrations registrations).rows = registrations.map Registration.overload) ∧
    (∀ (registrations : List (Registration ν)) (name : String) (args : List Json)
        (found : LookUp ν),
      (ofRegistrations registrations).lookUp name args = found ↔
        (ofRegistrations registrations).Finds name (args.map Kind.of) found) ∧
    (∀ (registrations : List (Registration ν)) (b : Binding) (memory : ν)
        (text signature : String) (accepted : List String),
      (Backend.runNative (ofRegistrations registrations) b memory).result =
          .error (.noSuchCallable text signature accepted) ↔
        (∀ overload ∈ (ofRegistrations registrations).ofArity b.call.method b.args.length,
          ¬ overload.Takes b.kinds) ∧
        text = b.call.text ∧ signature = b.signature ∧
        accepted = ((ofRegistrations registrations).ofArity b.call.method b.args.length).map
          fun overload => Binding.typedSignature b.call.method overload.params) ∧
    (∀ (registrations more : List (Registration ν)) (name : String) (args : List Json) (row : Nat)
        (overload : Overload ν),
      (ofRegistrations registrations).lookUp name args = .found row overload →
      (ofRegistrations (registrations ++ more)).lookUp name args = .found row overload) ∧
    (∀ (registrations more : List (Registration ν)) (name : String) (args : List Json),
      (∀ registration ∈ more, registration.isFor name args.length = false) →
      (ofRegistrations (registrations ++ more)).lookUp name args =
        (ofRegistrations registrations).lookUp name args) ∧
    ∀ (registrations : List (Registration ν)) (name : String) (args : List Json),
      ((ofRegistrations registrations).lookUp name args).Agrees
        ((ofRegistrations (registrations.filter (Registration.isFor name args.length))).lookUp
          name args) := by
  refine ⟨rows_ofRegistrations, fun registrations name args found => lookUp_eq_iff_finds,
    fun registrations b memory text signature accepted => Backend.runNative_eq_noSuchCallable_iff,
    ?_, ?_, ?_⟩
  · intro registrations more name args row overload h
    cases lookUp_eq_iff_finds.1 h with
    | found hpicks =>
      exact lookUp_eq_iff_finds.2
        (.found (hpicks.append (rows_ofRegistrations_append registrations more)))
  · intro registrations more name args hmore
    refine lookUp_eq_iff_finds.2 ((finds_lookUp _ name args).append
      (rows_ofRegistrations_append registrations more) ?_)
    intro overload hmem hname harity
    obtain ⟨registration, hregistration, rfl⟩ := List.mem_map.1 hmem
    have hfor := hmore registration hregistration
    simp [Registration.isFor, hname, harity] at hfor
  · intro registrations name args
    refine (finds_lookUp _ name args).agrees ?_ (finds_lookUp _ name args)
    simp [ofArity_ofRegistrations]

/-- Functions of one name: for a number, for a request and a key, and for any value. -/
def overlapping : List (Registration Unit) :=
  [.eager "f" [.number] (stateless fun _ => .ok (.str "number")),
    .lazy "f" 1 (stateless fun request => request.value 0),
    .eager "f" [.any] (stateless fun _ => .ok (.str "any"))]

/-- The first function of those that take a number stays the first, and another one for one
argument is not among those for two. -/
theorem lookUp_ofRegistrations_overlapping :
    (ofRegistrations (overlapping ++ [.eager "f" [.number] (stateless fun _ => .ok .null)])).lookUp
        "f" [.int 5] = .found 0 (.eager "f" [.number] (stateless fun _ => .ok (.str "number"))) ∧
      (ofRegistrations (overlapping ++ [.eager "f" [.text] (stateless fun _ => .ok .null)])).lookUp
        "f" [.str "a", .str "b"] =
          .kindMismatch [.lazy "f" 1 (stateless fun request => request.value 0)] := by
  obtain ⟨-, -, -, hfound, hother, -⟩ := @lookUp_ofRegistrations Unit
  exact ⟨hfound overlapping _ "f" [.int 5] 0 _ rfl,
    hother overlapping _ "f" [.str "a", .str "b"] (by decide)⟩

end Table

end Switchboard.Native
