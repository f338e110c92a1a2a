import Mathlib.Data.List.Forall2
import Switchboard.Native.Stock
import Switchboard.Proofs.Service.Dispatch

/-!
# What native functions are handed

A table is made by registering functions one after another: for eager calls
under the kinds of their parameters, for lazy calls under a number of keys.  A
function only runs on arguments that suit its parameters, one for each and of
its kind, so a function for lazy calls finds a request and all its keys in them.

## Main definitions

* `Registration`: a function as it is registered.
* `Table.ofRegistrations`: the table that registrations make.
* `Overload.Suits`: there is an argument of the right kind for each parameter.
* `Registration.FindsKeys`: a function finds the keys that it was registered for.

## Main statements

* `Overload.suits_lazy_iff`: what suits a function for lazy calls.
* `Backend.native_arguments_suit`: a function only runs on arguments that suit it.
-/

namespace Switchboard

/-! ## Values of a kind -/

namespace Kind

@[simp] theorem of_eq_text_iff {v : Json} : Kind.of v = .text ↔ ∃ s, v = .str s := by
  cases v <;> simp [Kind.of]

@[simp] theorem of_eq_number_iff {v : Json} : Kind.of v = .number ↔ ∃ n, v = .num n := by
  cases v <;> simp [Kind.of]

@[simp] theorem of_eq_object_iff {v : Json} : Kind.of v = .object ↔ ∃ fields, v = .obj fields := by
  cases v <;> simp [Kind.of]

/-- A parameter of a kind takes a value. -/
def Takes (param : Kind) (v : Json) : Prop :=
  param = .any ∨ param = Kind.of v

@[simp] theorem takes_object_iff {v : Json} : Takes .object v ↔ ∃ fields, v = .obj fields := by
  rw [← of_eq_object_iff]
  simp [Takes, eq_comm]

@[simp] theorem takes_text_iff {v : Json} : Takes .text v ↔ ∃ s, v = .str s := by
  rw [← of_eq_text_iff]
  simp [Takes, eq_comm]

@[simp] theorem takes_number_iff {v : Json} : Takes .number v ↔ ∃ n, v = .num n := by
  rw [← of_eq_number_iff]
  simp [Takes, eq_comm]

end Kind

namespace Native

variable {ν : Type}

/-! ## Registrations -/

/-- A native function as it is registered. -/
inductive Registration (ν : Type) where
  /-- For values of the given kinds. -/
  | eager (name : String) (params : List Kind) (run : List Json → ν → Except Fault Json × ν)
  /-- For a request and a number of keys. -/
  | lazy (name : String) (keys : Nat) (run : Request → ν → Except Fault Json × ν)

/-- What a registration puts into the table. -/
def Registration.overload : Registration ν → Overload ν
  | eager name params run => .eager name params run
  | lazy name keys run => .lazy name keys run

/-- The table that registrations make, one after another. -/
def Table.ofRegistrations (registrations : List (Registration ν)) : Table ν :=
  registrations.foldl (fun table registration => table.register registration.overload) .empty

/-- Registering adds rows behind those there are. -/
theorem Table.rows_foldl_register (registrations : List (Registration ν)) (table : Table ν) :
    (registrations.foldl (fun table registration => table.register registration.overload)
        table).rows =
      table.rows ++ registrations.map Registration.overload := by
  induction registrations generalizing table with
  | nil => simp
  | cons registration rest ih =>
    rw [List.foldl_cons, ih, List.map_cons]
    simp [register]

@[simp] theorem Table.rows_ofRegistrations (registrations : List (Registration ν)) :
    (ofRegistrations registrations).rows = registrations.map Registration.overload :=
  rows_foldl_register registrations .empty

/-! ## Arguments that suit an overload -/

/-- There is one argument for each parameter, and of its kind unless the
parameter is open to any. -/
structure Overload.Suits (overload : Overload ν) (args : List Json) : Prop where
  length_eq : args.length = overload.params.length
  kind_eq : ∀ (i : Nat) (param : Kind) (arg : Json), overload.params[i]? = some param →
    args[i]? = some arg → param ≠ .any → Kind.of arg = param

namespace Overload

@[simp] theorem suits_iff_forall₂ {overload : Overload ν} {args : List Json} :
    overload.Suits args ↔ List.Forall₂ Kind.Takes overload.params args := by
  rw [List.forall₂_iff_get]
  constructor
  · intro h
    refine ⟨h.length_eq.symm, fun i hi hi' => ?_⟩
    by_cases hany : overload.params[i] = .any
    · exact Or.inl hany
    · exact Or.inr (h.kind_eq i _ _ (List.getElem?_eq_getElem hi) (List.getElem?_eq_getElem hi')
        hany).symm
  · rintro ⟨hlength, hkinds⟩
    refine ⟨hlength.symm, fun i param arg hparam harg hne => ?_⟩
    obtain ⟨hi, rfl⟩ := List.getElem?_eq_some_iff.1 hparam
    obtain ⟨hi', rfl⟩ := List.getElem?_eq_some_iff.1 harg
    exact ((hkinds i hi hi').resolve_left hne).symm

/-- Arguments whose kinds an overload takes suit it. -/
theorem suits_of_takes {overload : Overload ν} {args : List Json}
    (h : overload.Takes (args.map Kind.of)) : overload.Suits args := by
  rw [suits_iff_forall₂, List.forall₂_iff_zip]
  refine ⟨by simpa using h.arity, fun {param arg} hmem => ?_⟩
  refine h.fits (param, Kind.of arg) ?_
  rw [List.zip_map_right]
  exact List.mem_map_of_mem hmem

/-- Only a parameter that is open to any can be handed `null`. -/
theorem Suits.any_of_null {overload : Overload ν} {args : List Json} (h : overload.Suits args)
    {i : Nat} (hnull : args[i]? = some .null) : overload.params[i]? = some .any := by
  obtain ⟨hi, -⟩ := List.getElem?_eq_some_iff.1 hnull
  rw [h.length_eq] at hi
  have hparam := List.getElem?_eq_getElem hi
  by_cases hany : overload.params[i] = .any
  · rw [hparam, hany]
  · exact absurd (h.kind_eq i _ _ hparam hnull hany).symm hany

/-- Parameters for texts take just as many texts. -/
@[simp] theorem forall₂_takes_texts_iff {keys : Nat} {args : List Json} :
    List.Forall₂ Kind.Takes (List.replicate keys .text) args ↔
      ∃ texts : List String, args = texts.map .str ∧ texts.length = keys := by
  induction keys generalizing args with
  | zero => simp
  | succ keys ih =>
    cases args with
    | nil => simp
    | cons arg rest =>
      rw [List.replicate_succ, List.forall₂_cons, Kind.takes_text_iff, ih]
      constructor
      · rintro ⟨⟨s, rfl⟩, texts, rfl, rfl⟩
        exact ⟨s :: texts, rfl, rfl⟩
      · rintro ⟨_ | ⟨s, texts⟩, hargs, hlength⟩
        · simp at hargs
        · rw [List.map_cons, List.cons.injEq] at hargs
          exact ⟨⟨s, hargs.1⟩, texts, hargs.2, Nat.succ.inj hlength⟩

/-- What suits a function for lazy calls is an object and as many texts as it
has keys. -/
theorem suits_lazy_iff {name : String} {keys : Nat}
    {run : Request → ν → Except Fault Json × ν} {args : List Json} :
    (Overload.lazy name keys run).Suits args ↔
      ∃ (context : Json.Fields) (texts : List String),
        args = .obj context :: texts.map .str ∧ texts.length = keys := by
  rw [suits_iff_forall₂, Overload.lazy]
  cases args with
  | nil => simp
  | cons arg rest =>
    rw [List.forall₂_cons, Kind.takes_object_iff, forall₂_takes_texts_iff]
    constructor
    · rintro ⟨⟨context, rfl⟩, texts, rfl, hlength⟩
      exact ⟨context, texts, rfl, hlength⟩
    · rintro ⟨context, texts, hargs, hlength⟩
      rw [List.cons.injEq] at hargs
      exact ⟨⟨context, hargs.1⟩, texts, hargs.2, hlength⟩

end Overload

/-! ## Requests and their keys -/

@[simp] theorem Request.ofArgs_eq_ok_iff {args : List Json} {request : Request} :
    Request.ofArgs args = .ok request ↔ args = .obj request.context :: request.keys := by
  obtain ⟨context, keys⟩ := request
  unfold Request.ofArgs
  split <;> simp_all

/-- Among keys that are texts each is found, and what it means with it. -/
theorem Request.key_of_texts {context : Json.Fields} {texts : List String} {i : Nat}
    (hi : i < texts.length) :
    Request.key ⟨context, texts.map .str⟩ i = .ok texts[i] ∧
      Request.value ⟨context, texts.map .str⟩ i = .ok (Token.resolve texts[i] context none) := by
  have hkey : Request.key ⟨context, texts.map .str⟩ i = .ok texts[i] := by
    simp [Request.key, List.getElem?_eq_getElem hi]
  exact ⟨hkey, by rw [Request.value, hkey]; rfl⟩

/-- Behind its last key a request has no values. -/
theorem Request.value_of_length_le {request : Request} {i : Nat}
    (h : request.keys.length ≤ i) : ∃ fault, request.value i = .error fault := by
  unfold Request.value Request.key
  rw [List.getElem?_eq_none h]
  exact ⟨_, rfl⟩

/-- A function for lazy calls is handed a request with all the keys that it was
registered for, and each of them means something. -/
def Registration.FindsKeys : Registration ν → List Json → Prop
  | .eager .., _ => True
  | .lazy name keys run, args => ∃ request, Request.ofArgs args = .ok request ∧
      (Overload.lazy name keys run).run args = run request ∧
        ∀ i < keys, ∃ key, request.key i = .ok key ∧
          request.value i = .ok (Token.resolve key request.context none)

theorem Registration.findsKeys_of_suits {registration : Registration ν} {args : List Json}
    (h : registration.overload.Suits args) : registration.FindsKeys args := by
  cases registration with
  | eager name params run => trivial
  | lazy name keys run =>
    obtain ⟨context, texts, rfl, rfl⟩ := Overload.suits_lazy_iff.1 h
    exact ⟨⟨context, texts.map .str⟩, rfl, rfl,
      fun i hi => ⟨texts[i], Request.key_of_texts hi⟩⟩

/-! ## The functions of the stock -/

theorem stock_eq_ofRegistrations :
    ∃ registrations : List (Registration ν), stock = .ofRegistrations registrations :=
  ⟨[.lazy _ _ _, .lazy _ _ _, .lazy _ _ _, .lazy _ _ _, .eager _ _ _, .eager _ _ _], rfl⟩

/-- A function of the stock for values reads as many numbers as it is handed, and remembers
nothing. -/
def ReadsNumbers (overload : Overload ν) (args : List Json) : Prop :=
  overload.name = "isEven" ∧ (∃ n, args = [.num n] ∧
      ∀ memory, overload.run args memory = (isEven (.num n), memory)) ∨
    overload.name = "plus" ∧ ∃ m n, args = [.num m, .num n] ∧
      ∀ memory, overload.run args memory = (plus (.num m) (.num n), memory)

theorem readsNumbers_of_suits {overload : Overload ν} {args : List Json}
    (hmem : overload ∈ stock.rows) (heager : overload.convention = .eager)
    (h : overload.Suits args) : ReadsNumbers overload args := by
  rw [Overload.suits_iff_forall₂] at h
  simp only [stock, List.mem_cons, List.not_mem_nil, or_false] at hmem
  rcases hmem with rfl | rfl | rfl | rfl | rfl | rfl
  · cases heager
  · cases heager
  · cases heager
  · cases heager
  · obtain _ | ⟨hn, ⟨⟩⟩ := h
    obtain ⟨n, rfl⟩ := Kind.takes_number_iff.1 hn
    exact Or.inl ⟨rfl, n, rfl, fun _ => rfl⟩
  · obtain _ | ⟨hm, _ | ⟨hn, ⟨⟩⟩⟩ := h
    obtain ⟨m, rfl⟩ := Kind.takes_number_iff.1 hm
    obtain ⟨n, rfl⟩ := Kind.takes_number_iff.1 hn
    exact Or.inr ⟨rfl, m, n, rfl, fun _ => rfl⟩

/-! ## An example -/

/-- Functions registered in both ways, two of them under one name. -/
def getAndPair : List (Registration Unit) :=
  [.eager "get" [.number, .any] (stateless fun _ => .ok .null),
    .lazy "get" 1 (stateless fun request => request.value 0),
    .eager "pair" [.object, .any] (stateless fun args => .ok (.arr args))]

/-- A context in which a key means an object and another one a field of it. -/
def userAndName : Json.Fields :=
  [("name", .str "id"), ("user", .obj [("id", .int 7)])]

end Native

namespace Backend

open Native

variable {ν : Type}

/-- A function that runs is one of the table, its arguments suit it, and how it
ends is how the call does. -/
theorem suits_of_mem_runNative {natives : Table ν} {b : Binding} {memory : ν} {name : String}
    {row : Nat} {args : List Json}
    (h : .native name row args ∈ (runNative natives b memory).effects) :
    args = b.args ∧ ∃ overload, natives.rows[row]? = some overload ∧
      overload.name = b.call.method ∧
      (runNative natives b memory).result = settle b overload memory ∧ overload.Suits args := by
  rcases runNative_cases natives b memory with ⟨row', overload, hpicks, hrun⟩ | ⟨-, hrun⟩
  · rw [hrun, List.mem_singleton] at h
    injection h with _ hrow hargs
    subst hrow hargs
    exact ⟨rfl, overload, hpicks.at_row, hpicks.name_eq, by rw [hrun],
      Overload.suits_of_takes hpicks.takes⟩
  · rw [hrun] at h
    exact absurd h List.not_mem_nil

/-- A function that runs is one of those registered, and what it is handed suits it. -/
theorem registration_of_mem_runNative {registrations : List (Registration ν)} {b : Binding}
    {memory : ν} {name : String} {row : Nat} {args : List Json}
    (h : .native name row args ∈ (runNative (.ofRegistrations registrations) b memory).effects) :
    ∃ registration, registrations[row]? = some registration ∧
      (runNative (.ofRegistrations registrations) b memory).result =
        settle b registration.overload memory ∧
      args = b.args ∧ registration.overload.Suits args ∧
      (∀ i : Nat, args[i]? = some .null → registration.overload.params[i]? = some .any) ∧
      registration.FindsKeys args := by
  obtain ⟨hargs, overload, hrow, -, hends, hsuits⟩ := suits_of_mem_runNative h
  rw [Table.rows_ofRegistrations, List.getElem?_map, Option.map_eq_some_iff] at hrow
  obtain ⟨registration, hregistration, rfl⟩ := hrow
  exact ⟨registration, hregistration, hends, hargs, hsuits,
    fun i hnull => hsuits.any_of_null hnull, registration.findsKeys_of_suits hsuits⟩

/-- A native function only runs on the arguments of the call, and only if they
suit its parameters, so `null` is only handed to a parameter that is open to
any.  A function for lazy calls finds its request and its keys, and a function
of the stock for values finds as many numbers as it reads. -/
theorem native_arguments_suit :
    (∀ (ν : Type) (registrations : List (Registration ν)) (memory : ν) (call : Call)
        (context : Json.Fields) (fragments : Option Fragments) (resolution : Resolution)
        (name : String) (row : Nat) (args : List Json),
      .native name row args ∈ (runNative (.ofRegistrations registrations)
          (Binding.bind call context fragments resolution) memory).effects →
      ∃ registration, registrations[row]? = some registration ∧
        (runNative (.ofRegistrations registrations)
            (Binding.bind call context fragments resolution) memory).result =
          settle (Binding.bind call context fragments resolution) registration.overload memory ∧
        args = (Binding.bind call context fragments resolution).args ∧
        registration.overload.Suits args ∧
        (∀ i : Nat, args[i]? = some .null → registration.overload.params[i]? = some .any) ∧
        registration.FindsKeys args) ∧
    ∀ (ν : Type) (memory : ν) (call : Call) (context : Json.Fields)
        (fragments : Option Fragments) (resolution : Resolution) (name : String) (row : Nat)
        (args : List Json),
      .native name row args ∈
          (runNative stock (Binding.bind call context fragments resolution) memory).effects →
      ∃ overload : Overload ν, stock.rows[row]? = some overload ∧
        (overload.convention = .eager → ReadsNumbers overload args) := by
  constructor
  · intro ν registrations memory call context fragments resolution name row args h
    exact registration_of_mem_runNative h
  · intro ν memory call context fragments resolution name row args h
    obtain ⟨registrations, hstock⟩ := @stock_eq_ofRegistrations ν
    rw [hstock] at h
    obtain ⟨registration, hregistration, -, -, hsuits, -⟩ := registration_of_mem_runNative h
    have hrow : stock.rows[row]? = some registration.overload := by
      simp [hstock, hregistration]
    exact ⟨registration.overload, hrow,
      fun heager => readsNumbers_of_suits (List.mem_of_getElem? hrow) heager hsuits⟩

/-- Behind an overload for other values, a function for lazy calls runs on an
object and a text, and a function of the stock on the numbers that it adds. -/
theorem native_arguments_suit_get_and_plus :
    (∃ registration, getAndPair[1]? = some registration ∧
      registration.overload.Suits [.obj [("id", .int 7)], .str "id"] ∧
      registration.FindsKeys [.obj [("id", .int 7)], .str "id"]) ∧
    ∃ overload : Overload Unit, stock.rows[5]? = some overload ∧
      (overload.convention = .eager → ReadsNumbers overload [.int 2, .int 1]) := by
  have hget : .native "get" 1 [.obj [("id", .int 7)], .str "id"] ∈
      (runNative (.ofRegistrations getAndPair)
        (Binding.bind ⟨"get(user,name)", none, "get", ["user", "name"]⟩ userAndName none
          .eager) ()).effects :=
    List.mem_singleton.2 rfl
  have hplus : .native "plus" 5 [.int 2, .int 1] ∈
      (runNative stock (Binding.bind ⟨"plus(n,m)", none, "plus", ["n", "m"]⟩
        [("m", .int 1), ("n", .int 2)] none .eager) ()).effects :=
    List.mem_singleton.2 rfl
  obtain ⟨registration, hregistration, -, -, hsuits, -, hkeys⟩ :=
    native_arguments_suit.1 _ _ _ _ _ _ _ _ _ _ hget
  exact ⟨⟨registration, hregistration, hsuits, hkeys⟩,
    native_arguments_suit.2 _ _ _ _ _ _ _ _ _ hplus⟩

end Backend

end Switchboard
