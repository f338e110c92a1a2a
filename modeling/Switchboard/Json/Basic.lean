import Switchboard.Dict

/-!
# JSON values

A number is an integer or a binary64 fraction, and the two never compare
equal.  An object is a list of fields; values that are computed or read have
their fields in key order with no key twice (`Json.canonical`).

## Main definitions

* `Json`, `Json.Number`, `Json.Fields`: values.
* `Json.same a b`: equality of values.
* `Json.canonical v`: the value with the fields of every object in key order,
  of two under one key the later.
-/

namespace Switchboard

/-- A number: an integer, or a fraction in binary64. -/
inductive Json.Number where
  | int (value : Int)
  | float (value : Float)

inductive Json where
  | null
  | bool (value : Bool)
  | num (value : Json.Number)
  | str (value : String)
  | arr (items : List Json)
  | obj (fields : List (String × Json))

instance : Inhabited Json := ⟨.null⟩

namespace Json

abbrev Fields := List (String × Json)

def Fields.get? (fields : Fields) (key : String) : Option Json :=
  fields.lookup key

def int (n : Int) : Json :=
  .num (.int n)

def nat (n : Nat) : Json :=
  .num (.int n)

def texts (items : List String) : Json :=
  .arr (items.map .str)

def isNull : Json → Bool
  | .null => true
  | _ => false

def str? : Json → Option String
  | .str s => some s
  | _ => none

def fields? : Json → Option Fields
  | .obj fields => some fields
  | _ => none

def int? : Json → Option Int
  | .num (.int n) => some n
  | _ => none

/-! ## Equality -/

/-- Equality of numbers; an integer differs from every fraction. -/
def Number.same : Number → Number → Bool
  | .int a, .int b => a == b
  | .float a, .float b => a == b
  | _, _ => false

mutual

def same : Json → Json → Bool
  | .null, .null => true
  | .bool a, .bool b => a == b
  | .num a, .num b => a.same b
  | .str a, .str b => a == b
  | .arr a, .arr b => sameItems a b
  | .obj a, .obj b => sameFields a b
  | _, _ => false

def sameItems : List Json → List Json → Bool
  | [], [] => true
  | a :: as, b :: bs => same a b && sameItems as bs
  | _, _ => false

def sameFields : List (String × Json) → List (String × Json) → Bool
  | [], [] => true
  | (k, a) :: as, (l, b) :: bs => k == l && same a b && sameFields as bs
  | _, _ => false

end

/-! ## Canonical form -/

mutual

/-- The value with the fields of every object in key order and no key twice;
of fields under one key the last is kept. -/
def canonical : Json → Json
  | .arr items => .arr (canonicalItems items)
  | .obj fields => .obj (Dict.ofList (canonicalFields fields)).entries
  | v => v

/-- The canonical forms of the items of an array. -/
def canonicalItems : List Json → List Json
  | [] => []
  | v :: rest => canonical v :: canonicalItems rest

/-- The fields of an object with the canonical forms of their values. -/
def canonicalFields : List (String × Json) → List (String × Json)
  | [] => []
  | (k, v) :: rest => (k, canonical v) :: canonicalFields rest

end

@[simp] theorem canonicalItems_eq_map (items : List Json) :
    canonicalItems items = items.map canonical := by
  induction items with
  | nil => rfl
  | cons v rest ih => rw [canonicalItems, ih, List.map_cons]

@[simp] theorem canonicalFields_eq_map (fields : List (String × Json)) :
    canonicalFields fields = fields.map fun row => (row.1, canonical row.2) := by
  induction fields with
  | nil => rfl
  | cons row rest ih => rw [canonicalFields, ih, List.map_cons]

/-- Texts in an array are in canonical form. -/
@[simp] theorem canonical_texts (items : List String) : canonical (texts items) = texts items := by
  simp [texts, canonical]

end Json

end Switchboard
