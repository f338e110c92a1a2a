import Switchboard.Json.Printer
import Switchboard.Text.Quoted

/-!
# Values that are not what a reader expects

Records, enumerations and numbers are read out of JSON values.  A `Mismatch`
says why a value cannot be read; the readers of the simple types are here,
those of the records stand beside the records.

## Main definitions

* `Mismatch`, `Mismatch.message`: causes and their wording.
* `asText`, `asFlag`, `asInt64`, `asWord64`: readers of simple types.
* `asVariant`: reader of a name out of a list.
* `optional`: the reader for which `null` is nothing.
-/

namespace Switchboard.Json

/-- Why a value cannot be read. -/
inductive Mismatch where
  /-- A value of another type than the one expected. -/
  | wrongType (found expected : String)
  /-- An integer beyond the range of the expected type. -/
  | outOfRange (value : Int) (expected : String)
  /-- An object without a field that it must have. -/
  | missingField (name : String)
  /-- An object with a field that it must not have. -/
  | unknownField (name : String) (known : List String)
  /-- A name that is none of the list. -/
  | unknownVariant (name : String) (known : List String)
  /-- An object where a name is expected, with fewer or more than one field. -/
  | notOneKey
  /-- A value that none of several readers takes. -/
  | noReading (reader : String)
  /-- An array of the wrong length. -/
  | wrongLength (length : Nat) (expected : String)
deriving DecidableEq

/-- Fractions are cited without an exponent, however long that is. -/
def citedFloat : Decimal.Layout :=
  ⟨none, none, false⟩

/-- How a diagnostic names a value it did not expect. -/
def describe : Json → String
  | .null => "null"
  | .bool b => "boolean `" ++ (if b then "true" else "false") ++ "`"
  | .num (.int n) => "integer `" ++ String.ofList (Decimal.intChars n) ++ "`"
  | .num (.float x) => "floating point `" ++ String.ofList (citedFloat.chars x) ++ "`"
  | .str s => "string " ++ Text.cite s
  | .arr _ => "sequence"
  | .obj _ => "map"

/-- The names that a diagnostic offers: one, two, or a list. -/
def offer (names : List String) : String :=
  match names.map fun name => "`" ++ name ++ "`" with
  | [one] => one
  | [one, two] => one ++ " or " ++ two
  | several => "one of " ++ ", ".intercalate several

def Mismatch.message : Mismatch → String
  | wrongType found expected => "invalid type: " ++ found ++ ", expected " ++ expected
  | outOfRange n expected =>
    "invalid value: integer `" ++ String.ofList (Decimal.intChars n) ++ "`, expected " ++ expected
  | missingField name => "missing field `" ++ name ++ "`"
  | unknownField name known => "unknown field `" ++ name ++ "`, expected " ++ offer known
  | unknownVariant name known => "unknown variant `" ++ name ++ "`, expected " ++ offer known
  | notOneKey => "invalid value: map, expected map with a single key"
  | noReading reader => "data did not match any variant of untagged enum " ++ reader
  | wrongLength n expected =>
    "invalid length " ++ String.ofList (Nat.toDigits 10 n) ++ ", expected " ++ expected

/-! ## Readers -/

/-- The mismatch of a value that is of another type than expected. -/
def unexpected (v : Json) (expected : String) : Mismatch :=
  .wrongType (describe v) expected

def asText : Json → Except Mismatch String
  | .str s => .ok s
  | v => .error (unexpected v "a string")

def asFlag : Json → Except Mismatch Bool
  | .bool b => .ok b
  | v => .error (unexpected v "a boolean")

def asInt64 : Json → Except Mismatch Int
  | .num (.int n) => if Decimal.isInt64 n then .ok n else .error (.outOfRange n "i64")
  | v => .error (unexpected v "i64")

def asWord64 : Json → Except Mismatch Nat
  | .num (.int n) =>
    if 0 ≤ n ∧ n ≤ Decimal.word64Max then .ok n.toNat else .error (.outOfRange n "u64")
  | v => .error (unexpected v "u64")

/-- The value that a list gives to a name. -/
def variantNamed {α : Type} (variants : List (String × α)) (name : String) :
    Except Mismatch α :=
  match variants.lookup name with
  | some a => .ok a
  | none => .error (.unknownVariant name (variants.map Prod.fst))

/-- One of the names in a list, as a text or as the only key of an object whose
value is `null`. -/
def asVariant {α : Type} (variants : List (String × α)) : Json → Except Mismatch α
  | .str name => variantNamed variants name
  | .obj [(name, v)] =>
    match variantNamed variants name, v with
    | .ok a, .null => .ok a
    | .ok _, v => .error (unexpected v "unit")
    | .error e, _ => .error e
  | .obj _ => .error .notOneKey
  | v => .error (unexpected v "string or map")

/-- What a reader makes of a value, or nothing of `null`. -/
def optional {α : Type} (read : Json → Except Mismatch α) : Json → Except Mismatch (Option α)
  | .null => .ok none
  | v => (read v).map some

/-- What a reader makes of a field, or a default if there is no such field. -/
def fieldOr {α : Type} (fields : Fields) (name : String) (default : α)
    (read : Json → Except Mismatch α) : Except Mismatch α :=
  match fields.get? name with
  | some v => read v
  | none => .ok default

/-- What a reader makes of an item, or a default if the array ends before it. -/
def itemOr {α : Type} (items : List Json) (index : Nat) (default : α)
    (read : Json → Except Mismatch α) : Except Mismatch α :=
  match items[index]? with
  | some v => read v
  | none => .ok default

/-- Refuse an array of more items than a record has fields. -/
def atMost (items : List Json) (fields : Nat) : Except Mismatch Unit :=
  if items.length ≤ fields then .ok ()
  else .error (.wrongLength items.length "fewer elements in array")

end Switchboard.Json
