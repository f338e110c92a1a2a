import Switchboard.Json.Basic
import Switchboard.Decimal.Layout

/-!
# Writing JSON

Two forms: compact, without any blanks, and pretty, with one item or field a
line, indented by two.  Texts have quotes, backslashes and control characters
escaped and all else written as it is.

## Main definitions

* `Json.chars v`, `Json.compact v`: the compact form.
* `Json.pretty v`: the form with lines.
-/

namespace Switchboard.Json

/-- Fractions have the fewest digits that identify them, with a point from
`0.00001` to below `10^16` and otherwise with a signed exponent. -/
def floatLayout : Decimal.Layout :=
  ⟨some (-5), some 15, true⟩

/-- The hexadecimal digit of a number below sixteen. -/
def hexDigit (n : Nat) : Char :=
  Nat.digitChar n

def escapeChar (c : Char) : List Char :=
  if c = '"' then ['\\', '"']
  else if c = '\\' then ['\\', '\\']
  else if c = '\n' then ['\\', 'n']
  else if c = '\r' then ['\\', 'r']
  else if c = '\t' then ['\\', 't']
  else if c.toNat = 8 then ['\\', 'b']
  else if c.toNat = 12 then ['\\', 'f']
  else if c.toNat < 32 then
    ['\\', 'u', '0', '0', hexDigit (c.toNat / 16), hexDigit (c.toNat % 16)]
  else [c]

def quotedChars (s : String) : List Char :=
  '"' :: (s.toList.flatMap escapeChar ++ ['"'])

def numberChars : Number → List Char
  | .int n => Decimal.intChars n
  | .float x => floatLayout.chars x

/-! ## The compact form -/

mutual

/-- The compact form of a value. -/
def chars : Json → List Char
  | .null => "null".toList
  | .bool true => "true".toList
  | .bool false => "false".toList
  | .num n => numberChars n
  | .str s => quotedChars s
  | .arr [] => ['[', ']']
  | .arr (v :: rest) => '[' :: (chars v ++ restItems rest)
  | .obj [] => ['\x7b', '\x7d']
  | .obj ((k, v) :: rest) => '\x7b' :: (quotedChars k ++ ':' :: (chars v ++ restFields rest))

/-- The items of an array after its first, and the closing bracket. -/
def restItems : List Json → List Char
  | [] => [']']
  | v :: rest => ',' :: (chars v ++ restItems rest)

/-- The fields of an object after its first, and the closing brace. -/
def restFields : List (String × Json) → List Char
  | [] => ['\x7d']
  | (k, v) :: rest => ',' :: (quotedChars k ++ ':' :: (chars v ++ restFields rest))

end

/-- The compact form of a value, as a text. -/
def compact (v : Json) : String :=
  String.ofList v.chars

/-! ## The form with lines -/

/-- A line break and the indentation of a depth. -/
def newLine (depth : Nat) : List Char :=
  '\n' :: List.replicate (2 * depth) ' '

mutual

/-- The form with lines of a value that stands at a depth. -/
def prettyChars (depth : Nat) : Json → List Char
  | .arr [] => ['[', ']']
  | .arr (v :: rest) =>
    '[' :: (newLine (depth + 1) ++ prettyChars (depth + 1) v ++ prettyItems depth rest)
  | .obj [] => ['\x7b', '\x7d']
  | .obj ((k, v) :: rest) =>
    '\x7b' :: (newLine (depth + 1) ++ quotedChars k ++
      ':' :: ' ' :: (prettyChars (depth + 1) v ++ prettyFields depth rest))
  | v => chars v

/-- The items of an array at a depth after its first, and the closing bracket. -/
def prettyItems (depth : Nat) : List Json → List Char
  | [] => newLine depth ++ [']']
  | v :: rest =>
    ',' :: (newLine (depth + 1) ++ prettyChars (depth + 1) v ++ prettyItems depth rest)

/-- The fields of an object at a depth after its first, and the closing brace. -/
def prettyFields (depth : Nat) : List (String × Json) → List Char
  | [] => newLine depth ++ ['\x7d']
  | (k, v) :: rest =>
    ',' :: (newLine (depth + 1) ++ quotedChars k ++
      ':' :: ' ' :: (prettyChars (depth + 1) v ++ prettyFields depth rest))

end

/-- The form with lines of a value, as a text. -/
def pretty (v : Json) : String :=
  String.ofList (prettyChars 0 v)

end Switchboard.Json
