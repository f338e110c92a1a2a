import Switchboard.Json.Numeral

/-!
# Reading JSON text

The grammar is the standard one, with arrays and objects at most
`maxDepth` deep.  `document?` keeps the fields of an object as they are
written; `parse?` brings the value into canonical form.

## Main definitions

* `unescape? cs`: the text inside quotes, and what follows the closing quote.
* `document? s`: the value that a text spells.
* `parse? s`: that value in canonical form.
-/

namespace Switchboard.Json

/-- How deep arrays and objects may lie inside one another. -/
def maxDepth : Nat := 127

/-- The characters that may stand between tokens. -/
def isSpace (c : Char) : Bool :=
  c == ' ' || c == '\n' || c == '\r' || c == '\t'

/-- The text from its first character that is no space. -/
def skipSpace (cs : List Char) : List Char :=
  cs.dropWhile isSpace

/-! ## Texts -/

/-- The number that a hexadecimal digit spells. -/
def hexValue? (c : Char) : Option Nat :=
  if c.isDigit then some (c.toNat - '0'.toNat)
  else if 'a' ≤ c && c ≤ 'f' then some (c.toNat - 'a'.toNat + 10)
  else if 'A' ≤ c && c ≤ 'F' then some (c.toNat - 'A'.toNat + 10)
  else none

/-- The number that hexadecimal digits spell. -/
def hexNumber? (digits : List Char) : Option Nat :=
  digits.foldl (fun sum c => do return (← sum) * 16 + (← hexValue? c)) (some 0)

/-- What one step inside quotes yields: a character, or a unit of sixteen bits
written by its number, which may be one half of a character. -/
inductive TextUnit where
  | char (c : Char)
  | half (n : Nat)

/-- The character that a letter after a backslash stands for. -/
def escaped? (c : Char) : Option Char :=
  if c = '"' ∨ c = '\\' ∨ c = '/' then some c
  else if c = 'n' then some '\n'
  else if c = 'r' then some '\r'
  else if c = 't' then some '\t'
  else if c = 'b' then some (Char.ofNat 8)
  else if c = 'f' then some (Char.ofNat 12)
  else none

/-- The units up to the closing quote, and what follows it. -/
def textUnits? : List Char → Option (List TextUnit × List Char)
  | [] => none
  | '"' :: rest => some ([], rest)
  | '\\' :: 'u' :: a :: b :: c :: d :: rest => do
    let n ← hexNumber? [a, b, c, d]
    let (units, after) ← textUnits? rest
    return (.half n :: units, after)
  | '\\' :: c :: rest => do
    let e ← escaped? c
    let (units, after) ← textUnits? rest
    return (.char e :: units, after)
  | c :: rest =>
    if c.toNat < 32 then none
    else do
      let (units, after) ← textUnits? rest
      return (.char c :: units, after)

/-- Whether a unit is the first half of a character beyond sixteen bits. -/
def isHighHalf (n : Nat) : Bool :=
  0xD800 ≤ n && n < 0xDC00

/-- Whether a unit is the second half of a character beyond sixteen bits. -/
def isLowHalf (n : Nat) : Bool :=
  0xDC00 ≤ n && n < 0xE000

/-- Put halves together; a half on its own is no text. -/
def joinUnits? : List TextUnit → Option (List Char)
  | [] => some []
  | .half high :: .half low :: rest =>
    if isHighHalf high then
      if isLowHalf low then
        (joinUnits? rest).map
          (Char.ofNat (0x10000 + (high - 0xD800) * 0x400 + (low - 0xDC00)) :: ·)
      else none
    else if isLowHalf high then none
    else (joinUnits? (.half low :: rest)).map (Char.ofNat high :: ·)
  | .half n :: rest =>
    if isHighHalf n || isLowHalf n then none
    else (joinUnits? rest).map (Char.ofNat n :: ·)
  | .char c :: rest => (joinUnits? rest).map (c :: ·)

/-- The text inside quotes, from behind the opening one, and what follows. -/
def unescape? (cs : List Char) : Option (String × List Char) := do
  let (units, rest) ← textUnits? cs
  let text ← joinUnits? units
  return (String.ofList text, rest)

/-! ## Values -/

/-- The characters that can belong to a numeral. -/
def isNumeralChar (c : Char) : Bool :=
  c.isDigit || c == '-' || c == '+' || c == '.' || c == 'e' || c == 'E'

/-- What is left of a text behind a word it starts with. -/
def afterWord? (word : String) (cs : List Char) : Option (List Char) :=
  if word.toList.isPrefixOf cs then some (cs.drop word.length) else none

mutual

/-- A value at the start of a text, and what follows it.  `fuel` bounds the
tokens read and `depth` the levels left for arrays and objects. -/
def value? : Nat → Nat → List Char → Option (Json × List Char)
  | 0, _, _ => none
  | fuel + 1, depth, cs =>
    match skipSpace cs with
    | [] => none
    | '"' :: rest => (unescape? rest).map fun (s, after) => (.str s, after)
    | '[' :: rest =>
      match depth with
      | 0 => none
      | depth + 1 =>
        match skipSpace rest with
        | ']' :: after => some (.arr [], after)
        | rest => (items? fuel depth rest).map fun (items, after) => (.arr items, after)
    | '\x7b' :: rest =>
      match depth with
      | 0 => none
      | depth + 1 =>
        match skipSpace rest with
        | '\x7d' :: after => some (.obj [], after)
        | rest => (fieldList? fuel depth rest).map fun (fields, after) => (.obj fields, after)
    | 'n' :: rest => (afterWord? "ull" rest).map fun after => (.null, after)
    | 't' :: rest => (afterWord? "rue" rest).map fun after => (.bool true, after)
    | 'f' :: rest => (afterWord? "alse" rest).map fun after => (.bool false, after)
    | cs =>
      (Number.ofNumeral? (cs.takeWhile isNumeralChar)).map fun n =>
        (.num n, cs.dropWhile isNumeralChar)

/-- The items of an array up to its closing bracket. -/
def items? : Nat → Nat → List Char → Option (List Json × List Char)
  | 0, _, _ => none
  | fuel + 1, depth, cs =>
    match value? fuel depth cs with
    | none => none
    | some (v, rest) =>
      match skipSpace rest with
      | ']' :: after => some ([v], after)
      | ',' :: rest => (items? fuel depth rest).map fun (items, after) => (v :: items, after)
      | _ => none

/-- The fields of an object up to its closing brace. -/
def fieldList? : Nat → Nat → List Char → Option (List (String × Json) × List Char)
  | 0, _, _ => none
  | fuel + 1, depth, cs =>
    match skipSpace cs with
    | '"' :: rest =>
      match unescape? rest with
      | none => none
      | some (key, rest) =>
        match skipSpace rest with
        | ':' :: rest =>
          match value? fuel depth rest with
          | none => none
          | some (v, rest) =>
            match skipSpace rest with
            | '\x7d' :: after => some ([(key, v)], after)
            | ',' :: rest =>
              (fieldList? fuel depth rest).map fun (fields, after) => ((key, v) :: fields, after)
            | _ => none
        | _ => none
    | _ => none

end

/-- The value that a text spells, with the fields of objects as written. -/
def document? (s : String) : Option Json :=
  let cs := s.toList
  match value? (cs.length + 1) maxDepth cs with
  | some (v, rest) => if (skipSpace rest).isEmpty then some v else none
  | none => none

/-- The value that a text spells, in canonical form. -/
def parse? (s : String) : Option Json :=
  (document? s).map canonical

end Switchboard.Json
