import Switchboard.Toml.Basic
import Switchboard.Json.Parser

/-!
# Reading settings files

A file is a sequence of lines, each with a key and its value, the header of a
table, or nothing; a comment may stand behind each.

## Main definitions

* `Toml.value?`: a value at the start of a text.
* `Toml.parse? s`: the table that a text is.
-/

namespace Switchboard.Toml

/-- The characters that may stand between tokens of a line. -/
def isSpace (c : Char) : Bool :=
  c == ' ' || c == '\t'

/-- The text from its first character that is no space. -/
def skipSpace (cs : List Char) : List Char :=
  cs.dropWhile isSpace

/-- What follows a line break. -/
def afterBreak? : List Char → Option (List Char)
  | '\n' :: rest => some rest
  | '\r' :: '\n' :: rest => some rest
  | _ => none

/-- The characters of a comment or a text that are no controls. -/
def isVisible (c : Char) : Bool :=
  c == '\t' || (c.toNat ≥ 0x20 && c.toNat != 0x7F)

/-- What follows the rest of a line on which only a comment may stand. -/
def lineEnd? (cs : List Char) : Option (List Char) :=
  match skipSpace cs with
  | [] => some []
  | '#' :: rest =>
    let after := rest.dropWhile isVisible
    if after.isEmpty then some [] else afterBreak? after
  | rest => afterBreak? rest

/-- What follows blanks, line breaks and comments. -/
def skipLines : Nat → List Char → List Char
  | 0, cs => cs
  | fuel + 1, cs =>
    match skipSpace cs with
    | '#' :: rest => skipLines fuel (rest.dropWhile isVisible)
    | '\n' :: rest => skipLines fuel rest
    | '\r' :: '\n' :: rest => skipLines fuel rest
    | rest => rest

/-! ## Texts -/

/-- The character of an escape, and what follows it. -/
def escaped? : List Char → Option (Char × List Char)
  | 'b' :: rest => some (Char.ofNat 8, rest)
  | 't' :: rest => some ('\t', rest)
  | 'n' :: rest => some ('\n', rest)
  | 'f' :: rest => some (Char.ofNat 12, rest)
  | 'r' :: rest => some ('\r', rest)
  | '"' :: rest => some ('"', rest)
  | '\\' :: rest => some ('\\', rest)
  | 'u' :: rest => codePoint? 4 rest
  | 'U' :: rest => codePoint? 8 rest
  | _ => none
where
  /-- The character whose number has so many hexadecimal digits. -/
  codePoint? (length : Nat) (cs : List Char) : Option (Char × List Char) :=
    if cs.length < length then none
    else
      match Json.hexNumber? (cs.take length) with
      | some n =>
        if h : n.isValidChar then some (Char.ofNatAux n h, cs.drop length) else none
      | none => none

/-- A text on one line up to its closing quote, with or without escapes. -/
def lineText? (quote : Char) (escapes : Bool) : Nat → List Char → Option (List Char × List Char)
  | 0, _ => none
  | _, [] => none
  | fuel + 1, c :: rest =>
    if c = quote then some ([], rest)
    else if escapes && c = '\\' then
      match escaped? rest with
      | none => none
      | some (e, rest) =>
        (lineText? quote escapes fuel rest).map fun (cs, after) => (e :: cs, after)
    else if isVisible c then
      (lineText? quote escapes fuel rest).map fun (cs, after) => (c :: cs, after)
    else none

/-- What follows a backslash at the end of a line: the text from its next
character that is no blank, if a line break comes before that. -/
def joinLines? (cs : List Char) : Option (List Char) :=
  (afterBreak? (skipSpace cs)).map fun rest =>
    rest.dropWhile fun c => isSpace c || c == '\n' || c == '\r'

/-- A text over several lines up to its three closing quotes, with or without
escapes.  One or two quotes more belong to the text. -/
def blockText? (quote : Char) (escapes : Bool) : Nat → List Char → Option (List Char × List Char)
  | 0, _ => none
  | _, [] => none
  | fuel + 1, c :: rest =>
    if c = quote then
      let quotes := (c :: rest).takeWhile (· == quote)
      if quotes.length < 3 then
        (blockText? quote escapes fuel rest).map fun (cs, after) => (c :: cs, after)
      else if quotes.length ≤ 5 then some (quotes.drop 3, (c :: rest).dropWhile (· == quote))
      else none
    else if escapes && c = '\\' then
      match joinLines? rest with
      | some rest => blockText? quote escapes fuel rest
      | none =>
        match escaped? rest with
        | none => none
        | some (e, rest) =>
          (blockText? quote escapes fuel rest).map fun (cs, after) => (e :: cs, after)
    else
      match afterBreak? (c :: rest) with
      | some rest => (blockText? quote escapes fuel rest).map fun (cs, after) => ('\n' :: cs, after)
      | none =>
        if isVisible c then
          (blockText? quote escapes fuel rest).map fun (cs, after) => (c :: cs, after)
        else none

/-- A text in quotes of either sort, from its first quote on.  A line break
right behind three quotes is left out. -/
def text? (quote : Char) (escapes : Bool) : List Char → Option (List Char × List Char)
  | a :: b :: c :: rest =>
    if a = quote ∧ b = quote ∧ c = quote then
      blockText? quote escapes (rest.length + 1) ((afterBreak? rest).getD rest)
    else lineText? quote escapes (rest.length + 3) (b :: c :: rest)
  | _ :: rest => lineText? quote escapes (rest.length + 1) rest
  | [] => none

/-! ## Keys -/

/-- The characters of a key without quotes. -/
def isKeyChar (c : Char) : Bool :=
  c.isAlphanum || c == '_' || c == '-'

/-- One part of a dotted key, and what follows it. -/
def keyPart? : List Char → Option (String × List Char)
  | '"' :: rest =>
    (lineText? '"' true (rest.length + 1) rest).map fun (cs, after) => (String.ofList cs, after)
  | '\'' :: rest =>
    (lineText? '\'' false (rest.length + 1) rest).map fun (cs, after) => (String.ofList cs, after)
  | cs =>
    let part := cs.takeWhile isKeyChar
    if part.isEmpty then none else some (String.ofList part, cs.dropWhile isKeyChar)

/-- A dotted key with blanks around its parts, and what follows it. -/
def key? : Nat → List Char → Option (List String × List Char)
  | 0, _ => none
  | fuel + 1, cs =>
    match keyPart? (skipSpace cs) with
    | none => none
    | some (part, rest) =>
      match skipSpace rest with
      | '.' :: rest => (key? fuel rest).map fun (path, after) => (part :: path, after)
      | rest => some ([part], rest)

/-! ## Values -/

/-- The digits of a number in a base, without the marks between them; a mark
stands between two digits. -/
def digits? (isDigit : Char → Bool) : List Char → Option (List Char)
  | [] => none
  | [c] => if isDigit c then some [c] else none
  | c :: '_' :: rest => if isDigit c then (digits? isDigit rest).map (c :: ·) else none
  | c :: rest => if isDigit c then (digits? isDigit rest).map (c :: ·) else none

/-- The integer that digits in a base spell. -/
def basedInteger? (base : Nat) (cs : List Char) : Option Int :=
  let value? (c : Char) : Option Nat := (Json.hexValue? c).filter (· < base)
  match digits? (fun c => (value? c).isSome) cs with
  | none => none
  | some digits =>
    let n : Nat := digits.foldl (fun sum c => sum * base + (value? c).getD 0) 0
    some n

/-- The integer that a word spells: decimal with an optional sign and without
leading zeros, or in another base. -/
def integer? (word : List Char) : Option Int :=
  let n? : Option Int :=
    match word with
    | '0' :: 'x' :: rest => basedInteger? 16 rest
    | '0' :: 'o' :: rest => basedInteger? 8 rest
    | '0' :: 'b' :: rest => basedInteger? 2 rest
    | word =>
      let (negative, cs) := Decimal.splitSign word
      match cs with
      | '0' :: _ :: _ => none
      | cs => (basedInteger? 10 cs).map fun n => if negative then -n else n
  n?.filter Decimal.isInt64

/-- The characters of a value that is a word. -/
def isWordChar (c : Char) : Bool :=
  isKeyChar c || c == '+' || c == '.' || c == ':'

/-- The value that a word spells. -/
def word? (word : List Char) : Option Item :=
  if word = "true".toList then some (.flag true)
  else if word = "false".toList then some (.flag false)
  else (integer? word).map .integer

mutual

/-- A value at the start of a text, and what follows it. -/
def value? : Nat → List Char → Option (Item × List Char)
  | 0, _ => none
  | fuel + 1, cs =>
    match cs with
    | '"' :: _ => (text? '"' true cs).map fun (t, after) => (.text (String.ofList t), after)
    | '\'' :: _ => (text? '\'' false cs).map fun (t, after) => (.text (String.ofList t), after)
    | '[' :: rest => (items? fuel rest).map fun (items, after) => (.array items, after)
    | '\x7b' :: rest =>
      match skipSpace rest with
      | '\x7d' :: after => some (.table .inlined [], after)
      | rest =>
        (inlineEntries? fuel [] rest).map fun (entries, after) => (.table .inlined entries, after)
    | cs => (word? (cs.takeWhile isWordChar)).map fun item => (item, cs.dropWhile isWordChar)

/-- The items of an array up to its closing bracket; line breaks may stand
between them and a comma behind the last. -/
def items? : Nat → List Char → Option (List Item × List Char)
  | 0, _ => none
  | fuel + 1, cs =>
    match skipLines cs.length cs with
    | ']' :: after => some ([], after)
    | cs =>
      match value? fuel cs with
      | none => none
      | some (item, rest) =>
        match skipLines rest.length rest with
        | ',' :: rest => (items? fuel rest).map fun (items, after) => (item :: items, after)
        | ']' :: after => some ([item], after)
        | _ => none

/-- The entries of a table on one line up to its closing brace. -/
def inlineEntries? : Nat → Entries → List Char → Option (Entries × List Char)
  | 0, _, _ => none
  | fuel + 1, entries, cs =>
    match key? cs.length cs with
    | some (path, '=' :: rest) =>
      match value? fuel (skipSpace rest) with
      | none => none
      | some (item, rest) =>
        match entries.put? item path with
        | none => none
        | some entries =>
          match skipSpace rest with
          | ',' :: rest => inlineEntries? fuel entries rest
          | '\x7d' :: after => some (entries, after)
          | _ => none
    | _ => none

end

/-! ## Files -/

/-- The table that the lines of a text make, given the table made so far and
the path of the table that is open. -/
def lines? : Nat → List String → Entries → List Char → Option Entries
  | 0, _, _, _ => none
  | fuel + 1, opened, entries, cs =>
    match skipSpace cs with
    | [] => some entries
    | '[' :: rest =>
      match key? rest.length rest with
      | some (path, ']' :: rest) =>
        match entries.openTable? path, lineEnd? rest with
        | some entries, some rest => lines? fuel path entries rest
        | _, _ => none
      | _ => none
    | c :: rest =>
      match lineEnd? (c :: rest) with
      | some rest => lines? fuel opened entries rest
      | none =>
        match key? (rest.length + 1) (c :: rest) with
        | some (path, '=' :: rest) =>
          match value? (rest.length + 1) (skipSpace rest) with
          | none => none
          | some (item, rest) =>
            match entries.within? (·.put? item path) opened, lineEnd? rest with
            | some entries, some rest => lines? fuel opened entries rest
            | _, _ => none
        | _ => none

/-- The table that a text is; a byte order mark may stand in front of it. -/
def parse? (s : String) : Option Entries :=
  let cs :=
    match s.toList with
    | c :: rest => if c.toNat = 0xFEFF then rest else c :: rest
    | [] => []
  lines? (cs.length + 1) [] [] cs

end Switchboard.Toml
