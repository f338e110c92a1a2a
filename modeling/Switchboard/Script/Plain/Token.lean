import Switchboard.Decimal.Literal
import Switchboard.Json.Parser
import Switchboard.Text.Blank
import Switchboard.Text.Name

/-!
# Tokens of scripts

A script is read into words, literals and signs.  Blanks and comments stand
between them and mean nothing.

## Main definitions

* `Token`: a word, a literal or a sign.
* `Token.scan? s`: the tokens of a script.
-/

namespace Switchboard.Script.Plain

inductive Token where
  | word (name : String)
  | int (value : Int)
  | float (value : Float)
  | text (value : String)
  | char (value : Char)
  | sign (text : String)

namespace Token

/-! ## Words and signs -/

/-- Whether a word has a letter before any digit. -/
def isWellFormed (word : List Char) : Bool :=
  ((word.dropWhile (· == '_')).head?.map Char.isAlpha).getD false

/-- The signs of the language, a longer one before one that it starts with. -/
def signs : List (List Char) :=
  ["#\x7b", "==", "!=", "<=", ">=", "&&", "||", "+=", "-=", "*=", "/=", "%=", "\x7b", "\x7d",
   "(", ")", "[", "]", "+", "-", "*", "/", "%", "!", "=", "<", ">", ".", ",", ":", ";"].map
    String.toList

/-- Pairs of characters that start no sign of the language. -/
def reserved : List (List Char) :=
  ["===", "!==", "++", "--", "->", "=>", "<-", ":=", "::", "..", "**", "<<", ">>", "*)", "(*",
   "?.", "??"].map String.toList

/-- The sign at the start of a text, and what follows it. -/
def sign? (cs : List Char) : Option (String × List Char) :=
  if reserved.any (·.isPrefixOf cs) then none
  else
    (signs.find? (·.isPrefixOf cs)).map fun sign =>
      (String.ofList sign, cs.drop sign.length)

/-! ## Quoted literals -/

/-- The number of hexadecimal digits that an escape takes. -/
def hexLength (c : Char) : Nat :=
  if c = 'x' then 2 else if c = 'u' then 4 else if c = 'U' then 8 else 0

/-- The character that a letter after a backslash stands for. -/
def escaped? (c : Char) : Option Char :=
  if c = '\\' ∨ c = '"' ∨ c = '\'' then some c
  else if c = 'n' then some '\n'
  else if c = 'r' then some '\r'
  else if c = 't' then some '\t'
  else none

/-- The character of a code point. -/
def charOf? (n : Nat) : Option Char :=
  if h : n.isValidChar then some (Char.ofNatAux n h) else none

/-- The characters up to a closing quote, and what follows it.  A line break
may not stand inside, except behind a backslash, where it is left out with the
blanks after it. -/
def quoted? (quote : Char) : Nat → List Char → Option (List Char × List Char)
  | 0, _ => none
  | _, [] => none
  | fuel + 1, '\\' :: c :: rest =>
    if c = '\n' then quoted? quote fuel (rest.dropWhile fun b => b == ' ' || b == '\t')
    else if hexLength c > 0 then do
      let n ← Json.hexNumber? (rest.take (hexLength c))
      let e ← charOf? n
      if rest.length < hexLength c then none
      let (cs, after) ← quoted? quote fuel (rest.drop (hexLength c))
      return (e :: cs, after)
    else do
      let e ← escaped? c
      let (cs, after) ← quoted? quote fuel rest
      return (e :: cs, after)
  | fuel + 1, c :: rest =>
    if c = quote then some ([], rest)
    else if c = '\n' ∨ c = '\\' then none
    else do
      let (cs, after) ← quoted? quote fuel rest
      return (c :: cs, after)

/-! ## Numbers -/

/-- Whether a character is a digit or the mark that may stand between digits. -/
def isDigitOrMark (c : Char) : Bool :=
  c.isDigit || c == '_'

/-- The value of a digit in a base, if it is one. -/
def digitIn? (base : Nat) (c : Char) : Option Nat :=
  (Json.hexValue? c).filter (· < base)

/-- The base that a letter behind a leading zero announces. -/
def baseOf? (c : Char) : Option Nat :=
  if c = 'x' ∨ c = 'X' then some 16
  else if c = 'o' ∨ c = 'O' then some 8
  else if c = 'b' ∨ c = 'B' then some 2
  else none

/-- The integer that digits in a base spell, if it has sixty-four bits. -/
def basedInt? (base : Nat) (digits : List Char) : Option Int :=
  if digits.isEmpty then none
  else
    let n? := digits.foldl (fun sum c => do return (← sum) * base + (← digitIn? base c)) (some 0)
    (n?.map fun n => (n : Int)).filter Decimal.isInt64

/-- The fraction at the start of a text: a point with digits after it, or a
point that cannot belong to a name. -/
def fraction (cs : List Char) : List Char × List Char :=
  match cs with
  | '.' :: rest =>
    match rest with
    | [] => ([], cs)
    | c :: _ =>
      if c.isDigit then
        ('.' :: (rest.takeWhile isDigitOrMark).filter Char.isDigit, rest.dropWhile isDigitOrMark)
      else if c == '_' || c == '.' || Text.isNameHead c then ([], cs)
      else (['.', '0'], rest)
  | _ => ([], cs)

/-- The exponent at the start of a text. -/
def exponent (cs : List Char) : List Char × List Char :=
  match cs with
  | 'e' :: c :: rest =>
    if c.isDigit then
      ('e' :: c :: (rest.takeWhile isDigitOrMark).filter Char.isDigit, rest.dropWhile isDigitOrMark)
    else if c == '+' || c == '-' then
      ('e' :: c :: (rest.takeWhile isDigitOrMark).filter Char.isDigit, rest.dropWhile isDigitOrMark)
    else ([], cs)
  | _ => ([], cs)

/-- The number at the start of a text that starts with a digit, negated if a
minus sign belongs to it, and what follows.  Digits that no integer of
sixty-four bits has make a fraction. -/
def number? (negative : Bool) (cs : List Char) : Option (Token × List Char) :=
  let based :=
    match cs with
    | '0' :: c :: rest => (baseOf? c).map fun base => (base, rest)
    | _ => none
  match based with
  | some (base, rest) =>
    let digits := (rest.takeWhile fun c => c == '_' || (digitIn? base c).isSome).filter (· != '_')
    (basedInt? base digits).map fun n =>
      (.int (if negative then -n else n), rest.dropWhile fun c => c == '_' || (digitIn? base c).isSome)
  | none =>
    let whole := (cs.takeWhile isDigitOrMark).filter Char.isDigit
    let (point, rest) := fraction (cs.dropWhile isDigitOrMark)
    let (power, rest) := exponent rest
    let signed := (if negative then ['-'] else []) ++ whole
    match if point.isEmpty && power.isEmpty then Decimal.int64? signed else none with
    | some n => some (.int n, rest)
    | none => (Decimal.literal? (signed ++ point ++ power)).map fun l => (.float l.toFloat, rest)

/-! ## Comments -/

/-- What follows a comment between marks that may lie inside one another. -/
def skipComment? : Nat → List Char → Option (List Char)
  | _, [] => none
  | depth, '/' :: '*' :: rest => skipComment? (depth + 1) rest
  | depth, '*' :: '/' :: rest =>
    match depth with
    | 0 => some rest
    | depth + 1 => skipComment? depth rest
  | depth, _ :: rest => skipComment? depth rest

/-! ## Scanning -/

/-- Whether a token ends an operand, so that a minus sign behind it is an
operator and no part of a number. -/
def endsOperand : Token → Bool
  | sign s => s == ")" || s == "]" || s == "\x7d"
  | _ => true

/-- Words that are followed by an operand. -/
def operandWords : List String :=
  ["return", "throw", "in", "if", "while", "else", "break"]

/-- Whether a minus sign behind a token belongs to a number. -/
def allowsNegative : Option Token → Bool
  | none => true
  | some (word name) => operandWords.contains name
  | some token => !token.endsOperand

/-- The token at the start of a text that starts with no blank or comment, and
what follows it. -/
def next? (previous : Option Token) : List Char → Option (Token × List Char)
  | [] => none
  | c :: rest =>
    if Text.isNameHead c then
      let name := c :: rest.takeWhile Text.isNameTail
      if isWellFormed name then some (word (String.ofList name), rest.dropWhile Text.isNameTail) else none
    else if c.isDigit then number? false (c :: rest)
    else if c = '"' then
      (quoted? '"' (rest.length + 1) rest).map fun (cs, after) => (text (String.ofList cs), after)
    else if c = '\'' then
      match quoted? '\'' (rest.length + 1) rest with
      | some ([e], after) => some (char e, after)
      | _ => none
    else if c = '-' && allowsNegative previous && (rest.head?.map Char.isDigit).getD false then
      number? true rest
    else (sign? (c :: rest)).map fun (s, after) => (sign s, after)

/-- The tokens of a text, given the one before it.  `fuel` bounds their number
and that of the comments. -/
def scanFrom? : Nat → Option Token → List Char → Option (List Token)
  | 0, _, _ => none
  | fuel + 1, previous, cs =>
    match Text.trimStart cs with
    | [] => some []
    | '/' :: '/' :: rest => scanFrom? fuel previous (rest.dropWhile (· != '\n'))
    | '/' :: '*' :: rest => (skipComment? 0 rest).bind (scanFrom? fuel previous)
    | cs =>
      match next? previous cs with
      | none => none
      | some (token, rest) => (scanFrom? fuel (some token) rest).map (token :: ·)

def scan? (source : String) : Option (List Token) :=
  scanFrom? (source.toList.length + 1) none source.toList

end Token

end Switchboard.Script.Plain
