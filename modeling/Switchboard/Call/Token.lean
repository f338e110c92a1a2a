import Switchboard.Json.Basic
import Switchboard.Json.Mismatch
import Switchboard.Decimal.Literal
import Switchboard.Text.Name

/-!
# What a key of a call means

A key means a value: a quoted text means itself, a registered fragment means
the fragment, a literal means what it spells, and all else is a field of the
data context.  Every key means something, if only `null`.

## Main definitions

* `Fragments`: texts registered under keys, of which an empty one stands for
  its key.
* `Token.quoted? token`: the text that a quoted token means.
* `Token.key token`: the key that a token looks up.
* `Token.literal? token`: the truth value or number that a token spells.
* `Token.resolve token context fragments`: the value that a token means.
-/

namespace Switchboard

/-- Texts registered under keys. -/
abbrev Fragments := Dict String

namespace Fragments

/-- The text that a key stands for: what is registered, or the key itself if
what is registered is empty. -/
def fragment? (table : Fragments) (key : String) : Option String :=
  (table.get? key).map fun text => if text.isEmpty then key else text

/-- The rows of an object of texts, in the order of its fields. -/
def rowsOf : Json.Fields → Except Json.Mismatch (List (String × String))
  | [] => .ok []
  | (key, v) :: rest =>
    match Json.asText v, rowsOf rest with
    | .ok text, .ok rows => .ok ((key, text) :: rows)
    | .error e, _ => .error e
    | _, .error e => .error e

/-- A table read from an object of texts. -/
def ofJson : Json → Except Json.Mismatch Fragments
  | .obj fields => (rowsOf fields).map Dict.ofList
  | v => .error (Json.unexpected v "a map")

end Fragments

namespace Token

/-- The characters between two quotes, if a text starts and ends with them and
has none in between. -/
def enclosed? (quote : Char) : List Char → Option (List Char)
  | [] => none
  | first :: rest =>
    if first = quote ∧ rest.getLast? = some quote ∧ quote ∉ rest.dropLast then some rest.dropLast
    else none

/-- The text that a token in single quotes means. -/
def quoted? (token : String) : Option String :=
  (enclosed? '\'' token.toList).map String.ofList

/-- The key that a token looks up: what stands between backquotes, or the
whole token. -/
def key (token : String) : String :=
  match enclosed? '\x60' token.toList with
  | some inner => String.ofList inner
  | none => token

/-- Whether a token is a reference by name, with or without a leading `@`. -/
def isReference (token : String) : Bool :=
  match token.toList with
  | '@' :: rest => Text.isNameChars rest
  | cs => Text.isNameChars cs

/-- The number that a text spells: an integer of sixty-four bits, else a finite
fraction. -/
def number? (cs : List Char) : Option Json :=
  match Decimal.int64? cs with
  | some n => some (.num (.int n))
  | none => (Decimal.finite? cs).map fun x => .num (.float x)

/-- The value that a token spells.  The words `true` and `false` are no names;
any other name is a reference, even one that would spell a number. -/
def literal? (token : String) : Option Json :=
  if token = "true" then some (.bool true)
  else if token = "false" then some (.bool false)
  else if isReference token then none
  else number? token.toList

/-- The value of a field of the context, `null` if there is none. -/
def lookUp (context : Json.Fields) (key : String) : Json :=
  (context.get? key).getD .null

/-- The value that a token means.  Fragments are looked at only if a table of
them is given. -/
def resolve (token : String) (context : Json.Fields) (fragments : Option Fragments) : Json :=
  match quoted? token with
  | some text => .str text
  | none =>
    match fragments.bind (·.fragment? (key token)) with
    | some text => .str text
    | none => (literal? token).getD (lookUp context (key token))

end Token

end Switchboard
