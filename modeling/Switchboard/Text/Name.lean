/-!
# Names

The token grammar that function names, schema names and references to fields
share: a letter or underscore, then letters, digits and underscores, all of
them ASCII.
-/

namespace Switchboard.Text

/-- The characters a name may start with. -/
def isNameHead (c : Char) : Bool :=
  c.isAlpha || c == '_'

/-- The characters a name may go on with. -/
def isNameTail (c : Char) : Bool :=
  c.isAlphanum || c == '_'

def isNameChars : List Char → Bool
  | [] => false
  | c :: rest => isNameHead c && rest.all isNameTail

def isName (s : String) : Bool :=
  isNameChars s.toList

end Switchboard.Text
