import Switchboard.Text.Hidden

/-!
# Texts quoted in diagnostics

A text that a diagnostic cites stands in double quotes, on one line and with
every character to be seen: quotes, backslashes, line breaks and tabs are
escaped by a letter, and characters that do not show on their own by their
number.

## Main definitions

* `cite s`: the text as a diagnostic cites it.
-/

namespace Switchboard.Text

/-- A character of a quoted text. -/
def citeChar (c : Char) : List Char :=
  if c = '"' then ['\\', '"']
  else if c = '\\' then ['\\', '\\']
  else if c = '\n' then ['\\', 'n']
  else if c = '\r' then ['\\', 'r']
  else if c = '\t' then ['\\', 't']
  else if c.toNat = 0 then ['\\', '0']
  else if isHidden c then '\\' :: 'u' :: '\x7b' :: (Nat.toDigits 16 c.toNat ++ ['\x7d'])
  else [c]

/-- A text as a diagnostic cites it. -/
def cite (s : String) : String :=
  String.ofList ('"' :: (s.toList.flatMap citeChar ++ ['"']))

end Switchboard.Text
