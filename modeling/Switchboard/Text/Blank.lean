/-!
# Blank characters and trimming

Text that a caller supplies is trimmed of *blank* characters: those with the
white-space property, wherever they stand in the code space.  Core's
`Char.isWhitespace` knows four of the twenty-five, so the property is a table
of ranges here.

## Main definitions

* `isBlank c`: the character has the white-space property.
* `trim s`: the text without blanks at either end.
* `isAllBlank s`: nothing is left of the text when it is trimmed.
* `pieces sep cs`: the parts of a text between separators.
-/

namespace Switchboard.Text

/-- The code points with the white-space property, as closed ranges. -/
def blankRanges : List (Nat × Nat) :=
  [(0x0009, 0x000D), (0x0020, 0x0020), (0x0085, 0x0085), (0x00A0, 0x00A0),
   (0x1680, 0x1680), (0x2000, 0x200A), (0x2028, 0x2029), (0x202F, 0x202F),
   (0x205F, 0x205F), (0x3000, 0x3000)]

/-- Whether a character has the white-space property. -/
def isBlank (c : Char) : Bool :=
  blankRanges.any fun range => range.1 ≤ c.toNat && c.toNat ≤ range.2

/-! ## Trimming -/

def trimStart (cs : List Char) : List Char :=
  cs.dropWhile isBlank

def trimEnd (cs : List Char) : List Char :=
  (cs.reverse.dropWhile isBlank).reverse

/-- The characters of a text without the blanks at either end. -/
def trimChars (cs : List Char) : List Char :=
  trimEnd (trimStart cs)

def trim (s : String) : String :=
  String.ofList (trimChars s.toList)

def isAllBlank (s : String) : Bool :=
  s.toList.all isBlank

/-! ## Pieces between separators -/

/-- The parts of a text between separators, in order.  There is always one
part more than there are separators, so an empty text has one empty part. -/
def pieces (separator : Char) : List Char → List (List Char)
  | [] => [[]]
  | c :: rest =>
    if c = separator then [] :: pieces separator rest
    else
      match pieces separator rest with
      | [] => [[c]]
      | first :: others => (c :: first) :: others

theorem pieces_ne_nil (separator : Char) (cs : List Char) :
    pieces separator cs ≠ [] := by
  cases cs with
  | nil => simp [pieces]
  | cons c rest =>
    by_cases h : c = separator
    · simp [pieces, h]
    · simp only [pieces, if_neg h]
      split <;> simp

end Switchboard.Text
