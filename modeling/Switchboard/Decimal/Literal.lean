/-!
# Reading decimal numbers

Two grammars of plain decimal text: integers, and fractions with an optional
exponent.  A fraction is read into its digits and a power of ten, and its
value is the nearest binary64 number.

## Main definitions

* `integer? cs`: an optional sign and digits.
* `intChars n`: the digits of an integer, after a minus sign if it is negative.
* `Literal`: the digits and the power of ten of a decimal.
* `literal? cs`: an optional sign, digits around an optional point, and an
  optional exponent.
* `Literal.toFloat`: the nearest binary64 number.
-/

namespace Switchboard.Decimal

/-! ## Integers -/

/-- The least integer of sixty-four bits with a sign. -/
def int64Min : Int := -9223372036854775808
/-- The greatest integer of sixty-four bits with a sign. -/
def int64Max : Int := 9223372036854775807
/-- The greatest integer of sixty-four bits without a sign. -/
def word64Max : Nat := 18446744073709551615

/-- Whether an integer has sixty-four bits with its sign. -/
def isInt64 (n : Int) : Bool :=
  int64Min ≤ n && n ≤ int64Max

/-- The decimal digits of an integer, after a minus sign if it is negative. -/
def intChars : Int → List Char
  | .ofNat n => Nat.toDigits 10 n
  | .negSucc n => '-' :: Nat.toDigits 10 (n + 1)

/-- The number that digits spell, if there are any and nothing else. -/
def natural? (cs : List Char) : Option Nat :=
  if !cs.isEmpty && cs.all Char.isDigit then some (Nat.ofDigitChars 10 cs 0) else none

/-- Split an optional sign off a text: whether it is a minus, and the rest. -/
def splitSign : List Char → Bool × List Char
  | '-' :: rest => (true, rest)
  | '+' :: rest => (false, rest)
  | cs => (false, cs)

/-- An integer written as an optional sign and digits. -/
def integer? (cs : List Char) : Option Int :=
  match splitSign cs with
  | (true, digits) => (natural? digits).map fun n => -(n : Int)
  | (false, digits) => (natural? digits).map fun n => (n : Int)

/-- An integer of sixty-four bits written as an optional sign and digits. -/
def int64? (cs : List Char) : Option Int :=
  (integer? cs).filter isInt64

/-! ## Fractions -/

/-- A decimal: `digits` as one number, times ten to the `exponent`. -/
structure Literal where
  negative : Bool
  digits : List Char
  exponent : Int
deriving DecidableEq

/-- The digits that a text starts with, and the rest. -/
def spanDigits (cs : List Char) : List Char × List Char :=
  (cs.takeWhile Char.isDigit, cs.dropWhile Char.isDigit)

/-- The exponent after the digits: nothing, or the letter `e` with an integer. -/
def exponent? : List Char → Option Int
  | [] => some 0
  | c :: rest => if c = 'e' ∨ c = 'E' then integer? rest else none

/-- A decimal written as an optional sign, digits around an optional point
with at least one digit on either side of it, and an optional exponent. -/
def literal? (cs : List Char) : Option Literal :=
  let signed := splitSign cs
  let whole := spanDigits signed.2
  let fraction :=
    match whole.2 with
    | '.' :: rest => spanDigits rest
    | rest => ([], rest)
  if whole.1.isEmpty && fraction.1.isEmpty then none
  else
    (exponent? fraction.2).map fun e =>
      ⟨signed.1, whole.1 ++ fraction.1, e - fraction.1.length⟩

/-- The nearest binary64 number, an infinity above the range.  An exponent
beyond any that matters is answered at once, without the power of ten. -/
def Literal.toFloat (l : Literal) : Float :=
  let significand := Nat.ofDigitChars 10 l.digits 0
  let magnitude : Float :=
    if significand = 0 then 0
    else if l.exponent > 310 then 1 / 0
    else if l.exponent + l.digits.length < -330 then 0
    else Float.ofScientific significand (l.exponent < 0) l.exponent.natAbs
  if l.negative then -magnitude else magnitude

/-- A decimal with a finite binary64 number nearest to it, and that number. -/
def finite? (cs : List Char) : Option Float :=
  ((literal? cs).map Literal.toFloat).filter Float.isFinite

end Switchboard.Decimal
