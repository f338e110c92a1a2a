import Switchboard.Json.Basic
import Switchboard.Decimal.Literal

/-!
# Numbers in JSON text

A number without point and exponent that fits sixty-four bits is an integer.
Any other is a fraction, read in machine arithmetic: the digits that fit a
word of sixty-four bits make a significand, and one multiplication or division
by a power of ten scales it.  Negative zero is a fraction.

## Main definitions

* `Significand`: the digits that fit a word, with a power of ten.
* `scaled? significand exponent`: the fraction they stand for.
* `Number.ofNumeral? cs`: the number that a numeral stands for, if it is one.
-/

namespace Switchboard.Json

/-- The leading digits of a numeral that fit a word of sixty-four bits, and the
power of ten that they count. -/
structure Significand where
  word : Nat
  exponent : Int
  /-- A digit did not fit, and those after it are dropped. -/
  full : Bool

namespace Significand

/-- Whether one more digit still fits the word. -/
def fits (s : Significand) (digit : Nat) : Bool :=
  s.word * 10 + digit ≤ Decimal.word64Max

/-- Take a digit before the point: one that is dropped counts a power of ten. -/
def pushWhole (s : Significand) (c : Char) : Significand :=
  let digit := c.toNat - '0'.toNat
  if !s.full && s.fits digit then { s with word := s.word * 10 + digit }
  else { s with exponent := s.exponent + 1, full := true }

/-- Take a digit after the point: one that is dropped counts nothing. -/
def pushFraction (s : Significand) (c : Char) : Significand :=
  let digit := c.toNat - '0'.toNat
  if !s.full && s.fits digit then
    { s with word := s.word * 10 + digit, exponent := s.exponent - 1 }
  else { s with full := true }

end Significand

/-- The power of ten nearest to `10 ^ n`. -/
def powerOfTen (n : Nat) : Float :=
  Float.ofScientific 1 false n

/-- Scale by a power of ten in one step where binary64 holds the power, and
below that range in steps of `10 ^ 308`; four of them leave nothing. -/
def scale? : Nat → Float → Int → Option Float
  | 0, _, _ => some 0
  | steps + 1, x, exponent =>
    if exponent.natAbs ≤ 308 then
      if exponent ≥ 0 then
        (some (x * powerOfTen exponent.natAbs)).filter Float.isFinite
      else some (x / powerOfTen exponent.natAbs)
    else if x == 0 then some 0
    else if exponent ≥ 0 then none
    else scale? steps (x / powerOfTen 308) (exponent + 308)

/-- The fraction of a significand and an exponent after it, unless it lies
beyond the range of binary64. -/
def scaled? (s : Significand) (exponent : Int) : Option Float :=
  scale? 5 (UInt64.ofNat s.word).toFloat (s.exponent + exponent)

/-- Whether the digits before the point are as JSON has them: there is one, and
the first of several is not zero. -/
def isWhole : List Char → Bool
  | [] => false
  | ['0'] => true
  | c :: _ => c != '0'

/-- The integer of digits that fit, or the fraction nearest to it. -/
def Number.ofWhole (negative : Bool) (digits : List Char) : Option Number :=
  let n := Nat.ofDigitChars 10 digits 0
  if !negative && n ≤ Decimal.word64Max then some (.int n)
  else if negative && n != 0 && n ≤ 9223372036854775808 then some (.int (-n))
  else
    let magnitude := scaled? (digits.foldl Significand.pushWhole ⟨0, 0, false⟩) 0
    magnitude.map fun x => .float (if negative then -x else x)

/-- The number that the whole of a text stands for. -/
def Number.ofNumeral? (cs : List Char) : Option Number :=
  let negative := cs.head? == some '-'
  let whole := Decimal.spanDigits (if negative then cs.drop 1 else cs)
  if !isWhole whole.1 then none
  else if whole.2.isEmpty then ofWhole negative whole.1
  else
    let significand := whole.1.foldl Significand.pushWhole ⟨0, 0, false⟩
    let fraction : Option (Significand × List Char) :=
      match whole.2 with
      | '.' :: rest =>
        let digits := Decimal.spanDigits rest
        if digits.1.isEmpty then none
        else some (digits.1.foldl Significand.pushFraction { significand with full := false },
          digits.2)
      | rest => some (significand, rest)
    match fraction with
    | none => none
    | some (s, rest) =>
      match Decimal.exponent? rest with
      | none => none
      | some e => (scaled? s e).map fun x => .float (if negative then -x else x)

end Switchboard.Json
