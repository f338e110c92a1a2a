import Switchboard.Decimal.Literal
import Switchboard.Decimal.Shortest

/-!
# Laying out the digits of a number

The digits of a binary64 number are chosen once, by `Binary.shortest`.  How
they are written, with a point or with an exponent, differs from one output to
another and is a `Layout`.
-/

namespace Switchboard.Decimal

/-- How the digits of a number are written.  Below `lowest` and above
`highest`, which bound the power of ten of the first digit, there is an
exponent; in between there is a point with a digit on either side. -/
structure Layout where
  /-- The least power of ten written with a point, if there is one. -/
  lowest : Option Int
  /-- The greatest power of ten written with a point, if there is one. -/
  highest : Option Int
  /-- A positive exponent has its sign written. -/
  signedExponent : Bool

/-- Digits around a point, with at least one on either side. -/
def pointChars (d : Digits) : List Char :=
  if d.exponent < 0 then
    '0' :: '.' :: (List.replicate (-d.exponent - 1).toNat '0' ++ d.digits)
  else
    let places := d.exponent.toNat + 1
    let whole := d.digits.take places
    let fraction := d.digits.drop places
    whole ++ List.replicate (places - whole.length) '0' ++
      '.' :: (if fraction.isEmpty then ['0'] else fraction)

/-- Digits with an exponent, and a point after the first if there are more. -/
def exponentChars (signed : Bool) (d : Digits) : List Char :=
  let fraction := d.digits.drop 1
  d.digits.take 1 ++ (if fraction.isEmpty then [] else '.' :: fraction) ++
    'e' :: ((if signed && d.exponent ≥ 0 then ['+'] else []) ++ intChars d.exponent)

/-- Whether a layout writes a power of ten with a point. -/
def Layout.usesPoint (layout : Layout) (exponent : Int) : Bool :=
  layout.lowest.all (· ≤ exponent) && layout.highest.all (exponent ≤ ·)

/-- The text of a finite number.  Zero has a point in every layout. -/
def Layout.chars (layout : Layout) (x : Float) : List Char :=
  let b := Binary.ofFloat x
  let magnitude :=
    if b.mantissa = 0 then ['0', '.', '0']
    else
      let d := b.shortest
      if layout.usesPoint d.exponent then pointChars d
      else exponentChars layout.signedExponent d
  if isNegative x then '-' :: magnitude else magnitude

end Switchboard.Decimal
