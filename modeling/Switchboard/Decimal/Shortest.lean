/-!
# The fewest digits that identify a binary64 number

A binary64 number stands for an interval of reals, those that round to it.
The digits chosen here are the fewest that lie in that interval, and of
several with that count the nearest.

## Main definitions

* `Binary`: a finite positive number as `mantissa * 2 ^ exponent`.
* `Digits`: decimal digits with the exponent of the first.
* `Binary.shortest`: the digits chosen.
-/

namespace Switchboard.Decimal

/-- A finite number without its sign, `mantissa * 2 ^ exponent`. -/
structure Binary where
  mantissa : Nat
  exponent : Int
  /-- The gap to the number below is half the gap to the number above. -/
  narrowBelow : Bool
deriving DecidableEq

/-- The value that the bits of a finite number stand for, its sign aside. -/
def Binary.ofBits (bits : UInt64) : Binary :=
  let word := bits.toNat
  let fraction : Nat := word % Nat.pow 2 52
  let field : Nat := word / Nat.pow 2 52 % Nat.pow 2 11
  if field = 0 then ⟨fraction, -1074, false⟩
  else ⟨fraction + Nat.pow 2 52, (field : Int) - 1075, fraction = 0 && field > 1⟩

/-- The value of a finite number, its sign aside. -/
def Binary.ofFloat (x : Float) : Binary :=
  .ofBits x.toBits

/-- Whether the sign bit is set, as it is for negative zero too. -/
def isNegative (x : Float) : Bool :=
  x.toBits.toNat ≥ Nat.pow 2 63

/-- The number `mantissa * 2 ^ exponent`, for a value that binary64 holds. -/
def Binary.toFloat (mantissa : Nat) (exponent : Int) : Float :=
  if mantissa = 0 then 0
  else
    let shift := max (exponent + mantissa.log2 - 52) (-1074) - exponent
    let aligned :=
      if shift ≥ 0 then mantissa / Nat.pow 2 shift.toNat else mantissa * Nat.pow 2 (-shift).toNat
    Float.ofBits (UInt64.ofNat ((exponent + shift + 1074).toNat * Nat.pow 2 52 + aligned))

/-- Decimal digits, with the power of ten that the first one counts. -/
structure Digits where
  digits : List Char
  exponent : Int
deriving DecidableEq

namespace Binary

/-- Compare quarters of a unit in the last place with `c * 10 ^ g`, exactly:
whether `quarters * 2 ^ (exponent - 2)` is less. -/
def quartersLt (b : Binary) (quarters c : Nat) (g : Int) : Bool :=
  quarters * Nat.pow 2 (b.exponent - 2).toNat * Nat.pow 10 (-g).toNat <
    c * Nat.pow 10 g.toNat * Nat.pow 2 (2 - b.exponent).toNat

/-- The same comparison for "is at most". -/
def quartersLe (b : Binary) (quarters c : Nat) (g : Int) : Bool :=
  quarters * Nat.pow 2 (b.exponent - 2).toNat * Nat.pow 10 (-g).toNat ≤
    c * Nat.pow 10 g.toNat * Nat.pow 2 (2 - b.exponent).toNat

/-- Whether `c * 10 ^ g` rounds to the number: it lies between the midpoints to
its neighbours, which themselves belong to a number with an even mantissa. -/
def reads (b : Binary) (c : Nat) (g : Int) : Bool :=
  let low := 4 * b.mantissa - (if b.narrowBelow then 1 else 2)
  let high := 4 * b.mantissa + 2
  if b.mantissa % 2 = 0 then b.quartersLe low c g && !b.quartersLt high c g
  else b.quartersLt low c g && !b.quartersLe high c g

/-- The largest `c` with `c * 10 ^ g` at most the number. -/
def floorAt (b : Binary) (g : Int) : Nat :=
  b.mantissa * Nat.pow 2 b.exponent.toNat * Nat.pow 10 (-g).toNat /
    (Nat.pow 10 g.toNat * Nat.pow 2 (-b.exponent).toNat)

/-- The least `k` with the number below `10 ^ k`. -/
def scale (b : Binary) : Int :=
  let estimate := ((b.mantissa.log2 : Int) + b.exponent) * 30103 / 100000 - 1
  match (List.range 4).find? fun (step : Nat) =>
      b.quartersLt (4 * b.mantissa) 1 (estimate + step) with
  | some step => estimate + step
  | none => estimate + 4

/-- The decimal on the grid of `10 ^ g` that reads back, the nearer if both
neighbours do, and the even one of two equally near. -/
def onGrid (b : Binary) (g : Int) : Option Nat :=
  let c := b.floorAt g
  match b.reads c g, b.reads (c + 1) g with
  | true, true =>
    -- twice the number against the sum of the two neighbours
    if b.quartersLt (8 * b.mantissa) (2 * c + 1) g then some c
    else if b.quartersLe (8 * b.mantissa) (2 * c + 1) g && c % 2 = 0 then some c
    else some (c + 1)
  | true, false => some c
  | false, true => some (c + 1)
  | false, false => none

/-- Drop the zeros that digits end with. -/
def stripZeros (digits : List Char) : List Char :=
  (digits.reverse.dropWhile (· == '0')).reverse

/-- The digits of `c * 10 ^ g`, without the zeros they end with. -/
def digitsAt (c : Nat) (g : Int) : Digits :=
  let digits := Nat.toDigits 10 c
  ⟨stripZeros digits, g + digits.length - 1⟩

/-- The fewest digits that read back, tried from one to seventeen; seventeen
are always enough. -/
def shortest (b : Binary) : Digits :=
  let k := b.scale
  let grid? := (List.range 17).findSome? fun (n : Nat) =>
    let g := k - (n + 1)
    (b.onGrid g).map fun c => (c, g)
  match grid? with
  | some (c, g) => digitsAt c g
  | none => digitsAt (b.floorAt (k - 17)) (k - 17)

end Binary

end Switchboard.Decimal
