/-!
# The shortest decimal that reads back

A binary number `m * 2 ^ q` stands for every real that rounds to it. Of the decimals in that
interval the one with the fewest digits is taken; of two with equally many digits the nearer to the
number, and the larger one if both are equally near.
-/

namespace Cil.Decimal

/-- A positive binary number with 53 bits of precision: `significand * 2 ^ exponent`. -/
structure Binary where
  significand : Nat
  exponent : Int
deriving DecidableEq, Repr

/-- A decimal number `digits * 10 ^ exponent`. -/
structure Scaled where
  digits : Nat
  exponent : Int
deriving DecidableEq, Repr

/-- The reals that round to a number, all over one denominator. The ends belong to the interval if
`closed`. -/
structure Interval where
  low : Nat
  mid : Nat
  high : Nat
  den : Nat
  closed : Bool
deriving DecidableEq, Repr

/-- Half way to the neighbours on both sides. The neighbour below a power of two is nearer than the
one above. An end of the interval rounds to the number with the even significand. -/
def Binary.interval (x : Binary) : Interval :=
  let below := if x.significand = Nat.pow 2 52 then 1 else 2
  let scale := Nat.pow 2 (x.exponent - 2).toNat
  { low := (4 * x.significand - below) * scale
    mid := 4 * x.significand * scale
    high := (4 * x.significand + 2) * scale
    den := Nat.pow 2 (2 - x.exponent).toNat
    closed := x.significand % 2 = 0 }

def digitCount (n : Nat) : Nat := (Nat.toDigits 10 n).length

/-- The number of digits in front of the point, negative by the number of zeros behind it. -/
def Interval.magnitude (i : Interval) : Int :=
  if i.den ≤ i.mid then digitCount (i.mid / i.den) else 1 - digitCount ((i.den - 1) / i.mid)

/-- The best decimal of the interval on the grid of the multiples of `10 ^ exponent`. Only the two
neighbours of the number on the grid can be best. -/
def Interval.onGrid? (i : Interval) (exponent : Int) : Option Scaled :=
  let unit := i.den * Nat.pow 10 exponent.toNat
  let scale := Nat.pow 10 (-exponent).toNat
  let down := i.mid * scale / unit
  let inside (d : Nat) : Bool :=
    if i.closed then i.low * scale ≤ d * unit && d * unit ≤ i.high * scale
    else i.low * scale < d * unit && d * unit < i.high * scale
  if inside down && (!inside (down + 1) || 2 * (i.mid * scale) < (2 * down + 1) * unit) then
    some ⟨down, exponent⟩
  else if inside (down + 1) then some ⟨down + 1, exponent⟩
  else none

/-- The best decimal with as few digits as possible. Seventeen digits tell any two numbers of 53
bits apart, so the search ends. -/
def Binary.shortest (x : Binary) : Scaled :=
  let i := x.interval
  ((List.range' 1 17).findSome? fun (count : Nat) => i.onGrid? (i.magnitude - count)).getD ⟨0, 0⟩

/-! ### Text -/

/-- Digits without exponent, `point` of them in front of the point. -/
def positional (digits : List Char) (point : Int) : String :=
  if point ≤ 0 then "0." ++ String.ofList (List.replicate (-point).toNat '0' ++ digits)
  else if digits.length ≤ point.toNat then
    String.ofList (digits ++ List.replicate (point.toNat - digits.length) '0')
  else String.ofList (digits.take point.toNat ++ '.' :: digits.drop point.toNat)

/-- A decimal in full, without zeros at the end of a fraction. -/
def Scaled.text (x : Scaled) : String :=
  let digits := Nat.toDigits 10 x.digits
  positional (digits.reverse.dropWhile (· = '0')).reverse (digits.length + x.exponent)

/-- The text of a double: its shortest decimal, never with an exponent. Whole numbers have no
point, and zero keeps its sign. -/
def text (x : Float) : String :=
  let bits := x.toBits.toNat
  let sign := if bits < Nat.pow 2 63 then "" else "-"
  let exponent : Nat := bits / Nat.pow 2 52 % Nat.pow 2 11
  let fraction := bits % Nat.pow 2 52
  if exponent = 2047 then if fraction = 0 then sign ++ "inf" else "NaN"
  else if exponent = 0 ∧ fraction = 0 then sign ++ "0"
  else
    let x : Binary :=
      if exponent = 0 then ⟨fraction, -1074⟩ else ⟨Nat.pow 2 52 + fraction, (exponent : Int) - 1075⟩
    sign ++ x.shortest.text

end Cil.Decimal
