/-!
# Numbers in a document

A number is kept as it is written until a reader asks for its value, because a number that nobody
reads may be of any size. A numeral without point and exponent that fits 64 bits is an integer. All
others are doubles: the leading digits that fit 64 bits, scaled by a power of ten.
-/

namespace Cil.Json

/-- A number as it is written. -/
structure Numeral where
  negative : Bool
  /-- The digits in front of the point. -/
  whole : List Nat
  /-- The digits behind the point, none if there is no point. -/
  fraction : List Nat
  /-- Whether the exponent is negative, and its digits. -/
  exponent : Option (Bool × List Nat)
deriving DecidableEq, Repr

/-! ### Reading -/

/-- Splits the digits off the front. -/
def readDigits (text : List Char) : List Nat × List Char :=
  ((text.takeWhile Char.isDigit).map (·.toNat - 48), text.dropWhile Char.isDigit)

/-- At least one digit. -/
def readDigits? (text : List Char) : Option (List Nat × List Char) :=
  match readDigits text with
  | ([], _) => none
  | found => some found

theorem length_lt_of_readDigits? {text rest : List Char} {digits : List Nat}
    (h : readDigits? text = some (digits, rest)) : rest.length < text.length := by
  cases text with
  | nil => simp [readDigits?, readDigits] at h
  | cons c text =>
    by_cases hc : c.isDigit
    · have := (List.dropWhile_suffix (l := text) Char.isDigit).length_le
      simp [readDigits?, readDigits, hc] at h
      grind
    · simp [readDigits?, readDigits, hc] at h

/-- The digits in front of the point: a zero alone, or digits that do not start with one. -/
def readWhole? : List Char → Option (List Nat × List Char)
  | '0' :: rest => some ([0], rest)
  | text => readDigits? text

theorem length_lt_of_readWhole? {text rest : List Char} {digits : List Nat}
    (h : readWhole? text = some (digits, rest)) : rest.length < text.length := by
  unfold readWhole? at h
  split at h
  · simp_all
  · exact length_lt_of_readDigits? h

def readFraction? : List Char → Option (List Nat × List Char)
  | '.' :: rest => readDigits? rest
  | text => some ([], text)

theorem length_le_of_readFraction? {text rest : List Char} {digits : List Nat}
    (h : readFraction? text = some (digits, rest)) : rest.length ≤ text.length := by
  unfold readFraction? at h
  split at h
  · exact Nat.le_succ_of_le (Nat.le_of_lt (length_lt_of_readDigits? h))
  · simp_all

/-- The exponent without its mark. -/
def readExponent? : List Char → Option ((Bool × List Nat) × List Char)
  | '-' :: rest => (readDigits? rest).map fun (digits, rest) => ((true, digits), rest)
  | '+' :: rest => (readDigits? rest).map fun (digits, rest) => ((false, digits), rest)
  | text => (readDigits? text).map fun (digits, rest) => ((false, digits), rest)

theorem length_lt_of_readExponent? {text rest : List Char} {found : Bool × List Nat}
    (h : readExponent? text = some (found, rest)) : rest.length < text.length := by
  unfold readExponent? at h
  split at h <;>
    simp only [Option.map_eq_some_iff, Prod.mk.injEq] at h <;>
    obtain ⟨⟨digits, tail⟩, hdigits, -, rfl⟩ := h
  · exact Nat.lt_succ_of_lt (length_lt_of_readDigits? hdigits)
  · exact Nat.lt_succ_of_lt (length_lt_of_readDigits? hdigits)
  · exact length_lt_of_readDigits? hdigits

def readScale? : List Char → Option (Option (Bool × List Nat) × List Char)
  | 'e' :: rest | 'E' :: rest => (readExponent? rest).map fun (found, rest) => (some found, rest)
  | text => some (none, text)

theorem length_le_of_readScale? {text rest : List Char} {found : Option (Bool × List Nat)}
    (h : readScale? text = some (found, rest)) : rest.length ≤ text.length := by
  unfold readScale? at h
  split at h
  case h_3 => simp_all
  all_goals
    simp only [Option.map_eq_some_iff, Prod.mk.injEq] at h
    obtain ⟨⟨digits, tail⟩, hexponent, -, rfl⟩ := h
    exact Nat.le_succ_of_le (Nat.le_of_lt (length_lt_of_readExponent? hexponent))

/-- A number without its sign. -/
def readNumeral? (negative : Bool) (text : List Char) : Option (Numeral × List Char) := do
  let (whole, text) ← readWhole? text
  let (fraction, text) ← readFraction? text
  let (exponent, text) ← readScale? text
  return ({ negative, whole, fraction, exponent }, text)

theorem length_lt_of_readNumeral? {negative : Bool} {text rest : List Char} {numeral : Numeral}
    (h : readNumeral? negative text = some (numeral, rest)) : rest.length < text.length := by
  simp only [readNumeral?, Option.bind_eq_bind, Option.bind_eq_some_iff] at h
  obtain ⟨⟨_, _⟩, hwhole, ⟨_, _⟩, hfraction, ⟨_, _⟩, hscale, h⟩ := h
  simp only [Option.pure_def, Option.some.injEq, Prod.mk.injEq] at h
  obtain ⟨-, rfl⟩ := h
  calc _ ≤ _ := length_le_of_readScale? hscale
    _ ≤ _ := length_le_of_readFraction? hfraction
    _ < _ := length_lt_of_readWhole? hwhole

/-! ### Values -/

/-- The value of a number. -/
inductive Number where
  | int (value : Int)
  | float (value : Float)
deriving BEq, Repr

namespace Numeral

/-- Appends digits to a significand as long as it stays below `2 ^ 64`; gives the digits that are
left over too. -/
def gather : Nat → List Nat → Nat × List Nat
  | significand, [] => (significand, [])
  | significand, digit :: digits =>
    if significand * 10 + digit < Nat.pow 2 64 then gather (significand * 10 + digit) digits
    else (significand, digit :: digits)

def powerOfTen (exponent : Nat) : Float := Float.ofScientific 1 false exponent

/-- `x * 10 ^ exponent`, nothing if that is infinite. A number too small for a double becomes
zero. -/
def scale (x : Float) (exponent : Int) : Option Float :=
  if exponent.natAbs ≤ 308 then
    if 0 ≤ exponent then
      let y := x * powerOfTen exponent.toNat
      if y.isInf then none else some y
    else some (x / powerOfTen (-exponent).toNat)
  else if x == 0 then some x
  else if 0 ≤ exponent then none
  else scale (x / powerOfTen 308) (exponent + 308)
termination_by exponent.natAbs

/-- `significand * 10 ^ shift` with the written exponent applied. An exponent beyond 31 bits makes
zero of the number if it is negative; a positive one only zero can bear. -/
def scaled (significand : Nat) (shift : Int) : Option (Bool × List Nat) → Option Float
  | none => scale significand.toFloat shift
  | some (negative, digits) =>
    let exponent : Nat := digits.foldl (fun n digit => n * 10 + digit) 0
    if exponent < Nat.pow 2 31 then
      let signed : Int := if negative then -exponent else exponent
      scale significand.toFloat (shift + signed)
    else if negative || significand == 0 then some 0
    else none

/-- The value of the numeral, nothing if it is too large for a double. -/
def value? (numeral : Numeral) : Option Number :=
  let (whole, dropped) := gather 0 numeral.whole
  if dropped = [] ∧ numeral.fraction = [] ∧ numeral.exponent = none ∧
      (numeral.negative → 0 < whole ∧ whole ≤ Nat.pow 2 63) then
    some (.int (if numeral.negative then -whole else whole))
  else do
    let (significand, ignored) := gather whole numeral.fraction
    let shift : Int := dropped.length + ignored.length - numeral.fraction.length
    let x ← scaled significand shift numeral.exponent
    return .float (if numeral.negative then -x else x)

end Numeral

end Cil.Json
