import Cil.Json.Value

/-!
# Reading values of a given shape

Decoders take a value apart as the shape of the data demands. Only what a decoder looks at counts
towards the depth of a document: a decoder of something with parts is given the number of levels
that may still be opened, and fails if there is none left.
-/

namespace Cil.Json

/-- Reads a value of one shape. -/
abbrev Decoder (α : Type) := Json → Option α

namespace Decoder

variable {α : Type}

/-- Opens a level for what `inner` reads. -/
def nest (levels : Nat) (inner : Nat → Decoder α) : Decoder α := fun json =>
  match levels with
  | 0 => none
  | levels + 1 => inner levels json

def text : Decoder String
  | .string text => text
  | _ => none

def bool : Decoder Bool
  | .bool value => some value
  | _ => none

/-- A number without point and exponent. -/
def int : Decoder Int
  | .number numeral =>
    match numeral.value? with
    | some (.int value) => some value
    | _ => none
  | _ => none

/-- A number from zero on that fits the given number of bits. -/
def nat (bits : Nat) : Decoder Nat := fun json => do
  let value ← int json
  if 0 ≤ value ∧ value < Nat.pow 2 bits then some value.toNat else none

/-- A number that fits 64 bits, one of them the sign. -/
def int64 : Decoder Int := fun json => do
  let value ← int json
  if -Nat.pow 2 63 ≤ value ∧ value < Nat.pow 2 63 then some value else none

def byte : Decoder UInt8 := fun json => (nat 8 json).map UInt8.ofNat

/-- Any number. -/
def float : Decoder Float
  | .number numeral =>
    match numeral.value? with
    | some (.int value) => some (Float.ofInt value)
    | some (.float value) => some value
    | none => none
  | _ => none

/-- Nothing if the value is null. -/
def optional (inner : Decoder α) : Decoder (Option α)
  | .null => some none
  | json => (inner json).map some

/-- The elements of an array, whose own level is already open. -/
def elements (inner : Decoder α) : Decoder (List α)
  | .array elements => elements.mapM inner
  | _ => none

def list (levels : Nat) (inner : Nat → Decoder α) : Decoder (List α) :=
  nest levels fun levels => elements (inner levels)

/-! ### Records -/

/-- The values of the fields of a record by name. -/
abbrev Fields := List (String × Json)

/-- The fields of a record whose own level is already open. A record is an object, in which other
keys are ignored but no field may come twice, or an array of the leading fields in order. -/
def fields (names : List String) : Decoder Fields
  | .object members => do
    let members ← members.mapM fun (key, value) => key.map (·, value)
    let known := members.filter fun (key, _) => names.contains key
    if (known.map Prod.fst).Nodup then some known else none
  | .array elements =>
    if elements.length ≤ names.length then some (names.zip elements) else none
  | _ => none

/-- A field that has to be there. -/
def Fields.required (fields : Fields) (name : String) (inner : Decoder α) : Option α := do
  inner (← fields.lookup name)

/-- A field that may be left out. -/
def Fields.getD (fields : Fields) (name : String) (default : α) (inner : Decoder α) : Option α :=
  match fields.lookup name with
  | none => some default
  | some json => inner json

/-! ### Choices -/

/-- One of several alternatives: its name and, unless the name stands alone, the value given for it
with the levels left there. A value is given as the only member of an object. -/
def choice (levels : Nat) : Decoder (String × Option (Nat × Json))
  | .string name => name.map (·, none)
  | .object [(some name, value)] =>
    match levels with
    | 0 => none
    | levels + 1 => some (name, some (levels, value))
  | _ => none

/-- The value of an alternative that has none. -/
def noValue : Option (Nat × Json) → Option Unit
  | none | some (_, .null) => some ()
  | some _ => none

/-- An alternative without a value. -/
def name (levels : Nat) : Decoder String := fun json => do
  let (name, value) ← choice levels json
  noValue value
  return name

end Decoder

end Cil.Json
