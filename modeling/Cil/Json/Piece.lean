/-!
# Strings in a document

Inside a string, a character beyond the basic plane may be written as two escaped code units. A
code unit of such a pair that stands alone makes the string unreadable, and harms nobody who does
not read it: so a string is taken apart into pieces first, and its text may be missing.
-/

namespace Cil.Json

/-- A piece of a string: a character, or a code unit given by its number. -/
inductive Piece where
  | char (c : Char)
  | unit (code : Nat)
deriving DecidableEq, Repr

/-- The text of the pieces of a string, with pairs of code units joined. -/
def Piece.text? : List Piece → Option (List Char)
  | [] => some []
  | .char c :: pieces => (text? pieces).map (c :: ·)
  | .unit high :: pieces =>
    if high < 0xd800 ∨ 0xe000 ≤ high then (text? pieces).map (Char.ofNat high :: ·)
    else
      match pieces with
      | .unit low :: pieces =>
        if high < 0xdc00 ∧ 0xdc00 ≤ low ∧ low < 0xe000 then
          let code := 0x10000 + (high - 0xd800) * 0x400 + (low - 0xdc00)
          (text? pieces).map (Char.ofNat code :: ·)
        else none
      | _ => none

def hexDigit? (c : Char) : Option Nat :=
  if '0' ≤ c ∧ c ≤ '9' then some (c.toNat - 48)
  else if 'a' ≤ c ∧ c ≤ 'f' then some (c.toNat - 87)
  else if 'A' ≤ c ∧ c ≤ 'F' then some (c.toNat - 55)
  else none

/-- The code unit with the given four digits. -/
def codeUnit? (a b c d : Char) : Option Nat := do
  return (((← hexDigit? a) * 16 + (← hexDigit? b)) * 16 + (← hexDigit? c)) * 16 + (← hexDigit? d)

/-- The character that a backslash and `c` stand for. -/
def shortEscape? : Char → Option Char
  | '"' => some '"'
  | '\\' => some '\\'
  | '/' => some '/'
  | 'b' => some '\x08'
  | 'f' => some '\x0c'
  | 'n' => some '\n'
  | 'r' => some '\r'
  | 't' => some '\t'
  | _ => none

/-- Reads the rest of a string, up to its closing quote. The pieces read so far come latest
first. -/
def readString (done : List Piece) : List Char → Option (List Piece × List Char)
  | [] => none
  | '"' :: rest => some (done.reverse, rest)
  | '\\' :: 'u' :: a :: b :: c :: d :: rest =>
    match codeUnit? a b c d with
    | some code => readString (.unit code :: done) rest
    | none => none
  | '\\' :: c :: rest =>
    match shortEscape? c with
    | some c => readString (.char c :: done) rest
    | none => none
  | c :: rest => if c.toNat < 0x20 ∨ c = '\\' then none else readString (.char c :: done) rest

theorem length_lt_of_readString {done pieces : List Piece} {text rest : List Char}
    (h : readString done text = some (pieces, rest)) : rest.length < text.length := by
  fun_induction readString done text <;> simp_all <;> grind

end Cil.Json
