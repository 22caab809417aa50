import Cil.Unicode.Alphanumeric

/-!
# Names in a listing

A name is written as it is if it reads as one word, and between apostrophes otherwise. Inside the
apostrophes only the apostrophe itself is escaped.
-/

namespace Cil.Name

/-- A character that may stand in a name without apostrophes. -/
def isWordChar (c : Char) : Bool :=
  Unicode.isAlphanumeric c || "_$@?`.".toList.contains c

/-- A word has at least one character, does not start with an ASCII digit, and holds only word
characters. -/
def isWord (name : String) : Bool :=
  match name.toList with
  | [] => false
  | first :: rest => !first.isDigit && (first :: rest).all isWordChar

def escapeChar (c : Char) : List Char :=
  if c = '\x27' then ['\\', '\x27'] else [c]

/-- The written form of a name. -/
def escape (name : String) : String :=
  if isWord name then name
  else String.ofList ('\x27' :: name.toList.flatMap escapeChar ++ ['\x27'])

end Cil.Name
