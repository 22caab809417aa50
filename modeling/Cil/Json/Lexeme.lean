import Cil.Json.Numeral
import Cil.Json.Piece

/-!
# Lexemes of a document

The text of a document as punctuation, literals, numbers and strings, blanks left out.
-/

namespace Cil.Json

inductive Lexeme where
  | openObject
  | closeObject
  | openArray
  | closeArray
  | colon
  | comma
  | null
  | bool (value : Bool)
  | number (numeral : Numeral)
  /-- A string, without its text if that is unreadable. -/
  | string (text : Option String)
deriving DecidableEq, Repr

/-- Reads one lexeme from a text that starts with no blank. -/
def readLexeme? : List Char → Option (Lexeme × List Char)
  | '\x7b' :: rest => some (.openObject, rest)
  | '\x7d' :: rest => some (.closeObject, rest)
  | '[' :: rest => some (.openArray, rest)
  | ']' :: rest => some (.closeArray, rest)
  | ':' :: rest => some (.colon, rest)
  | ',' :: rest => some (.comma, rest)
  | 'n' :: 'u' :: 'l' :: 'l' :: rest => some (.null, rest)
  | 't' :: 'r' :: 'u' :: 'e' :: rest => some (.bool true, rest)
  | 'f' :: 'a' :: 'l' :: 's' :: 'e' :: rest => some (.bool false, rest)
  | '"' :: rest =>
    (readString [] rest).map fun (pieces, rest) =>
      (.string ((Piece.text? pieces).map String.ofList), rest)
  | '-' :: rest => (readNumeral? true rest).map fun (numeral, rest) => (.number numeral, rest)
  | text => (readNumeral? false text).map fun (numeral, rest) => (.number numeral, rest)

theorem length_lt_of_readLexeme? {text rest : List Char} {lexeme : Lexeme}
    (h : readLexeme? text = some (lexeme, rest)) : rest.length < text.length := by
  unfold readLexeme? at h
  split at h
  case h_10 =>
    simp only [Option.map_eq_some_iff, Prod.mk.injEq] at h
    obtain ⟨⟨_, _⟩, hstring, -, rfl⟩ := h
    exact Nat.lt_succ_of_lt (length_lt_of_readString hstring)
  case h_11 =>
    simp only [Option.map_eq_some_iff, Prod.mk.injEq] at h
    obtain ⟨⟨_, _⟩, hnumeral, -, rfl⟩ := h
    exact Nat.lt_succ_of_lt (length_lt_of_readNumeral? hnumeral)
  case h_12 =>
    simp only [Option.map_eq_some_iff, Prod.mk.injEq] at h
    obtain ⟨⟨_, _⟩, hnumeral, -, rfl⟩ := h
    exact length_lt_of_readNumeral? hnumeral
  all_goals
    simp only [Option.some.injEq, Prod.mk.injEq] at h
    obtain ⟨-, rfl⟩ := h
    simp only [List.length_cons]
    omega

def isBlank (c : Char) : Bool := c = ' ' || c = '\t' || c = '\n' || c = '\r'

/-- The lexemes of a text. Those read so far come latest first. -/
def readLexemes (done : List Lexeme) : List Char → Option (List Lexeme)
  | [] => some done.reverse
  | c :: rest =>
    if isBlank c then readLexemes done rest
    else
      match h : readLexeme? (c :: rest) with
      | none => none
      | some (lexeme, rest) =>
        have := length_lt_of_readLexeme? h
        readLexemes (lexeme :: done) rest
termination_by text => text.length
decreasing_by
  · simp
  · exact this

def lexemes? (text : String) : Option (List Lexeme) := readLexemes [] text.toList

end Cil.Json
