import Cil.Text.Token

/-!
# Recorded lines

A `Record` keeps the tags of what is written. Pieces of one tag that follow each other on a line
become one span and empty pieces leave no trace, so a line has one form whatever pieces it was
written in.
-/

namespace Cil

/-- A line as its spans. -/
abbrev Line := List Span

namespace Line

def text (line : Line) : String := Span.plain line

/-- Appends a piece that is not empty: to the last span if the tag is the same, else as a new
span. -/
def extend : Line → Span → Line
  | [], piece => [piece]
  | [last], piece =>
    if last.token = piece.token then [{ last with text := last.text ++ piece.text }]
    else [last, piece]
  | first :: next :: rest, piece => first :: extend (next :: rest) piece

def write (line : Line) (piece : Span) : Line :=
  if piece.text = "" then line else line.extend piece

end Line

/-- The completed lines and the pending one. -/
structure Record where
  completed : Array Line := #[]
  pending : Line := []
deriving DecidableEq, Repr

namespace Record

def step (record : Record) : Call → Record
  | .write piece => { record with pending := record.pending.write piece }
  | .endLine => { completed := record.completed.push record.pending }

def ofCalls (calls : List Call) : Record := calls.foldl step {}

/-- The completed lines, and the pending one if something was written to it. -/
def lines (record : Record) : List Line :=
  if record.pending = [] then record.completed.toList
  else record.completed.toList ++ [record.pending]

/-- The tags on a line in order of appearance, none if there is no such line. -/
def tokensOnLine (record : Record) (index : Nat) : List Token :=
  (record.lines.getD index []).map Span.token

end Record

end Cil
