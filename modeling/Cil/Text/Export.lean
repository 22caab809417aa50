import Cil.Text.Hex
import Cil.Text.Record

/-!
# Lines for export

A line is exported as an array of its spans, each an object with the tag and the text, without any
blanks in between.
-/

namespace Cil.Export

/-- The characters that write `c` in a string. -/
def escapeChar (c : Char) : List Char :=
  match c with
  | '"' => ['\\', '"']
  | '\\' => ['\\', '\\']
  | '\x08' => ['\\', 'b']
  | '\x0c' => ['\\', 'f']
  | '\n' => ['\\', 'n']
  | '\r' => ['\\', 'r']
  | '\t' => ['\\', 't']
  | c => if c.toNat < 0x20 then ['\\', 'u'] ++ Hex.padded 4 c.toNat else [c]

def string (text : String) : String :=
  String.ofList ('"' :: text.toList.flatMap escapeChar ++ ['"'])

def span (span : Span) : String :=
  "\x7b\"token\":" ++ string span.token.name ++ ",\"text\":" ++ string span.text ++ "\x7d"

def line (line : Line) : String := "[" ++ ",".intercalate (line.map span) ++ "]"

end Cil.Export
