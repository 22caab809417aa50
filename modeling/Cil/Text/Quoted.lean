/-!
# String literals

A string literal stands between double quotes. Quotes, backslashes and the control characters that
have a short escape are escaped; every other character stands for itself.
-/

namespace Cil.Quoted

/-- The characters that write `c` inside a literal. -/
def escapeChar (c : Char) : List Char :=
  match c with
  | '"' => ['\\', '"']
  | '\\' => ['\\', '\\']
  | '\n' => ['\\', 'n']
  | '\r' => ['\\', 'r']
  | '\t' => ['\\', 't']
  | '\x00' => ['\\', '0']
  | c => [c]

/-- The string literal for a text. -/
def encode (text : String) : String :=
  String.ofList ('"' :: text.toList.flatMap escapeChar ++ ['"'])

end Cil.Quoted
