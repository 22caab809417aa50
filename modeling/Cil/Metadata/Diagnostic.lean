import Cil.Metadata.Body
import Cil.Unicode.Visible

/-!
# Metadata in diagnostics

How a diagnostic spells out a piece of metadata: each record by its name and fields, and texts in
quotes. Characters that would not be seen are given by their code points.
-/

namespace Cil.Diagnostic

def escapeChar (c : Char) : List Char :=
  match c with
  | '\x00' => ['\\', '0']
  | '\t' => ['\\', 't']
  | '\r' => ['\\', 'r']
  | '\n' => ['\\', 'n']
  | '"' => ['\\', '"']
  | '\\' => ['\\', '\\']
  | c =>
    if Unicode.isVisible c then [c]
    else ['\\', 'u', '\x7b'] ++ Nat.toDigits 16 c.toNat ++ ['\x7d']

def text (s : String) : String :=
  String.ofList ('"' :: s.toList.flatMap escapeChar ++ ['"'])

def optional {α : Type} (spell : α → String) : Option α → String
  | none => "None"
  | some value => "Some(" ++ spell value ++ ")"

/-- A record with its fields in order. -/
def record (name : String) (fields : List (String × String)) : String :=
  name ++ " \x7b " ++ ", ".intercalate (fields.map fun (field, value) => field ++ ": " ++ value) ++
    " \x7d"

def typeName (type : TypeName) (declaring : String) : String :=
  record "TypeRef" [
    ("namespace", text type.space),
    ("name", text type.name),
    ("scope", optional text type.scope),
    ("is_value_type", if type.isValueType then "true" else "false"),
    ("declaring", declaring)]

def typeRef : TypeRef → String
  | .top type => typeName type "None"
  | .nested type outer => typeName type ("Some(" ++ typeRef outer ++ ")")

def regionKind : RegionKind → String
  | .loop => "Loop"
  | .guarded => "Try"
  | .catching exception => "Catch(" ++ typeRef exception ++ ")"
  | .finalizer => "Finally"
  | .fault => "Fault"
  | .filter => "Filter"

end Cil.Diagnostic
