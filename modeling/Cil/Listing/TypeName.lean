import Cil.Metadata.TypeRef
import Cil.Name
import Cil.Text.Token

/-!
# Types in a listing
-/

namespace Cil

/-- How a reference to a type is written. -/
inductive NameForm where
  /-- As in a signature: a keyword for the primitive types, and for others whether they are a value
  type or a class. -/
  | signature
  /-- With scope, namespace and enclosing types. -/
  | qualified
  /-- The name alone. -/
  | short
deriving DecidableEq, Repr

namespace TypeRef

/-- The keyword of a primitive type. -/
def keyword? : TypeRef → Option String
  | nested _ _ => none
  | top type =>
    if type.space ≠ "System" then none
    else
      match type.name with
      | "Void" => some "void"
      | "Boolean" => some "bool"
      | "Char" => some "char"
      | "SByte" => some "int8"
      | "Byte" => some "uint8"
      | "Int16" => some "int16"
      | "UInt16" => some "uint16"
      | "Int32" => some "int32"
      | "UInt32" => some "uint32"
      | "Int64" => some "int64"
      | "UInt64" => some "uint64"
      | "Single" => some "float32"
      | "Double" => some "float64"
      | "String" => some "string"
      | "Object" => some "object"
      | "IntPtr" => some "native int"
      | "UIntPtr" => some "native unsigned int"
      | "TypedReference" => some "typedref"
      | _ => none

/-- The namespace of the outermost type and the names of all types from the outermost inwards. -/
def pathSpans : TypeRef → List Span
  | top type =>
    (if type.space = "" then [] else [⟨.typeName, type.space⟩, ⟨.text, "."⟩]) ++
      [⟨.typeName, Name.escape type.name⟩]
  | nested type outer =>
    outer.pathSpans ++ [⟨.text, "/"⟩, ⟨.typeName, Name.escape type.name⟩]

def scopeSpans (ref : TypeRef) : List Span :=
  match ref.resolutionScope with
  | none => []
  | some scope => [⟨.text, "[" ++ Name.escape scope ++ "]"⟩]

def qualifiedSpans (ref : TypeRef) : List Span := ref.scopeSpans ++ ref.pathSpans

def signatureSpans (ref : TypeRef) : List Span :=
  match ref.keyword? with
  | some keyword => [⟨.keyword, keyword⟩]
  | none =>
    ⟨.keyword, if ref.type.isValueType then "valuetype " else "class "⟩ :: ref.qualifiedSpans

def spans : NameForm → TypeRef → List Span
  | .signature, ref => ref.signatureSpans
  | .qualified, ref => ref.qualifiedSpans
  | .short, ref => [⟨.typeName, Name.escape ref.name⟩]

end TypeRef

end Cil
