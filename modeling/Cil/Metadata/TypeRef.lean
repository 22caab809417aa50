/-!
# References to types

A reference names a type and, for a nested type, the types that enclose it. Namespace and scope
count on the outermost type only, though inner types may carry them too.
-/

namespace Cil

/-- What a reference says of one type, apart from the types that enclose it. -/
structure TypeName where
  /-- The namespace, empty for none. -/
  space : String := ""
  name : String := ""
  /-- The assembly that the type comes from, if it is another one. -/
  scope : Option String := none
  isValueType : Bool := false
deriving DecidableEq, Repr, Inhabited

/-- A reference to a type. -/
inductive TypeRef where
  | top (type : TypeName)
  | nested (type : TypeName) (outer : TypeRef)
deriving DecidableEq, Repr, Inhabited

namespace TypeRef

def ofName (space name : String) : TypeRef := top { space, name }

def void : TypeRef := ofName "System" "Void"

/-- The innermost type, the one referred to. -/
def type : TypeRef → TypeName
  | top type => type
  | nested type _ => type

def name (ref : TypeRef) : String := ref.type.name

/-- Applies a change to the innermost type. -/
def modify (f : TypeName → TypeName) : TypeRef → TypeRef
  | top type => top (f type)
  | nested type outer => nested (f type) outer

def withScope (scope : String) : TypeRef → TypeRef := modify ({ · with scope })

def asValueType : TypeRef → TypeRef := modify ({ · with isValueType := true })

/-- The same type, enclosed in `outer` whatever enclosed it before. -/
def nestedIn (ref outer : TypeRef) : TypeRef := nested ref.type outer

/-- The type of a reference that may have an enclosing type. -/
def within (type : TypeName) : Option TypeRef → TypeRef
  | none => top type
  | some outer => nested type outer

/-- The namespace and the name of the outermost type with a dot between them, and the names of the
nested ones, each after a slash. -/
def fullName : TypeRef → String
  | top type => if type.space = "" then type.name else type.space ++ "." ++ type.name
  | nested type outer => outer.fullName ++ "/" ++ type.name

/-- The scope of the outermost type. -/
def resolutionScope : TypeRef → Option String
  | top type => type.scope
  | nested _ outer => outer.resolutionScope

end TypeRef

end Cil
