import Cil.Metadata.Member

/-!
# Type definitions

A type definition holds members and nested type definitions. Linking points every member, accessor
and nested type of the tree at the type that declares it.
-/

namespace Cil

inductive Visibility where
  | notPublic
  | «public»
  | nestedPublic
  | nestedPrivate
  | nestedFamily
  | nestedAssembly
  | nestedFamilyAndAssembly
  | nestedFamilyOrAssembly
deriving DecidableEq, Repr, Inhabited

/-- A type definition without the types nested in it. -/
structure TypeDecl where
  space : String := ""
  name : String
  declaringType : Option TypeRef := none
  visibility : Visibility := .notPublic
  isInterface : Bool := false
  isAbstract : Bool := false
  isSealed : Bool := false
  beforeFieldInit : Bool := false
  baseType : Option TypeRef := none
  interfaces : List TypeRef := []
  attributes : List Attribute := []
  fields : List Field := []
  methods : List Method := []
  properties : List Property := []
  events : List Event := []
deriving BEq, Repr

namespace TypeDecl

/-- A value type is one that directly extends one of the two bases that make value types. -/
def isValueType (decl : TypeDecl) : Bool :=
  match decl.baseType with
  | none => false
  | some base => base.fullName == "System.ValueType" || base.fullName == "System.Enum"

/-- The reference under which the members of the type know it. -/
def toRef (decl : TypeDecl) : TypeRef :=
  .within { space := decl.space, name := decl.name, isValueType := decl.isValueType }
    decl.declaringType

def fullName (decl : TypeDecl) : String := decl.toRef.fullName

/-- The accessors of the events, then those of the properties. -/
def accessors (decl : TypeDecl) : List Method :=
  decl.events.flatMap Event.accessors ++ decl.properties.flatMap Property.accessors

/-- Points all members and accessors at this type. -/
def linkMembers (decl : TypeDecl) : TypeDecl :=
  { decl with
    fields := decl.fields.map (·.declaredBy decl.toRef)
    methods := decl.methods.map (·.declaredBy decl.toRef)
    properties := decl.properties.map (·.declaredBy decl.toRef)
    events := decl.events.map (·.declaredBy decl.toRef) }

end TypeDecl

/-- A type definition with the types nested in it. -/
structure TypeDef extends TypeDecl where
  nestedTypes : List TypeDef := []
deriving BEq, Repr

namespace TypeDef

def ofName (space name : String) : TypeDef := { space, name }

mutual

/-- Links a type that is declared by `declaring`. -/
def linkUnder (declaring : Option TypeRef) : TypeDef → TypeDef
  | ⟨decl, nested⟩ =>
    let decl := { decl with declaringType := declaring }
    ⟨decl.linkMembers, linkNested decl.toRef nested⟩
termination_by structural type => type

/-- Links the types nested in `outer`. -/
def linkNested (outer : TypeRef) : List TypeDef → List TypeDef
  | [] => []
  | type :: types => type.linkUnder (some outer) :: linkNested outer types
termination_by structural types => types

end

/-- Points every member, accessor and nested type, at any depth, at the type that declares it. What
declares the type itself stays as it is. -/
def link (type : TypeDef) : TypeDef := type.linkUnder type.declaringType

mutual

/-- The type and all types nested in it, each one before the types nested in it. -/
def walk : TypeDef → List TypeDef
  | ⟨decl, nested⟩ => ⟨decl, nested⟩ :: walkAll nested
termination_by structural type => type

def walkAll : List TypeDef → List TypeDef
  | [] => []
  | type :: types => type.walk ++ walkAll types
termination_by structural types => types

end

end TypeDef

end Cil
