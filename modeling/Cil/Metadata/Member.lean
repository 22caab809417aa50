import Cil.Metadata.Body

/-!
# Members of a type

Methods, fields, properties and events. Each member knows the type that declares it once the
assembly is linked. Properties and events own their accessors, which are methods.
-/

namespace Cil

/-- Who may use a member. -/
inductive Access where
  | privateScope
  | «private»
  | familyAndAssembly
  | assembly
  | family
  | familyOrAssembly
  | «public»
deriving DecidableEq, Repr, Inhabited

/-- A custom attribute: its constructor and the arguments as stored. -/
structure Attribute where
  type : TypeRef
  parameters : List TypeRef := []
  blob : List UInt8 := []
deriving DecidableEq, Repr

structure Parameter where
  name : String
  type : TypeRef
deriving DecidableEq, Repr

/-- The text of a parameter list as types only. -/
def Parameter.typeList (parameters : List Parameter) : String :=
  ",".intercalate (parameters.map (·.type.fullName))

/-- The declaring type in front of a member's name, nothing if it is not known. -/
def declaringText : Option TypeRef → String
  | none => ""
  | some declaring => declaring.fullName ++ "::"

/-! ### Methods -/

structure Method where
  name : String
  declaringType : Option TypeRef := none
  access : Access := .private
  isStatic : Bool := false
  isVirtual : Bool := false
  isAbstract : Bool := false
  isFinal : Bool := false
  isNewSlot : Bool := false
  isHideBySig : Bool := false
  isSpecialName : Bool := false
  isRuntimeSpecialName : Bool := false
  returnType : TypeRef := .void
  parameters : List Parameter := []
  body : Option Body := none
  attributes : List Attribute := []
deriving BEq, Repr

namespace Method

/-- A public method without parameters and body, as one starts to build it. -/
def ofName (name : String) : Method := { name, access := .public, isHideBySig := true }

def signature (method : Method) : String :=
  method.returnType.fullName ++ " " ++ declaringText method.declaringType ++ method.name ++
    "(" ++ Parameter.typeList method.parameters ++ ")"

def declaredBy (declaring : TypeRef) (method : Method) : Method :=
  { method with declaringType := some declaring }

end Method

/-! ### Fields -/

inductive Constant where
  | null
  | bool (value : Bool)
  | int (value : Int)
  | float (value : Float)
  | string (value : String)
deriving BEq, Repr

structure Field where
  name : String
  declaringType : Option TypeRef := none
  access : Access := .private
  isStatic : Bool := false
  isInitOnly : Bool := false
  isLiteral : Bool := false
  type : TypeRef
  constant : Option Constant := none
deriving BEq, Repr

namespace Field

def signature (field : Field) : String :=
  field.type.fullName ++ " " ++ declaringText field.declaringType ++ field.name

def declaredBy (declaring : TypeRef) (field : Field) : Field :=
  { field with declaringType := some declaring }

end Field

/-! ### Properties -/

structure Property where
  name : String
  declaringType : Option TypeRef := none
  type : TypeRef
  /-- The index parameters, of which an indexer has some. -/
  parameters : List Parameter := []
  getter : Option Method := none
  setter : Option Method := none
  others : List Method := []
deriving BEq, Repr

namespace Property

/-- The accessors in their order: getter, setter, the others. -/
def accessors (property : Property) : List Method :=
  property.getter.toList ++ property.setter.toList ++ property.others

/-- A property belongs to an instance unless it has accessors and all of them are static. -/
def hasThis (property : Property) : Bool :=
  property.accessors.isEmpty || property.accessors.any (!·.isStatic)

def signature (property : Property) : String :=
  property.type.fullName ++ " " ++ declaringText property.declaringType ++ property.name ++
    "(" ++ Parameter.typeList property.parameters ++ ")"

/-- Sets the declaring type of the property and of its accessors. -/
def declaredBy (declaring : TypeRef) (property : Property) : Property :=
  { property with
    declaringType := some declaring
    getter := property.getter.map (·.declaredBy declaring)
    setter := property.setter.map (·.declaredBy declaring)
    others := property.others.map (·.declaredBy declaring) }

end Property

/-! ### Events -/

structure Event where
  name : String
  declaringType : Option TypeRef := none
  type : TypeRef
  adder : Option Method := none
  remover : Option Method := none
  others : List Method := []
deriving BEq, Repr

namespace Event

/-- The accessors in their order: adder, remover, the others. -/
def accessors (event : Event) : List Method :=
  event.adder.toList ++ event.remover.toList ++ event.others

def signature (event : Event) : String :=
  event.type.fullName ++ " " ++ declaringText event.declaringType ++ event.name

/-- Sets the declaring type of the event and of its accessors. -/
def declaredBy (declaring : TypeRef) (event : Event) : Event :=
  { event with
    declaringType := some declaring
    adder := event.adder.map (·.declaredBy declaring)
    remover := event.remover.map (·.declaredBy declaring)
    others := event.others.map (·.declaredBy declaring) }

end Event

end Cil
