import Cil.Entity

/-!
# Selectors

A selector names an entity of an assembly: `assembly`, `namespace:` or `type:` with a name, or a
kind of member with the full name of a type, two colons and the name of the member. A member name
holds no two colons in a row and starts with none, so the last two colons are what divides it from
the type.
-/

namespace Cil

inductive MemberKind where
  | method
  | field
  | property
  | event
deriving DecidableEq, Repr

namespace MemberKind

def name : MemberKind → String
  | method => "method"
  | field => "field"
  | property => "property"
  | event => "event"

def ofName? : String → Option MemberKind
  | "method" => some method
  | "field" => some field
  | "property" => some property
  | "event" => some event
  | _ => none

end MemberKind

inductive Selector where
  | assembly
  | space (name : String)
  | type (fullName : String)
  | member (kind : MemberKind) (typeName name : String)
deriving DecidableEq, Repr

/-- Why a text is no selector. -/
inductive SelectorError where
  | unknown (text : String)
  | unknownKind (kind : String)
  | malformedMember (text : String)
deriving DecidableEq, Repr

def SelectorError.message : SelectorError → String
  | unknown text => "Unknown entity selector `" ++ text ++ "`"
  | unknownKind kind =>
    "Unknown entity kind `" ++ kind ++
      "`; expected assembly, namespace, type, method, field, property or event"
  | malformedMember text => "Expected `<Type>::<member>`, got `" ++ text ++ "`"

namespace Selector

/-- The selector as it is written. -/
def text : Selector → String
  | assembly => "assembly"
  | space name => "namespace:" ++ name
  | type fullName => "type:" ++ fullName
  | member kind typeName name => kind.name ++ ":" ++ typeName ++ "::" ++ name

/-! ### Parsing -/

/-- What stands before and after the first colon. -/
def splitAtColon : List Char → Option (List Char × List Char)
  | [] => none
  | c :: text =>
    if c = ':' then some ([], text)
    else (splitAtColon text).map fun (before, after) => (c :: before, after)

/-- What stands before and after the last two colons in a row. -/
def splitAtColons : List Char → Option (List Char × List Char)
  | [] => none
  | c :: text =>
    match splitAtColons text with
    | some (before, after) => some (c :: before, after)
    | none =>
      match c, text with
      | ':', ':' :: after => some ([], after)
      | _, _ => none

def parseMember (kind : MemberKind) (text : List Char) : Except SelectorError Selector :=
  match splitAtColons text with
  | some (c :: typeName, d :: name) =>
    .ok (member kind (String.ofList (c :: typeName)) (String.ofList (d :: name)))
  | _ => .error (.malformedMember (String.ofList text))

def parse (text : String) : Except SelectorError Selector :=
  if text = "assembly" then .ok assembly
  else
    match splitAtColon text.toList with
    | none => .error (.unknown text)
    | some (kind, rest) =>
      match String.ofList kind with
      | "namespace" => .ok (space (String.ofList rest))
      | "type" => .ok (type (String.ofList rest))
      | kind =>
        match MemberKind.ofName? kind with
        | some kind => parseMember kind rest
        | none => .error (.unknownKind kind)

end Selector

/-! ### Resolving -/

/-- Why a selector names nothing in an assembly. -/
inductive ResolveError where
  | noType (fullName fileName : String)
  | emptyNamespace (name fileName : String)
  | noMember (kind : MemberKind) (name typeName : String)
deriving DecidableEq, Repr

def ResolveError.message : ResolveError → String
  | noType fullName fileName => "Type `" ++ fullName ++ "` not found in " ++ fileName
  | emptyNamespace name fileName => "Namespace `" ++ name ++ "` has no types in " ++ fileName
  | noMember kind name typeName =>
    "No " ++ kind.name ++ " `" ++ name ++ "` on type `" ++ typeName ++ "`"

/-- The first member of a kind with a name. -/
def TypeDecl.findMember? (decl : TypeDecl) (kind : MemberKind) (name : String) : Option Entity :=
  match kind with
  | .method => (decl.methods.find? (·.name == name)).map .method
  | .field => (decl.fields.find? (·.name == name)).map .field
  | .property => (decl.properties.find? (·.name == name)).map .property
  | .event => (decl.events.find? (·.name == name)).map .event

/-- The first type with a full name. -/
def Assembly.findType (assembly : Assembly) (fullName : String) : Except ResolveError TypeDef :=
  match assembly.module.findType? fullName with
  | some type => .ok type
  | none => .error (.noType fullName assembly.fileName)

/-- The entity that a selector names. -/
def Selector.resolve (assembly : Assembly) : Selector → Except ResolveError Entity
  | .assembly => .ok (.assembly assembly)
  | space name =>
    match assembly.module.types.filter (·.space == name) with
    | [] => .error (.emptyNamespace name assembly.fileName)
    | types => .ok (.space name types)
  | type fullName => (assembly.findType fullName).map .type
  | member kind typeName name => do
    let type ← assembly.findType typeName
    match type.findMember? kind name with
    | some entity => .ok entity
    | none => .error (.noMember kind name typeName)

end Cil
