import Cil.Metadata.Assembly

/-!
# Entities

What can be rendered on its own, and what can be pointed at in a view.
-/

namespace Cil

/-- A part of an assembly that can be rendered on its own. -/
inductive Entity where
  | assembly (assembly : Assembly)
  | space (name : String) (types : List TypeDef)
  | type (type : TypeDef)
  | method (method : Method)
  | field (field : Field)
  | property (property : Property)
  | event (event : Event)
deriving BEq, Repr

/-- A type or member that a view points at. -/
inductive MemberRef where
  | typeRef (ref : TypeRef)
  | typeDef (type : TypeDef)
  | method (method : Method)
  | field (field : Field)
  | property (property : Property)
  | event (event : Event)
deriving BEq, Repr

namespace MemberRef

def name : MemberRef → String
  | typeRef ref => ref.name
  | typeDef t => t.name
  | method m => m.name
  | field f => f.name
  | property p => p.name
  | event e => e.name

/-- Whether a type is pointed at, rather than a member of one. -/
def isType : MemberRef → Bool
  | typeRef _ | typeDef _ => true
  | _ => false

/-- The full name of a type, the signature of a member. -/
def text : MemberRef → String
  | typeRef ref => ref.fullName
  | typeDef t => t.fullName
  | method m => m.signature
  | field f => f.signature
  | property p => p.signature
  | event e => e.signature

end MemberRef

/-- The member that an entity is, none for an assembly or a namespace. -/
def Entity.memberRef? : Entity → Option MemberRef
  | assembly _ | space _ _ => none
  | type t => some (.typeDef t)
  | method m => some (.method m)
  | field f => some (.field f)
  | property p => some (.property p)
  | event e => some (.event e)

end Cil
