import Cil.Metadata.TypeRef

/-!
# Method bodies

A body is a stream of instructions together with the regions that a control-flow analysis recovered
from it. A region covers the offsets from `start` up to, and not including, `stop`. Nothing is
promised of a stored body: offsets may come in any order and regions may overlap or be empty.
-/

namespace Cil

/-- A local variable of a body. -/
structure Local where
  name : String
  type : TypeRef
deriving DecidableEq, Repr

/-- A method or field that an instruction refers to. -/
structure MemberOperand where
  declaringType : TypeRef
  name : String
  /-- The return type of a method, the type of a field. -/
  type? : Option TypeRef := none
  parameters : List TypeRef := []
  hasThis : Bool := false
deriving DecidableEq, Repr

/-- What an instruction works on. -/
inductive Operand where
  | int (value : Int)
  | float (value : Float)
  | string (value : String)
  | target (offset : Nat)
  | switch (offsets : List Nat)
  | type (type : TypeRef)
  | method (member : MemberOperand)
  | field (member : MemberOperand)
  | localVar (name : String)
  | argument (name : String)
deriving BEq, Repr

structure Instruction where
  offset : Nat
  opcode : String
  operand : Option Operand := none
deriving BEq, Repr

inductive RegionKind where
  | loop
  /-- A protected block, whose handlers follow it. -/
  | guarded
  | catching (exception : TypeRef)
  | finalizer
  | fault
  | filter
deriving DecidableEq, Repr

/-- Whether a region of this kind handles what leaves a protected block. -/
def RegionKind.isHandler : RegionKind → Bool
  | loop | guarded => false
  | catching _ | finalizer | fault | filter => true

/-- A recovered control structure over the offsets `start ≤ o < stop`. -/
structure Region where
  kind : RegionKind
  start : Nat
  stop : Nat
deriving DecidableEq, Repr

def Region.isHandler (region : Region) : Bool := region.kind.isHandler

/-- Whether the range holds no offset at all. -/
def Region.isEmpty (region : Region) : Bool := region.stop ≤ region.start

structure Body where
  maxStack : Nat := 8
  initLocals : Bool := false
  locals : List Local := []
  instructions : List Instruction := []
  regions : List Region := []
deriving BEq, Repr

end Cil
