import Cil.Decimal.Shortest
import Cil.Listing.Item
import Cil.Listing.TypeName
import Cil.Metadata.Body
import Cil.Text.Quoted

/-!
# Instructions in a listing

An instruction is one line. In a long body some lines are preceded by a checkpoint.
-/

namespace Cil

/-- A reference to a method, as calls and accessors are written. -/
def methodReferenceSpans (hasThis : Bool) (returnType : TypeRef) (declaring : Option TypeRef)
    (name : String) (parameters : List TypeRef) : List Span :=
  (if hasThis then [⟨.keyword, "instance "⟩] else []) ++
    returnType.signatureSpans ++ [⟨.text, " "⟩] ++
    (match declaring with
      | none => []
      | some declaring => declaring.qualifiedSpans ++ [⟨.text, "::"⟩]) ++
    [⟨.memberName, Name.escape name⟩, ⟨.text, "("⟩] ++
    Span.separated (parameters.map TypeRef.signatureSpans) ++ [⟨.text, ")"⟩]

def Operand.spans : Operand → List Span
  | int value => [⟨.literal, value.repr⟩]
  | float value => [⟨.literal, Decimal.text value⟩]
  | string value => [⟨.literal, Quoted.encode value⟩]
  | target offset => [⟨.label, Hex.label offset⟩]
  | switch offsets =>
    [⟨.text, "("⟩, ⟨.label, ", ".intercalate (offsets.map Hex.label)⟩, ⟨.text, ")"⟩]
  | type ref => ref.qualifiedSpans
  | method member =>
    methodReferenceSpans member.hasThis (member.type?.getD .void) (some member.declaringType)
      member.name member.parameters
  | field member =>
    (match member.type? with
      | none => []
      | some memberType => memberType.signatureSpans ++ [⟨.text, " "⟩]) ++
      member.declaringType.qualifiedSpans ++
      [⟨.text, "::"⟩, ⟨.memberName, Name.escape member.name⟩]
  | localVar name => [⟨.text, Name.escape name⟩]
  | argument name => [⟨.text, Name.escape name⟩]

def Instruction.spans (instruction : Instruction) : List Span :=
  [⟨.label, Hex.label instruction.offset ++ ": "⟩, ⟨.opcode, instruction.opcode⟩] ++
    match instruction.operand with
    | none => []
    | some operand => ⟨.text, " "⟩ :: operand.spans

/-- After how many instructions a run looks whether it was cancelled. -/
def checkpointStride : Nat := 64

/-- The instruction with the given index in its body. -/
def Instruction.listing (index : Nat) (instruction : Instruction) : Listing :=
  (if 0 < index ∧ index % checkpointStride = 0 then [.checkpoint] else []) ++
    [.line .instruction instruction.spans]

end Cil
