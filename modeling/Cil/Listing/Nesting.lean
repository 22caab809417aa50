import Cil.Error

/-!
# Regions as nested blocks

The instructions of a body are placed one by one. Before an instruction the blocks that end at or
before its offset are closed, innermost first, and the regions that start at or before it are
opened, outermost first. A region that cannot be opened as a block inside those that are open is a
fault.
-/

namespace Cil

/-- A step of the nested form of a body. -/
inductive Mark where
  | opened (region : Region)
  | placed (instruction : Instruction)
  | closed (region : Region)
deriving BEq, Repr

namespace Region

/-- Whether `a` may be opened before `b`: it starts earlier, or it starts with `b` and ends no
earlier. -/
def opensBefore (a b : Region) : Bool :=
  a.start < b.start || (a.start == b.start && b.stop ≤ a.stop)

/-- The regions in the order in which they are opened; those with the same range keep theirs. -/
def inOpeningOrder (regions : List Region) : List Region := regions.mergeSort opensBefore

end Region

/-- The regions opened for one instruction. -/
structure Opening where
  opened : List Region := []
  /-- The blocks that are open afterwards, innermost first. -/
  stack : List Region
  pending : List Region
  fault : Option LayoutFault := none
deriving DecidableEq, Repr

/-- Why a region cannot be opened at an offset inside the open blocks, if it cannot. -/
def Region.faultAt (region : Region) (offset : Nat) (stack : List Region) : Option LayoutFault :=
  if region.stop ≤ offset then some (.coversNothing region)
  else
    match stack with
    | parent :: _ =>
      if parent.stop < region.stop then some (.overlapsParent region parent) else none
    | [] => none

/-- Opens the pending regions that start at or before an offset. -/
def Opening.at (offset : Nat) (stack : List Region) : List Region → Opening
  | [] => { stack, pending := [] }
  | region :: pending =>
    if offset < region.start then { stack, pending := region :: pending }
    else
      match region.faultAt offset stack with
      | some fault => { stack, pending := region :: pending, fault := some fault }
      | none =>
        let rest := Opening.at offset (region :: stack) pending
        { rest with opened := region :: rest.opened }

theorem Opening.at_nil (offset : Nat) (stack : List Region) :
    Opening.at offset stack [] = { stack, pending := [] } := rfl

theorem Opening.at_cons (offset : Nat) (stack : List Region) (region : Region)
    (pending : List Region) :
    Opening.at offset stack (region :: pending) =
      if offset < region.start then { stack, pending := region :: pending }
      else
        match region.faultAt offset stack with
        | some fault => { stack, pending := region :: pending, fault := some fault }
        | none =>
          let rest := Opening.at offset (region :: stack) pending
          { rest with opened := region :: rest.opened } := rfl

/-- Places instructions inside the open blocks; gives the fault that ends it too. -/
def placeAll (stack pending : List Region) : List Instruction → List Mark × Option LayoutFault
  | [] =>
    match pending with
    | region :: _ => ([], some (.startsAfterLast region))
    | [] => (stack.map .closed, none)
  | instruction :: instructions =>
    let offset := instruction.offset
    let closed := stack.takeWhile fun region => region.stop ≤ offset
    let opening := Opening.at offset (stack.dropWhile fun region => region.stop ≤ offset) pending
    let before := closed.map .closed ++ opening.opened.map .opened
    match opening.fault with
    | some fault => (before, some fault)
    | none =>
      let (marks, fault) := placeAll opening.stack opening.pending instructions
      (before ++ .placed instruction :: marks, fault)

theorem placeAll_nil_nil (stack : List Region) :
    placeAll stack [] [] = (stack.map .closed, none) := rfl

theorem placeAll_cons_nil (stack : List Region) (region : Region) (pending : List Region) :
    placeAll stack (region :: pending) [] = ([], some (.startsAfterLast region)) := rfl

/-- The nested form of a body: all of it, or what comes before a fault. An empty range is a fault
before anything else. -/
def Body.nesting (body : Body) : List Mark × Option LayoutFault :=
  match body.regions.find? Region.isEmpty with
  | some region => ([], some (.emptyRange region))
  | none => placeAll [] (Region.inOpeningOrder body.regions) body.instructions

end Cil
