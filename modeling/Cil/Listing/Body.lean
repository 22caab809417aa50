import Cil.Listing.Handler
import Cil.Listing.Instruction
import Cil.Listing.Nesting

/-!
# Bodies in a listing

A body is listed with its instructions in stored order, either flat, with the handlers of each
protected block named below, or structured, with the instructions inside the blocks of their
regions.
-/

namespace Cil

/-- How the regions of a body are shown. -/
inductive BodyStyle where
  | flat
  | structured
deriving DecidableEq, Repr

/-! ### Blocks of regions -/

/-- The line that says what a block is; a loop has no other opening line. -/
def Region.openingSpans (region : Region) : List Span :=
  match region.kind with
  | .loop => [⟨.comment, "// loop start (head: " ++ Hex.label region.start ++ ")"⟩]
  | .guarded => [⟨.directive, ".try"⟩]
  | .catching exception => ⟨.keyword, "catch "⟩ :: exception.qualifiedSpans
  | .finalizer => [⟨.keyword, "finally"⟩]
  | .fault => [⟨.keyword, "fault"⟩]
  | .filter => [⟨.keyword, "filter"⟩]

def Region.openingListing (region : Region) : Listing :=
  .line .bracket region.openingSpans ::
    (match region.kind with
      | .loop => []
      | _ => [.line .bracket [⟨.text, "\x7b"⟩]]) ++
    [.enter]

def Region.closingSpans (region : Region) : List Span :=
  match region.kind with
  | .loop => [⟨.comment, "// end loop"⟩]
  | .guarded => [⟨.text, "\x7d"⟩, ⟨.comment, " // end .try"⟩]
  | .filter => [⟨.text, "\x7d"⟩, ⟨.comment, " // end filter"⟩]
  | _ => [⟨.text, "\x7d"⟩, ⟨.comment, " // end handler"⟩]

def Region.closingListing (region : Region) : Listing :=
  [.leave, .line .bracket region.closingSpans]

/-- The listing of marks, of which the first instruction has the given index in its body. -/
def Mark.listing (index : Nat) : List Mark → Listing
  | [] => []
  | .opened region :: marks => region.openingListing ++ listing index marks
  | .closed region :: marks => region.closingListing ++ listing index marks
  | .placed instruction :: marks => instruction.listing index ++ listing (index + 1) marks

/-! ### The flat form -/

/-- The handlers of every protected block. -/
def Body.handlerListing (body : Body) : Listing :=
  (body.regions.filter (·.kind = .guarded)).flatMap fun guarded =>
    (handlersFrom body.regions guarded.stop).map (handlerLine guarded)

/-- The instructions without any blocks, and then the handlers. -/
def Body.flatListing (body : Body) : Listing :=
  Mark.listing 0 (body.instructions.map .placed) ++ body.handlerListing

/-! ### The structured form -/

/-- The instructions inside their blocks, up to the fault if there is one. -/
def Body.structuredListing (body : Body) : Listing :=
  Mark.listing 0 body.nesting.1 ++ (body.nesting.2.map Item.fail).toList

/-! ### Whole bodies -/

def Local.spans (slot : Local) (index : Nat) (isLast : Bool) : List Span :=
  ⟨.text, "[" ++ index.repr ++ "] "⟩ :: slot.type.signatureSpans ++
    [⟨.text, " "⟩, ⟨.text, Name.escape slot.name⟩] ++ if isLast then [] else [⟨.text, ","⟩]

def Body.localsListing (body : Body) : Listing :=
  if body.locals.isEmpty then []
  else
    .line .detail (⟨.directive, ".locals "⟩ ::
      (if body.initLocals then [⟨.keyword, "init "⟩] else []) ++ [⟨.text, "("⟩]) ::
    Listing.indented (body.locals.mapIdx fun index slot =>
      .line .detail (slot.spans index (index + 1 == body.locals.length))) ++
    [Listing.single .detail .text ")"]

def Body.listing (style : BodyStyle) (body : Body) : Listing :=
  .line .detail [⟨.directive, ".maxstack "⟩, ⟨.literal, body.maxStack.repr⟩] ::
    body.localsListing ++ Listing.blank ::
    match style with
    | .flat => body.flatListing
    | .structured => body.structuredListing

end Cil
