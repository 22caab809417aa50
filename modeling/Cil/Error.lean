import Cil.Metadata.Diagnostic
import Cil.Text.Hex

/-!
# What can go wrong in a rendering
-/

namespace Cil

/-- Why the regions of a body cannot be shown as nested blocks. -/
inductive LayoutFault where
  | emptyRange (region : Region)
  | coversNothing (region : Region)
  | overlapsParent (region parent : Region)
  | startsAfterLast (region : Region)
deriving DecidableEq, Repr

/-- The range of a region as two labels. -/
def Region.rangeText (region : Region) : String :=
  Hex.label region.start ++ ".." ++ Hex.label region.stop

def LayoutFault.message : LayoutFault → String
  | emptyRange region =>
    "control structure " ++ Diagnostic.regionKind region.kind ++
      " has an empty or inverted range " ++ region.rangeText
  | coversNothing region => "control structure " ++ region.rangeText ++ " covers no instruction"
  | overlapsParent region parent =>
    "control structure at " ++ Hex.label region.start ++ " overlaps its parent ending at " ++
      Hex.label parent.stop
  | startsAfterLast region =>
    "control structure " ++ region.rangeText ++ " starts after the last instruction"

inductive RenderError where
  /-- A naming function was given nothing to name. -/
  | missingArgument (parameter : String)
  | cancelled
  | layout (fault : LayoutFault)
deriving DecidableEq, Repr

def RenderError.message : RenderError → String
  | missingArgument parameter => "argument `" ++ parameter ++ "` must not be null"
  | cancelled => "rendering was cancelled"
  | layout fault => "disassembler error: " ++ fault.message

end Cil
