import Cil.Error
import Cil.Text.Token

/-!
# Listings

A listing is a plan of what is written: lines, steps in and out of a block, and checkpoints, at
which a cancelled run stops. A listing that cannot be completed ends in a fault. Lines are planned
without their indentation, so the listing of a part is the same wherever the part stands.
-/

namespace Cil

/-- What a line is there for. -/
inductive Role where
  /-- The first line of an entity. -/
  | header
  | instruction
  /-- A line that opens or closes the block of a region. -/
  | bracket
  /-- The line that gives the ranges of a protected block and one of its handlers. -/
  | handler
  | detail
deriving DecidableEq, Repr

inductive Item where
  | line (role : Role) (spans : List Span)
  | enter
  | leave
  | checkpoint
  | fail (fault : LayoutFault)
deriving DecidableEq, Repr

abbrev Listing := List Item

namespace Listing

def blank : Item := .line .detail []

/-- A line of a single span. -/
def single (role : Role) (token : Token) (text : String) : Item := .line role [⟨token, text⟩]

def opening : Item := single .detail .text "\x7b"

/-- The line that closes a block, with a comment on what ends there unless that is empty. -/
def closing (comment : String) : Item :=
  .line .detail
    (⟨.text, "\x7d"⟩ :: if comment = "" then [] else [⟨.comment, " // " ++ comment⟩])

/-- A listing one level deeper. -/
def indented (inner : Listing) : Listing := .enter :: inner ++ [.leave]

/-- A listing between an opening and a closing line. -/
def block (comment : String) (inner : Listing) : Listing :=
  opening :: indented inner ++ [closing comment]

end Listing

/-- Runs of spans with a comma between two of them. -/
def Span.separated (runs : List (List Span)) : List Span :=
  List.intercalate [⟨.text, ", "⟩] runs

/-- The keywords whose condition holds. -/
def Span.flags (flags : List (Bool × String)) : List Span :=
  (flags.filter Prod.fst).map fun (_, keyword) => ⟨.keyword, keyword⟩

end Cil
