import Cil.Language.Basic
import Cil.Listing.Assembly

/-!
# The languages at hand

Two forms of the disassembly, which differ in how they show method bodies, and a language of nothing
but comments.
-/

namespace Cil

/-- The disassembly of an entity. A property or event comes with its accessors, each after a blank
line. -/
def Entity.listing (style : BodyStyle) (full : Bool) : Entity → Listing
  | assembly a => a.listing style full
  | space name types => TypeDef.namespaceListing style name types
  | type t => t.listing style
  | method m => m.listing style
  | field f => f.listing
  | property p => p.listing ++ accessorListing p.accessors
  | event e => e.listing ++ accessorListing e.accessors
where
  accessorListing (accessors : List Method) : Listing :=
    accessors.flatMap fun method => Listing.blank :: method.listing style

namespace Language

/-- The text of a type as it stands in the disassembly. -/
def disassemblyTypeText : Option TypeRef → (withNamespace : Bool) → String
  | none, _ => ""
  | some ref, withNamespace => Span.plain (ref.spans (if withNamespace then .qualified else .short))

/-- The disassembly. -/
def disassembly (style : BodyStyle) : Language where
  name :=
    match style with
    | .flat => "IL"
    | .structured => "IL (structured)"
  fileExtension := ".il"
  typeText := disassemblyTypeText
  listing := Entity.listing style

/-- Comments that name the entities. -/
def commentsOnly : Language where
  name := "Comments"
  fileExtension := ".txt"

end Language

end Cil
