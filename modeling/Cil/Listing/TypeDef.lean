import Cil.Listing.Member
import Cil.Metadata.TypeDef

/-!
# Types in a listing, with all they hold

A type lists its nested types, fields, methods, events and properties, each kind under a comment and
only if there is one. The accessors of its events and properties come after its own methods.
-/

namespace Cil

def Visibility.keyword : Visibility → String
  | notPublic => "private"
  | «public» => "public"
  | nestedPublic => "nested public"
  | nestedPrivate => "nested private"
  | nestedFamily => "nested family"
  | nestedAssembly => "nested assembly"
  | nestedFamilyAndAssembly => "nested famandassem"
  | nestedFamilyOrAssembly => "nested famorassem"

/-- The listings of several entities, each followed by a blank line. -/
def Listing.spaced {α : Type} (listing : α → Listing) (entities : List α) : Listing :=
  entities.flatMap fun entity => listing entity ++ [blank]

/-- A listing under a comment, nothing if there is nothing to list. -/
def Listing.titled (title : String) : Listing → Listing
  | [] => []
  | listing => single .detail .comment ("// " ++ title) :: listing

namespace TypeDecl

def headerSpans (decl : TypeDecl) : List Span :=
  ⟨.directive, ".class "⟩ :: Span.flags [(decl.isInterface, "interface ")] ++
    [⟨.keyword, decl.visibility.keyword⟩, ⟨.keyword, " auto ansi "⟩] ++
    Span.flags [
      (decl.isAbstract || decl.isInterface, "abstract "),
      (decl.isSealed, "sealed "),
      (decl.beforeFieldInit, "beforefieldinit ")] ++
    decl.toRef.spans (if decl.declaringType.isSome then .short else .qualified)

/-- The lines below the header: what the type extends and implements. -/
def parentListing (decl : TypeDecl) : Listing :=
  (decl.baseType.toList.map fun base =>
    .line .detail (⟨.keyword, "extends "⟩ :: base.qualifiedSpans)) ++
  if decl.interfaces.isEmpty then []
  else
    [.line .detail (⟨.keyword, "implements "⟩ ::
      Span.separated (decl.interfaces.map TypeRef.qualifiedSpans))]

def fieldListing (decl : TypeDecl) : Listing :=
  Listing.titled "Fields"
    (if decl.fields.isEmpty then [] else decl.fields.flatMap Field.listing ++ [Listing.blank])

/-- All members but the nested types. -/
def memberListing (style : BodyStyle) (decl : TypeDecl) : Listing :=
  decl.fieldListing ++
    Listing.titled "Methods"
      (Listing.spaced (Method.listing style) (decl.methods ++ decl.accessors)) ++
    Listing.titled "Events" (Listing.spaced Event.listing decl.events) ++
    Listing.titled "Properties" (Listing.spaced Property.listing decl.properties)

/-- The name in the comment at the end of the type. -/
def endName (decl : TypeDecl) : String :=
  if decl.declaringType.isSome then decl.name else decl.fullName

/-- The type around the listing of its nested types. -/
def listing (style : BodyStyle) (nested : Listing) (decl : TypeDecl) : Listing :=
  .checkpoint :: .line .header decl.headerSpans :: Listing.indented decl.parentListing ++
    Listing.block ("end of class " ++ decl.endName)
      (decl.attributes.map Attribute.item ++ Listing.titled "Nested Types" nested ++
        decl.memberListing style)

end TypeDecl

namespace TypeDef

mutual

def listing (style : BodyStyle) : TypeDef → Listing
  | ⟨decl, nested⟩ => decl.listing style (listingAll style nested)
termination_by structural type => type

/-- Types one after another, each followed by a blank line. -/
def listingAll (style : BodyStyle) : List TypeDef → Listing
  | [] => []
  | type :: types => type.listing style ++ Listing.blank :: listingAll style types
termination_by structural types => types

end

/-- The types of a namespace, in a block unless the namespace has no name. -/
def namespaceListing (style : BodyStyle) (space : String) (types : List TypeDef) : Listing :=
  .checkpoint ::
    if space = "" then listingAll style types
    else
      .line .header [⟨.directive, ".namespace "⟩, ⟨.typeName, space⟩] ::
        Listing.block ("end of namespace " ++ space) (listingAll style types)

end TypeDef

end Cil
