import Cil.Listing.TypeDef
import Cil.Metadata.Assembly

/-!
# Assemblies in a listing
-/

namespace Cil

def Version.item (version : Version) : Item :=
  .line .detail [⟨.directive, ".ver "⟩, ⟨.literal, version.text ":"⟩]

/-- The line for a culture, under either of its two directives. The neutral culture has none. -/
def cultureListing (directive : String) : Option String → Listing
  | none | some "" => []
  | some culture =>
    [.line .detail [⟨.directive, directive⟩, ⟨.text, " "⟩, ⟨.literal, Quoted.encode culture⟩]]

def AssemblyRef.listing (reference : AssemblyRef) : Listing :=
  .checkpoint ::
    .line .header [⟨.directive, ".assembly extern "⟩, ⟨.typeName, Name.escape reference.name⟩] ::
    Listing.block ""
      ((match reference.publicKeyToken with
        | none | some [] => []
        | some bytes =>
          [.line .detail
            [⟨.directive, ".publickeytoken = "⟩, ⟨.literal, "(" ++ Hex.spaced bytes ++ ")"⟩]]) ++
        cultureListing ".culture" reference.culture ++ [reference.version.item])

def Manifest.listing (manifest : Manifest) : Listing :=
  .checkpoint ::
    .line .header
      (⟨.directive, ".assembly "⟩ :: Span.flags [(manifest.isWindowsRuntime, "windowsruntime ")] ++
        [⟨.typeName, Name.escape manifest.name⟩]) ::
    Listing.block ""
      (manifest.attributes.map Attribute.item ++
        (manifest.hashAlgorithm.toList.map fun algorithm =>
          .line .detail [⟨.directive, ".hash algorithm "⟩, ⟨.literal, Hex.number 8 algorithm⟩]) ++
        cultureListing ".locale" manifest.culture ++ [manifest.version.item])

namespace Module

def referenceListing (module : Module) : Listing := module.references.flatMap AssemblyRef.listing

def headerListing (module : Module) : Listing :=
  let entry (directive value : String) : Item :=
    .line .detail [⟨.directive, directive⟩, ⟨.text, " "⟩, ⟨.literal, value⟩]
  .checkpoint ::
    .line .header [⟨.directive, ".module "⟩, ⟨.typeName, Name.escape module.name⟩] ::
    (module.mvid.toList.map fun mvid =>
      Listing.single .detail .comment ("// MVID: \x7b" ++ mvid ++ "\x7d")) ++
    [entry ".imagebase" (Hex.number 8 module.imageBase),
      entry ".file alignment" (Hex.number 8 module.fileAlignment),
      entry ".stackreserve" (Hex.number 8 module.stackReserve),
      entry ".subsystem" (Hex.number 4 module.subsystem),
      entry ".corflags" (Hex.number 8 module.corFlags)]

/-- All types, namespace by namespace. -/
def contentListing (style : BodyStyle) (module : Module) : Listing :=
  module.namespaces.flatMap fun (space, types) => TypeDef.namespaceListing style space types

end Module

/-- The assembly and its module by their headers; in full, with the references and all types too. -/
def Assembly.listing (style : BodyStyle) (full : Bool) (assembly : Assembly) : Listing :=
  [Listing.single .detail .comment ("// " ++ assembly.fileName), Listing.blank] ++
    (if full then assembly.module.referenceListing else []) ++
    assembly.manifest.elim [] Manifest.listing ++
    Listing.blank :: assembly.module.headerListing ++
    if full then Listing.blank :: Listing.blank :: assembly.module.contentListing style else []

end Cil
