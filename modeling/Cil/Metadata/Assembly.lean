import Cil.Metadata.TypeDef
import Cil.Text.Hex

/-!
# Assemblies

A loaded assembly is a file with a module in it and, unless the file is a bare module, a manifest
that gives the assembly its identity.
-/

namespace Cil

structure Version where
  major : Nat := 0
  minor : Nat := 0
  build : Nat := 0
  revision : Nat := 0
deriving DecidableEq, Repr

/-- The four numbers with a separator between them. -/
def Version.text (separator : String) (version : Version) : String :=
  separator.intercalate
    ([version.major, version.minor, version.build, version.revision].map Nat.repr)

/-- An assembly that a module refers to. -/
structure AssemblyRef where
  name : String
  version : Version := {}
  culture : Option String := none
  publicKeyToken : Option (List UInt8) := none
deriving DecidableEq, Repr

/-- The manifest of an assembly. -/
structure Manifest where
  name : String
  version : Version := {}
  culture : Option String := none
  publicKeyToken : Option (List UInt8) := none
  hashAlgorithm : Option Nat := none
  isWindowsRuntime : Bool := false
  attributes : List Attribute := []
deriving DecidableEq, Repr

namespace Manifest

/-- An absent culture and an empty one are both the neutral culture. -/
def cultureText (manifest : Manifest) : String :=
  match manifest.culture with
  | none | some "" => "neutral"
  | some culture => culture

def tokenText (manifest : Manifest) : String :=
  match manifest.publicKeyToken with
  | none | some [] => "null"
  | some bytes => Hex.packed bytes

/-- The identity of the assembly in one line. -/
def fullName (manifest : Manifest) : String :=
  manifest.name ++ ", Version=" ++ manifest.version.text "." ++
    ", Culture=" ++ manifest.cultureText ++ ", PublicKeyToken=" ++ manifest.tokenText

end Manifest

structure Module where
  name : String
  /-- The version identifier of the module. -/
  mvid : Option String := none
  imageBase : Nat := 0x400000
  fileAlignment : Nat := 0x200
  stackReserve : Nat := 0x100000
  subsystem : Nat := 3
  corFlags : Nat := 1
  references : List AssemblyRef := []
  types : List TypeDef := []
deriving BEq, Repr

/-- Types grouped by namespace. -/
abbrev NamespaceGroups := List (String × List TypeDef)

/-- Appends a type to the group of its namespace, or starts that group after all others. -/
def NamespaceGroups.add : NamespaceGroups → TypeDef → NamespaceGroups
  | [], type => [(type.space, [type])]
  | (space, types) :: groups, type =>
    if space = type.space then (space, types ++ [type]) :: groups
    else (space, types) :: NamespaceGroups.add groups type

namespace Module

/-- The top-level types by namespace, the namespaces in the order in which they are first seen. -/
def namespaces (module : Module) : NamespaceGroups := module.types.foldl .add []

/-- All types, each one before the types nested in it. -/
def allTypes (module : Module) : List TypeDef := TypeDef.walkAll module.types

/-- The first type with the given full name. -/
def findType? (module : Module) (fullName : String) : Option TypeDef :=
  module.allTypes.find? fun type => type.fullName == fullName

end Module

/-- A file with its module and, if it is an assembly, the manifest. -/
structure Assembly where
  fileName : String := ""
  manifest : Option Manifest := none
  module : Module
deriving BEq, Repr

namespace Assembly

/-- Links all types of the module. -/
def link (assembly : Assembly) : Assembly :=
  { assembly with
    module := { assembly.module with types := assembly.module.types.map TypeDef.link } }

/-- Names the file of an assembly that does not say what its file is. -/
def withFallbackName (name : String) (assembly : Assembly) : Assembly :=
  if assembly.fileName = "" then { assembly with fileName := name } else assembly

end Assembly

end Cil
