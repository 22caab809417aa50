import Cil.Json.Decoder
import Cil.Metadata.Assembly

/-!
# Metadata documents

The metadata of an assembly is stored as a document of records and choices. Records may be nested
127 levels deep. Loading a document decodes it, names its file if the document does not, and links
it.
-/

namespace Cil.Document

open Json Json.Decoder

/-- How many levels of records, lists and choices a document may have. -/
def maxLevels : Nat := 127

def typeRef : Nat → Decoder TypeRef
  | 0, _ => none
  | levels + 1, json => do
    let fields ← fields ["namespace", "name", "scope", "is_value_type", "declaring"] json
    let space ← fields.getD "namespace" "" text
    let name ← fields.required "name" text
    let scope ← fields.getD "scope" none (optional text)
    let isValueType ← fields.getD "is_value_type" false bool
    let declaring ← fields.getD "declaring" none (optional (typeRef levels))
    return .within { space, name, scope, isValueType } declaring

def offset : Decoder Nat := nat 32

/-! ### Bodies -/

def localVariable (levels : Nat) : Decoder Local :=
  nest levels fun levels json => do
    let fields ← fields ["name", "local_type"] json
    let name ← fields.required "name" text
    let type ← fields.required "local_type" (typeRef levels)
    return { name, type }

def memberOperand (levels : Nat) : Decoder MemberOperand :=
  nest levels fun levels json => do
    let fields ← fields ["declaring_type", "name", "member_type", "parameters", "has_this"] json
    let declaringType ← fields.required "declaring_type" (typeRef levels)
    let name ← fields.required "name" text
    let type? ← fields.getD "member_type" none (optional (typeRef levels))
    let parameters ← fields.getD "parameters" [] (list levels typeRef)
    let hasThis ← fields.getD "has_this" false bool
    return { declaringType, name, type?, parameters, hasThis }

def operand (levels : Nat) : Decoder Operand := fun json => do
  let (name, value) ← choice levels json
  let (levels, value) ← value
  match name with
  | "int" => (int64 value).map .int
  | "float" => (float value).map .float
  | "string" => (text value).map .string
  | "target" => (offset value).map .target
  | "switch" => (list levels (fun _ => offset) value).map .switch
  | "type" => (typeRef levels value).map .type
  | "method" => (memberOperand levels value).map .method
  | "field" => (memberOperand levels value).map .field
  | "local" => (text value).map .localVar
  | "arg" => (text value).map .argument
  | _ => none

def instruction (levels : Nat) : Decoder Instruction :=
  nest levels fun levels json => do
    let fields ← fields ["offset", "opcode", "operand"] json
    let offset ← fields.required "offset" offset
    let opcode ← fields.required "opcode" text
    let operand ← fields.getD "operand" none (optional (operand levels))
    return { offset, opcode, operand }

def regionKind (levels : Nat) : Decoder RegionKind := fun json => do
  let (name, value) ← choice levels json
  match name, value with
  | "catch", some (levels, value) => (typeRef levels value).map .catching
  | "loop", value => (noValue value).map fun _ => .loop
  | "try", value => (noValue value).map fun _ => .guarded
  | "finally", value => (noValue value).map fun _ => .finalizer
  | "fault", value => (noValue value).map fun _ => .fault
  | "filter", value => (noValue value).map fun _ => .filter
  | _, _ => none

def region (levels : Nat) : Decoder Region :=
  nest levels fun levels json => do
    let fields ← fields ["kind", "start", "end"] json
    let kind ← fields.required "kind" (regionKind levels)
    let start ← fields.required "start" offset
    let stop ← fields.required "end" offset
    return { kind, start, stop }

def body (levels : Nat) : Decoder Body :=
  nest levels fun levels json => do
    let fields ← fields ["max_stack", "init_locals", "locals", "instructions", "structures"] json
    let maxStack ← fields.getD "max_stack" 8 (nat 32)
    let initLocals ← fields.getD "init_locals" false bool
    let locals ← fields.getD "locals" [] (list levels localVariable)
    let instructions ← fields.getD "instructions" [] (list levels instruction)
    let regions ← fields.getD "structures" [] (list levels region)
    return { maxStack, initLocals, locals, instructions, regions }

/-! ### Members -/

def access (levels : Nat) : Decoder Access := fun json => do
  match ← name levels json with
  | "private_scope" => some .privateScope
  | "private" => some .private
  | "family_and_assembly" => some .familyAndAssembly
  | "assembly" => some .assembly
  | "family" => some .family
  | "family_or_assembly" => some .familyOrAssembly
  | "public" => some .public
  | _ => none

def customAttribute (levels : Nat) : Decoder Attribute :=
  nest levels fun levels json => do
    let fields ← fields ["attribute_type", "parameters", "blob"] json
    let type ← fields.required "attribute_type" (typeRef levels)
    let parameters ← fields.getD "parameters" [] (list levels typeRef)
    let blob ← fields.getD "blob" [] (list levels fun _ => byte)
    return { type, parameters, blob }

def parameter (levels : Nat) : Decoder Parameter :=
  nest levels fun levels json => do
    let fields ← fields ["name", "param_type"] json
    let name ← fields.required "name" text
    let type ← fields.required "param_type" (typeRef levels)
    return { name, type }

def method (levels : Nat) : Decoder Method :=
  nest levels fun levels json => do
    let fields ← fields ["name", "declaring_type", "access", "is_static", "is_virtual",
      "is_abstract", "is_final", "is_new_slot", "is_hide_by_sig", "is_special_name",
      "is_rt_special_name", "return_type", "parameters", "body", "custom_attributes"] json
    let name ← fields.required "name" text
    let declaringType ← fields.getD "declaring_type" none (optional (typeRef levels))
    let access ← fields.getD "access" .private (access levels)
    let isStatic ← fields.getD "is_static" false bool
    let isVirtual ← fields.getD "is_virtual" false bool
    let isAbstract ← fields.getD "is_abstract" false bool
    let isFinal ← fields.getD "is_final" false bool
    let isNewSlot ← fields.getD "is_new_slot" false bool
    let isHideBySig ← fields.getD "is_hide_by_sig" false bool
    let isSpecialName ← fields.getD "is_special_name" false bool
    let isRuntimeSpecialName ← fields.getD "is_rt_special_name" false bool
    let returnType ← fields.getD "return_type" .void (typeRef levels)
    let parameters ← fields.getD "parameters" [] (list levels parameter)
    let body ← fields.getD "body" none (optional (body levels))
    let attributes ← fields.getD "custom_attributes" [] (list levels customAttribute)
    return {
      name, declaringType, access, isStatic, isVirtual, isAbstract, isFinal, isNewSlot,
      isHideBySig, isSpecialName, isRuntimeSpecialName, returnType, parameters, body, attributes }

def constant (levels : Nat) : Decoder Constant := fun json => do
  let (name, value) ← choice levels json
  match name, value with
  | "null", value => (noValue value).map fun _ => .null
  | "bool", some (_, value) => (bool value).map .bool
  | "int", some (_, value) => (int64 value).map .int
  | "float", some (_, value) => (float value).map .float
  | "string", some (_, value) => (text value).map .string
  | _, _ => none

def field (levels : Nat) : Decoder Field :=
  nest levels fun levels json => do
    let fields ← fields ["name", "declaring_type", "access", "is_static", "is_init_only",
      "is_literal", "field_type", "constant"] json
    let name ← fields.required "name" text
    let declaringType ← fields.getD "declaring_type" none (optional (typeRef levels))
    let access ← fields.getD "access" .private (access levels)
    let isStatic ← fields.getD "is_static" false bool
    let isInitOnly ← fields.getD "is_init_only" false bool
    let isLiteral ← fields.getD "is_literal" false bool
    let type ← fields.required "field_type" (typeRef levels)
    let constant ← fields.getD "constant" none (optional (constant levels))
    return { name, declaringType, access, isStatic, isInitOnly, isLiteral, type, constant }

def property (levels : Nat) : Decoder Property :=
  nest levels fun levels json => do
    let fields ← fields ["name", "declaring_type", "property_type", "parameters", "get_method",
      "set_method", "other_methods"] json
    let name ← fields.required "name" text
    let declaringType ← fields.getD "declaring_type" none (optional (typeRef levels))
    let type ← fields.required "property_type" (typeRef levels)
    let parameters ← fields.getD "parameters" [] (list levels parameter)
    let getter ← fields.getD "get_method" none (optional (method levels))
    let setter ← fields.getD "set_method" none (optional (method levels))
    let others ← fields.getD "other_methods" [] (list levels method)
    return { name, declaringType, type, parameters, getter, setter, others }

def event (levels : Nat) : Decoder Event :=
  nest levels fun levels json => do
    let fields ← fields ["name", "declaring_type", "event_type", "add_method", "remove_method",
      "other_methods"] json
    let name ← fields.required "name" text
    let declaringType ← fields.getD "declaring_type" none (optional (typeRef levels))
    let type ← fields.required "event_type" (typeRef levels)
    let adder ← fields.getD "add_method" none (optional (method levels))
    let remover ← fields.getD "remove_method" none (optional (method levels))
    let others ← fields.getD "other_methods" [] (list levels method)
    return { name, declaringType, type, adder, remover, others }

/-! ### Types -/

def visibility (levels : Nat) : Decoder Visibility := fun json => do
  match ← name levels json with
  | "not_public" => some .notPublic
  | "public" => some .public
  | "nested_public" => some .nestedPublic
  | "nested_private" => some .nestedPrivate
  | "nested_family" => some .nestedFamily
  | "nested_assembly" => some .nestedAssembly
  | "nested_family_and_assembly" => some .nestedFamilyAndAssembly
  | "nested_family_or_assembly" => some .nestedFamilyOrAssembly
  | _ => none

/-- A type definition. The list of its nested types is a level of its own. -/
def typeDef : Nat → Decoder TypeDef
  | 0, _ => none
  | levels + 1, json => do
    let fields ← fields ["namespace", "name", "declaring_type", "visibility", "is_interface",
      "is_abstract", "is_sealed", "before_field_init", "base_type", "interfaces",
      "custom_attributes", "fields", "methods", "properties", "events", "nested_types"] json
    let space ← fields.getD "namespace" "" text
    let name ← fields.required "name" text
    let declaringType ← fields.getD "declaring_type" none (optional (typeRef levels))
    let visibility ← fields.getD "visibility" .notPublic (visibility levels)
    let isInterface ← fields.getD "is_interface" false bool
    let isAbstract ← fields.getD "is_abstract" false bool
    let isSealed ← fields.getD "is_sealed" false bool
    let beforeFieldInit ← fields.getD "before_field_init" false bool
    let baseType ← fields.getD "base_type" none (optional (typeRef levels))
    let interfaces ← fields.getD "interfaces" [] (list levels typeRef)
    let attributes ← fields.getD "custom_attributes" [] (list levels customAttribute)
    let ownFields ← fields.getD "fields" [] (list levels field)
    let methods ← fields.getD "methods" [] (list levels method)
    let properties ← fields.getD "properties" [] (list levels property)
    let events ← fields.getD "events" [] (list levels event)
    let nestedTypes ← fields.getD "nested_types" [] fun json =>
      match levels with
      | 0 => none
      | levels + 1 => elements (typeDef levels) json
    return {
      space, name, declaringType, visibility, isInterface, isAbstract, isSealed,
      beforeFieldInit, baseType, interfaces, attributes, fields := ownFields, methods, properties,
      events, nestedTypes }

/-! ### Assemblies -/

def version (levels : Nat) : Decoder Version := fun json => do
  match ← list levels (fun _ => nat 16) json with
  | [major, minor, build, revision] => some { major, minor, build, revision }
  | _ => none

def keyToken (levels : Nat) : Decoder (Option (List UInt8)) :=
  optional (list levels fun _ => byte)

def assemblyRef (levels : Nat) : Decoder AssemblyRef :=
  nest levels fun levels json => do
    let fields ← fields ["name", "version", "culture", "public_key_token"] json
    let name ← fields.required "name" text
    let version ← fields.getD "version" {} (version levels)
    let culture ← fields.getD "culture" none (optional text)
    let publicKeyToken ← fields.getD "public_key_token" none (keyToken levels)
    return { name, version, culture, publicKeyToken }

def manifest (levels : Nat) : Decoder Manifest :=
  nest levels fun levels json => do
    let fields ← fields ["name", "version", "culture", "public_key_token", "hash_algorithm",
      "is_windows_runtime", "custom_attributes"] json
    let name ← fields.required "name" text
    let version ← fields.getD "version" {} (version levels)
    let culture ← fields.getD "culture" none (optional text)
    let publicKeyToken ← fields.getD "public_key_token" none (keyToken levels)
    let hashAlgorithm ← fields.getD "hash_algorithm" none (optional (nat 32))
    let isWindowsRuntime ← fields.getD "is_windows_runtime" false bool
    let attributes ← fields.getD "custom_attributes" [] (list levels customAttribute)
    return { name, version, culture, publicKeyToken, hashAlgorithm, isWindowsRuntime, attributes }

def moduleDef (levels : Nat) : Decoder Module :=
  nest levels fun levels json => do
    let fields ← fields ["name", "mvid", "image_base", "file_alignment", "stack_reserve",
      "subsystem", "corflags", "assembly_refs", "types"] json
    let name ← fields.required "name" text
    let mvid ← fields.getD "mvid" none (optional text)
    let imageBase ← fields.getD "image_base" 0x400000 (nat 64)
    let fileAlignment ← fields.getD "file_alignment" 0x200 (nat 32)
    let stackReserve ← fields.getD "stack_reserve" 0x100000 (nat 64)
    let subsystem ← fields.getD "subsystem" 3 (nat 16)
    let corFlags ← fields.getD "corflags" 1 (nat 32)
    let references ← fields.getD "assembly_refs" [] (list levels assemblyRef)
    let types ← fields.getD "types" [] (list levels typeDef)
    return {
      name, mvid, imageBase, fileAlignment, stackReserve, subsystem, corFlags, references,
      types }

def assembly (levels : Nat) : Decoder Assembly :=
  nest levels fun levels json => do
    let fields ← fields ["file_name", "assembly", "module"] json
    let fileName ← fields.getD "file_name" "" text
    let manifest ← fields.getD "assembly" none (optional (manifest levels))
    let module ← fields.required "module" (moduleDef levels)
    return { fileName, manifest, module }

/-- Reads a text as one value of a given shape. -/
def decode? {α : Type} (decoder : Nat → Decoder α) (text : String) : Option α := do
  decoder maxLevels (← Json.read? text)

/-- Loads an assembly from its document. The fallback name is for a document that does not name its
file. -/
def load? (text fallbackName : String) : Option Assembly := do
  let assembly ← decode? assembly text
  return (assembly.withFallbackName fallbackName).link

end Cil.Document
