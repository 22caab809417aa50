import Cil.Language.Builtin
import Cil.Proofs.Escapes
import Cil.Proofs.Recorded

/-!
# How types are written

A reference to a type is written in two ways that know nothing of each other: spans for a listing,
and the full name of the metadata. Both go through the enclosing types, and both take the namespace
from the outermost one, as the listing does with the scope. So the spans are the scope and the full
name of the reference with all its names escaped (`plain_qualifiedSpans`).

An escaped name that is no word is longer than the name. So the two ways agree on a reference
exactly if nothing in it is escaped and it has no scope (`plain_qualifiedSpans_eq_fullName_iff`).
-/

namespace Cil

/-! ### The length of escaped names -/

namespace Name

theorem length_le_length_flatMap (chars : List Char) :
    chars.length ≤ (chars.flatMap escapeChar).length := by
  induction chars with
  | nil => simp
  | cons c chars ih =>
    have hescape : 1 ≤ (escapeChar c).length := by
      unfold escapeChar
      split <;> simp
    simp only [List.length_cons, List.flatMap_cons, List.length_append]
    omega

theorem length_lt_length_escape {name : String} (h : isWord name = false) :
    name.length < (escape name).length := by
  have hinside := length_le_length_flatMap name.toList
  have hwritten :
      (escape name).toList = '\x27' :: (name.toList.flatMap escapeChar ++ ['\x27']) := by
    simp [escape, h]
  rw [← String.length_toList, ← String.length_toList, hwritten, List.length_cons,
    List.length_append]
  omega

theorem length_le_length_escape (name : String) : name.length ≤ (escape name).length := by
  cases hword : isWord name with
  | true => exact Nat.le_of_eq (by rw [escape_of_isWord hword])
  | false => exact Nat.le_of_lt (length_lt_length_escape hword)

theorem length_escape_le_iff {name : String} :
    (escape name).length ≤ name.length ↔ isWord name = true := by
  cases hword : isWord name with
  | true => simp [escape_of_isWord hword]
  | false => simpa using length_lt_length_escape hword

end Name

namespace TypeRef

/-! ### Going through the enclosing types -/

/-- The type that encloses all others. -/
def outermost : TypeRef → TypeName
  | top type => type
  | nested _ outer => outer.outermost

/-- The names of all types from the outermost inwards. -/
def names : TypeRef → List String
  | top type => [type.name]
  | nested type outer => outer.names ++ [type.name]

/-- Applies a change to the name of every type. -/
def mapNames (f : String → String) : TypeRef → TypeRef
  | top type => top { type with name := f type.name }
  | nested type outer => nested { type with name := f type.name } (outer.mapNames f)

theorem mapNames_eq_self {f : String → String} {ref : TypeRef}
    (h : ∀ name ∈ ref.names, f name = name) : ref.mapNames f = ref := by
  induction ref with
  | top type => simp [mapNames, h type.name (by simp [names])]
  | nested type outer ih =>
    have houter : outer.mapNames f = outer := ih fun name hname => h name (by simp [names, hname])
    simp [mapNames, houter, h type.name (by simp [names])]

theorem resolutionScope_eq (ref : TypeRef) : ref.resolutionScope = ref.outermost.scope := by
  induction ref with
  | top type => rfl
  | nested type outer ih => exact ih

theorem plain_pathSpans (ref : TypeRef) :
    Span.plain ref.pathSpans = (ref.mapNames Name.escape).fullName := by
  induction ref with
  | top type =>
    by_cases hspace : type.space = "" <;>
      simp [pathSpans, mapNames, fullName, hspace, String.append_assoc]
  | nested type outer ih =>
    rw [pathSpans, Span.plain_append, ih, mapNames, fullName]
    simp [String.append_assoc]

theorem plain_qualifiedSpans (ref : TypeRef) :
    Span.plain ref.qualifiedSpans =
      (ref.outermost.scope.elim "" fun scope => "[" ++ Name.escape scope ++ "]") ++
        (ref.mapNames Name.escape).fullName := by
  rw [qualifiedSpans, Span.plain_append, plain_pathSpans, scopeSpans, resolutionScope_eq]
  cases ref.outermost.scope <;> simp

/-! ### Where nothing is escaped -/

theorem length_fullName_le (ref : TypeRef) :
    ref.fullName.length ≤ (ref.mapNames Name.escape).fullName.length := by
  induction ref with
  | top type =>
    have hname := Name.length_le_length_escape type.name
    by_cases hspace : type.space = "" <;> simp [mapNames, fullName, hspace, hname]
  | nested type outer ih =>
    have hname := Name.length_le_length_escape type.name
    simp only [mapNames, fullName, String.length_append]
    omega

theorem length_fullName_mapNames_le_iff (ref : TypeRef) :
    (ref.mapNames Name.escape).fullName.length ≤ ref.fullName.length ↔
      ∀ name ∈ ref.names, Name.isWord name = true := by
  induction ref with
  | top type =>
    by_cases hspace : type.space = "" <;>
      simp [mapNames, fullName, names, hspace, Name.length_escape_le_iff]
  | nested type outer ih =>
    have houter := outer.length_fullName_le
    have hname := Name.length_le_length_escape type.name
    have hsplit : (∀ name ∈ (nested type outer).names, Name.isWord name = true) ↔
        (∀ name ∈ outer.names, Name.isWord name = true) ∧ Name.isWord type.name = true := by
      simp [names, or_imp, forall_and]
    rw [hsplit, ← ih, ← Name.length_escape_le_iff]
    simp only [mapNames, fullName, String.length_append]
    omega

theorem plain_qualifiedSpans_eq_fullName_iff (ref : TypeRef) :
    Span.plain ref.qualifiedSpans = ref.fullName ↔
      ref.outermost.scope = none ∧ ∀ name ∈ ref.names, Name.isWord name = true := by
  rw [plain_qualifiedSpans]
  constructor
  · intro h
    have hlength := congrArg String.length h
    rw [String.length_append] at hlength
    have hle := ref.length_fullName_le
    refine ⟨?_, ref.length_fullName_mapNames_le_iff.1 (by omega)⟩
    cases hscope : ref.outermost.scope with
    | none => rfl
    | some scope =>
      rw [hscope] at hlength
      simp only [Option.elim_some, String.length_append] at hlength
      have hbracket : "[".length = 1 := rfl
      omega
  · rintro ⟨hscope, hwords⟩
    rw [hscope, mapNames_eq_self fun name hname => Name.escape_of_isWord (hwords name hname)]
    simp

/-! ### Primitive types -/

/-- The primitive types by name, with their keywords. -/
def primitives : List (String × String) := [
  ("Void", "void"), ("Boolean", "bool"), ("Char", "char"), ("SByte", "int8"), ("Byte", "uint8"),
  ("Int16", "int16"), ("UInt16", "uint16"), ("Int32", "int32"), ("UInt32", "uint32"),
  ("Int64", "int64"), ("UInt64", "uint64"), ("Single", "float32"), ("Double", "float64"),
  ("String", "string"), ("Object", "object"), ("IntPtr", "native int"),
  ("UIntPtr", "native unsigned int"), ("TypedReference", "typedref")]

/-- The reference is to a primitive type of the namespace `System` that no type encloses. -/
def IsPrimitive (keyword : String) : TypeRef → Prop
  | top type => type.space = "System" ∧ (type.name, keyword) ∈ primitives
  | nested _ _ => False

theorem keyword?_eq_some_iff {ref : TypeRef} {keyword : String} :
    ref.keyword? = some keyword ↔ ref.IsPrimitive keyword := by
  cases ref with
  | nested type outer => simp [keyword?, IsPrimitive]
  | top type =>
    rw [keyword?, IsPrimitive]
    split
    · simp_all
    · next hspace =>
      rw [Decidable.not_not] at hspace
      split <;> simp_all [primitives, @eq_comm _ keyword]

theorem plain_signatureSpans_of_keyword {ref : TypeRef} {keyword : String}
    (h : ref.keyword? = some keyword) : Span.plain ref.signatureSpans = keyword := by
  simp [signatureSpans, h]

theorem plain_signatureSpans_of_none {ref : TypeRef} (h : ref.keyword? = none) :
    Span.plain ref.signatureSpans =
      (if ref.type.isValueType then "valuetype " else "class ") ++
        Span.plain ref.qualifiedSpans := by
  simp [signatureSpans, h]

end TypeRef

/-! ### Types in listings and in the metadata -/

/-- A qualified type is written as the scope of its outermost type, if there is one, and the full
name of the reference with every name escaped. So the disassembly and the default agree on a type
exactly if it has no such scope and all its names are words. In a signature a type is the keyword of
a primitive, or the qualified type after a word that tells values from classes. -/
theorem typeNames_exact (ref : TypeRef) :
    Span.plain (ref.spans .qualified) =
      (ref.outermost.scope.elim "" fun scope => "[" ++ Name.escape scope ++ "]") ++
        (ref.mapNames Name.escape).fullName ∧
    (∀ style, (Language.disassembly style).typeText (some ref) true =
        Language.defaultTypeText (some ref) true ↔
      ref.outermost.scope = none ∧ ∀ name ∈ ref.names, Name.isWord name = true) ∧
    (∀ keyword, ref.IsPrimitive keyword → Span.plain (ref.spans .signature) = keyword) ∧
    ((∀ keyword, ¬ ref.IsPrimitive keyword) →
      Span.plain (ref.spans .signature) =
        (if ref.type.isValueType then "valuetype " else "class ") ++
          Span.plain (ref.spans .qualified)) := by
  refine ⟨ref.plain_qualifiedSpans, fun _ => ref.plain_qualifiedSpans_eq_fullName_iff, ?_, ?_⟩
  · intro keyword hprimitive
    exact TypeRef.plain_signatureSpans_of_keyword (TypeRef.keyword?_eq_some_iff.2 hprimitive)
  · intro hother
    refine TypeRef.plain_signatureSpans_of_none (Option.eq_none_iff_forall_ne_some.2 ?_)
    intro keyword hkeyword
    exact hother keyword (TypeRef.keyword?_eq_some_iff.1 hkeyword)

/-- A value type in a class in a primitive type: the namespaces and scopes of the inner two do not
count, and what is enclosed in a primitive is none. -/
theorem typeNames_exact_enclosed :
    let primitive : TypeRef := .top { space := "System", name := "Int32" }
    let ref : TypeRef :=
      .nested { space := "A", name := "Item", scope := some "a", isValueType := true }
        (.nested { space := "B", name := "Box`1", scope := some "b" } primitive)
    (Language.disassembly .flat).typeText (some ref) true = ref.fullName ∧
    ref.fullName = "System.Int32/Box`1/Item" ∧
    Span.plain (ref.spans .signature) = "valuetype System.Int32/Box`1/Item" ∧
    Span.plain (primitive.spans .signature) = "int32" := by
  intro primitive ref
  obtain ⟨-, hagree, -, hother⟩ := typeNames_exact ref
  obtain ⟨-, -, hprimitive, -⟩ := typeNames_exact primitive
  refine ⟨(hagree .flat).2 ⟨rfl, by decide⟩, by decide, ?_, hprimitive "int32" ⟨rfl, by decide⟩⟩
  rw [hother fun _ h => h]
  decide

end Cil
