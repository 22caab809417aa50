import Cil.Language.Builtin
import Cil.Proofs.Digits
import Cil.Proofs.Escapes

/-!
# The texts that a rendering shows

String literals escape line feeds, and numbers have none. Names, namespaces, opcodes and comments
are written with the line feeds that they have. `Entity.texts` collects what the disassembly of an
entity writes outside of literals and `Entity.commentTexts` what its comments do; the spans of each
part of an entity are unbroken if and only if the texts of that part are.
-/

namespace Cil

/-- None of the texts holds a line feed. -/
def Unbroken (texts : List String) : Prop := ∀ text ∈ texts, '\n' ∉ text.toList

instance (texts : List String) : Decidable (Unbroken texts) :=
  inferInstanceAs (Decidable (∀ text ∈ texts, _))

@[simp] theorem unbroken_nil : Unbroken [] := by simp [Unbroken]

@[simp] theorem unbroken_cons {text : String} {texts : List String} :
    Unbroken (text :: texts) ↔ '\n' ∉ text.toList ∧ Unbroken texts := by
  simp [Unbroken]

@[simp] theorem unbroken_append {first second : List String} :
    Unbroken (first ++ second) ↔ Unbroken first ∧ Unbroken second := by
  simp [Unbroken, or_imp, forall_and]

@[simp] theorem unbroken_flatMap {α : Type} {f : α → List String} {parts : List α} :
    Unbroken (parts.flatMap f) ↔ ∀ part ∈ parts, Unbroken (f part) := by
  induction parts with
  | nil => simp
  | cons part parts ih => simp [ih]

/-! ### Texts that never hold a line feed -/

@[simp] theorem lineFeed_notMem_toDigits {base : Nat} (hbase : 1 < base) (n : Nat) :
    '\n' ∉ Nat.toDigits base n := by
  intro hmem
  have hdigit : ∀ digit < base, digit.digitChar ≠ '\n' := fun digit _ =>
    Nat.digitChar_ne '\n' (by decide)
  exact forall_mem_toDigits (P := (· ≠ '\n')) hbase hdigit n '\n' hmem rfl

@[simp] theorem lineFeed_notMem_repr (n : Int) : '\n' ∉ n.repr.toList := by
  cases n <;> simp [Int.repr]

theorem lineFeed_notMem_intercalate {separator : String} {texts : List String}
    (hseparator : '\n' ∉ separator.toList) (htexts : Unbroken texts) :
    '\n' ∉ (separator.intercalate texts).toList := by
  rw [String.toList_intercalate]
  induction texts with
  | nil => simp
  | cons text texts ih =>
    obtain ⟨htext, hrest⟩ := unbroken_cons.1 htexts
    cases texts with
    | nil => simpa using htext
    | cons next texts =>
      have hnext := ih hrest
      rw [List.map_cons] at hnext
      rw [List.map_cons, List.map_cons, List.intercalate_cons_cons]
      simp [htext, hseparator, hnext]

@[simp] theorem Version.lineFeed_notMem_text {separator : String}
    (hseparator : '\n' ∉ separator.toList) (version : Version) :
    '\n' ∉ (version.text separator).toList :=
  lineFeed_notMem_intercalate hseparator (by simp)

namespace Hex

theorem lineFeed_notMem_padded (width n : Nat) : '\n' ∉ padded width n := by
  simp [padded, List.leftpad]

@[simp] theorem lineFeed_notMem_label (offset : Nat) : '\n' ∉ (label offset).toList := by
  simp [label, lineFeed_notMem_padded]

@[simp] theorem lineFeed_notMem_number (width n : Nat) : '\n' ∉ (number width n).toList := by
  simp [number, lineFeed_notMem_padded]

@[simp] theorem lineFeed_notMem_spaced (bytes : List UInt8) : '\n' ∉ (spaced bytes).toList := by
  refine lineFeed_notMem_intercalate (by simp) fun text htext => ?_
  obtain ⟨byte, -, rfl⟩ := List.mem_map.1 htext
  rw [String.toList_ofList]
  exact notMem_upper (by decide) byte

@[simp] theorem lineFeed_notMem_packed (bytes : List UInt8) : '\n' ∉ (packed bytes).toList := by
  simp [packed, String.toList_join, lineFeed_notMem_padded]

end Hex

namespace Decimal

theorem lineFeed_notMem_positional {digits : List Char} (h : '\n' ∉ digits) (point : Int) :
    '\n' ∉ (positional digits point).toList := by
  have htake : '\n' ∉ digits.take point.toNat := fun hmem => h (List.mem_of_mem_take hmem)
  have hdrop : '\n' ∉ digits.drop point.toNat := fun hmem => h (List.mem_of_mem_drop hmem)
  unfold positional
  split
  · simp [h]
  · split
    · simp [h]
    · simp [htake, hdrop]

@[simp] theorem lineFeed_notMem_text (x : Float) : '\n' ∉ (text x).toList := by
  have hscaled : ∀ x : Scaled, '\n' ∉ x.text.toList := by
    intro x
    refine lineFeed_notMem_positional (fun hmem => ?_) _
    have hdigit := (List.dropWhile_sublist _).subset (List.mem_reverse.1 hmem)
    exact lineFeed_notMem_toDigits (by decide) x.digits (List.mem_reverse.1 hdigit)
  have hsign : ∀ positive : Prop, [Decidable positive] →
      '\n' ∉ (if positive then "" else "-").toList := by
    intro positive _
    split <;> simp
  simp only [text]
  split
  · split
    · simp [hsign]
    · simp
  · split
    · simp [hsign]
    · simp [hsign, hscaled]

end Decimal

@[simp] theorem Quoted.lineFeed_notMem_encode (text : String) :
    '\n' ∉ (encode text).toList :=
  control_notMem_encode (by decide) text

/-- Names are escaped, but their line feeds are not. -/
@[simp] theorem Name.lineFeed_mem_escape (name : String) :
    '\n' ∈ (escape name).toList ↔ '\n' ∈ name.toList := by
  have hescape : ∀ c, '\n' ∈ escapeChar c ↔ c = '\n' := by
    intro c
    unfold escapeChar
    split <;> simp_all [eq_comm]
  unfold escape
  split
  · rfl
  · simp [hescape]

/-! ### Texts that are shown -/

namespace TypeRef

/-- The namespace and the names that a reference is written with. -/
def pathTexts : TypeRef → List String
  | top type => [type.space, type.name]
  | nested type outer => outer.pathTexts ++ [type.name]

def qualifiedTexts (ref : TypeRef) : List String := ref.resolutionScope.toList ++ ref.pathTexts

/-- A primitive type is a keyword and shows nothing of its own. -/
def signatureTexts (ref : TypeRef) : List String :=
  if ref.keyword?.isSome then [] else ref.qualifiedTexts

end TypeRef

def methodReferenceTexts (returnType : TypeRef) (declaring : Option TypeRef) (name : String)
    (parameters : List TypeRef) : List String :=
  returnType.signatureTexts ++ declaring.toList.flatMap TypeRef.qualifiedTexts ++
    name :: parameters.flatMap TypeRef.signatureTexts

def Operand.texts : Operand → List String
  | type ref => ref.qualifiedTexts
  | method member =>
    methodReferenceTexts (member.type?.getD .void) (some member.declaringType) member.name
      member.parameters
  | field member =>
    member.type?.toList.flatMap TypeRef.signatureTexts ++ member.declaringType.qualifiedTexts ++
      [member.name]
  | localVar name | argument name => [name]
  | int _ | float _ | string _ | target _ | switch _ => []

def Instruction.texts (instruction : Instruction) : List String :=
  instruction.opcode :: instruction.operand.toList.flatMap Operand.texts

def Attribute.texts (custom : Attribute) : List String :=
  custom.type.qualifiedTexts ++ custom.parameters.flatMap TypeRef.signatureTexts

def Local.texts (slot : Local) : List String := slot.type.signatureTexts ++ [slot.name]

def Region.texts (region : Region) : List String :=
  match region.kind with
  | .catching exception => exception.qualifiedTexts
  | _ => []

/-- In the flat form only the handlers of protected blocks are shown, otherwise every region. -/
def Body.regionTexts (style : BodyStyle) (body : Body) : List String :=
  match style with
  | .flat =>
    (body.regions.filter (·.kind = .guarded)).flatMap fun guarded =>
      (handlersFrom body.regions guarded.stop).flatMap Region.texts
  | .structured => body.regions.flatMap Region.texts

def Body.texts (style : BodyStyle) (body : Body) : List String :=
  body.locals.flatMap Local.texts ++
    (body.instructions.flatMap Instruction.texts ++ body.regionTexts style)

/-- The names in the comment at the end of a member. -/
def endTexts (declaring : Option TypeRef) (name : String) : List String :=
  declaring.toList.map TypeRef.name ++ [name]

namespace Method

def headerTexts (method : Method) : List String :=
  method.returnType.signatureTexts ++ method.name ::
    method.parameters.flatMap fun parameter => parameter.type.signatureTexts ++ [parameter.name]

def accessorTexts (method : Method) : List String :=
  methodReferenceTexts method.returnType method.declaringType method.name
    (method.parameters.map Parameter.type)

def texts (style : BodyStyle) (method : Method) : List String :=
  method.headerTexts ++
    (method.attributes.flatMap Attribute.texts ++
      method.body.toList.flatMap (Body.texts style) ++
      endTexts method.declaringType method.name)

end Method

def Field.texts (field : Field) : List String := field.type.signatureTexts ++ [field.name]

def Property.texts (property : Property) : List String :=
  (property.type.signatureTexts ++ property.name ::
      property.parameters.flatMap (·.type.signatureTexts)) ++
    (property.accessors.flatMap Method.accessorTexts ++
      endTexts property.declaringType property.name)

def Event.texts (event : Event) : List String :=
  (event.type.qualifiedTexts ++ [event.name]) ++
    (event.accessors.flatMap Method.accessorTexts ++ endTexts event.declaringType event.name)

namespace TypeDecl

/-- A nested type is written without its namespace. -/
def nameTexts (decl : TypeDecl) : List String :=
  if decl.declaringType.isSome then [decl.name] else [decl.space, decl.name]

def memberTexts (style : BodyStyle) (decl : TypeDecl) : List String :=
  decl.fields.flatMap Field.texts ++
    (decl.methods ++ decl.accessors).flatMap (Method.texts style) ++
    decl.events.flatMap Event.texts ++ decl.properties.flatMap Property.texts

/-- What a type shows, the types nested in it apart. -/
def texts (style : BodyStyle) (decl : TypeDecl) : List String :=
  decl.nameTexts ++ (decl.baseType.toList ++ decl.interfaces).flatMap TypeRef.qualifiedTexts ++
    decl.attributes.flatMap Attribute.texts ++ decl.memberTexts style

end TypeDecl

/-- What types show with all that is nested in them. -/
def TypeDef.textsOf (style : BodyStyle) (types : List TypeDef) : List String :=
  (walkAll types).flatMap fun type => type.toTypeDecl.texts style

def Manifest.texts (manifest : Manifest) : List String :=
  manifest.name :: manifest.attributes.flatMap Attribute.texts

namespace Module

def headerTexts (module : Module) : List String := module.name :: module.mvid.toList

def contentTexts (style : BodyStyle) (module : Module) : List String :=
  module.namespaces.flatMap fun (space, types) => space :: TypeDef.textsOf style types

end Module

def Assembly.texts (style : BodyStyle) (full : Bool) (assembly : Assembly) : List String :=
  assembly.fileName :: (if full then assembly.module.references.map AssemblyRef.name else []) ++
    (assembly.manifest.toList.flatMap Manifest.texts ++
      (assembly.module.headerTexts ++ if full then assembly.module.contentTexts style else []))

namespace Entity

/-- The texts that the disassembly of an entity shows outside of string literals. -/
def texts (style : BodyStyle) (full : Bool) : Entity → List String
  | assembly a => a.texts style full
  | space name types => name :: TypeDef.textsOf style types
  | type t => TypeDef.textsOf style [t]
  | method m => m.texts style
  | field f => f.texts
  | property p => p.texts ++ p.accessors.flatMap (Method.texts style)
  | event e => e.texts ++ e.accessors.flatMap (Method.texts style)

/-- The texts in the comments that name an entity. -/
def commentTexts : Entity → List String
  | assembly a =>
    a.fileName ::
      match a.manifest with
      | none => [a.module.name]
      | some manifest =>
        manifest.name :: if manifest.isWindowsRuntime then [] else manifest.culture.toList
  | space name _ => [name]
  | type t => t.toRef.pathTexts
  | method m => memberTexts m.declaringType m.name
  | field f => memberTexts f.declaringType f.name
  | property p => memberTexts p.declaringType p.name
  | event e => memberTexts e.declaringType e.name
where
  memberTexts (declaring : Option TypeRef) (name : String) : List String :=
    declaring.toList.flatMap TypeRef.pathTexts ++ [name]

/-- The languages at hand, each with the texts that it shows of an entity. -/
def shown (full : Bool) (entity : Entity) : List (Language × List String) :=
  [(.disassembly .flat, entity.texts .flat full),
    (.disassembly .structured, entity.texts .structured full),
    (.commentsOnly, entity.commentTexts)]

end Entity

/-! ### Spans -/

@[simp] theorem Span.unbroken_flags {flags : List (Bool × String)}
    (h : ∀ flag ∈ flags, '\n' ∉ flag.2.toList) : Unbroken ((Span.flags flags).map Span.text) := by
  intro text htext
  obtain ⟨span, hspan, rfl⟩ := List.mem_map.1 htext
  obtain ⟨flag, hflag, rfl⟩ := List.mem_map.1 hspan
  exact h flag (List.mem_filter.1 hflag).1

@[simp] theorem Span.unbroken_separated {runs : List (List Span)} :
    Unbroken ((Span.separated runs).map Span.text) ↔
      ∀ run ∈ runs, Unbroken (run.map Span.text) := by
  unfold Span.separated
  induction runs with
  | nil => simp
  | cons run runs ih =>
    cases runs with
    | nil => simp
    | cons next runs =>
      rw [List.intercalate_cons_cons, List.map_append, List.map_append, unbroken_append,
        unbroken_append, ih, List.forall_mem_cons]
      simp

namespace TypeRef

@[simp] theorem unbroken_pathSpans (ref : TypeRef) :
    Unbroken (ref.pathSpans.map Span.text) ↔ Unbroken ref.pathTexts := by
  induction ref with
  | top type => by_cases hspace : type.space = "" <;> simp [pathSpans, pathTexts, hspace]
  | nested type outer ih => simp [pathSpans, pathTexts, ih]

@[simp] theorem unbroken_qualifiedSpans (ref : TypeRef) :
    Unbroken (ref.qualifiedSpans.map Span.text) ↔ Unbroken ref.qualifiedTexts := by
  unfold qualifiedSpans qualifiedTexts scopeSpans
  cases ref.resolutionScope <;> simp

theorem lineFeed_notMem_keyword {ref : TypeRef} {keyword : String}
    (h : ref.keyword? = some keyword) : '\n' ∉ keyword.toList := by
  unfold keyword? at h
  split at h
  · cases h
  · split at h
    · cases h
    · split at h <;> simp at h <;> simp [← h]

@[simp] theorem unbroken_signatureSpans (ref : TypeRef) :
    Unbroken (ref.signatureSpans.map Span.text) ↔ Unbroken ref.signatureTexts := by
  unfold signatureSpans signatureTexts
  cases hkeyword : ref.keyword? with
  | some keyword => simp [lineFeed_notMem_keyword hkeyword]
  | none => cases ref.type.isValueType <;> simp

end TypeRef

@[simp] theorem unbroken_methodReferenceSpans (hasThis : Bool) (returnType : TypeRef)
    (declaring : Option TypeRef) (name : String) (parameters : List TypeRef) :
    Unbroken ((methodReferenceSpans hasThis returnType declaring name parameters).map Span.text) ↔
      Unbroken (methodReferenceTexts returnType declaring name parameters) := by
  unfold methodReferenceSpans methodReferenceTexts
  cases hasThis <;> cases declaring <;> simp

@[simp] theorem Operand.unbroken_spans (operand : Operand) :
    Unbroken (operand.spans.map Span.text) ↔ Unbroken operand.texts := by
  cases operand with
  | switch offsets =>
    have hlabels : '\n' ∉ (", ".intercalate (offsets.map Hex.label)).toList := by
      refine lineFeed_notMem_intercalate (by simp) fun text htext => ?_
      obtain ⟨offset, -, rfl⟩ := List.mem_map.1 htext
      exact Hex.lineFeed_notMem_label offset
    simp only [spans, texts, List.map_cons, List.map_nil, unbroken_cons]
    exact iff_of_true ⟨by simp, hlabels, by simp, unbroken_nil⟩ unbroken_nil
  | field member => cases htype : member.type? <;> simp [spans, texts, htype]
  | _ => simp [spans, texts]

@[simp] theorem Instruction.unbroken_spans (instruction : Instruction) :
    Unbroken (instruction.spans.map Span.text) ↔ Unbroken instruction.texts := by
  unfold spans texts
  cases instruction.operand <;> simp

@[simp] theorem Local.unbroken_spans (slot : Local) (index : Nat) (isLast : Bool) :
    Unbroken ((slot.spans index isLast).map Span.text) ↔ Unbroken slot.texts := by
  cases isLast <;> simp [spans, texts]

@[simp] theorem Access.unbroken_spans (access : Access) :
    Unbroken (access.spans.map Span.text) := by
  cases access <;> simp [spans]

@[simp] theorem Method.unbroken_headerSpans (method : Method) :
    Unbroken (method.headerSpans.map Span.text) ↔ Unbroken method.headerTexts := by
  simp [headerSpans, headerTexts]

@[simp] theorem Property.unbroken_headerSpans (property : Property) :
    Unbroken (property.headerSpans.map Span.text) ↔
      Unbroken (property.type.signatureTexts ++ property.name ::
        property.parameters.flatMap (·.type.signatureTexts)) := by
  simp [headerSpans]

@[simp] theorem Event.unbroken_headerSpans (event : Event) :
    Unbroken (event.headerSpans.map Span.text) ↔
      Unbroken (event.type.qualifiedTexts ++ [event.name]) := by
  simp [headerSpans]

@[simp] theorem Constant.lineFeed_notMem_text (type : TypeRef) (constant : Constant) :
    '\n' ∉ (constant.text type).toList := by
  have hkeyword : ∀ other : String, '\n' ∉ other.toList →
      '\n' ∉ (type.keyword?.getD other).toList := by
    intro other hother
    cases hsome : type.keyword? with
    | none => exact hother
    | some keyword => exact TypeRef.lineFeed_notMem_keyword hsome
  cases constant with
  | bool value => cases value <;> simp [text]
  | int value => simp [text, hkeyword]
  | float value => simp [text, hkeyword]
  | _ => simp [text]

theorem TypeDecl.unbroken_headerSpans (decl : TypeDecl) :
    Unbroken (decl.headerSpans.map Span.text) ↔ Unbroken decl.nameTexts := by
  have hvisibility : '\n' ∉ decl.visibility.keyword.toList := by
    cases decl.visibility <;> simp [Visibility.keyword]
  cases hdeclaring : decl.declaringType with
  | none =>
    simp [headerSpans, nameTexts, hdeclaring, hvisibility, TypeRef.spans, toRef, TypeRef.within,
      TypeRef.qualifiedTexts, TypeRef.resolutionScope, TypeRef.pathTexts]
  | some outer =>
    simp [headerSpans, nameTexts, hdeclaring, hvisibility, TypeRef.spans, toRef, TypeRef.within,
      TypeRef.name, TypeRef.type]

end Cil
