import Cil.Metadata.Document

/-!
# Linked types

`TypeDef.Linked`: at every depth, whatever a type holds names that type as its declaring type.
Linking establishes this from any stale values (`linked_linkUnder`). It changes nothing else, which
is said with `TypeDef.unlinked`, the tree without these values (`unlinked_linkUnder`), so linking
again finds nothing to do (`linkUnder_linkUnder`).
-/

namespace Cil

/-! ### Trees without declaring types -/

def Method.undeclared (method : Method) : Method := { method with declaringType := none }

def Field.undeclared (field : Field) : Field := { field with declaringType := none }

def Property.undeclared (property : Property) : Property :=
  { property with
    declaringType := none
    getter := property.getter.map Method.undeclared
    setter := property.setter.map Method.undeclared
    others := property.others.map Method.undeclared }

def Event.undeclared (event : Event) : Event :=
  { event with
    declaringType := none
    adder := event.adder.map Method.undeclared
    remover := event.remover.map Method.undeclared
    others := event.others.map Method.undeclared }

def TypeDecl.unlinkMembers (decl : TypeDecl) : TypeDecl :=
  { decl with
    fields := decl.fields.map Field.undeclared
    methods := decl.methods.map Method.undeclared
    properties := decl.properties.map Property.undeclared
    events := decl.events.map Event.undeclared }

namespace TypeDef

mutual

/-- Forgets which type declares each member, accessor and nested type. What declares the type itself
is kept. -/
def unlinked : TypeDef → TypeDef
  | ⟨decl, nested⟩ => ⟨decl.unlinkMembers, unlinkedNested nested⟩
termination_by structural type => type

def unlinkedNested : List TypeDef → List TypeDef
  | [] => []
  | type :: types => { type.unlinked with declaringType := none } :: unlinkedNested types
termination_by structural types => types

end

/-! ### Declaring types -/

/-- Whatever the type holds itself names it as the declaring type. -/
structure Declares (type : TypeDef) : Prop where
  fields : ∀ field ∈ type.fields, field.declaringType = some type.toRef
  methods : ∀ method ∈ type.methods, method.declaringType = some type.toRef
  properties : ∀ property ∈ type.properties, property.declaringType = some type.toRef
  events : ∀ event ∈ type.events, event.declaringType = some type.toRef
  accessors : ∀ method ∈ type.accessors, method.declaringType = some type.toRef
  nested : ∀ inner ∈ type.nestedTypes, inner.declaringType = some type.toRef ∧
    inner.fullName = type.fullName ++ "/" ++ inner.name

/-- The type and all types nested in it declare what they hold. -/
def Linked (type : TypeDef) : Prop := ∀ inner ∈ type.walk, inner.Declares

end TypeDef

/-! ### Members -/

section

variable (outer inner : TypeRef)

theorem Method.declaredBy_declaredBy (method : Method) :
    (method.declaredBy inner).declaredBy outer = method.declaredBy outer := rfl

theorem Method.undeclared_declaredBy (method : Method) :
    (method.declaredBy outer).undeclared = method.undeclared := rfl

theorem Field.declaredBy_declaredBy (field : Field) :
    (field.declaredBy inner).declaredBy outer = field.declaredBy outer := rfl

theorem Field.undeclared_declaredBy (field : Field) :
    (field.declaredBy outer).undeclared = field.undeclared := rfl

theorem Property.declaredBy_declaredBy (property : Property) :
    (property.declaredBy inner).declaredBy outer = property.declaredBy outer := by
  simp [Property.declaredBy, Function.comp_def, Method.declaredBy_declaredBy]

theorem Property.undeclared_declaredBy (property : Property) :
    (property.declaredBy outer).undeclared = property.undeclared := by
  simp [Property.declaredBy, Property.undeclared, Function.comp_def, Method.undeclared_declaredBy]

theorem Property.declaringType_of_mem_accessors {property : Property} {method : Method}
    (h : method ∈ (property.declaredBy outer).accessors) : method.declaringType = some outer := by
  simp only [accessors, declaredBy, List.mem_append, Option.mem_toList, Option.map_eq_some_iff,
    List.mem_map] at h
  rcases h with (⟨_, -, rfl⟩ | ⟨_, -, rfl⟩) | ⟨_, -, rfl⟩ <;> rfl

theorem Event.declaredBy_declaredBy (event : Event) :
    (event.declaredBy inner).declaredBy outer = event.declaredBy outer := by
  simp [Event.declaredBy, Function.comp_def, Method.declaredBy_declaredBy]

theorem Event.undeclared_declaredBy (event : Event) :
    (event.declaredBy outer).undeclared = event.undeclared := by
  simp [Event.declaredBy, Event.undeclared, Function.comp_def, Method.undeclared_declaredBy]

theorem Event.declaringType_of_mem_accessors {event : Event} {method : Method}
    (h : method ∈ (event.declaredBy outer).accessors) : method.declaringType = some outer := by
  simp only [accessors, declaredBy, List.mem_append, Option.mem_toList, Option.map_eq_some_iff,
    List.mem_map] at h
  rcases h with (⟨_, -, rfl⟩ | ⟨_, -, rfl⟩) | ⟨_, -, rfl⟩ <;> rfl

end

/-! ### One type -/

namespace TypeDecl

/-- Members that are linked already are linked anew, whatever the type says of its own declaring
type by then. -/
theorem linkMembers_linkMembers (decl : TypeDecl) (declaring : Option TypeRef) :
    ({ decl.linkMembers with declaringType := declaring } : TypeDecl).linkMembers =
      ({ decl with declaringType := declaring } : TypeDecl).linkMembers := by
  simp [linkMembers, toRef, isValueType, Function.comp_def, Method.declaredBy_declaredBy,
    Field.declaredBy_declaredBy, Property.declaredBy_declaredBy, Event.declaredBy_declaredBy]

theorem unlinkMembers_linkMembers (decl : TypeDecl) :
    decl.linkMembers.unlinkMembers = decl.unlinkMembers := by
  simp [linkMembers, unlinkMembers, Function.comp_def, Method.undeclared_declaredBy,
    Field.undeclared_declaredBy, Property.undeclared_declaredBy, Event.undeclared_declaredBy]

theorem declaringType_of_mem_accessors (decl : TypeDecl) {method : Method}
    (h : method ∈ decl.linkMembers.accessors) : method.declaringType = some decl.toRef := by
  rcases List.mem_append.1 h with h | h
  · obtain ⟨event, hevent, hmethod⟩ := List.mem_flatMap.1 h
    obtain ⟨event, -, rfl⟩ := List.mem_map.1 hevent
    exact Event.declaringType_of_mem_accessors _ hmethod
  · obtain ⟨property, hproperty, hmethod⟩ := List.mem_flatMap.1 h
    obtain ⟨property, -, rfl⟩ := List.mem_map.1 hproperty
    exact Property.declaringType_of_mem_accessors _ hmethod

end TypeDecl

namespace TypeDef

theorem fullName_of_declaringType {type : TypeDef} {outer : TypeRef}
    (h : type.declaringType = some outer) :
    type.fullName = outer.fullName ++ "/" ++ type.name := by
  rw [TypeDecl.fullName, TypeDecl.toRef, h]
  rfl

theorem declaringType_linkUnder (declaring : Option TypeRef) (type : TypeDef) :
    (type.linkUnder declaring).declaringType = declaring := by
  obtain ⟨decl, nested⟩ := type
  rfl

theorem declaringType_of_mem_linkNested {outer : TypeRef} {types : List TypeDef} {inner : TypeDef}
    (h : inner ∈ linkNested outer types) : inner.declaringType = some outer := by
  induction types with
  | nil => cases h
  | cons type types ih =>
    rcases List.mem_cons.1 h with rfl | h
    · exact declaringType_linkUnder _ _
    · exact ih h

/-- Linked members and nested types make a type that declares what it holds. -/
theorem declares_linkMembers (decl : TypeDecl) (nested : List TypeDef) :
    (⟨decl.linkMembers, linkNested decl.toRef nested⟩ : TypeDef).Declares := by
  refine ⟨?_, ?_, ?_, ?_, fun method hmethod => ?_, fun inner hinner => ?_⟩
  · intro field hfield
    obtain ⟨field, -, rfl⟩ := List.mem_map.1 hfield
    rfl
  · intro method hmethod
    obtain ⟨method, -, rfl⟩ := List.mem_map.1 hmethod
    rfl
  · intro property hproperty
    obtain ⟨property, -, rfl⟩ := List.mem_map.1 hproperty
    rfl
  · intro event hevent
    obtain ⟨event, -, rfl⟩ := List.mem_map.1 hevent
    rfl
  · exact decl.declaringType_of_mem_accessors hmethod
  · have hdeclaring := declaringType_of_mem_linkNested hinner
    exact ⟨hdeclaring, fullName_of_declaringType hdeclaring⟩

/-! ### Whole trees -/

-- In each of the following the types nested in a type are linked under its reference, which is
-- known before they are looked at, so the two statements of a pair go down the tree together.

mutual

theorem linked_linkUnder (declaring : Option TypeRef) :
    ∀ type : TypeDef, (type.linkUnder declaring).Linked
  | ⟨decl, nested⟩ => by
    intro inner hinner
    rw [linkUnder, walk] at hinner
    rcases List.mem_cons.1 hinner with rfl | hinner
    · exact declares_linkMembers _ nested
    · exact declares_of_mem_walkAll _ nested inner hinner
termination_by structural type => type

theorem declares_of_mem_walkAll (outer : TypeRef) :
    ∀ (types : List TypeDef), ∀ inner ∈ walkAll (linkNested outer types), inner.Declares
  | [], _, h => by cases h
  | type :: types, inner, h => by
    rw [linkNested, walkAll] at h
    rcases List.mem_append.1 h with h | h
    · exact linked_linkUnder (some outer) type inner h
    · exact declares_of_mem_walkAll outer types inner h
termination_by structural types => types

end

mutual

theorem unlinked_linkUnder (declaring : Option TypeRef) :
    ∀ type : TypeDef,
      (type.linkUnder declaring).unlinked = { type.unlinked with declaringType := declaring }
  | ⟨decl, nested⟩ => by
    rw [linkUnder, unlinked, unlinked, TypeDecl.unlinkMembers_linkMembers,
      unlinkedNested_linkNested _ nested]
    rfl
termination_by structural type => type

theorem unlinkedNested_linkNested (outer : TypeRef) :
    ∀ types : List TypeDef, unlinkedNested (linkNested outer types) = unlinkedNested types
  | [] => rfl
  | type :: types => by
    rw [linkNested, unlinkedNested, unlinkedNested, unlinked_linkUnder (some outer) type,
      unlinkedNested_linkNested outer types]
termination_by structural types => types

end

mutual

theorem linkUnder_linkUnder (declaring declaring' : Option TypeRef) :
    ∀ type : TypeDef, (type.linkUnder declaring').linkUnder declaring = type.linkUnder declaring
  | ⟨decl, nested⟩ => by
    rw [linkUnder, linkUnder, linkUnder]
    have hmembers := TypeDecl.linkMembers_linkMembers
      { decl with declaringType := declaring' } declaring
    have hnested := linkNested_linkNested
      ({ decl with declaringType := declaring } : TypeDecl).toRef
      ({ decl with declaringType := declaring' } : TypeDecl).toRef nested
    rw [TypeDef.mk.injEq]
    exact ⟨hmembers, hnested⟩
termination_by structural type => type

theorem linkNested_linkNested (outer outer' : TypeRef) :
    ∀ types : List TypeDef, linkNested outer (linkNested outer' types) = linkNested outer types
  | [] => rfl
  | type :: types => by
    rw [linkNested, linkNested, linkNested, linkUnder_linkUnder (some outer) (some outer') type,
      linkNested_linkNested outer outer' types]
termination_by structural types => types

end

theorem unlinked_link (type : TypeDef) : type.link.unlinked = type.unlinked := by
  obtain ⟨decl, nested⟩ := type
  rw [link, unlinked_linkUnder]
  rfl

theorem link_link (type : TypeDef) : type.link.link = type.link := by
  have hdeclaring : type.link.declaringType = type.declaringType := declaringType_linkUnder _ _
  rw [link, hdeclaring]
  exact linkUnder_linkUnder _ _ type

end TypeDef

/-! ### Linking -/

/-- Linking a type makes all types of the tree declare what they hold. It leaves what declares the
type itself and everything else as it was, and has no effect on a type that is linked. The types of
a loaded assembly are those of the document, linked. -/
theorem linking_exact :
    (∀ type : TypeDef, type.link.Linked ∧ type.link.declaringType = type.declaringType ∧
      type.link.unlinked = type.unlinked ∧ type.link.link = type.link) ∧
    ∀ (text fallbackName : String) (assembly : Assembly),
      Document.load? text fallbackName = some assembly →
        ∃ decoded, Document.decode? Document.assembly text = some decoded ∧
          assembly.module.types.map TypeDef.unlinked = decoded.module.types.map TypeDef.unlinked ∧
          ∀ type ∈ assembly.module.types, type.Linked := by
  refine ⟨fun type => ⟨type.linked_linkUnder _, type.declaringType_linkUnder _,
    type.unlinked_link, type.link_link⟩, fun text fallbackName assembly hload => ?_⟩
  simp only [Document.load?, Option.bind_eq_bind, Option.bind_eq_some_iff, Option.pure_def,
    Option.some.injEq] at hload
  obtain ⟨decoded, hdecoded, rfl⟩ := hload
  have hmodule : (decoded.withFallbackName fallbackName).module = decoded.module := by
    unfold Assembly.withFallbackName
    split <;> rfl
  refine ⟨decoded, hdecoded, ?_, fun type htype => ?_⟩
  · simp [Assembly.link, hmodule, Function.comp_def, TypeDef.unlinked_link]
  · obtain ⟨type, -, rfl⟩ := List.mem_map.1 htype
    exact type.linked_linkUnder _

/-- A document in which a nested type names a declaring type that is not its own. -/
def staleDocument : String :=
  "\x7b\"module\":\x7b\"name\":\"m\",\"types\":[\x7b\"name\":\"A\",\"nested_types\":[" ++
    "\x7b\"name\":\"B\",\"declaring_type\":\x7b\"name\":\"X\"\x7d\x7d]\x7d]\x7d\x7d"

theorem linking_exact_stale :
    ∃ assembly, Document.load? staleDocument "stale.json" = some assembly ∧
      (∀ type ∈ assembly.module.types, type.Linked) ∧
      (TypeDef.walkAll assembly.module.types).map (·.fullName) = ["A", "A/B"] := by
  have hnames : (Document.load? staleDocument "stale.json").any (fun assembly =>
      (TypeDef.walkAll assembly.module.types).map (·.fullName) = ["A", "A/B"]) = true := by
    decide +kernel
  obtain ⟨assembly, hload, hnames⟩ := (Option.any_eq_true _ _).1 hnames
  obtain ⟨-, -, -, hlinked⟩ := linking_exact.2 staleDocument "stale.json" assembly hload
  exact ⟨assembly, hload, hlinked, by simpa using hnames⟩

end Cil
