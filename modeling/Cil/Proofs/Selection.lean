import Cil.Proofs.Linking
import Cil.Proofs.Traversal
import Cil.Selector

/-!
# What selectors name

Resolving is two searches in lists, one for a type and one for a member of it, and each finds the
first entry with the name (`IsFirst`). `Selector.Names` says so for every kind of selector and
`Selector.Misses` says what is missing otherwise; resolving gives exactly the one or the other
(`resolve_eq_ok_iff`, `resolve_eq_error_iff`). On the way in, a written member selector is divided
where it was put together, as long as the name of the member leaves no doubt about which two colons
are the last (`parse_member`).
-/

namespace Cil

/-- `x` is the first element of `xs` with the property `p`. -/
def IsFirst {α : Type} (p : α → Prop) (xs : List α) (x : α) : Prop :=
  ∃ before after, xs = before ++ x :: after ∧ p x ∧ ∀ y ∈ before, ¬ p y

section

variable {α : Type} {p : α → Prop} {xs : List α} {x : α}

theorem find?_eq_some_iff_isFirst [DecidablePred p] : xs.find? p = some x ↔ IsFirst p xs x := by
  rw [List.find?_eq_some_iff_append]
  constructor
  · rintro ⟨hx, before, after, hxs, hbefore⟩
    exact ⟨before, after, hxs, of_decide_eq_true hx, fun y hy => by simpa using hbefore y hy⟩
  · rintro ⟨before, after, hxs, hx, hbefore⟩
    exact ⟨decide_eq_true hx, before, after, hxs, fun y hy => by simpa using hbefore y hy⟩

theorem IsFirst.mem (h : IsFirst p xs x) : x ∈ xs := by
  obtain ⟨before, after, rfl, -, -⟩ := h
  simp

theorem IsFirst.holds (h : IsFirst p xs x) : p x := by
  obtain ⟨-, -, -, hx, -⟩ := h
  exact hx

end

/-! ### Members by name -/

/-- The entity is a type or a member with this name. -/
def Entity.HasName (name : String) (entity : Entity) : Prop :=
  entity.memberRef?.map MemberRef.name = some name

instance (name : String) : DecidablePred (Entity.HasName name) :=
  fun _ => inferInstanceAs (Decidable (_ = _))

/-- The type that declares the entity, if it is known. -/
def Entity.declaringType? : Entity → Option TypeRef
  | assembly _ | space _ _ => none
  | type t => t.declaringType
  | method m => m.declaringType
  | field f => f.declaringType
  | property p => p.declaringType
  | event e => e.declaringType

namespace TypeDecl

/-- The members of one kind in stored order. -/
def membersOf (decl : TypeDecl) : MemberKind → List Entity
  | .method => decl.methods.map .method
  | .field => decl.fields.map .field
  | .property => decl.properties.map .property
  | .event => decl.events.map .event

theorem findMember?_eq (decl : TypeDecl) (kind : MemberKind) (name : String) :
    decl.findMember? kind name = (decl.membersOf kind).find? (Entity.HasName name) := by
  cases kind <;>
    simp only [findMember?, membersOf, List.find?_map, Function.comp_def, Entity.HasName,
      Entity.memberRef?, MemberRef.name, Option.map_some, Option.some.injEq] <;>
    rfl

end TypeDecl

/-- The members of a linked type name it as their declaring type. -/
theorem TypeDef.Declares.declaringType_member {type : TypeDef} (h : type.Declares)
    {kind : MemberKind} {member : Entity} (hmember : member ∈ type.membersOf kind) :
    member.declaringType? = some type.toRef := by
  cases kind with
  | method =>
    obtain ⟨method, hmethod, rfl⟩ := List.mem_map.1 hmember
    exact h.methods method hmethod
  | field =>
    obtain ⟨field, hfield, rfl⟩ := List.mem_map.1 hmember
    exact h.fields field hfield
  | property =>
    obtain ⟨property, hproperty, rfl⟩ := List.mem_map.1 hmember
    exact h.properties property hproperty
  | event =>
    obtain ⟨event, hevent, rfl⟩ := List.mem_map.1 hmember
    exact h.events event hevent

/-! ### Linked assemblies -/

/-- All types of the module are linked. -/
def Assembly.Linked (assembly : Assembly) : Prop := ∀ type ∈ assembly.module.types, type.Linked

theorem Assembly.linked_link (assembly : Assembly) : assembly.link.Linked := by
  intro type htype
  obtain ⟨type, -, rfl⟩ := List.mem_map.1 htype
  exact type.linked_linkUnder _

theorem Assembly.Linked.declares {assembly : Assembly} (h : assembly.Linked) {type : TypeDef}
    (htype : type ∈ assembly.module.allTypes) : type.Declares := by
  rw [Module.allTypes, TypeDef.walkAll_eq_flatMap] at htype
  obtain ⟨outer, houter, htype⟩ := List.mem_flatMap.1 htype
  exact h outer houter type htype

/-! ### Resolving -/

/-- The type is the first one of the module with this full name, where a type comes before the types
nested in it. -/
def Module.FirstType (module : Module) (fullName : String) (type : TypeDef) : Prop :=
  IsFirst (fun type : TypeDef => type.fullName = fullName) module.allTypes type

theorem Module.findType?_eq_some_iff {module : Module} {fullName : String} {type : TypeDef} :
    module.findType? fullName = some type ↔ module.FirstType fullName type := by
  rw [FirstType, ← find?_eq_some_iff_isFirst]
  rfl

theorem Module.findType?_eq_none_iff {module : Module} {fullName : String} :
    module.findType? fullName = none ↔ ∀ type ∈ module.allTypes, type.fullName ≠ fullName := by
  rw [findType?, List.find?_eq_none]
  simp

namespace Selector

/-- What a selector is there to name. -/
def Names (assembly : Assembly) : Selector → Entity → Prop
  | .assembly, entity => entity = .assembly assembly
  | space name, entity =>
    (∃ type ∈ assembly.module.types, type.space = name) ∧
      entity = .space name (assembly.module.types.filter (·.space = name))
  | type fullName, entity =>
    ∃ found, assembly.module.FirstType fullName found ∧ entity = .type found
  | member kind typeName name, entity =>
    ∃ found, assembly.module.FirstType typeName found ∧
      IsFirst (Entity.HasName name) (found.membersOf kind) entity

/-- What an assembly lacks if a selector names nothing in it. -/
def Misses (assembly : Assembly) : Selector → ResolveError → Prop
  | .assembly, _ => False
  | space name, error =>
    (∀ type ∈ assembly.module.types, type.space ≠ name) ∧
      error = .emptyNamespace name assembly.fileName
  | type fullName, error =>
    (∀ other ∈ assembly.module.allTypes, other.fullName ≠ fullName) ∧
      error = .noType fullName assembly.fileName
  | member kind typeName name, error =>
    ((∀ other ∈ assembly.module.allTypes, other.fullName ≠ typeName) ∧
      error = .noType typeName assembly.fileName) ∨
    ∃ found, assembly.module.FirstType typeName found ∧
      (∀ other ∈ found.membersOf kind, ¬ other.HasName name) ∧
      error = .noMember kind name typeName

variable {assembly : Assembly}

theorem resolve_type (fullName : String) :
    (type fullName).resolve assembly =
      match assembly.module.findType? fullName with
      | some found => .ok (.type found)
      | none => .error (.noType fullName assembly.fileName) := by
  rw [resolve, Assembly.findType]
  cases assembly.module.findType? fullName <;> rfl

theorem resolve_member (kind : MemberKind) (typeName name : String) :
    (member kind typeName name).resolve assembly =
      match assembly.module.findType? typeName with
      | none => .error (.noType typeName assembly.fileName)
      | some found =>
        match (found.membersOf kind).find? (Entity.HasName name) with
        | some entity => .ok entity
        | none => .error (.noMember kind name typeName) := by
  rw [resolve, Assembly.findType]
  simp only [← TypeDecl.findMember?_eq]
  cases assembly.module.findType? typeName <;> rfl

theorem resolve_space (name : String) :
    (space name).resolve assembly =
      if ∃ type ∈ assembly.module.types, type.space = name
      then .ok (.space name (assembly.module.types.filter (·.space = name)))
      else .error (.emptyNamespace name assembly.fileName) := by
  have hfilter : assembly.module.types.filter (·.space == name) =
      assembly.module.types.filter (·.space = name) := rfl
  rw [resolve, hfilter]
  split
  · next hnil =>
    rw [if_neg]
    rintro ⟨type, htype, hspace⟩
    exact List.filter_eq_nil_iff.1 hnil type htype (by simpa using hspace)
  · next hne =>
    obtain ⟨type, htype⟩ := List.exists_mem_of_ne_nil _ hne
    obtain ⟨htype, hspace⟩ := List.mem_filter.1 htype
    rw [if_pos ⟨type, htype, by simpa using hspace⟩]

theorem resolve_eq_ok_iff {selector : Selector} {entity : Entity} :
    selector.resolve assembly = .ok entity ↔ selector.Names assembly entity := by
  cases selector with
  | assembly =>
    rw [resolve, Names, Except.ok.injEq]
    exact eq_comm
  | space name =>
    rw [resolve_space, Names]
    split
    · next h => rw [Except.ok.injEq, and_iff_right h, eq_comm]
    · next h => simp only [reduceCtorEq, h, false_and]
  | type fullName =>
    rw [resolve_type, Names]
    simp only [← Module.findType?_eq_some_iff]
    cases assembly.module.findType? fullName <;> simp [eq_comm]
  | member kind typeName name =>
    rw [resolve_member, Names]
    simp only [← Module.findType?_eq_some_iff, ← find?_eq_some_iff_isFirst]
    cases assembly.module.findType? typeName with
    | none => simp
    | some found =>
      simp only [Option.some.injEq, exists_eq_left']
      cases (found.membersOf kind).find? (Entity.HasName name) <;> simp

theorem resolve_eq_error_iff {selector : Selector} {error : ResolveError} :
    selector.resolve assembly = .error error ↔ selector.Misses assembly error := by
  cases selector with
  | assembly => simp only [resolve, Misses, reduceCtorEq]
  | space name =>
    have hnone : (∀ type ∈ assembly.module.types, type.space ≠ name) ↔
        ¬ ∃ type ∈ assembly.module.types, type.space = name := by
      simp
    rw [resolve_space, Misses, hnone]
    split
    · next h => simp only [reduceCtorEq, h, not_true_eq_false, false_and]
    · next h => rw [Except.error.injEq, and_iff_right h, eq_comm]
  | type fullName =>
    rw [resolve_type, Misses, ← Module.findType?_eq_none_iff]
    cases assembly.module.findType? fullName <;> simp [eq_comm]
  | member kind typeName name =>
    rw [resolve_member, Misses, ← Module.findType?_eq_none_iff]
    simp only [← Module.findType?_eq_some_iff]
    cases assembly.module.findType? typeName with
    | none => simp [eq_comm]
    | some found =>
      have hnone : (∀ other ∈ found.membersOf kind, ¬ other.HasName name) ↔
          (found.membersOf kind).find? (Entity.HasName name) = none := by
        simp
      simp only [reduceCtorEq, false_and, false_or, Option.some.injEq, exists_eq_left', hnone]
      cases (found.membersOf kind).find? (Entity.HasName name) <;> simp [eq_comm]

/-! ### Parsing -/

theorem splitAtColon_append {before : List Char} (h : ':' ∉ before) (after : List Char) :
    splitAtColon (before ++ ':' :: after) = some (before, after) := by
  induction before with
  | nil => rfl
  | cons c before ih =>
    rw [List.mem_cons, not_or] at h
    obtain ⟨hc, hbefore⟩ := h
    rw [List.cons_append, splitAtColon, if_neg (Ne.symm hc), ih hbefore]
    rfl

theorem splitAtColons_eq_none {text : List Char} (h : ¬ [':', ':'] <:+: text) :
    splitAtColons text = none := by
  induction text with
  | nil => rfl
  | cons c text ih =>
    rw [List.infix_cons_iff, not_or] at h
    obtain ⟨hstart, hrest⟩ := h
    unfold splitAtColons
    rw [ih hrest]
    split
    · next hsome => cases hsome
    · split
      · exact absurd (by simp) hstart
      · rfl

/-- The text is divided at the given two colons if they are the last two in a row, also where a
colon stands right before them. -/
theorem splitAtColons_append {after : List Char} (h : ¬ [':', ':'] <:+: ':' :: after)
    (before : List Char) :
    splitAtColons (before ++ ':' :: ':' :: after) = some (before, after) := by
  induction before with
  | nil => rw [List.nil_append, splitAtColons, splitAtColons_eq_none h]
  | cons c before ih =>
    rw [List.cons_append]
    unfold splitAtColons
    rw [ih]

theorem not_infix_colon_cons_iff {after : List Char} :
    ¬ [':', ':'] <:+: ':' :: after ↔ ¬ [':', ':'] <:+: after ∧ after.head? ≠ some ':' := by
  rw [List.infix_cons_iff, not_or, and_comm]
  refine and_congr_right fun _ => not_congr ?_
  cases after with
  | nil => simp
  | cons c after => simp [eq_comm]

/-- A text with a colon in it is divided at the first one. -/
theorem splitAtColon_toList {kind : String} (hkind : ':' ∉ kind.toList) (rest : String) :
    kind ++ ":" ++ rest ≠ "assembly" ∧
      splitAtColon (kind ++ ":" ++ rest).toList = some (kind.toList, rest.toList) := by
  have htext : (kind ++ ":" ++ rest).toList = kind.toList ++ ':' :: rest.toList := by simp
  refine ⟨fun heq => ?_, ?_⟩
  · have hmem : ':' ∈ "assembly".toList := by
      rw [← heq, htext]
      simp
    exact absurd hmem (by decide)
  · rw [htext, splitAtColon_append hkind]

theorem parse_member (kind : MemberKind) {typeName name : String} (htype : typeName ≠ "")
    (hname : name ≠ "") (hcolons : ¬ [':', ':'] <:+: name.toList)
    (hcolon : name.toList.head? ≠ some ':') :
    parse (kind.name ++ ":" ++ typeName ++ "::" ++ name) = .ok (member kind typeName name) := by
  have hlast : ¬ [':', ':'] <:+: ':' :: name.toList :=
    not_infix_colon_cons_iff.2 ⟨hcolons, hcolon⟩
  have hkind : ':' ∉ kind.name.toList := by cases kind <;> decide
  have htext : kind.name ++ ":" ++ typeName ++ "::" ++ name =
      kind.name ++ ":" ++ (typeName ++ "::" ++ name) := by
    simp only [String.append_assoc]
  have hrest : (typeName ++ "::" ++ name).toList =
      typeName.toList ++ ':' :: ':' :: name.toList := by
    simp
  have hmember : parseMember kind (typeName.toList ++ ':' :: ':' :: name.toList) =
      .ok (member kind typeName name) := by
    obtain ⟨c, before, hbefore⟩ := List.exists_cons_of_ne_nil (mt String.toList_eq_nil_iff.1 htype)
    obtain ⟨d, after, hafter⟩ := List.exists_cons_of_ne_nil (mt String.toList_eq_nil_iff.1 hname)
    rw [parseMember, splitAtColons_append hlast, hbefore, hafter]
    simp only [← hbefore, ← hafter, String.ofList_toList]
  obtain ⟨hassembly, hsplit⟩ := splitAtColon_toList hkind (typeName ++ "::" ++ name)
  rw [htext, parse, if_neg hassembly, hsplit, hrest]
  cases kind <;> exact hmember

end Selector

/-! ### Selectors -/

/-- In a linked assembly a selector gives what it names and fails exactly where there is no such
thing. The member that it gives has the name and the declaring type that were asked for. And every
member that comes first by its name in a type that comes first by its own is found by its written
selector, unless its name holds two colons in a row, starts with a colon, or is empty. -/
theorem selectors_exact {assembly : Assembly} (hlinked : assembly.Linked) :
    (∀ selector entity,
      Selector.resolve assembly selector = .ok entity ↔ selector.Names assembly entity) ∧
    (∀ selector error,
      Selector.resolve assembly selector = .error error ↔ selector.Misses assembly error) ∧
    (∀ kind typeName name entity,
      (Selector.member kind typeName name).resolve assembly = .ok entity →
        entity.HasName name ∧
        ∃ declaring, entity.declaringType? = some declaring ∧ declaring.fullName = typeName) ∧
    ∀ (kind : MemberKind) (type : TypeDef) (name : String) (entity : Entity),
      assembly.module.FirstType type.fullName type → type.fullName ≠ "" →
      IsFirst (Entity.HasName name) (type.membersOf kind) entity → name ≠ "" →
      ¬ [':', ':'] <:+: name.toList → name.toList.head? ≠ some ':' →
        ∃ selector,
          Selector.parse (kind.name ++ ":" ++ type.fullName ++ "::" ++ name) = .ok selector ∧
          selector.resolve assembly = .ok entity := by
  refine ⟨fun selector entity => Selector.resolve_eq_ok_iff,
    fun selector error => Selector.resolve_eq_error_iff, ?_, ?_⟩
  · intro kind typeName name entity hresolve
    obtain ⟨type, htype, hentity⟩ := Selector.resolve_eq_ok_iff.1 hresolve
    have hdeclaring : entity.declaringType? = some type.toRef :=
      (hlinked.declares htype.mem).declaringType_member hentity.mem
    exact ⟨hentity.holds, type.toRef, hdeclaring, htype.holds⟩
  · intro kind type name entity htype hfullName hentity hname hcolons hcolon
    refine ⟨.member kind type.fullName name, ?_, ?_⟩
    · exact Selector.parse_member kind hfullName hname hcolons hcolon
    · exact Selector.resolve_eq_ok_iff.2 ⟨type, htype, hentity⟩

/-- An assembly with colons in its names, an overloaded method in a nested type, and a top-level
type whose name looks like that of the nested one. -/
def colonAssembly : Assembly :=
  Assembly.link {
    fileName := "colons.dll"
    module := {
      name := "colons.dll"
      types := [
        { space := "N"
          name := "A:"
          nestedTypes := [
            { name := "B:"
              methods := [{ name := "run:" }, { name := "run:", isStatic := true }] }] },
        { name := "N.A:/B:", methods := [{ name := "run:", isFinal := true }] }] } }

theorem selectors_exact_colons :
    ∃ selector entity declaring, Selector.parse "method:N.A:/B:::run:" = .ok selector ∧
      selector.resolve colonAssembly = .ok entity ∧ entity.HasName "run:" ∧
      entity.declaringType? = some declaring ∧ declaring.fullName = "N.A:/B:" := by
  have hlinked : colonAssembly.Linked := Assembly.linked_link _
  obtain ⟨-, -, hdeclaring, hfound⟩ := selectors_exact hlinked
  have htype : ∃ inner : TypeDef, inner.fullName = "N.A:/B:" ∧
      colonAssembly.module.FirstType inner.fullName inner ∧
      ∃ entity, IsFirst (Entity.HasName "run:") (inner.membersOf .method) entity :=
    ⟨_, rfl, ⟨[_], [_], rfl, rfl, by simp; decide⟩, _, [], [_], rfl, rfl, by simp⟩
  obtain ⟨inner, hname, hfirst, entity, hentity⟩ := htype
  obtain ⟨selector, hparse, hresolve⟩ := hfound .method inner "run:" entity hfirst
    (by rw [hname]; decide) hentity (by decide) (by decide) (by decide)
  rw [hname] at hparse
  obtain rfl : .member .method "N.A:/B:" "run:" = selector := Except.ok.inj hparse
  obtain ⟨hrun, declaring, hdeclared, hfullName⟩ := hdeclaring _ _ _ _ hresolve
  exact ⟨_, entity, declaring, hparse, hresolve, hrun, hdeclared, hfullName⟩

end Cil
