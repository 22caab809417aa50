import Cil.Proofs.Selection
import Mathlib.Data.List.Basic

/-!
# Namespaces and their selectors

The groups of a module are a partition of its top-level types that keeps their order: each group has
the types of one namespace as they are stored, and a group comes before another if its namespace is
seen first (`Module.isPartition_namespaces`). A selector looks for the types of a namespace on its
own, without these groups, and finds the same (`namespaces_exact`).
-/

namespace Cil

/-! ### The order in which values are first seen -/

section

variable {α : Type} [BEq α] [LawfulBEq α]

/-- What is seen first among some of the values is seen first among all of them. -/
theorem idxOf_lt_of_idxOf_filter_lt {p : α → Bool} {a b : α} (ha : p a = true) (hb : p b = true)
    {values : List α} (h : (values.filter p).idxOf a < (values.filter p).idxOf b) :
    values.idxOf a < values.idxOf b := by
  induction values with
  | nil => exact h
  | cons value values ih =>
    by_cases hvalue : p value = true
    · rw [List.filter_cons_of_pos hvalue] at h
      rw [List.idxOf_cons, List.idxOf_cons] at h ⊢
      grind
    · have hne : ∀ other, p other = true → value ≠ other := by
        rintro other hother rfl
        exact hvalue hother
      rw [List.filter_cons_of_neg hvalue] at h
      rw [List.idxOf_cons_ne _ (hne a ha), List.idxOf_cons_ne _ (hne b hb)]
      exact Nat.succ_lt_succ (ih h)

theorem pairwise_idxOf_eraseDups : ∀ values : List α,
    values.eraseDups.Pairwise fun a b => values.idxOf a < values.idxOf b
  | [] => by simp
  | value :: values => by
    have hrest := pairwise_idxOf_eraseDups (values.filter fun other => !other == value)
    rw [List.eraseDups_cons, List.pairwise_cons]
    -- every other value is seen after the first one
    have hne : ∀ other ∈ (values.filter fun other => !other == value).eraseDups,
        (!other == value) = true := by
      intro other hother
      rw [List.mem_eraseDups, List.mem_filter] at hother
      exact hother.2
    have hlater : ∀ other, (!other == value) = true →
        (value :: values).idxOf other = values.idxOf other + 1 := by
      intro other hother
      refine List.idxOf_cons_ne _ ?_
      rintro rfl
      simp at hother
    refine ⟨fun other hother => ?_, hrest.imp_of_mem fun {a b} ha hb hab => ?_⟩
    · rw [List.idxOf_cons_self, hlater other (hne other hother)]
      exact Nat.succ_pos _
    · rw [hlater a (hne a ha), hlater b (hne b hb)]
      have hfirst : values.idxOf a < values.idxOf b :=
        @idxOf_lt_of_idxOf_filter_lt α _ _ _ a b (hne a ha) (hne b hb) values hab
      exact Nat.succ_lt_succ hfirst
termination_by values => values.length
decreasing_by exact Nat.lt_succ_of_le (List.length_filter_le _ values)

end

/-! ### Groups -/

/-- The groups divide the types by namespace and keep the order of the types. -/
structure NamespaceGroups.IsPartition (types : List TypeDef) (groups : NamespaceGroups) : Prop where
  distinct : (groups.map Prod.fst).Nodup
  firstSeen : groups.Pairwise fun a b =>
    (types.map (·.space)).idxOf a.1 < (types.map (·.space)).idxOf b.1
  inhabited : ∀ group ∈ groups, group.2 ≠ []
  filtered : ∀ group ∈ groups, group.2 = types.filter (·.space = group.1)
  once : ∀ type ∈ types, ∃! group, group ∈ groups ∧ type ∈ group.2
  perm : (groups.flatMap Prod.snd).Perm types

namespace Module

variable {module : Module}

theorem mem_spaces {space : String} :
    space ∈ module.spaces ↔ ∃ type ∈ module.types, type.space = space := by
  rw [spaces, List.mem_eraseDups, List.mem_map]

theorem mem_namespaces {space : String} {types : List TypeDef} :
    (space, types) ∈ module.namespaces ↔
      (∃ type ∈ module.types, type.space = space) ∧
        types = module.types.filter (·.space = space) := by
  rw [namespaces_eq, List.mem_map]
  constructor
  · rintro ⟨space', hspace, heq⟩
    obtain ⟨rfl, rfl⟩ := Prod.mk.inj heq
    exact ⟨mem_spaces.1 hspace, rfl⟩
  · rintro ⟨hspace, rfl⟩
    exact ⟨space, mem_spaces.2 hspace, rfl⟩

theorem map_fst_namespaces (module : Module) : module.namespaces.map Prod.fst = module.spaces := by
  rw [namespaces_eq, List.map_map]
  exact List.map_id module.spaces

theorem isPartition_namespaces (module : Module) :
    module.namespaces.IsPartition module.types := by
  have horder : module.spaces.Pairwise fun a b =>
      (module.types.map (·.space)).idxOf a < (module.types.map (·.space)).idxOf b :=
    pairwise_idxOf_eraseDups _
  refine ⟨?_, ?_, ?_, fun _ hgroup => (mem_namespaces.1 hgroup).2, fun type htype => ?_,
    module.perm_namespaces⟩
  · rw [map_fst_namespaces]
    refine horder.imp fun {a b} hab => ?_
    rintro rfl
    exact Nat.lt_irrefl _ hab
  · rwa [← map_fst_namespaces, List.pairwise_map] at horder
  · rintro ⟨space, types⟩ hgroup
    obtain ⟨⟨type, htype, hspace⟩, rfl⟩ := mem_namespaces.1 hgroup
    exact List.ne_nil_of_mem (List.mem_filter.2 ⟨htype, decide_eq_true hspace⟩)
  · refine ⟨(type.space, module.types.filter (·.space = type.space)), ⟨?_, ?_⟩, ?_⟩
    · exact mem_namespaces.2 ⟨⟨type, htype, rfl⟩, rfl⟩
    · exact List.mem_filter.2 ⟨htype, decide_eq_true rfl⟩
    · -- a type is in no group but that of its own namespace
      rintro ⟨space, types⟩ ⟨hgroup, htypes⟩
      obtain ⟨-, rfl⟩ := mem_namespaces.1 hgroup
      obtain rfl := of_decide_eq_true (List.mem_filter.1 htypes).2
      rfl

end Module

/-! ### Selectors of namespaces -/

theorem Selector.resolve_space_eq_ok_iff {assembly : Assembly} {space : String} {entity : Entity} :
    (Selector.space space).resolve assembly = .ok entity ↔
      ∃ types, (space, types) ∈ assembly.module.namespaces ∧ entity = .space space types := by
  rw [resolve_eq_ok_iff, Names]
  constructor
  · rintro ⟨hspace, rfl⟩
    exact ⟨_, Module.mem_namespaces.2 ⟨hspace, rfl⟩, rfl⟩
  · rintro ⟨types, hgroup, rfl⟩
    obtain ⟨hspace, rfl⟩ := Module.mem_namespaces.1 hgroup
    exact ⟨hspace, rfl⟩

/-- The groups of a module are a partition of its top-level types that keeps their order. A
selector of a namespace resolves exactly if there is a group of that name, and then to the name
with the types of that group. -/
theorem namespaces_exact (assembly : Assembly) :
    assembly.module.namespaces.IsPartition assembly.module.types ∧
    (∀ space, (∃ entity, (Selector.space space).resolve assembly = .ok entity) ↔
      space ∈ assembly.module.namespaces.map Prod.fst) ∧
    ∀ space entity, (Selector.space space).resolve assembly = .ok entity ↔
      ∃ types, (space, types) ∈ assembly.module.namespaces ∧ entity = .space space types := by
  refine ⟨assembly.module.isPartition_namespaces, fun space => ?_,
    fun space entity => Selector.resolve_space_eq_ok_iff⟩
  rw [List.mem_map]
  constructor
  · rintro ⟨entity, hentity⟩
    obtain ⟨types, hgroup, -⟩ := Selector.resolve_space_eq_ok_iff.1 hentity
    exact ⟨_, hgroup, rfl⟩
  · rintro ⟨⟨_, types⟩, hgroup, rfl⟩
    exact ⟨_, Selector.resolve_space_eq_ok_iff.2 ⟨types, hgroup, rfl⟩⟩

end Cil
