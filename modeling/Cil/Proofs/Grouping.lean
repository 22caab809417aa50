import Cil.Metadata.Assembly

/-!
# Types by namespace

The groups of a module have its namespaces in the order in which they are first seen, each with its
types in stored order (`namespaces_eq`). Together they hold every type of the module once
(`perm_namespaces`).
-/

namespace Cil

namespace NamespaceGroups

/-- Types are added to the first group with their namespace, and all others are grouped as if that
group were not there. -/
theorem foldl_add_cons (space : String) (group : List TypeDef) (groups : NamespaceGroups)
    (types : List TypeDef) :
    types.foldl add ((space, group) :: groups) =
      (space, group ++ types.filter (·.space = space)) ::
        (types.filter (·.space ≠ space)).foldl add groups := by
  induction types generalizing group groups with
  | nil => simp
  | cons type types ih =>
    rw [List.foldl_cons, add]
    by_cases hspace : space = type.space
    · rw [if_pos hspace, ih, List.filter_cons_of_pos (by simpa using hspace.symm),
        List.filter_cons_of_neg (by simpa using hspace.symm), List.append_assoc]
      rfl
    · have hspace' : type.space ≠ space := Ne.symm hspace
      rw [if_neg hspace, ih, List.filter_cons_of_neg (by simpa using hspace'),
        List.filter_cons_of_pos (by simpa using hspace'), List.foldl_cons]

/-- What is left when the types of one namespace are set aside. -/
theorem length_filter_lt (type : TypeDef) (types : List TypeDef) :
    (types.filter (·.space ≠ type.space)).length < (type :: types).length :=
  Nat.lt_succ_of_le (List.length_filter_le _ types)

theorem foldl_add_eq : ∀ types : List TypeDef,
    types.foldl add [] =
      (types.map (·.space)).eraseDups.map fun space => (space, types.filter (·.space = space))
  | [] => rfl
  | type :: types => by
    have hspaces : (types.filter (·.space ≠ type.space)).map (·.space) =
        (types.map (·.space)).filter fun space => !space == type.space := by
      rw [List.filter_map]
      congr 1
      refine List.filter_congr fun other _ => ?_
      by_cases hother : other.space = type.space <;> simp [hother]
    have hgroups := foldl_add_eq (types.filter (·.space ≠ type.space))
    rw [List.foldl_cons, add, foldl_add_cons, hgroups, hspaces, List.map_cons, List.eraseDups_cons,
      List.map_cons, List.filter_cons_of_pos (by simp)]
    refine congrArg (_ :: ·) (List.map_congr_left fun space hspace => ?_)
    have hne : type.space ≠ space := by
      rintro rfl
      simp [List.mem_eraseDups] at hspace
    rw [List.filter_filter, List.filter_cons_of_neg (by simpa using hne)]
    refine congrArg (space, ·) (List.filter_congr fun other _ => ?_)
    by_cases hother : other.space = space
    · simp [hother, hne.symm]
    · simp [hother]
termination_by types => types.length
decreasing_by exact length_filter_lt type types

theorem perm_foldl_add : ∀ types : List TypeDef,
    ((types.foldl add []).flatMap Prod.snd).Perm types
  | [] => .refl _
  | type :: types => by
    have hgroups := perm_foldl_add (types.filter (·.space ≠ type.space))
    have hsplit : (types.filter (·.space = type.space) ++
        types.filter (·.space ≠ type.space)).Perm types := by
      simpa using List.filter_append_perm (·.space = type.space) types
    rw [List.foldl_cons, add, foldl_add_cons, List.flatMap_cons]
    exact ((hgroups.append_left _).trans hsplit).cons type
termination_by types => types.length
decreasing_by exact length_filter_lt type types

end NamespaceGroups

namespace Module

variable {module : Module}

/-- The namespaces of the top-level types in the order in which they are first seen. -/
def spaces (module : Module) : List String := (module.types.map (·.space)).eraseDups

theorem namespaces_eq (module : Module) :
    module.namespaces =
      module.spaces.map fun space => (space, module.types.filter (·.space = space)) :=
  NamespaceGroups.foldl_add_eq module.types

theorem perm_namespaces (module : Module) :
    (module.namespaces.flatMap Prod.snd).Perm module.types :=
  NamespaceGroups.perm_foldl_add module.types

/-- The types of a namespace are types of the module. -/
theorem subset_of_mem_namespaces {space : String} {types : List TypeDef}
    (h : (space, types) ∈ module.namespaces) : types ⊆ module.types := by
  intro type htype
  exact module.perm_namespaces.subset (List.mem_flatMap.2 ⟨_, h, htype⟩)

end Module

end Cil
