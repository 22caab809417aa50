import Cil.Proofs.Composition
import Cil.Proofs.Heights

/-!
# Blocks around instructions in any order

A structured listing that is complete is a `Forest`: blocks that hold instructions and other blocks.
Nothing has to be known of the offsets for this. Every region has one block, blocks are opened from
the outermost on, none is empty or ends later than the one around it, and an instruction comes
before the ends of the blocks it is in (`structuredListing_bracketed`).

While instructions are placed, the blocks that are open end beyond the last offset, and an inner one
no later than an outer one. `Mark.Bracketed` says this of marks that stand inside open blocks. The
part of such marks up to the end of the innermost block is a forest (`Bracketed.exists_forest`), and
`Forest.Sheltered` is what remains of the condition.
-/

namespace Cil

/-! ### Forests -/

/-- Instructions and blocks one after the other. A block holds a forest of its own. -/
inductive Forest where
  | nil
  | placed (instruction : Instruction) (rest : Forest)
  | block (region : Region) (inner rest : Forest)
deriving Repr

namespace Forest

def marks : Forest → List Mark
  | nil => []
  | placed instruction rest => .placed instruction :: rest.marks
  | block region inner rest => .opened region :: inner.marks ++ .closed region :: rest.marks

def instructions : Forest → List Instruction
  | nil => []
  | placed instruction rest => instruction :: rest.instructions
  | block _ inner rest => inner.instructions ++ rest.instructions

/-- The regions of the blocks in the order in which they are opened. -/
def regions : Forest → List Region
  | nil => []
  | placed _ rest => rest.regions
  | block region inner rest => region :: inner.regions ++ rest.regions

/-- All blocks at any depth with what they hold. -/
def blocks : Forest → List (Region × Forest)
  | nil => []
  | placed _ rest => rest.blocks
  | block region inner rest => (region, inner) :: inner.blocks ++ rest.blocks

/-- The lines of a forest that stands at a depth. -/
def rows (depth : Nat) : Forest → List Row
  | nil => []
  | placed instruction rest => ⟨depth, .instruction, instruction.spans⟩ :: rest.rows depth
  | block region inner rest =>
    region.openingListing.lines.map (fun (role, spans) => ⟨depth, role, spans⟩) ++
      inner.rows (depth + 1) ++ ⟨depth, .bracket, region.closingSpans⟩ :: rest.rows depth

theorem openings_marks (forest : Forest) : Mark.openings forest.marks = forest.regions := by
  induction forest with
  | nil => rfl
  | placed instruction rest ih => exact ih
  | block region inner rest ihInner ihRest =>
    show region :: Mark.openings (inner.marks ++ .closed region :: rest.marks) = _
    have hclosed : Mark.openings (.closed region :: rest.marks) = rest.regions := ihRest
    rw [Mark.openings_append, ihInner, hclosed]
    rfl

theorem placements_marks (forest : Forest) :
    Mark.placements forest.marks = forest.instructions := by
  induction forest with
  | nil => rfl
  | placed instruction rest ih => exact congrArg (instruction :: ·) ih
  | block region inner rest ihInner ihRest =>
    show Mark.placements (inner.marks ++ .closed region :: rest.marks) = _
    have hclosed : Mark.placements (.closed region :: rest.marks) = rest.instructions := ihRest
    rw [Mark.placements_append, ihInner, hclosed]
    rfl

end Forest

/-! ### The lines of a forest -/

section

variable {depth : Nat} {listing : Listing}

theorem Session.rows_line (role : Role) (spans : List Span) :
    ({ depth } : Session).rows .never (.line role spans :: listing) =
      ⟨depth, role, spans⟩ :: ({ depth } : Session).rows .never listing := by
  rw [rows, rows_never_eq (by simp), depth_callAll]

theorem Region.rows_openingListing (region : Region) :
    ({ depth } : Session).rows .never (region.openingListing ++ listing) =
      region.openingListing.lines.map (fun (role, spans) => ⟨depth, role, spans⟩) ++
        ({ depth := depth + 1 } : Session).rows .never listing := by
  obtain ⟨opening, heq, hopening⟩ := region.openingListing_eq
  rw [heq]
  rcases hopening with rfl | rfl <;>
    simp only [List.cons_append, List.nil_append, Session.rows_line] <;> rfl

theorem Region.rows_closingListing (region : Region) :
    ({ depth := depth + 1 } : Session).rows .never (region.closingListing ++ listing) =
      ⟨depth, .bracket, region.closingSpans⟩ :: ({ depth } : Session).rows .never listing :=
  Session.rows_line ..

theorem Instruction.rows_listing (index : Nat) (instruction : Instruction) :
    ({ depth } : Session).rows .never (instruction.listing index ++ listing) =
      ⟨depth, .instruction, instruction.spans⟩ :: ({ depth } : Session).rows .never listing := by
  rw [Instruction.listing]
  split <;> exact Session.rows_line ..

end

theorem Forest.rows_listing (depth index : Nat) (forest : Forest) (marks : List Mark) :
    ({ depth } : Session).rows .never (Mark.listing index (forest.marks ++ marks)) =
      forest.rows depth ++ ({ depth } : Session).rows .never
        (Mark.listing (index + forest.instructions.length) marks) := by
  induction forest generalizing depth index marks with
  | nil => rfl
  | placed instruction rest ih =>
    rw [Forest.marks, List.cons_append, Mark.listing, Instruction.rows_listing, ih, rows,
      instructions, List.length_cons, Nat.add_right_comm, Nat.add_assoc, List.cons_append]
  | block region inner rest ihInner ihRest =>
    rw [Forest.marks, List.cons_append, List.cons_append, Mark.listing,
      Region.rows_openingListing, List.append_assoc, List.cons_append, ihInner, Mark.listing,
      Region.rows_closingListing, ihRest, rows, instructions, List.length_append, Nat.add_assoc]
    simp

/-! ### Marks in brackets -/

/-- Marks that stand inside the blocks of `stack`, innermost first. Blocks are closed in turn, but
not at once after they were opened, which is what `fresh` says. A block ends no later than those
around it and beyond the instructions in it. -/
def Mark.Bracketed (fresh : Bool) (stack : List Region) : List Mark → Prop
  | [] => fresh = false ∧ stack = []
  | .opened region :: marks =>
    (∀ outer ∈ stack, region.stop ≤ outer.stop) ∧ Bracketed true (region :: stack) marks
  | .placed instruction :: marks =>
    (∀ region ∈ stack, instruction.offset < region.stop) ∧ Bracketed false stack marks
  | .closed region :: marks =>
    fresh = false ∧ ∃ outer, stack = region :: outer ∧ Bracketed false outer marks

/-- The same of a forest that stands inside the blocks of `stack`. -/
def Forest.Sheltered (stack : List Region) : Forest → Prop
  | nil => True
  | placed instruction rest =>
    (∀ region ∈ stack, instruction.offset < region.stop) ∧ rest.Sheltered stack
  | block region inner rest =>
    (∀ outer ∈ stack, region.stop ≤ outer.stop) ∧ inner ≠ nil ∧
      inner.Sheltered (region :: stack) ∧ rest.Sheltered stack

namespace Mark

variable {fresh : Bool} {stack : List Region} {marks : List Mark}

theorem bracketed_closed_append (closed : List Region) (h : Bracketed false stack marks) :
    Bracketed false (closed ++ stack) (closed.map .closed ++ marks) := by
  induction closed with
  | nil => exact h
  | cons region closed ih => exact ⟨rfl, closed ++ stack, rfl, ih⟩

theorem bracketed_opened_append {opened after : List Region}
    (hafter : after = opened.reverse ++ stack)
    (hends : after.Pairwise fun inner outer => inner.stop ≤ outer.stop)
    (h : ∀ fresh, Bracketed fresh after marks) :
    Bracketed fresh stack (opened.map .opened ++ marks) := by
  induction opened generalizing fresh stack with
  | nil =>
    rw [hafter] at h
    exact h fresh
  | cons region opened ih =>
    have hnext : after = opened.reverse ++ region :: stack := by simpa using hafter
    refine ⟨?_, ih hnext⟩
    rw [hnext] at hends
    exact (List.pairwise_cons.1 (List.pairwise_append.1 hends).2.1).1

theorem Bracketed.exists_forest (h : Bracketed fresh stack marks) :
    ∃ (forest : Forest) (tail : List Mark),
      marks = forest.marks ++ tail ∧ forest.Sheltered stack ∧ (fresh = true → forest ≠ .nil) ∧
      (tail = [] ∧ stack = [] ∨
        ∃ region outer rest, tail = .closed region :: rest ∧ stack = region :: outer ∧
          Bracketed false outer rest) := by
  -- behind a block the marks go on with what its closing leaves, which is not a part of the list
  -- that an induction on the marks would reach
  induction hlength : marks.length using Nat.strongRecOn generalizing fresh stack marks with
  | _ length ih =>
    subst hlength
    cases marks with
    | nil =>
      obtain ⟨hfresh, hstack⟩ := h
      exact ⟨.nil, [], rfl, trivial, by simp [hfresh], .inl ⟨rfl, hstack⟩⟩
    | cons mark marks =>
      cases mark with
      | opened region =>
        obtain ⟨hstop, hmarks⟩ := h
        obtain ⟨inner, tail, rfl, hinner, hne, hend⟩ := ih _ (by simp) hmarks rfl
        obtain ⟨-, hnil⟩ | ⟨top, outer, rest, rfl, hstack, hrest⟩ := hend
        · cases hnil
        · obtain ⟨rfl, rfl⟩ := List.cons.inj hstack
          obtain ⟨after, tail, rfl, hafter, -, hend⟩ := ih _ (by simp; omega) hrest rfl
          refine ⟨.block region inner after, tail, ?_, ⟨hstop, hne rfl, hinner, hafter⟩, by simp,
            hend⟩
          simp [Forest.marks]
      | placed instruction =>
        obtain ⟨hoffset, hmarks⟩ := h
        obtain ⟨forest, tail, rfl, hforest, -, hend⟩ := ih _ (by simp) hmarks rfl
        exact ⟨.placed instruction forest, tail, rfl, ⟨hoffset, hforest⟩, by simp, hend⟩
      | closed region =>
        obtain ⟨hfresh, outer, hstack, hmarks⟩ := h
        exact ⟨.nil, .closed region :: marks, rfl, trivial, by simp [hfresh],
          .inr ⟨region, outer, marks, rfl, hstack, hmarks⟩⟩

end Mark

theorem bracketed_placeAll {stack pending : List Region} {instructions : List Instruction}
    (hends : stack.Pairwise fun inner outer => inner.stop ≤ outer.stop)
    (hfault : (placeAll stack pending instructions).2 = none) :
    Mark.Bracketed false stack (placeAll stack pending instructions).1 := by
  induction instructions generalizing stack pending with
  | nil =>
    cases pending with
    | nil =>
      have hend : Mark.Bracketed false [] [] := ⟨rfl, rfl⟩
      simpa [placeAll_nil_nil] using Mark.bracketed_closed_append stack hend
    | cons region pending => cases hfault
  | cons instruction instructions ih =>
    have hnone := fault_next_of_placeAll hfault
    rw [placeAll_cons hnone] at hfault ⊢
    have hnext : (Opening.next instruction.offset stack pending).stack.Pairwise
        fun inner outer => inner.stop ≤ outer.stop :=
      Opening.pairwise_stop (hends.sublist (List.dropWhile_sublist _))
    have hrest : ∀ fresh, Mark.Bracketed fresh
        (Opening.next instruction.offset stack pending).stack
        (.placed instruction :: (placeAll (Opening.next instruction.offset stack pending).stack
          (Opening.next instruction.offset stack pending).pending instructions).1) :=
      fun _ => ⟨Nested.lt_stop_of_mem_stack hends, ih hnext hfault⟩
    have hclosed := Mark.bracketed_closed_append
      (stack.takeWhile fun region => region.stop ≤ instruction.offset)
      (Mark.bracketed_opened_append (Opening.next_stack instruction.offset stack pending) hnext
        hrest)
    rw [List.takeWhile_append_dropWhile, ← List.append_assoc] at hclosed
    exact hclosed

/-! ### The blocks of a sheltered forest -/

namespace Forest.Sheltered

variable {stack : List Region} {forest : Forest}

theorem offset_lt (h : forest.Sheltered stack) {region : Region} (hregion : region ∈ stack) :
    ∀ instruction ∈ forest.instructions, instruction.offset < region.stop := by
  induction forest generalizing stack with
  | nil => simp [instructions]
  | placed instruction rest ih =>
    obtain ⟨hoffset, hrest⟩ := h
    intro other hother
    rcases List.mem_cons.1 hother with rfl | hother
    · exact hoffset region hregion
    · exact ih hrest hregion other hother
  | block top inner rest ihInner ihRest =>
    obtain ⟨-, -, hinner, hrest⟩ := h
    intro other hother
    rcases List.mem_append.1 hother with hother | hother
    · exact ihInner hinner (List.mem_cons_of_mem _ hregion) other hother
    · exact ihRest hrest hregion other hother

theorem stop_le (h : forest.Sheltered stack) {outer : Region} (houter : outer ∈ stack) :
    ∀ region ∈ forest.regions, region.stop ≤ outer.stop := by
  induction forest generalizing stack with
  | nil => simp [regions]
  | placed instruction rest ih => exact ih h.2 houter
  | block top inner rest ihInner ihRest =>
    obtain ⟨hstop, -, hinner, hrest⟩ := h
    intro other hother
    rcases List.mem_append.1 hother with hother | hother
    · rcases List.mem_cons.1 hother with rfl | hother
      · exact hstop outer houter
      · exact ihInner hinner (List.mem_cons_of_mem _ houter) other hother
    · exact ihRest hrest houter other hother

theorem instructions_ne_nil (h : forest.Sheltered stack) (hne : forest ≠ nil) :
    forest.instructions ≠ [] := by
  induction forest generalizing stack with
  | nil => exact absurd rfl hne
  | placed instruction rest _ => exact List.cons_ne_nil _ _
  | block region inner rest ihInner _ =>
    obtain ⟨-, hinner, hsheltered, -⟩ := h
    exact List.append_ne_nil_of_left_ne_nil (ihInner hsheltered hinner) _

theorem of_mem_blocks (h : forest.Sheltered stack) {region : Region} {inner : Forest}
    (hblock : (region, inner) ∈ forest.blocks) :
    inner ≠ nil ∧ ∃ outer, inner.Sheltered (region :: outer) := by
  induction forest generalizing stack with
  | nil => cases hblock
  | placed instruction rest ih => exact ih h.2 hblock
  | block top held rest ihInner ihRest =>
    obtain ⟨-, hne, hheld, hrest⟩ := h
    rcases List.mem_append.1 hblock with hblock | hblock
    · rcases List.mem_cons.1 hblock with heq | hblock
      · obtain ⟨rfl, rfl⟩ := Prod.mk.inj heq
        exact ⟨hne, stack, hheld⟩
      · exact ihInner hheld hblock
    · exact ihRest hrest hblock

end Forest.Sheltered

/-! ### Bodies as forests -/

namespace Body

theorem exists_forest {body : Body} (h : body.nesting.2 = none) :
    ∃ forest : Forest, body.nesting.1 = forest.marks ∧ forest.Sheltered [] := by
  obtain ⟨-, hplace⟩ := nesting_eq_of_fault h
  rw [hplace] at h ⊢
  obtain ⟨forest, tail, hmarks, hforest, -, hend⟩ := (bracketed_placeAll .nil h).exists_forest
  obtain ⟨rfl, -⟩ | ⟨_, _, _, -, hnil, -⟩ := hend
  · exact ⟨forest, by rw [hmarks, List.append_nil], hforest⟩
  · cases hnil

/-- Whatever the offsets of a body are, if its structured listing is not stopped then the lines
written are those of a forest. It holds the instructions in stored order and has one block for every
region, opened outermost first. A block has an instruction in it, no block inside it ends later, and
the instructions inside it have offsets below its end. What is recorded are the lines of the forest,
with as many tabs as they are deep. -/
theorem structuredListing_bracketed (body : Body) (watch : Watch) (session : Session)
    (hended : (session.run watch body.structuredListing).2 = none) :
    ∃ forest : Forest,
      session.rows watch body.structuredListing = forest.rows session.depth ∧
      forest.instructions = body.instructions ∧
      OutermostFirst body.regions forest.regions ∧
      (∀ region inner, (region, inner) ∈ forest.blocks →
        inner.instructions ≠ [] ∧
        (∀ other ∈ inner.regions, other.stop ≤ region.stop) ∧
        ∀ instruction ∈ inner.instructions, instruction.offset < region.stop) ∧
      (session.AtLineStart →
        (session.run watch body.structuredListing).1.lines =
          session.lines ++ (forest.rows session.depth).map Row.recorded) := by
  have hfault : body.nesting.2 = none := by
    rw [← fault?_structuredListing]
    exact Session.fault?_of_run_eq_none hended
  obtain ⟨-, hplace⟩ := nesting_eq_of_fault hfault
  obtain ⟨forest, hmarks, hforest⟩ := exists_forest hfault
  have hrows : session.rows watch body.structuredListing = forest.rows session.depth := by
    have hlisting : body.structuredListing = Mark.listing 0 (forest.marks ++ []) := by
      rw [structuredListing_eq hfault, hmarks, List.append_nil]
    have hdepth : session.depth = ({ depth := session.depth } : Session).depth := rfl
    rcases (Session.rows_truncated watch hdepth rfl body.structuredListing).2 with
      hcancelled | ⟨-, hrows⟩
    · rw [hended] at hcancelled
      cases hcancelled
    · rw [hrows, hlisting, forest.rows_listing]
      exact List.append_nil _
  refine ⟨forest, hrows, ?_, ?_, ?_, ?_⟩
  · rw [← forest.placements_marks, ← hmarks, placements_nesting hfault]
  · rw [← forest.openings_marks, ← hmarks, hplace, openings_placeAll (hplace ▸ hfault)]
    exact Region.outermostFirst_inOpeningOrder body.regions
  · intro region inner hblock
    obtain ⟨hne, outer, hinner⟩ := hforest.of_mem_blocks hblock
    exact ⟨hinner.instructions_ne_nil hne, hinner.stop_le List.mem_cons_self,
      hinner.offset_lt List.mem_cons_self⟩
  · intro hstart
    rw [← hrows]
    exact hstart.lines_run_recorded watch body.structuredListing

/-- The offsets go up and down inside three blocks, of which two have the same range. -/
def scrambled : Body where
  instructions := [⟨4, "nop", none⟩, ⟨1, "nop", none⟩, ⟨7, "leave", some (.target 9)⟩,
    ⟨9, "ret", none⟩]
  regions := [⟨.guarded, 2, 8⟩, ⟨.loop, 0, 9⟩, ⟨.filter, 0, 9⟩]

theorem structuredListing_scrambled :
    (({} : Session).run .never scrambled.structuredListing).2 = none ∧
    ∃ forest : Forest,
      ({} : Session).rows .never scrambled.structuredListing = forest.rows 0 ∧
      forest.regions.length = 3 ∧
      (∀ region inner, (region, inner) ∈ forest.blocks →
        inner.instructions ≠ [] ∧
        ∀ instruction ∈ inner.instructions, instruction.offset < region.stop) ∧
      (({} : Session).run .never scrambled.structuredListing).1.lines =
        (forest.rows 0).map Row.recorded := by
  have hended : (({} : Session).run .never scrambled.structuredListing).2 = none :=
    (run_structuredListing rfl).2 (nesting_eq_none_iff_raised.2 (by decide))
  obtain ⟨forest, hrows, -, hregions, hblocks, hlines⟩ :=
    structuredListing_bracketed scrambled .never {} hended
  refine ⟨hended, forest, hrows, hregions.perm.length_eq, fun region inner hblock => ?_,
    hlines (Session.atLineStart_nil 0 false)⟩
  obtain ⟨hne, -, hoffsets⟩ := hblocks region inner hblock
  exact ⟨hne, hoffsets⟩

end Body

end Cil
