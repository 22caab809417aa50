import Cil.Listing.Nesting

/-!
# What placing instructions among regions does

`Mark.read` reads the nested form of a body back: which blocks stand around each instruction. While
instructions are placed, the blocks that are open and the regions that are still to be opened keep
the order in which regions are opened, and an inner block ends no later than an outer one
(`Nested`). Hence, as long as the offsets do not decrease, the blocks around an instruction are the
regions that cover its offset (`laid_of_placeAll`), and no fault comes up if every region covers an
instruction and those that share one are nested (`placeAll_eq_none`).
-/

namespace Cil

namespace Region

variable {a b : Region}

/-- The range of the region holds the offset. -/
def Covers (region : Region) (offset : Nat) : Prop := region.start ≤ offset ∧ offset < region.stop

instance (region : Region) (offset : Nat) : Decidable (region.Covers offset) :=
  inferInstanceAs (Decidable (_ ∧ _))

/-- The range of `a` lies inside that of `b`. -/
def Within (a b : Region) : Prop := b.start ≤ a.start ∧ a.stop ≤ b.stop

instance (a b : Region) : Decidable (a.Within b) := inferInstanceAs (Decidable (_ ∧ _))

theorem opensBefore_iff :
    a.opensBefore b = true ↔ a.start < b.start ∨ a.start = b.start ∧ b.stop ≤ a.stop := by
  simp [opensBefore]

/-- Of two nested regions the one that is opened first is the outer one. -/
theorem stop_le_of_opensBefore (h : a.opensBefore b = true) (hnested : a.Within b ∨ b.Within a) :
    b.stop ≤ a.stop := by
  rw [opensBefore_iff] at h
  rcases hnested with ⟨hstart, -⟩ | ⟨-, hstop⟩
  · omega
  · exact hstop

theorem Within.of_opensBefore (h : a.opensBefore b = true) (hstop : b.stop ≤ a.stop) :
    b.Within a := by
  rw [opensBefore_iff] at h
  exact ⟨by omega, hstop⟩

end Region

/-! ### Reading marks -/

namespace Mark

/-- Reads marks that stand inside the blocks of `stack`: each instruction with the blocks around it,
outermost first. A block that is closed out of turn or never closed cannot be read. -/
def read (stack : List Region) : List Mark → Option (List (Instruction × List Region))
  | [] => if stack = [] then some [] else none
  | .opened region :: marks => read (region :: stack) marks
  | .placed instruction :: marks => (read stack marks).map ((instruction, stack.reverse) :: ·)
  | .closed region :: marks =>
    match stack with
    | [] => none
    | top :: stack => if top = region then read stack marks else none

/-- The regions that marks open, in order. -/
def openings (marks : List Mark) : List Region :=
  marks.filterMap fun
    | .opened region => some region
    | _ => none

/-- The instructions that marks place, in order. -/
def placements (marks : List Mark) : List Instruction :=
  marks.filterMap fun
    | .placed instruction => some instruction
    | _ => none

theorem read_closed_append (closed stack : List Region) (marks : List Mark) :
    read (closed ++ stack) (closed.map .closed ++ marks) = read stack marks := by
  induction closed with
  | nil => rfl
  | cons region closed ih => simpa [read] using ih

theorem read_opened_append (opened stack : List Region) (marks : List Mark) :
    read stack (opened.map .opened ++ marks) = read (opened.reverse ++ stack) marks := by
  induction opened generalizing stack with
  | nil => rfl
  | cons region opened ih => simp [read, ih]

@[simp] theorem openings_append (first second : List Mark) :
    openings (first ++ second) = openings first ++ openings second :=
  List.filterMap_append

@[simp] theorem openings_closed (closed : List Region) : openings (closed.map .closed) = [] := by
  simp [openings]

@[simp] theorem openings_opened (opened : List Region) :
    openings (opened.map .opened) = opened := by
  induction opened with
  | nil => rfl
  | cons region opened ih => exact congrArg (region :: ·) ih

@[simp] theorem openings_placed (instruction : Instruction) (marks : List Mark) :
    openings (.placed instruction :: marks) = openings marks := rfl

@[simp] theorem placements_append (first second : List Mark) :
    placements (first ++ second) = placements first ++ placements second :=
  List.filterMap_append

@[simp] theorem placements_closed (closed : List Region) :
    placements (closed.map .closed) = [] := by
  simp [placements]

@[simp] theorem placements_opened (opened : List Region) :
    placements (opened.map .opened) = [] := by
  simp [placements]

@[simp] theorem placements_placed (instruction : Instruction) (marks : List Mark) :
    placements (.placed instruction :: marks) = instruction :: placements marks := rfl

theorem placements_map (instructions : List Instruction) :
    placements (instructions.map .placed) = instructions := by
  induction instructions with
  | nil => rfl
  | cons instruction instructions ih => rw [List.map_cons, placements_placed, ih]

end Mark

/-! ### Opening regions -/

namespace Opening

variable {offset : Nat} {stack pending : List Region}

theorem opened_append_pending :
    (Opening.at offset stack pending).opened ++ (Opening.at offset stack pending).pending =
      pending := by
  induction pending generalizing stack with
  | nil => rfl
  | cons region pending ih =>
    rw [Opening.at_cons]
    split
    · rfl
    · split
      · rfl
      · exact congrArg (region :: ·) ih

theorem stack_eq :
    (Opening.at offset stack pending).stack =
      (Opening.at offset stack pending).opened.reverse ++ stack := by
  induction pending generalizing stack with
  | nil => rfl
  | cons region pending ih =>
    rw [Opening.at_cons]
    split
    · rfl
    · split
      · rfl
      · simp [ih]

/-- A region can be opened if it reaches beyond the offset and no further than the block around
it. -/
theorem faultAt_eq_none {region : Region} :
    region.faultAt offset stack = none ↔
      offset < region.stop ∧ ∀ parent ∈ stack.head?, region.stop ≤ parent.stop := by
  unfold Region.faultAt
  cases stack with
  | nil => simp
  | cons parent stack =>
    by_cases hstop : region.stop ≤ offset
    · simp [hstop, Nat.not_lt.2 hstop]
    · have hlt : offset < region.stop := Nat.lt_of_not_le hstop
      by_cases hparent : parent.stop < region.stop
      · simp [hstop, hparent]
      · simp [hstop, hparent, hlt, Nat.le_of_not_lt hparent]

theorem covers_of_mem_opened :
    ∀ region ∈ (Opening.at offset stack pending).opened, region.Covers offset := by
  induction pending generalizing stack with
  | nil => simp [Opening.at_nil]
  | cons region pending ih =>
    rw [Opening.at_cons]
    split
    · simp
    · next hstart =>
      split
      · simp
      · next hfault =>
        have hstop := (faultAt_eq_none.1 hfault).1
        intro other hother
        rcases List.mem_cons.1 hother with rfl | hother
        · exact ⟨Nat.le_of_not_lt hstart, hstop⟩
        · exact ih other hother

/-- Unless there is a fault, the regions left over start after the offset. -/
theorem lt_start_of_mem_pending (hordered : pending.Pairwise (Region.opensBefore · ·))
    (hfault : (Opening.at offset stack pending).fault = none) :
    ∀ region ∈ (Opening.at offset stack pending).pending, offset < region.start := by
  induction pending generalizing stack with
  | nil => simp [Opening.at_nil]
  | cons region pending ih =>
    obtain ⟨hregion, hordered⟩ := List.pairwise_cons.1 hordered
    rw [Opening.at_cons] at hfault ⊢
    split
    · next hstart =>
      intro other hother
      rcases List.mem_cons.1 hother with rfl | hother
      · exact hstart
      · have := Region.opensBefore_iff.1 (hregion other hother)
        omega
    · next hstart =>
      rw [if_neg hstart] at hfault
      split at hfault
      · cases hfault
      · exact ih hordered hfault

/-- Inner blocks still end no later than outer ones. -/
theorem pairwise_stop (hends : stack.Pairwise fun inner outer => inner.stop ≤ outer.stop) :
    (Opening.at offset stack pending).stack.Pairwise fun inner outer =>
      inner.stop ≤ outer.stop := by
  induction pending generalizing stack with
  | nil => exact hends
  | cons region pending ih =>
    rw [Opening.at_cons]
    split
    · exact hends
    · split
      · exact hends
      · next hfault =>
        refine ih (List.pairwise_cons.2 ⟨fun outer houter => ?_, hends⟩)
        have hparent := (faultAt_eq_none.1 hfault).2
        cases stack with
        | nil => cases houter
        | cons parent stack =>
          have hle : region.stop ≤ parent.stop := hparent parent rfl
          rcases List.mem_cons.1 houter with rfl | houter
          · exact hle
          · exact Nat.le_trans hle ((List.pairwise_cons.1 hends).1 outer houter)

/-- Regions can be opened if each one that starts at or before the offset reaches beyond it and is
nested with all those that are open with it. -/
theorem fault_eq_none (hordered : (stack.reverse ++ pending).Pairwise (Region.opensBefore · ·))
    (hopen : ∀ region ∈ stack, region.Covers offset)
    (hreach : ∀ region ∈ pending, region.start ≤ offset → offset < region.stop)
    (hnested : ∀ a ∈ stack.reverse ++ pending, ∀ b ∈ stack.reverse ++ pending,
      a.Covers offset → b.Covers offset → a.Within b ∨ b.Within a) :
    (Opening.at offset stack pending).fault = none := by
  induction pending generalizing stack with
  | nil => rfl
  | cons region pending ih =>
    rw [Opening.at_cons]
    split
    · rfl
    · next hstart =>
      have hcovers : region.Covers offset :=
        ⟨Nat.le_of_not_lt hstart, hreach region (by simp) (Nat.le_of_not_lt hstart)⟩
      have hnone : region.faultAt offset stack = none := by
        refine faultAt_eq_none.2 ⟨hcovers.2, fun parent hparent => ?_⟩
        have hmem : parent ∈ stack := List.mem_of_mem_head? hparent
        have hbefore := (List.pairwise_append.1 hordered).2.2 parent (by simpa using hmem) region
          (by simp)
        exact Region.stop_le_of_opensBefore hbefore
          (hnested parent (by simp [hmem]) region (by simp) (hopen parent hmem) hcovers)
      rw [hnone]
      refine ih (by simpa using hordered) ?_ ?_ ?_
      · intro other hother
        rcases List.mem_cons.1 hother with rfl | hother
        · exact hcovers
        · exact hopen other hother
      · exact fun other hother => hreach other (by simp [hother])
      · simpa using hnested

end Opening

/-! ### Placing instructions -/

/-- The blocks and the pending regions at an offset, once the blocks that end there are closed. -/
def Opening.next (offset : Nat) (stack pending : List Region) : Opening :=
  Opening.at offset (stack.dropWhile fun region => region.stop ≤ offset) pending

theorem Opening.next_split (offset : Nat) (stack pending : List Region) :
    (Opening.next offset stack pending).opened ++ (Opening.next offset stack pending).pending =
      pending :=
  Opening.opened_append_pending

theorem Opening.next_stack (offset : Nat) (stack pending : List Region) :
    (Opening.next offset stack pending).stack =
      (Opening.next offset stack pending).opened.reverse ++
        stack.dropWhile fun region => region.stop ≤ offset :=
  Opening.stack_eq

section

variable {stack pending : List Region} {instruction : Instruction}
  {instructions : List Instruction}

/-- Placing an instruction: the blocks that end are closed, regions are opened, and unless there is
a fault the others are placed inside what is open then. -/
theorem placeAll_cons (hfault : (Opening.next instruction.offset stack pending).fault = none) :
    placeAll stack pending (instruction :: instructions) =
      let next := Opening.next instruction.offset stack pending
      let rest := placeAll next.stack next.pending instructions
      ((stack.takeWhile fun region => region.stop ≤ instruction.offset).map .closed ++
        next.opened.map .opened ++ .placed instruction :: rest.1, rest.2) := by
  simp only [Opening.next] at hfault
  simp only [placeAll, hfault, Opening.next]

theorem placeAll_cons_of_fault {fault : LayoutFault} (instructions : List Instruction)
    (hfault : (Opening.next instruction.offset stack pending).fault = some fault) :
    placeAll stack pending (instruction :: instructions) =
      ((stack.takeWhile fun region => region.stop ≤ instruction.offset).map .closed ++
        (Opening.next instruction.offset stack pending).opened.map .opened, some fault) := by
  simp only [Opening.next] at hfault
  simp only [placeAll, hfault, Opening.next]

theorem fault_next_of_placeAll
    (h : (placeAll stack pending (instruction :: instructions)).2 = none) :
    (Opening.next instruction.offset stack pending).fault = none := by
  cases hfault : (Opening.next instruction.offset stack pending).fault with
  | none => rfl
  | some fault =>
    rw [placeAll_cons_of_fault instructions hfault] at h
    cases h

/-- Every instruction is placed once, in stored order, up to the fault if there is one. -/
theorem placements_placeAll_prefix :
    Mark.placements (placeAll stack pending instructions).1 <+: instructions := by
  induction instructions generalizing stack pending with
  | nil =>
    cases pending with
    | nil => simp [placeAll_nil_nil]
    | cons region pending => simp [placeAll_cons_nil, Mark.placements]
  | cons instruction instructions ih =>
    by_cases hfault : (Opening.next instruction.offset stack pending).fault = none
    · rw [placeAll_cons hfault]
      simpa using ih
    · obtain ⟨fault, hfault⟩ := Option.ne_none_iff_exists'.1 hfault
      simp [placeAll_cons_of_fault instructions hfault]

theorem placements_placeAll (h : (placeAll stack pending instructions).2 = none) :
    Mark.placements (placeAll stack pending instructions).1 = instructions := by
  induction instructions generalizing stack pending with
  | nil =>
    cases pending with
    | nil => simp [placeAll_nil_nil]
    | cons region pending => cases h
  | cons instruction instructions ih =>
    have hfault := fault_next_of_placeAll h
    rw [placeAll_cons hfault] at h ⊢
    simpa using ih h

/-- The pending regions are opened in their order, up to the fault if there is one. -/
theorem openings_placeAll_prefix :
    Mark.openings (placeAll stack pending instructions).1 <+: pending := by
  induction instructions generalizing stack pending with
  | nil => cases pending <;> simp [placeAll_nil_nil, placeAll_cons_nil, Mark.openings]
  | cons instruction instructions ih =>
    have hsplit := Opening.next_split instruction.offset stack pending
    by_cases hfault : (Opening.next instruction.offset stack pending).fault = none
    · rw [placeAll_cons hfault]
      simp only [Mark.openings_append, Mark.openings_closed, Mark.openings_opened,
        Mark.openings_placed, List.nil_append]
      have hrest := (List.prefix_append_right_inj
        (Opening.next instruction.offset stack pending).opened).2
        (@ih (Opening.next instruction.offset stack pending).stack
          (Opening.next instruction.offset stack pending).pending)
      rwa [hsplit] at hrest
    · obtain ⟨fault, hfault⟩ := Option.ne_none_iff_exists'.1 hfault
      rw [placeAll_cons_of_fault instructions hfault]
      simp only [Mark.openings_append, Mark.openings_closed, Mark.openings_opened,
        List.nil_append]
      exact ⟨_, hsplit⟩

theorem openings_placeAll (h : (placeAll stack pending instructions).2 = none) :
    Mark.openings (placeAll stack pending instructions).1 = pending := by
  induction instructions generalizing stack pending with
  | nil =>
    cases pending with
    | nil => simp [placeAll_nil_nil]
    | cons region pending => cases h
  | cons instruction instructions ih =>
    have hfault := fault_next_of_placeAll h
    rw [placeAll_cons hfault] at h ⊢
    have hrest := ih h
    simp only [Mark.openings_append, Mark.openings_closed, Mark.openings_opened,
      Mark.openings_placed, hrest, List.nil_append]
    exact Opening.next_split instruction.offset stack pending

end

/-! ### Blocks and ranges -/

/-- What holds of the open blocks, innermost first, and of the regions still to be opened once an
instruction at `offset` was placed. -/
structure Nested (offset : Nat) (stack pending : List Region) : Prop where
  ordered : (stack.reverse ++ pending).Pairwise (Region.opensBefore · ·)
  ends : stack.Pairwise fun inner outer => inner.stop ≤ outer.stop
  started : ∀ region ∈ stack, region.start ≤ offset

namespace Nested

variable {before offset : Nat} {stack pending : List Region}

/-- Closing the blocks that end at an offset leaves exactly those that reach beyond it. -/
theorem dropWhile_eq_filter (hends : stack.Pairwise fun inner outer => inner.stop ≤ outer.stop) :
    (stack.dropWhile fun region => region.stop ≤ offset) =
      stack.filter fun region => offset < region.stop := by
  induction stack with
  | nil => rfl
  | cons top stack ih =>
    obtain ⟨htop, hends⟩ := List.pairwise_cons.1 hends
    by_cases hstop : top.stop ≤ offset
    · rw [List.dropWhile_cons_of_pos (by simpa using hstop),
        List.filter_cons_of_neg (by simpa using hstop)]
      exact ih hends
    · rw [List.dropWhile_cons_of_neg (by simpa using hstop), List.filter_eq_self.2]
      intro region hregion
      rcases List.mem_cons.1 hregion with rfl | hregion
      · simpa using hstop
      · have := htop region hregion
        simp only [decide_eq_true_eq]
        omega

/-- All blocks that are open at an offset end beyond it. -/
theorem lt_stop_of_mem_stack (hends : stack.Pairwise fun inner outer => inner.stop ≤ outer.stop) :
    ∀ region ∈ (Opening.next offset stack pending).stack, offset < region.stop := by
  intro region hregion
  rw [Opening.next_stack, List.mem_append, List.mem_reverse, dropWhile_eq_filter hends] at hregion
  rcases hregion with hregion | hregion
  · exact (Opening.covers_of_mem_opened region hregion).2
  · exact of_decide_eq_true (List.mem_filter.1 hregion).2

/-- The next step only takes away the blocks that end. -/
theorem reverse_stack_append_pending :
    (Opening.next offset stack pending).stack.reverse ++
        (Opening.next offset stack pending).pending =
      (stack.dropWhile fun region => region.stop ≤ offset).reverse ++ pending := by
  rw [Opening.next_stack, List.reverse_append, List.reverse_reverse, List.append_assoc,
    Opening.next_split]

theorem next (h : Nested before stack pending) (hle : before ≤ offset) :
    Nested offset (Opening.next offset stack pending).stack
      (Opening.next offset stack pending).pending := by
  have hsub : (stack.dropWhile fun region => decide (region.stop ≤ offset)).Sublist stack :=
    List.dropWhile_sublist _
  refine ⟨?_, Opening.pairwise_stop (h.ends.sublist hsub), fun region hregion => ?_⟩
  · rw [reverse_stack_append_pending]
    exact h.ordered.sublist (hsub.reverse.append_right pending)
  · rw [Opening.next_stack, List.mem_append, List.mem_reverse] at hregion
    rcases hregion with hregion | hregion
    · exact (Opening.covers_of_mem_opened region hregion).1
    · exact Nat.le_trans (h.started region (hsub.subset hregion)) hle

/-- The blocks open at an instruction, outermost first, are the regions that cover its offset. -/
theorem stack_next (h : Nested before stack pending) (hle : before ≤ offset)
    (hfault : (Opening.next offset stack pending).fault = none) :
    (Opening.next offset stack pending).stack.reverse =
      (stack.reverse ++ pending).filter (·.Covers offset) := by
  have hopen : (stack.dropWhile fun region => region.stop ≤ offset) =
      stack.filter (·.Covers offset) := by
    rw [dropWhile_eq_filter h.ends]
    refine List.filter_congr fun region hregion => ?_
    have hstart := Nat.le_trans (h.started region hregion) hle
    exact decide_eq_decide.2 ⟨fun hstop => ⟨hstart, hstop⟩, And.right⟩
  have hpending : pending.filter (·.Covers offset) =
      (Opening.next offset stack pending).opened := by
    have hordered := (List.pairwise_append.1 h.ordered).2.1
    calc
      pending.filter (·.Covers offset)
      _ = ((Opening.next offset stack pending).opened ++
            (Opening.next offset stack pending).pending).filter (·.Covers offset) := by
          rw [Opening.next_split]
      _ = (Opening.next offset stack pending).opened ++ [] := by
          rw [List.filter_append, List.filter_eq_self.2, List.filter_eq_nil_iff.2]
          · intro region hregion hcovers
            have hstart := Opening.lt_start_of_mem_pending hordered hfault region hregion
            exact Nat.not_le_of_lt hstart (of_decide_eq_true hcovers).1
          · intro region hregion
            exact decide_eq_true (Opening.covers_of_mem_opened region hregion)
      _ = (Opening.next offset stack pending).opened := List.append_nil _
  rw [List.filter_append, hpending, List.filter_reverse, ← hopen, Opening.next_stack,
    List.reverse_append, List.reverse_reverse]

/-- What covers a later offset is still open or pending. -/
theorem filter_next (h : Nested before stack pending) {later : Nat} (hlater : offset ≤ later) :
    ((Opening.next offset stack pending).stack.reverse ++
        (Opening.next offset stack pending).pending).filter (·.Covers later) =
      (stack.reverse ++ pending).filter (·.Covers later) := by
  rw [reverse_stack_append_pending, dropWhile_eq_filter h.ends, List.filter_append,
    List.filter_append, List.filter_reverse, List.filter_reverse, List.filter_filter]
  congr 2
  refine List.filter_congr fun region _ => Bool.and_eq_left_iff_imp.2 fun hcovers => ?_
  exact decide_eq_true (Nat.lt_of_le_of_lt hlater (of_decide_eq_true hcovers).2)

/-- Of two open blocks the outer one was opened first and ends no earlier. -/
theorem pairwise_within (h : Nested offset stack pending) :
    stack.reverse.Pairwise fun outer inner => inner.Within outer := by
  have hordered := (List.pairwise_append.1 h.ordered).1
  have hends : stack.reverse.Pairwise fun outer inner => inner.stop ≤ outer.stop :=
    List.pairwise_reverse.2 h.ends
  exact hordered.imp₂ (fun _ _ => Region.Within.of_opensBefore) hends

end Nested

/-- Marks lay instructions out among the open blocks and the pending regions: around each
instruction stand the regions that cover it, nested in one another, and every pending region is
opened once and has an instruction in it. -/
structure Laid (stack pending : List Region) (instructions : List Instruction)
    (marks : List Mark) : Prop where
  read : Mark.read stack marks = some (instructions.map fun instruction =>
    (instruction, (stack.reverse ++ pending).filter (·.Covers instruction.offset)))
  openings : Mark.openings marks = pending
  inhabited : ∀ region ∈ pending, ∃ instruction ∈ instructions, region.Covers instruction.offset
  nested : ∀ instruction ∈ instructions,
    ((stack.reverse ++ pending).filter (·.Covers instruction.offset)).Pairwise
      fun outer inner => inner.Within outer

section

variable {before : Nat} {stack pending : List Region} {instruction : Instruction}
  {instructions : List Instruction}

/-- Reading the marks of one step: what ends is closed, what begins is opened, and the instruction
stands inside the rest. -/
theorem Mark.read_next (marks : List Mark) :
    Mark.read stack ((stack.takeWhile fun region => region.stop ≤ instruction.offset).map .closed ++
        (Opening.next instruction.offset stack pending).opened.map .opened ++
        .placed instruction :: marks) =
      (Mark.read (Opening.next instruction.offset stack pending).stack marks).map
        ((instruction, (Opening.next instruction.offset stack pending).stack.reverse) :: ·) := by
  have hclosed := Mark.read_closed_append
    (stack.takeWhile fun region => region.stop ≤ instruction.offset)
    (stack.dropWhile fun region => region.stop ≤ instruction.offset)
    ((Opening.next instruction.offset stack pending).opened.map .opened ++
      .placed instruction :: marks)
  rw [List.takeWhile_append_dropWhile] at hclosed
  rw [List.append_assoc, hclosed, Mark.read_opened_append, ← Opening.next_stack]
  rfl

/-- Placing that ends without a fault lays the instructions out, if their offsets do not
decrease. -/
theorem laid_of_placeAll (hnested : Nested before stack pending)
    (hoffsets : instructions.Pairwise (·.offset ≤ ·.offset))
    (hbefore : ∀ instruction ∈ instructions, before ≤ instruction.offset)
    (hfault : (placeAll stack pending instructions).2 = none) :
    Laid stack pending instructions (placeAll stack pending instructions).1 := by
  induction instructions generalizing before stack pending with
  | nil =>
    cases pending with
    | nil =>
      refine ⟨?_, ?_, ?_, ?_⟩
      · simpa [Mark.read, placeAll_nil_nil] using Mark.read_closed_append stack [] []
      · exact Mark.openings_closed stack
      · simp
      · simp
    | cons region pending => cases hfault
  | cons instruction instructions ih =>
    obtain ⟨hlater, hoffsets⟩ := List.pairwise_cons.1 hoffsets
    have hle := hbefore instruction List.mem_cons_self
    have hnone := fault_next_of_placeAll hfault
    rw [placeAll_cons hnone] at hfault ⊢
    have hnext := hnested.next hle
    have hstack := hnested.stack_next hle hnone
    have hrest := ih hnext hoffsets hlater hfault
    -- offsets do not decrease, so what is closed here covers none of the instructions to come
    have hfilter : ∀ other ∈ instructions,
        ((Opening.next instruction.offset stack pending).stack.reverse ++
            (Opening.next instruction.offset stack pending).pending).filter
              (·.Covers other.offset) =
          (stack.reverse ++ pending).filter (·.Covers other.offset) := fun other hother =>
      hnested.filter_next (hlater other hother)
    refine ⟨?_, ?_, ?_, ?_⟩
    · rw [Mark.read_next, hrest.read, hstack, Option.map_some, List.map_cons]
      refine congrArg some (congrArg _ (List.map_congr_left fun other hother => ?_))
      rw [← hfilter other hother, hstack]
    · rw [Mark.openings_append, Mark.openings_append, Mark.openings_closed, Mark.openings_opened,
        Mark.openings_placed, hrest.openings, List.nil_append, Opening.next_split]
    · intro region hregion
      rw [← Opening.next_split instruction.offset stack pending] at hregion
      rcases List.mem_append.1 hregion with hregion | hregion
      · exact ⟨instruction, List.mem_cons_self, Opening.covers_of_mem_opened region hregion⟩
      · obtain ⟨other, hother, hcovers⟩ := hrest.inhabited region hregion
        exact ⟨other, List.mem_cons_of_mem _ hother, hcovers⟩
    · intro other hother
      rcases List.mem_cons.1 hother with rfl | hother
      · rw [← hstack]
        exact hnext.pairwise_within
      · rw [← hfilter other hother]
        exact hrest.nested other hother

/-- Placing ends without a fault if every pending region covers an instruction and regions that
cover one together are nested. -/
theorem placeAll_eq_none (hnested : Nested before stack pending)
    (hoffsets : instructions.Pairwise (·.offset ≤ ·.offset))
    (hbefore : ∀ instruction ∈ instructions, before ≤ instruction.offset)
    (hinhabited : ∀ region ∈ pending,
      ∃ instruction ∈ instructions, region.Covers instruction.offset)
    (hwithin : ∀ a ∈ stack.reverse ++ pending, ∀ b ∈ stack.reverse ++ pending,
      ∀ instruction ∈ instructions, a.Covers instruction.offset → b.Covers instruction.offset →
        a.Within b ∨ b.Within a) :
    (placeAll stack pending instructions).2 = none := by
  induction instructions generalizing before stack pending with
  | nil =>
    cases pending with
    | nil => rfl
    | cons region pending =>
      obtain ⟨_, hnone, -⟩ := hinhabited region List.mem_cons_self
      cases hnone
  | cons instruction instructions ih =>
    obtain ⟨hlater, hoffsets⟩ := List.pairwise_cons.1 hoffsets
    have hle := hbefore instruction List.mem_cons_self
    -- what remains open or pending is some of what was
    have hsub : ((stack.dropWhile fun region => region.stop ≤ instruction.offset).reverse ++
        pending).Sublist (stack.reverse ++ pending) :=
      (List.dropWhile_sublist _).reverse.append_right pending
    have hnone : (Opening.next instruction.offset stack pending).fault = none := by
      refine Opening.fault_eq_none (hnested.ordered.sublist hsub) ?_ ?_ ?_
      · intro region hregion
        rw [Nested.dropWhile_eq_filter hnested.ends, List.mem_filter, decide_eq_true_eq] at hregion
        exact ⟨Nat.le_trans (hnested.started region hregion.1) hle, hregion.2⟩
      · intro region hregion _
        obtain ⟨other, hother, hcovers⟩ := hinhabited region hregion
        rcases List.mem_cons.1 hother with rfl | hother
        · exact hcovers.2
        · exact Nat.lt_of_le_of_lt (hlater other hother) hcovers.2
      · intro a ha b hb
        exact hwithin a (hsub.subset ha) b (hsub.subset hb) instruction List.mem_cons_self
    rw [placeAll_cons hnone]
    refine ih (hnested.next hle) hoffsets hlater ?_ ?_
    · intro region hregion
      have hmem : region ∈ pending := by
        rw [← Opening.next_split instruction.offset stack pending]
        exact List.mem_append_right _ hregion
      -- it starts after this instruction, so a later one is what it covers
      have hstart := Opening.lt_start_of_mem_pending (List.pairwise_append.1 hnested.ordered).2.1
        hnone region hregion
      obtain ⟨other, hother, hcovers⟩ := hinhabited region hmem
      rcases List.mem_cons.1 hother with rfl | hother
      · exact absurd hcovers.1 (Nat.not_le_of_lt hstart)
      · exact ⟨other, hother, hcovers⟩
    · rw [Nested.reverse_stack_append_pending]
      intro a ha b hb other hother
      exact hwithin a (hsub.subset ha) b (hsub.subset hb) other (List.mem_cons_of_mem _ hother)

end

end Cil
