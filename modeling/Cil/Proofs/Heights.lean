import Cil.Proofs.Layout

/-!
# Bodies whose offsets decrease

Placing never looks back: an instruction with a lower offset than one before it closes nothing and
opens nothing. So it is placed as if it had the highest offset so far, its height, and the blocks
around it are those of the regions that cover its height (`placeAll_raised`). With heights for
offsets every body is one whose offsets do not decrease, and `Layout` says what becomes of it.

Hence a body is listed in blocks if it is nestable by heights, and then the instructions stand
inside the regions that cover them only if heights and offsets are covered alike
(`structuredListing_by_height`). There is no fault for a body where they are not
(`structuredListing_misplaced`).
-/

namespace Cil

/-! ### Heights -/

namespace Instruction

/-- Each instruction with its height, the highest offset up to it, where `high` was reached
before. -/
def heights (high : Nat) : List Instruction → List (Instruction × Nat)
  | [] => []
  | instruction :: instructions =>
    (instruction, max high instruction.offset) ::
      heights (max high instruction.offset) instructions

/-- The instructions with their heights for offsets. -/
def raised (high : Nat) (instructions : List Instruction) : List Instruction :=
  (heights high instructions).map fun (instruction, height) => { instruction with offset := height }

theorem raised_cons (high : Nat) (instruction : Instruction) (instructions : List Instruction) :
    raised high (instruction :: instructions) =
      { instruction with offset := max high instruction.offset } ::
        raised (max high instruction.offset) instructions := rfl

theorem map_fst_heights (high : Nat) (instructions : List Instruction) :
    (heights high instructions).map Prod.fst = instructions := by
  induction instructions generalizing high with
  | nil => rfl
  | cons instruction instructions ih => exact congrArg (instruction :: ·) (ih _)

theorem zip_raised {α : Type} (f : Nat → α) (high : Nat) (instructions : List Instruction) :
    instructions.zip ((raised high instructions).map fun instruction => f instruction.offset) =
      (heights high instructions).map fun (instruction, height) => (instruction, f height) := by
  induction instructions generalizing high with
  | nil => rfl
  | cons instruction instructions ih => exact congrArg (_ :: ·) (ih _)

theorem le_offset_raised {high : Nat} {instructions : List Instruction} :
    ∀ instruction ∈ raised high instructions, high ≤ instruction.offset := by
  induction instructions generalizing high with
  | nil => simp [raised, heights]
  | cons instruction instructions ih =>
    intro other hother
    rw [raised_cons] at hother
    rcases List.mem_cons.1 hother with rfl | hother
    · exact Nat.le_max_left _ _
    · exact Nat.le_trans (Nat.le_max_left _ _) (ih other hother)

theorem pairwise_raised (high : Nat) (instructions : List Instruction) :
    (raised high instructions).Pairwise (·.offset ≤ ·.offset) := by
  induction instructions generalizing high with
  | nil => exact .nil
  | cons instruction instructions ih => exact List.pairwise_cons.2 ⟨le_offset_raised, ih _⟩

theorem height_eq_offset {high : Nat} {instructions : List Instruction}
    (hoffsets : instructions.Pairwise (·.offset ≤ ·.offset))
    (hhigh : ∀ instruction ∈ instructions, high ≤ instruction.offset) :
    ∀ entry ∈ heights high instructions, entry.2 = entry.1.offset := by
  induction instructions generalizing high with
  | nil => simp [heights]
  | cons instruction instructions ih =>
    obtain ⟨hlater, hoffsets⟩ := List.pairwise_cons.1 hoffsets
    have hmax : max high instruction.offset = instruction.offset :=
      Nat.max_eq_right (hhigh instruction List.mem_cons_self)
    rw [heights, hmax]
    exact List.forall_mem_cons.2 ⟨rfl, ih hoffsets hlater⟩

end Instruction

/-! ### Placing by heights -/

/-- The open blocks end and the pending regions start beyond an offset. -/
structure Settled (high : Nat) (stack pending : List Region) : Prop where
  stops : ∀ region ∈ stack, high < region.stop
  starts : ∀ region ∈ pending, high < region.start

section

variable {high : Nat} {stack pending : List Region}

theorem Settled.next (hnested : Nested high stack pending) {offset : Nat}
    (hfault : (Opening.next offset stack pending).fault = none) :
    Settled offset (Opening.next offset stack pending).stack
      (Opening.next offset stack pending).pending where
  stops := Nested.lt_stop_of_mem_stack hnested.ends
  starts := Opening.lt_start_of_mem_pending (List.pairwise_append.1 hnested.ordered).2.1 hfault

theorem Settled.next_eq (h : Settled high stack pending) {offset : Nat} (hle : offset ≤ high) :
    Opening.next offset stack pending = { stack, pending } := by
  have hopen : stack.dropWhile (fun region => region.stop ≤ offset) = stack := by
    cases stack with
    | nil => rfl
    | cons top stack =>
      have hstop := h.stops top List.mem_cons_self
      exact List.dropWhile_cons_of_neg (by simp; omega)
  rw [Opening.next, hopen]
  cases pending with
  | nil => rfl
  | cons region pending =>
    have hstart := h.starts region List.mem_cons_self
    rw [Opening.at, if_pos (by omega)]

theorem next_max (hsettled : 0 < high → Settled high stack pending) (offset : Nat) :
    Opening.next (max high offset) stack pending = Opening.next offset stack pending := by
  by_cases hlt : offset < high
  · have hidle := hsettled (by omega)
    have hmax : max high offset = high := by omega
    rw [hmax, hidle.next_eq (Nat.le_refl high), hidle.next_eq (Nat.le_of_lt hlt)]
  · have hmax : max high offset = offset := by omega
    rw [hmax]

/-- With heights for offsets, placing ends with the same fault and puts the same blocks around the
instructions. -/
theorem placeAll_raised {instructions : List Instruction} (hnested : Nested high stack pending)
    (hsettled : 0 < high → Settled high stack pending) :
    (placeAll stack pending (Instruction.raised high instructions)).2 =
        (placeAll stack pending instructions).2 ∧
      ∀ layout, (placeAll stack pending instructions).2 = none →
        Mark.read stack (placeAll stack pending (Instruction.raised high instructions)).1 =
            some layout →
          Mark.read stack (placeAll stack pending instructions).1 =
            some (instructions.zip (layout.map Prod.snd)) := by
  -- before the first instruction nothing is settled, but no offset is below zero either
  induction instructions generalizing high stack pending with
  | nil =>
    refine ⟨rfl, fun layout hended _ => ?_⟩
    cases pending with
    | nil =>
      have hclosed := Mark.read_closed_append stack [] []
      rw [List.append_nil, List.append_nil] at hclosed
      exact hclosed
    | cons region pending => cases hended
  | cons instruction instructions ih =>
    have hnext := next_max hsettled instruction.offset
    rw [Instruction.raised_cons]
    cases hfault : (Opening.next instruction.offset stack pending).fault with
    | some fault =>
      have hraised : (Opening.next (max high instruction.offset) stack pending).fault =
          some fault := by
        rw [hnext, hfault]
      rw [placeAll_cons_of_fault instructions hfault, placeAll_cons_of_fault _ hraised]
      refine ⟨rfl, fun layout hended _ => ?_⟩
      cases hended
    | none =>
      have hraised : (Opening.next (max high instruction.offset) stack pending).fault = none := by
        rw [hnext, hfault]
      have hrest := ih (hnested.next (Nat.le_max_left high instruction.offset))
        (fun _ => Settled.next hnested hraised)
      rw [hnext] at hrest
      rw [placeAll_cons hfault, placeAll_cons hraised]
      refine ⟨?_, fun layout hended hread => ?_⟩
      · rw [hnext]
        exact hrest.1
      · rw [Mark.read_next, Option.map_eq_some_iff] at hread
        obtain ⟨rest, hread, rfl⟩ := hread
        rw [hnext] at hread
        rw [Mark.read_next, hrest.2 rest hended hread, hnext]
        rfl

end

/-! ### Bodies by heights -/

namespace Body

variable {body : Body}

def heights (body : Body) : List (Instruction × Nat) := Instruction.heights 0 body.instructions

/-- The body with heights for offsets. -/
def raised (body : Body) : Body :=
  { body with instructions := Instruction.raised 0 body.instructions }

theorem nesting_raised (body : Body) : body.raised.nesting.2 = body.nesting.2 := by
  unfold nesting
  have hregions : body.raised.regions = body.regions := rfl
  rw [hregions]
  split
  · rfl
  · exact (placeAll_raised body.nested_start (by simp)).1

theorem nesting_eq_none_iff_raised : body.nesting.2 = none ↔ body.raised.Nestable := by
  rw [← nesting_raised]
  exact nesting_eq_none_iff (Instruction.pairwise_raised 0 body.instructions)

theorem read_nesting (h : body.nesting.2 = none) :
    Mark.read [] body.nesting.1 = some (body.heights.map fun (instruction, height) =>
      (instruction, (Region.inOpeningOrder body.regions).filter (·.Covers height))) := by
  have hraised : body.raised.nesting.2 = none := by rw [nesting_raised, h]
  have hlaid := (laid_of_nesting (Instruction.pairwise_raised 0 body.instructions) hraised).read
  obtain ⟨-, hplace⟩ := nesting_eq_of_fault h
  obtain ⟨-, hplaceRaised⟩ := nesting_eq_of_fault hraised
  rw [hplaceRaised] at hlaid
  rw [hplace] at h ⊢
  have hzip := Instruction.zip_raised
    (fun height => (Region.inOpeningOrder body.regions).filter (·.Covers height)) 0
    body.instructions
  rw [(placeAll_raised body.nested_start (by simp)).2 _ h hlaid, List.map_map]
  exact congrArg some hzip

/-- The regions that cover an instruction are those that cover its height. -/
def Tracked (body : Body) : Prop :=
  ∀ entry ∈ body.heights, ∀ region ∈ body.regions,
    region.Covers entry.1.offset ↔ region.Covers entry.2

instance (body : Body) : Decidable body.Tracked :=
  inferInstanceAs (Decidable (∀ entry ∈ _, ∀ region ∈ _, (_ ↔ _)))

theorem tracked_of_pairwise (hoffsets : body.instructions.Pairwise (·.offset ≤ ·.offset)) :
    body.Tracked := by
  intro entry hentry region _
  rw [Instruction.height_eq_offset hoffsets (fun _ _ => Nat.zero_le _) entry hentry]

/-- Whatever its offsets are, a body is written in blocks exactly if it is nestable by heights; any
other body ends in a fault. Each instruction has one line, in stored order, which stands inside the
blocks of the regions that cover its height. These are the regions that cover its offset, for every
instruction, exactly if the body is tracked, and it is if its offsets do not decrease. What is
recorded are the lines of the run, with as many tabs as they are deep. -/
theorem structuredListing_by_height (body : Body) (session : Session)
    (hlive : session.cancelled = false) :
    ((session.run .never body.structuredListing).2 = none ↔ body.raised.Nestable) ∧
    (∀ error, (session.run .never body.structuredListing).2 = some error →
      ∃ fault, error = .layout fault) ∧
    ((session.run .never body.structuredListing).2 = none →
      ∃ (marks : List Mark) (layout : List (Instruction × List Region))
        (blocks : Nat → List Region),
        body.structuredListing = Mark.listing 0 marks ∧
        Mark.read [] marks = some layout ∧
        layout.map Prod.fst = body.instructions ∧
        layout.map Prod.snd = body.heights.map (fun entry => blocks entry.2) ∧
        (∀ height, OutermostFirst (body.regions.filter (·.Covers height)) (blocks height)) ∧
        (session.rows .never body.structuredListing).filter (·.role = .instruction) =
          layout.map (fun (instruction, blocks) =>
            ⟨session.depth + blocks.length, .instruction, instruction.spans⟩) ∧
        ((∀ entry ∈ layout, ∀ region ∈ body.regions,
          region ∈ entry.2 ↔ region.Covers entry.1.offset) ↔ body.Tracked)) ∧
    (body.instructions.Pairwise (·.offset ≤ ·.offset) → body.Tracked) ∧
    (session.AtLineStart →
      (session.run .never body.structuredListing).1.lines =
        session.lines ++ (session.rows .never body.structuredListing).map Row.recorded) := by
  rw [run_structuredListing hlive]
  refine ⟨nesting_eq_none_iff_raised, ?_, fun hfault => ?_, tracked_of_pairwise,
    fun hstart => hstart.lines_run_recorded _ _⟩
  · intro error herror
    rw [Session.run_never hlive, Option.map_eq_some_iff] at herror
    obtain ⟨fault, -, rfl⟩ := herror
    exact ⟨fault, rfl⟩
  · have hlisting := structuredListing_eq hfault
    have hread := read_nesting hfault
    refine ⟨_, _, fun height => (Region.inOpeningOrder body.regions).filter (·.Covers height),
      hlisting, hread, ?_, ?_, ?_, ?_, ?_⟩
    · rw [List.map_map]
      exact Instruction.map_fst_heights 0 body.instructions
    · rw [List.map_map]
      rfl
    · exact fun height => (Region.outermostFirst_inOpeningOrder body.regions).filter _
    · rw [hlisting]
      exact Mark.rows_listing hlive 0 session.depth rfl hread
    · simp only [List.forall_mem_map, List.mem_filter, decide_eq_true_eq]
      refine forall₂_congr fun entry _ => forall₂_congr fun region hregion => ?_
      simp only [Region.mem_inOpeningOrder, hregion, true_and]
      exact iff_comm

/-- The second instruction comes back before the region that the first one is in. -/
def backward : Body where
  instructions := [⟨2, "nop", none⟩, ⟨0, "ret", none⟩]
  regions := [⟨.guarded, 2, 4⟩]

theorem structuredListing_backward :
    backward.raised.Nestable ∧ (({} : Session).run .never backward.structuredListing).2 = none ∧
      ¬ backward.Tracked := by
  have hnestable : backward.raised.Nestable := by decide
  exact ⟨hnestable, (structuredListing_by_height backward {} rfl).1.2 hnestable, by decide⟩

/-- No fault is reported, and the instruction at offset 0 stands inside the block from 2 to 4. -/
theorem structuredListing_misplaced :
    (({} : Session).run .never backward.structuredListing).2 = none ∧
    (({} : Session).rows .never backward.structuredListing).map
        (fun row => (row.depth, Span.plain row.spans)) =
      [(0, ".try"), (0, "\x7b"), (1, "IL_0002: nop"), (1, "IL_0000: ret"),
        (0, "\x7d // end .try")] ∧
    ∃ layout, Mark.read [] backward.nesting.1 = some layout ∧
      ∃ entry ∈ layout, ∃ region ∈ backward.regions,
        region ∈ entry.2 ∧ ¬ region.Covers entry.1.offset := by
  have hended : backward.nesting.2 = none := nesting_eq_none_iff_raised.2 (by decide)
  refine ⟨(run_structuredListing rfl).2 hended, by decide +kernel, _, read_nesting hended,
    _, List.mem_map_of_mem (List.mem_cons_of_mem _ List.mem_cons_self), ⟨.guarded, 2, 4⟩,
    List.mem_cons_self, ?_, by decide⟩
  exact List.mem_filter.2 ⟨Region.mem_inOpeningOrder.2 List.mem_cons_self, by decide⟩

end Body

end Cil
