import Cil.Listing.Body
import Cil.Proofs.Nesting
import Cil.Proofs.Recorded

/-!
# The structured form of a body

Which bodies have a structured form, and what that form is: if the offsets of a body do not
decrease, it can be listed in blocks exactly if it is `Body.Nestable`, and then every instruction
stands inside the blocks of the regions that cover its offset and of no others
(`structuredListing_exact`).
-/

namespace Cil

/-! ### The order in which regions are opened -/

/-- The regions of `path` are those of `stored`: regions that start earlier come first, then those
that end later, and those with the same range come as they are stored. -/
structure OutermostFirst (stored path : List Region) : Prop where
  perm : path.Perm stored
  ordered : path.Pairwise fun outer inner =>
    outer.start < inner.start ∨ outer.start = inner.start ∧ inner.stop ≤ outer.stop
  stable : ∀ start stop,
    path.filter (fun region => region.start = start ∧ region.stop = stop) =
      stored.filter (fun region => region.start = start ∧ region.stop = stop)

theorem OutermostFirst.filter {stored path : List Region} (h : OutermostFirst stored path)
    (p : Region → Bool) : OutermostFirst (stored.filter p) (path.filter p) := by
  refine ⟨h.perm.filter p, h.ordered.sublist List.filter_sublist, fun start stop => ?_⟩
  have hcomm : ∀ (q : Region → Bool) (regions : List Region),
      (regions.filter p).filter q = (regions.filter q).filter p := fun q regions => by
    simp only [List.filter_filter, Bool.and_comm]
  rw [hcomm, h.stable start stop, hcomm]

namespace Region

theorem opensBefore_trans (a b c : Region) (hab : a.opensBefore b = true)
    (hbc : b.opensBefore c = true) : a.opensBefore c = true := by
  rw [opensBefore_iff] at *
  omega

theorem opensBefore_total (a b : Region) : (a.opensBefore b || b.opensBefore a) = true := by
  rw [Bool.or_eq_true, opensBefore_iff, opensBefore_iff]
  omega

theorem pairwise_inOpeningOrder (regions : List Region) :
    (inOpeningOrder regions).Pairwise (opensBefore · ·) :=
  List.pairwise_mergeSort opensBefore_trans opensBefore_total regions

theorem mem_inOpeningOrder {region : Region} {regions : List Region} :
    region ∈ inOpeningOrder regions ↔ region ∈ regions :=
  List.mem_mergeSort

theorem outermostFirst_inOpeningOrder (regions : List Region) :
    OutermostFirst regions (inOpeningOrder regions) := by
  have hperm : (inOpeningOrder regions).Perm regions := List.mergeSort_perm ..
  refine ⟨hperm, ?_, fun start stop => ?_⟩
  · exact (pairwise_inOpeningOrder regions).imp opensBefore_iff.1
  · -- regions with one range are in opening order as stored, so sorting keeps them as they are
    have hpairwise : (regions.filter fun region =>
        region.start = start ∧ region.stop = stop).Pairwise (opensBefore · ·) := by
      refine List.pairwise_of_forall_mem_list fun a ha b hb => ?_
      simp only [List.mem_filter, decide_eq_true_eq] at ha hb
      rw [opensBefore_iff]
      omega
    have hsub := List.sublist_mergeSort opensBefore_trans opensBefore_total hpairwise
      List.filter_sublist
    have hsub' := hsub.filter fun region => region.start = start ∧ region.stop = stop
    simp only [List.filter_filter, Bool.and_self] at hsub'
    exact (hsub'.eq_of_length (hperm.filter _).length_eq.symm).symm

end Region

/-! ### Which bodies can be nested -/

/-- Every region of the body has a range that covers an instruction, and regions that cover an
instruction together are nested. -/
structure Body.Nestable (body : Body) : Prop where
  proper : ∀ region ∈ body.regions, region.start < region.stop
  inhabited : ∀ region ∈ body.regions,
    ∃ instruction ∈ body.instructions, region.Covers instruction.offset
  nested : ∀ a ∈ body.regions, ∀ b ∈ body.regions, ∀ instruction ∈ body.instructions,
    a.Covers instruction.offset → b.Covers instruction.offset → a.Within b ∨ b.Within a

instance (body : Body) : Decidable body.Nestable :=
  decidable_of_iff (_ ∧ _ ∧ _)
    ⟨fun ⟨proper, inhabited, nested⟩ => ⟨proper, inhabited, nested⟩,
      fun ⟨proper, inhabited, nested⟩ => ⟨proper, inhabited, nested⟩⟩

namespace Body

variable {body : Body}

theorem nested_start (body : Body) : Nested 0 [] (Region.inOpeningOrder body.regions) :=
  ⟨by simpa using Region.pairwise_inOpeningOrder body.regions, by simp, by simp⟩

theorem find?_isEmpty : body.regions.find? Region.isEmpty = none ↔
    ∀ region ∈ body.regions, region.start < region.stop := by
  simp [Region.isEmpty]

/-- A nested form without a fault comes from placing the instructions without one. -/
theorem nesting_eq_of_fault (h : body.nesting.2 = none) :
    (∀ region ∈ body.regions, region.start < region.stop) ∧
      body.nesting = placeAll [] (Region.inOpeningOrder body.regions) body.instructions := by
  unfold nesting at h ⊢
  split at h
  · cases h
  · next hproper => exact ⟨find?_isEmpty.1 hproper, rfl⟩

theorem laid_of_nesting (hoffsets : body.instructions.Pairwise (·.offset ≤ ·.offset))
    (h : body.nesting.2 = none) :
    Laid [] (Region.inOpeningOrder body.regions) body.instructions body.nesting.1 := by
  obtain ⟨-, hplace⟩ := nesting_eq_of_fault h
  rw [hplace] at h ⊢
  exact laid_of_placeAll body.nested_start hoffsets (fun _ _ => Nat.zero_le _) h

theorem nesting_eq_none_iff (hoffsets : body.instructions.Pairwise (·.offset ≤ ·.offset)) :
    body.nesting.2 = none ↔ body.Nestable := by
  constructor
  · intro h
    have hlaid := laid_of_nesting hoffsets h
    refine ⟨(nesting_eq_of_fault h).1, fun region hregion => ?_, ?_⟩
    · exact hlaid.inhabited region (Region.mem_inOpeningOrder.2 hregion)
    · intro a ha b hb instruction hinstruction hcoversA hcoversB
      have hpairwise := hlaid.nested instruction hinstruction
      have hmem : ∀ region ∈ body.regions, region.Covers instruction.offset →
          region ∈ (Region.inOpeningOrder body.regions).filter (·.Covers instruction.offset) :=
        fun region hregion hcovers =>
          List.mem_filter.2 ⟨Region.mem_inOpeningOrder.2 hregion, decide_eq_true hcovers⟩
      exact List.Pairwise.forall_of_forall_of_flip (R := fun a b => a.Within b ∨ b.Within a)
        (fun _ _ => .inl ⟨Nat.le_refl _, Nat.le_refl _⟩) (hpairwise.imp .inr) (hpairwise.imp .inl)
        (hmem a ha hcoversA) (hmem b hb hcoversB)
  · intro h
    have hplace : body.nesting =
        placeAll [] (Region.inOpeningOrder body.regions) body.instructions := by
      rw [nesting, find?_isEmpty.2 h.proper]
    rw [hplace]
    refine placeAll_eq_none body.nested_start hoffsets (fun _ _ => Nat.zero_le _) ?_ ?_
    · intro region hregion
      exact h.inhabited region (Region.mem_inOpeningOrder.1 hregion)
    · intro a ha b hb
      exact h.nested a (Region.mem_inOpeningOrder.1 ha) b (Region.mem_inOpeningOrder.1 hb)

end Body

/-! ### Marks as lines -/

namespace Region

theorem openingListing_eq (region : Region) :
    ∃ opening, region.openingListing = .line .bracket region.openingSpans :: opening ++ [.enter] ∧
      (opening = [] ∨ opening = [.line .bracket [⟨.text, "\x7b"⟩]]) := by
  rw [openingListing]
  split
  · exact ⟨[], rfl, .inl rfl⟩
  · exact ⟨[.line .bracket [⟨.text, "\x7b"⟩]], rfl, .inr rfl⟩

@[simp] theorem fault?_openingListing (region : Region) :
    region.openingListing.fault? = none := by
  obtain ⟨opening, heq, rfl | rfl⟩ := region.openingListing_eq <;> rw [heq] <;> rfl

@[simp] theorem fault?_closingListing (region : Region) :
    region.closingListing.fault? = none := rfl

end Region

@[simp] theorem Instruction.fault?_listing (index : Nat) (instruction : Instruction) :
    (instruction.listing index).fault? = none := by
  rw [Instruction.listing]
  split <;> rfl

namespace Mark

@[simp] theorem fault?_listing (index : Nat) (marks : List Mark) :
    (listing index marks).fault? = none := by
  fun_induction listing index marks <;> simp [*]

/-- Written without being cancelled, each instruction is a line as deep as there are blocks around
it. -/
theorem rows_listing {session : Session} (hlive : session.cancelled = false) (index depth : Nat)
    {stack : List Region} {marks : List Mark} {layout : List (Instruction × List Region)}
    (hdepth : session.depth = depth + stack.length) (hread : read stack marks = some layout) :
    (session.rows .never (listing index marks)).filter (·.role = .instruction) =
      layout.map fun (instruction, blocks) =>
        ⟨depth + blocks.length, .instruction, instruction.spans⟩ := by
  induction marks generalizing session index stack layout with
  | nil =>
    rw [read] at hread
    split at hread <;> cases hread
    rfl
  | cons mark marks ih =>
    cases mark with
    | opened region =>
      rw [read] at hread
      rw [listing]
      obtain ⟨opening, heq, hopening⟩ := region.openingListing_eq
      rw [heq]
      rcases hopening with rfl | rfl
      · simp only [List.cons_append, List.nil_append, Session.rows]
        rw [List.filter_cons_of_neg (by simp)]
        exact ih (by simpa using hlive) _ (by simp [hdepth]; omega) hread
      · simp only [List.cons_append, List.nil_append, Session.rows]
        rw [List.filter_cons_of_neg (by simp), List.filter_cons_of_neg (by simp)]
        exact ih (by simpa using hlive) _ (by simp [hdepth]; omega) hread
    | closed region =>
      cases stack with
      | nil => cases hread
      | cons top stack =>
        rw [read] at hread
        split at hread
        · rw [listing, Region.closingListing]
          simp only [List.cons_append, List.nil_append, Session.rows]
          rw [List.filter_cons_of_neg (by simp)]
          exact ih (by simpa using hlive) _ (by simp [hdepth]) hread
        · cases hread
    | placed instruction =>
      rw [read, Option.map_eq_some_iff] at hread
      obtain ⟨rest, hrest, rfl⟩ := hread
      have hrow : session.rows .never (listing index (.placed instruction :: marks)) =
          ⟨session.depth, .instruction, instruction.spans⟩ ::
            (session.callAll .never (lineCalls session.depth instruction.spans)).rows .never
              (listing (index + 1) marks) := by
        rw [listing, Instruction.listing]
        split <;> simp [Session.rows, hlive]
      rw [hrow, List.filter_cons_of_pos (by simp),
        ih (by simpa using hlive) _ (by simpa using hdepth) hrest]
      simp [hdepth]

end Mark

/-! ### Bodies in blocks -/

namespace Body

@[simp] theorem fault?_structuredListing (body : Body) :
    body.structuredListing.fault? = body.nesting.2 := by
  rw [structuredListing, Listing.fault?_append, Mark.fault?_listing, Option.none_or]
  cases body.nesting.2 <;> rfl

theorem structuredListing_eq {body : Body} (h : body.nesting.2 = none) :
    body.structuredListing = Mark.listing 0 body.nesting.1 := by
  rw [structuredListing, h]
  exact List.append_nil _

theorem run_structuredListing {body : Body} {session : Session}
    (hlive : session.cancelled = false) :
    (session.run .never body.structuredListing).2 = none ↔ body.nesting.2 = none := by
  rw [Session.run_never hlive, fault?_structuredListing, Option.map_eq_none_iff]

/-- A body whose offsets do not decrease is written in blocks exactly if it is nestable. Each region
has one block then, and each instruction one line, in stored order. The line stands inside the
blocks of the regions that cover its offset and as deep as there are such blocks. What is recorded
are the lines of the run, with as many tabs as they are deep. -/
theorem structuredListing_exact (body : Body)
    (hoffsets : body.instructions.Pairwise (·.offset ≤ ·.offset)) (session : Session)
    (hlive : session.cancelled = false) :
    ((session.run .never body.structuredListing).2 = none ↔ body.Nestable) ∧
      ((session.run .never body.structuredListing).2 = none →
        ∃ (marks : List Mark) (layout : List (Instruction × List Region)),
          body.structuredListing = Mark.listing 0 marks ∧
          Mark.read [] marks = some layout ∧
          OutermostFirst body.regions (Mark.openings marks) ∧
          layout.map Prod.fst = body.instructions ∧
          (∀ entry ∈ layout,
            OutermostFirst (body.regions.filter (·.Covers entry.1.offset)) entry.2) ∧
          (session.rows .never body.structuredListing).filter (·.role = .instruction) =
            layout.map fun (instruction, blocks) =>
              ⟨session.depth + blocks.length, .instruction, instruction.spans⟩) ∧
      (session.AtLineStart →
        (session.run .never body.structuredListing).1.lines =
          session.lines ++ (session.rows .never body.structuredListing).map Row.recorded) := by
  rw [run_structuredListing hlive]
  refine ⟨nesting_eq_none_iff hoffsets, fun hfault => ?_,
    fun hstart => hstart.lines_run_recorded _ _⟩
  have hlaid := laid_of_nesting hoffsets hfault
  have horder := Region.outermostFirst_inOpeningOrder body.regions
  have hlisting := structuredListing_eq hfault
  refine ⟨_, _, hlisting, hlaid.read, ?_, ?_, ?_, ?_⟩
  · rw [hlaid.openings]
    exact horder
  · simp [Function.comp_def]
  · intro entry hentry
    obtain ⟨instruction, -, rfl⟩ := List.mem_map.1 hentry
    exact horder.filter _
  · rw [hlisting]
    exact Mark.rows_listing hlive 0 session.depth rfl hlaid.read

/-- Two regions have the same range, one is inside them, and the ranges of two others overlap
without an instruction in both. -/
def crossing : Body where
  instructions := [⟨0, "nop", none⟩, ⟨4, "nop", none⟩, ⟨4, "leave", some (.target 12)⟩,
    ⟨12, "ret", none⟩]
  regions := [⟨.loop, 5, 15⟩, ⟨.loop, 0, 10⟩, ⟨.finalizer, 4, 5⟩, ⟨.guarded, 0, 10⟩]

theorem structuredListing_crossing :
    crossing.instructions.Pairwise (·.offset ≤ ·.offset) ∧
      (({} : Session).run .never crossing.structuredListing).2 = none :=
  ⟨by decide, ((structuredListing_exact crossing (by decide) {} rfl).1).2 (by decide)⟩

end Body

end Cil
