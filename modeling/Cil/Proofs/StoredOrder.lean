import Cil.Proofs.Layout

/-!
# The stored order of regions

Regions are opened in the only order that is `OutermostFirst` (`OutermostFirst.unique`), and how
they are stored comes into it only where two of them have the same range. So if the ranges of a
body are not empty and no two of them are the same, its structured form does not depend on how its
regions are stored, and neither does the fault if there is no such form
(`structuredListing_permuted`).
-/

namespace Cil

/-! ### Regions in opening order -/

namespace Region

variable {a b : Region} {first second : List Region}

/-- Regions of which each may be opened before the other have the same range. -/
theorem range_eq_of_opensBefore (hab : a.opensBefore b = true) (hba : b.opensBefore a = true) :
    a.start = b.start ∧ a.stop = b.stop := by
  rw [opensBefore_iff] at hab hba
  omega

theorem mem_iff_of_filter_range
    (hsame : ∀ start stop,
      first.filter (fun region => region.start = start ∧ region.stop = stop) =
        second.filter (fun region => region.start = start ∧ region.stop = stop))
    (region : Region) : region ∈ first ↔ region ∈ second := by
  have hrange : region ∈ first.filter (fun other =>
        other.start = region.start ∧ other.stop = region.stop) ↔
      region ∈ second.filter (fun other =>
        other.start = region.start ∧ other.stop = region.stop) := by
    rw [hsame]
  simpa using hrange

/-- A list in opening order is known if for each range its regions are known in their order. -/
theorem eq_of_filter_range (hfirst : first.Pairwise (opensBefore · ·))
    (hsecond : second.Pairwise (opensBefore · ·))
    (hsame : ∀ start stop,
      first.filter (fun region => region.start = start ∧ region.stop = stop) =
        second.filter (fun region => region.start = start ∧ region.stop = stop)) :
    first = second := by
  have hmem := mem_iff_of_filter_range hsame
  induction first generalizing second with
  | nil =>
    have hnone : ∀ region, region ∉ second := fun region hregion => by
      simpa using (hmem region).2 hregion
    exact (List.eq_nil_iff_forall_not_mem.2 hnone).symm
  | cons x first ih =>
    cases second with
    | nil => simpa using (hmem x).1 List.mem_cons_self
    | cons y second =>
      obtain ⟨hx, hfirst'⟩ := List.pairwise_cons.1 hfirst
      obtain ⟨hy, hsecond'⟩ := List.pairwise_cons.1 hsecond
      -- each head stands in both lists and is opened before the rest of its own
      have hrange : y.start = x.start ∧ y.stop = x.stop := by
        rcases List.mem_cons.1 ((hmem x).1 List.mem_cons_self) with rfl | hxy
        · exact ⟨rfl, rfl⟩
        rcases List.mem_cons.1 ((hmem y).2 List.mem_cons_self) with rfl | hyx
        · exact ⟨rfl, rfl⟩
        exact range_eq_of_opensBefore (hy x hxy) (hx y hyx)
      have hheads := hsame x.start x.stop
      rw [List.filter_cons_of_pos (by simp),
        List.filter_cons_of_pos (by simpa using hrange)] at hheads
      obtain ⟨rfl, -⟩ := List.cons.inj hheads
      have hrest : ∀ start stop,
          first.filter (fun region => region.start = start ∧ region.stop = stop) =
            second.filter (fun region => region.start = start ∧ region.stop = stop) := by
        intro start stop
        have htails := hsame start stop
        rw [List.filter_cons, List.filter_cons] at htails
        split at htails
        · exact (List.cons.inj htails).2
        · exact htails
      rw [ih hfirst' hsecond' hrest (mem_iff_of_filter_range hrest)]

end Region

namespace OutermostFirst

variable {stored stored' path path' : List Region}

/-- There is one order that is outermost first. -/
theorem unique (h : OutermostFirst stored path) (h' : OutermostFirst stored path') :
    path = path' := by
  refine Region.eq_of_filter_range ?_ ?_ fun start stop => ?_
  · exact h.ordered.imp Region.opensBefore_iff.2
  · exact h'.ordered.imp Region.opensBefore_iff.2
  · rw [h.stable, h'.stable]

/-- Where no two regions have the same range, it does not matter how they are stored. -/
theorem of_perm (h : OutermostFirst stored path) (hperm : stored.Perm stored')
    (hdistinct : stored.Pairwise fun a b => a.start ≠ b.start ∨ a.stop ≠ b.stop) :
    OutermostFirst stored' path := by
  refine ⟨h.perm.trans hperm, h.ordered, fun start stop => ?_⟩
  rw [h.stable]
  have hfilter := hperm.filter fun region => region.start = start ∧ region.stop = stop
  have hpairwise := hdistinct.filter fun region => region.start = start ∧ region.stop = stop
  -- a range has one region at most, and a list of one element has no other order
  cases hregions : stored.filter fun region => region.start = start ∧ region.stop = stop with
  | nil =>
    rw [hregions] at hfilter
    exact hfilter.nil_eq
  | cons x rest =>
    cases rest with
    | nil =>
      rw [hregions] at hfilter
      exact hfilter.singleton_eq
    | cons y rest =>
      have hrange : ∀ region ∈ x :: y :: rest, region.start = start ∧ region.stop = stop := by
        intro region hregion
        rw [← hregions, List.mem_filter] at hregion
        exact of_decide_eq_true hregion.2
      have hx := hrange x List.mem_cons_self
      have hy := hrange y (List.mem_cons_of_mem _ List.mem_cons_self)
      rw [hregions] at hpairwise
      have hxy := (List.pairwise_cons.1 hpairwise).1 y List.mem_cons_self
      omega

end OutermostFirst

theorem Region.inOpeningOrder_eq_of_perm {stored stored' : List Region}
    (hperm : stored.Perm stored')
    (hdistinct : stored.Pairwise fun a b => a.start ≠ b.start ∨ a.stop ≠ b.stop) :
    inOpeningOrder stored = inOpeningOrder stored' :=
  ((outermostFirst_inOpeningOrder stored).of_perm hperm hdistinct).unique
    (outermostFirst_inOpeningOrder stored')

/-! ### Bodies -/

namespace Body

variable {body : Body}

/-- Without an empty range, a body takes its regions in opening order and in no other. -/
theorem nesting_eq_placeAll (hproper : ∀ region ∈ body.regions, region.start < region.stop) :
    body.nesting = placeAll [] (Region.inOpeningOrder body.regions) body.instructions := by
  rw [nesting, find?_isEmpty.2 hproper]

theorem nesting_eq_of_perm {regions : List Region}
    (hproper : ∀ region ∈ body.regions, region.start < region.stop)
    (hdistinct : body.regions.Pairwise fun a b => a.start ≠ b.start ∨ a.stop ≠ b.stop)
    (hperm : body.regions.Perm regions) :
    ({ body with regions } : Body).nesting = body.nesting := by
  have hproper' : ∀ region ∈ ({ body with regions } : Body).regions, region.start < region.stop :=
    fun region hregion => hproper region (hperm.mem_iff.2 hregion)
  rw [nesting_eq_placeAll hproper, nesting_eq_placeAll hproper',
    Region.inOpeningOrder_eq_of_perm hperm hdistinct]

/-- If the ranges of a body are not empty and no two of them are the same, then with its regions
stored in any other order the body has the same structured form. So every session makes the same
calls for it and ends with the same result, whoever watches it. -/
theorem structuredListing_permuted (body : Body) (regions : List Region)
    (hproper : ∀ region ∈ body.regions, region.start < region.stop)
    (hdistinct : body.regions.Pairwise fun a b => a.start ≠ b.start ∨ a.stop ≠ b.stop)
    (hperm : body.regions.Perm regions) (watch : Watch) (session : Session) :
    session.run watch ({ body with regions } : Body).structuredListing =
      session.run watch body.structuredListing := by
  rw [structuredListing, structuredListing, nesting_eq_of_perm hproper hdistinct hperm]

/-- A loop reaches out of the protected block in which it starts, and is stored before it. -/
def overlapping : Body where
  instructions := [⟨0, "nop", none⟩, ⟨4, "nop", none⟩, ⟨8, "ret", none⟩]
  regions := [⟨.loop, 4, 9⟩, ⟨.guarded, 0, 8⟩, ⟨.finalizer, 8, 9⟩]

theorem structuredListing_permuted_overlapping :
    let stored := [⟨.guarded, 0, 8⟩, ⟨.finalizer, 8, 9⟩, ⟨.loop, 4, 9⟩]
    let run := ({} : Session).run .never
    overlapping.regions.Perm stored ∧
      run { overlapping with regions := stored }.structuredListing =
        run overlapping.structuredListing ∧
      (run overlapping.structuredListing).2 =
        some (.layout (.overlapsParent ⟨.loop, 4, 9⟩ ⟨.guarded, 0, 8⟩)) := by
  intro stored run
  have hperm : overlapping.regions.Perm stored := by decide
  have hproper : ∀ region ∈ overlapping.regions, region.start < region.stop := by decide
  have horder : Region.inOpeningOrder overlapping.regions =
      [⟨.guarded, 0, 8⟩, ⟨.loop, 4, 9⟩, ⟨.finalizer, 8, 9⟩] :=
    (Region.inOpeningOrder_eq_of_perm (by decide) (by decide)).trans
      (List.mergeSort_of_pairwise (by decide))
  have hfault : overlapping.nesting.2 =
      some (.overlapsParent ⟨.loop, 4, 9⟩ ⟨.guarded, 0, 8⟩) := by
    rw [nesting_eq_placeAll hproper, horder]
    decide
  have hsame := structuredListing_permuted overlapping stored hproper (by decide) hperm .never {}
  refine ⟨hperm, hsame, ?_⟩
  rw [Session.run_never rfl, fault?_structuredListing, hfault]
  rfl

end Body

end Cil
