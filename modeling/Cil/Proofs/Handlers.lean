import Mathlib.Data.List.Nodup
import Cil.Proofs.Composition
import Cil.Proofs.Digits
import Cil.Proofs.Selection

/-!
# Handlers in flat listings

Below its instructions a flat listing names, for every protected block, the handlers that follow it
without a gap. They are found one after the other, each by a search that starts where the last one
ends. As a handler with an empty range is passed over, every turn moves forward, so there are no
more turns than handlers, whatever the regions are, and what has been found in the end is the one
chain that cannot be continued (`handlers_exact`). The lines can be read back: each gives both
ranges and the kind of the handler (`TellsHandler`).

A chain does not end with the last handler of its own block, though. If a handler starts where the
chains of two blocks have come to, both go on with it and it is named for both. This is the only way
for a handler to be named twice (`handlers_once_iff`), and it happens to a block that is enclosed in
another one together with its handler (`handlers_shared`).
-/

namespace Cil

/-! ### Searching for one handler -/

/-- The region is a handler with a range that starts at the offset and is not empty. -/
def Region.HandlesAt (offset : Nat) (region : Region) : Prop :=
  region.isHandler = true ∧ region.start = offset ∧ region.start < region.stop

instance (offset : Nat) : DecidablePred (Region.HandlesAt offset) :=
  fun _ => inferInstanceAs (Decidable (_ ∧ _ ∧ _))

section

variable {regions : List Region} {offset : Nat} {handler : Region}

theorem handlerAt?_eq_find? (regions : List Region) (offset : Nat) :
    handlerAt? regions offset = regions.find? (Region.HandlesAt offset) := by
  unfold handlerAt?
  congr 1
  funext region
  rw [Bool.eq_iff_iff, decide_eq_true_iff]
  simp [Region.HandlesAt, and_assoc]

theorem handlerAt?_eq_some_iff :
    handlerAt? regions offset = some handler ↔
      IsFirst (Region.HandlesAt offset) regions handler := by
  rw [handlerAt?_eq_find?, find?_eq_some_iff_isFirst]

theorem handlerAt?_eq_none_iff :
    handlerAt? regions offset = none ↔ ∀ region ∈ regions, ¬ region.HandlesAt offset := by
  rw [handlerAt?_eq_find?, List.find?_eq_none]
  simp

theorem handlersFrom_of_none (h : handlerAt? regions offset = none) :
    handlersFrom regions offset = [] := by
  rw [handlersFrom]
  split
  · rfl
  · simp_all

theorem handlersFrom_of_some (h : handlerAt? regions offset = some handler) :
    handlersFrom regions offset = handler :: handlersFrom regions handler.stop := by
  rw [handlersFrom]
  split <;> simp_all

end

/-! ### One turn after another -/

/-- Turns of the search from an offset on: each handler is found where the one before it ends. -/
inductive HandlerRun (regions : List Region) : Nat → List Region → Prop where
  | done (offset : Nat) : HandlerRun regions offset []
  | turn {offset : Nat} {handler : Region} {handlers : List Region} :
      handlerAt? regions offset = some handler → HandlerRun regions handler.stop handlers →
        HandlerRun regions offset (handler :: handlers)

/-- Where handlers that follow each other from an offset on end. -/
def stopAfter (offset : Nat) : List Region → Nat
  | [] => offset
  | handler :: handlers => stopAfter handler.stop handlers

namespace HandlerRun

variable {regions handlers : List Region} {offset : Nat} {handler : Region}

theorem lt_stop (h : HandlerRun regions offset handlers) :
    ∀ handler ∈ handlers, offset < handler.stop := by
  induction h with
  | done offset => simp
  | turn hfound _ ih =>
    obtain ⟨-, hstart, hlt⟩ := handlerAt?_eq_some hfound
    intro other hother
    rcases List.mem_cons.1 hother with rfl | hother
    · omega
    · have := ih other hother
      omega

theorem pairwise_stop (h : HandlerRun regions offset handlers) :
    handlers.Pairwise (·.stop < ·.stop) := by
  induction h with
  | done offset => exact .nil
  | turn _ hrest ih => exact List.pairwise_cons.2 ⟨hrest.lt_stop, ih⟩

theorem nodup (h : HandlerRun regions offset handlers) : handlers.Nodup :=
  h.pairwise_stop.imp fun hlt heq => absurd (congrArg Region.stop heq) (Nat.ne_of_lt hlt)

theorem subset (h : HandlerRun regions offset handlers) :
    handlers ⊆ regions.filter Region.isHandler := by
  induction h with
  | done offset => exact List.nil_subset _
  | turn hfound _ ih =>
    have hfirst := handlerAt?_eq_some_iff.1 hfound
    exact List.cons_subset.2 ⟨List.mem_filter.2 ⟨hfirst.mem, hfirst.holds.1⟩, ih⟩

theorem length_le (h : HandlerRun regions offset handlers) :
    handlers.length ≤ (regions.filter Region.isHandler).length :=
  h.nodup.length_le_of_subset h.subset

theorem iff_isFirst :
    HandlerRun regions offset handlers ↔
      ∀ before handler after, handlers = before ++ handler :: after →
        IsFirst (Region.HandlesAt (stopAfter offset before)) regions handler := by
  constructor
  · intro h
    induction h with
    | done offset => simp
    | turn hfound _ ih =>
      intro before handler after hsplit
      cases before with
      | nil =>
        obtain ⟨rfl, -⟩ := List.cons.inj hsplit
        exact handlerAt?_eq_some_iff.1 hfound
      | cons first before =>
        obtain ⟨rfl, hrest⟩ := List.cons.inj hsplit
        exact ih before handler after hrest
  · intro h
    induction handlers generalizing offset with
    | nil => exact .done offset
    | cons first handlers ih =>
      refine .turn (handlerAt?_eq_some_iff.2 (h [] first handlers rfl)) (ih ?_)
      intro before handler after hsplit
      exact h (first :: before) handler after (by rw [hsplit]; rfl)

/-- A run with nothing left to find is what the search gives. -/
theorem eq_handlersFrom (h : HandlerRun regions offset handlers)
    (hlast : handlerAt? regions (stopAfter offset handlers) = none) :
    handlers = handlersFrom regions offset := by
  induction h with
  | done offset => exact (handlersFrom_of_none hlast).symm
  | turn hfound _ ih => rw [handlersFrom_of_some hfound, ← ih hlast]

theorem exists_before (h : HandlerRun regions offset handlers) (hmem : handler ∈ handlers) :
    handlerAt? regions offset = some handler ∨
      ∃ region ∈ handlers, handlerAt? regions region.stop = some handler := by
  induction h with
  | done offset => cases hmem
  | @turn offset first handlers hfound _ ih =>
    rcases List.mem_cons.1 hmem with rfl | hmem
    · exact .inl hfound
    · rcases ih hmem with hnext | ⟨region, hregion, hnext⟩
      · exact .inr ⟨first, List.mem_cons_self, hnext⟩
      · exact .inr ⟨region, List.mem_cons_of_mem _ hregion, hnext⟩

end HandlerRun

/-! ### Chains of handlers -/

/-- The handlers that follow an offset without a gap: each is the first stored one that starts where
those before it end, none comes twice, and none could follow the last. -/
structure HandlerChain (regions : List Region) (offset : Nat) (chain : List Region) : Prop where
  found : ∀ before handler after, chain = before ++ handler :: after →
    IsFirst (Region.HandlesAt (stopAfter offset before)) regions handler
  nodup : chain.Nodup
  maximal : ∀ region ∈ regions, ¬ region.HandlesAt (stopAfter offset chain)

section

variable {regions chain : List Region} {offset : Nat} {guarded handler region other : Region}

theorem handlerRun_handlersFrom (regions : List Region) (offset : Nat) :
    HandlerRun regions offset (handlersFrom regions offset) := by
  fun_induction handlersFrom regions offset with
  | case1 offset hnone => exact .done offset
  | case2 offset handler hfound _ ih => exact .turn hfound ih

theorem handlerAt?_stopAfter (regions : List Region) (offset : Nat) :
    handlerAt? regions (stopAfter offset (handlersFrom regions offset)) = none := by
  fun_induction handlersFrom regions offset with
  | case1 offset hnone => exact hnone
  | case2 offset handler hfound _ ih => exact ih

theorem handlerChain_iff :
    HandlerChain regions offset chain ↔ chain = handlersFrom regions offset := by
  constructor
  · intro h
    exact (HandlerRun.iff_isFirst.2 h.found).eq_handlersFrom (handlerAt?_eq_none_iff.2 h.maximal)
  · rintro rfl
    have hrun := handlerRun_handlersFrom regions offset
    exact ⟨HandlerRun.iff_isFirst.1 hrun, hrun.nodup,
      handlerAt?_eq_none_iff.1 (handlerAt?_stopAfter regions offset)⟩

theorem handlersFrom_subset (h : region ∈ handlersFrom regions offset) :
    handlersFrom regions region.stop ⊆ handlersFrom regions offset := by
  fun_induction handlersFrom regions offset with
  | case1 offset hnone => cases h
  | case2 offset handler hfound _ ih =>
    rcases List.mem_cons.1 h with rfl | h
    · exact List.subset_cons_self _ _
    · exact List.Subset.trans (ih h) (List.subset_cons_self _ _)

/-- A handler is in the chain of a block if it is found at the end of the block or of a handler in
the chain. -/
theorem mem_handlersFrom_iff :
    handler ∈ handlersFrom regions guarded.stop ↔
      ∃ region ∈ guarded :: handlersFrom regions guarded.stop,
        handlerAt? regions region.stop = some handler := by
  constructor
  · intro h
    rcases (handlerRun_handlersFrom regions guarded.stop).exists_before h with
      hfound | ⟨region, hregion, hfound⟩
    · exact ⟨guarded, List.mem_cons_self, hfound⟩
    · exact ⟨region, List.mem_cons_of_mem _ hregion, hfound⟩
  · rintro ⟨region, hregion, hfound⟩
    have hmem : handler ∈ handlersFrom regions region.stop := by
      rw [handlersFrom_of_some hfound]
      exact List.mem_cons_self
    rcases List.mem_cons.1 hregion with rfl | hregion
    · exact hmem
    · exact handlersFrom_subset hregion hmem

theorem eq_of_stop_eq (hregion : region ∈ guarded :: handlersFrom regions guarded.stop)
    (hother : other ∈ guarded :: handlersFrom regions guarded.stop)
    (hstop : region.stop = other.stop) : region = other := by
  have hrun := handlerRun_handlersFrom regions guarded.stop
  have hpairwise : (guarded :: handlersFrom regions guarded.stop).Pairwise (·.stop < ·.stop) :=
    List.pairwise_cons.2 ⟨hrun.lt_stop, hrun.pairwise_stop⟩
  have hnodup : ((guarded :: handlersFrom regions guarded.stop).map Region.stop).Nodup :=
    List.pairwise_map.2 (hpairwise.imp Nat.ne_of_lt)
  exact List.inj_on_of_nodup_map hnodup hregion hother hstop

end

/-! ### The lines for handlers -/

/-- The line as it stood in the listing. -/
def Row.item (row : Row) : Item := .line row.role row.spans

/-- A listing of nothing but lines is written as it is, cancelled or not. -/
theorem Session.rows_of_lines (watch : Watch) (session : Session) {listing : Listing}
    (h : ∀ item ∈ listing, ∃ role spans, item = .line role spans) :
    (session.run watch listing).2 = none ∧ (session.rows watch listing).map Row.item = listing := by
  induction listing generalizing session with
  | nil => exact ⟨rfl, rfl⟩
  | cons item listing ih =>
    obtain ⟨⟨role, spans, rfl⟩, hlisting⟩ := List.forall_mem_cons.1 h
    obtain ⟨hended, hrows⟩ :=
      ih (session.callAll watch (lineCalls session.depth spans)) hlisting
    refine ⟨hended, ?_⟩
    rw [rows, List.map_cons, hrows]
    rfl

/-! ### What the line for a handler tells -/

namespace Span

/-- The offsets that the labels on a line stand for. -/
def offsets? (spans : List Span) : Option (List Nat) :=
  (spans.filter (·.token = .label)).mapM fun span => Hex.readLabel? span.text

/-- The keywords on a line. -/
def keywords (spans : List Span) : List String :=
  (spans.filter (·.token = .keyword)).map Span.text

end Span

/-- The keyword for a kind of handler. -/
def RegionKind.handlerWord? : RegionKind → Option String
  | loop | guarded => none
  | catching _ => some "catch "
  | finalizer => some "finally "
  | fault => some "fault "
  | filter => some "filter "

/-- The line gives the range of the protected block, the range of the handler and its kind, and the
type of the exceptions if it catches some. -/
structure TellsHandler (guarded handler : Region) (spans : List Span) : Prop where
  ranges : Span.offsets? spans =
    some [guarded.start, guarded.stop, handler.start, handler.stop]
  kind : Span.keywords spans = " to " :: handler.kind.handlerWord?.toList ++ ["handler ", " to "]
  exception : ∀ exception, handler.kind = .catching exception →
    exception.qualifiedSpans <:+: spans

theorem TypeRef.filter_qualifiedSpans (ref : TypeRef) {token : Token}
    (h : token ∉ [Token.typeName, Token.text]) :
    ref.qualifiedSpans.filter (·.token = token) = [] := by
  refine List.filter_eq_nil_iff.2 fun span hspan heq => h ?_
  rw [← of_decide_eq_true heq]
  exact token_of_mem_qualifiedSpans hspan

namespace RegionKind

theorem filter_label_handlerSpans (kind : RegionKind) :
    kind.handlerSpans.filter (·.token = .label) = [] := by
  cases kind with
  | catching exception => simp [handlerSpans, exception.filter_qualifiedSpans]
  | _ => rfl

theorem keywords_handlerSpans (kind : RegionKind) :
    Span.keywords kind.handlerSpans = kind.handlerWord?.toList := by
  cases kind with
  | catching exception =>
    simp [Span.keywords, handlerSpans, handlerWord?, exception.filter_qualifiedSpans]
  | _ => rfl

end RegionKind

theorem tellsHandler_of_eq_handlerLine {guarded handler : Region} {role : Role}
    {spans : List Span} (h : .line role spans = handlerLine guarded handler) :
    TellsHandler guarded handler spans := by
  obtain ⟨-, rfl⟩ := Item.line.inj h
  refine ⟨?_, ?_, fun exception hkind => ?_⟩
  · simp [Span.offsets?, Region.rangeSpans, handler.kind.filter_label_handlerSpans,
      Hex.readLabel?_label]
  · have hkeywords := handler.kind.keywords_handlerSpans
    simp only [Span.keywords] at hkeywords
    simp [Span.keywords, Region.rangeSpans, hkeywords]
  · have hname : exception.qualifiedSpans <:+: handler.kind.handlerSpans := by
      rw [hkind]
      exact ⟨[⟨.keyword, "catch "⟩], [⟨.text, " "⟩], rfl⟩
    exact hname.trans (List.infix_append _ _ _)

namespace Body

/-- Which handlers are listed for which protected blocks. -/
def handled (body : Body) : List (Region × Region) :=
  (body.regions.filter (·.kind = .guarded)).flatMap fun guarded =>
    (handlersFrom body.regions guarded.stop).map (guarded, ·)

theorem handlerListing_eq (body : Body) :
    body.handlerListing =
      body.handled.map fun (guarded, handler) => handlerLine guarded handler := by
  simp [handlerListing, handled, List.map_flatMap, Function.comp_def]

theorem map_snd_handled (body : Body) :
    body.handled.map Prod.snd =
      (body.regions.filter (·.kind = .guarded)).flatMap fun guarded =>
        handlersFrom body.regions guarded.stop := by
  simp [handled, List.map_flatMap, Function.comp_def]

theorem mem_handled {body : Body} {guarded handler : Region} :
    (guarded, handler) ∈ body.handled ↔
      guarded ∈ body.regions.filter (·.kind = .guarded) ∧
        handler ∈ handlersFrom body.regions guarded.stop := by
  simp [handled]

theorem rows_flatListing (body : Body) (watch : Watch) (session : Session) :
    ((session.rows watch body.flatListing).filter (·.role = .handler)).map Row.item =
      if (session.run watch body.flatListing).2 = none then body.handlerListing else [] := by
  have hinstructions : ((session.rows watch (Mark.listing 0 (body.instructions.map .placed))).filter
      (·.role = .handler)) = [] := by
    refine List.filter_eq_nil_iff.2 fun row hrow => ?_
    have hline := Session.rows_prefix_lines.subset (List.mem_map_of_mem hrow)
    rw [Mark.lines_listing_placed] at hline
    obtain ⟨instruction, -, heq⟩ := List.mem_map.1 hline
    have hrole : Role.instruction = row.role := congrArg Prod.fst heq
    simp [← hrole]
  have hlines : ∀ item ∈ body.handlerListing, ∃ spans, item = .line .handler spans := by
    intro item hitem
    rw [handlerListing_eq] at hitem
    obtain ⟨⟨guarded, handler⟩, -, rfl⟩ := List.mem_map.1 hitem
    exact ⟨_, rfl⟩
  rw [flatListing, Session.run_append]
  cases hrun : session.run watch (Mark.listing 0 (body.instructions.map .placed)) with
  | mk after stopped =>
    cases stopped with
    | none =>
      obtain ⟨hended, hrows⟩ := Session.rows_of_lines watch after fun item hitem =>
        ⟨.handler, hlines item hitem⟩
      have hroles : (after.rows watch body.handlerListing).filter (·.role = .handler) =
          after.rows watch body.handlerListing := by
        refine List.filter_eq_self.2 fun row hrow => ?_
        have hitem : row.item ∈ body.handlerListing := by
          rw [← hrows]
          exact List.mem_map_of_mem hrow
        obtain ⟨spans, heq⟩ := hlines _ hitem
        exact decide_eq_true (Item.line.inj heq).1
      rw [Session.rows_append (by rw [hrun]), List.filter_append, hinstructions, hrun, hroles]
      simp [hended, hrows]
    | some error =>
      rw [Session.rows_append_of_stopped (by rw [hrun]; simp), hinstructions]
      simp

/-- The lines on handlers in a flat listing that is not stopped tell the handlers that are listed,
one by one. -/
theorem forall₂_tellsHandler {body : Body} {watch : Watch} {session : Session}
    (hended : (session.run watch body.flatListing).2 = none) :
    List.Forall₂ (fun row entry => TellsHandler entry.1 entry.2 row.spans)
      ((session.rows watch body.flatListing).filter (·.role = .handler)) body.handled := by
  have hitems := body.rows_flatListing watch session
  rw [if_pos hended, handlerListing_eq, ← List.forall₂_eq_eq_eq, List.forall₂_map_left_iff,
    List.forall₂_map_right_iff] at hitems
  exact hitems.imp fun _ _ heq => tellsHandler_of_eq_handlerLine heq

/-- Whatever the regions of a body are, the search for handlers makes at most as many turns as there
are handlers, and it gives the one chain that follows an offset. Unless it is cancelled on the way,
the flat listing has a line for each handler in the chain that follows a protected block, block by
block; and if it is cancelled it has none. The line tells the ranges and the kind of the handler.
What is recorded are the lines of the run, with as many tabs as they are deep. -/
theorem handlers_exact (body : Body) :
    (∀ offset handlers, HandlerRun body.regions offset handlers →
      handlers.length ≤ (body.regions.filter Region.isHandler).length) ∧
    (∀ offset chain, HandlerChain body.regions offset chain ↔
      chain = handlersFrom body.regions offset) ∧
    ∀ (watch : Watch) (session : Session),
      (((session.rows watch body.flatListing).filter (·.role = .handler)).map Row.item =
        if (session.run watch body.flatListing).2 = none then
          (body.regions.filter (·.kind = .guarded)).flatMap fun guarded =>
            (handlersFrom body.regions guarded.stop).map (handlerLine guarded)
        else []) ∧
      ((session.run watch body.flatListing).2 = none →
        List.Forall₂ (fun row entry => TellsHandler entry.1 entry.2 row.spans)
          ((session.rows watch body.flatListing).filter (·.role = .handler))
          ((body.regions.filter (·.kind = .guarded)).flatMap fun guarded =>
            (handlersFrom body.regions guarded.stop).map (guarded, ·))) ∧
      (session.AtLineStart →
        (session.run watch body.flatListing).1.lines =
          session.lines ++ (session.rows watch body.flatListing).map Row.recorded) := by
  refine ⟨fun _ _ => HandlerRun.length_le, fun _ _ => handlerChain_iff, fun watch session => ?_⟩
  exact ⟨body.rows_flatListing watch session, forall₂_tellsHandler,
    fun hstart => hstart.lines_run_recorded watch body.flatListing⟩

/-! ### Handlers of two blocks -/

variable {body : Body}

/-- The protected blocks and the handlers that are listed for them. -/
def listed (body : Body) : List Region :=
  body.regions.filter (·.kind = .guarded) ++ body.handled.map Prod.snd

/-- No handler starts where two different listed regions end. -/
def HandlersApart (body : Body) : Prop :=
  ∀ a ∈ body.listed, ∀ b ∈ body.listed, a.stop = b.stop →
    (∃ handler ∈ body.regions, handler.HandlesAt a.stop) → a = b

instance (body : Body) : Decidable body.HandlersApart :=
  inferInstanceAs (Decidable (∀ a ∈ _, ∀ b ∈ _, _ → _ → _))

theorem mem_listed {region : Region} :
    region ∈ body.listed ↔ ∃ guarded ∈ body.regions.filter (·.kind = .guarded),
      region ∈ guarded :: handlersFrom body.regions guarded.stop := by
  rw [listed, map_snd_handled, List.mem_append, List.mem_flatMap]
  constructor
  · rintro (hregion | ⟨guarded, hguarded, hregion⟩)
    · exact ⟨region, hregion, List.mem_cons_self⟩
    · exact ⟨guarded, hguarded, List.mem_cons_of_mem _ hregion⟩
  · rintro ⟨guarded, hguarded, hregion⟩
    rcases List.mem_cons.1 hregion with rfl | hregion
    · exact .inl hguarded
    · exact .inr ⟨guarded, hguarded, hregion⟩

theorem notMem_handlersFrom {region : Region} {offset : Nat}
    (h : region ∈ body.regions.filter (·.kind = .guarded)) :
    region ∉ handlersFrom body.regions offset := by
  intro hmem
  have hhandler := (List.mem_filter.1 ((handlerRun_handlersFrom _ _).subset hmem)).2
  have hkind : region.kind = .guarded := of_decide_eq_true (List.mem_filter.1 h).2
  rw [Region.isHandler, hkind] at hhandler
  cases hhandler

/-- Where handlers are apart, a handler is in the chain of one block only. -/
theorem HandlersApart.guarded_eq (h : body.HandlersApart) {a b handler : Region}
    (ha : a ∈ body.regions.filter (·.kind = .guarded))
    (hb : b ∈ body.regions.filter (·.kind = .guarded))
    (hmemA : handler ∈ handlersFrom body.regions a.stop)
    (hmemB : handler ∈ handlersFrom body.regions b.stop) : a = b := by
  -- along both chains back from the handler, as far as they are the same
  induction hstart : handler.start using Nat.strongRecOn generalizing handler with
  | _ start ih =>
    obtain ⟨x, hx, hfoundX⟩ := mem_handlersFrom_iff.1 hmemA
    obtain ⟨y, hy, hfoundY⟩ := mem_handlersFrom_iff.1 hmemB
    have hfirst := handlerAt?_eq_some_iff.1 hfoundX
    obtain ⟨-, hstartX, -⟩ := hfirst.holds
    obtain ⟨-, hstartY, -⟩ := (handlerAt?_eq_some_iff.1 hfoundY).holds
    have heq : x = y :=
      h x (mem_listed.2 ⟨a, ha, hx⟩) y (mem_listed.2 ⟨b, hb, hy⟩) (hstartX.symm.trans hstartY)
        ⟨handler, hfirst.mem, hfirst.holds⟩
    subst heq
    rcases List.mem_cons.1 hx with hxa | hx
    · rcases List.mem_cons.1 hy with hyb | hy
      · rw [← hxa, hyb]
      · exact absurd hy (notMem_handlersFrom (hxa ▸ ha))
    · rcases List.mem_cons.1 hy with hyb | hy
      · exact absurd hx (notMem_handlersFrom (hyb ▸ hb))
      · obtain ⟨region, -, hfound⟩ := mem_handlersFrom_iff.1 hx
        obtain ⟨-, -, hlt⟩ := (handlerAt?_eq_some_iff.1 hfound).holds
        exact ih x.start (by omega) hx hy rfl

theorem HandlersApart.of_nodup (h : (body.handled.map Prod.snd).Nodup) : body.HandlersApart := by
  intro a ha b hb hstop ⟨region, hregion, hat⟩
  obtain ⟨handler, hfound⟩ : ∃ handler, handlerAt? body.regions a.stop = some handler := by
    refine Option.ne_none_iff_exists'.1 fun hnone => ?_
    exact handlerAt?_eq_none_iff.1 hnone region hregion hat
  obtain ⟨first, hfirst, ha⟩ := mem_listed.1 ha
  obtain ⟨second, hsecond, hb⟩ := mem_listed.1 hb
  have hmemA : (first, handler) ∈ body.handled :=
    mem_handled.2 ⟨hfirst, mem_handlersFrom_iff.2 ⟨a, ha, hfound⟩⟩
  have hmemB : (second, handler) ∈ body.handled :=
    mem_handled.2 ⟨hsecond, mem_handlersFrom_iff.2 ⟨b, hb, hstop ▸ hfound⟩⟩
  have heq : first = second := congrArg Prod.fst (List.inj_on_of_nodup_map h hmemA hmemB rfl)
  subst heq
  exact eq_of_stop_eq ha hb hstop

theorem HandlersApart.nodup (h : body.HandlersApart) (hregions : body.regions.Nodup) :
    (body.handled.map Prod.snd).Nodup := by
  rw [map_snd_handled, List.nodup_flatMap]
  refine ⟨fun guarded _ => (handlerRun_handlersFrom _ _).nodup, ?_⟩
  refine (hregions.filter _).imp_of_mem fun ha hb hne handler hmemA hmemB => hne ?_
  exact h.guarded_eq ha hb hmemA hmemB

/-- If no region is stored twice, no handler has more than one line in the flat listing exactly if
no handler starts where two of the regions named in these lines end. The lines tell the ranges and
the kinds of the handlers, and they are recorded with as many tabs as they are deep. -/
theorem handlers_once_iff (body : Body) (hregions : body.regions.Nodup) (session : Session)
    (hlive : session.cancelled = false) :
    ((session.rows .never body.flatListing).filter (·.role = .handler)).map Row.item =
        body.handled.map (fun (guarded, handler) => handlerLine guarded handler) ∧
      ((body.handled.map Prod.snd).Nodup ↔ body.HandlersApart) ∧
      List.Forall₂ (fun row entry => TellsHandler entry.1 entry.2 row.spans)
        ((session.rows .never body.flatListing).filter (·.role = .handler)) body.handled ∧
      (session.AtLineStart →
        (session.run .never body.flatListing).1.lines =
          session.lines ++ (session.rows .never body.flatListing).map Row.recorded) := by
  have hended : (session.run .never body.flatListing).2 = none := by
    rw [Session.run_never hlive, flatListing]
    simp [fault?_handlerListing]
  refine ⟨?_, ⟨.of_nodup, fun h => h.nodup hregions⟩, forall₂_tellsHandler hended,
    fun hstart => hstart.lines_run_recorded .never body.flatListing⟩
  rw [rows_flatListing, if_pos hended, handlerListing_eq]

/-- Two protected blocks, one inside the other; between the handler of the inner one and the end of
the outer one there is an instruction. -/
def gapped : Body where
  instructions := [⟨0, "nop", none⟩, ⟨2, "pop", none⟩, ⟨4, "nop", none⟩, ⟨6, "endfinally", none⟩]
  regions := [⟨.guarded, 0, 6⟩, ⟨.finalizer, 6, 8⟩, ⟨.guarded, 0, 2⟩, ⟨.fault, 2, 4⟩]

theorem handlers_once_gapped :
    gapped.regions.Nodup ∧ gapped.HandlersApart ∧ (gapped.handled.map Prod.snd).Nodup ∧
      gapped.handled.length = 2 := by
  have hapart : gapped.HandlersApart := by decide +kernel
  have hregions : gapped.regions.Nodup := by decide
  exact ⟨hregions, hapart, (handlers_once_iff gapped hregions {} rfl).2.1.2 hapart,
    by decide +kernel⟩

/-- A protected block with its handler, both enclosed in a second block that ends with that
handler. -/
def enclosed : Body where
  instructions := [⟨0, "leave", some (.target 6)⟩, ⟨2, "leave", some (.target 6)⟩,
    ⟨4, "endfinally", none⟩, ⟨6, "ret", none⟩]
  regions := [⟨.guarded, 0, 4⟩, ⟨.guarded, 0, 2⟩, ⟨.catching (.ofName "System" "Exception"), 2, 4⟩,
    ⟨.finalizer, 4, 6⟩]

/-- The regions have ranges of their own and are nested, and yet the handler of the outer block is
listed for the inner one too. -/
theorem handlers_shared :
    (∀ region ∈ enclosed.regions, region.start < region.stop) ∧
    enclosed.regions.Pairwise (fun a b => ¬ (a.start = b.start ∧ a.stop = b.stop)) ∧
    (∀ a ∈ enclosed.regions, ∀ b ∈ enclosed.regions,
      a.stop ≤ b.start ∨ b.stop ≤ a.start ∨ a.Within b ∨ b.Within a) ∧
    ((({} : Session).rows .never enclosed.flatListing).filter (·.role = .handler)).map
        (fun row => Span.plain row.spans) =
      [".try IL_0000 to IL_0004 finally handler IL_0004 to IL_0006",
        ".try IL_0000 to IL_0002 catch System.Exception handler IL_0002 to IL_0004",
        ".try IL_0000 to IL_0002 finally handler IL_0004 to IL_0006"] := by
  refine ⟨by decide, by decide, by decide, ?_⟩
  decide +kernel

end Body

end Cil
