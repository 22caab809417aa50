import Cil.Proofs.Nesting
import Cil.Proofs.Traversal

/-!
# Blocks are closed

Whatever a session is asked to list, one request after another, and whenever it is cancelled: it
never steps out of a block that it is not in, it ends every request at the start of a line, and it
closes the blocks that it opens, unless the request fails or is cancelled. Then its depth tells how
many are left open (`blocks_balanced`).

`Listing.Safe` follows the depth and the open blocks through a listing, as a condition on what holds
at its end, so that conditions of listings are put together along `++` (`safe_append`). A listing is
`Balanced` if it can stand anywhere. `Session.run_safe` takes the step from a listing to what is
written.
-/

namespace Cil

/-- The blocks that are open, innermost first, with the tabs of the lines that opened them. -/
abbrev OpenBlocks := List (Fence × Nat)

/-! ### Listings and the blocks in them -/

namespace Listing

/-- Carried out at a depth inside some blocks, the listing steps out of no depth of zero and closes
no block but the innermost one. Wherever it can stop, the session is deeper than `base` by the
blocks that are open, and at the end `after` holds of the depth and the blocks. -/
def Safe (base : Nat) (after : Nat → OpenBlocks → Prop) : Listing → Nat → OpenBlocks → Prop
  | [], depth, blocks => after depth blocks
  | .line _ spans :: listing, depth, blocks =>
    Span.Flush spans ∧ ∃ blocks', Fence.read depth (Span.content spans) blocks = some blocks' ∧
      Safe base after listing depth blocks'
  | .enter :: listing, depth, blocks => Safe base after listing (depth + 1) blocks
  | .leave :: listing, depth, blocks => 0 < depth ∧ Safe base after listing (depth - 1) blocks
  | .checkpoint :: listing, depth, blocks =>
    depth = base + blocks.length ∧ Safe base after listing depth blocks
  | .fail _ :: _, depth, blocks => depth = base + blocks.length

variable {base : Nat} {after : Nat → OpenBlocks → Prop}

theorem safe_append (first second : Listing) (depth : Nat) (blocks : OpenBlocks) :
    Safe base after (first ++ second) depth blocks ↔
      Safe base (Safe base after second) first depth blocks := by
  induction first generalizing depth blocks with
  | nil => exact Iff.rfl
  | cons item first ih =>
    cases item with
    | line role spans => simp only [List.cons_append, Safe, ih]
    | enter => exact ih _ _
    | leave => exact and_congr_right fun _ => ih _ _
    | checkpoint => exact and_congr_right fun _ => ih _ _
    | fail fault => exact Iff.rfl

theorem safe_unframed {role : Role} {spans : List Span} (h : Span.Unframed spans)
    {listing : Listing} {depth : Nat} {blocks : OpenBlocks}
    (hrest : Safe base after listing depth blocks) :
    Safe base after (.line role spans :: listing) depth blocks :=
  ⟨h.1, blocks, h.read depth blocks, hrest⟩

/-- The listing is safe wherever it may stand, and leaves the depth and the open blocks as they
were. -/
def Balanced (listing : Listing) : Prop :=
  ∀ (base : Nat) (after : Nat → OpenBlocks → Prop) (depth : Nat) (blocks : OpenBlocks),
    depth = base + blocks.length → after depth blocks → Safe base after listing depth blocks

namespace Balanced

theorem nil : Balanced [] := fun _ _ _ _ _ hafter => hafter

theorem append {first second : Listing} (hfirst : Balanced first) (hsecond : Balanced second) :
    Balanced (first ++ second) := by
  intro base after depth blocks hdepth hafter
  rw [safe_append]
  exact hfirst base _ depth blocks hdepth (hsecond base after depth blocks hdepth hafter)

theorem checkpoint : Balanced [.checkpoint] := fun _ _ _ _ hdepth hafter => ⟨hdepth, hafter⟩

theorem line {role : Role} {spans : List Span} (h : Span.Unframed spans) :
    Balanced [.line role spans] :=
  fun _ _ _ _ _ hafter => safe_unframed h hafter

theorem of_items {items : Listing} (hitems : ∀ item ∈ items, Balanced [item]) : Balanced items :=
  @refl_of_items (fun listing _ => Balanced listing) nil (fun h h' => h.append h') items hitems

theorem indented {items : Listing} (hitems : ∀ item ∈ items, item.IsPlain) :
    Balanced (Listing.indented items) := by
  intro base after depth blocks _ hafter
  -- plain lines never stop a run, so the depth need not fit the blocks in between
  have hlines : Safe base after (items ++ [.leave]) (depth + 1) blocks := by
    induction items with
    | nil => exact ⟨Nat.succ_pos depth, hafter⟩
    | cons item items ih =>
      obtain ⟨⟨spans, rfl, -, hunframed, -⟩, hrest⟩ := List.forall_mem_cons.1 hitems
      exact safe_unframed hunframed (ih hrest)
  exact hlines

theorem block (comment : String) {inner : Listing} (h : Balanced inner) :
    Balanced (Listing.block comment inner) := by
  intro base after depth blocks hdepth hafter
  have hclosing : Span.content (⟨.text, "\x7d"⟩ ::
      if comment = "" then [] else [⟨.comment, " // " ++ comment⟩]) =
        '\x7d' :: Span.content (if comment = "" then [] else [⟨.comment, " // " ++ comment⟩]) :=
    Span.content_cons .text "\x7d" _
  have hclosed : Safe base after ([.leave] ++ [closing comment]) (depth + 1)
      ((.braces, depth) :: blocks) := by
    refine ⟨Nat.succ_pos depth, ?_, blocks, ?_, hafter⟩
    · rw [Span.Flush, hclosing]
      simp
    · rw [hclosing]
      simp [Fence.read, Fence.opened?, Fence.closed?]
  have hinner : Safe base after (inner ++ ([.leave] ++ [closing comment])) (depth + 1)
      ((.braces, depth) :: blocks) := by
    rw [safe_append]
    exact h base _ _ _ (by simp [hdepth]; omega) hclosed
  rw [← List.append_assoc] at hinner
  exact ⟨by decide, (.braces, depth) :: blocks, rfl, hinner⟩

end Balanced

theorem congruence_balanced : BlockCongruence fun listing _ => Balanced listing where
  nil := Balanced.nil
  append hfirst hsecond := hfirst.append hsecond
  checkpoint := Balanced.checkpoint
  header spans hspans _ :=
    Balanced.checkpoint.append (Balanced.line (Span.unframed_of_startEntity hspans))
  plain := by
    rintro _ ⟨spans, rfl, -, hunframed, -⟩
    exact Balanced.line hunframed
  indented _ hitems := Balanced.indented hitems
  block comment _ _ h := h.block comment

end Listing

/-! ### The code of a body -/

open Listing (Safe Balanced)

namespace Region

def fence (region : Region) : Fence :=
  match region.kind with
  | .loop => .loop
  | _ => .braces

/-- Regions as open blocks, of which the outermost is opened at the given depth. -/
def blocks (depth : Nat) : List Region → OpenBlocks
  | [] => []
  | region :: outer => (region.fence, depth + outer.length) :: blocks depth outer

theorem length_blocks (depth : Nat) (regions : List Region) :
    (blocks depth regions).length = regions.length := by
  induction regions with
  | nil => rfl
  | cons region outer ih => simp [blocks, ih]

variable {base depth : Nat} {after : Nat → OpenBlocks → Prop} {open' : OpenBlocks}
  {listing : Listing}

theorem safe_openingListing (region : Region)
    (h : Safe base after listing (depth + 1) ((region.fence, depth) :: open')) :
    Safe base after (region.openingListing ++ listing) depth open' := by
  obtain ⟨kind, start, stop⟩ := region
  cases kind with
  | loop =>
    have hcontent : Span.content [⟨.comment, "// loop start (head: " ++ Hex.label start ++ ")"⟩] =
        "// loop start".toList ++ (" (head: " ++ Hex.label start ++ ")").toList := by
      simp [Span.content]
    refine ⟨?_, (.loop, depth) :: open', ?_, h⟩
    · rw [openingSpans, Span.Flush, hcontent]
      simp
    · rw [openingSpans, hcontent]
      simp [Fence.read, Fence.opened?]
  | _ =>
    have hbrace : Safe base after ([.line .bracket [⟨.text, "\x7b"⟩], .enter] ++ listing) depth
        open' := ⟨by decide, (.braces, depth) :: open', rfl, h⟩
    exact Listing.safe_unframed (Span.unframed_cons rfl) hbrace

theorem safe_closingListing (region : Region) (h : Safe base after listing depth open') :
    Safe base after (region.closingListing ++ listing) (depth + 1)
      ((region.fence, depth) :: open') := by
  have hspans : Span.Flush region.closingSpans ∧
      Fence.opened? (Span.content region.closingSpans) = none ∧
      Fence.closed? (Span.content region.closingSpans) = some region.fence := by
    unfold closingSpans fence
    cases region.kind <;> dsimp only <;> decide
  obtain ⟨hflush, hopened, hclosed⟩ := hspans
  refine ⟨Nat.succ_pos depth, hflush, open', ?_, h⟩
  simp [Fence.read, hopened, hclosed]

end Region

theorem Instruction.balanced_listing (index : Nat) (instruction : Instruction) :
    Balanced (instruction.listing index) := by
  have hline : Balanced [.line .instruction instruction.spans] :=
    Balanced.line (Span.unframed_cons (by simp [Hex.label]))
  unfold Instruction.listing
  split
  · exact Balanced.checkpoint.append hline
  · exact hline

section

variable {base depth index : Nat} {after : Nat → OpenBlocks → Prop} {open' : OpenBlocks}
  {rest : Listing}

theorem Mark.safe_closed (closed stack : List Region) (marks : List Mark)
    (h : Safe base after (listing index marks ++ rest) (depth + stack.length)
      (Region.blocks depth stack ++ open')) :
    Safe base after (listing index (closed.map .closed ++ marks) ++ rest)
      (depth + (closed ++ stack).length) (Region.blocks depth (closed ++ stack) ++ open') := by
  induction closed with
  | nil => exact h
  | cons region closed ih =>
    rw [List.map_cons, List.cons_append, listing, List.append_assoc]
    exact region.safe_closingListing ih

theorem Mark.safe_opened (opened stack : List Region) (marks : List Mark)
    (h : Safe base after (listing index marks ++ rest) (depth + (opened.reverse ++ stack).length)
      (Region.blocks depth (opened.reverse ++ stack) ++ open')) :
    Safe base after (listing index (opened.map .opened ++ marks) ++ rest) (depth + stack.length)
      (Region.blocks depth stack ++ open') := by
  induction opened generalizing stack with
  | nil => exact h
  | cons region opened ih =>
    rw [List.reverse_cons, List.append_assoc] at h
    rw [List.map_cons, List.cons_append, listing, List.append_assoc]
    exact region.safe_openingListing (ih (region :: stack) h)

/-- Whether it ends or meets a fault, placing instructions closes a region only as the innermost
one. Nothing is asked of the offsets. -/
theorem safe_placeAll (hdepth : depth = base + open'.length) (hafter : after depth open')
    (stack pending : List Region) (instructions : List Instruction) :
    Safe base after
      (Mark.listing index (placeAll stack pending instructions).1 ++
        ((placeAll stack pending instructions).2.map Item.fail).toList)
      (depth + stack.length) (Region.blocks depth stack ++ open') := by
  have hstop : ∀ stack : List Region,
      depth + stack.length = base + (Region.blocks depth stack ++ open').length := by
    intro stack
    rw [List.length_append, Region.length_blocks]
    omega
  induction instructions generalizing index stack pending with
  | nil =>
    cases pending with
    | nil =>
      have hclosed : Safe base after (Mark.listing index (stack.map .closed ++ []) ++ [])
          (depth + (stack ++ []).length) (Region.blocks depth (stack ++ []) ++ open') :=
        Mark.safe_closed stack [] [] hafter
      simpa [placeAll_nil_nil] using hclosed
    | cons region pending => exact hstop stack
  | cons instruction instructions ih =>
    have hstack : (stack.takeWhile fun region => region.stop ≤ instruction.offset) ++
        stack.dropWhile (fun region => region.stop ≤ instruction.offset) = stack :=
      List.takeWhile_append_dropWhile
    have hnext := Opening.next_stack instruction.offset stack pending
    -- what ends is closed and what begins is opened, whatever comes then
    have hbefore : ∀ (marks : List Mark) (rest : Listing),
        Safe base after (Mark.listing index marks ++ rest)
          (depth + (Opening.next instruction.offset stack pending).stack.length)
          (Region.blocks depth (Opening.next instruction.offset stack pending).stack ++ open') →
        Safe base after (Mark.listing index
          ((stack.takeWhile fun region => region.stop ≤ instruction.offset).map .closed ++
            (Opening.next instruction.offset stack pending).opened.map .opened ++ marks) ++ rest)
          (depth + stack.length) (Region.blocks depth stack ++ open') := by
      intro marks rest h
      rw [hnext] at h
      have hopened := Mark.safe_opened _ _ _ h
      have hclosed := Mark.safe_closed
        (stack.takeWhile fun region => region.stop ≤ instruction.offset) _ _ hopened
      rwa [hstack, ← List.append_assoc] at hclosed
    by_cases hfault : (Opening.next instruction.offset stack pending).fault = none
    · rw [placeAll_cons hfault]
      refine hbefore _ _ ?_
      rw [Mark.listing, List.append_assoc, Listing.safe_append]
      exact instruction.balanced_listing index base _ _ _ (hstop _) (ih _ _)
    · obtain ⟨fault, hfault⟩ := Option.ne_none_iff_exists'.1 hfault
      have hstopped := hbefore [] [.fail fault] (hstop _)
      rw [List.append_nil] at hstopped
      rw [placeAll_cons_of_fault instructions hfault]
      exact hstopped

end

namespace Body

theorem balanced_flatListing (body : Body) : Balanced body.flatListing := by
  have hinstructions : ∀ (instructions : List Instruction) (index : Nat),
      Balanced (Mark.listing index (instructions.map .placed)) := by
    intro instructions
    induction instructions with
    | nil => exact fun _ => Balanced.nil
    | cons instruction instructions ih =>
      intro index
      exact (instruction.balanced_listing index).append (ih (index + 1))
  have hhandlers : Balanced body.handlerListing := by
    refine Balanced.of_items fun item hitem => ?_
    obtain ⟨guarded, -, hitem⟩ := List.mem_flatMap.1 hitem
    obtain ⟨handler, -, rfl⟩ := List.mem_map.1 hitem
    exact Balanced.line (Span.unframed_cons rfl)
  exact (hinstructions _ 0).append hhandlers

theorem balanced_structuredListing (body : Body) : Balanced body.structuredListing := by
  intro base after depth blocks hdepth hafter
  unfold structuredListing nesting
  split
  · exact hdepth
  · exact safe_placeAll hdepth hafter [] _ _

theorem balanced_code (style : BodyStyle) (body : Body) : Balanced (body.code style) := by
  cases style with
  | flat => exact body.balanced_flatListing
  | structured => exact body.balanced_structuredListing

end Body

theorem Method.balanced_listing (style : BodyStyle) (method : Method) :
    Balanced (method.listing style) :=
  @Listing.BlockCongruence.method _ Listing.congruence_balanced style style method fun body _ =>
    @Listing.BlockCongruence.body _ Listing.congruence_balanced style style body
      (body.balanced_code style)

/-! ### Requests -/

/-- What a session can be asked to list. -/
inductive Request where
  | references (module : Module)
  | manifest (manifest : Manifest)
  | moduleHeader (module : Module)
  | contents (module : Module)
  | space (name : String) (types : List TypeDef)
  | type (type : TypeDef)
  | method (method : Method)
  | field (field : Field)
  /-- A property without the bodies of its accessors. -/
  | property (property : Property)
  /-- An event without the bodies of its accessors. -/
  | event (event : Event)

namespace Request

def listing (style : BodyStyle) : Request → Listing
  | references m => m.referenceListing
  | manifest m => m.listing
  | moduleHeader m => m.headerListing
  | contents m => m.contentListing style
  | space name types => TypeDef.namespaceListing style name types
  | type t => t.listing style
  | method m => m.listing style
  | field f => f.listing
  | property p => p.listing
  | event e => e.listing

theorem balanced_listing (style : BodyStyle) (request : Request) :
    Balanced (request.listing style) := by
  have hR := Listing.congruence_balanced
  have hmethod : ∀ method : Method, Balanced (method.listing style) := fun method =>
    method.balanced_listing style
  cases request with
  | references m =>
    exact @Listing.BlockCongruence.flatMap _ hR _ _ AssemblyRef.listing _
      fun reference _ => hR.reference reference
  | manifest m => exact hR.manifest m
  | moduleHeader m => exact hR.moduleHeader m
  | contents m =>
    exact @Listing.BlockCongruence.content _ hR style style m fun method _ => hmethod method
  | space name types =>
    exact @Listing.BlockCongruence.space _ hR style style name types fun method _ => hmethod method
  | type t => exact @Listing.BlockCongruence.type _ hR style style t fun method _ => hmethod method
  | method m => exact hmethod m
  | field f => exact hR.field f
  | property p => exact hR.property p
  | event e => exact hR.event e

end Request

/-! ### Runs -/

namespace Session

section

variable (watch : Watch) {session : Session} {listing : Listing} {base : Nat}
  {after : Nat → OpenBlocks → Prop} {blocks : OpenBlocks}

/-- A run of a safe listing closes blocks as they were opened. If it stops before the end, its depth
tells how many are open. -/
theorem run_safe (h : Listing.Safe base after listing session.depth blocks) :
    ∃ blocks', Line.readBlocks blocks ((session.rows watch listing).map Row.line) = some blocks' ∧
      ((session.run watch listing).2 = none → after (session.run watch listing).1.depth blocks') ∧
      ((session.run watch listing).2 ≠ none →
        (session.run watch listing).1.depth = base + blocks'.length) := by
  induction listing generalizing session blocks with
  | nil => exact ⟨blocks, rfl, fun _ => h, fun hstopped => absurd rfl hstopped⟩
  | cons item listing ih =>
    cases item with
    | line role spans =>
      obtain ⟨hflush, blocks', hread, hrest⟩ := h
      have hline : Line.readBlock blocks (Row.line ⟨session.depth, role, spans⟩) = some blocks' :=
        (@Row.readBlock_line ⟨session.depth, role, spans⟩ hflush blocks).trans hread
      have hrest' : Listing.Safe base after listing
          (session.callAll watch (lineCalls session.depth spans)).depth blocks' := by
        rwa [depth_callAll]
      obtain ⟨last, hblocks, hend⟩ := ih hrest'
      refine ⟨last, ?_, hend⟩
      rw [rows, List.map_cons, Line.readBlocks, List.foldlM_cons, hline]
      exact hblocks
    | enter => exact ih h
    | leave => exact ih h.2
    | checkpoint =>
      rw [run, rows]
      split
      · exact ⟨blocks, rfl, by simp, fun _ => h.1⟩
      · exact ih h.2
    | fail fault => exact ⟨blocks, rfl, by simp [run], fun _ => h⟩

/-- A run of a balanced listing ends as deep as it starts, or deeper by the blocks that are open
where it stops. -/
theorem run_balanced (h : listing.Balanced) :
    ∃ opened, Line.readBlocks [] ((session.rows watch listing).map Row.line) = some opened ∧
      (session.run watch listing).1.depth = session.depth + opened.length ∧
      ((session.run watch listing).2 = none → opened = []) := by
  have hsafe := h session.depth (fun depth blocks => depth = session.depth ∧ blocks = [])
    session.depth [] rfl ⟨rfl, rfl⟩
  obtain ⟨opened, hread, hend, hstop⟩ := run_safe watch hsafe
  refine ⟨opened, hread, ?_, fun hended => (hend hended).2⟩
  by_cases hended : (session.run watch listing).2 = none
  · obtain ⟨hdepth, rfl⟩ := hend hended
    exact hdepth
  · exact hstop hended

/-- Where a run of a safe listing steps out of a depth, that depth is not zero. -/
theorem depth_pos_of_safe {first rest : Listing}
    (h : Listing.Safe base after (first ++ .leave :: rest) session.depth blocks)
    (hreached : (session.run watch first).2 = none) :
    0 < (session.run watch first).1.depth := by
  rw [Listing.safe_append] at h
  obtain ⟨blocks', -, hend, -⟩ := run_safe watch h
  exact (hend hreached).1

end

/-- One step of working with a session: something is asked for, or the session is cancelled from
outside. -/
inductive Step where
  | list (request : Request)
  | cancel

/-- A fresh session after some steps. -/
def after (style : BodyStyle) (watch : Watch) (steps : List Step) : Session :=
  steps.foldl (fun session step =>
    match step with
    | .list request => (session.run watch (request.listing style)).1
    | .cancel => { session with cancelled := true }) {}

theorem atLineStart_after (style : BodyStyle) (watch : Watch) (steps : List Step) :
    (Session.after style watch steps).AtLineStart := by
  suffices hsteps : ∀ session : Session, session.AtLineStart →
      (steps.foldl (fun session step =>
        match step with
        | .list request => (session.run watch (request.listing style)).1
        | .cancel => { session with cancelled := true }) session).AtLineStart from
    hsteps {} (atLineStart_nil 0 false)
  induction steps with
  | nil => exact fun _ h => h
  | cons step steps ih =>
    intro session h
    cases step with
    | list request => exact ih _ (h.run watch _)
    | cancel => exact ih _ h

end Session

/-! ### Sessions -/

/-- After any steps, what is asked for next never steps out of a depth of zero and ends at the start
of a line. It adds lines that close only the innermost block and at the tabs at which it was opened.
The session is then deeper by the blocks that they leave open, and they leave none open unless there
was an error. -/
theorem blocks_balanced (style : BodyStyle) (watch : Watch) (steps : List Session.Step)
    (request : Request) :
    let session := Session.after style watch steps
    let outcome := session.run watch (request.listing style)
    (∀ first rest, request.listing style = first ++ .leave :: rest →
      (session.run watch first).2 = none → 0 < (session.run watch first).1.depth) ∧
    outcome.1.AtLineStart ∧
    ∃ added opened, outcome.1.lines = session.lines ++ added ∧
      Line.readBlocks [] added = some opened ∧
      outcome.1.depth = session.depth + opened.length ∧
      (outcome.2 = none → opened = []) := by
  intro session outcome
  have hstart : session.AtLineStart := Session.atLineStart_after style watch steps
  have hbalanced := request.balanced_listing style
  refine ⟨fun first rest heq hreached => ?_, hstart.run watch _, ?_⟩
  · have hsafe := hbalanced session.depth (fun _ _ => True) session.depth [] rfl trivial
    rw [heq] at hsafe
    exact Session.depth_pos_of_safe watch hsafe hreached
  · obtain ⟨opened, hread, hdepth, hended⟩ := Session.run_balanced watch hbalanced
    exact ⟨_, opened, hstart.lines_run watch _, hread, hdepth, hended⟩

/-- A method whose body cannot be shown in blocks. -/
def faultyMethod : Method where
  name := "Bad"
  body := some { instructions := [⟨0, "ret", none⟩], regions := [⟨.loop, 4, 4⟩] }

/-- After a method that fails inside its block, a property is listed one tab deeper and closes its
own block. -/
theorem blocks_balanced_after_fault :
    let session := Session.after .structured .never [.list (.method faultyMethod)]
    let outcome := session.run .never
      (Request.listing .structured (.property { name := "P", type := .void }))
    session.depth = 1 ∧ outcome.2 = none ∧ outcome.1.depth = 1 ∧ outcome.1.AtLineStart ∧
      ∃ added, outcome.1.lines = session.lines ++ added ∧ Line.readBlocks [] added = some [] := by
  intro session outcome
  have hdepth : session.depth = 1 := by decide +kernel
  have hended : outcome.2 = none := by decide +kernel
  obtain ⟨-, hstart, added, opened, hlines, hread, houter, hopened⟩ := blocks_balanced .structured
    .never [.list (.method faultyMethod)] (.property { name := "P", type := .void })
  obtain rfl := hopened hended
  exact ⟨hdepth, hended, houter.trans hdepth, hstart, added, hlines, hread⟩

end Cil
