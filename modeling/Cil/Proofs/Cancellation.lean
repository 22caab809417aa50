import Cil.Proofs.Styles

/-!
# Cancelled runs

Cancellation only truncates: whatever makes the watch cancel a run, its calls are a prefix of those
of the run that nobody cancels, and a run that does not end with `cancelled` is that run
(`cancelled_truncates`). It is also noticed soon: after the line at which a run is cancelled no
entity is begun and at most `checkpointStride` instructions are written (`cancelled_promptly`). The
second is a property of the places where the checkpoints of a listing stand, which is
`Listing.Paced`.
-/

namespace Cil

/-! ### Cancellation truncates -/

namespace Session

variable (watch : Watch)

/-- A run writes the first rows of the run that nobody cancels, and all of them unless it ends
cancelled. -/
theorem rows_truncated {session free : Session} (hdepth : session.depth = free.depth)
    (hlive : free.cancelled = false) (listing : Listing) :
    session.rows watch listing <+: free.rows .never listing ∧
      ((session.run watch listing).2 = some .cancelled ∨
        (session.run watch listing).2 = (free.run .never listing).2 ∧
          session.rows watch listing = free.rows .never listing) := by
  induction listing generalizing session free with
  | nil => exact ⟨List.prefix_refl _, .inr ⟨rfl, rfl⟩⟩
  | cons item listing ih =>
    cases item with
    | line role spans =>
      simp only [run, rows, hdepth]
      have hdepth' : (session.callAll watch (lineCalls free.depth spans)).depth =
          (free.callAll .never (lineCalls free.depth spans)).depth := by simpa using hdepth
      obtain ⟨hbegin, hend⟩ := ih hdepth' (by simpa using hlive)
      refine ⟨List.cons_prefix_cons.2 ⟨rfl, hbegin⟩, hend.imp_right ?_⟩
      rintro ⟨hresult, hrows⟩
      exact ⟨hresult, by rw [hrows]⟩
    | enter => exact ih (congrArg (· + 1) hdepth) hlive
    | leave => exact ih (congrArg (· - 1) hdepth) hlive
    | checkpoint =>
      -- the free run goes on at every checkpoint, so the runs part here or not at all
      simp only [run, rows, hlive]
      split
      · exact ⟨List.nil_prefix, .inl rfl⟩
      · exact ih hdepth hlive
    | fail fault => exact ⟨List.prefix_refl _, .inr ⟨rfl, rfl⟩⟩

end Session

/-- However an entity is cancelled while it is rendered, the calls made are a prefix of those made
without cancellation, and all of them with the same result unless the result is `cancelled`. Without
cancellation the result never is. -/
theorem cancelled_truncates (style : BodyStyle) (full : Bool) (watch : Watch) (cancelled : Bool)
    (entity : Entity) :
    ((Language.disassembly style).render full watch cancelled entity).1.written <+:
      ((Language.disassembly style).render full .never false entity).1.written ∧
    (((Language.disassembly style).render full watch cancelled entity).2 = some .cancelled ∨
      ((Language.disassembly style).render full watch cancelled entity).2 =
          ((Language.disassembly style).render full .never false entity).2 ∧
        ((Language.disassembly style).render full watch cancelled entity).1.written =
          ((Language.disassembly style).render full .never false entity).1.written) ∧
    ((Language.disassembly style).render full .never false entity).2 ≠ some .cancelled := by
  have hdepth : ({ cancelled } : Session).depth = ({} : Session).depth := rfl
  obtain ⟨⟨later, hlater⟩, hend⟩ :=
    Session.rows_truncated watch hdepth rfl (entity.listing style full)
  rw [Language.written_render, Language.written_render, Language.rows_disassembly,
    Language.rows_disassembly]
  refine ⟨⟨later.flatMap Row.calls, ?_⟩, hend.imp_right ?_, ?_⟩
  · rw [← List.flatMap_append, hlater]
  · rintro ⟨hresult, hrows⟩
    exact ⟨hresult, by rw [hrows]⟩
  · rw [Language.render_disassembly, Session.run_never rfl]
    cases (entity.listing style full).fault? <;> simp

/-! ### Where checkpoints stand -/

/-- Neither a checkpoint nor a line that begins an entity or is an instruction. -/
def Item.IsQuiet : Item → Prop
  | .checkpoint => False
  | .line role spans => role ≠ .instruction ∧ Span.startEntity spans = false
  | _ => True

theorem Item.IsDetail.isQuiet {item : Item} (h : item.IsDetail) : item.IsQuiet := by
  obtain ⟨spans, rfl, hspans⟩ := h
  exact ⟨by simp, hspans⟩

namespace Listing

/-- Entities begin only right after a checkpoint, or at once if the listing is `fresh`. At most
`room` instructions come before the first checkpoint, and at most `checkpointStride` between two. -/
def Paced (fresh : Bool) (room : Nat) : Listing → Prop
  | [] => True
  | .checkpoint :: listing => Paced true checkpointStride listing
  | .line role spans :: listing =>
    (Span.startEntity spans = true → fresh = true) ∧ (role = .instruction → 0 < room) ∧
      Paced false (if role = .instruction then room - 1 else room) listing
  | _ :: listing => Paced fresh room listing

namespace Paced

variable {fresh : Bool} {room : Nat} {listing : Listing}

theorem mono (h : Paced false room listing) {room' : Nat} (hroom : room ≤ room') :
    Paced fresh room' listing := by
  induction listing generalizing fresh room room' with
  | nil => trivial
  | cons item listing ih =>
    cases item with
    | line role spans =>
      obtain ⟨hstart, hinstruction, hrest⟩ := h
      refine ⟨fun hspans => absurd (hstart hspans) (by simp), fun hrole => ?_, ih hrest ?_⟩
      · have := hinstruction hrole
        omega
      · split <;> omega
    | checkpoint => exact h
    | enter => exact ih h hroom
    | leave => exact ih h hroom
    | fail fault => exact ih h hroom

theorem append {second : Listing} (h : Paced fresh room listing) (hsecond : Paced false 0 second) :
    Paced fresh room (listing ++ second) := by
  induction listing generalizing fresh room with
  | nil => exact hsecond.mono (Nat.zero_le _)
  | cons item listing ih =>
    cases item with
    | line role spans => exact ⟨h.1, h.2.1, ih h.2.2⟩
    | checkpoint => exact ih h
    | enter => exact ih h
    | leave => exact ih h
    | fail fault => exact ih h

theorem quiet_append {quiet : Listing} (hquiet : ∀ item ∈ quiet, item.IsQuiet)
    (h : Paced false room listing) : Paced false room (quiet ++ listing) := by
  induction quiet with
  | nil => exact h
  | cons item quiet ih =>
    obtain ⟨hitem, hquiet'⟩ := List.forall_mem_cons.1 hquiet
    have hrest := ih hquiet'
    cases item with
    | line role spans =>
      refine ⟨fun hspans => ?_, fun hrole => absurd hrole hitem.1, ?_⟩
      · rw [hitem.2] at hspans
        cases hspans
      · rw [if_neg hitem.1]
        exact hrest
    | checkpoint => exact hitem.elim
    | enter => exact hrest
    | leave => exact hrest
    | fail fault => exact hrest

end Paced

theorem congruence_paced : Congruence fun listing _ => Paced false 0 listing where
  nil := trivial
  append ha hb := ha.append hb
  checkpoint := trivial
  header spans _ := ⟨fun _ => rfl, by simp, trivial⟩
  detail item hitem := by
    have hnil : Paced false 0 [] := trivial
    have hquiet : ∀ other ∈ [item], other.IsQuiet := by simpa using hitem.isQuiet
    exact hnil.quiet_append hquiet
  indented {a _} h := by
    have hleave : Paced false 0 [.leave] := trivial
    exact Paced.append h hleave

end Listing

/-! ### Checkpoints in a body -/

theorem Region.isQuiet_openingListing (region : Region) :
    ∀ item ∈ region.openingListing, item.IsQuiet := by
  obtain ⟨kind, start, stop⟩ := region
  cases kind <;>
    simp [openingListing, openingSpans, Item.IsQuiet, Span.startEntity, entityDirectives]

theorem Region.isQuiet_closingListing (region : Region) :
    ∀ item ∈ region.closingListing, item.IsQuiet := by
  obtain ⟨kind, start, stop⟩ := region
  cases kind <;> simp [closingListing, closingSpans, Item.IsQuiet, Span.startEntity]

namespace Body

/-- The marks that are listed for a body. -/
def marks (style : BodyStyle) (body : Body) : List Mark :=
  match style with
  | .flat => body.instructions.map .placed
  | .structured => body.nesting.1

theorem placements_marks_prefix (style : BodyStyle) (body : Body) :
    Mark.placements (body.marks style) <+: body.instructions := by
  cases style with
  | flat => simp [marks, Mark.placements_map]
  | structured =>
    rw [marks, nesting]
    split
    · exact List.nil_prefix
    · exact placements_placeAll_prefix

theorem placements_marks {style : BodyStyle} {body : Body}
    (hfault : (body.listing style).fault? = none) :
    Mark.placements (body.marks style) = body.instructions := by
  cases style with
  | flat => exact Mark.placements_map body.instructions
  | structured =>
    rw [listing_eq, Listing.fault?_line, Listing.fault?_append, Option.or_eq_none_iff] at hfault
    exact placements_nesting (by simpa [Listing.blank, code] using hfault.2)

theorem isQuiet_localsListing (body : Body) : ∀ item ∈ body.localsListing, item.IsQuiet := by
  intro item hitem
  rw [localsListing] at hitem
  split at hitem
  · cases hitem
  · simp only [Listing.indented, List.cons_append, List.append_assoc, List.nil_append,
      List.mem_cons, List.mem_append, List.not_mem_nil, or_false] at hitem
    rcases hitem with rfl | rfl | hitem | rfl | rfl
    · exact ⟨by simp, rfl⟩
    · trivial
    · exact (Listing.isPlain_locals body item hitem).isDetail.isQuiet
    · trivial
    · exact ⟨by simp, rfl⟩

/-- What comes in a body before and after its marks is quiet. -/
theorem listing_eq_marks (style : BodyStyle) (body : Body) :
    ∃ before after, body.listing style = before ++ (Mark.listing 0 (body.marks style) ++ after) ∧
      (∀ item ∈ before, item.IsQuiet) ∧ ∀ item ∈ after, item.IsQuiet := by
  obtain ⟨after, hcode, hafter⟩ : ∃ after,
      body.code style = Mark.listing 0 (body.marks style) ++ after ∧
        ∀ item ∈ after, item.IsQuiet := by
    cases style with
    | flat =>
      refine ⟨body.handlerListing, rfl, fun item hitem => ?_⟩
      obtain ⟨guarded, -, hitem⟩ := List.mem_flatMap.1 hitem
      obtain ⟨handler, -, rfl⟩ := List.mem_map.1 hitem
      exact ⟨by simp, rfl⟩
    | structured =>
      refine ⟨(body.nesting.2.map Item.fail).toList, rfl, fun item hitem => ?_⟩
      simp only [Option.mem_toList, Option.map_eq_some_iff] at hitem
      obtain ⟨fault, -, rfl⟩ := hitem
      trivial
  refine ⟨.line .detail [⟨.directive, ".maxstack "⟩, ⟨.literal, body.maxStack.repr⟩] ::
    (body.localsListing ++ [Listing.blank]), after, ?_, ?_, hafter⟩
  · rw [listing_eq, hcode]
    simp
  · simp only [List.mem_cons, List.mem_append, List.not_mem_nil, or_false]
    rintro item (rfl | hitem | rfl)
    · exact ⟨by simp, rfl⟩
    · exact body.isQuiet_localsListing item hitem
    · exact Listing.isPlain_blank.isDetail.isQuiet

end Body

theorem Mark.paced_listing {after : Listing} (hafter : Listing.Paced false 0 after)
    {index room : Nat}
    (hroom : (0 < index ∧ index % checkpointStride = 0) ∨
      checkpointStride ≤ room + index % checkpointStride) (marks : List Mark) :
    Listing.Paced false room (listing index marks ++ after) := by
  -- unless a checkpoint comes next, the room left makes up for the instructions since the last one
  induction marks generalizing index room with
  | nil => exact hafter.mono (Nat.zero_le _)
  | cons mark marks ih =>
    cases mark with
    | opened region =>
      rw [listing, List.append_assoc]
      exact (ih hroom).quiet_append region.isQuiet_openingListing
    | closed region =>
      rw [listing, List.append_assoc]
      exact (ih hroom).quiet_append region.isQuiet_closingListing
    | placed instruction =>
      unfold checkpointStride at hroom
      rw [listing, Instruction.listing]
      split
      · next hcheck =>
        have hnext : (0 < index + 1 ∧ (index + 1) % 64 = 0) ∨ 64 ≤ 63 + (index + 1) % 64 := by
          unfold checkpointStride at hcheck
          omega
        exact ⟨fun _ => rfl, by simp [checkpointStride], ih hnext⟩
      · next hcheck =>
        unfold checkpointStride at hcheck
        have hnext : (0 < index + 1 ∧ (index + 1) % 64 = 0) ∨
            64 ≤ (room - 1) + (index + 1) % 64 := by omega
        exact ⟨by simp [Instruction.spans, Span.startEntity], fun _ => by omega, ih hnext⟩

theorem Body.paced_listing (style : BodyStyle) (body : Body) {after : Listing}
    (hafter : Listing.Paced false 0 after) :
    Listing.Paced false checkpointStride (body.listing style ++ after) := by
  obtain ⟨before, rest, heq, hbefore, hrest⟩ := body.listing_eq_marks style
  rw [heq, List.append_assoc, List.append_assoc]
  refine Listing.Paced.quiet_append hbefore ?_
  exact Mark.paced_listing (hafter.quiet_append hrest) (.inr (Nat.le_add_right _ _)) _

theorem Method.paced_listing (style : BodyStyle) (method : Method) :
    Listing.Paced false 0 (method.listing style) := by
  have hclose : Listing.Paced false 0
      ([.leave] ++ [Listing.closing (endComment "method" method.declaringType method.name)]) :=
    ⟨by simp [Span.startEntity], by simp, trivial⟩
  have hinner : Listing.Paced false checkpointStride
      (method.attributes.map Attribute.item ++ (method.body.elim [] (·.listing style) ++
        ([.leave] ++
          [Listing.closing (endComment "method" method.declaringType method.name)]))) := by
    refine Listing.Paced.quiet_append ?_ ?_
    · exact fun item hitem => (Listing.isPlain_attributes _ item hitem).isDetail.isQuiet
    · cases method.body with
      | none => exact hclose.mono (Nat.zero_le _)
      | some body => exact body.paced_listing style hclose
  rw [← List.append_assoc, ← List.append_assoc] at hinner
  exact ⟨fun _ => rfl, by simp, by simp [Span.startEntity], by simp, hinner⟩

/-- The listing of every entity is paced. -/
theorem Entity.paced_listing (style : BodyStyle) (full : Bool) (entity : Entity) :
    Listing.Paced false 0 (entity.listing style full) :=
  @Listing.Congruence.entity _ Listing.congruence_paced style style full entity
    fun method _ => method.paced_listing style

/-! ### What is written after a cancellation -/

theorem Row.countP_cons_le {depth room : Nat} {role : Role} {spans : List Span} {rows : List Row}
    (hrole : role = .instruction → 0 < room)
    (hrows : rows.countP (·.role = .instruction) ≤
      if role = .instruction then room - 1 else room) :
    (⟨depth, role, spans⟩ :: rows).countP (·.role = .instruction) ≤ room := by
  rw [List.countP_cons]
  split at hrows
  · next h =>
    have := hrole h
    simp only [h, decide_true, if_true]
    omega
  · next h => simpa [h] using hrows

namespace Session

variable {watch : Watch} {session : Session} {room : Nat} {listing : Listing}

/-- Once cancelled, a run begins no entity and writes no more instructions than there is room
for. -/
theorem rows_of_cancelled (hcancelled : session.cancelled = true)
    (hpaced : listing.Paced false room) :
    (∀ row ∈ session.rows watch listing, Span.startEntity row.spans = false) ∧
      (session.rows watch listing).countP (·.role = .instruction) ≤ room := by
  induction listing generalizing session room with
  | nil => simp [rows]
  | cons item listing ih =>
    cases item with
    | line role spans =>
      obtain ⟨hstart, hinstruction, hrest⟩ := hpaced
      have hcancelled' : (session.callAll watch (lineCalls session.depth spans)).cancelled = true :=
        (cancelled_callAll _).2 (.inl hcancelled)
      obtain ⟨hstarts, hcount⟩ := ih hcancelled' hrest
      refine ⟨List.forall_mem_cons.2 ⟨by simpa using hstart, hstarts⟩, ?_⟩
      exact Row.countP_cons_le hinstruction hcount
    | enter => exact ih hcancelled hpaced
    | leave => exact ih hcancelled hpaced
    | checkpoint => simp [rows, hcancelled]
    | fail fault => simp [rows]

/-- After the row at which a run is cancelled no entity is begun, and together with it come no more
than `checkpointStride` instructions. -/
theorem rows_after_cancelled {fresh : Bool} (hpaced : listing.Paced fresh room)
    (hroom : room ≤ checkpointStride) {before after : List Row} {row : Row}
    (hrows : session.rows watch listing = before ++ row :: after)
    (hcancelled :
      (session.callAll watch ((before ++ [row]).flatMap Row.calls)).cancelled = true) :
    (∀ later ∈ after, Span.startEntity later.spans = false) ∧
      (row :: after).countP (·.role = .instruction) ≤ checkpointStride := by
  induction listing generalizing session fresh room before with
  | nil => simp [rows] at hrows
  | cons item listing ih =>
    cases item with
    | line role spans =>
      obtain ⟨hstart, hinstruction, hrest⟩ := hpaced
      rw [rows] at hrows
      cases before with
      | nil =>
        -- the run is cancelled by now, so what is left of the room bounds what follows
        obtain ⟨rfl, rfl⟩ := List.cons.inj hrows
        obtain ⟨hstarts, hcount⟩ := rows_of_cancelled (by simpa [Row.calls] using hcancelled) hrest
        exact ⟨hstarts, Nat.le_trans (Row.countP_cons_le hinstruction hcount) hroom⟩
      | cons first before =>
        obtain ⟨rfl, hrows'⟩ := List.cons.inj hrows
        refine ih hrest ?_ hrows' ?_
        · split <;> omega
        · simpa [Row.calls, callAll_append] using hcancelled
    | enter =>
      -- whether the calls cancel the run does not depend on its depth
      rw [cancelled_callAll] at hcancelled
      exact ih hpaced hroom hrows ((cancelled_callAll _).2 hcancelled)
    | leave =>
      rw [cancelled_callAll] at hcancelled
      exact ih hpaced hroom hrows ((cancelled_callAll _).2 hcancelled)
    | checkpoint =>
      rw [rows] at hrows
      split at hrows
      · simp at hrows
      · exact ih hpaced (Nat.le_refl _) hrows hcancelled
    | fail fault => simp [rows] at hrows

end Session

/-! ### The checkpoints of a body -/

namespace Listing

/-- For each checkpoint of a listing how many instructions come before it, counted from `index`, and
the item that follows. -/
def tests (index : Nat) : Listing → List (Nat × Option Item)
  | [] => []
  | .checkpoint :: listing => (index, listing.head?) :: tests index listing
  | .line role _ :: listing => tests (if role = .instruction then index + 1 else index) listing
  | _ :: listing => tests index listing

theorem tests_quiet_append {quiet : Listing} (hquiet : ∀ item ∈ quiet, item.IsQuiet) (index : Nat)
    (listing : Listing) : tests index (quiet ++ listing) = tests index listing := by
  induction quiet with
  | nil => rfl
  | cons item quiet ih =>
    obtain ⟨hitem, hquiet'⟩ := List.forall_mem_cons.1 hquiet
    have hrest := ih hquiet'
    cases item with
    | line role spans =>
      rw [List.cons_append, tests, if_neg hitem.1]
      exact hrest
    | checkpoint => exact hitem.elim
    | enter => exact hrest
    | leave => exact hrest
    | fail fault => exact hrest

theorem lines_quiet {quiet : Listing} (hquiet : ∀ item ∈ quiet, item.IsQuiet) :
    quiet.lines.filter (·.1 = .instruction) = [] := by
  rw [List.filter_eq_nil_iff]
  intro line hline
  obtain ⟨item, hitem, hline⟩ := List.mem_filterMap.1 hline
  cases item with
  | line role spans =>
    obtain rfl := Option.some.inj hline
    simpa using (hquiet _ hitem).1
  | _ => cases hline

end Listing

theorem Mark.tests_listing {after : Listing} (hafter : ∀ item ∈ after, item.IsQuiet) (index : Nat)
    (marks : List Mark) :
    (listing index marks ++ after).tests index =
      (((placements marks).zipIdx index).filter fun (_, place) =>
        0 < place ∧ place % checkpointStride = 0).map fun (instruction, place) =>
          (place, some (.line .instruction instruction.spans)) := by
  induction marks generalizing index with
  | nil =>
    simpa [listing, Listing.tests, placements] using Listing.tests_quiet_append hafter index []
  | cons mark marks ih =>
    cases mark with
    | opened region =>
      rw [listing, List.append_assoc, Listing.tests_quiet_append region.isQuiet_openingListing]
      exact ih index
    | closed region =>
      rw [listing, List.append_assoc, Listing.tests_quiet_append region.isQuiet_closingListing]
      exact ih index
    | placed instruction =>
      rw [listing, Instruction.listing, placements_placed, List.zipIdx_cons]
      split
      · next hcheck =>
        rw [List.filter_cons_of_pos (by simpa using hcheck), List.map_cons, ← ih]
        rfl
      · next hcheck =>
        rw [List.filter_cons_of_neg (by simpa using hcheck), ← ih]
        rfl

/-- The checkpoints in the listing of a body are right before the instructions whose index is a
multiple of `checkpointStride`, the first instruction apart. -/
theorem Body.tests_listing (style : BodyStyle) (body : Body) :
    (body.listing style).tests 0 =
      ((Mark.placements (body.marks style)).zipIdx.filter fun (_, place) =>
        0 < place ∧ place % checkpointStride = 0).map fun (instruction, place) =>
          (place, some (.line .instruction instruction.spans)) := by
  obtain ⟨before, after, heq, hbefore, hafter⟩ := body.listing_eq_marks style
  rw [heq, Listing.tests_quiet_append hbefore, Mark.tests_listing hafter]

theorem Body.lines_listing (style : BodyStyle) (body : Body) :
    (body.listing style).lines.filter (·.1 = .instruction) =
      (Mark.placements (body.marks style)).map fun instruction =>
        (.instruction, instruction.spans) := by
  obtain ⟨before, after, heq, hbefore, hafter⟩ := body.listing_eq_marks style
  have hmarks : (Mark.listing 0 (body.marks style)).lines.filter (·.1 = .instruction) =
      ((Mark.listing 0 (body.marks style)).lines.filter (·.1 ≠ .bracket)).filter
        (·.1 = .instruction) := by
    rw [List.filter_filter]
    refine List.filter_congr fun line _ => ?_
    by_cases h : line.1 = .instruction <;> simp [h]
  rw [heq, Listing.lines_append, Listing.lines_append, List.filter_append, List.filter_append,
    Listing.lines_quiet hbefore, Listing.lines_quiet hafter, hmarks, Mark.lines_listing]
  simp [List.filter_eq_self]

/-! ### Cancellation is noticed soon -/

/-- A rendering that is cancelled beforehand begins no entity and writes no instruction. From the
row during which a rendering is cancelled on, it begins no further entity and writes at most 64
instructions. In the listing of a body in either style there is a checkpoint right before each
instruction with an index of 64, 128 and so on, and nowhere else. -/
theorem cancelled_promptly (style : BodyStyle) (full : Bool) (watch : Watch) (cancelled : Bool)
    (entity : Entity) :
    ((Language.disassembly style).render full watch cancelled entity).1.written =
      ((Language.disassembly style).rows full watch cancelled entity).flatMap Row.calls ∧
    (cancelled = true → ∀ row ∈ (Language.disassembly style).rows full watch cancelled entity,
      Span.startEntity row.spans = false ∧ row.role ≠ .instruction) ∧
    (∀ before row after,
      (Language.disassembly style).rows full watch cancelled entity = before ++ row :: after →
      (∃ made, made ≠ [] ∧ made <+: (before ++ [row]).flatMap Row.calls ∧
        watch made.reverse = true) →
      (∀ later ∈ after, Span.startEntity later.spans = false) ∧
        (row :: after).countP (·.role = .instruction) ≤ 64) ∧
    ∀ body : Body, ∃ shown, shown <+: body.instructions ∧
      ((body.listing style).fault? = none → shown = body.instructions) ∧
      (body.listing style).lines.filter (·.1 = .instruction) =
        shown.map (fun instruction => (.instruction, instruction.spans)) ∧
      (body.listing style).tests 0 =
        (shown.zipIdx.filter fun (_, index) => 0 < index ∧ index % 64 = 0).map
          fun (instruction, index) => (index, some (.line .instruction instruction.spans)) := by
  have hpaced := entity.paced_listing style full
  refine ⟨Language.written_render .., fun hcancelled row hrow => ?_, ?_, fun body => ?_⟩
  · rw [Language.rows_disassembly] at hrow
    have hsession : ({ cancelled } : Session).cancelled = true := hcancelled
    obtain ⟨hstarts, hcount⟩ := Session.rows_of_cancelled hsession hpaced
    refine ⟨hstarts row hrow, ?_⟩
    simpa using List.countP_eq_zero.1 (Nat.le_zero.1 hcount) row hrow
  · rintro before row after hrows ⟨made, hne, hmade, hwatch⟩
    rw [Language.rows_disassembly] at hrows
    refine Session.rows_after_cancelled hpaced (Nat.zero_le _) hrows ?_
    exact (Session.cancelled_callAll _).2 (.inr ⟨made, hne, hmade, by simpa using hwatch⟩)
  · exact ⟨_, body.placements_marks_prefix style, Body.placements_marks, body.lines_listing style,
      body.tests_listing style⟩

/-- A method of 70 instructions. -/
def longMethod : Method where
  name := "Run"
  body := some { instructions := (List.range 70).map fun offset => ⟨offset, "nop", none⟩ }

/-- Cancelled as soon as a line ends, the long method is left after 64 instructions. A bare module
that is cancelled beforehand is left before its first entity. -/
theorem cancelled_promptly_long :
    (∃ row after,
      (Language.disassembly .flat).rows false (·.head? = some .endLine) false
        (.method longMethod) = row :: after ∧
      Span.startEntity row.spans = true ∧ (∀ later ∈ after, Span.startEntity later.spans = false) ∧
      (row :: after).countP (·.role = .instruction) ≤ 64 ∧
      (row :: after).countP (·.role = .instruction) = 64) ∧
    (Language.disassembly .structured).rows true .never true
      (.assembly { module := { name := "a.netmodule" } }) ≠ [] ∧
    ∀ row ∈ (Language.disassembly .structured).rows true .never true
      (.assembly { module := { name := "a.netmodule" } }),
      Span.startEntity row.spans = false ∧ row.role ≠ .instruction := by
  have hrows : (Language.disassembly .flat).rows false (·.head? = some .endLine) false
      (.method longMethod) = ⟨0, .header, longMethod.headerSpans⟩ ::
        ((Language.disassembly .flat).rows false (·.head? = some .endLine) false
          (.method longMethod)).tail := by decide +kernel
  obtain ⟨hstarts, hcount⟩ := (cancelled_promptly .flat false (·.head? = some .endLine) false
    (.method longMethod)).2.2.1 [] _ _ hrows
      ⟨_, by decide, List.prefix_refl _, by decide +kernel⟩
  exact ⟨⟨_, _, hrows, rfl, hstarts, hcount, by decide +kernel⟩, by decide +kernel,
    (cancelled_promptly .structured true .never true _).2.1 rfl⟩

end Cil
