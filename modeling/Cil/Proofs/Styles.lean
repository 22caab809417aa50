import Cil.Proofs.Layout
import Cil.Proofs.Traversal

/-!
# The two styles show the same program

The flat listing of an entity never fails. Where the structured one does not fail either, both have
the same lines, apart from their indentation, once the lines that open and close blocks are deleted
from the one and the lines on handlers from the other (`styles_agree`). The two styles part in the
code of method bodies only, so the proof compares the code of one body in both styles and leaves the
rest to `Listing.Congruence`.
-/

namespace Cil

/-! ### Lines without their indentation -/

/-- The spans of a line without the tabs in front. -/
def Span.withoutTabs : List Span → List Span
  | [] => []
  | span :: spans =>
    match span.text.toList.dropWhile (· = '\t') with
    | [] => withoutTabs spans
    | c :: text => { span with text := String.ofList (c :: text) } :: spans

/-- The lines of all roles but one, without the tabs in front. -/
def Row.linesExcept (role : Role) (rows : List Row) : List (List Span) :=
  (rows.filter (·.role ≠ role)).map fun row => Span.withoutTabs row.written

theorem Span.withoutTabs_tabs (token : Token) (depth : Nat) (spans : List Span) :
    withoutTabs (⟨token, String.ofList (List.replicate depth '\t')⟩ :: spans) =
      withoutTabs spans := by
  simp [withoutTabs]

theorem Row.withoutTabs_written (row : Row) :
    Span.withoutTabs row.written = Span.withoutTabs (row.spans.filter (·.text ≠ "")) := by
  rw [row.written_eq]
  split
  · next hnil => rw [hnil]
  · split
    · rfl
    · exact Span.withoutTabs_tabs _ _ _

/-- A run that nobody cancels and without a fault shows the lines of its listing. -/
theorem Session.linesExcept_rows {session : Session} {listing : Listing} (role : Role)
    (hlive : session.cancelled = false) (hfault : listing.fault? = none) :
    Row.linesExcept role (session.rows .never listing) =
      (listing.lines.filter (·.1 ≠ role)).map fun line =>
        Span.withoutTabs (line.2.filter (·.text ≠ "")) := by
  rw [← Session.rows_never hlive hfault, List.filter_map, List.map_map, Row.linesExcept]
  exact List.map_congr_left fun row _ => row.withoutTabs_written

/-! ### Listings that agree -/

/-- The flat listing has no fault, and unless the structured one has one, the two have the same
lines apart from those that belong to one style only. -/
structure Listing.Agree (flat structured : Listing) : Prop where
  fault : flat.fault? = none
  lines : structured.fault? = none →
    structured.lines.filter (·.1 ≠ .bracket) = flat.lines.filter (·.1 ≠ .handler)

namespace Listing

@[simp] theorem fault?_indented (inner : Listing) : fault? (indented inner) = fault? inner := by
  simp [indented]

@[simp] theorem lines_indented (inner : Listing) : lines (indented inner) = lines inner := by
  simp [indented]

theorem Agree.of_eq {listing : Listing} (hfault : listing.fault? = none)
    (hroles : ∀ line ∈ listing.lines, line.1 ≠ .bracket ∧ line.1 ≠ .handler) :
    Agree listing listing := by
  refine ⟨hfault, fun _ => ?_⟩
  rw [List.filter_eq_self.2 fun line hline => by simpa using (hroles line hline).1,
    List.filter_eq_self.2 fun line hline => by simpa using (hroles line hline).2]

theorem congruence_agree : Congruence Agree where
  nil := .of_eq rfl (by simp)
  append := by
    intro a a' b b' ha hb
    refine ⟨by simp [ha.fault, hb.fault], fun hfault => ?_⟩
    rw [fault?_append, Option.or_eq_none_iff] at hfault
    rw [lines_append, lines_append, List.filter_append, List.filter_append, ha.lines hfault.1,
      hb.lines hfault.2]
  checkpoint := .of_eq rfl (by simp)
  header spans _ := .of_eq rfl (by simp)
  detail := by
    rintro _ ⟨spans, rfl, -⟩
    exact .of_eq rfl (by simp)
  indented := by
    intro a a' h
    refine ⟨by simpa using h.fault, fun hfault => ?_⟩
    rw [lines_indented, lines_indented]
    exact h.lines (by simpa using hfault)

theorem congruence_eq : Congruence Eq where
  nil := rfl
  append := by rintro a _ b _ rfl rfl; rfl
  checkpoint := rfl
  header _ _ := rfl
  detail _ _ := rfl
  indented := by rintro a _ rfl; rfl

end Listing

/-! ### The code of a body -/

namespace Mark

theorem lines_listing_placed (index : Nat) (instructions : List Instruction) :
    (listing index (instructions.map .placed)).lines =
      instructions.map fun instruction => (.instruction, instruction.spans) := by
  induction instructions generalizing index with
  | nil => rfl
  | cons instruction instructions ih =>
    rw [List.map_cons, listing, Listing.lines_append, ih, Instruction.listing]
    split <;> simp

/-- Apart from the lines of the blocks, the lines of marks are those of the instructions placed. -/
theorem lines_listing (index : Nat) (marks : List Mark) :
    (listing index marks).lines.filter (·.1 ≠ .bracket) =
      (placements marks).map fun instruction => (.instruction, instruction.spans) := by
  induction marks generalizing index with
  | nil => rfl
  | cons mark marks ih =>
    cases mark with
    | opened region =>
      obtain ⟨opening, heq, hopening⟩ := region.openingListing_eq
      have hbrackets : region.openingListing.lines.filter (·.1 ≠ .bracket) = [] := by
        rw [heq]
        rcases hopening with rfl | rfl <;> simp
      rw [listing, Listing.lines_append, List.filter_append, hbrackets, List.nil_append, ih]
      rfl
    | closed region =>
      rw [listing, Listing.lines_append, List.filter_append, ih]
      simp [Region.closingListing, placements]
    | placed instruction =>
      rw [listing, Listing.lines_append, List.filter_append, ih, placements_placed,
        Instruction.listing]
      split <;> simp

end Mark

namespace Body

variable {body : Body}

theorem lines_handlerListing (body : Body) :
    body.handlerListing.lines.filter (·.1 ≠ .handler) = [] := by
  rw [List.filter_eq_nil_iff]
  intro line hline
  obtain ⟨item, hitem, hline⟩ := List.mem_filterMap.1 hline
  obtain ⟨guarded, -, hitem⟩ := List.mem_flatMap.1 hitem
  obtain ⟨handler, -, rfl⟩ := List.mem_map.1 hitem
  obtain rfl := Option.some.inj hline
  simp

theorem fault?_handlerListing (body : Body) : body.handlerListing.fault? = none := by
  rw [Listing.fault?, List.findSome?_eq_none_iff]
  intro item hitem
  obtain ⟨guarded, -, hitem⟩ := List.mem_flatMap.1 hitem
  obtain ⟨handler, -, rfl⟩ := List.mem_map.1 hitem
  rfl

theorem placements_nesting (h : body.nesting.2 = none) :
    Mark.placements body.nesting.1 = body.instructions := by
  obtain ⟨-, hplace⟩ := nesting_eq_of_fault h
  rw [hplace] at h ⊢
  exact placements_placeAll h

theorem agree_code (body : Body) : Listing.Agree (body.code .flat) (body.code .structured) := by
  refine ⟨?_, fun hfault => ?_⟩
  · simp [code, flatListing, fault?_handlerListing]
  · have hnesting : body.nesting.2 = none := by simpa [code] using hfault
    calc
      (body.code .structured).lines.filter (·.1 ≠ .bracket)
      _ = body.instructions.map fun instruction => (.instruction, instruction.spans) := by
          rw [code, structuredListing_eq hnesting, Mark.lines_listing,
            placements_nesting hnesting]
      _ = (body.code .flat).lines.filter (·.1 ≠ .handler) := by
          rw [code, flatListing, Listing.lines_append, List.filter_append, lines_handlerListing,
            Mark.lines_listing_placed, List.append_nil, List.filter_eq_self.2]
          intro line hline
          obtain ⟨instruction, -, rfl⟩ := List.mem_map.1 hline
          simp

theorem placeAll_nil (instructions : List Instruction) :
    placeAll [] [] instructions = (instructions.map .placed, none) := by
  induction instructions with
  | nil => rfl
  | cons instruction instructions ih =>
    rw [placeAll_cons rfl]
    simp [Opening.next, Opening.at_nil, ih]

/-- Without regions the two styles are the same. -/
theorem code_eq_of_regions (h : body.regions = []) : body.code .flat = body.code .structured := by
  have hnesting : body.nesting = (body.instructions.map .placed, none) := by
    rw [nesting, h]
    simpa [Region.inOpeningOrder] using placeAll_nil body.instructions
  have hhandlers : body.handlerListing = [] := by
    rw [handlerListing, h]
    rfl
  rw [code, code, flatListing, structuredListing, hnesting, hhandlers]
  rfl

end Body

/-! ### The two styles of an entity -/

/-- Without cancellation the flat rendering of an entity succeeds. If the structured one does too,
then its lines, less those that open and close blocks, are the lines of the flat one less those on
handlers, up to indentation. Where no body has regions, the two renderings are the same. -/
theorem styles_agree (full : Bool) (entity : Entity) :
    (∀ style, ((Language.disassembly style).render full .never false entity).1.written =
      ((Language.disassembly style).rows full .never false entity).flatMap Row.calls) ∧
    ((Language.disassembly .flat).render full .never false entity).2 = none ∧
    (((Language.disassembly .structured).render full .never false entity).2 = none →
      Row.linesExcept .bracket ((Language.disassembly .structured).rows full .never false entity) =
        Row.linesExcept .handler ((Language.disassembly .flat).rows full .never false entity)) ∧
    ((∀ method ∈ entity.methods full, ∀ body ∈ method.body, body.regions = []) →
      (Language.disassembly .structured).render full .never false entity =
        (Language.disassembly .flat).render full .never false entity) := by
  have hagree : Listing.Agree (entity.listing .flat full) (entity.listing .structured full) :=
    Listing.congruence_agree.entity fun method _ =>
      Listing.congruence_agree.method fun body _ =>
        Listing.congruence_agree.body body.agree_code
  refine ⟨fun style => Language.written_render .., ?_, fun hrender => ?_, fun hregions => ?_⟩
  · rw [Language.render_disassembly, Session.run_never rfl, hagree.fault]
    rfl
  · rw [Language.render_disassembly, Session.run_never rfl, Option.map_eq_none_iff] at hrender
    rw [Language.rows_disassembly, Language.rows_disassembly,
      Session.linesExcept_rows .bracket rfl hrender,
      Session.linesExcept_rows .handler rfl hagree.fault, hagree.lines hrender]
  · have heq : entity.listing .flat full = entity.listing .structured full :=
      Listing.congruence_eq.entity fun method hmethod =>
        Listing.congruence_eq.method fun body hbody =>
          Listing.congruence_eq.body (Body.code_eq_of_regions (hregions method hmethod body hbody))
    rw [Language.render_disassembly, Language.render_disassembly, heq]

/-- A body with a protected block and its handler, stored in the other order. -/
def guardedBody : Body where
  instructions := [⟨0, "nop", none⟩, ⟨2, "leave", some (.target 6)⟩, ⟨4, "endfinally", none⟩,
    ⟨6, "ret", none⟩]
  regions := [⟨.finalizer, 4, 6⟩, ⟨.guarded, 0, 4⟩]

def guardedMethod : Method where
  name := "Run"
  body := some guardedBody

/-- A type with an accessor and with a method in a nested type, whose bodies have no regions. -/
def plainType : TypeDef where
  name := "Outer"
  events := [{
    name := "Changed"
    type := .ofName "System" "Action"
    adder := some { name := "add_Changed", body := some { instructions := [⟨0, "ret", none⟩] } } }]
  nestedTypes := [{
    name := "Inner"
    methods := [{ name := "Run", body := some { instructions := [⟨0, "ret", none⟩] } }] }]

theorem styles_agree_guarded :
    ((Language.disassembly .structured).render false .never false (.method guardedMethod)).2 =
      none ∧
    Row.linesExcept .bracket
        ((Language.disassembly .structured).rows false .never false (.method guardedMethod)) =
      Row.linesExcept .handler
        ((Language.disassembly .flat).rows false .never false (.method guardedMethod)) ∧
    (∀ method ∈ (Entity.type plainType).methods false, ∀ body ∈ method.body, body.regions = []) ∧
    (Language.disassembly .structured).render false .never false (.type plainType) =
      (Language.disassembly .flat).render false .never false (.type plainType) := by
  have hrender : ((Language.disassembly .structured).render false .never false
      (.method guardedMethod)).2 = none := by
    have hnesting : guardedBody.nesting.2 = none :=
      (Body.nesting_eq_none_iff (by decide)).2 (by decide)
    have hlocals : guardedBody.localsListing = [] := rfl
    have hfault : (guardedMethod.listing .structured).fault? = none := by
      simp [Method.listing, guardedMethod, Listing.block, Listing.opening, Listing.closing,
        Listing.single, Body.listing_eq, Listing.blank, Body.code, hlocals, hnesting]
    rw [Language.render_disassembly, Session.run_never rfl]
    exact congrArg (Option.map RenderError.layout) hfault
  have hregions : ∀ method ∈ (Entity.type plainType).methods false, ∀ body ∈ method.body,
      body.regions = [] := by decide
  exact ⟨hrender, (styles_agree false (.method guardedMethod)).2.2.1 hrender, hregions,
    (styles_agree false (.type plainType)).2.2.2 hregions⟩

end Cil
