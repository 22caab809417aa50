import Cil.Proofs.Composition
import Mathlib.Data.List.Forall2

/-!
# The headers in a listing

In the listing of a module every type and every member stands under one header, in the order of
`Module.entities`, and nothing else is tagged like a header, whatever the names in the module are
(`headings_exact`).

The proof has two halves. A directive is only ever the first span of a line, so the headers that a
sink records can be told from the first spans of the lines (`Row.filter_line`). And the lines that
start with a header are followed through a listing along with the entities that they belong to
(`Listing.Heads`).
-/

namespace Cil

/-! ### The entities of a module -/

/-- The directive under which an entity is listed. -/
def Entity.directive : Entity → String
  | assembly _ => ".assembly "
  | space _ _ => ".namespace "
  | type _ => ".class "
  | method _ => ".method "
  | field _ => ".field "
  | property _ => ".property "
  | event _ => ".event "

/-- The members of a type in the order in which they are listed. -/
def TypeDecl.members (decl : TypeDecl) : List Entity :=
  decl.fields.map .field ++ decl.methods.map .method ++
    (decl.events.flatMap fun event =>
      (event.adder.toList ++ event.remover.toList ++ event.others).map .method) ++
    (decl.properties.flatMap fun property =>
      (property.getter.toList ++ property.setter.toList ++ property.others).map .method) ++
    decl.events.map .event ++ decl.properties.map .property

namespace TypeDef

mutual

/-- A type, the types nested in it with all they hold, and its members. -/
def entities : TypeDef → List Entity
  | ⟨decl, nested⟩ => .type ⟨decl, nested⟩ :: (entitiesAll nested ++ decl.members)
termination_by structural type => type

def entitiesAll : List TypeDef → List Entity
  | [] => []
  | type :: types => type.entities ++ entitiesAll types
termination_by structural types => types

end

end TypeDef

/-- All types and members, namespace by namespace. -/
def Module.entities (module : Module) : List Entity :=
  module.spaces.flatMap fun space =>
    TypeDef.entitiesAll (module.types.filter (·.space = space))

/-! ### Headers in recorded lines -/

/-- A span with which the header of a type or member starts. -/
def Span.isHeading (span : Span) : Bool :=
  span.token = .directive ∧ span.text ∈ [".class ", ".field ", ".method ", ".event ", ".property "]

/-- Whether a line starts with the header of a type or member. -/
def Span.startHeading (spans : List Span) : Bool := (spans.take 1).any isHeading

theorem Span.isHeading_of_token {span : Span} (h : span.token ≠ .directive) :
    span.isHeading = false := by
  simp [isHeading, h]

theorem Span.isHeading_of_text {span : Span} (h : span.text = "") : span.isHeading = false := by
  simp [isHeading, h]

theorem Span.filter_take (spans : List Span) :
    (spans.take 1).filter isHeading = if startHeading spans then spans.take 1 else [] := by
  cases spans with
  | nil => rfl
  | cons first rest => by_cases h : first.isHeading <;> simp [startHeading, h]

theorem Span.startHeading_of_startEntity {spans : List Span} (h : startEntity spans = false) :
    startHeading spans = false := by
  unfold startEntity at h
  split at h
  · next text rest =>
    simp only [entityDirectives, List.contains_eq_mem, decide_eq_false_iff_not, List.mem_cons,
      List.not_mem_nil, or_false, not_or] at h
    simp [startHeading, isHeading, h]
  · next hspans =>
    cases spans with
    | nil => rfl
    | cons first rest =>
      obtain ⟨token, text⟩ := first
      have htoken : token ≠ .directive := by
        rintro rfl
        exact hspans text rest rfl
      simp [startHeading, isHeading, htoken]

namespace Line

theorem filter_extend {piece : Span} (h : piece.token ≠ .directive) (line : Line) :
    (line.extend piece).filter Span.isHeading = line.filter Span.isHeading := by
  fun_induction extend line piece with
  | case1 piece => simp [Span.isHeading_of_token h]
  | case2 last piece htoken =>
    have hlast : last.token ≠ .directive := by rwa [htoken]
    simp [Span.isHeading, hlast]
  | case3 last piece htoken => simp [List.filter_cons, Span.isHeading_of_token h]
  | case4 first next rest piece ih => rw [List.filter_cons, ih h, ← List.filter_cons]

theorem filter_foldl_write {pieces : List Span} (h : Span.NoDirective pieces) (line : Line) :
    (pieces.foldl write line).filter Span.isHeading = line.filter Span.isHeading := by
  induction pieces generalizing line with
  | nil => rfl
  | cons piece pieces ih =>
    obtain ⟨hpiece, hpieces⟩ := Span.NoDirective.cons.1 h
    rw [List.foldl_cons, ih hpieces, write]
    split
    · rfl
    · exact filter_extend hpiece line

/-- After the tabs of a line a directive is a span of its own. -/
theorem filter_write_tabs (depth : Nat) (piece : Span) :
    (write (write [] (Span.tabs depth)) piece).filter Span.isHeading =
      [piece].filter Span.isHeading := by
  have htabs : (write [] (Span.tabs depth)).filter Span.isHeading = [] :=
    filter_foldl_write (show Span.NoDirective [Span.tabs depth] by simp [Span.tabs]) []
  by_cases htoken : piece.token = .directive
  · by_cases hempty : piece.text = ""
    · rw [write, if_pos hempty, htabs, List.filter_singleton, Span.isHeading_of_text hempty]
      rfl
    · rw [write, if_neg hempty, write]
      split
      · rfl
      · have hne : (Span.tabs depth).token ≠ piece.token := by simp [Span.tabs, htoken]
        rw [extend, extend, if_neg hne,
          List.filter_cons_of_neg (by simp [Span.isHeading, Span.tabs])]
  · have hpieces : Span.NoDirective [Span.tabs depth, piece] := by simp [Span.tabs, htoken]
    have hnone : (write (write [] (Span.tabs depth)) piece).filter Span.isHeading = [] :=
      filter_foldl_write hpieces []
    rw [hnone, List.filter_singleton, Span.isHeading_of_token htoken]
    rfl

end Line

/-- Where only the first span of a row can be a directive, a header can be nowhere else on the
recorded line. -/
theorem Row.filter_line {row : Row} (h : Span.NoDirective row.spans.tail) :
    row.line.filter Span.isHeading = (row.spans.take 1).filter Span.isHeading := by
  rw [line_eq, recorded]
  cases hspans : row.spans with
  | nil => rfl
  | cons first rest =>
    rw [hspans, List.tail_cons] at h
    split
    · next hplain =>
      rw [Span.plain_cons, String.append_eq_empty_iff] at hplain
      simp [Span.isHeading_of_text hplain.1]
    · rw [Line.ofSpans, List.foldl_cons, List.foldl_cons, Line.filter_foldl_write h,
        Line.filter_write_tabs]
      rfl

/-! ### Directives start lines -/

/-- Only the first span of a line is a directive. -/
def Listing.Tagged (listing : Listing) : Prop :=
  ∀ line ∈ listing.lines, Span.NoDirective line.2.tail

namespace Listing.Tagged

theorem append {first second : Listing} (hfirst : Tagged first) (hsecond : Tagged second) :
    Tagged (first ++ second) := by
  intro line hline
  rw [lines_append, List.mem_append] at hline
  exact hline.elim (hfirst line) (hsecond line)

theorem line {role : Role} {spans : List Span} (h : Span.NoDirective spans.tail) :
    Tagged [.line role spans] := by
  simpa [Tagged] using h

theorem of_items {items : Listing} (hitems : ∀ item ∈ items, Tagged [item]) : Tagged items :=
  @refl_of_items (fun listing _ => Tagged listing) (by simp [Tagged]) (fun h h' => h.append h')
    items hitems

theorem indented {inner : Listing} (h : Tagged inner) : Tagged (Listing.indented inner) := by
  rwa [Tagged, lines_indented]

end Listing.Tagged

theorem Listing.congruence_tagged : BlockCongruence fun listing _ => Tagged listing where
  nil := by simp [Tagged]
  append hfirst hsecond := hfirst.append hsecond
  checkpoint := by simp [Tagged]
  header spans _ htail := by simpa [Tagged] using htail
  plain := by
    rintro _ ⟨spans, rfl, -, -, htail⟩
    exact Tagged.line htail
  indented items hitems := by
    refine Tagged.indented (Tagged.of_items fun item hitem => ?_)
    obtain ⟨spans, rfl, -, -, htail⟩ := hitems item hitem
    exact Tagged.line htail
  block comment _ _ h := by
    have hopening : Tagged [opening] := Tagged.line (by simp)
    have hclosing : Tagged [closing comment] := by
      refine Tagged.line ?_
      split <;> simp
    exact hopening.append (h.indented.append hclosing)

open Listing (Tagged)

theorem Region.tagged_openingListing (region : Region) : Tagged region.openingListing := by
  obtain ⟨kind, start, stop⟩ := region
  cases kind <;> simp [openingListing, openingSpans, Tagged]

theorem Region.tagged_closingListing (region : Region) : Tagged region.closingListing := by
  obtain ⟨kind, start, stop⟩ := region
  cases kind <;> simp [closingListing, closingSpans, Tagged]

theorem Mark.tagged_listing (index : Nat) (marks : List Mark) : Tagged (listing index marks) := by
  induction marks generalizing index with
  | nil => simp [listing, Tagged]
  | cons mark marks ih =>
    cases mark with
    | opened region => exact region.tagged_openingListing.append (ih index)
    | closed region => exact region.tagged_closingListing.append (ih index)
    | placed instruction =>
      have hline : Tagged [.line .instruction instruction.spans] := by
        refine Tagged.line fun span hspan => ?_
        exact instruction.noDirective_spans span (List.mem_of_mem_tail hspan)
      refine Tagged.append ?_ (ih (index + 1))
      rw [Instruction.listing]
      split
      · exact hline
      · exact hline

theorem handlerLine_tagged (guarded handler : Region) : Tagged [handlerLine guarded handler] := by
  refine Tagged.line ?_
  cases hkind : handler.kind <;> simp [Region.rangeSpans, RegionKind.handlerSpans]

theorem Body.tagged_code (style : BodyStyle) (body : Body) : Tagged (body.code style) := by
  cases style with
  | flat =>
    refine (Mark.tagged_listing 0 _).append (Tagged.of_items fun item hitem => ?_)
    obtain ⟨guarded, -, hitem⟩ := List.mem_flatMap.1 hitem
    obtain ⟨handler, -, rfl⟩ := List.mem_map.1 hitem
    exact handlerLine_tagged guarded handler
  | structured =>
    refine (Mark.tagged_listing 0 _).append ?_
    cases body.nesting.2 <;> simp [Tagged]

theorem Module.tagged_contentListing (style : BodyStyle) (module : Module) :
    Tagged (module.contentListing style) :=
  @Listing.BlockCongruence.content _ Listing.congruence_tagged style style module fun method _ =>
    @Listing.BlockCongruence.method _ Listing.congruence_tagged style style method fun body _ =>
      @Listing.BlockCongruence.body _ Listing.congruence_tagged style style body
        (body.tagged_code style)

/-! ### Headers and their entities -/

/-- The listing of an entity starts with a header, and that with the directive of the entity. -/
def Entity.HasHeader (style : BodyStyle) (full : Bool) (spans : List Span) (entity : Entity) :
    Prop :=
  spans.take 1 = [⟨.directive, entity.directive⟩] ∧
    ∃ rest, entity.listing style full = .checkpoint :: .line .header spans :: rest

namespace Listing

/-- The lines that start with the header of a type or member. -/
def headers (listing : Listing) : List (List Span) :=
  (listing.lines.map Prod.snd).filter Span.startHeading

/-- The headers in a listing are those of these entities, in this order. -/
def Heads (style : BodyStyle) (full : Bool) (listing : Listing) (entities : List Entity) : Prop :=
  List.Forall₂ (Entity.HasHeader style full) listing.headers entities

namespace Heads

variable {style : BodyStyle} {full : Bool} {listing first second : Listing}
  {entities others : List Entity}

theorem nil : Heads style full [] [] := List.Forall₂.nil

theorem append (hfirst : Heads style full first entities)
    (hsecond : Heads style full second others) :
    Heads style full (first ++ second) (entities ++ others) := by
  unfold Heads headers
  rw [lines_append, List.map_append, List.filter_append]
  exact List.rel_append hfirst hsecond

theorem of_lines (h : ∀ line ∈ listing.lines, Span.startEntity line.2 = false) :
    Heads style full listing [] := by
  have hnone : listing.headers = [] := by
    refine List.filter_eq_nil_iff.2 fun spans hspans => ?_
    obtain ⟨line, hline, rfl⟩ := List.mem_map.1 hspans
    simp [Span.startHeading_of_startEntity (h line hline)]
  rw [Heads, hnone]
  exact .nil

theorem of_quiet (h : ∀ item ∈ listing, item.IsQuiet) : Heads style full listing [] := by
  refine of_lines fun line hline => ?_
  obtain ⟨item, hitem, hline⟩ := List.mem_filterMap.1 hline
  cases item with
  | line role spans =>
    obtain rfl := Option.some.inj hline
    exact (h _ hitem).2
  | _ => cases hline

theorem of_plain (h : ∀ item ∈ listing, item.IsPlain) : Heads style full listing [] :=
  of_quiet fun item hitem => (h item hitem).isDetail.isQuiet

theorem cons {item : Item} (hitem : item.IsDetail) (h : Heads style full listing entities) :
    Heads style full (item :: listing) entities := by
  have hone : Heads style full [item] [] := of_quiet (by simpa using hitem.isQuiet)
  exact hone.append h

theorem begin {spans : List Span} {entity : Entity} (hspans : entity.HasHeader style full spans)
    (hstart : Span.startHeading spans = true) (h : Heads style full listing entities) :
    Heads style full (.checkpoint :: .line .header spans :: listing) (entity :: entities) := by
  unfold Heads headers
  rw [lines_checkpoint, lines_line, List.map_cons, List.filter_cons_of_pos hstart]
  exact .cons hspans h

theorem indented (h : Heads style full listing entities) :
    Heads style full (Listing.indented listing) entities := by
  rwa [Heads, headers, lines_indented]

theorem block (comment : String) (h : Heads style full listing entities) :
    Heads style full (Listing.block comment listing) entities := by
  have hclosing : Heads style full [closing comment] [] :=
    of_quiet (by simpa using (isDetail_closing comment).isQuiet)
  have hinner := h.indented.append hclosing
  rw [List.append_nil] at hinner
  exact cons isDetail_opening hinner

theorem flatMap {α : Type} {f : α → Listing} {g : α → List Entity} {parts : List α}
    (h : ∀ part ∈ parts, Heads style full (f part) (g part)) :
    Heads style full (parts.flatMap f) (parts.flatMap g) := by
  induction parts with
  | nil => exact nil
  | cons part parts ih =>
    obtain ⟨hpart, hparts⟩ := List.forall_mem_cons.1 h
    rw [List.flatMap_cons, List.flatMap_cons]
    exact hpart.append (ih hparts)

theorem map {α : Type} {f : α → Listing} {g : α → Entity} {parts : List α}
    (h : ∀ part ∈ parts, Heads style full (f part) [g part]) :
    Heads style full (parts.flatMap f) (parts.map g) := by
  rw [List.map_eq_flatMap]
  exact flatMap h

theorem append_blank (h : Heads style full listing entities) :
    Heads style full (listing ++ [blank]) entities := by
  have hblank : Heads style full [blank] [] := of_plain (by simpa using isPlain_blank)
  simpa using h.append hblank

theorem spaced {α : Type} {f : α → Listing} {g : α → Entity} {parts : List α}
    (h : ∀ part ∈ parts, Heads style full (f part) [g part]) :
    Heads style full (Listing.spaced f parts) (parts.map g) :=
  map fun part hpart => (h part hpart).append_blank

theorem titled (title : String) (h : Heads style full listing entities) :
    Heads style full (Listing.titled title listing) entities := by
  cases listing with
  | nil => exact h
  | cons item listing => exact cons ⟨_, rfl, rfl⟩ h

end Heads

end Listing

open Listing (Heads)

variable {style : BodyStyle} {full : Bool}

theorem Mark.heads_listing (index : Nat) (marks : List Mark) :
    Heads style full (listing index marks) [] := by
  induction marks generalizing index with
  | nil => exact Heads.nil
  | cons mark marks ih =>
    cases mark with
    | opened region => exact (Heads.of_quiet region.isQuiet_openingListing).append (ih index)
    | closed region => exact (Heads.of_quiet region.isQuiet_closingListing).append (ih index)
    | placed instruction =>
      have hline : Heads style full (instruction.listing index) [] := by
        refine Heads.of_lines fun line hline => ?_
        rw [Instruction.listing] at hline
        obtain rfl : line = (.instruction, instruction.spans) := by
          split at hline <;> simpa using hline
        rfl
      exact hline.append (ih (index + 1))

theorem Body.heads_listing (style : BodyStyle) (body : Body) :
    Heads style full (body.listing style) [] := by
  obtain ⟨before, after, heq, hbefore, hafter⟩ := body.listing_eq_marks style
  rw [heq]
  exact (Heads.of_quiet hbefore).append ((Mark.heads_listing 0 _).append (Heads.of_quiet hafter))

theorem Method.heads_listing (method : Method) :
    Heads style full (method.listing style) [.method method] := by
  have hbody : Heads style full (method.body.elim [] (·.listing style)) [] := by
    cases method.body with
    | none => exact Heads.nil
    | some body => exact body.heads_listing style
  have hinner := (Heads.of_plain (Listing.isPlain_attributes method.attributes)).append hbody
  exact Heads.begin ⟨rfl, _, rfl⟩ rfl (hinner.block _)

theorem Field.heads_listing (field : Field) : Heads style full field.listing [.field field] :=
  Heads.begin ⟨rfl, _, rfl⟩ rfl Heads.nil

/-- A reference to an accessor is not the header of the accessor. -/
theorem Method.heads_accessors {directive : String} (hdirective : directive ∉ entityDirectives)
    (hdot : directive.toList.head? = some '.') (methods : List Method) :
    Heads style full (methods.map (accessorItem directive)) [] :=
  Heads.of_plain (Listing.isPlain_accessors hdirective hdot methods)

theorem Property.heads_listing (property : Property) :
    Heads style full property.listing [.property property] := by
  refine Heads.begin ⟨rfl, _, rfl⟩ rfl (Heads.block _ ?_)
  exact ((Method.heads_accessors (by decide) rfl _).append
    (Method.heads_accessors (by decide) rfl _)).append (Method.heads_accessors (by decide) rfl _)

theorem Event.heads_listing (event : Event) :
    Heads style full event.listing [.event event] := by
  refine Heads.begin ⟨rfl, _, rfl⟩ rfl (Heads.block _ ?_)
  exact ((Method.heads_accessors (by decide) rfl _).append
    (Method.heads_accessors (by decide) rfl _)).append (Method.heads_accessors (by decide) rfl _)

theorem TypeDecl.heads_memberListing (decl : TypeDecl) :
    Heads style full (decl.memberListing style) decl.members := by
  have hfields : Heads style full decl.fieldListing (decl.fields.map .field) := by
    refine Heads.titled _ ?_
    split
    · next hempty =>
      rw [List.isEmpty_iff.1 hempty]
      exact Heads.nil
    · exact (Heads.map fun field _ => Field.heads_listing field).append_blank
  have hmembers : Heads style full (decl.memberListing style)
      (decl.fields.map .field ++ (decl.methods ++ decl.accessors).map .method ++
        decl.events.map .event ++ decl.properties.map .property) := by
    refine ((hfields.append (Heads.titled _ ?_)).append (Heads.titled _ ?_)).append
      (Heads.titled _ ?_)
    · exact Heads.spaced fun method _ => Method.heads_listing method
    · exact Heads.spaced fun event _ => Event.heads_listing event
    · exact Heads.spaced fun property _ => Property.heads_listing property
  have heq : decl.members =
      decl.fields.map .field ++ (decl.methods ++ decl.accessors).map .method ++
        decl.events.map .event ++ decl.properties.map .property := by
    simp [members, accessors, List.map_flatMap, Event.accessors, Property.accessors]
  rw [heq]
  exact hmembers

namespace TypeDef

mutual

theorem heads_listing : ∀ type : TypeDef, Heads style full (type.listing style) type.entities
  | ⟨decl, nested⟩ => by
    have hattributes : Heads style full (decl.attributes.map Attribute.item) [] :=
      Heads.of_plain (Listing.isPlain_attributes decl.attributes)
    have hparents : Heads style full (Listing.indented decl.parentListing) [] :=
      (Heads.of_plain (Listing.isPlain_parentListing decl)).indented
    have hinner := (hattributes.append ((heads_listingAll nested).titled "Nested Types")).append
      decl.heads_memberListing
    rw [listing, entities]
    exact Heads.begin ⟨rfl, _, by rw [Entity.listing, listing]; rfl⟩ rfl
      (hparents.append (hinner.block _))
termination_by structural type => type

theorem heads_listingAll : ∀ types : List TypeDef,
    Heads style full (listingAll style types) (entitiesAll types)
  | [] => Heads.nil
  | type :: types => by
    rw [listingAll, entitiesAll]
    exact (heads_listing type).append
      (Heads.cons Listing.isPlain_blank.isDetail (heads_listingAll types))
termination_by structural types => types

end

/-- The header of a namespace is not that of a type or member. -/
theorem heads_namespaceListing (space : String) (types : List TypeDef) :
    Heads style full (namespaceListing style space types) (entitiesAll types) := by
  have hstart : Heads style full [.checkpoint] [] := Heads.nil
  rw [namespaceListing]
  split
  · exact hstart.append (heads_listingAll types)
  · have hheader : Heads style full
        [.checkpoint, .line .header [⟨.directive, ".namespace "⟩, ⟨.typeName, space⟩]] [] :=
      Heads.nil
    exact hheader.append ((heads_listingAll types).block _)

/-! ### Every entity is listed once -/

theorem entitiesAll_eq_flatMap (types : List TypeDef) :
    entitiesAll types = types.flatMap entities := by
  induction types with
  | nil => rfl
  | cons type types ih => rw [entitiesAll, ih, List.flatMap_cons]

mutual

theorem perm_entities : ∀ type : TypeDef,
    type.entities.Perm (type.walk.flatMap fun type => .type type :: type.members)
  | ⟨decl, nested⟩ => by
    rw [entities, walk, List.flatMap_cons]
    exact (List.perm_append_comm.trans ((perm_entitiesAll nested).append_left _)).cons _
termination_by structural type => type

theorem perm_entitiesAll : ∀ types : List TypeDef,
    (entitiesAll types).Perm ((walkAll types).flatMap fun type => .type type :: type.members)
  | [] => .refl _
  | type :: types => by
    rw [entitiesAll, walkAll, List.flatMap_append]
    exact (perm_entities type).append (perm_entitiesAll types)
termination_by structural types => types

end

end TypeDef

namespace Module

theorem entities_eq (module : Module) :
    module.entities = module.namespaces.flatMap fun group => TypeDef.entitiesAll group.2 := by
  rw [namespaces_eq, List.flatMap_map, entities]

theorem heads_contentListing (module : Module) :
    Heads style full (module.contentListing style) module.entities := by
  rw [entities_eq]
  exact Heads.flatMap fun group _ => TypeDef.heads_namespaceListing group.1 group.2

theorem perm_entities (module : Module) :
    module.entities.Perm (module.allTypes.flatMap fun type => .type type :: type.members) := by
  have hflat : module.entities = (module.namespaces.flatMap Prod.snd).flatMap TypeDef.entities := by
    rw [entities_eq, List.flatMap_assoc]
    simp only [TypeDef.entitiesAll_eq_flatMap]
  rw [hflat]
  refine (module.perm_namespaces.flatMap_right _).trans ?_
  rw [← TypeDef.entitiesAll_eq_flatMap]
  exact TypeDef.perm_entitiesAll module.types

end Module

/-! ### Recorded headers -/

namespace Listing

variable {depth : Nat} {listing : Listing} {entities : List Entity}

/-- The rows of a run that start with the header of a type or member. -/
def headerRows (depth : Nat) (listing : Listing) : List Row :=
  (({ depth } : Session).rows .never listing).filter fun row => Span.startHeading row.spans

theorem Heads.rows (h : Heads style full listing entities) (hfault : listing.fault? = none) :
    List.Forall₂ (fun row entity => entity.HasHeader style full row.spans)
      (listing.headerRows depth) entities := by
  have hlive : ({ depth } : Session).cancelled = false := rfl
  have hspans : listing.lines.map Prod.snd =
      (({ depth } : Session).rows .never listing).map Row.spans := by
    rw [← Session.rows_never hlive hfault, List.map_map]
    rfl
  rw [Heads, headers, hspans, List.filter_map, List.forall₂_map_left_iff] at h
  exact h

/-- Where directives only start lines, the headers on a recorded line can be told from its row. -/
theorem Tagged.filter_line (h : Tagged listing) (hfault : listing.fault? = none) {row : Row}
    (hrow : row ∈ ({ depth } : Session).rows .never listing) :
    row.line.filter Span.isHeading = (row.spans.take 1).filter Span.isHeading := by
  have hlive : ({ depth } : Session).cancelled = false := rfl
  have hline : (row.role, row.spans) ∈ listing.lines := by
    rw [← Session.rows_never hlive hfault]
    exact List.mem_map_of_mem hrow
  exact Row.filter_line (h _ hline)

theorem Tagged.filter_lines (h : Tagged listing) (hfault : listing.fault? = none) :
    (listing.linesAt depth).filter (·.any Span.isHeading) =
      (listing.headerRows depth).map Row.line := by
  rw [linesAt, List.filter_map, headerRows]
  refine congrArg _ (List.filter_congr fun row hrow => ?_)
  calc
    row.line.any Span.isHeading = (row.line.filter Span.isHeading).any Span.isHeading := by simp
    _ = ((row.spans.take 1).filter Span.isHeading).any Span.isHeading := by
      rw [h.filter_line hfault hrow]
    _ = Span.startHeading row.spans := by simp [Span.startHeading]

theorem Tagged.filter_spans (h : Tagged listing) (hfault : listing.fault? = none) :
    (listing.linesAt depth).flatten.filter Span.isHeading =
      (listing.headerRows depth).flatMap fun row => row.spans.take 1 := by
  have hrows : ∀ rows : List Row,
      (∀ row ∈ rows, row.line.filter Span.isHeading = (row.spans.take 1).filter Span.isHeading) →
      (rows.map Row.line).flatten.filter Span.isHeading =
        (rows.filter fun row => Span.startHeading row.spans).flatMap fun row =>
          row.spans.take 1 := by
    intro rows hrows
    induction rows with
    | nil => rfl
    | cons row rows ih =>
      obtain ⟨hrow, hrest⟩ := List.forall_mem_cons.1 hrows
      rw [List.map_cons, List.flatten_cons, List.filter_append, hrow, ih hrest, Span.filter_take]
      split
      · next hstart => rw [List.filter_cons, if_pos hstart, List.flatMap_cons]
      · next hstart => rw [List.filter_cons, if_neg hstart, List.nil_append]
  exact hrows _ fun row hrow => h.filter_line hfault hrow

end Listing

/-- The headings that rows show are those of their entities. -/
theorem Entity.headings_eq {rows : List Row} {entities : List Entity}
    (h : List.Forall₂ (fun row entity => entity.HasHeader style full row.spans) rows entities) :
    (rows.flatMap fun row => row.spans.take 1) =
      entities.map fun entity => ⟨.directive, entity.directive⟩ := by
  induction h with
  | nil => rfl
  | cons hheader _ ih => rw [List.flatMap_cons, hheader.1, ih, List.map_cons, List.singleton_append]

/-- A row with the header of an entity is recorded as the first line of the entity on its own,
further in. -/
theorem Entity.HasHeader.line_eq {row : Row} {entity : Entity}
    (h : entity.HasHeader style full row.spans) :
    ∃ depth first,
      ((Language.disassembly style).render full .never false entity).1.lines.head? = some first ∧
        row.line = Line.indent depth first := by
  obtain ⟨-, rest, heq⟩ := h
  refine ⟨row.depth, Row.line ⟨0, .header, row.spans⟩, ?_, ?_⟩
  · rw [Language.lines_render, heq, Listing.linesAt_checkpoint, Listing.linesAt_line]
    rfl
  · exact Row.line_add row.depth 0 .header row.spans

/-! ### The headers of a module -/

/-- If the types of a module can be listed, the spans that are recorded under the tag and with the
text of a header are the directives of its entities in their order. The lines that they are on are
the first lines of these entities, each on its own. And the entities are every type of the module,
at any depth, and every member of it, each once. -/
theorem headings_exact (style : BodyStyle) (full : Bool) (module : Module) :
    let outcome := ({} : Session).run .never (module.contentListing style)
    (outcome.2 = none →
      outcome.1.lines.flatten.filter Span.isHeading =
        (module.entities.map fun entity => ⟨.directive, entity.directive⟩) ∧
      List.Forall₂
        (fun line entity => ∃ depth first,
          ((Language.disassembly style).render full .never false entity).1.lines.head? =
              some first ∧
            line = Line.indent depth first)
        (outcome.1.lines.filter (·.any Span.isHeading)) module.entities) ∧
    module.entities.Perm (module.allTypes.flatMap fun type => .type type :: type.members) := by
  intro outcome
  refine ⟨fun hended => ?_, module.perm_entities⟩
  have hfault := (Session.run_never_eq_none rfl).1 hended
  have htagged := module.tagged_contentListing style
  have hrows := @Listing.Heads.rows style full 0 _ _ module.heads_contentListing hfault
  have hlines : outcome.1.lines = (module.contentListing style).linesAt 0 :=
    Session.lines_run_fresh _
  rw [hlines, htagged.filter_spans hfault, htagged.filter_lines hfault]
  refine ⟨Entity.headings_eq hrows, ?_⟩
  rw [List.forall₂_map_left_iff]
  exact hrows.imp fun row entity hheader => hheader.line_eq

/-- A module whose names look like headers. The types of one namespace are not stored together, and
types have accessors but no methods. -/
def forgedModule : Module where
  name := "forged.dll"
  types := [
    { space := ".class "
      name := ".method "
      properties := [{
        name := ".field "
        type := .ofName ".class " ".event "
        setter := some { name := "\n.method " } }]
      nestedTypes := [{ name := ".class ", fields := [{ name := ".property ", type := .void }] }] },
    { name := "B", events := [{ name := "E", type := .void, adder := some { name := "add_E" } }] },
    { space := ".class ", name := "C" }]

theorem headings_exact_forged :
    let outcome := ({} : Session).run .never (forgedModule.contentListing .structured)
    outcome.2 = none ∧
    (outcome.1.lines.flatten.filter Span.isHeading).map Span.text =
      [".class ", ".class ", ".field ", ".method ", ".property ", ".class ", ".class ", ".method ",
        ".event "] := by
  intro outcome
  have hended : outcome.2 = none := by decide +kernel
  obtain ⟨hheadings, -⟩ := (headings_exact .structured false forgedModule).1 hended
  refine ⟨hended, ?_⟩
  rw [hheadings]
  decide +kernel

end Cil
