import Cil.Proofs.Cancellation
import Cil.Proofs.Texts

/-!
# The texts that listings show

The listing of every part of an entity is followed along with the texts of that part: its lines are
unbroken if these texts are, and only then (`Listing.Shows`). A fault in a body keeps what comes
after it off the lines, so the second half holds of listings without a fault.
-/

namespace Cil

/-! ### Listings -/

namespace Listing

/-- The texts on the lines of a listing. -/
def texts (listing : Listing) : List String :=
  listing.lines.flatMap fun line => line.2.map Span.text

variable {listing first second : Listing} {shown others : List String}

@[simp] theorem texts_nil : texts [] = [] := rfl

@[simp] theorem texts_append : texts (first ++ second) = texts first ++ texts second := by
  simp [texts]

@[simp] theorem texts_line (role : Role) (spans : List Span) :
    texts (.line role spans :: listing) = spans.map Span.text ++ texts listing := by
  simp [texts]

@[simp] theorem texts_checkpoint : texts (.checkpoint :: listing) = texts listing := rfl

@[simp] theorem texts_enter : texts (.enter :: listing) = texts listing := rfl

@[simp] theorem texts_leave : texts (.leave :: listing) = texts listing := rfl

@[simp] theorem texts_blank : texts (blank :: listing) = texts listing := by
  simp [blank]

/-- The lines of a listing are unbroken if the texts are that it shows, and only then if it has no
fault that keeps some of them from being shown. -/
structure Shows (listing : Listing) (shown : List String) : Prop where
  unbroken_texts : Unbroken shown → Unbroken listing.texts
  unbroken_shown : listing.fault? = none → Unbroken listing.texts → Unbroken shown

namespace Shows

theorem of_iff (h : Unbroken listing.texts ↔ Unbroken shown) : Shows listing shown :=
  ⟨h.2, fun _ => h.1⟩

theorem congr (h : Shows listing shown) (hiff : Unbroken shown ↔ Unbroken others) :
    Shows listing others :=
  ⟨fun hothers => h.unbroken_texts (hiff.2 hothers),
    fun hfault htexts => hiff.1 (h.unbroken_shown hfault htexts)⟩

theorem nil : Shows [] [] := of_iff Iff.rfl

theorem append (hfirst : Shows first shown) (hsecond : Shows second others) :
    Shows (first ++ second) (shown ++ others) := by
  refine ⟨fun hshown => ?_, fun hfault htexts => ?_⟩
  · obtain ⟨hshown, hothers⟩ := unbroken_append.1 hshown
    rw [texts_append, unbroken_append]
    exact ⟨hfirst.unbroken_texts hshown, hsecond.unbroken_texts hothers⟩
  · rw [fault?_append, Option.or_eq_none_iff] at hfault
    rw [texts_append, unbroken_append] at htexts
    exact unbroken_append.2
      ⟨hfirst.unbroken_shown hfault.1 htexts.1, hsecond.unbroken_shown hfault.2 htexts.2⟩

theorem checkpoint (h : Shows listing shown) : Shows (.checkpoint :: listing) shown :=
  ⟨h.unbroken_texts, h.unbroken_shown⟩

theorem blank (h : Shows listing shown) : Shows (Listing.blank :: listing) shown := by
  refine ⟨fun hshown => ?_, fun hfault htexts => h.unbroken_shown hfault ?_⟩
  · rw [texts_blank]
    exact h.unbroken_texts hshown
  · rwa [texts_blank] at htexts

theorem line {role : Role} {spans : List Span}
    (hspans : Unbroken (spans.map Span.text) ↔ Unbroken shown) (h : Shows listing others) :
    Shows (.line role spans :: listing) (shown ++ others) := by
  have hline : Shows [.line role spans] shown := of_iff (by simpa using hspans)
  exact hline.append h

/-- A line of fixed texts shows nothing. -/
theorem fixedLine {role : Role} {spans : List Span} (hspans : Unbroken (spans.map Span.text))
    (h : Shows listing shown) : Shows (.line role spans :: listing) shown :=
  line (iff_of_true hspans unbroken_nil) h

theorem indented (h : Shows listing shown) : Shows (Listing.indented listing) shown := by
  have hindented := (of_iff (show Unbroken (texts [.enter]) ↔ Unbroken [] from Iff.rfl)).append
    (h.append (of_iff (show Unbroken (texts [.leave]) ↔ Unbroken [] from Iff.rfl)))
  exact hindented.congr (by simp)

/-- A block shows what is in it, and then its comment. -/
theorem block {comment : String} (h : Shows listing shown)
    (hcomment : '\n' ∉ comment.toList ↔ Unbroken others) :
    Shows (Listing.block comment listing) (shown ++ others) := by
  have hopening : Shows [opening] [] := of_iff (by simp [opening, single])
  have hclosing : Shows [closing comment] others := by
    refine of_iff ?_
    rw [← hcomment, closing, texts_line]
    split
    · next hempty => simp [hempty]
    · simp
  exact hopening.append (h.indented.append hclosing)

theorem block_empty (h : Shows listing shown) : Shows (Listing.block "" listing) shown := by
  have hcomment : '\n' ∉ "".toList ↔ Unbroken [] := by simp
  have hblock := h.block hcomment
  rwa [List.append_nil] at hblock

theorem flatMap {α : Type} {f : α → Listing} {g : α → List String} {parts : List α}
    (h : ∀ part ∈ parts, Shows (f part) (g part)) :
    Shows (parts.flatMap f) (parts.flatMap g) := by
  induction parts with
  | nil => exact nil
  | cons part parts ih =>
    obtain ⟨hpart, hparts⟩ := List.forall_mem_cons.1 h
    exact hpart.append (ih hparts)

theorem map {α : Type} {f : α → Item} {g : α → List String} {parts : List α}
    (h : ∀ part ∈ parts, Shows [f part] (g part)) : Shows (parts.map f) (parts.flatMap g) := by
  rw [List.map_eq_flatMap]
  exact flatMap h

theorem mapIdx {α : Type} {f : Nat → α → Item} {g : α → List String}
    (h : ∀ index part, Shows [f index part] (g part)) (parts : List α) :
    Shows (parts.mapIdx f) (parts.flatMap g) := by
  induction parts generalizing f with
  | nil => exact nil
  | cons part parts ih =>
    rw [List.mapIdx_cons]
    exact (h 0 part).append (ih fun index => h (index + 1))

theorem spaced {α : Type} {f : α → Listing} {g : α → List String} {parts : List α}
    (h : ∀ part ∈ parts, Shows (f part) (g part)) :
    Shows (Listing.spaced f parts) (parts.flatMap g) := by
  refine flatMap fun part hpart => ?_
  have hspaced := (h part hpart).append nil.blank
  rwa [List.append_nil] at hspaced

theorem elim {α : Type} {f : α → Listing} {g : α → List String} (part? : Option α)
    (h : ∀ part, Shows (f part) (g part)) : Shows (part?.elim [] f) (part?.toList.flatMap g) := by
  cases part? with
  | none => exact nil
  | some part =>
    rw [Option.toList_some, List.flatMap_singleton]
    exact h part

theorem ite (condition : Bool) (h : Shows listing shown) :
    Shows (if condition then listing else []) (if condition then shown else []) := by
  cases condition with
  | false => exact nil
  | true => exact h

/-- What lists parts may be left out where there are none. -/
theorem unless_isEmpty {α : Type} {g : α → List String} {parts : List α}
    (h : Shows listing (parts.flatMap g)) :
    Shows (if parts.isEmpty then [] else listing) (parts.flatMap g) := by
  split
  · next hempty =>
    rw [List.isEmpty_iff.1 hempty]
    exact nil
  · exact h

theorem titled {title : String} (htitle : '\n' ∉ title.toList) (h : Shows listing shown) :
    Shows (Listing.titled title listing) shown := by
  cases listing with
  | nil => exact h
  | cons item listing =>
    exact fixedLine (by simp [htitle]) h

end Shows

end Listing

open Listing (Shows)

theorem Attribute.shows_items (attributes : List Attribute) :
    Shows (attributes.map Attribute.item) (attributes.flatMap Attribute.texts) := by
  refine Shows.map fun custom _ => Shows.of_iff ?_
  unfold item texts
  split <;> simp

/-! ### Bodies -/

theorem Region.unbroken_openingListing (region : Region) :
    Unbroken region.openingListing.texts ↔ Unbroken region.texts := by
  obtain ⟨kind, start, stop⟩ := region
  cases kind <;> simp [openingListing, openingSpans, texts]

theorem Region.unbroken_closingListing (region : Region) :
    Unbroken region.closingListing.texts := by
  obtain ⟨kind, start, stop⟩ := region
  cases kind <;> simp [closingListing, closingSpans]

/-- Marks show the instructions that they place and the regions that they open. -/
theorem Mark.unbroken_listing (index : Nat) (marks : List Mark) :
    Unbroken (listing index marks).texts ↔
      Unbroken ((placements marks).flatMap Instruction.texts) ∧
        Unbroken ((openings marks).flatMap Region.texts) := by
  induction marks generalizing index with
  | nil => simp [listing, placements, openings]
  | cons mark marks ih =>
    cases mark with
    | opened region =>
      rw [listing, Listing.texts_append, unbroken_append, region.unbroken_openingListing, ih,
        show openings (.opened region :: marks) = region :: openings marks from rfl,
        List.flatMap_cons, unbroken_append]
      exact and_left_comm
    | closed region =>
      rw [listing, Listing.texts_append, unbroken_append, ih]
      exact and_iff_right region.unbroken_closingListing
    | placed instruction =>
      have hline : Unbroken (instruction.listing index).texts ↔ Unbroken instruction.texts := by
        unfold Instruction.listing
        split <;> simp
      rw [listing, Listing.texts_append, unbroken_append, hline, ih, placements_placed,
        openings_placed, List.flatMap_cons, unbroken_append, and_assoc]

namespace Body

theorem shows_handlerListing (body : Body) :
    Shows body.handlerListing (body.regionTexts .flat) := by
  refine Shows.flatMap fun guarded _ => Shows.map fun handler _ => Shows.of_iff ?_
  obtain ⟨kind, start, stop⟩ := handler
  cases kind <;> simp [handlerLine, RegionKind.handlerSpans, Region.rangeSpans, Region.texts]

theorem openings_nesting_subset (body : Body) : Mark.openings body.nesting.1 ⊆ body.regions := by
  unfold nesting
  split
  · simp [Mark.openings]
  · intro region hregion
    have hpending := List.IsPrefix.subset openings_placeAll_prefix hregion
    exact Region.mem_inOpeningOrder.1 hpending

theorem mem_openings_nesting {body : Body} (h : body.nesting.2 = none) {region : Region} :
    region ∈ Mark.openings body.nesting.1 ↔ region ∈ body.regions := by
  obtain ⟨-, hplace⟩ := nesting_eq_of_fault h
  rw [hplace] at h ⊢
  rw [openings_placeAll h, Region.mem_inOpeningOrder]

theorem shows_code (style : BodyStyle) (body : Body) :
    Shows (body.code style)
      (body.instructions.flatMap Instruction.texts ++ body.regionTexts style) := by
  cases style with
  | flat =>
    refine Shows.append (Shows.of_iff ?_) body.shows_handlerListing
    rw [Mark.unbroken_listing, Mark.placements_map]
    simp [Mark.openings]
  | structured =>
    have htexts : (body.code .structured).texts = (Mark.listing 0 body.nesting.1).texts := by
      rw [code, structuredListing, Listing.texts_append]
      cases body.nesting.2 <;> simp [Listing.texts]
    refine ⟨fun hshown => ?_, fun hfault hlines => ?_⟩
    · obtain ⟨hinstructions, hregions⟩ := unbroken_append.1 hshown
      rw [unbroken_flatMap] at hinstructions
      rw [regionTexts, unbroken_flatMap] at hregions
      rw [htexts, Mark.unbroken_listing, unbroken_flatMap, unbroken_flatMap]
      refine ⟨fun instruction hplaced => hinstructions instruction ?_,
        fun region hopened => hregions region (body.openings_nesting_subset hopened)⟩
      have hplacements := body.placements_marks_prefix .structured
      exact hplacements.subset hplaced
    · have hnesting : body.nesting.2 = none := by simpa [code] using hfault
      rw [htexts, Mark.unbroken_listing, placements_nesting hnesting] at hlines
      rw [unbroken_append, regionTexts]
      refine ⟨hlines.1, unbroken_flatMap.2 fun region hregion => ?_⟩
      exact unbroken_flatMap.1 hlines.2 region ((mem_openings_nesting hnesting).2 hregion)

theorem shows_localsListing (body : Body) :
    Shows body.localsListing (body.locals.flatMap Local.texts) := by
  have hlocals : Shows (body.locals.mapIdx fun index slot =>
      .line .detail (slot.spans index (index + 1 == body.locals.length)))
      (body.locals.flatMap Local.texts) :=
    Shows.mapIdx (fun index slot => Shows.of_iff (by simp)) body.locals
  have hlast : Shows [Listing.single .detail .text ")"] [] := Shows.fixedLine (by simp) Shows.nil
  have hinner := hlocals.indented.append hlast
  rw [List.append_nil] at hinner
  refine Shows.unless_isEmpty (Shows.fixedLine ?_ hinner)
  cases body.initLocals <;> simp

theorem shows_listing (style : BodyStyle) (body : Body) :
    Shows (body.listing style) (body.texts style) := by
  rw [listing_eq]
  exact Shows.fixedLine (by simp) (body.shows_localsListing.append (body.shows_code style).blank)

end Body

/-! ### Members -/

theorem lineFeed_notMem_endComment (kind : String) (hkind : '\n' ∉ kind.toList)
    (declaring : Option TypeRef) (name : String) :
    '\n' ∉ (endComment kind declaring name).toList ↔ Unbroken (endTexts declaring name) := by
  cases declaring <;> simp [endComment, endTexts, hkind]

namespace Method

theorem shows_listing (style : BodyStyle) (method : Method) :
    Shows (method.listing style) (method.texts style) := by
  have hattributes := Attribute.shows_items method.attributes
  have hbody := Shows.elim method.body (Body.shows_listing style)
  have hcomment := lineFeed_notMem_endComment "method" (by simp) method.declaringType
    method.name
  exact (Shows.line method.unbroken_headerSpans
    ((hattributes.append hbody).block hcomment)).checkpoint

theorem shows_accessors (directive : String) (hdirective : '\n' ∉ directive.toList)
    (methods : List Method) :
    Shows (methods.map (accessorItem directive)) (methods.flatMap accessorTexts) :=
  Shows.map fun method _ => Shows.of_iff (by simp [accessorItem, accessorTexts, hdirective])

end Method

theorem Field.shows_listing (field : Field) : Shows field.listing field.texts := by
  refine Shows.of_iff ?_
  unfold listing texts
  cases field.constant <;> simp

theorem Property.shows_listing (property : Property) : Shows property.listing property.texts := by
  have haccessors := ((Method.shows_accessors ".get" (by simp) property.getter.toList).append
    (Method.shows_accessors ".set" (by simp) property.setter.toList)).append
    (Method.shows_accessors ".other" (by simp) property.others)
  rw [← List.flatMap_append, ← List.flatMap_append] at haccessors
  have hcomment := lineFeed_notMem_endComment "property" (by simp) property.declaringType
    property.name
  exact (Shows.line property.unbroken_headerSpans (haccessors.block hcomment)).checkpoint

theorem Event.shows_listing (event : Event) : Shows event.listing event.texts := by
  have haccessors := ((Method.shows_accessors ".addon" (by simp) event.adder.toList).append
    (Method.shows_accessors ".removeon" (by simp) event.remover.toList)).append
    (Method.shows_accessors ".other" (by simp) event.others)
  rw [← List.flatMap_append, ← List.flatMap_append] at haccessors
  have hcomment := lineFeed_notMem_endComment "event" (by simp) event.declaringType event.name
  exact (Shows.line event.unbroken_headerSpans (haccessors.block hcomment)).checkpoint

/-! ### Types -/

namespace TypeDecl

theorem shows_parentListing (decl : TypeDecl) :
    Shows decl.parentListing
      ((decl.baseType.toList ++ decl.interfaces).flatMap TypeRef.qualifiedTexts) := by
  have hbase : Shows (decl.baseType.toList.map fun base =>
      .line .detail (⟨.keyword, "extends "⟩ :: base.qualifiedSpans))
      (decl.baseType.toList.flatMap TypeRef.qualifiedTexts) :=
    Shows.map fun base _ => Shows.of_iff (by simp)
  rw [List.flatMap_append]
  exact hbase.append (Shows.unless_isEmpty (Shows.of_iff (by simp)))

theorem shows_memberListing (style : BodyStyle) (decl : TypeDecl) :
    Shows (decl.memberListing style) (decl.memberTexts style) := by
  have hfields : Shows decl.fieldListing (decl.fields.flatMap Field.texts) := by
    have hall := (Shows.flatMap fun field (_ : field ∈ decl.fields) =>
      field.shows_listing).append Shows.nil.blank
    rw [List.append_nil] at hall
    exact Shows.titled (by simp) (Shows.unless_isEmpty hall)
  refine ((hfields.append (Shows.titled (by simp) ?_)).append (Shows.titled (by simp) ?_)).append
    (Shows.titled (by simp) ?_)
  · exact Shows.spaced fun method _ => method.shows_listing style
  · exact Shows.spaced fun event _ => event.shows_listing
  · exact Shows.spaced fun property _ => property.shows_listing

theorem lineFeed_notMem_endName (decl : TypeDecl) :
    '\n' ∉ ("end of class " ++ decl.endName).toList ↔ Unbroken decl.nameTexts := by
  cases hdeclaring : decl.declaringType with
  | none =>
    by_cases hspace : decl.space = "" <;>
      simp [endName, nameTexts, hdeclaring, fullName, toRef, TypeRef.within, TypeRef.fullName,
        hspace]
  | some outer => simp [endName, nameTexts, hdeclaring]

/-- The name of a type is shown twice, around all the rest. -/
theorem shows_listing (style : BodyStyle) (decl : TypeDecl) {nested : Listing}
    {shown : List String} (hnested : Shows nested shown) :
    Shows (decl.listing style nested) (decl.texts style ++ shown) := by
  have hattributes := Attribute.shows_items decl.attributes
  have htitled : Shows (Listing.titled "Nested Types" nested) shown := hnested.titled (by simp)
  have hinner := (hattributes.append htitled).append (decl.shows_memberListing style)
  have hrest := decl.shows_parentListing.indented.append
    (hinner.block decl.lineFeed_notMem_endName)
  refine Shows.congr (Shows.line decl.unbroken_headerSpans hrest).checkpoint ?_
  simp only [texts, unbroken_append]
  constructor
  · rintro ⟨hname, hparents, ⟨⟨hcustom, hshown⟩, hmembers⟩, -⟩
    exact ⟨⟨⟨⟨hname, hparents⟩, hcustom⟩, hmembers⟩, hshown⟩
  · rintro ⟨⟨⟨⟨hname, hparents⟩, hcustom⟩, hmembers⟩, hshown⟩
    exact ⟨hname, hparents, ⟨⟨hcustom, hshown⟩, hmembers⟩, hname⟩

end TypeDecl

namespace TypeDef

theorem textsOf_cons (style : BodyStyle) (type : TypeDef) (types : List TypeDef) :
    textsOf style (type :: types) = textsOf style [type] ++ textsOf style types := by
  simp [textsOf, walkAll]

theorem textsOf_singleton (style : BodyStyle) (decl : TypeDecl) (nested : List TypeDef) :
    textsOf style [⟨decl, nested⟩] = decl.texts style ++ textsOf style nested := by
  simp [textsOf, walkAll, walk]

mutual

theorem shows_listing (style : BodyStyle) : ∀ type : TypeDef,
    Shows (type.listing style) (textsOf style [type])
  | ⟨decl, nested⟩ => by
    rw [listing, textsOf_singleton]
    exact decl.shows_listing style (shows_listingAll style nested)
termination_by structural type => type

theorem shows_listingAll (style : BodyStyle) : ∀ types : List TypeDef,
    Shows (listingAll style types) (textsOf style types)
  | [] => Shows.nil
  | type :: types => by
    rw [listingAll, textsOf_cons]
    exact (shows_listing style type).append (shows_listingAll style types).blank
termination_by structural types => types

end

theorem shows_namespaceListing (style : BodyStyle) (space : String) (types : List TypeDef) :
    Shows (namespaceListing style space types) (space :: textsOf style types) := by
  have htypes := shows_listingAll style types
  unfold namespaceListing
  split
  · next hspace =>
    refine Shows.congr htypes.checkpoint ?_
    simp [hspace]
  · have hcomment : '\n' ∉ ("end of namespace " ++ space).toList ↔ Unbroken [space] := by simp
    have hheader : Unbroken (([⟨.directive, ".namespace "⟩, ⟨.typeName, space⟩] :
        List Span).map Span.text) ↔ Unbroken [space] := by simp
    refine Shows.congr (Shows.line hheader (htypes.block hcomment)).checkpoint ?_
    rw [unbroken_append, unbroken_append, unbroken_cons, unbroken_cons]
    exact ⟨fun h => ⟨h.1.1, h.2.1⟩, fun h => ⟨⟨h.1, unbroken_nil⟩, h.2, h.1, unbroken_nil⟩⟩

end TypeDef

/-! ### Assemblies -/

theorem shows_cultureListing {directive : String} (hdirective : '\n' ∉ directive.toList)
    (culture : Option String) : Shows (cultureListing directive culture) [] := by
  unfold cultureListing
  split
  · exact Shows.nil
  · exact Shows.nil
  · exact Shows.fixedLine (by simp [hdirective]) Shows.nil

theorem Version.shows_item (version : Version) : Shows [version.item] [] :=
  Shows.fixedLine (by simp) Shows.nil

theorem AssemblyRef.shows_listing (reference : AssemblyRef) :
    Shows reference.listing [reference.name] := by
  have hculture : Shows (cultureListing ".culture" reference.culture) [] :=
    shows_cultureListing (by simp) reference.culture
  have hheader : Shows [.line .header
      [⟨.directive, ".assembly extern "⟩, ⟨.typeName, Name.escape reference.name⟩]]
      [reference.name] := Shows.of_iff (by simp)
  suffices htoken : Shows _ [] from
    (hheader.append
      ((htoken.append hculture).append reference.version.shows_item).block_empty).checkpoint
  split
  · exact Shows.nil
  · exact Shows.nil
  · exact Shows.fixedLine (by simp) Shows.nil

theorem Manifest.shows_listing (manifest : Manifest) :
    Shows manifest.listing manifest.texts := by
  have hattributes := Attribute.shows_items manifest.attributes
  have halgorithm : Shows (manifest.hashAlgorithm.toList.map fun algorithm =>
      .line .detail [⟨.directive, ".hash algorithm "⟩, ⟨.literal, Hex.number 8 algorithm⟩]) [] := by
    cases manifest.hashAlgorithm with
    | none => exact Shows.nil
    | some algorithm => exact Shows.fixedLine (by simp) Shows.nil
  have hculture : Shows (cultureListing ".locale" manifest.culture) [] :=
    shows_cultureListing (by simp) manifest.culture
  have hinner := ((hattributes.append halgorithm).append hculture).append
    manifest.version.shows_item
  have hheader : Shows [.line .header
      (⟨.directive, ".assembly "⟩ :: Span.flags [(manifest.isWindowsRuntime, "windowsruntime ")] ++
        [⟨.typeName, Name.escape manifest.name⟩])] [manifest.name] := Shows.of_iff (by simp)
  refine Shows.congr (hheader.append hinner.block_empty).checkpoint ?_
  simp [texts]

namespace Module

theorem shows_headerListing (module : Module) :
    Shows module.headerListing module.headerTexts := by
  refine Shows.of_iff ?_
  cases hmvid : module.mvid <;> simp [headerListing, headerTexts, hmvid, Listing.single]

theorem shows_contentListing (style : BodyStyle) (module : Module) :
    Shows (module.contentListing style) (module.contentTexts style) :=
  Shows.flatMap fun group _ => TypeDef.shows_namespaceListing style group.1 group.2

end Module

theorem Assembly.shows_listing (style : BodyStyle) (full : Bool) (assembly : Assembly) :
    Shows (assembly.listing style full) (assembly.texts style full) := by
  have hfile : Shows [Listing.single .detail .comment ("// " ++ assembly.fileName), Listing.blank]
      [assembly.fileName] := Shows.of_iff (by simp [Listing.single])
  have hreferences : Shows assembly.module.referenceListing
      (assembly.module.references.map AssemblyRef.name) := by
    rw [List.map_eq_flatMap]
    exact Shows.flatMap fun reference _ => reference.shows_listing
  have hmanifest := Shows.elim assembly.manifest Manifest.shows_listing
  have hcontent := (assembly.module.shows_contentListing style).blank.blank
  have hall := (((hfile.append (hreferences.ite full)).append hmanifest).append
    assembly.module.shows_headerListing.blank).append (hcontent.ite full)
  refine Shows.congr hall ?_
  simp only [texts, List.cons_append, List.nil_append, List.append_assoc]

/-! ### Entities -/

namespace Entity

theorem shows_accessorListing (style : BodyStyle) (accessors : List Method) :
    Shows (listing.accessorListing style accessors) (accessors.flatMap (Method.texts style)) :=
  Shows.flatMap fun method _ => (method.shows_listing style).blank

theorem shows_listing (style : BodyStyle) (full : Bool) (entity : Entity) :
    Shows (entity.listing style full) (entity.texts style full) := by
  cases entity with
  | assembly assembly => exact assembly.shows_listing style full
  | space name types => exact TypeDef.shows_namespaceListing style name types
  | type type => exact type.shows_listing style
  | method method => exact method.shows_listing style
  | field field => exact field.shows_listing
  | property property =>
    exact property.shows_listing.append (shows_accessorListing style property.accessors)
  | event event => exact event.shows_listing.append (shows_accessorListing style event.accessors)

end Entity

end Cil
