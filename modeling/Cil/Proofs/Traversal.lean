import Cil.Language.Builtin
import Cil.Proofs.Grouping
import Cil.Proofs.Lines

/-!
# Going through the listing of an entity

The listings of an entity in the two body styles differ in the listings of its methods only. All
else is put together in the same way from checkpoints, header lines, other lines and blocks. So a
relation between listings that is kept by these (`Listing.BlockCongruence`) holds of the listings of
a type or a module as soon as it holds of those of its methods. A relation that does not ask whether
blocks are closed (`Listing.Congruence`) goes through whole entities in this way
(`Congruence.entity`). A property of one listing is the case where the relation looks at one side
only.
-/

namespace Cil

/-! ### The methods of an entity -/

/-- The methods of a type, its accessors among them. -/
def TypeDecl.allMethods (decl : TypeDecl) : List Method := decl.methods ++ decl.accessors

/-- The methods of types and of all types nested in them. -/
def TypeDef.methodsOf (types : List TypeDef) : List Method :=
  (TypeDef.walkAll types).flatMap (·.allMethods)

/-- The methods that stand in the listing of an entity. -/
def Entity.methods (full : Bool) : Entity → List Method
  | assembly a => if full then TypeDef.methodsOf a.module.types else []
  | space _ types => TypeDef.methodsOf types
  | type t => TypeDef.methodsOf [t]
  | method m => [m]
  | field _ => []
  | property p => p.accessors
  | event e => e.accessors

theorem TypeDef.walkAll_eq_flatMap (types : List TypeDef) :
    TypeDef.walkAll types = types.flatMap TypeDef.walk := by
  induction types with
  | nil => rfl
  | cons type types ih => rw [TypeDef.walkAll, ih, List.flatMap_cons]

theorem TypeDef.methodsOf_subset {types types' : List TypeDef} (h : types ⊆ types') :
    TypeDef.methodsOf types ⊆ TypeDef.methodsOf types' := by
  intro method hmethod
  simp only [TypeDef.methodsOf, TypeDef.walkAll_eq_flatMap, List.mem_flatMap] at hmethod ⊢
  obtain ⟨type, ⟨outer, houter, htype⟩, hmethod⟩ := hmethod
  exact ⟨type, ⟨outer, h houter, htype⟩, hmethod⟩

/-! ### The code of a body -/

/-- The part of the listing of a body that depends on the style. -/
def Body.code (style : BodyStyle) (body : Body) : Listing :=
  match style with
  | .flat => body.flatListing
  | .structured => body.structuredListing

theorem Body.listing_eq (style : BodyStyle) (body : Body) :
    body.listing style =
      .line .detail [⟨.directive, ".maxstack "⟩, ⟨.literal, body.maxStack.repr⟩] ::
        (body.localsListing ++ Listing.blank :: body.code style) := by
  cases style <;> simp [Body.listing, Body.code]

/-! ### Lines that begin an entity -/

/-- The directives under which an entity is listed. -/
def entityDirectives : List String :=
  [".assembly extern ", ".assembly ", ".module ", ".namespace ", ".class ", ".field ", ".method ",
    ".property ", ".event "]

/-- Whether a line begins the listing of an entity. -/
def Span.startEntity : List Span → Bool
  | ⟨.directive, text⟩ :: _ => entityDirectives.contains text
  | _ => false

/-- A line that is neither the first one of an entity nor part of the code of a body. -/
def Item.IsDetail (item : Item) : Prop :=
  ∃ spans, item = .line .detail spans ∧ Span.startEntity spans = false

/-- A detail that neither opens nor closes a block, and has no directive but at its start. -/
def Item.IsPlain (item : Item) : Prop :=
  ∃ spans, item = .line .detail spans ∧ Span.startEntity spans = false ∧ Span.Unframed spans ∧
    Span.NoDirective spans.tail

theorem Item.IsPlain.isDetail {item : Item} (h : item.IsPlain) : item.IsDetail := by
  obtain ⟨spans, rfl, hstart, -, -⟩ := h
  exact ⟨spans, rfl, hstart⟩

/-- A line that begins an entity neither opens nor closes a block. -/
theorem Span.unframed_of_startEntity {spans : List Span} (h : startEntity spans = true) :
    Unframed spans := by
  unfold startEntity at h
  split at h
  · refine unframed_cons ?_
    rw [List.contains_iff_mem] at h
    simp only [entityDirectives, List.mem_cons, List.not_mem_nil, or_false] at h
    rcases h with rfl | rfl | rfl | rfl | rfl | rfl | rfl | rfl | rfl <;> rfl
  · cases h

namespace Listing

/-! ### Plain lines -/

theorem isPlain_blank : blank.IsPlain := ⟨_, rfl, rfl, by decide, by simp⟩

theorem isPlain_attributes (attributes : List Attribute) :
    ∀ item ∈ attributes.map Attribute.item, item.IsPlain := by
  intro item hitem
  obtain ⟨custom, -, rfl⟩ := List.mem_map.1 hitem
  refine ⟨_, rfl, rfl, Span.unframed_cons rfl, ?_⟩
  cases custom.blob <;> simp

/-- The references to accessors are plain unless their directive is that of an entity. -/
theorem isPlain_accessors {directive : String} (hdirective : directive ∉ entityDirectives)
    (hdot : directive.toList.head? = some '.') (methods : List Method) :
    ∀ item ∈ methods.map (Method.accessorItem directive), item.IsPlain := by
  intro item hitem
  obtain ⟨method, -, rfl⟩ := List.mem_map.1 hitem
  refine ⟨_, rfl, ?_, Span.unframed_cons (by rw [hdot]; rfl), ?_⟩
  · simpa [Span.startEntity] using hdirective
  · simp [noDirective_methodReferenceSpans]

theorem isPlain_locals (body : Body) :
    ∀ item ∈ body.locals.mapIdx fun index slot =>
      Item.line .detail (slot.spans index (index + 1 == body.locals.length)), item.IsPlain := by
  intro item hitem
  obtain ⟨index, -, rfl⟩ := List.mem_mapIdx.1 hitem
  refine ⟨_, rfl, rfl, Span.unframed_cons (by simp), ?_⟩
  unfold Local.spans
  split <;> simp

theorem isPlain_maxStack (body : Body) :
    (Item.line .detail [⟨.directive, ".maxstack "⟩, ⟨.literal, body.maxStack.repr⟩]).IsPlain :=
  ⟨_, rfl, rfl, Span.unframed_cons rfl, by simp⟩

theorem isPlain_parentListing (decl : TypeDecl) : ∀ item ∈ decl.parentListing, item.IsPlain := by
  intro item hitem
  rcases List.mem_append.1 hitem with hitem | hitem
  · obtain ⟨base, -, rfl⟩ := List.mem_map.1 hitem
    exact ⟨_, rfl, rfl, Span.unframed_cons rfl, by simp⟩
  · split at hitem
    · cases hitem
    · obtain rfl := List.mem_singleton.1 hitem
      refine ⟨_, rfl, rfl, Span.unframed_cons rfl, Span.NoDirective.separated ?_⟩
      intro run hrun
      obtain ⟨ref, -, rfl⟩ := List.mem_map.1 hrun
      exact ref.noDirective_qualifiedSpans

theorem isPlain_cultureListing {directive : String} (hdirective : directive ∉ entityDirectives)
    (hdot : directive.toList.head? = some '.') (culture : Option String) :
    ∀ item ∈ cultureListing directive culture, item.IsPlain := by
  unfold cultureListing
  split
  · simp
  · simp
  · intro item hitem
    obtain rfl := List.mem_singleton.1 hitem
    refine ⟨_, rfl, by simpa [Span.startEntity] using hdirective, ?_, by simp⟩
    exact Span.unframed_cons (by rw [hdot]; rfl)

theorem isPlain_version (version : Version) : version.item.IsPlain :=
  ⟨_, rfl, rfl, Span.unframed_cons rfl, by simp⟩

theorem isPlain_mvid (mvid : String) :
    (single .detail .comment ("// MVID: \x7b" ++ mvid ++ "\x7d")).IsPlain := by
  refine ⟨_, rfl, rfl, ?_, by simp⟩
  simp [Span.Unframed, Span.Flush, Span.content, Fence.opened?, Fence.closed?]

theorem spaced_eq_nil {α : Type} {listing : α → Listing} {entities : List α} :
    spaced listing entities = [] ↔ entities = [] := by
  cases entities <;> simp [spaced]

theorem listingAll_eq_nil {style : BodyStyle} {types : List TypeDef} :
    TypeDef.listingAll style types = [] ↔ types = [] := by
  cases types <;> simp [TypeDef.listingAll]

/-- A relation that is kept by `++` holds between a listing and itself if it does so item by
item. -/
theorem refl_of_items {R : Listing → Listing → Prop} (hnil : R [] [])
    (happend : ∀ {a a' b b'}, R a a' → R b b' → R (a ++ b) (a' ++ b')) {items : Listing}
    (hitems : ∀ item ∈ items, R [item] [item]) : R items items := by
  induction items with
  | nil => exact hnil
  | cons item items ih =>
    obtain ⟨hitem, hitems⟩ := List.forall_mem_cons.1 hitems
    exact happend hitem (ih hitems)

/-! ### Blocks as a whole -/

/-- A relation between listings that is kept by what the listings of types and modules are made of,
where a block is put around a listing as a whole and only plain lines are indented without one. -/
structure BlockCongruence (R : Listing → Listing → Prop) : Prop where
  nil : R [] []
  append : ∀ {a a' b b'}, R a a' → R b b' → R (a ++ b) (a' ++ b')
  checkpoint : R [.checkpoint] [.checkpoint]
  header : ∀ spans, Span.startEntity spans = true → Span.NoDirective spans.tail →
    R [.checkpoint, .line .header spans] [.checkpoint, .line .header spans]
  plain : ∀ item : Item, item.IsPlain → R [item] [item]
  indented : ∀ items : Listing, (∀ item ∈ items, item.IsPlain) → R (indented items) (indented items)
  block : ∀ comment {a a'}, R a a' → R (block comment a) (block comment a')

namespace BlockCongruence

variable {R : Listing → Listing → Prop} (hR : BlockCongruence R)
include hR

theorem cons {item : Item} {a a' : Listing} (hitem : item.IsPlain) (h : R a a') :
    R (item :: a) (item :: a') :=
  hR.append (hR.plain item hitem) h

theorem plains {items : Listing} (hitems : ∀ item ∈ items, item.IsPlain) : R items items :=
  refl_of_items hR.nil hR.append fun item hitem => hR.plain item (hitems item hitem)

theorem begin {spans : List Span} {a a' : Listing} (hspans : Span.startEntity spans = true)
    (htail : Span.NoDirective spans.tail) (h : R a a') :
    R (.checkpoint :: .line .header spans :: a) (.checkpoint :: .line .header spans :: a') :=
  hR.append (hR.header spans hspans htail) h

theorem flatMap {α : Type} {f g : α → Listing} {entities : List α}
    (h : ∀ entity ∈ entities, R (f entity) (g entity)) :
    R (entities.flatMap f) (entities.flatMap g) := by
  induction entities with
  | nil => exact hR.nil
  | cons entity entities ih =>
    rw [List.flatMap_cons, List.flatMap_cons]
    exact hR.append (h entity List.mem_cons_self)
      (ih fun other hother => h other (List.mem_cons_of_mem _ hother))

theorem spaced {α : Type} {f g : α → Listing} {entities : List α}
    (h : ∀ entity ∈ entities, R (f entity) (g entity)) :
    R (Listing.spaced f entities) (Listing.spaced g entities) :=
  hR.flatMap fun entity hentity => hR.append (h entity hentity) (hR.plain _ isPlain_blank)

theorem titled {title : String} (htitle : Span.Unframed [⟨.comment, "// " ++ title⟩])
    {a a' : Listing} (hnil : a = [] ↔ a' = []) (h : R a a') :
    R (Listing.titled title a) (Listing.titled title a') := by
  cases a with
  | nil =>
    rw [hnil.1 rfl]
    exact hR.nil
  | cons item a =>
    cases a' with
    | nil => cases hnil.2 rfl
    | cons item' a' => exact hR.cons ⟨_, rfl, rfl, htitle, by simp⟩ h

theorem titled_spaced {α : Type} {title : String}
    (htitle : Span.Unframed [⟨.comment, "// " ++ title⟩]) {f g : α → Listing} {entities : List α}
    (h : ∀ entity ∈ entities, R (f entity) (g entity)) :
    R (Listing.titled title (Listing.spaced f entities))
      (Listing.titled title (Listing.spaced g entities)) :=
  hR.titled htitle (by rw [spaced_eq_nil, spaced_eq_nil]) (hR.spaced h)

/-! ### Members -/

/-- Bodies are related if their code is. -/
theorem body {style style' : BodyStyle} {body : Body} (h : R (body.code style) (body.code style')) :
    R (body.listing style) (body.listing style') := by
  rw [body.listing_eq, body.listing_eq]
  refine hR.cons (isPlain_maxStack body) (hR.append ?_ (hR.cons isPlain_blank h))
  rw [Body.localsListing]
  split
  · exact hR.nil
  · refine hR.cons ⟨_, rfl, rfl, Span.unframed_cons rfl, ?_⟩
      (hR.append (hR.indented _ (isPlain_locals body))
        (hR.plain _ ⟨_, rfl, rfl, by decide, by simp⟩))
    split <;> simp

/-- Methods are related if their bodies are. -/
theorem method {style style' : BodyStyle} {method : Method}
    (h : ∀ body ∈ method.body, R (body.listing style) (body.listing style')) :
    R (method.listing style) (method.listing style') := by
  have hparameters : Span.NoDirective (Span.separated (method.parameters.map fun parameter =>
      parameter.type.signatureSpans ++
        [⟨.text, " "⟩, ⟨.text, Name.escape parameter.name⟩])) := by
    refine Span.NoDirective.separated fun run hrun => ?_
    obtain ⟨parameter, -, rfl⟩ := List.mem_map.1 hrun
    simp
  refine hR.begin rfl (by simp [Method.headerSpans, hparameters]) (hR.block _ (hR.append ?_ ?_))
  · exact hR.plains (isPlain_attributes _)
  · cases hbody : method.body with
    | none => exact hR.nil
    | some body => exact h body hbody

theorem field (field : Field) : R field.listing field.listing := by
  refine hR.header _ rfl ?_
  cases field.constant <;> simp

theorem property (property : Property) : R property.listing property.listing := by
  have hparameters : Span.NoDirective
      (Span.separated (property.parameters.map (·.type.signatureSpans))) := by
    refine Span.NoDirective.separated fun run hrun => ?_
    obtain ⟨parameter, -, rfl⟩ := List.mem_map.1 hrun
    simp
  refine hR.begin rfl (by simp [Property.headerSpans, hparameters]) (hR.block _ ?_)
  refine hR.append (hR.append ?_ ?_) ?_
  · exact hR.plains (isPlain_accessors (by decide) rfl _)
  · exact hR.plains (isPlain_accessors (by decide) rfl _)
  · exact hR.plains (isPlain_accessors (by decide) rfl _)

theorem event (event : Event) : R event.listing event.listing := by
  refine hR.begin rfl (by simp [Event.headerSpans]) (hR.block _ ?_)
  refine hR.append (hR.append ?_ ?_) ?_
  · exact hR.plains (isPlain_accessors (by decide) rfl _)
  · exact hR.plains (isPlain_accessors (by decide) rfl _)
  · exact hR.plains (isPlain_accessors (by decide) rfl _)

/-! ### Types -/

variable {style style' : BodyStyle}

theorem memberListing {decl : TypeDecl}
    (h : ∀ method ∈ decl.allMethods, R (method.listing style) (method.listing style')) :
    R (decl.memberListing style) (decl.memberListing style') := by
  refine hR.append (hR.append (hR.append ?_ ?_) ?_) ?_
  · refine hR.titled (by decide) Iff.rfl ?_
    split
    · exact hR.nil
    · exact hR.append (hR.flatMap fun field _ => hR.field field) (hR.plain _ isPlain_blank)
  · exact hR.titled_spaced (by decide) h
  · exact hR.titled_spaced (by decide) fun event _ => hR.event event
  · exact hR.titled_spaced (by decide) fun property _ => hR.property property

theorem decl {decl : TypeDecl} {nested nested' : Listing} (hnil : nested = [] ↔ nested' = [])
    (hnested : R nested nested')
    (h : ∀ method ∈ decl.allMethods, R (method.listing style) (method.listing style')) :
    R (decl.listing style nested) (decl.listing style' nested') := by
  refine hR.begin rfl (by simp [TypeDecl.headerSpans])
    (hR.append (hR.indented _ (isPlain_parentListing decl)) (hR.block _ ?_))
  refine hR.append (hR.append ?_ (hR.titled (by decide) hnil hnested)) (hR.memberListing h)
  exact hR.plains (isPlain_attributes _)

omit hR in
theorem methodsOf_cons (type : TypeDef) (types : List TypeDef) :
    TypeDef.methodsOf (type :: types) =
      type.allMethods ++ TypeDef.methodsOf type.nestedTypes ++ TypeDef.methodsOf types := by
  obtain ⟨decl, nested⟩ := type
  simp [TypeDef.methodsOf, TypeDef.walkAll, TypeDef.walk]

mutual

theorem type : ∀ (type : TypeDef),
    (∀ method ∈ type.allMethods ++ TypeDef.methodsOf type.nestedTypes,
      R (method.listing style) (method.listing style')) →
    R (type.listing style) (type.listing style')
  | ⟨decl, nested⟩, h => by
    rw [TypeDef.listing, TypeDef.listing]
    refine hR.decl (by rw [listingAll_eq_nil, listingAll_eq_nil]) (types nested ?_) ?_
    · exact fun method hmethod => h method (List.mem_append_right _ hmethod)
    · exact fun method hmethod => h method (List.mem_append_left _ hmethod)
termination_by structural type => type

/-- Types are related if all their methods are. -/
theorem types : ∀ (types : List TypeDef),
    (∀ method ∈ TypeDef.methodsOf types, R (method.listing style) (method.listing style')) →
    R (TypeDef.listingAll style types) (TypeDef.listingAll style' types)
  | [], _ => hR.nil
  | type :: types, h => by
    rw [methodsOf_cons] at h
    rw [TypeDef.listingAll, TypeDef.listingAll]
    refine hR.append (BlockCongruence.type type ?_)
      (hR.cons isPlain_blank (BlockCongruence.types types ?_))
    · exact fun method hmethod => h method (List.mem_append_left _ hmethod)
    · exact fun method hmethod => h method (List.mem_append_right _ hmethod)
termination_by structural types => types

end

/-- A namespace is related if all methods of its types are. -/
theorem space {space : String} {types : List TypeDef}
    (h : ∀ method ∈ TypeDef.methodsOf types, R (method.listing style) (method.listing style')) :
    R (TypeDef.namespaceListing style space types)
      (TypeDef.namespaceListing style' space types) := by
  rw [TypeDef.namespaceListing, TypeDef.namespaceListing]
  split
  · exact hR.append hR.checkpoint (hR.types types h)
  · exact hR.begin rfl (by simp) (hR.block _ (hR.types types h))

/-! ### Modules -/

theorem reference (reference : AssemblyRef) : R reference.listing reference.listing := by
  refine hR.begin rfl (by simp) (hR.block _ (hR.append (hR.append ?_ ?_) ?_))
  · split
    · exact hR.nil
    · exact hR.nil
    · exact hR.plain _ ⟨_, rfl, rfl, Span.unframed_cons rfl, by simp⟩
  · exact hR.plains (isPlain_cultureListing (by decide) rfl _)
  · exact hR.plain _ (isPlain_version _)

theorem manifest (manifest : Manifest) : R manifest.listing manifest.listing := by
  refine hR.begin rfl (by simp) (hR.block _ (hR.append (hR.append (hR.append ?_ ?_) ?_) ?_))
  · exact hR.plains (isPlain_attributes _)
  · refine hR.plains fun item hitem => ?_
    obtain ⟨algorithm, -, rfl⟩ := List.mem_map.1 hitem
    exact ⟨_, rfl, rfl, Span.unframed_cons rfl, by simp⟩
  · exact hR.plains (isPlain_cultureListing (by decide) rfl _)
  · exact hR.plain _ (isPlain_version _)

theorem moduleHeader (module : Module) : R module.headerListing module.headerListing := by
  refine hR.begin rfl (by simp) (hR.append (hR.plains fun item hitem => ?_)
    (hR.plains fun item hitem => ?_))
  · obtain ⟨mvid, -, rfl⟩ := List.mem_map.1 hitem
    exact isPlain_mvid mvid
  · simp only [List.mem_cons, List.not_mem_nil, or_false] at hitem
    rcases hitem with rfl | rfl | rfl | rfl | rfl <;>
      exact ⟨_, rfl, rfl, Span.unframed_cons rfl, by simp⟩

theorem content {module : Module}
    (h : ∀ method ∈ TypeDef.methodsOf module.types,
      R (method.listing style) (method.listing style')) :
    R (module.contentListing style) (module.contentListing style') := by
  refine hR.flatMap fun (space, types) hgroup => hR.space fun method hmethod => h method ?_
  exact TypeDef.methodsOf_subset (Module.subset_of_mem_namespaces hgroup) hmethod

end BlockCongruence

/-! ### Entities -/

/-- A relation between listings that is kept by what the listings of entities are made of. -/
structure Congruence (R : Listing → Listing → Prop) : Prop where
  nil : R [] []
  append : ∀ {a a' b b'}, R a a' → R b b' → R (a ++ b) (a' ++ b')
  checkpoint : R [.checkpoint] [.checkpoint]
  header : ∀ spans, Span.startEntity spans = true →
    R [.checkpoint, .line .header spans] [.checkpoint, .line .header spans]
  detail : ∀ item : Item, item.IsDetail → R [item] [item]
  indented : ∀ {a a'}, R a a' → R (indented a) (indented a')

theorem isDetail_opening : opening.IsDetail := ⟨_, rfl, rfl⟩

theorem isDetail_closing (comment : String) : (closing comment).IsDetail := ⟨_, rfl, rfl⟩

namespace Congruence

variable {R : Listing → Listing → Prop} (hR : Congruence R)
include hR

theorem cons {item : Item} {a a' : Listing} (hitem : item.IsDetail) (h : R a a') :
    R (item :: a) (item :: a') :=
  hR.append (hR.detail item hitem) h

theorem block {comment : String} {a a' : Listing} (h : R a a') :
    R (Listing.block comment a) (Listing.block comment a') :=
  hR.cons isDetail_opening
    (hR.append (hR.indented h) (hR.detail _ (isDetail_closing comment)))

/-- The lines of a block are details too, so nothing more is asked of a block as a whole. -/
theorem blocks : BlockCongruence R where
  nil := hR.nil
  append := hR.append
  checkpoint := hR.checkpoint
  header spans hspans _ := hR.header spans hspans
  plain item hitem := hR.detail item hitem.isDetail
  indented _ hitems := hR.indented <|
    refl_of_items hR.nil hR.append fun item hitem => hR.detail item (hitems item hitem).isDetail
  block _ _ _ h := hR.block h

variable {style style' : BodyStyle}

theorem body {body : Body} (h : R (body.code style) (body.code style')) :
    R (body.listing style) (body.listing style') :=
  hR.blocks.body h

theorem method {method : Method}
    (h : ∀ body ∈ method.body, R (body.listing style) (body.listing style')) :
    R (method.listing style) (method.listing style') :=
  hR.blocks.method h

theorem assembly {full : Bool} {assembly : Assembly}
    (h : full = true → ∀ method ∈ TypeDef.methodsOf assembly.module.types,
      R (method.listing style) (method.listing style')) :
    R (assembly.listing style full) (assembly.listing style' full) := by
  have hblank : R [blank] [blank] := hR.detail _ isPlain_blank.isDetail
  refine hR.append (hR.append (hR.append (hR.append ?_ ?_) ?_) ?_) ?_
  · exact hR.cons ⟨_, rfl, rfl⟩ hblank
  · split
    · exact hR.blocks.flatMap fun reference _ => hR.blocks.reference reference
    · exact hR.nil
  · cases assembly.manifest with
    | none => exact hR.nil
    | some manifest => exact hR.blocks.manifest manifest
  · exact hR.append hblank (hR.blocks.moduleHeader _)
  · split
    · next hfull => exact hR.append hblank (hR.append hblank (hR.blocks.content (h hfull)))
    · exact hR.nil

theorem accessors {accessors : List Method}
    (h : ∀ method ∈ accessors, R (method.listing style) (method.listing style')) :
    R (Entity.listing.accessorListing style accessors)
      (Entity.listing.accessorListing style' accessors) :=
  hR.blocks.flatMap fun method hmethod => hR.cons isPlain_blank.isDetail (h method hmethod)

/-- The listings of an entity are related if those of its methods are. -/
theorem entity {full : Bool} {entity : Entity}
    (h : ∀ method ∈ entity.methods full, R (method.listing style) (method.listing style')) :
    R (entity.listing style full) (entity.listing style' full) := by
  cases entity with
  | assembly a =>
    refine hR.assembly fun hfull => ?_
    rwa [Entity.methods, if_pos hfull] at h
  | space name types => exact hR.blocks.space h
  | type t =>
    refine hR.blocks.type t fun method hmethod => h method ?_
    rw [Entity.methods, BlockCongruence.methodsOf_cons]
    exact List.mem_append_left _ hmethod
  | method m => exact h m List.mem_cons_self
  | field f => exact hR.blocks.field f
  | property p => exact hR.append (hR.blocks.property p) (hR.accessors h)
  | event e => exact hR.append (hR.blocks.event e) (hR.accessors h)

end Congruence

end Listing

end Cil
