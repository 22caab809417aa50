import Cil.Proofs.Blocks
import Cil.Proofs.Cancellation

/-!
# Listings are put together from listings

Where nobody cancels, what is listed does not depend on where it stands: at a depth the same lines
are written with that many tabs in front (`linesAt_add`). So the rendering of a namespace holds the
renderings of its types, and that of an assembly those of its namespaces (`listings_compose`).

`Listing.linesAt` gives the lines of a listing at a depth without a session. It is taken apart along
`++` where the first part ends as deep as it starts (`linesAt_append`), which is what `Balanced`
says of a part without a fault.
-/

namespace Cil

/-! ### Lines further in -/

/-- The line with tabs in front of it, unless it is empty. -/
def Line.indent (depth : Nat) (line : Line) : Line :=
  if line = [] then [] else Line.ofSpans (Span.tabs depth :: line)

theorem Row.line_add (n depth : Nat) (role : Role) (spans : List Span) :
    Row.line ⟨n + depth, role, spans⟩ = Line.indent n (Row.line ⟨depth, role, spans⟩) := by
  rw [line_eq, line_eq, recorded, recorded]
  by_cases hplain : Span.plain spans = ""
  · rw [if_pos hplain, if_pos hplain]
    rfl
  · have hne : Line.ofSpans (Span.tabs depth :: spans) ≠ [] := by
      intro heq
      have htext := Line.text_ofSpans (Span.tabs depth :: spans)
      rw [heq, Span.plain_cons] at htext
      exact hplain (String.append_eq_empty_iff.1 htext.symm).2
    rw [if_neg hplain, if_neg hplain]
    rw [Line.indent, if_neg hne, Line.ofSpans, Line.ofSpans, List.foldl_cons, List.foldl_cons,
      Line.foldl_write_ofSpans, List.foldl_cons, Span.tabs, Span.tabs, Span.tabs, Line.write_write,
      ← String.ofList_append, List.replicate_append_replicate]

namespace Session

variable {session : Session} {watch : Watch}

theorem rows_append {first : Listing} (h : (session.run watch first).2 = none) (second : Listing) :
    session.rows watch (first ++ second) =
      session.rows watch first ++ (session.run watch first).1.rows watch second := by
  induction first generalizing session with
  | nil => rfl
  | cons item first ih =>
    cases item with
    | line role spans =>
      rw [List.cons_append, rows, rows, ih h]
      rfl
    | enter => exact ih h
    | leave => exact ih h
    | checkpoint =>
      rw [run] at h
      split at h
      · cases h
      · next hlive =>
        rw [List.cons_append, rows, rows, run, if_neg hlive, if_neg hlive, if_neg hlive]
        exact ih h
    | fail fault => cases h

theorem rows_append_of_stopped {first : Listing} (h : (session.run watch first).2 ≠ none)
    (second : Listing) :
    session.rows watch (first ++ second) = session.rows watch first := by
  induction first generalizing session with
  | nil => exact absurd rfl h
  | cons item first ih =>
    cases item with
    | line role spans => exact congrArg (_ :: ·) (ih h)
    | enter => exact ih h
    | leave => exact ih h
    | checkpoint =>
      rw [run] at h
      rw [List.cons_append, rows, rows]
      split
      · rfl
      · next hlive =>
        rw [if_neg hlive] at h
        exact ih h
    | fail fault => rfl

theorem cancelled_run_never (listing : Listing) :
    (session.run .never listing).1.cancelled = session.cancelled := by
  induction listing generalizing session with
  | nil => rfl
  | cons item listing ih =>
    cases item with
    | line role spans => rw [run, ih, cancelled_callAll_never]
    | enter => exact ih
    | leave => exact ih
    | checkpoint =>
      rw [run]
      split
      · rfl
      · exact ih
    | fail fault => rfl

/-- Without cancellation the rows depend on the depth of a session and on nothing else of it. -/
theorem rows_never_eq (hlive : session.cancelled = false) (listing : Listing) :
    session.rows .never listing = ({ depth := session.depth } : Session).rows .never listing := by
  have hdepth : session.depth = ({ depth := session.depth } : Session).depth := rfl
  rcases (rows_truncated .never hdepth rfl listing).2 with hcancelled | ⟨-, hrows⟩
  · rw [run_never hlive] at hcancelled
    cases hfault : listing.fault? <;> simp [hfault] at hcancelled
  · exact hrows

end Session

/-! ### The lines at a depth -/

namespace Listing

/-- The lines that a listing leaves at a depth if nobody cancels it. -/
def linesAt (depth : Nat) (listing : Listing) : List Line :=
  (({ depth } : Session).rows .never listing).map Row.line

variable {depth : Nat} {first second listing : Listing}

@[simp] theorem linesAt_nil : linesAt depth [] = [] := rfl

theorem linesAt_line (role : Role) (spans : List Span) :
    linesAt depth (.line role spans :: listing) =
      Row.line ⟨depth, role, spans⟩ :: linesAt depth listing := by
  unfold linesAt
  rw [Session.rows, Session.rows_never_eq (by simp), Session.depth_callAll]
  rfl

@[simp] theorem linesAt_blank : linesAt depth (blank :: listing) = [] :: linesAt depth listing :=
  linesAt_line .detail []

@[simp] theorem linesAt_checkpoint :
    linesAt depth (.checkpoint :: listing) = linesAt depth listing := rfl

/-- What comes after a part that ends as deep as it starts is written as if it came first. -/
theorem linesAt_append (hbalanced : Balanced first) (hfault : first.fault? = none) :
    linesAt depth (first ++ second) = linesAt depth first ++ linesAt depth second := by
  have hended : (({ depth } : Session).run .never first).2 = none := by
    rw [Session.run_never rfl, hfault]
    rfl
  obtain ⟨opened, -, hdepth, hopened⟩ := Session.run_balanced .never hbalanced
  rw [hopened hended] at hdepth
  have hlive : (({ depth } : Session).run .never first).1.cancelled = false :=
    Session.cancelled_run_never first
  unfold linesAt
  rw [Session.rows_append hended, List.map_append, Session.rows_never_eq hlive, hdepth]
  rfl

theorem linesAt_block (comment : String) (hbalanced : Balanced listing)
    (hfault : listing.fault? = none) :
    linesAt depth (block comment listing) =
      Row.line ⟨depth, .detail, [⟨.text, "\x7b"⟩]⟩ :: linesAt (depth + 1) listing ++
        linesAt depth [closing comment] := by
  have henter : ∀ rest : Listing, linesAt depth (.enter :: rest) = linesAt (depth + 1) rest :=
    fun _ => rfl
  have hleave : linesAt (depth + 1) [.leave, closing comment] = linesAt depth [closing comment] :=
    rfl
  rw [block, opening, single, indented, List.cons_append, List.cons_append, List.cons_append,
    List.append_assoc, linesAt_line, henter, linesAt_append hbalanced hfault]
  exact congrArg (_ :: _ ++ ·) hleave

/-- Further in, a listing that steps out of no depth of zero has the same lines with more tabs. -/
theorem linesAt_add {base : Nat} {after : Nat → OpenBlocks → Prop} {blocks : OpenBlocks}
    (h : Safe base after listing depth blocks) (n : Nat) :
    linesAt (n + depth) listing = (linesAt depth listing).map (Line.indent n) := by
  induction listing generalizing depth blocks with
  | nil => rfl
  | cons item listing ih =>
    cases item with
    | line role spans =>
      obtain ⟨-, blocks', -, hrest⟩ := h
      rw [linesAt_line, linesAt_line, List.map_cons, Row.line_add, ih hrest]
    | enter => exact ih h
    | leave =>
      obtain ⟨hpos, hrest⟩ := h
      have hdepth : n + depth - 1 = n + (depth - 1) := by omega
      have hshift := ih hrest
      rw [← hdepth] at hshift
      exact hshift
    | checkpoint => exact ih h.2
    | fail fault => rfl

theorem linesAt_eq_map (h : Balanced listing) (depth : Nat) :
    linesAt depth listing = (linesAt 0 listing).map (Line.indent depth) :=
  linesAt_add (h 0 (fun _ _ => True) 0 [] rfl trivial) depth

/-- The text of a listing on its own. -/
def text (listing : Listing) : String := Line.textAll (linesAt 0 listing)

@[simp] theorem text_nil : text [] = "" := rfl

@[simp] theorem text_line (role : Role) (spans : List Span) :
    text (.line role spans :: listing) = Span.plain spans ++ "\n" ++ text listing := by
  have hrow : (Row.line ⟨0, role, spans⟩).text = Span.plain spans := by
    rw [← String.toList_inj, Row.toList_text_line]
    split
    · next hnil => exact hnil.symm
    · rfl
  rw [text, linesAt_line, ← List.singleton_append, Line.textAll_append]
  simp [Line.textAll, hrow, text]

theorem text_append (hbalanced : Balanced first) (hfault : first.fault? = none) :
    text (first ++ second) = text first ++ text second := by
  rw [text, linesAt_append hbalanced hfault, Line.textAll_append, text, text]

theorem text_flatMap {α : Type} {f : α → Listing} {entities : List α}
    (hbalanced : ∀ entity ∈ entities, Balanced (f entity))
    (hfault : ∀ entity ∈ entities, (f entity).fault? = none) :
    text (entities.flatMap f) = String.join (entities.map fun entity => text (f entity)) := by
  induction entities with
  | nil => rfl
  | cons entity entities ih =>
    obtain ⟨hfirst, hrest⟩ := List.forall_mem_cons.1 hbalanced
    obtain ⟨hfault, hfaults⟩ := List.forall_mem_cons.1 hfault
    rw [List.flatMap_cons, text_append hfirst hfault, ih hrest hfaults, List.map_cons,
      String.join_cons]

theorem fault?_flatMap {α : Type} {f : α → Listing} {entities : List α} :
    fault? (entities.flatMap f) = none ↔ ∀ entity ∈ entities, (f entity).fault? = none := by
  induction entities with
  | nil => simp
  | cons entity entities ih =>
    rw [List.flatMap_cons, fault?_append, Option.or_eq_none_iff, ih, List.forall_mem_cons]

end Listing

/-! ### Fresh sessions -/

namespace Session

variable {session : Session} {listing : Listing}

theorem AtLineStart.lines_run_never (hstart : session.AtLineStart)
    (hlive : session.cancelled = false) :
    (session.run .never listing).1.lines = session.lines ++ listing.linesAt session.depth := by
  rw [hstart.lines_run, rows_never_eq hlive]
  rfl

theorem lines_run_fresh (listing : Listing) :
    (({} : Session).run .never listing).1.lines = listing.linesAt 0 := by
  rw [(atLineStart_nil 0 false).lines_run_never rfl]
  rfl

theorem text_run_fresh (listing : Listing) :
    (({} : Session).run .never listing).1.text = listing.text := by
  rw [text_run]
  exact String.empty_append

theorem run_never_eq_none (hlive : session.cancelled = false) :
    (session.run .never listing).2 = none ↔ listing.fault? = none := by
  rw [run_never hlive, Option.map_eq_none_iff]

end Session

namespace Language

variable (style : BodyStyle) (full : Bool) (entity : Entity)

theorem lines_render :
    ((disassembly style).render full .never false entity).1.lines =
      (entity.listing style full).linesAt 0 :=
  Session.lines_run_fresh _

theorem text_render :
    ((disassembly style).render full .never false entity).1.text =
      (entity.listing style full).text :=
  Session.text_run_fresh _

theorem render_eq_none :
    ((disassembly style).render full .never false entity).2 = none ↔
      (entity.listing style full).fault? = none :=
  Session.run_never_eq_none rfl

end Language

/-- A request carried out on its own. -/
def Request.standalone (style : BodyStyle) (request : Request) : Session × Option RenderError :=
  ({} : Session).run .never (request.listing style)

/-! ### Namespaces -/

/-- The lines of a namespace around those of its types. -/
def namespaceLines (space : String) (types : List (List Line)) : List Line :=
  if space = "" then types.flatMap (· ++ [[]])
  else
    [⟨.directive, ".namespace "⟩, ⟨.typeName, space⟩] :: [⟨.text, "\x7b"⟩] ::
      types.flatMap (fun lines => lines.map (Line.indent 1) ++ [[]]) ++
      [[⟨.text, "\x7d"⟩, ⟨.comment, " // end of namespace " ++ space⟩]]

namespace TypeDef

variable {style : BodyStyle} {types : List TypeDef}

theorem balanced_listing (style : BodyStyle) (type : TypeDef) :
    Listing.Balanced (type.listing style) :=
  (Request.type type).balanced_listing style

theorem balanced_listingAll (style : BodyStyle) (types : List TypeDef) :
    Listing.Balanced (listingAll style types) :=
  @Listing.BlockCongruence.types _ Listing.congruence_balanced style style types
    fun method _ => method.balanced_listing style

theorem fault?_listingAll :
    (listingAll style types).fault? = none ↔
      ∀ type ∈ types, (type.listing style).fault? = none := by
  induction types with
  | nil => simp [listingAll]
  | cons type types ih =>
    rw [listingAll, Listing.fault?_append, Option.or_eq_none_iff, Listing.blank,
      Listing.fault?_line, ih, List.forall_mem_cons]

theorem fault?_namespaceListing {space : String} :
    (namespaceListing style space types).fault? = none ↔
      ∀ type ∈ types, (type.listing style).fault? = none := by
  rw [← fault?_listingAll, namespaceListing]
  split
  · rfl
  · simp [Listing.block, Listing.opening, Listing.closing, Listing.single]

theorem linesAt_listingAll (depth : Nat)
    (hfault : ∀ type ∈ types, (type.listing style).fault? = none) :
    (listingAll style types).linesAt depth =
      types.flatMap fun type => (type.listing style).linesAt depth ++ [[]] := by
  induction types with
  | nil => rfl
  | cons type types ih =>
    obtain ⟨hfirst, hrest⟩ := List.forall_mem_cons.1 hfault
    rw [listingAll, Listing.linesAt_append (type.balanced_listing style) hfirst,
      Listing.linesAt_blank, ih hrest, List.flatMap_cons, List.append_assoc]
    rfl

theorem linesAt_namespaceListing (space : String)
    (hfault : ∀ type ∈ types, (type.listing style).fault? = none) :
    (namespaceListing style space types).linesAt 0 =
      namespaceLines space (types.map fun type => (type.listing style).linesAt 0) := by
  unfold namespaceListing namespaceLines
  by_cases hspace : space = ""
  · rw [if_pos hspace, if_pos hspace, Listing.linesAt_checkpoint, linesAt_listingAll 0 hfault,
      List.flatMap_map]
  · have hheader : Row.line ⟨0, .header, [⟨.directive, ".namespace "⟩, ⟨.typeName, space⟩]⟩ =
        [⟨.directive, ".namespace "⟩, ⟨.typeName, space⟩] := by
      simp [Row.line_eq, Row.recorded, Line.ofSpans, Line.write, Line.extend, Span.tabs, hspace]
    have hclosing : Listing.linesAt 0 [Listing.closing ("end of namespace " ++ space)] =
        [[⟨.text, "\x7d"⟩, ⟨.comment, " // end of namespace " ++ space⟩]] := by
      have hcomment :
          " // " ++ ("end of namespace " ++ space) = " // end of namespace " ++ space := by
        rw [← String.append_assoc]
        rfl
      rw [Listing.closing, Listing.linesAt_line, hcomment]
      simp [Row.line_eq, Row.recorded, Line.ofSpans, Line.write, Line.extend, Span.tabs]
    have hdeeper : (fun type : TypeDef => (type.listing style).linesAt 1 ++ [[]]) =
        fun type => ((type.listing style).linesAt 0).map (Line.indent 1) ++ [[]] := by
      funext type
      rw [Listing.linesAt_eq_map (type.balanced_listing style)]
    rw [if_neg hspace, if_neg hspace, Listing.linesAt_checkpoint, Listing.linesAt_line, hheader,
      Listing.linesAt_block _ (balanced_listingAll style types) (fault?_listingAll.2 hfault),
      linesAt_listingAll _ hfault, hclosing, List.flatMap_map, hdeeper]
    rfl

end TypeDef

/-! ### Assemblies -/

namespace Module

variable {style : BodyStyle} {module : Module}

theorem fault?_contentListing :
    (module.contentListing style).fault? = none ↔
      ∀ group ∈ module.namespaces,
        (TypeDef.namespaceListing style group.1 group.2).fault? = none :=
  Listing.fault?_flatMap

theorem text_contentListing (hfault : (module.contentListing style).fault? = none) :
    (module.contentListing style).text =
      String.join (module.namespaces.map fun group =>
        (TypeDef.namespaceListing style group.1 group.2).text) := by
  refine Listing.text_flatMap (fun group _ => ?_) (fault?_contentListing.1 hfault)
  exact (Request.space group.1 group.2).balanced_listing style

end Module

namespace Assembly

/-- The text of an assembly around that of its references and that of its types. -/
def textAround (style : BodyStyle) (references types : String) (assembly : Assembly) : String :=
  "// " ++ assembly.fileName ++ "\n\n" ++ references ++
    (assembly.manifest.elim "" fun manifest =>
      ((Request.manifest manifest).standalone style).1.text) ++
    "\n" ++ ((Request.moduleHeader assembly.module).standalone style).1.text ++ types

theorem fault?_references (module : Module) : module.referenceListing.fault? = none :=
  Listing.fault?_flatMap.2 fun reference _ =>
    (Listing.congruence_agree.blocks.reference reference).fault

theorem fault?_manifest (manifest : Manifest) : manifest.listing.fault? = none :=
  (Listing.congruence_agree.blocks.manifest manifest).fault

theorem fault?_moduleHeader (module : Module) : module.headerListing.fault? = none :=
  (Listing.congruence_agree.blocks.moduleHeader module).fault

/-- Only the types of an assembly can be at fault. -/
theorem fault?_listing (style : BodyStyle) (full : Bool) (assembly : Assembly) :
    (assembly.listing style full).fault? =
      if full then (assembly.module.contentListing style).fault? else none := by
  have hmanifest : Listing.fault? (assembly.manifest.elim [] Manifest.listing) = none := by
    cases assembly.manifest with
    | none => rfl
    | some manifest => exact fault?_manifest manifest
  cases full <;>
    simp [listing, Listing.single, Listing.blank, hmanifest, fault?_references, fault?_moduleHeader]

/-- The text of an assembly goes along with its listing: a line and a blank one, the references, the
manifest, a blank line, the module and the types. -/
theorem text_listing (style : BodyStyle) (full : Bool) (assembly : Assembly) :
    (assembly.listing style full).text =
      assembly.textAround style
        (if full then ((Request.references assembly.module).standalone style).1.text else "")
        (if full then "\n\n" ++ (assembly.module.contentListing style).text else "") := by
  have hreferences : ∀ rest : Listing, Listing.text (assembly.module.referenceListing ++ rest) =
      assembly.module.referenceListing.text ++ rest.text := fun _ =>
    Listing.text_append ((Request.references assembly.module).balanced_listing style)
      (fault?_references assembly.module)
  have hmanifest : ∀ (manifest : Manifest) (rest : Listing),
      Listing.text (manifest.listing ++ rest) = manifest.listing.text ++ rest.text :=
    fun manifest _ =>
      Listing.text_append ((Request.manifest manifest).balanced_listing style)
        (fault?_manifest manifest)
  have hheader : ∀ rest : Listing, Listing.text (assembly.module.headerListing ++ rest) =
      assembly.module.headerListing.text ++ rest.text := fun _ =>
    Listing.text_append ((Request.moduleHeader assembly.module).balanced_listing style)
      (fault?_moduleHeader assembly.module)
  unfold listing textAround
  simp only [Request.standalone, Session.text_run_fresh, Request.listing]
  cases full <;> cases assembly.manifest <;>
    simp [← String.toList_inj, Listing.single, Listing.blank, hreferences, hmanifest, hheader]

end Assembly

/-! ### Renderings -/

/-- Where nobody cancels, a request leaves the same lines wherever it starts, with as many tabs in
front as it starts deep, and has the same result. So the rendering of a namespace succeeds if those
of its types do, and then has their lines in it, one tab further in. Likewise the text of an
assembly that is rendered in full has the texts of its namespaces in it. Otherwise it ends after the
module, and cannot fail. -/
theorem listings_compose (style : BodyStyle) :
    (∀ (request : Request) (session : Session), session.AtLineStart → session.cancelled = false →
      (session.run .never (request.listing style)).2 = (request.standalone style).2 ∧
      (session.run .never (request.listing style)).1.lines =
        session.lines ++ (request.standalone style).1.lines.map (Line.indent session.depth)) ∧
    (∀ (full : Bool) (entity : Entity),
      let outcome := (Language.disassembly style).render full .never false entity
      outcome.1.text = Line.textAll outcome.1.lines) ∧
    (∀ (full : Bool) (space : String) (types : List TypeDef),
      let render := (Language.disassembly style).render full .never false
      ((render (.space space types)).2 = none ↔ ∀ type ∈ types, (render (.type type)).2 = none) ∧
      ((render (.space space types)).2 = none →
        (render (.space space types)).1.lines =
          namespaceLines space (types.map fun type => (render (.type type)).1.lines))) ∧
    ∀ assembly : Assembly,
      let render (full : Bool) := (Language.disassembly style).render full .never false
      ((render true (.assembly assembly)).2 = none ↔
        ∀ group ∈ assembly.module.namespaces, (render true (.space group.1 group.2)).2 = none) ∧
      ((render true (.assembly assembly)).2 = none →
        (render true (.assembly assembly)).1.text =
          assembly.textAround style ((Request.references assembly.module).standalone style).1.text
            ("\n\n" ++ String.join (assembly.module.namespaces.map fun group =>
              (render true (.space group.1 group.2)).1.text))) ∧
      (render false (.assembly assembly)).2 = none ∧
      (render false (.assembly assembly)).1.text = assembly.textAround style "" "" := by
  refine ⟨fun request session hstart hlive => ⟨?_, ?_⟩, fun full entity => ?_,
    fun full space types => ?_, fun assembly => ?_⟩
  · rw [Request.standalone, Session.run_never hlive, Session.run_never rfl]
  · rw [hstart.lines_run_never hlive, Request.standalone, Session.lines_run_fresh,
      Listing.linesAt_eq_map (request.balanced_listing style)]
  · intro outcome
    rw [Language.text_render, Language.lines_render, Listing.text]
  · intro render
    have hspace : (render (.space space types)).2 = none ↔
        ∀ type ∈ types, (type.listing style).fault? = none :=
      (Language.render_eq_none style full _).trans TypeDef.fault?_namespaceListing
    refine ⟨hspace.trans ?_, fun hrender => ?_⟩
    · exact forall₂_congr fun type _ => (Language.render_eq_none style full (.type type)).symm
    · simp only [render, Language.lines_render]
      exact TypeDef.linesAt_namespaceListing space (hspace.1 hrender)
  · intro render
    have hfull : (render true (.assembly assembly)).2 = none ↔
        (assembly.module.contentListing style).fault? = none := by
      rw [Language.render_eq_none, Entity.listing, Assembly.fault?_listing, if_pos rfl]
    refine ⟨(hfull.trans Module.fault?_contentListing).trans ?_, fun hrender => ?_, ?_, ?_⟩
    · exact forall₂_congr fun group _ =>
        (Language.render_eq_none style true (.space group.1 group.2)).symm
    · simp only [render, Language.text_render]
      rw [Entity.listing, Assembly.text_listing, if_pos rfl, if_pos rfl,
        Module.text_contentListing (hfull.1 hrender)]
      rfl
    · rw [Language.render_eq_none, Entity.listing, Assembly.fault?_listing, if_neg (by simp)]
    · simp only [render, Language.text_render]
      rw [Entity.listing, Assembly.text_listing, if_neg (by simp), if_neg (by simp)]

/-- An assembly with two namespaces, of which the one without a name comes between types of the
other. -/
def mixedAssembly : Assembly where
  fileName := "mixed.dll"
  manifest := some { name := "Mixed" }
  module := {
    name := "mixed.dll"
    references := [{ name := "mscorlib" }]
    types := [.ofName "N" "A", .ofName "" "B", .ofName "N" "C"] }

/-- A type after a method that failed inside its block, and an assembly whose types are not rendered
in the order in which they are stored. -/
theorem listings_compose_mixed :
    let session := Session.after .structured .never [.list (.method faultyMethod)]
    let render := (Language.disassembly .structured).render true .never false
    session.depth = 1 ∧
    (session.run .never (Request.listing .structured (.type (.ofName "N" "A")))).1.lines =
      session.lines ++
        ((Request.type (.ofName "N" "A")).standalone .structured).1.lines.map (Line.indent 1) ∧
    (render (.space "N" [.ofName "N" "A", .ofName "N" "C"])).1.lines =
      namespaceLines "N" [(render (.type (.ofName "N" "A"))).1.lines,
        (render (.type (.ofName "N" "C"))).1.lines] ∧
    (render (.assembly mixedAssembly)).2 = none ∧
    (render (.assembly mixedAssembly)).1.text =
      mixedAssembly.textAround .structured
        ((Request.references mixedAssembly.module).standalone .structured).1.text
        ("\n\n" ++ ((render (.space "N" [.ofName "N" "A", .ofName "N" "C"])).1.text ++
          (render (.space "" [.ofName "" "B"])).1.text)) := by
  intro session render
  obtain ⟨hshift, -, hspace, hassembly⟩ := listings_compose .structured
  have hstart : session.AtLineStart := Session.atLineStart_after _ _ _
  have hdepth : session.depth = 1 := by decide +kernel
  have hlive : session.cancelled = false := by decide +kernel
  have htypes : (render (.space "N" [.ofName "N" "A", .ofName "N" "C"])).2 = none := by
    decide +kernel
  have hended : (render (.assembly mixedAssembly)).2 = none := by decide +kernel
  have hlines := (hshift (.type (.ofName "N" "A")) session hstart hlive).2
  rw [hdepth] at hlines
  exact ⟨hdepth, hlines, (hspace true _ _).2 htypes, hended, (hassembly mixedAssembly).2.1 hended⟩

end Cil
