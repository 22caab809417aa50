import Cil.Proofs.Composition

/-!
# Where a listing fails

Only a method body can be at fault, so a rendering fails exactly if a method in it does, with the
error of the first such method. By then all that comes before this method is written, and of the
method what is written of it on its own, as deep as it stands (`stops_at_first_fault`).

`Entity.placedMethods` gives the methods of an entity in the order in which they are listed, each
with its depth. `Listing.Woven` says that a listing is made of those of such methods and of lines
in between that cannot fail. It is followed along the items of a listing, so that it can be cut in
two before any of the methods (`Woven.split`).
-/

namespace Cil

/-! ### Runs of a listing with a fault -/

namespace Session

variable {session : Session} {watch : Watch} {first listing : Listing}

theorem run_append_of_ended (h : (session.run watch first).2 = none) (second : Listing) :
    session.run watch (first ++ second) = (session.run watch first).1.run watch second := by
  have hrun : session.run watch first = ((session.run watch first).1, none) := Prod.ext rfl h
  rw [run_append, hrun]

/-- Whoever cancels it, a run fails only with the first fault of its listing. -/
theorem fault?_of_run_eq_some {fault : LayoutFault}
    (h : (session.run watch listing).2 = some (.layout fault)) : listing.fault? = some fault := by
  have hdepth : session.depth = ({ depth := session.depth } : Session).depth := rfl
  rcases (rows_truncated watch hdepth rfl listing).2 with hcancelled | ⟨hresult, -⟩
  · rw [h] at hcancelled
    cases hcancelled
  · rw [h, run_never rfl] at hresult
    obtain ⟨other, hother, heq⟩ := Option.map_eq_some_iff.1 hresult.symm
    cases heq
    exact hother

end Session

namespace Listing

variable {depth : Nat} {first : Listing}

/-- What comes after a part without a fault is written at the depth that the part leads to. -/
theorem linesAt_append_of_run (hfault : first.fault? = none) (second : Listing) :
    linesAt depth (first ++ second) =
      linesAt depth first ++ linesAt (({ depth } : Session).run .never first).1.depth second := by
  have hended : (({ depth } : Session).run .never first).2 = none :=
    (Session.run_never_eq_none rfl).2 hfault
  have hlive : (({ depth } : Session).run .never first).1.cancelled = false :=
    Session.cancelled_run_never first
  unfold linesAt
  rw [Session.rows_append hended, List.map_append, Session.rows_never_eq hlive]

theorem linesAt_append_of_fault (hfault : first.fault? ≠ none) (second : Listing) :
    linesAt depth (first ++ second) = linesAt depth first := by
  have hstopped : (({ depth } : Session).run .never first).2 ≠ none :=
    mt (Session.run_never_eq_none rfl).1 hfault
  unfold linesAt
  rw [Session.rows_append_of_stopped hstopped]

end Listing

/-! ### Methods in the order of their listings -/

namespace TypeDef

mutual

/-- The methods of a type at a depth, after those of the types nested in it. -/
def placedMethods (depth : Nat) : TypeDef → List (Nat × Method)
  | ⟨decl, nested⟩ =>
    placedMethodsAll (depth + 1) nested ++ decl.allMethods.map fun method => (depth + 1, method)
termination_by structural type => type

def placedMethodsAll (depth : Nat) : List TypeDef → List (Nat × Method)
  | [] => []
  | type :: types => type.placedMethods depth ++ placedMethodsAll depth types
termination_by structural types => types

end

/-- The types of a namespace are one level deeper, unless the namespace has no name. -/
def placedMethodsIn (space : String) (types : List TypeDef) : List (Nat × Method) :=
  placedMethodsAll (if space = "" then 0 else 1) types

end TypeDef

/-- The methods in the listing of an entity, in their order and each with its depth. -/
def Entity.placedMethods (full : Bool) : Entity → List (Nat × Method)
  | assembly a =>
    if full then
      a.module.namespaces.flatMap fun group => TypeDef.placedMethodsIn group.1 group.2
    else []
  | space name types => TypeDef.placedMethodsIn name types
  | type t => t.placedMethods 0
  | method m => [(0, m)]
  | field _ => []
  | property p => p.accessors.map fun accessor => (0, accessor)
  | event e => e.accessors.map fun accessor => (0, accessor)

namespace Listing

/-- Carried out from depth `start` to depth `last`, the listing consists of those of the methods,
each at its depth, and of what stands between them: headers and details, but no part of a body. -/
inductive Woven (style : BodyStyle) : Nat → Nat → Listing → List (Nat × Method) → Prop
  | nil (depth) : Woven style depth depth [] []
  | line {start last listing placed role} (hrole : role = .header ∨ role = .detail) (spans)
      (h : Woven style start last listing placed) :
      Woven style start last (.line role spans :: listing) placed
  | checkpoint {start last listing placed} (h : Woven style start last listing placed) :
      Woven style start last (.checkpoint :: listing) placed
  | enter {start last listing placed} (h : Woven style (start + 1) last listing placed) :
      Woven style start last (.enter :: listing) placed
  | leave {start last listing placed} (h : Woven style start last listing placed) :
      Woven style (start + 1) last (.leave :: listing) placed
  | method {start last listing placed} (method : Method)
      (h : Woven style start last listing placed) :
      Woven style start last (method.listing style ++ listing) ((start, method) :: placed)

namespace Woven

variable {style : BodyStyle} {start middle last depth : Nat} {listing first second : Listing}
  {placed others : List (Nat × Method)}

/-! ### Putting listings together -/

theorem append (hfirst : Woven style start middle first placed)
    (hsecond : Woven style middle last second others) :
    Woven style start last (first ++ second) (placed ++ others) := by
  induction hfirst with
  | nil depth => exact hsecond
  | line hrole spans _ ih => exact .line hrole spans (ih hsecond)
  | checkpoint _ ih => exact .checkpoint (ih hsecond)
  | enter _ ih => exact .enter (ih hsecond)
  | leave _ ih => exact .leave (ih hsecond)
  | method method _ ih =>
    rw [List.append_assoc]
    exact .method method (ih hsecond)

theorem cons {item : Item} (hitem : item.IsDetail) (h : Woven style start last listing placed) :
    Woven style start last (item :: listing) placed := by
  obtain ⟨spans, rfl, -⟩ := hitem
  exact .line (.inr rfl) spans h

theorem blank (h : Woven style start last listing placed) :
    Woven style start last (Listing.blank :: listing) placed :=
  cons isPlain_blank.isDetail h

theorem single (method : Method) :
    Woven style depth depth (method.listing style) [(depth, method)] := by
  have hmethod : Woven style depth depth (method.listing style ++ []) [(depth, method)] :=
    .method method (.nil depth)
  rwa [List.append_nil] at hmethod

theorem begin (spans : List Span) (h : Woven style start last listing placed) :
    Woven style start last (.checkpoint :: .line .header spans :: listing) placed :=
  .checkpoint (.line (.inl rfl) spans h)

theorem indented (h : Woven style (depth + 1) (depth + 1) listing placed) :
    Woven style depth depth (Listing.indented listing) placed := by
  have hleave : Woven style (depth + 1) depth [.leave] [] := .leave (.nil depth)
  have hinner := h.append hleave
  rw [List.append_nil] at hinner
  exact .enter hinner

theorem block (comment : String) (h : Woven style (depth + 1) (depth + 1) listing placed) :
    Woven style depth depth (Listing.block comment listing) placed := by
  have hclosing : Woven style depth depth [closing comment] [] :=
    cons (isDetail_closing comment) (.nil depth)
  have hinner := h.indented.append hclosing
  rw [List.append_nil] at hinner
  exact cons isDetail_opening hinner

theorem flatMap {α : Type} {f : α → Listing} {g : α → List (Nat × Method)} {parts : List α}
    (h : ∀ part ∈ parts, Woven style depth depth (f part) (g part)) :
    Woven style depth depth (parts.flatMap f) (parts.flatMap g) := by
  induction parts with
  | nil => exact .nil depth
  | cons part parts ih =>
    obtain ⟨hpart, hparts⟩ := List.forall_mem_cons.1 h
    rw [List.flatMap_cons, List.flatMap_cons]
    exact hpart.append (ih hparts)

theorem titled (title : String) (h : Woven style depth depth listing placed) :
    Woven style depth depth (Listing.titled title listing) placed := by
  cases listing with
  | nil => exact h
  | cons item listing => exact cons ⟨_, rfl, rfl⟩ h

theorem of_plain {items : Listing} (hitems : ∀ item ∈ items, item.IsPlain) :
    Woven style depth depth items [] := by
  induction items with
  | nil => exact .nil depth
  | cons item items ih =>
    obtain ⟨hitem, hrest⟩ := List.forall_mem_cons.1 hitems
    exact cons hitem.isDetail (ih hrest)

theorem spaced {methods : List Method} :
    Woven style depth depth (Listing.spaced (Method.listing style) methods)
      (methods.map fun method => (depth, method)) := by
  have hone : ∀ method ∈ methods,
      Woven style depth depth (method.listing style ++ [Listing.blank]) [(depth, method)] :=
    fun method _ => .method method (blank (.nil depth))
  rw [List.map_eq_flatMap]
  exact flatMap hone

/-! ### Cutting a listing before a method -/

theorem split {earlier later : List (Nat × Method)} {method : Method}
    (h : Woven style start last listing (earlier ++ (depth, method) :: later)) :
    ∃ before after, listing = before ++ (method.listing style ++ after) ∧
      Woven style start depth before earlier ∧ Woven style depth last after later := by
  generalize hplaced : earlier ++ (depth, method) :: later = placed at h
  induction h generalizing earlier with
  | nil depth => simp at hplaced
  | line hrole spans _ ih =>
    obtain ⟨before, after, rfl, hbefore, hafter⟩ := ih hplaced
    exact ⟨_ :: before, after, rfl, .line hrole spans hbefore, hafter⟩
  | checkpoint _ ih =>
    obtain ⟨before, after, rfl, hbefore, hafter⟩ := ih hplaced
    exact ⟨_ :: before, after, rfl, .checkpoint hbefore, hafter⟩
  | enter _ ih =>
    obtain ⟨before, after, rfl, hbefore, hafter⟩ := ih hplaced
    exact ⟨_ :: before, after, rfl, .enter hbefore, hafter⟩
  | leave _ ih =>
    obtain ⟨before, after, rfl, hbefore, hafter⟩ := ih hplaced
    exact ⟨_ :: before, after, rfl, .leave hbefore, hafter⟩
  | method first hrest ih =>
    cases earlier with
    | nil =>
      obtain ⟨heq, rfl⟩ := List.cons.inj hplaced
      cases heq
      exact ⟨[], _, rfl, .nil _, hrest⟩
    | cons other earlier =>
      obtain ⟨rfl, hplaced'⟩ := List.cons.inj hplaced
      obtain ⟨before, after, rfl, hbefore, hafter⟩ := ih hplaced'
      refine ⟨first.listing style ++ before, after, ?_, .method first hbefore, hafter⟩
      rw [List.append_assoc]

/-- The first fault in the listing is that of the first method that has one. -/
theorem fault?_eq (h : Woven style start last listing placed) :
    listing.fault? = placed.findSome? fun entry => (entry.2.listing style).fault? := by
  induction h with
  | nil depth => rfl
  | line _ _ _ ih => exact ih
  | checkpoint _ ih => exact ih
  | enter _ ih => exact ih
  | leave _ ih => exact ih
  | method method _ ih =>
    rw [fault?_append, ih, List.findSome?_cons]
    cases (method.listing style).fault? <;> rfl

theorem fault?_eq_none_iff (h : Woven style start last listing placed) :
    listing.fault? = none ↔ ∀ other ∈ placed, (other.2.listing style).fault? = none := by
  rw [h.fault?_eq, List.findSome?_eq_none_iff]

theorem exists_of_fault (h : Woven style start last listing placed) {fault : LayoutFault}
    (hfault : listing.fault? = some fault) :
    ∃ earlier depth method later, placed = earlier ++ (depth, method) :: later ∧
      (∀ other ∈ earlier, (other.2.listing style).fault? = none) ∧
      (method.listing style).fault? = some fault := by
  rw [h.fault?_eq, List.findSome?_eq_some_iff] at hfault
  obtain ⟨earlier, ⟨depth, method⟩, later, hplaced, hmethod, hearlier⟩ := hfault
  exact ⟨earlier, depth, method, later, hplaced, hearlier, hmethod⟩

/-- Without a fault the depth at the end is the one that the listing says. -/
theorem depth_run (h : Woven style start last listing placed) (hfault : listing.fault? = none)
    {session : Session} (hlive : session.cancelled = false) (hdepth : session.depth = start) :
    (session.run .never listing).1.depth = last := by
  induction h generalizing session with
  | nil depth => exact hdepth
  | line _ spans _ ih => exact ih hfault (by simpa using hlive) (by simpa using hdepth)
  | checkpoint _ ih =>
    rw [Session.run, hlive]
    exact ih hfault hlive hdepth
  | enter _ ih =>
    rw [Session.run]
    exact ih hfault hlive (congrArg (· + 1) hdepth)
  | leave _ ih =>
    rw [Session.run]
    exact ih hfault hlive (by simp [hdepth])
  | method method _ ih =>
    rw [fault?_append, Option.or_eq_none_iff] at hfault
    have hended : (session.run .never (method.listing style)).2 = none :=
      (Session.run_never_eq_none hlive).2 hfault.1
    obtain ⟨opened, -, hopened, hnone⟩ :=
      @Session.run_balanced .never session _ (method.balanced_listing style)
    rw [hnone hended] at hopened
    rw [Session.run_append_of_ended hended]
    exact ih hfault.2 ((Session.cancelled_run_never _).trans hlive) (hopened.trans hdepth)

/-- Of a listing whose first fault is in a method, all is written that comes before the method, and
then of the method what is written of it on its own, further in. -/
theorem linesAt_of_fault {before : Listing} {earlier : List (Nat × Method)}
    (h : Woven style start last before earlier) (hbefore : before.fault? = none) {method : Method}
    (hmethod : (method.listing style).fault? ≠ none) (after : Listing) :
    linesAt start (before ++ (method.listing style ++ after)) =
      linesAt start before ++ (linesAt 0 (method.listing style)).map (Line.indent last) := by
  have hdepth : (({ depth := start } : Session).run .never before).1.depth = last :=
    h.depth_run hbefore rfl rfl
  rw [linesAt_append_of_run hbefore, hdepth, linesAt_append_of_fault hmethod,
    linesAt_eq_map (method.balanced_listing style)]

end Woven

/-- What has no methods in it is woven from none, wherever it stands. -/
theorem congruence_woven (style : BodyStyle) :
    BlockCongruence fun listing _ => ∀ depth, Woven style depth depth listing [] where
  nil depth := .nil depth
  append hfirst hsecond depth := (hfirst depth).append (hsecond depth)
  checkpoint depth := .checkpoint (.nil depth)
  header spans _ _ depth := Woven.begin spans (.nil depth)
  plain _ hitem depth := Woven.cons hitem.isDetail (.nil depth)
  indented _ hitems _ := (Woven.of_plain hitems).indented
  block comment _ _ h depth := (h (depth + 1)).block comment

end Listing

/-! ### The listings of entities -/

open Listing (Woven)

variable {style : BodyStyle}

theorem TypeDecl.woven_memberListing (decl : TypeDecl) (depth : Nat) :
    Woven style depth depth (decl.memberListing style)
      (decl.allMethods.map fun method => (depth, method)) := by
  have hR := Listing.congruence_woven style
  have hfields : Woven style depth depth decl.fieldListing [] := by
    refine Woven.titled _ ?_
    split
    · exact .nil depth
    · have hall : Woven style depth depth (decl.fields.flatMap Field.listing) [] :=
        @Listing.BlockCongruence.flatMap _ hR _ _ Field.listing _
          (fun field _ => hR.field field) depth
      exact hall.append (Woven.blank (.nil depth))
  have hmethods := (@Woven.spaced style depth decl.allMethods).titled "Methods"
  have hevents : Woven style depth depth
      (Listing.titled "Events" (Listing.spaced Event.listing decl.events)) [] :=
    @Listing.BlockCongruence.titled_spaced _ hR _ _ (by decide) _ Event.listing _
      (fun event _ => hR.event event) depth
  have hproperties : Woven style depth depth
      (Listing.titled "Properties" (Listing.spaced Property.listing decl.properties)) [] :=
    @Listing.BlockCongruence.titled_spaced _ hR _ _ (by decide) _ Property.listing _
      (fun property _ => hR.property property) depth
  have hall := ((hfields.append hmethods).append hevents).append hproperties
  rw [List.nil_append, List.append_nil, List.append_nil] at hall
  exact hall

namespace TypeDef

mutual

theorem woven_listing : ∀ (type : TypeDef) (depth : Nat),
    Woven style depth depth (type.listing style) (type.placedMethods depth)
  | ⟨decl, nested⟩, depth => by
    have hparents : Woven style depth depth (Listing.indented decl.parentListing) [] :=
      (Woven.of_plain (Listing.isPlain_parentListing decl)).indented
    have hattributes :
        Woven style (depth + 1) (depth + 1) (decl.attributes.map Attribute.item) [] :=
      Woven.of_plain (Listing.isPlain_attributes decl.attributes)
    have hnested := (woven_listingAll nested (depth + 1)).titled "Nested Types"
    have hinner := (hattributes.append hnested).append (decl.woven_memberListing (depth + 1))
    rw [listing, placedMethods]
    exact Woven.begin _ (hparents.append (hinner.block _))
termination_by structural type => type

theorem woven_listingAll : ∀ (types : List TypeDef) (depth : Nat),
    Woven style depth depth (listingAll style types) (placedMethodsAll depth types)
  | [], depth => .nil depth
  | type :: types, depth => by
    rw [listingAll, placedMethodsAll]
    exact (woven_listing type depth).append (Woven.blank (woven_listingAll types depth))
termination_by structural types => types

end

theorem woven_namespaceListing (space : String) (types : List TypeDef) :
    Woven style 0 0 (namespaceListing style space types) (placedMethodsIn space types) := by
  rw [namespaceListing, placedMethodsIn]
  split
  · exact .checkpoint (woven_listingAll types 0)
  · exact Woven.begin _ ((woven_listingAll types 1).block _)

end TypeDef

theorem Assembly.woven_listing (full : Bool) (assembly : Assembly) :
    Woven style 0 0 (assembly.listing style full)
      (Entity.placedMethods full (.assembly assembly)) := by
  have hR := Listing.congruence_woven style
  have hblank : Woven style 0 0 [Listing.blank] [] := Woven.blank (.nil 0)
  have hfile : Woven style 0 0
      [Listing.single .detail .comment ("// " ++ assembly.fileName), Listing.blank] [] :=
    Woven.cons ⟨_, rfl, rfl⟩ hblank
  have hreferences : Woven style 0 0 assembly.module.referenceListing [] :=
    @Listing.BlockCongruence.flatMap _ hR _ _ AssemblyRef.listing _
      (fun reference _ => hR.reference reference) 0
  have hmanifest : Woven style 0 0 (assembly.manifest.elim [] Manifest.listing) [] := by
    cases assembly.manifest with
    | none => exact .nil 0
    | some manifest => exact hR.manifest manifest 0
  have hheader : Woven style 0 0 (Listing.blank :: assembly.module.headerListing) [] :=
    Woven.blank (hR.moduleHeader assembly.module 0)
  have hcontent : Woven style 0 0
      (Listing.blank :: Listing.blank :: assembly.module.contentListing style)
      (assembly.module.namespaces.flatMap fun group =>
        TypeDef.placedMethodsIn group.1 group.2) := by
    have hgroups : Woven style 0 0 (assembly.module.contentListing style) _ :=
      Woven.flatMap fun group _ => TypeDef.woven_namespaceListing group.1 group.2
    exact Woven.blank (Woven.blank hgroups)
  unfold listing Entity.placedMethods
  cases full with
  | false => simpa using (hfile.append hmanifest).append hheader
  | true =>
    have hlead := ((hfile.append hreferences).append hmanifest).append hheader
    simpa using hlead.append hcontent

theorem Entity.woven_listing (full : Bool) (entity : Entity) :
    Woven style 0 0 (entity.listing style full) (entity.placedMethods full) := by
  have hR := Listing.congruence_woven style
  have haccessors : ∀ accessors : List Method, Woven style 0 0
      (listing.accessorListing style accessors) (accessors.map fun accessor => (0, accessor)) := by
    intro accessors
    have hone : ∀ accessor ∈ accessors,
        Woven style 0 0 (Listing.blank :: accessor.listing style) [(0, accessor)] :=
      fun accessor _ => Woven.blank (Woven.single accessor)
    rw [List.map_eq_flatMap]
    exact Woven.flatMap hone
  cases entity with
  | assembly a => exact a.woven_listing full
  | space name types => exact TypeDef.woven_namespaceListing name types
  | type t => exact t.woven_listing 0
  | method m => exact Woven.single m
  | field f => exact hR.field f 0
  | property p => exact Woven.append (hR.property p 0) (haccessors p.accessors)
  | event e => exact Woven.append (hR.event e 0) (haccessors e.accessors)

/-! ### Renderings -/

/-- Where nobody cancels, an entity is rendered without an error exactly if this holds of each
method in its listing on its own. Otherwise the error is that of the first method that has one. All
that the listing has before this method is written then, after it what is written of the method on
its own, as deep as the method stands, and nothing else. An assembly that is not rendered in full
is never at fault, also if it is cancelled. -/
theorem stops_at_first_fault (style : BodyStyle) (full : Bool) (entity : Entity) :
    let render := (Language.disassembly style).render full .never false
    ((render entity).2 = none ↔
      ∀ placed ∈ entity.placedMethods full, (render (.method placed.2)).2 = none) ∧
    (∀ error, (render entity).2 = some error →
      ∃ earlier depth method later before after,
        entity.placedMethods full = earlier ++ (depth, method) :: later ∧
        (∀ placed ∈ earlier, (render (.method placed.2)).2 = none) ∧
        (render (.method method)).2 = some error ∧
        entity.listing style full = before ++ (method.listing style ++ after) ∧
        Woven style 0 depth before earlier ∧ Woven style depth 0 after later ∧
        (render entity).1.lines =
          (({} : Session).run .never before).1.lines ++
            (render (.method method)).1.lines.map (Line.indent depth)) ∧
    ∀ (watch : Watch) (cancelled : Bool) (assembly : Assembly) (fault : LayoutFault),
      ((Language.disassembly style).render false watch cancelled (.assembly assembly)).2 ≠
        some (.layout fault) := by
  intro render
  have hwoven := @Entity.woven_listing style full entity
  have hended : ∀ other : Entity,
      (render other).2 = none ↔ (other.listing style full).fault? = none :=
    Language.render_eq_none style full
  refine ⟨?_, fun error herror => ?_, fun watch cancelled assembly fault hfault => ?_⟩
  · rw [hended, hwoven.fault?_eq_none_iff]
    exact forall₂_congr fun placed _ => (hended (.method placed.2)).symm
  · have hresult : ∀ other : Entity,
        (render other).2 = (other.listing style full).fault?.map .layout := fun other =>
      Session.run_never rfl
    rw [hresult, Option.map_eq_some_iff] at herror
    obtain ⟨fault, hfault, rfl⟩ := herror
    obtain ⟨earlier, depth, method, later, hplaced, hearlier, hmethod⟩ :=
      hwoven.exists_of_fault hfault
    rw [hplaced] at hwoven
    obtain ⟨before, after, hlisting, hbefore, hafter⟩ := hwoven.split
    have hlines : (entity.listing style full).linesAt 0 = before.linesAt 0 ++
        ((method.listing style).linesAt 0).map (Line.indent depth) := by
      have hfree : before.fault? = none := hbefore.fault?_eq_none_iff.2 hearlier
      rw [hlisting]
      exact hbefore.linesAt_of_fault hfree (by simp [hmethod]) after
    refine ⟨earlier, depth, method, later, before, after, hplaced, ?_, ?_, hlisting, hbefore,
      hafter, ?_⟩
    · exact fun placed hmem => (hended (.method placed.2)).2 (hearlier placed hmem)
    · rw [hresult]
      exact congrArg (Option.map RenderError.layout) hmethod
    · simp only [render, Language.lines_render, Session.lines_run_fresh]
      exact hlines
  · have hnone : (assembly.listing style false).fault? = some fault :=
      Session.fault?_of_run_eq_some hfault
    rw [Assembly.fault?_listing] at hnone
    cases hnone

/-- The getter of a nested type is at fault, and so is a method of the type around it, which is
stored before the nested type but listed after it. -/
def faultyAssembly : Assembly where
  fileName := "faulty.dll"
  module := {
    name := "faulty.dll"
    types := [
      { space := "N"
        name := "A"
        methods := [faultyMethod]
        nestedTypes := [{
          name := "B"
          properties := [{ name := "P", type := .void, getter := some faultyGetter }] }] }] }
where
  faultyGetter : Method := {
    name := "get_P"
    body := some { instructions := [⟨0, "ret", none⟩], regions := [⟨.guarded, 2, 1⟩] } }

theorem stops_at_first_fault_nested :
    let render := (Language.disassembly .structured).render true .never false
    (render (.assembly faultyAssembly)).2 = some (.layout (.emptyRange ⟨.guarded, 2, 1⟩)) ∧
    ∃ before, Woven .structured 0 3 before [] ∧
      (render (.assembly faultyAssembly)).1.lines =
        (({} : Session).run .never before).1.lines ++
          (render (.method faultyAssembly.faultyGetter)).1.lines.map (Line.indent 3) := by
  intro render
  have hresult : (render (.assembly faultyAssembly)).2 =
      some (.layout (.emptyRange ⟨.guarded, 2, 1⟩)) := by decide +kernel
  have hplaced : Entity.placedMethods true (.assembly faultyAssembly) =
      [(3, faultyAssembly.faultyGetter), (2, faultyMethod)] := rfl
  obtain ⟨-, hfails, -⟩ := stops_at_first_fault .structured true (.assembly faultyAssembly)
  obtain ⟨earlier, depth, method, later, before, after, heq, hearlier, -, -, hbefore, -, hlines⟩ :=
    hfails _ hresult
  rw [hplaced] at heq
  cases earlier with
  | nil =>
    cases heq
    exact ⟨hresult, before, hbefore, hlines⟩
  | cons other earlier =>
    obtain ⟨rfl, -⟩ := List.cons.inj heq
    have hgetter := hearlier _ List.mem_cons_self
    exact absurd hgetter (by decide +kernel)

end Cil
