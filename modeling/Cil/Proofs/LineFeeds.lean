import Cil.Language.Registry
import Cil.Metadata.Document
import Cil.Proofs.Recorded
import Cil.Proofs.Shown
import Cil.Selector

/-!
# Line feeds in what is written

A line of a rendering is broken if one of the texts is that the language shows of the entity outside
of string literals, and the plain text falls into the recorded lines if and only if none is
(`lineFeeds_exact`). Nothing in a document keeps line feeds out of names (`lineFeeds_broken`).
-/

namespace Cil

open Listing (Shows)

/-! ### Comments -/

theorem TypeRef.lineFeed_notMem_fullName (ref : TypeRef) :
    '\n' ∉ ref.fullName.toList ↔ Unbroken ref.pathTexts := by
  induction ref with
  | top type => by_cases hspace : type.space = "" <;> simp [fullName, pathTexts, hspace]
  | nested type outer ih => simp [fullName, pathTexts, ← ih]

theorem Manifest.lineFeed_notMem_fullName (manifest : Manifest) :
    '\n' ∉ manifest.fullName.toList ↔ Unbroken (manifest.name :: manifest.culture.toList) := by
  have htoken : '\n' ∉ manifest.tokenText.toList := by
    unfold tokenText
    split <;> simp
  have hculture : '\n' ∉ manifest.cultureText.toList ↔ Unbroken manifest.culture.toList := by
    unfold cultureText
    split <;> simp_all
  simp [fullName, htoken, ← hculture]

namespace Language

theorem unbroken_memberComment (declaring : Option TypeRef) (name : String) :
    Unbroken [comments.memberComment defaultTypeText declaring name] ↔
      Unbroken (Entity.commentTexts.memberTexts declaring name) := by
  cases declaring with
  | none => simp [comments.memberComment, Entity.commentTexts.memberTexts, defaultTypeText]
  | some ref =>
    simp [comments.memberComment, Entity.commentTexts.memberTexts, defaultTypeText,
      ← ref.lineFeed_notMem_fullName]

theorem unbroken_comments (entity : Entity) :
    Unbroken (comments defaultTypeText entity) ↔ Unbroken entity.commentTexts := by
  cases entity with
  | assembly assembly =>
    cases hmanifest : assembly.manifest with
    | none => simp [comments, Entity.commentTexts, hmanifest]
    | some manifest =>
      cases hruntime : manifest.isWindowsRuntime <;>
        simp [comments, Entity.commentTexts, hmanifest, hruntime, manifest.lineFeed_notMem_fullName]
  | space name types => rfl
  | type type =>
    simp [comments, Entity.commentTexts, defaultTypeText, TypeRef.lineFeed_notMem_fullName]
  | method method => exact unbroken_memberComment method.declaringType method.name
  | field field => exact unbroken_memberComment field.declaringType field.name
  | property property => exact unbroken_memberComment property.declaringType property.name
  | event event => exact unbroken_memberComment event.declaringType event.name

theorem shows_commentsOnly (full : Bool) (entity : Entity) :
    Shows (commentsOnly.listing full entity) entity.commentTexts := by
  have hlines : Shows
      ((comments defaultTypeText entity).map fun text => .line .detail (defaultComment text))
      ((comments defaultTypeText entity).flatMap fun text => [text]) :=
    Shows.map fun text _ => Shows.of_iff (by simp [defaultComment])
  rw [← List.map_eq_flatMap, List.map_id'] at hlines
  exact hlines.congr (unbroken_comments entity)

theorem shows_of_mem_shown {full : Bool} {entity : Entity} {language : Language}
    {texts : List String} (h : (language, texts) ∈ entity.shown full) :
    Shows (language.listing full entity) texts := by
  simp only [Entity.shown, List.mem_cons, Prod.mk.injEq, List.not_mem_nil, or_false] at h
  rcases h with ⟨rfl, rfl⟩ | ⟨rfl, rfl⟩ | ⟨rfl, rfl⟩
  · exact entity.shows_listing .flat full
  · exact entity.shows_listing .structured full
  · exact shows_commentsOnly full entity

end Language

/-! ### Renderings -/

/-- No text that was written holds a line feed. -/
def Session.Clean (session : Session) : Prop :=
  ∀ span, Call.write span ∈ session.written → '\n' ∉ span.text.toList

theorem Row.unbroken_written (row : Row) :
    Unbroken (row.written.map Span.text) ↔ Unbroken (row.spans.map Span.text) := by
  have hfilter : ∀ spans : List Span, Unbroken ((spans.filter (·.text ≠ "")).map Span.text) ↔
      Unbroken (spans.map Span.text) := by
    intro spans
    induction spans with
    | nil => rfl
    | cons span spans ih =>
      by_cases hempty : span.text = ""
      · rw [List.filter_cons_of_neg (by simpa using hempty), ih]
        simp [hempty]
      · rw [List.filter_cons_of_pos (by simpa using hempty)]
        simp only [List.map_cons, unbroken_cons, ih]
  rw [← hfilter row.spans, row.written_eq]
  split
  · next hnone => rw [hnone]
  · split
    · rfl
    · simp [Span.tabs]

/-- A recorded line is broken if one of its texts is. -/
theorem Row.lineFeed_notMem_line (row : Row) :
    '\n' ∉ row.line.text.toList ↔ Unbroken (row.spans.map Span.text) := by
  rw [← row.unbroken_written, line, Line.text_ofSpans, Span.plain, String.toList_join]
  simp [Unbroken]

namespace Line

theorem notMem_of_mem_splitOn {chars piece : List Char} {c : Char}
    (h : piece ∈ List.splitOn c chars) : c ∉ piece := by
  induction chars generalizing piece with
  | nil =>
    obtain rfl : piece = [] := by simpa using h
    exact List.not_mem_nil
  | cons first chars ih =>
    rw [List.splitOn_cons_eq_if_modifyHead] at h
    split at h
    · rcases List.mem_cons.1 h with rfl | h
      · exact List.not_mem_nil
      · exact ih h
    · next hfirst =>
      obtain ⟨head, tail, heq⟩ := List.exists_cons_of_ne_nil (List.splitOn_ne_nil c chars)
      rw [heq] at h ih
      rcases List.mem_cons.1 h with rfl | h
      · have hhead := @ih head List.mem_cons_self
        have hne : c ≠ first := fun heq => hfirst (by simp [heq])
        simp [hne, hhead]
      · exact ih (List.mem_cons_of_mem _ h)

/-- The text of lines falls into these lines and nothing after them if none of the lines is
broken. -/
theorem splitOn_textAll (lines : List Line) :
    List.splitOn '\n' (textAll lines).toList = lines.map (·.text.toList) ++ [[]] ↔
      ∀ line ∈ lines, '\n' ∉ line.text.toList := by
  constructor
  · intro hsplit line hline
    have hpiece : line.text.toList ∈ List.splitOn '\n' (textAll lines).toList := by
      rw [hsplit]
      exact List.mem_append_left _ (List.mem_map_of_mem hline)
    exact notMem_of_mem_splitOn hpiece
  · intro hlines
    induction lines with
    | nil => rfl
    | cons line lines ih =>
      obtain ⟨hline, hlines⟩ := List.forall_mem_cons.1 hlines
      have htext : (textAll (line :: lines)).toList =
          line.text.toList ++ '\n' :: (textAll lines).toList := by
        simp [textAll]
      rw [htext, List.splitOn_append_cons_self_of_not_mem hline, ih hlines]
      rfl

end Line

namespace Language

variable {language : Language} {full : Bool} {entity : Entity} {texts : List String} {watch : Watch}
  {cancelled : Bool}

/-- What was written is clean if the lines that were written are. -/
theorem clean_render_iff :
    (language.render full watch cancelled entity).1.Clean ↔
      ∀ row ∈ language.rows full watch cancelled entity, Unbroken (row.spans.map Span.text) := by
  unfold Session.Clean
  rw [written_render]
  constructor
  · intro hclean row hrow
    rw [← row.unbroken_written]
    intro text htext
    obtain ⟨span, hspan, rfl⟩ := List.mem_map.1 htext
    refine hclean span (List.mem_flatMap.2 ⟨row, hrow, ?_⟩)
    rw [row.calls_eq]
    exact List.mem_append_left _ (List.mem_map_of_mem hspan)
  · intro hrows span hspan
    obtain ⟨row, hrow, hspan⟩ := List.mem_flatMap.1 hspan
    rw [row.calls_eq] at hspan
    have hwritten : span ∈ row.written := by simpa using hspan
    exact row.unbroken_written.2 (hrows row hrow) span.text (List.mem_map_of_mem hwritten)

theorem clean_render (h : Shows (language.listing full entity) texts) (htexts : Unbroken texts) :
    (language.render full watch cancelled entity).1.Clean := by
  rw [clean_render_iff]
  intro row hrow
  have hlines : (row.role, row.spans) ∈ (language.listing full entity).lines :=
    Session.rows_prefix_lines.subset (List.mem_map_of_mem hrow)
  exact unbroken_flatMap.1 (h.unbroken_texts htexts) _ hlines

theorem unbroken_of_clean (h : Shows (language.listing full entity) texts)
    (hended : (language.render full watch cancelled entity).2 = none)
    (hclean : (language.render full watch cancelled entity).1.Clean) : Unbroken texts := by
  have hlines := Session.rows_eq_lines hended
  have hfault := Session.fault?_of_run_eq_none hended
  refine h.unbroken_shown hfault (unbroken_flatMap.2 fun line hline => ?_)
  rw [← hlines] at hline
  obtain ⟨row, hrow, rfl⟩ := List.mem_map.1 hline
  exact clean_render_iff.1 hclean row hrow

/-- The plain text falls into the recorded lines if and only if what was written is clean. -/
theorem splitOn_text_render :
    List.splitOn '\n' (language.render full watch cancelled entity).1.text.toList =
        (language.render full watch cancelled entity).1.lines.map (·.text.toList) ++ [[]] ↔
      (language.render full watch cancelled entity).1.Clean := by
  rw [text_render_lines, Line.splitOn_textAll, clean_render_iff, lines_render_rows,
    List.forall_mem_map]
  exact forall₂_congr fun row _ => row.lineFeed_notMem_line

/-- Comments have no checkpoints: they are all written, whether the session is cancelled or not. -/
theorem lines_commentsOnly :
    (commentsOnly.render full watch cancelled entity).1.lines.map Line.text =
      (comments defaultTypeText entity).map ("// " ++ ·) := by
  have hrows : ∀ (texts : List String) (session : Session), session.depth = 0 →
      session.rows watch (texts.map fun text => .line .detail (defaultComment text)) =
        texts.map fun text => ⟨0, .detail, defaultComment text⟩ := by
    intro texts
    induction texts with
    | nil => exact fun _ _ => rfl
    | cons text texts ih =>
      intro session hdepth
      rw [List.map_cons, List.map_cons, Session.rows, hdepth, ih _ (by simpa using hdepth)]
  have hline : ∀ text, (Row.line ⟨0, .detail, defaultComment text⟩).text = "// " ++ text := by
    intro text
    rw [Row.line, Line.text_ofSpans, Row.written_eq]
    simp [defaultComment]
  have hall : commentsOnly.rows full watch cancelled entity =
      (comments defaultTypeText entity).map fun text => ⟨0, .detail, defaultComment text⟩ :=
    hrows _ { cancelled } rfl
  rw [lines_render_rows, hall, List.map_map, List.map_map]
  exact List.map_congr_left fun text _ => hline text

end Language

/-! ### Line feeds in the languages at hand -/

/-- What a language writes of an entity is clean if none of the texts that it shows outside of
string literals holds a line feed, and only then if the rendering is completed. It is clean if and
only if the plain text falls into the recorded lines. A recorded line of a comment starts with two
slashes. -/
theorem lineFeeds_exact (full : Bool) (entity : Entity) (watch : Watch) (cancelled : Bool) :
    (entity.shown full).map Prod.fst = Registry.builtin.languages ∧
    (∀ language texts, (language, texts) ∈ entity.shown full →
      let outcome := language.render full watch cancelled entity
      (Unbroken texts → outcome.1.Clean) ∧ (outcome.2 = none → outcome.1.Clean → Unbroken texts) ∧
      (outcome.1.Clean ↔
        List.splitOn '\n' outcome.1.text.toList =
          outcome.1.lines.map (·.text.toList) ++ [[]])) ∧
    (Language.commentsOnly.render full watch cancelled entity).1.lines.map Line.text =
      (Language.comments Language.defaultTypeText entity).map ("// " ++ ·) := by
  refine ⟨rfl, fun language texts hmem => ?_, Language.lines_commentsOnly⟩
  have hshows := Language.shows_of_mem_shown hmem
  exact ⟨Language.clean_render hshows, Language.unbroken_of_clean hshows,
    Language.splitOn_text_render.symm⟩

/-- A line feed in a string literal is escaped. -/
def literalField : Field where
  name := "F"
  type := .ofName "System" "String"
  isLiteral := true
  constant := some (.string "a\n// b")

theorem lineFeeds_exact_literal :
    let session := ((Language.disassembly .flat).render false .never false (.field literalField)).1
    Unbroken (Entity.texts .flat false (.field literalField)) ∧ session.Clean ∧
      session.lines.length = 1 ∧
      List.splitOn '\n' session.text.toList = session.lines.map (·.text.toList) ++ [[]] := by
  intro session
  have hunbroken : Unbroken (Entity.texts .flat false (.field literalField)) := by decide +kernel
  obtain ⟨hclean, -, hsplit⟩ := (lineFeeds_exact false (.field literalField) .never false).2.1
    (.disassembly .flat) _ List.mem_cons_self
  exact ⟨hunbroken, hclean hunbroken, by decide +kernel, hsplit.1 (hclean hunbroken)⟩

/-- A document with a type whose name holds a line feed. -/
def brokenDocument : String :=
  "\x7b\"module\":\x7b\"name\":\"m\",\"types\":[\x7b\"name\":\"A\\nB\"\x7d]\x7d\x7d"

/-- One line is recorded, and the text of it is two, of which the second is not a comment. -/
theorem lineFeeds_broken :
    ∃ assembly entity, Document.load? brokenDocument "m.json" = some assembly ∧
      (Selector.type "A\nB").resolve assembly = .ok entity ∧
      let session := (Language.commentsOnly.render false .never false entity).1
      session.text = "// A\nB\n" ∧ session.lines.length = 1 ∧
        ∃ span, Call.write span ∈ session.written ∧ '\n' ∈ span.text.toList := by
  have hbroken : (Document.load? brokenDocument "m.json").any (fun assembly =>
      ((Selector.type "A\nB").resolve assembly).toOption.any fun entity =>
        let session := (Language.commentsOnly.render false .never false entity).1
        session.text == "// A\nB\n" && session.lines.length == 1 &&
          session.written == [.write ⟨.comment, "// A\nB"⟩, .endLine]) = true := by
    decide +kernel
  obtain ⟨assembly, hload, hbroken⟩ := (Option.any_eq_true _ _).1 hbroken
  cases hresolve : (Selector.type "A\nB").resolve assembly with
  | error error =>
    rw [hresolve] at hbroken
    cases hbroken
  | ok entity =>
    rw [hresolve] at hbroken
    change (_ == _ && _ == _ && _ == _) = true at hbroken
    simp only [Bool.and_eq_true, beq_iff_eq] at hbroken
    obtain ⟨⟨htext, hlines⟩, hwritten⟩ := hbroken
    refine ⟨assembly, entity, hload, hresolve, htext, hlines, ⟨.comment, "// A\nB"⟩, ?_, ?_⟩
    · rw [hwritten]
      exact List.mem_cons_self
    · decide

end Cil
