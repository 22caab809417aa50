import Cil.Proofs.Rows
import Cil.Text.Record

/-!
# What is recorded of a run

The lines that a sink records of a run are the rows of the run (`lines_run`), each with its tabs and
its spans (`Row.recorded`), and the plain text is that of these lines (`text_run`). A line does not
depend on the pieces it is written in: writing a recorded line again, after anything, is writing its
pieces (`foldl_write_ofSpans`).
-/

namespace Cil

/-! ### Writing a line in pieces -/

@[simp] theorem Span.plain_nil : Span.plain [] = "" := rfl

@[simp] theorem Span.plain_cons (span : Span) (spans : List Span) :
    Span.plain (span :: spans) = span.text ++ Span.plain spans := by
  simp [Span.plain]

theorem Span.plain_append (first second : List Span) :
    Span.plain (first ++ second) = Span.plain first ++ Span.plain second := by
  simp [Span.plain]

/-- Spans without text are those of which nothing is left without the empty ones. -/
theorem Span.filter_eq_nil_iff {spans : List Span} :
    spans.filter (·.text ≠ "") = [] ↔ Span.plain spans = "" := by
  induction spans with
  | nil => simp
  | cons span spans ih =>
    rw [plain_cons, String.append_eq_empty_iff, ← ih]
    by_cases hempty : span.text = "" <;> simp [hempty]

namespace Line

/-- The line that pieces make. -/
def ofSpans (pieces : List Span) : Line := pieces.foldl Line.write []

theorem text_extend (line : Line) (piece : Span) :
    (line.extend piece).text = line.text ++ piece.text := by
  fun_induction extend line piece with
  | case1 piece => simp [text]
  | case2 last piece htoken => simp [text]
  | case3 last piece htoken => simp [text]
  | case4 first next rest piece ih =>
    simp only [text, Span.plain_cons] at ih ⊢
    rw [ih, ← String.append_assoc]

theorem text_write (line : Line) (piece : Span) :
    (line.write piece).text = line.text ++ piece.text := by
  unfold write
  split
  · next hempty => simp [hempty]
  · exact text_extend line piece

theorem text_foldl_write (line : Line) (pieces : List Span) :
    (pieces.foldl write line).text = line.text ++ Span.plain pieces := by
  induction pieces generalizing line with
  | nil => simp
  | cons piece pieces ih =>
    rw [List.foldl_cons, ih, text_write, Span.plain_cons, String.append_assoc]

@[simp] theorem text_ofSpans (pieces : List Span) : (ofSpans pieces).text = Span.plain pieces := by
  have h := text_foldl_write [] pieces
  rwa [show text [] = "" from rfl, String.empty_append] at h

theorem extend_ne_nil (line : Line) (piece : Span) : line.extend piece ≠ [] := by
  fun_cases extend line piece <;> simp

theorem extend_extend (line : Line) (token : Token) (first second : String) :
    (line.extend ⟨token, first⟩).extend ⟨token, second⟩ = line.extend ⟨token, first ++ second⟩ := by
  induction line with
  | nil => simp [extend]
  | cons last rest ih =>
    cases rest with
    | nil =>
      by_cases htoken : last.token = token
      · simp [extend, htoken, String.append_assoc]
      · simp [extend, htoken]
    | cons next rest =>
      have hne := extend_ne_nil (next :: rest) ⟨token, first⟩
      obtain ⟨head, tail, heq⟩ := List.exists_cons_of_ne_nil hne
      rw [heq] at ih
      rw [extend, extend, heq, extend, ih]

/-- Two pieces of one tag are as good as one. -/
theorem write_write (line : Line) (token : Token) (first second : String) :
    (line.write ⟨token, first⟩).write ⟨token, second⟩ = line.write ⟨token, first ++ second⟩ := by
  unfold write
  by_cases hfirst : first = ""
  · simp [hfirst]
  · by_cases hsecond : second = ""
    · simp [hfirst, hsecond]
    · simp [hfirst, hsecond, String.append_eq_empty_iff, extend_extend]

theorem foldl_write_write (line written : Line) (piece : Span) :
    (written.write piece).foldl write line = (written.foldl write line).write piece := by
  by_cases hempty : piece.text = ""
  · simp [write, hempty]
  · rw [write, if_neg hempty]
    induction written generalizing line with
    | nil => rfl
    | cons last rest ih =>
      cases rest with
      | nil =>
        obtain ⟨token, first⟩ := last
        obtain ⟨token', second⟩ := piece
        by_cases htoken : token = token'
        · subst htoken
          simpa [extend] using (write_write line token first second).symm
        · simp [extend, htoken]
      | cons next rest =>
        rw [extend, List.foldl_cons, List.foldl_cons]
        exact ih _

/-- Writing a line that was made of pieces is writing the pieces. -/
theorem foldl_write_ofSpans (line : Line) (pieces : List Span) :
    (ofSpans pieces).foldl write line = pieces.foldl write line := by
  have hgeneral : ∀ (written : Line),
      (pieces.foldl write written).foldl write line =
        pieces.foldl write (written.foldl write line) := by
    induction pieces with
    | nil => exact fun _ => rfl
    | cons piece pieces ih =>
      intro written
      rw [List.foldl_cons, List.foldl_cons, ih, foldl_write_write]
  exact hgeneral []

/-- Pieces without text leave no trace. -/
theorem foldl_write_filter (pieces : List Span) (line : Line) :
    (pieces.filter (·.text ≠ "")).foldl write line = pieces.foldl write line := by
  induction pieces generalizing line with
  | nil => rfl
  | cons piece pieces ih =>
    by_cases hempty : piece.text = ""
    · rw [List.filter_cons_of_neg (by simpa using hempty), ih, List.foldl_cons, write,
        if_pos hempty]
    · rw [List.filter_cons_of_pos (by simpa using hempty), List.foldl_cons, ih, List.foldl_cons]

end Line

/-! ### Rows in a record -/

/-- The tabs in front of a line. -/
def Span.tabs (depth : Nat) : Span := ⟨.text, String.ofList (List.replicate depth '\t')⟩

namespace Row

/-- A row is written as its tabs, if there are any, and its spans that are not empty. A row without
text has no tabs either. -/
theorem written_eq (row : Row) :
    row.written = if row.spans.filter (·.text ≠ "") = [] then []
      else (if row.depth = 0 then [] else [Span.tabs row.depth]) ++
        row.spans.filter (·.text ≠ "") := by
  unfold written calls lineCalls
  split
  · next hnil => rw [if_pos hnil]; rfl
  · next hne =>
    rw [if_neg hne, List.filterMap_append, List.filterMap_map]
    exact (List.append_nil _).trans List.filterMap_some

theorem calls_eq (row : Row) : row.calls = row.written.map .write ++ [.endLine] := by
  rw [written_eq]
  unfold calls lineCalls
  split
  · next hnil => rw [if_pos hnil]; rfl
  · next hne => rw [if_neg hne]; rfl

/-- The line that is recorded for a row. -/
def line (row : Row) : Line := Line.ofSpans row.written

/-- What a record holds of a row: nothing if the row has no text, and else the line that its tabs
and its spans make. -/
def recorded (row : Row) : Line :=
  if Span.plain row.spans = "" then [] else Line.ofSpans (Span.tabs row.depth :: row.spans)

theorem line_eq (row : Row) : row.line = row.recorded := by
  rw [line, written_eq, recorded]
  by_cases hnil : row.spans.filter (·.text ≠ "") = []
  · rw [if_pos hnil, if_pos (Span.filter_eq_nil_iff.1 hnil)]
    rfl
  · rw [if_neg hnil, if_neg (mt Span.filter_eq_nil_iff.2 hnil)]
    by_cases hdepth : row.depth = 0
    · rw [if_pos hdepth, hdepth]
      exact Line.foldl_write_filter row.spans []
    · rw [if_neg hdepth]
      exact Line.foldl_write_filter row.spans (Line.write [] (Span.tabs row.depth))

end Row

namespace Record

theorem foldl_step_write (record : Record) (spans : List Span) :
    (spans.map Call.write).foldl step record =
      { record with pending := spans.foldl Line.write record.pending } := by
  induction spans generalizing record with
  | nil => rfl
  | cons span spans ih => rw [List.map_cons, List.foldl_cons, ih]; rfl

theorem foldl_step_row {record : Record} (hpending : record.pending = []) (row : Row) :
    row.calls.foldl step record = { completed := record.completed.push row.line } := by
  rw [row.calls_eq, List.foldl_append, foldl_step_write, hpending]
  rfl

theorem foldl_step_rows {record : Record} (hpending : record.pending = []) (rows : List Row) :
    (rows.flatMap Row.calls).foldl step record =
      { completed := record.completed ++ (rows.map Row.line).toArray } := by
  induction rows generalizing record with
  | nil =>
    obtain ⟨completed, pending⟩ := record
    simp only at hpending
    simp [hpending]
  | cons row rows ih =>
    rw [List.flatMap_cons, List.foldl_append, foldl_step_row hpending, ih rfl]
    simp

end Record

/-! ### Sessions -/

namespace Session

/-- The lines that a sink records. -/
def lines (session : Session) : List Line := (Record.ofCalls session.written).lines

/-- The plain text that was written. -/
def text (session : Session) : String := Call.plain session.written

/-- Nothing was written since the last line ended. -/
def AtLineStart (session : Session) : Prop := ∀ call ∈ session.calls.head?, call = .endLine

theorem atLineStart_nil (depth : Nat) (cancelled : Bool) :
    AtLineStart { depth, cancelled } := by
  simp [AtLineStart]

variable {session : Session} (watch : Watch) (listing : Listing)

theorem AtLineStart.pending (h : session.AtLineStart) :
    (Record.ofCalls session.written).pending = [] := by
  unfold AtLineStart at h
  unfold written
  cases hcalls : session.calls with
  | nil => rfl
  | cons last calls =>
    obtain rfl : last = .endLine := h last (by simp [hcalls])
    rw [List.reverse_cons, Record.ofCalls, List.foldl_append]
    rfl

theorem AtLineStart.run (h : session.AtLineStart) : (session.run watch listing).1.AtLineStart := by
  have hwritten := written_run watch session listing
  intro call hcall
  rw [← List.reverse_reverse (session.run watch listing).1.calls, List.head?_reverse,
    ← written, hwritten] at hcall
  rcases List.eq_nil_or_concat (session.rows watch listing) with hrows | ⟨rows, row, hrows⟩
  · rw [hrows, List.flatMap_nil, List.append_nil, written, List.getLast?_reverse] at hcall
    exact h call hcall
  · rw [hrows, List.concat_eq_append, List.flatMap_append, List.flatMap_singleton, row.calls_eq,
      ← List.append_assoc, ← List.append_assoc, List.getLast?_append] at hcall
    simpa using hcall.symm

/-- A run adds its rows to the record. -/
theorem AtLineStart.lines_run (h : session.AtLineStart) :
    (session.run watch listing).1.lines =
      session.lines ++ (session.rows watch listing).map Row.line := by
  unfold lines
  rw [written_run, Record.ofCalls, List.foldl_append, ← Record.ofCalls,
    Record.foldl_step_rows h.pending]
  simp [Record.lines, h.pending]

theorem AtLineStart.lines_run_recorded (h : session.AtLineStart) :
    (session.run watch listing).1.lines =
      session.lines ++ (session.rows watch listing).map Row.recorded := by
  rw [h.lines_run, funext Row.line_eq]

end Session

/-- The text of lines, each with its end. -/
def Line.textAll (lines : List Line) : String :=
  String.join (lines.map fun line => line.text ++ "\n")

@[simp] theorem Line.textAll_append (first second : List Line) :
    textAll (first ++ second) = textAll first ++ textAll second := by
  simp [textAll]

theorem Row.plain_calls (row : Row) : Call.plain row.calls = row.line.text ++ "\n" := by
  have hwrites : ∀ spans : List Span, Call.plain (spans.map .write) = Span.plain spans := by
    intro spans
    simp [Call.plain, Span.plain, Function.comp_def, Call.text]
  rw [row.calls_eq, Call.plain_append, hwrites, line, Line.text_ofSpans]
  rfl

/-- The text that a run adds is that of the lines it adds. -/
theorem Session.text_run (session : Session) (watch : Watch) (listing : Listing) :
    (session.run watch listing).1.text =
      session.text ++ Line.textAll ((session.rows watch listing).map Row.line) := by
  have hrows : ∀ rows : List Row,
      Call.plain (rows.flatMap Row.calls) = Line.textAll (rows.map Row.line) := by
    intro rows
    induction rows with
    | nil => rfl
    | cons row rows ih =>
      rw [List.flatMap_cons, Call.plain_append, ih, row.plain_calls]
      simp [Line.textAll]
  rw [text, text, written_run, Call.plain_append, hrows]

/-! ### Renderings -/

namespace Language

variable (language : Language) (full : Bool) (watch : Watch) (cancelled : Bool) (entity : Entity)

/-- A rendering ends at the end of a line, whether it is completed or not. -/
theorem atLineStart_render : (language.render full watch cancelled entity).1.AtLineStart :=
  (Session.atLineStart_nil 0 cancelled).run watch _

theorem lines_render_rows :
    (language.render full watch cancelled entity).1.lines =
      (language.rows full watch cancelled entity).map Row.line := by
  have hstart : ({ cancelled } : Session).AtLineStart := Session.atLineStart_nil 0 cancelled
  exact hstart.lines_run watch (language.listing full entity)

/-- The text of a rendering is that of its lines. -/
theorem text_render_lines :
    (language.render full watch cancelled entity).1.text =
      Line.textAll (language.render full watch cancelled entity).1.lines := by
  rw [lines_render_rows, render, Session.text_run]
  exact String.empty_append

end Language

end Cil
