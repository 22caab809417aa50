import Cil.Language.Builtin

/-!
# The lines that a run writes

A run only ever stops between two lines, so what it writes is a sequence of whole lines.
`Session.rows` gives these lines with the depth at which each one stands and what it is there for,
and `written_run` says that the calls of a run are the calls of its rows. A run that nobody cancels
writes every line of its listing unless there is a fault in it (`rows_never`, `run_never`).
-/

namespace Cil

/-- A line as it was written. -/
structure Row where
  depth : Nat
  role : Role
  spans : List Span
deriving DecidableEq, Repr

def Row.calls (row : Row) : List Call := lineCalls row.depth row.spans

/-- The spans that were written for a line, its indentation included. -/
def Row.written (row : Row) : List Span :=
  row.calls.filterMap fun
    | .write span => some span
    | .endLine => none

namespace Session

/-! ### Calls -/

section

variable {watch : Watch} {session : Session}

@[simp] theorem callAll_nil : session.callAll watch [] = session := rfl

theorem callAll_cons (first : Call) (calls : List Call) :
    session.callAll watch (first :: calls) = (session.call watch first).callAll watch calls := rfl

theorem callAll_append (first second : List Call) :
    session.callAll watch (first ++ second) = (session.callAll watch first).callAll watch second :=
  List.foldl_append

@[simp] theorem depth_callAll (calls : List Call) :
    (session.callAll watch calls).depth = session.depth := by
  induction calls generalizing session with
  | nil => rfl
  | cons call calls ih => rw [callAll_cons, ih]; rfl

@[simp] theorem calls_callAll (calls : List Call) :
    (session.callAll watch calls).calls = calls.reverse ++ session.calls := by
  induction calls generalizing session with
  | nil => rfl
  | cons call calls ih => rw [callAll_cons, ih]; simp [Session.call]

@[simp] theorem written_callAll (calls : List Call) :
    (session.callAll watch calls).written = session.written ++ calls := by
  simp [written]

@[simp] theorem cancelled_callAll_never (calls : List Call) :
    (session.callAll .never calls).cancelled = session.cancelled := by
  induction calls generalizing session with
  | nil => rfl
  | cons call calls ih => rw [callAll_cons, ih]; simp [Session.call, Watch.never]

/-- A session is cancelled after some calls if it was before or if one of them made the watch
cancel it. -/
theorem cancelled_callAll (calls : List Call) :
    (session.callAll watch calls).cancelled = true ↔
      session.cancelled = true ∨
        ∃ made, made ≠ [] ∧ made <+: calls ∧ watch (made.reverse ++ session.calls) = true := by
  induction calls generalizing session with
  | nil =>
    refine ⟨.inl, ?_⟩
    rintro (hcancelled | ⟨made, hne, hmade, -⟩)
    · exact hcancelled
    · exact absurd (List.prefix_nil.1 hmade) hne
  | cons call calls ih =>
    rw [callAll_cons, ih]
    simp only [Session.call, Bool.or_eq_true, or_assoc]
    refine or_congr_right ⟨?_, ?_⟩
    · rintro (hnow | ⟨made, -, hmade, hwatch⟩)
      · exact ⟨[call], by simp, by simp, by simpa using hnow⟩
      · exact ⟨call :: made, by simp, List.cons_prefix_cons.2 ⟨rfl, hmade⟩, by simpa using hwatch⟩
    · rintro ⟨made, hne, hmade, hwatch⟩
      cases made with
      | nil => exact absurd rfl hne
      | cons first made =>
        obtain ⟨rfl, hrest⟩ := List.cons_prefix_cons.1 hmade
        cases made with
        | nil => exact .inl (by simpa using hwatch)
        | cons next made => exact .inr ⟨next :: made, by simp, hrest, by simpa using hwatch⟩

end

/-! ### Rows -/

section

variable (watch : Watch)

/-- The lines that a run writes, up to its end or to what stops it. -/
def rows (session : Session) : Listing → List Row
  | [] => []
  | .line role spans :: listing =>
    ⟨session.depth, role, spans⟩ ::
      rows (session.callAll watch (lineCalls session.depth spans)) listing
  | .enter :: listing => rows { session with depth := session.depth + 1 } listing
  | .leave :: listing => rows { session with depth := session.depth - 1 } listing
  | .checkpoint :: listing => if session.cancelled then [] else rows session listing
  | .fail _ :: _ => []

/-- The calls that a run makes are those of its rows, in order. -/
theorem written_run (session : Session) (listing : Listing) :
    (session.run watch listing).1.written =
      session.written ++ (session.rows watch listing).flatMap Row.calls := by
  induction listing generalizing session with
  | nil => simp [run, rows]
  | cons item listing ih =>
    cases item with
    | line role spans =>
      rw [run, rows, ih, List.flatMap_cons, written_callAll, List.append_assoc, Row.calls]
    | enter => exact ih _
    | leave => exact ih _
    | checkpoint =>
      rw [run, rows]
      split
      · simp
      · exact ih _
    | fail fault => simp [run, rows]

end

end Session

/-! ### Faults and lines of a listing -/

namespace Listing

/-- The first fault in a listing. -/
def fault? (listing : Listing) : Option LayoutFault :=
  listing.findSome? fun
    | .fail fault => some fault
    | _ => none

/-- The lines of a listing with what they are there for. -/
def lines (listing : Listing) : List (Role × List Span) :=
  listing.filterMap fun
    | .line role spans => some (role, spans)
    | _ => none

@[simp] theorem fault?_nil : fault? [] = none := rfl

@[simp] theorem fault?_append (first second : Listing) :
    fault? (first ++ second) = (fault? first).or (fault? second) := by
  simp [fault?, List.findSome?_append]

@[simp] theorem fault?_line (role : Role) (spans : List Span) (listing : Listing) :
    fault? (.line role spans :: listing) = fault? listing := rfl

@[simp] theorem fault?_enter (listing : Listing) :
    fault? (.enter :: listing) = fault? listing := rfl

@[simp] theorem fault?_leave (listing : Listing) :
    fault? (.leave :: listing) = fault? listing := rfl

@[simp] theorem fault?_checkpoint (listing : Listing) :
    fault? (.checkpoint :: listing) = fault? listing := rfl

@[simp] theorem fault?_fail (fault : LayoutFault) (listing : Listing) :
    fault? (.fail fault :: listing) = some fault := rfl

@[simp] theorem lines_nil : lines [] = [] := rfl

@[simp] theorem lines_append (first second : Listing) :
    lines (first ++ second) = lines first ++ lines second :=
  List.filterMap_append

@[simp] theorem lines_line (role : Role) (spans : List Span) (listing : Listing) :
    lines (.line role spans :: listing) = (role, spans) :: lines listing := rfl

@[simp] theorem lines_enter (listing : Listing) : lines (.enter :: listing) = lines listing := rfl

@[simp] theorem lines_leave (listing : Listing) : lines (.leave :: listing) = lines listing := rfl

@[simp] theorem lines_checkpoint (listing : Listing) :
    lines (.checkpoint :: listing) = lines listing := rfl

@[simp] theorem lines_fail (fault : LayoutFault) (listing : Listing) :
    lines (.fail fault :: listing) = lines listing := rfl

end Listing

/-! ### Runs and their listings -/

namespace Session

variable {watch : Watch} {session : Session} {listing : Listing}

/-- A run writes lines of its listing, the first ones. -/
theorem rows_prefix_lines :
    (session.rows watch listing).map (fun row => (row.role, row.spans)) <+: listing.lines := by
  induction listing generalizing session with
  | nil => exact List.nil_prefix
  | cons item listing ih =>
    cases item with
    | line role spans =>
      rw [rows, List.map_cons, Listing.lines_line, List.cons_prefix_cons]
      exact ⟨rfl, ih⟩
    | enter => exact ih
    | leave => exact ih
    | checkpoint =>
      rw [rows]
      split
      · exact List.nil_prefix
      · exact ih
    | fail fault => exact List.nil_prefix

/-- A run that is not stopped writes all lines of its listing. -/
theorem rows_eq_lines (h : (session.run watch listing).2 = none) :
    (session.rows watch listing).map (fun row => (row.role, row.spans)) = listing.lines := by
  induction listing generalizing session with
  | nil => rfl
  | cons item listing ih =>
    cases item with
    | line role spans =>
      rw [rows, List.map_cons, Listing.lines_line]
      exact congrArg _ (ih h)
    | enter => exact ih h
    | leave => exact ih h
    | checkpoint =>
      rw [run] at h
      rw [rows]
      split at h
      · cases h
      · next hlive =>
        rw [if_neg hlive]
        exact ih h
    | fail fault => cases h

/-- A run that is not stopped has come across no fault. -/
theorem fault?_of_run_eq_none (h : (session.run watch listing).2 = none) :
    listing.fault? = none := by
  induction listing generalizing session with
  | nil => rfl
  | cons item listing ih =>
    cases item with
    | line role spans => exact ih h
    | enter => exact ih h
    | leave => exact ih h
    | checkpoint =>
      rw [run] at h
      split at h
      · cases h
      · exact ih h
    | fail fault => cases h

/-- Without cancellation a run fails with the first fault of its listing, or not at all. -/
theorem run_never (hlive : session.cancelled = false) :
    (session.run .never listing).2 = listing.fault?.map .layout := by
  induction listing generalizing session with
  | nil => rfl
  | cons item listing ih =>
    cases item with
    | line role spans => exact ih (by simpa using hlive)
    | enter => exact ih hlive
    | leave => exact ih hlive
    | checkpoint =>
      rw [run, hlive]
      exact ih hlive
    | fail fault => rfl

/-- Without cancellation and without a fault a run writes all lines of its listing. -/
theorem rows_never (hlive : session.cancelled = false) (hfault : listing.fault? = none) :
    (session.rows .never listing).map (fun row => (row.role, row.spans)) = listing.lines := by
  refine rows_eq_lines ?_
  rw [run_never hlive, hfault]
  rfl

end Session

/-! ### Renderings -/

namespace Language

/-- The lines that a rendering writes. -/
def rows (language : Language) (full : Bool) (watch : Watch) (cancelled : Bool) (entity : Entity) :
    List Row :=
  ({ cancelled } : Session).rows watch (language.listing full entity)

theorem written_render (language : Language) (full : Bool) (watch : Watch) (cancelled : Bool)
    (entity : Entity) :
    (language.render full watch cancelled entity).1.written =
      (language.rows full watch cancelled entity).flatMap Row.calls := by
  rw [render, Session.written_run]
  rfl

theorem render_disassembly (style : BodyStyle) (full : Bool) (watch : Watch) (cancelled : Bool)
    (entity : Entity) :
    (disassembly style).render full watch cancelled entity =
      ({ cancelled } : Session).run watch (entity.listing style full) := rfl

theorem rows_disassembly (style : BodyStyle) (full : Bool) (watch : Watch) (cancelled : Bool)
    (entity : Entity) :
    (disassembly style).rows full watch cancelled entity =
      ({ cancelled } : Session).rows watch (entity.listing style full) := rfl

end Language

end Cil
