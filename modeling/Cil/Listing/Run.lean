import Cil.Listing.Item

/-!
# Carrying out a listing

A session writes listings to a sink. It keeps the depth of the blocks it is in, the calls it has
made and whether it was cancelled. Who watches a session may cancel it after any call; the session
takes notice at the next checkpoint. After a fault or a cancellation the depth stays as it was, and
the next listing starts from there.
-/

namespace Cil

/-- Decides from the calls made so far, latest first, whether to cancel. -/
abbrev Watch := List Call → Bool

/-- Never cancels. -/
def Watch.never : Watch := fun _ => false

structure Session where
  depth : Nat := 0
  /-- The calls made so far, latest first. -/
  calls : List Call := []
  cancelled : Bool := false
deriving DecidableEq, Repr

/-- The calls for one line. Empty spans are left out, and a line with nothing on it has no
indentation. -/
def lineCalls (depth : Nat) (spans : List Span) : List Call :=
  match spans.filter (·.text ≠ "") with
  | [] => [.endLine]
  | written =>
    let indentation :=
      if depth = 0 then [] else [⟨.text, String.ofList (List.replicate depth '\t')⟩]
    (indentation ++ written).map .write ++ [.endLine]

namespace Session

variable (watch : Watch)

/-- Makes one call. -/
def call (session : Session) (call : Call) : Session :=
  { session with
    calls := call :: session.calls
    cancelled := session.cancelled || watch (call :: session.calls) }

def callAll (session : Session) (calls : List Call) : Session := calls.foldl (·.call watch) session

/-- Carries out a listing up to its end or to what stops it. -/
def run (session : Session) : Listing → Session × Option RenderError
  | [] => (session, none)
  | .line _ spans :: listing =>
    run (session.callAll watch (lineCalls session.depth spans)) listing
  | .enter :: listing => run { session with depth := session.depth + 1 } listing
  | .leave :: listing => run { session with depth := session.depth - 1 } listing
  | .checkpoint :: listing =>
    if session.cancelled then (session, some .cancelled) else run session listing
  | .fail fault :: _ => (session, some (.layout fault))

/-- A listing followed by another is carried out in the same way, unless the first one stops. -/
theorem run_append (session : Session) (first second : Listing) :
    session.run watch (first ++ second) =
      match session.run watch first with
      | (session, none) => session.run watch second
      | stopped => stopped := by
  fun_induction run watch session first <;> simp_all [run]

/-- The calls in the order in which they were made. -/
def written (session : Session) : List Call := session.calls.reverse

end Session

end Cil
