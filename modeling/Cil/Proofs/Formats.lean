import Cil.Command.Response
import Cil.Proofs.Recorded

/-!
# The two output formats

The command first finds a language and an entity (`Finds`), then renders the entity to its end, and
only then prints, and the format has no part in any of this but the last (`rendering_eq`). So the
command fails in both formats or in none, and where it does not, both formats print the lines of one
session (`formats_agree`). That session ends at the end of a line, like every session that starts at
one, which is why no pending line is left out of the one format or cut short in the other.
-/

namespace Cil.Command

variable {registry : Registry} {arguments : Arguments} {path : String}
  {contents : Except ReadFailure String} {language : Language} {entity : Entity}

theorem rendering_eq (registry : Registry) (arguments : Arguments) (path : String)
    (contents : Except ReadFailure String) :
    rendering registry arguments path contents =
      match registry.get? (arguments.language.getD "IL") with
      | none => .error (.unknownLanguage (arguments.language.getD "IL") registry.names)
      | some language =>
        match contents with
        | .error failure => .error (.unreadable path failure)
        | .ok document =>
          match Document.load? document (fileName path) with
          | none => .error (.malformed path)
          | some assembly =>
            match (arguments.selector.getD .assembly).resolve assembly with
            | .error error => .error (.resolve error)
            | .ok entity =>
              match language.render arguments.full .never false entity with
              | (session, none) => .ok ((arguments.format.getD .text).print session.written)
              | (_, some error) => .error (.render language.name error) := by
  simp only [rendering]
  cases registry.get? (arguments.language.getD "IL") with
  | none => rfl
  | some language =>
    cases contents with
    | error failure => rfl
    | ok document =>
      have hcontents : (Except.ok document).mapError (Failure.unreadable path) = .ok document := rfl
      simp only [hcontents, bind, Except.bind, pure, Except.pure]
      cases Document.load? document (fileName path) with
      | none => rfl
      | some assembly =>
        dsimp only
        cases (arguments.selector.getD .assembly).resolve assembly with
        | error error => rfl
        | ok entity => rfl

/-- The arguments name a language of the registry, and an entity in the document that was read. -/
structure Finds (registry : Registry) (arguments : Arguments) (path : String)
    (contents : Except ReadFailure String) (language : Language) (entity : Entity) : Prop where
  language : registry.get? (arguments.language.getD "IL") = some language
  entity : ∃ document assembly, contents = .ok document ∧
    Document.load? document (fileName path) = some assembly ∧
    (arguments.selector.getD .assembly).resolve assembly = .ok entity

/-- What is found is rendered to the end, and printed only if that succeeds. -/
theorem rendering_of_finds (h : Finds registry arguments path contents language entity) :
    rendering registry arguments path contents =
      match language.render arguments.full .never false entity with
      | (session, none) => .ok ((arguments.format.getD .text).print session.written)
      | (_, some error) => .error (.render language.name error) := by
  obtain ⟨hlanguage, document, assembly, rfl, hload, hresolve⟩ := h
  simp only [rendering_eq, hlanguage, hload, hresolve]

/-- If nothing is found to render, the reason does not depend on the format. -/
theorem finds_or_fails (registry : Registry) (arguments : Arguments) (path : String)
    (contents : Except ReadFailure String) :
    (∃ language entity, Finds registry arguments path contents language entity) ∨
    ∃ failure : Failure, ∀ format : OutputFormat,
      rendering registry { arguments with format := some format } path contents =
        .error failure := by
  simp only [rendering_eq]
  cases hlanguage : registry.get? (arguments.language.getD "IL") with
  | none => exact .inr ⟨_, fun _ => rfl⟩
  | some language =>
    cases contents with
    | error failure => exact .inr ⟨_, fun _ => rfl⟩
    | ok document =>
      cases hload : Document.load? document (fileName path) with
      | none => exact .inr ⟨.malformed path, fun _ => by simp only [hload]⟩
      | some assembly =>
        cases hresolve : (arguments.selector.getD .assembly).resolve assembly with
        | error error => exact .inr ⟨.resolve error, fun _ => by simp only [hload, hresolve]⟩
        | ok entity =>
          exact .inl ⟨language, entity, hlanguage, document, assembly, rfl, hload, hresolve⟩

/-! ### The answers in the two formats -/

theorem respond_eq (hlist : arguments.listLanguages = false) :
    respond registry arguments contents =
      match rendering registry arguments (arguments.input.getD "") contents with
      | .ok output => { output }
      | .error failure => { exitCode := 1, diagnostics := failure.report } :=
  if_neg (by simp [hlist])

theorem respond_of_finds (hlist : arguments.listLanguages = false)
    (h : Finds registry arguments (arguments.input.getD "") contents language entity)
    (format : OutputFormat) :
    respond registry { arguments with format := some format } contents =
      match language.render arguments.full .never false entity with
      | (session, none) => { output := format.print session.written }
      | (_, some error) =>
        { exitCode := 1, diagnostics := (Failure.render language.name error).report } := by
  have hfinds : Finds registry { arguments with format := some format } (arguments.input.getD "")
    contents language entity := ⟨h.language, h.entity⟩
  have hrespond := @respond_eq registry { arguments with format := some format } contents hlist
  rw [hrespond, rendering_of_finds hfinds]
  dsimp only [Option.getD_some]
  rcases language.render arguments.full .never false entity with ⟨session, _ | error⟩ <;> rfl

/-- If nothing is found to render, both formats fail with the same report. What is found is rendered
to the same end in both: to an error, and then nothing is printed of the lines before it, or to the
end of a last complete line, and then both print the lines that were recorded. -/
theorem formats_agree (arguments : Arguments) (contents : Except ReadFailure String)
    (hlist : arguments.listLanguages = false) :
    let path := arguments.input.getD ""
    let run (format : OutputFormat) : Response :=
      respond .builtin { arguments with format := some format } contents
    ((¬ ∃ language entity, Finds .builtin arguments path contents language entity) →
      ∃ failure : Failure, ∀ format, run format =
        { exitCode := 1, output := "", diagnostics := failure.report }) ∧
    ∀ language entity, Finds .builtin arguments path contents language entity →
      ∃ session : Session,
        (∃ error, language.render arguments.full .never false entity = (session, some error) ∧
          ∀ format, run format =
            { exitCode := 1, output := "",
              diagnostics := (Failure.render language.name error).report }) ∨
        (language.render arguments.full .never false entity = (session, none) ∧
          (Record.ofCalls session.written).pending = [] ∧
          run .tokens =
            { exitCode := 0, diagnostics := "",
              output := String.join (session.lines.map fun line => Export.line line ++ "\n") } ∧
          run .text =
            { exitCode := 0, diagnostics := "",
              output := String.join (session.lines.map fun line => line.text ++ "\n") }) := by
  intro path run
  constructor
  · intro hnone
    rcases finds_or_fails .builtin arguments path contents with hfinds | ⟨failure, hfails⟩
    · exact absurd hfinds hnone
    · refine ⟨failure, fun format => ?_⟩
      have hrespond := @respond_eq .builtin { arguments with format := some format } contents hlist
      rw [hfails] at hrespond
      exact hrespond
  · intro language entity hfinds
    have hrun : ∀ format, run format = _ := respond_of_finds hlist hfinds
    have hstart := language.atLineStart_render arguments.full .never false entity
    have htext := language.text_render_lines arguments.full .never false entity
    rcases hresult : language.render arguments.full .never false entity with ⟨session, _ | error⟩
    · rw [hresult] at hrun hstart htext
      refine ⟨session, .inr ⟨rfl, hstart.pending, hrun .tokens, ?_⟩⟩
      rw [hrun]
      exact congrArg (fun output => ({ output } : Response)) htext
    · rw [hresult] at hrun
      exact ⟨session, .inl ⟨error, rfl, hrun⟩⟩

/-- A document with a method in which a region lies between two instructions. -/
def gapDocument : String :=
  "\x7b\"module\":\x7b\"name\":\"m\",\"types\":[\x7b\"name\":\"A\"," ++
    "\"methods\":[\x7b\"name\":\"f\"," ++
    "\"body\":\x7b\"instructions\":[\x7b\"offset\":0,\"opcode\":\"nop\"\x7d," ++
    "\x7b\"offset\":5,\"opcode\":\"ret\"\x7d],\"structures\":[" ++
    "\x7b\"kind\":\"try\",\"start\":1,\"end\":2\x7d]\x7d\x7d]\x7d]\x7d\x7d"

def gapArguments : Arguments where
  input := some "gap.json"
  language := some "il-structured"
  full := true

/-- Nineteen lines come before the error, and none of them is printed. -/
theorem formats_agree_gap :
    gapArguments.listLanguages = false ∧
    ∃ language entity session error,
      Finds .builtin gapArguments "gap.json" (.ok gapDocument) language entity ∧
      language.render gapArguments.full .never false entity = (session, some error) ∧
      session.lines.length = 19 ∧
      ∀ format, respond .builtin { gapArguments with format := some format } (.ok gapDocument) =
        { exitCode := 1, output := "",
          diagnostics := (Failure.render language.name error).report } := by
  have hlanguage : Registry.builtin.get? "il-structured" = some (.disassembly .structured) := by
    rw [Registry.get?]
    exact (List.find?_cons_of_neg (by decide +kernel)).trans
      (List.find?_cons_of_pos (by decide +kernel))
  have hrenders : (Document.load? gapDocument (fileName "gap.json")).any (fun assembly =>
      let outcome := (Language.disassembly .structured).render gapArguments.full .never false
        (.assembly assembly)
      outcome.2.isSome && outcome.1.lines.length == 19) = true := by
    decide +kernel
  obtain ⟨assembly, hload, hrenders⟩ := (Option.any_eq_true _ _).1 hrenders
  obtain ⟨herror, hlength⟩ := (Bool.and_eq_true _ _).mp hrenders
  have hfinds : Finds .builtin gapArguments "gap.json" (.ok gapDocument) (.disassembly .structured)
      (.assembly assembly) := ⟨hlanguage, gapDocument, assembly, rfl, hload, rfl⟩
  obtain ⟨session, ⟨error, hrender, hfails⟩ | ⟨hrender, -⟩⟩ :=
    (formats_agree gapArguments (.ok gapDocument) rfl).2 _ _ hfinds
  · rw [hrender] at hlength
    exact ⟨rfl, _, _, session, error, hfinds, hrender, beq_iff_eq.1 hlength, hfails⟩
  · rw [hrender] at herror
    cases herror

end Cil.Command
