import Cil.Listing.Assembly
import Cil.Proofs.Recorded

/-!
# What lines say of blocks and entities

Two things can be read off the lines of a listing. The blocks: `Line.readBlocks` keeps the blocks
that are open with the tabs of the lines that opened them, and finds fault with a line that closes
any other. For a row this needs only its depth and its spans (`Row.readBlock_line`). The entities:
they are named by directives, and no text that comes from metadata is tagged as one
(`Span.NoDirective`).
-/

namespace Cil

/-! ### Blocks -/

/-- What stands around a block: braces, or the comments around a loop. -/
inductive Fence where
  | braces
  | loop
deriving DecidableEq, Repr

namespace Fence

/-- The fence that a line opens, its tabs apart. -/
def opened? (content : List Char) : Option Fence :=
  if content = ['\x7b'] then some .braces
  else if "// loop start".toList <+: content then some .loop
  else none

/-- The fence that a line closes, its tabs apart. -/
def closed? (content : List Char) : Option Fence :=
  if content.head? = some '\x7d' then some .braces
  else if content = "// end loop".toList then some .loop
  else none

/-- Reads a line among open blocks, innermost first. A line that closes a block closes the innermost
one, and has to have its fence and its tabs. -/
def read (tabs : Nat) (content : List Char) (blocks : List (Fence × Nat)) :
    Option (List (Fence × Nat)) :=
  match opened? content with
  | some fence => some ((fence, tabs) :: blocks)
  | none =>
    match closed? content with
    | none => some blocks
    | some fence => if blocks.head? = some (fence, tabs) then some blocks.tail else none

end Fence

namespace Line

def tabs (line : Line) : Nat := (line.text.toList.takeWhile (· = '\t')).length

def content (line : Line) : List Char := line.text.toList.dropWhile (· = '\t')

def readBlock (blocks : List (Fence × Nat)) (line : Line) : Option (List (Fence × Nat)) :=
  Fence.read line.tabs line.content blocks

/-- Reads lines inside some blocks and gives the blocks that are open after them. -/
def readBlocks (blocks : List (Fence × Nat)) (lines : List Line) : Option (List (Fence × Nat)) :=
  lines.foldlM readBlock blocks

end Line

namespace Span

/-- The characters on a line. -/
def content (spans : List Span) : List Char := (plain spans).toList

/-- The line starts with no tab of its own. -/
def Flush (spans : List Span) : Prop := (content spans).head? ≠ some '\t'

instance (spans : List Span) : Decidable (Flush spans) := inferInstanceAs (Decidable (¬ _))

/-- The line neither opens nor closes a block. -/
def Unframed (spans : List Span) : Prop :=
  Flush spans ∧ Fence.opened? (content spans) = none ∧ Fence.closed? (content spans) = none

instance (spans : List Span) : Decidable (Unframed spans) :=
  inferInstanceAs (Decidable (_ ∧ _ ∧ _))

theorem Unframed.read {spans : List Span} (h : Unframed spans) (tabs : Nat)
    (blocks : List (Fence × Nat)) : Fence.read tabs (content spans) blocks = some blocks := by
  unfold Fence.read
  rw [h.2.1, h.2.2]

theorem content_cons (token : Token) (text : String) (spans : List Span) :
    content (⟨token, text⟩ :: spans) = text.toList ++ content spans := by
  simp [content]

/-- It is enough to look at the first character, unless the line is a comment. -/
theorem unframed_cons {token : Token} {text : String} {spans : List Span}
    (h : text.toList.head?.any (fun c => c ∉ ['\t', '\x7b', '\x7d', '/']) = true) :
    Unframed (⟨token, text⟩ :: spans) := by
  have hcontent := content_cons token text spans
  obtain ⟨c, hhead, hc⟩ := (Option.any_eq_true _ _).1 h
  obtain ⟨rest, hrest⟩ := List.head?_eq_some_iff.1 hhead
  rw [hrest, List.cons_append] at hcontent
  simp only [List.mem_cons, List.not_mem_nil, or_false, not_or, decide_eq_true_eq] at hc
  obtain ⟨htab, hopen, hclose, hslash⟩ := hc
  unfold Unframed Flush Fence.opened? Fence.closed?
  rw [hcontent]
  simp [htab, hopen, hclose, Ne.symm hslash, hslash]

end Span

/-- A row is recorded with as many tabs as it is deep, and with the characters of its spans. -/
theorem Row.toList_text_line (row : Row) :
    row.line.text.toList =
      if Span.content row.spans = [] then []
      else List.replicate row.depth '\t' ++ Span.content row.spans := by
  have hcontent : Span.content row.spans = [] ↔ Span.plain row.spans = "" :=
    String.toList_eq_nil_iff
  rw [line_eq, recorded]
  by_cases hplain : Span.plain row.spans = ""
  · rw [if_pos hplain, if_pos (hcontent.2 hplain)]
    rfl
  · rw [if_neg hplain, if_neg (mt hcontent.1 hplain), Line.text_ofSpans, ← Span.content,
      Span.tabs, Span.content_cons, String.toList_ofList]

theorem Row.readBlock_line {row : Row} (h : Span.Flush row.spans) (blocks : List (Fence × Nat)) :
    Line.readBlock blocks row.line = Fence.read row.depth (Span.content row.spans) blocks := by
  unfold Line.readBlock Line.tabs Line.content
  rw [row.toList_text_line]
  cases hcontent : Span.content row.spans with
  | nil => rfl
  | cons c rest =>
    have hc : c ≠ '\t' := by
      intro htab
      simp [Span.Flush, hcontent, htab] at h
    rw [if_neg (by simp), List.takeWhile_append_of_pos (by simp),
      List.dropWhile_append_of_pos (by simp), List.takeWhile_cons_of_neg (by simpa using hc),
      List.dropWhile_cons_of_neg (by simpa using hc)]
    simp

/-! ### Directives -/

/-- None of the spans is a directive. -/
def Span.NoDirective (spans : List Span) : Prop := ∀ span ∈ spans, span.token ≠ .directive

namespace Span.NoDirective

@[simp] theorem nil : NoDirective [] := by simp [NoDirective]

@[simp] theorem cons {span : Span} {spans : List Span} :
    NoDirective (span :: spans) ↔ span.token ≠ .directive ∧ NoDirective spans := by
  simp [NoDirective]

@[simp] theorem append {first second : List Span} :
    NoDirective (first ++ second) ↔ NoDirective first ∧ NoDirective second := by
  simp [NoDirective, or_imp, forall_and]

@[simp] theorem flags (keywords : List (Bool × String)) : NoDirective (Span.flags keywords) := by
  intro span hspan
  obtain ⟨flag, -, rfl⟩ := List.mem_map.1 hspan
  simp

theorem separated {runs : List (List Span)} (h : ∀ run ∈ runs, NoDirective run) :
    NoDirective (Span.separated runs) := by
  unfold Span.separated
  induction runs with
  | nil => simp
  | cons run runs ih =>
    obtain ⟨hrun, hruns⟩ := List.forall_mem_cons.1 h
    cases runs with
    | nil => simpa using hrun
    | cons next runs =>
      rw [List.intercalate_cons_cons]
      simp [hrun, ih hruns]

end Span.NoDirective

open Cil.Span (NoDirective)

/-- The name of a type is written in names and in the signs between them. -/
theorem TypeRef.token_of_mem_pathSpans {ref : TypeRef} {span : Span} (h : span ∈ ref.pathSpans) :
    span.token ∈ [Token.typeName, Token.text] := by
  induction ref with
  | top type => by_cases hspace : type.space = "" <;> grind [pathSpans]
  | nested type outer ih => grind [pathSpans]

theorem TypeRef.token_of_mem_qualifiedSpans {ref : TypeRef} {span : Span}
    (h : span ∈ ref.qualifiedSpans) : span.token ∈ [Token.typeName, Token.text] := by
  rcases List.mem_append.1 h with hscope | hpath
  · rw [scopeSpans] at hscope
    split at hscope
    · cases hscope
    · rw [List.mem_singleton.1 hscope]
      exact List.mem_cons_of_mem _ List.mem_cons_self
  · exact token_of_mem_pathSpans hpath

@[simp] theorem TypeRef.noDirective_qualifiedSpans (ref : TypeRef) :
    NoDirective ref.qualifiedSpans := by
  intro span hspan hdirective
  have htoken := token_of_mem_qualifiedSpans hspan
  rw [hdirective] at htoken
  simp at htoken

@[simp] theorem TypeRef.noDirective_signatureSpans (ref : TypeRef) :
    NoDirective ref.signatureSpans := by
  unfold signatureSpans
  split <;> simp

@[simp] theorem TypeRef.noDirective_spans (form : NameForm) (ref : TypeRef) :
    NoDirective (ref.spans form) := by
  cases form <;> simp [spans]

@[simp] theorem Access.noDirective_spans (access : Access) : NoDirective access.spans := by
  simp [spans]

@[simp] theorem noDirective_separated_signatures (refs : List TypeRef) :
    NoDirective (Span.separated (refs.map TypeRef.signatureSpans)) := by
  refine NoDirective.separated fun run hrun => ?_
  obtain ⟨ref, -, rfl⟩ := List.mem_map.1 hrun
  exact ref.noDirective_signatureSpans

theorem noDirective_methodReferenceSpans (hasThis : Bool) (returnType : TypeRef)
    (declaring : Option TypeRef) (name : String) (parameters : List TypeRef) :
    NoDirective (methodReferenceSpans hasThis returnType declaring name parameters) := by
  unfold methodReferenceSpans
  cases hasThis <;> cases declaring <;> simp

theorem Operand.noDirective_spans (operand : Operand) : NoDirective operand.spans := by
  cases operand with
  | method member =>
    rw [spans]
    exact noDirective_methodReferenceSpans _ _ _ _ _
  | field member => cases htype : member.type? <;> simp [spans, htype]
  | _ => simp [spans]

theorem Instruction.noDirective_spans (instruction : Instruction) :
    NoDirective instruction.spans := by
  unfold spans
  cases instruction.operand with
  | none => simp
  | some operand => simp [operand.noDirective_spans]

end Cil
