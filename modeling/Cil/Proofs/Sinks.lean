import Cil.Proofs.Recorded
import Mathlib.Data.List.Chain
import Mathlib.Data.List.Forall2

/-!
# Plain text and recorded lines

The plain text of any calls is that of the lines recorded of them (`text_foldl_step`). What is
recorded of a line depends only on the characters written on it and their tags: among the lines
without empty spans and without neighbours of one tag (`Line.Merged`) there is one for each such
sequence (`Line.Merged.eq_of_tagged_eq`), and this one is recorded (`Line.eq_ofSpans_iff`).
-/

namespace Cil

/-- What a sink can be asked for: a piece, the end of the line, or a piece that ends the line. -/
inductive SinkCall where
  | write (piece : Span)
  | endLine
  | writeLine (piece : Span)
deriving DecidableEq, Repr

def SinkCall.calls : SinkCall → List Call
  | write piece => [.write piece]
  | endLine => [.endLine]
  | writeLine piece => [.write piece, .endLine]

/-- The pieces on each completed line and, last, those on the pending one. -/
def Call.pieces : List Call → List (List Span)
  | [] => [[]]
  | .endLine :: calls => [] :: pieces calls
  | .write piece :: calls => (pieces calls).modifyHead (piece :: ·)

/-- The characters of a piece, each with the tag of the piece. -/
def Span.tagged (piece : Span) : List (Char × Token) := piece.text.toList.map (·, piece.token)

theorem Span.eq_of_tagged_eq {first second : Span} (htoken : first.token = second.token)
    (h : first.tagged = second.tagged) : first = second := by
  obtain ⟨token, text⟩ := first
  obtain ⟨token', text'⟩ := second
  have hchars := congrArg (List.map Prod.fst) h
  simp only [Span.tagged, List.map_map, Function.comp_def, List.map_id'] at hchars
  rw [Span.mk.injEq]
  exact ⟨htoken, String.toList_inj.1 hchars⟩

namespace Line

def tagged (line : Line) : List (Char × Token) := line.flatMap Span.tagged

/-- No span is empty, and no two neighbours have the same tag. -/
structure Merged (line : Line) : Prop where
  nonempty : ∀ span ∈ line, span.text ≠ ""
  chain : line.IsChain fun span next => span.token ≠ next.token

/-! ### Writing keeps lines merged -/

@[simp] theorem tagged_nil : tagged [] = [] := rfl

@[simp] theorem tagged_cons (span : Span) (line : Line) :
    tagged (span :: line) = span.tagged ++ tagged line := rfl

theorem merged_nil : Merged [] := ⟨by simp, .nil⟩

theorem tagged_extend (line : Line) (piece : Span) :
    (line.extend piece).tagged = line.tagged ++ piece.tagged := by
  fun_induction extend line piece with
  | case1 piece => simp
  | case2 last piece htoken => simp [Span.tagged, htoken]
  | case3 last piece htoken => simp
  | case4 first next rest piece ih => rw [tagged_cons, ih, tagged_cons first, List.append_assoc]

/-- The first span of a line keeps its tag. -/
theorem extend_cons (first : Span) (rest : Line) (piece : Span) :
    ∃ text tail, extend (first :: rest) piece = ⟨first.token, text⟩ :: tail := by
  cases rest with
  | nil =>
    rw [extend]
    split
    · exact ⟨_, _, rfl⟩
    · exact ⟨_, _, rfl⟩
  | cons next rest => exact ⟨_, _, rfl⟩

theorem Merged.extend {line : Line} (h : line.Merged) {piece : Span} (hpiece : piece.text ≠ "") :
    (line.extend piece).Merged := by
  induction line with
  | nil => exact ⟨by simpa [Line.extend] using hpiece, .singleton _⟩
  | cons first rest ih =>
    obtain ⟨hnonempty, hchain⟩ := h
    obtain ⟨hfirst, hrest⟩ := List.forall_mem_cons.1 hnonempty
    cases rest with
    | nil =>
      rw [Line.extend]
      split
      · refine ⟨?_, .singleton _⟩
        simpa using fun hempty => absurd hempty hfirst
      · next htoken =>
        exact ⟨by simp [hfirst, hpiece], by simpa using htoken⟩
    | cons next rest =>
      obtain ⟨htoken, hchain⟩ := List.isChain_cons_cons.1 hchain
      obtain ⟨hnonempty', hchain'⟩ := ih ⟨hrest, hchain⟩
      obtain ⟨text, tail, htail⟩ := extend_cons next rest piece
      rw [Line.extend]
      rw [htail] at hnonempty' hchain' ⊢
      exact ⟨List.forall_mem_cons.2 ⟨hfirst, hnonempty'⟩,
        List.isChain_cons_cons.2 ⟨htoken, hchain'⟩⟩

theorem Merged.write {line : Line} (h : line.Merged) (piece : Span) :
    (line.write piece).Merged := by
  unfold Line.write
  split
  · exact h
  · next hpiece => exact h.extend hpiece

theorem tagged_write (line : Line) (piece : Span) :
    (line.write piece).tagged = line.tagged ++ piece.tagged := by
  unfold Line.write
  split
  · next hpiece => simp [Span.tagged, hpiece]
  · exact tagged_extend line piece

theorem Merged.foldl_write {line : Line} (h : line.Merged) (pieces : List Span) :
    (pieces.foldl Line.write line).Merged := by
  induction pieces generalizing line with
  | nil => exact h
  | cons piece pieces ih => exact ih (h.write piece)

theorem tagged_foldl_write (line : Line) (pieces : List Span) :
    (pieces.foldl Line.write line).tagged = line.tagged ++ pieces.flatMap Span.tagged := by
  induction pieces generalizing line with
  | nil => simp
  | cons piece pieces ih =>
    rw [List.foldl_cons, ih, tagged_write, List.flatMap_cons, List.append_assoc]

/-! ### One merged line for each sequence of tagged characters -/

theorem tagged_head {first : Span} (hfirst : first.text ≠ "") (rest : Line) :
    ∃ c tail, tagged (first :: rest) = (c, first.token) :: tail := by
  obtain ⟨c, text, htext⟩ := List.exists_cons_of_ne_nil (mt String.toList_eq_nil_iff.1 hfirst)
  exact ⟨c, _, by rw [tagged_cons, Span.tagged, htext]; rfl⟩

theorem Merged.tail {first : Span} {rest : Line} (h : Merged (first :: rest)) : Merged rest :=
  ⟨fun span hspan => h.nonempty span (List.mem_cons_of_mem _ hspan), h.chain.tail⟩

theorem Merged.text_eq_empty_iff {line : Line} (h : line.Merged) : line.text = "" ↔ line = [] := by
  cases line with
  | nil => exact ⟨fun _ => rfl, fun _ => rfl⟩
  | cons span line =>
    have hspan : span.text ≠ "" := h.nonempty span (by simp)
    simp [text, hspan]

/-- The first span of a merged line reaches as far as its tag does. -/
theorem Merged.takeWhile_tagged {first : Span} {rest : Line} (h : Merged (first :: rest)) :
    (tagged (first :: rest)).takeWhile (·.2 = first.token) = first.tagged := by
  have hfirst : ∀ pair ∈ first.tagged, decide (pair.2 = first.token) = true := by
    intro pair hpair
    obtain ⟨c, -, rfl⟩ := List.mem_map.1 hpair
    simp
  have hrest : (tagged rest).takeWhile (·.2 = first.token) = [] := by
    cases rest with
    | nil => rfl
    | cons next rest =>
      obtain ⟨htoken, -⟩ := List.isChain_cons_cons.1 h.chain
      obtain ⟨c, tail, htail⟩ := tagged_head (h.nonempty next (by simp)) rest
      rw [htail, List.takeWhile_cons_of_neg]
      simpa using htoken.symm
  rw [tagged_cons, List.takeWhile_append_of_pos hfirst, hrest, List.append_nil]

theorem Merged.eq_of_tagged_eq {first second : Line} (hfirst : first.Merged)
    (hsecond : second.Merged) (h : first.tagged = second.tagged) : first = second := by
  induction first generalizing second with
  | nil =>
    cases second with
    | nil => rfl
    | cons span second =>
      obtain ⟨c, tail, htail⟩ := tagged_head (hsecond.nonempty span (by simp)) second
      rw [htail] at h
      cases h
  | cons span first ih =>
    obtain ⟨c, tail, htail⟩ := tagged_head (hfirst.nonempty span (by simp)) first
    cases second with
    | nil =>
      rw [htail] at h
      cases h
    | cons span' second =>
      obtain ⟨c', tail', htail'⟩ := tagged_head (hsecond.nonempty span' (by simp)) second
      have htoken : span.token = span'.token := by
        rw [htail, htail'] at h
        exact congrArg Prod.snd (List.cons.inj h).1
      have hspan : span = span' := by
        refine Span.eq_of_tagged_eq htoken ?_
        rw [← hfirst.takeWhile_tagged, ← hsecond.takeWhile_tagged, h, htoken]
      subst hspan
      rw [tagged_cons, tagged_cons, List.append_cancel_left_eq] at h
      rw [ih hfirst.tail hsecond.tail h]

/-- The line made of pieces is the merged line with their characters and tags. -/
theorem eq_ofSpans_iff {line : Line} {pieces : List Span} :
    line = ofSpans pieces ↔ line.Merged ∧ line.tagged = pieces.flatMap Span.tagged := by
  have hmerged : (ofSpans pieces).Merged := merged_nil.foldl_write pieces
  have htagged : (ofSpans pieces).tagged = pieces.flatMap Span.tagged :=
    tagged_foldl_write [] pieces
  constructor
  · rintro rfl
    exact ⟨hmerged, htagged⟩
  · rintro ⟨hline, heq⟩
    exact hline.eq_of_tagged_eq hmerged (heq.trans htagged.symm)

end Line

/-! ### Records -/

namespace Record

/-- The completed lines and the pending one. -/
def allLines (record : Record) : List Line := record.completed.toList ++ [record.pending]

/-- The text of the completed lines, each with its end, and of the pending one. -/
def text (record : Record) : String := Line.textAll record.completed.toList ++ record.pending.text

theorem text_step (record : Record) (call : Call) :
    (record.step call).text = record.text ++ call.text := by
  cases call with
  | write piece => rw [step, text, Line.text_write, text, String.append_assoc]; rfl
  | endLine =>
    rw [step, text, Array.toList_push, Line.textAll_append, text, String.append_assoc,
      String.append_assoc]
    simp [Line.textAll, Line.text, Call.text]

theorem text_foldl_step (record : Record) (calls : List Call) :
    (calls.foldl step record).text = record.text ++ Call.plain calls := by
  induction calls generalizing record with
  | nil => simp
  | cons call calls ih =>
    rw [List.foldl_cons, ih, text_step, String.append_assoc]
    simp [Call.plain]

-- The pieces of the first line are written onto what is pending already.
theorem allLines_foldl_step (record : Record) (calls : List Call) :
    ∃ first rest, Call.pieces calls = first :: rest ∧
      (calls.foldl step record).allLines =
        record.completed.toList ++
          first.foldl Line.write record.pending :: rest.map Line.ofSpans := by
  induction calls generalizing record with
  | nil => exact ⟨[], [], rfl, rfl⟩
  | cons call calls ih =>
    obtain ⟨first, rest, hpieces, hlines⟩ := ih (record.step call)
    rw [List.foldl_cons, hlines]
    cases call with
    | write piece => exact ⟨piece :: first, rest, by rw [Call.pieces, hpieces]; rfl, rfl⟩
    | endLine =>
      refine ⟨[], first :: rest, by rw [Call.pieces, hpieces], ?_⟩
      rw [step, Array.toList_push, List.append_assoc]
      rfl

theorem allLines_ofCalls (calls : List Call) :
    (ofCalls calls).allLines = (Call.pieces calls).map Line.ofSpans := by
  obtain ⟨first, rest, hpieces, hlines⟩ := allLines_foldl_step {} calls
  rw [ofCalls, hlines, hpieces]
  rfl

theorem merged_pending (calls : List Call) : (ofCalls calls).pending.Merged := by
  have hmem : (ofCalls calls).pending ∈ (ofCalls calls).allLines := by simp [allLines]
  rw [allLines_ofCalls] at hmem
  obtain ⟨pieces, -, hpieces⟩ := List.mem_map.1 hmem
  exact (Line.eq_ofSpans_iff.1 hpieces.symm).1

end Record

/-! ### The two sinks -/

/-- Whatever is asked of a sink that keeps plain text and of one that records lines, the text is
that of the completed lines, each with its end, and of the pending line, which counts as a line
unless its text is empty. And what is recorded of each line is the one line without empty spans and
without neighbours of one tag that has the characters and tags of the pieces written on it. -/
theorem sinks_agree (asked : List SinkCall) :
    let calls := asked.flatMap SinkCall.calls
    let record := Record.ofCalls calls
    Call.plain calls = Line.textAll record.completed.toList ++ record.pending.text ∧
    record.lines =
      record.completed.toList ++ (if record.pending.text = "" then [] else [record.pending]) ∧
    List.Forall₂
      (fun line pieces => ∀ other : Line,
        other = line ↔ other.Merged ∧ other.tagged = pieces.flatMap Span.tagged)
      (record.completed.toList ++ [record.pending]) (Call.pieces calls) := by
  intro calls record
  have hlines : record.completed.toList ++ [record.pending] =
      (Call.pieces calls).map Line.ofSpans := Record.allLines_ofCalls calls
  refine ⟨?_, ?_, ?_⟩
  · have htext := Record.text_foldl_step {} calls
    exact (htext.trans String.empty_append).symm
  · have hempty : record.pending.text = "" ↔ record.pending = [] :=
      (Record.merged_pending calls).text_eq_empty_iff
    simp only [Record.lines, hempty]
    split <;> simp
  · rw [hlines, List.forall₂_map_left_iff, List.forall₂_same]
    exact fun pieces _ other => Line.eq_ofSpans_iff

end Cil
