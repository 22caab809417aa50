import Cil.Listing.TypeName
import Cil.Text.Quoted

/-!
# Reading escaped text back

A string literal escapes the quote that ends it and the backslash that starts an escape. So a reader
who goes through a text from the left knows at every quote whether the literal ends there
(`splitAtQuote`), and comes back to the string and to what follows it, whatever that is
(`literals_exact`).

A name that is no word escapes the apostrophe, but not the backslash. If the last character of the
name is a backslash, the apostrophe after it may be the end of the name or an escaped one, and what
follows the name decides (`Misread`). This is the only doubt there is: apart from it, a written name
tells both the name and where it ends (`escape_append_exact`).
-/

namespace Cil

/-! ### String literals -/

namespace Quoted

/-- The character that `c` stands for after a backslash. -/
def meaning? : Char → Option Char
  | '"' => some '"'
  | '\\' => some '\\'
  | 'n' => some '\n'
  | 'r' => some '\r'
  | 't' => some '\t'
  | '0' => some '\x00'
  | _ => none

/-- Undoes the escapes. -/
def unescape? : List Char → Option (List Char)
  | [] => some []
  | ['\\'] => none
  | '\\' :: c :: text => do return (← meaning? c) :: (← unescape? text)
  | c :: text => (unescape? text).map (c :: ·)

/-- What stands before the first quote that no backslash escapes, and what follows that quote. -/
def splitAtQuote : List Char → Option (List Char × List Char)
  | [] => none
  | '"' :: text => some ([], text)
  | '\\' :: c :: text => (splitAtQuote text).map (Prod.map ('\\' :: c :: ·) id)
  | c :: text => (splitAtQuote text).map (Prod.map (c :: ·) id)

/-- The string of the literal that a text starts with, and the text after it. -/
def read? (text : String) : Option (String × String) :=
  match text.toList with
  | '"' :: text => do
    let (inside, rest) ← splitAtQuote text
    return (String.ofList (← unescape? inside), String.ofList rest)
  | _ => none

/-- A character stands for itself, unless it is one of six, which are written as escapes. -/
theorem escapeChar_cases (c : Char) :
    (escapeChar c = [c] ∧ c ∉ ['"', '\\', '\n', '\r', '\t', '\x00']) ∨
      ∃ d, escapeChar c = ['\\', d] ∧ meaning? d = some c := by
  unfold escapeChar
  split
  case h_7 => exact .inl ⟨rfl, by simp_all⟩
  all_goals exact .inr ⟨_, rfl, rfl⟩

section

variable {c : Char} (text : List Char)

theorem splitAtQuote_cons (hquote : c ≠ '"') (hbackslash : c ≠ '\\') :
    splitAtQuote (c :: text) = (splitAtQuote text).map (Prod.map (c :: ·) id) := by
  rw [splitAtQuote]
  · exact hquote
  · exact fun _ _ h => absurd h hbackslash

theorem unescape?_cons (hbackslash : c ≠ '\\') :
    unescape? (c :: text) = (unescape? text).map (c :: ·) := by
  rw [unescape?]
  · exact fun h => absurd h hbackslash
  · exact fun _ _ h => absurd h hbackslash

theorem splitAtQuote_escapeChar_append (c : Char) :
    splitAtQuote (escapeChar c ++ text) =
      (splitAtQuote text).map (Prod.map (escapeChar c ++ ·) id) := by
  obtain ⟨hescape, hplain⟩ | ⟨d, hescape, -⟩ := escapeChar_cases c
  · rw [hescape]
    exact splitAtQuote_cons text (by grind) (by grind)
  · rw [hescape]
    rfl

theorem unescape?_escapeChar_append (c : Char) :
    unescape? (escapeChar c ++ text) = (unescape? text).map (c :: ·) := by
  obtain ⟨hescape, hplain⟩ | ⟨d, hescape, hmeaning⟩ := escapeChar_cases c
  · rw [hescape]
    exact unescape?_cons text (by grind)
  · rw [hescape, List.cons_append, List.singleton_append, unescape?, hmeaning]
    cases unescape? text <;> rfl

/-- No escape ends a literal early. -/
theorem splitAtQuote_flatMap_append (rest : List Char) :
    splitAtQuote (text.flatMap escapeChar ++ '"' :: rest) =
      some (text.flatMap escapeChar, rest) := by
  induction text with
  | nil => rfl
  | cons c text ih =>
    rw [List.flatMap_cons, List.append_assoc, splitAtQuote_escapeChar_append, ih]
    rfl

theorem unescape?_flatMap : unescape? (text.flatMap escapeChar) = some text := by
  induction text with
  | nil => rfl
  | cons c text ih =>
    rw [List.flatMap_cons, unescape?_escapeChar_append, ih]
    rfl

end

theorem read?_encode_append (text rest : String) :
    read? (encode text ++ rest) = some (text, rest) := by
  have hsplit := splitAtQuote_flatMap_append text.toList rest.toList
  have hinside := unescape?_flatMap text.toList
  simp [read?, encode, hsplit, hinside]

theorem control_notMem_encode {c : Char} (hc : c ∈ ['\n', '\r', '\t', '\x00']) (text : String) :
    c ∉ (encode text).toList := by
  have hmeaning : ∀ d ∈ ['\n', '\r', '\t', '\x00'], meaning? d = none := by
    simp [meaning?]
  have hother : c ≠ '"' ∧ c ≠ '\\' := by
    constructor <;> rintro rfl <;> simp at hc
  have hescape : ∀ d, c ∉ escapeChar d := by
    intro d hmem
    obtain ⟨hescape, hplain⟩ | ⟨e, hescape, he⟩ := escapeChar_cases d
    · rw [hescape, List.mem_singleton] at hmem
      subst hmem
      exact hplain (List.mem_cons_of_mem _ (List.mem_cons_of_mem _ hc))
    · rw [hescape, List.mem_cons, List.mem_singleton] at hmem
      obtain hbackslash | rfl := hmem
      · exact hother.2 hbackslash
      · rw [hmeaning c hc] at he
        cases he
  simp [encode, hescape, hother]

/-- Whatever follows a literal, it tells both the string and where it ends: what stands before the
first quote that is not escaped gives back the string. And no character that would break or bend the
line stands in a literal as it is. -/
theorem literals_exact :
    (∀ text other rest otherRest : String,
      encode text ++ rest = encode other ++ otherRest → text = other ∧ rest = otherRest) ∧
    (∀ text rest : String, read? (encode text ++ rest) = some (text, rest)) ∧
    ∀ text : String, ∀ c ∈ ['\n', '\r', '\t', '\x00'], c ∉ (encode text).toList := by
  refine ⟨fun text other rest otherRest h => ?_, read?_encode_append,
    fun text c hc => control_notMem_encode hc text⟩
  have hread : some (text, rest) = some (other, otherRest) := by
    rw [← read?_encode_append text rest, h, read?_encode_append]
  exact Prod.mk.inj (Option.some.inj hread)

/-- The string ends with a backslash, and a quote follows the literal. -/
theorem literals_exact_backslash :
    encode "a\"\\" ++ "\"b" = "\"a\\\"\\\\\"\"b" ∧
    read? "\"a\\\"\\\\\"\"b" = some ("a\"\\", "\"b") ∧
    ∀ other rest : String, "\"a\\\"\\\\\"\"b" = encode other ++ rest →
      "a\"\\" = other ∧ "\"b" = rest := by
  obtain ⟨hunique, hread, -⟩ := literals_exact
  have hwritten : encode "a\"\\" ++ "\"b" = "\"a\\\"\\\\\"\"b" := by decide
  refine ⟨hwritten, ?_, fun other rest h => hunique _ _ _ _ (hwritten.trans h)⟩
  rw [← hwritten]
  exact hread _ _

end Quoted

/-! ### Names -/

namespace Name

/-- A word is over before this text: it is empty, or starts with a character that no word holds. -/
def EndsWord (rest : List Char) : Prop := ∀ c ∈ rest.head?, isWordChar c = false

instance : (rest : List Char) → Decidable (EndsWord rest)
  | [] => isTrue (by simp [EndsWord])
  | c :: _ => decidable_of_iff (isWordChar c = false) (by simp [EndsWord])

/-- The name ends with a backslash, which is taken for the escape of the apostrophe after it. So the
name seems to go on, up to the next apostrophe of what follows it, and has become `other`. -/
def Misread (name rest other otherRest : List Char) : Prop :=
  ∃ start tail, name = start ++ ['\\'] ∧ other = start ++ '\x27' :: tail ∧
    rest = tail.flatMap escapeChar ++ '\x27' :: otherRest

theorem escapeChar_of_ne {c : Char} (h : c ≠ '\x27') : escapeChar c = [c] := if_neg h

/-- No escape starts with the apostrophe that ends a name. -/
theorem escapeChar_append_ne (c : Char) (text other : List Char) :
    escapeChar c ++ text ≠ '\x27' :: other := by
  by_cases hc : c = '\x27'
  · subst hc
    simp [escapeChar]
  · simp [escapeChar_of_ne hc, hc]

section

variable {name rest other otherRest : List Char}

theorem Misread.cons (h : Misread name rest other otherRest) (c : Char) :
    Misread (c :: name) rest (c :: other) otherRest := by
  obtain ⟨start, tail, rfl, rfl, rfl⟩ := h
  exact ⟨c :: start, tail, rfl, rfl, rfl⟩

theorem Misread.ne (h : Misread name rest other otherRest) : name ≠ other := by
  obtain ⟨start, tail, rfl, rfl, -⟩ := h
  simp

theorem Misread.append_eq (h : Misread name rest other otherRest) :
    name.flatMap escapeChar ++ '\x27' :: rest =
      other.flatMap escapeChar ++ '\x27' :: otherRest := by
  obtain ⟨start, tail, rfl, rfl, rfl⟩ := h
  simp [escapeChar]

-- Two names part where one has an apostrophe and the other the backslash that starts its escape.
-- The other name has to end there, as the apostrophe comes next.
theorem misread_of_append_eq {c : Char} (hc : c ≠ '\x27')
    (h : (c :: name).flatMap escapeChar ++ '\x27' :: rest =
      ('\x27' :: other).flatMap escapeChar ++ '\x27' :: otherRest) :
    Misread (c :: name) rest ('\x27' :: other) otherRest := by
  have hparts : c = '\\' ∧ name.flatMap escapeChar ++ '\x27' :: rest =
      '\x27' :: (other.flatMap escapeChar ++ '\x27' :: otherRest) := by
    simpa [escapeChar, hc] using h
  obtain ⟨rfl, hrest⟩ := hparts
  cases name with
  | nil => exact ⟨[], other, rfl, rfl, (List.cons.inj hrest).2⟩
  | cons d name =>
    rw [List.flatMap_cons, List.append_assoc] at hrest
    exact absurd hrest (escapeChar_append_ne d _ _)

theorem eq_or_misread
    (h : name.flatMap escapeChar ++ '\x27' :: rest =
      other.flatMap escapeChar ++ '\x27' :: otherRest) :
    name = other ∧ rest = otherRest ∨ Misread name rest other otherRest ∨
      Misread other otherRest name rest := by
  induction name generalizing other with
  | nil =>
    cases other with
    | nil => exact .inl ⟨rfl, (List.cons.inj h).2⟩
    | cons d other =>
      rw [List.flatMap_cons, List.append_assoc] at h
      exact absurd h.symm (escapeChar_append_ne d _ _)
  | cons c name ih =>
    cases other with
    | nil =>
      rw [List.flatMap_cons, List.append_assoc] at h
      exact absurd h (escapeChar_append_ne c _ _)
    | cons d other =>
      by_cases hcd : c = d
      · subst hcd
        rw [List.flatMap_cons, List.flatMap_cons, List.append_assoc, List.append_assoc] at h
        obtain ⟨rfl, hrest⟩ | hmisread | hmisread := ih (List.append_cancel_left h)
        · exact .inl ⟨rfl, hrest⟩
        · exact .inr (.inl (hmisread.cons c))
        · exact .inr (.inr (hmisread.cons c))
      · by_cases hd : d = '\x27'
        · subst hd
          exact .inr (.inl (misread_of_append_eq hcd h))
        by_cases hc : c = '\x27'
        · subst hc
          exact .inr (.inr (misread_of_append_eq hd h.symm))
        · rw [List.flatMap_cons, List.flatMap_cons, escapeChar_of_ne hc, escapeChar_of_ne hd] at h
          exact absurd (List.cons.inj h).1 hcd

theorem takeWhile_append_of_endsWord (hname : ∀ c ∈ name, isWordChar c = true)
    (hrest : EndsWord rest) : (name ++ rest).takeWhile isWordChar = name := by
  rw [List.takeWhile_append_of_pos hname]
  cases rest with
  | nil => simp
  | cons c rest => simp [hrest c rfl]

/-- A text ends a word or not before and after it is escaped. -/
theorem endsWord_flatMap_append (tail : List Char) :
    EndsWord (tail.flatMap escapeChar ++ '\x27' :: rest) ↔ EndsWord tail := by
  have hapostrophe : isWordChar '\x27' = false := by decide
  have hbackslash : isWordChar '\\' = false := by decide
  cases tail with
  | nil => simp [EndsWord, hapostrophe]
  | cons c tail =>
    by_cases hc : c = '\x27'
    · subst hc
      simp [EndsWord, escapeChar, hapostrophe, hbackslash]
    · simp [EndsWord, escapeChar_of_ne hc]

end

/-! ### Written names -/

section

variable {name other rest otherRest : String}

theorem isWordChar_of_isWord (h : isWord name = true) : ∀ c ∈ name.toList, isWordChar c = true := by
  unfold isWord at h
  split at h
  · cases h
  · next hname =>
    rw [Bool.and_eq_true, List.all_eq_true] at h
    rw [hname]
    exact h.2

theorem isWord_eq_false_of_mem {c : Char} (hmem : c ∈ name.toList) (hc : isWordChar c = false) :
    isWord name = false := by
  rw [Bool.eq_false_iff]
  intro hword
  rw [isWordChar_of_isWord hword c hmem] at hc
  cases hc

theorem escape_of_isWord (h : isWord name = true) : escape name = name := if_pos h

theorem toList_escape_append (h : isWord name = false) (rest : String) :
    (escape name ++ rest).toList =
      '\x27' :: (name.toList.flatMap escapeChar ++ '\x27' :: rest.toList) := by
  simp [escape, h]

theorem eq_of_isWord (hname : isWord name = true) (hother : isWord other = true)
    (hrest : EndsWord rest.toList) (hotherRest : EndsWord otherRest.toList)
    (h : escape name ++ rest = escape other ++ otherRest) : name = other ∧ rest = otherRest := by
  rw [escape_of_isWord hname, escape_of_isWord hother] at h
  have hlist : name.toList ++ rest.toList = other.toList ++ otherRest.toList := by
    rw [← String.toList_append, h, String.toList_append]
  have heq : name = other := by
    rw [← String.toList_inj, ← takeWhile_append_of_endsWord (isWordChar_of_isWord hname) hrest,
      hlist, takeWhile_append_of_endsWord (isWordChar_of_isWord hother) hotherRest]
  subst heq
  exact ⟨rfl, String.toList_inj.1 (List.append_cancel_left hlist)⟩

/-- What stands between apostrophes is no word. -/
theorem escape_append_ne (hname : isWord name = true) (hother : isWord other = false) :
    escape name ++ rest ≠ escape other ++ otherRest := by
  intro h
  have hlist := congrArg String.toList h
  rw [escape_of_isWord hname, toList_escape_append hother, String.toList_append] at hlist
  have hword := isWordChar_of_isWord hname
  cases hchars : name.toList with
  | nil => simp [isWord, hchars] at hname
  | cons c chars =>
    rw [hchars] at hlist hword
    have hc := hword c List.mem_cons_self
    rw [(List.cons.inj hlist).1] at hc
    exact absurd hc (by decide)

theorem Misread.escape_append_eq
    (h : Misread name.toList rest.toList other.toList otherRest.toList) :
    escape name ++ rest = escape other ++ otherRest := by
  have hwritten := h.append_eq
  obtain ⟨start, tail, hname, hother, -⟩ := h
  have hname : isWord name = false :=
    isWord_eq_false_of_mem (c := '\\') (by simp [hname]) (by decide)
  have hother : isWord other = false :=
    isWord_eq_false_of_mem (c := '\x27') (by simp [hother]) (by decide)
  rw [← String.toList_inj, toList_escape_append hname, toList_escape_append hother, hwritten]

theorem escape_append_eq_iff (hrest : EndsWord rest.toList)
    (hotherRest : EndsWord otherRest.toList) :
    escape name ++ rest = escape other ++ otherRest ↔
      name = other ∧ rest = otherRest ∨
        Misread name.toList rest.toList other.toList otherRest.toList ∨
        Misread other.toList otherRest.toList name.toList rest.toList := by
  constructor
  · intro h
    cases hname : isWord name <;> cases hother : isWord other
    · have hlist := congrArg String.toList h
      rw [toList_escape_append hname, toList_escape_append hother] at hlist
      simpa [String.toList_inj] using eq_or_misread (List.cons.inj hlist).2
    · exact absurd h.symm (escape_append_ne hother hname)
    · exact absurd h (escape_append_ne hname hother)
    · exact .inl (eq_of_isWord hname hother hrest hotherRest h)
  · rintro (⟨rfl, rfl⟩ | hmisread | hmisread)
    · rfl
    · exact hmisread.escape_append_eq
    · exact hmisread.escape_append_eq.symm

end

/-- Nothing else is written like this name, whatever ends a word comes after it. -/
def Unmistakable (name : String) : Prop :=
  ∀ other rest otherRest : String, EndsWord rest.toList → EndsWord otherRest.toList →
    escape name ++ rest = escape other ++ otherRest → name = other ∧ rest = otherRest

theorem unmistakable_iff {name : String} :
    Unmistakable name ↔ name.toList.getLast? ≠ some '\\' ∧
      ∀ start tail, name.toList = start ++ '\x27' :: tail → ¬ EndsWord tail := by
  constructor
  · intro h
    refine ⟨fun hlast => ?_, fun start tail hname htail => ?_⟩
    · obtain ⟨start, hname⟩ := List.getLast?_eq_some_iff.1 hlast
      have hmisread : Misread name.toList "\x27".toList
          (String.ofList (start ++ ['\x27'])).toList "".toList :=
        ⟨start, [], hname, by simp, by simp⟩
      have heq := h _ _ _ (by decide) (by decide) hmisread.escape_append_eq
      exact absurd heq.2 (by decide)
    · have hmisread : Misread (String.ofList (start ++ ['\\'])).toList
          (String.ofList (tail.flatMap escapeChar ++ ['\x27'])).toList name.toList "".toList :=
        ⟨start, tail, by simp, hname, by simp⟩
      have hends : EndsWord (String.ofList (tail.flatMap escapeChar ++ ['\x27'])).toList := by
        rw [String.toList_ofList]
        exact (endsWord_flatMap_append tail).2 htail
      have heq := h _ _ _ (by decide) hends hmisread.escape_append_eq.symm
      simpa [← String.toList_inj] using heq.2
  · rintro ⟨hlast, hapostrophe⟩ other rest otherRest hrest hotherRest h
    obtain heq | ⟨start, tail, hname, -, -⟩ | ⟨start, tail, -, hname, htail⟩ :=
      (escape_append_eq_iff hrest hotherRest).1 h
    · exact heq
    · exact absurd (by simp [hname]) hlast
    · rw [htail, endsWord_flatMap_append] at hotherRest
      exact absurd hotherRest (hapostrophe start tail hname)

/-- A written name, together with something after it that ends a word, tells the name and what comes
after it exactly if no name is misread for the other. So there is no doubt between names that do not
end with a backslash. And there is no doubt about a name at all exactly if, besides, in the name
itself every apostrophe is followed by a character of a word. -/
theorem escape_append_exact (name other rest otherRest : String) (hrest : EndsWord rest.toList)
    (hotherRest : EndsWord otherRest.toList) :
    ((escape name ++ rest = escape other ++ otherRest → name = other ∧ rest = otherRest) ↔
      ¬ Misread name.toList rest.toList other.toList otherRest.toList ∧
        ¬ Misread other.toList otherRest.toList name.toList rest.toList) ∧
    (name.toList.getLast? ≠ some '\\' → other.toList.getLast? ≠ some '\\' →
      escape name ++ rest = escape other ++ otherRest → name = other ∧ rest = otherRest) ∧
    (Unmistakable name ↔ name.toList.getLast? ≠ some '\\' ∧
      ∀ start tail, name.toList = start ++ '\x27' :: tail → ¬ EndsWord tail) := by
  have hiff := @escape_append_eq_iff name other rest otherRest hrest hotherRest
  refine ⟨⟨fun h => ⟨fun hmisread => ?_, fun hmisread => ?_⟩, fun hnone heq => ?_⟩,
    fun hname hother heq => ?_, unmistakable_iff⟩
  · exact hmisread.ne (congrArg String.toList (h hmisread.escape_append_eq).1)
  · exact hmisread.ne (congrArg String.toList (h hmisread.escape_append_eq.symm).1).symm
  · obtain hsame | hmisread | hmisread := hiff.1 heq
    · exact hsame
    · exact absurd hmisread hnone.1
    · exact absurd hmisread hnone.2
  · obtain hsame | ⟨start, -, hlast, -⟩ | ⟨start, -, hlast, -⟩ := hiff.1 heq
    · exact hsame
    · exact absurd (by simp [hlast]) hname
    · exact absurd (by simp [hlast]) hother

/-- A backslash does no harm inside of a name, even before an apostrophe. At the end of a name it
does, if an apostrophe follows the name. -/
theorem escape_append_exact_backslashes :
    Unmistakable "a\\'b" ∧ EndsWord "'".toList ∧ EndsWord "".toList ∧
      ¬ (escape "a\\" ++ "'" = escape "a'" ++ "" → "a\\" = "a'" ∧ "'" = "") := by
  have hapostrophe : EndsWord "'".toList := by decide
  have hempty : EndsWord "".toList := by decide
  obtain ⟨-, -, hcertain⟩ := escape_append_exact "a\\'b" "a'" "'" "" hapostrophe hempty
  obtain ⟨hiff, -⟩ := escape_append_exact "a\\" "a'" "'" "" hapostrophe hempty
  refine ⟨hcertain.2 ⟨by decide, ?_⟩, hapostrophe, hempty, fun h => ?_⟩
  · -- the one apostrophe is the third character
    rintro (_ | ⟨a, _ | ⟨b, _ | ⟨c, _ | ⟨d, start⟩⟩⟩⟩) tail h
    all_goals simp at h
    obtain ⟨-, -, rfl⟩ := h
    decide
  · exact (hiff.1 h).1 ⟨['a'], [], rfl, rfl, rfl⟩

/-- A backslash alone and an apostrophe alone are written alike, if an apostrophe follows the
former. So two types may be written alike that come from different scopes. -/
theorem escape_append_ambiguous :
    (EndsWord "'".toList ∧ EndsWord "".toList ∧ escape "\\" ++ "'" = escape "'" ++ "" ∧
      "\\" ≠ "'" ∧ "'" ≠ "") ∧
    Span.plain (TypeRef.top { scope := some "\\", space := "']B", name := "C" }).qualifiedSpans =
      Span.plain
        (TypeRef.top { scope := some "']", space := "B", name := "C" }).qualifiedSpans := by
  refine ⟨⟨by decide, by decide, by decide, by decide, by decide⟩, ?_⟩
  decide +kernel

end Name

end Cil
