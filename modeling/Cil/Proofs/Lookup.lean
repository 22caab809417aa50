import Mathlib.Logic.Relation
import Cil.Language.Registry
import Cil.Proofs.Selection

/-!
# Looking up languages

A registry only grows at its end, and a look-up goes through it from the front. So it finds the
earliest language that answers to the query, and what has been found once is found for ever
(`get?_registerAll_of_some`). A language that comes too late is still there, but not under its name.

What counts of a name is its key. The key of a text is put together from the keys of its characters
(`lookupKey_append`), so that a query may be retouched character by character: a `Retouch` leaves
the key alone (`lookupKey_eq_of_retouch`), and so any number of them leaves the answer alone.
-/

namespace Cil

/-! ### Keys -/

theorem lookupKey_append (first second : String) :
    lookupKey (first ++ second) = lookupKey first ++ lookupKey second := by
  simp [lookupKey]

/-- A change of a query that does not count: something comes or goes that is neither a letter nor a
number, or an ASCII letter changes its case. -/
inductive Retouch : String → String → Prop
  | insert (before after : String) {c : Char} (hc : Unicode.isAlphanumeric c = false) :
    Retouch (before ++ after) (before ++ String.singleton c ++ after)
  | delete (before after : String) {c : Char} (hc : Unicode.isAlphanumeric c = false) :
    Retouch (before ++ String.singleton c ++ after) (before ++ after)
  | recase (before after : String) {c d : Char} (hc : c.isAlpha = true)
    (hd : d = c.toLower ∨ d = c.toUpper) :
    Retouch (before ++ String.singleton c ++ after) (before ++ String.singleton d ++ after)

theorem lookupKey_singleton {c : Char} (hc : Unicode.isAlphanumeric c = false) :
    lookupKey (String.singleton c) = [] := by
  simp [lookupKey, hc]

theorem toNat_lt_of_isAlpha {c : Char} (hc : c.isAlpha = true) : c.toNat < 128 := by
  have hcase : c.isUpper = true ∨ c.isLower = true := Bool.or_eq_true_iff.1 hc
  obtain hupper | hlower := hcase
  · have hle : c.val ≤ 'Z'.val := (of_decide_eq_true hupper).2
    exact Nat.lt_of_le_of_lt (UInt32.le_iff_toNat_le.1 hle) (by decide)
  · have hle : c.val ≤ 'z'.val := of_decide_eq_true (Bool.and_eq_true_iff.1 hlower).2
    exact Nat.lt_of_le_of_lt (UInt32.le_iff_toNat_le.1 hle) (by decide)

theorem lookupKey_recase {c d : Char} (hc : c.isAlpha = true) (hd : d = c.toLower ∨ d = c.toUpper) :
    lookupKey (String.singleton c) = lookupKey (String.singleton d) := by
  -- the letters are tried one by one
  have hascii : ∀ n < 128, (Char.ofNat n).isAlpha = true →
      lookupKey (String.singleton (Char.ofNat n)) =
        lookupKey (String.singleton (Char.ofNat n).toLower) ∧
      lookupKey (String.singleton (Char.ofNat n)) =
        lookupKey (String.singleton (Char.ofNat n).toUpper) := by
    decide
  have hkeys := hascii c.toNat (toNat_lt_of_isAlpha hc)
  rw [Char.ofNat_toNat] at hkeys
  obtain ⟨hlower, hupper⟩ := hkeys hc
  obtain rfl | rfl := hd
  · exact hlower
  · exact hupper

theorem lookupKey_eq_of_retouch {query other : String} (h : Retouch query other) :
    lookupKey query = lookupKey other := by
  cases h with
  | insert before after hc => simp only [lookupKey_append, lookupKey_singleton hc, List.append_nil]
  | delete before after hc => simp only [lookupKey_append, lookupKey_singleton hc, List.append_nil]
  | recase before after hc hd => simp only [lookupKey_append, lookupKey_recase hc hd]

theorem lookupKey_eq_of_retouches {query other : String}
    (h : Relation.ReflTransGen Retouch query other) : lookupKey query = lookupKey other := by
  induction h with
  | refl => rfl
  | tail _ hstep ih => exact ih.trans (lookupKey_eq_of_retouch hstep)

/-- The language is meant by the query, as far as names go. -/
def Language.AnswersTo (query : String) (language : Language) : Prop :=
  lookupKey language.name = lookupKey query

instance (query : String) : DecidablePred (Language.AnswersTo query) :=
  fun _ => inferInstanceAs (Decidable (_ = _))

namespace Registry

/-! ### What is found -/

section

variable {registry : Registry} {query : String}

theorem get?_eq_find? (registry : Registry) (query : String) :
    registry.get? query = registry.languages.find? (Language.AnswersTo query) := by
  rw [get?]
  congr 1
  funext language
  rw [Bool.eq_iff_iff, beq_iff_eq, decide_eq_true_iff]
  rfl

theorem get?_eq_some_iff {language : Language} :
    registry.get? query = some language ↔
      IsFirst (Language.AnswersTo query) registry.languages language := by
  rw [get?_eq_find?, find?_eq_some_iff_isFirst]

theorem get?_eq_none_iff :
    registry.get? query = none ↔ ∀ language ∈ registry.languages, ¬ language.AnswersTo query := by
  rw [get?_eq_find?, List.find?_eq_none]
  simp

theorem get?_congr {other : String} (h : lookupKey query = lookupKey other) :
    registry.get? query = registry.get? other := by
  rw [get?, get?, h]

theorem get?_register (language : Language) :
    (registry.register language).get? query =
      (registry.get? query).or (if language.AnswersTo query then some language else none) := by
  rw [get?_eq_find?, get?_eq_find?, register, List.find?_append, List.find?_singleton]
  simp

/-- A language is found under its own name, unless an earlier one is. -/
theorem exists_get?_name {before after : List Language} {language : Language}
    (h : registry.languages = before ++ language :: after) :
    ∃ found ∈ before ++ [language], registry.get? language.name = some found := by
  have hsplit : registry.languages = (before ++ [language]) ++ after := by simp [h]
  have hfound : ((before ++ [language]).find? (Language.AnswersTo language.name)).isSome := by
    rw [List.find?_isSome]
    exact ⟨language, by simp, decide_eq_true rfl⟩
  obtain ⟨found, hfound⟩ := Option.isSome_iff_exists.1 hfound
  refine ⟨found, List.mem_of_find?_eq_some hfound, ?_⟩
  rw [get?_eq_find?, hsplit, List.find?_append, hfound]
  rfl

end

/-! ### Histories -/

/-- Registers languages one after the other. -/
def registerAll (registry : Registry) (history : List Language) : Registry :=
  history.foldl register registry

theorem languages_registerAll (registry : Registry) (history : List Language) :
    (registry.registerAll history).languages = registry.languages ++ history := by
  induction history generalizing registry with
  | nil => simp [registerAll]
  | cons language history ih =>
    have hrest := ih (registry.register language)
    rw [register, List.append_assoc] at hrest
    exact hrest

section

variable {registry : Registry} {query : String} {language : Language}

theorem get?_register_of_some (h : registry.get? query = some language) (added : Language) :
    (registry.register added).get? query = some language := by
  rw [get?_register, h]
  rfl

theorem get?_registerAll_of_some (h : registry.get? query = some language)
    (history : List Language) : (registry.registerAll history).get? query = some language := by
  induction history generalizing registry with
  | nil => exact h
  | cons added history ih => exact ih (get?_register_of_some h added)

end

/-- Whatever is registered, and in whatever order, after no languages, those at hand or any others:
all of it is listed in that order. A query finds the earliest language that answers to it, and none
only if there is none. So registering another language changes no answer but that to a query which
had none and to which the new language answers; a language is found under its own name unless an
earlier one is; and queries that differ in nothing that counts have the same answer. -/
theorem lookup_exact (start : Registry) (history : List Language) :
    let registry := start.registerAll history
    let registered := start.languages ++ history
    (registry.languages = registered ∧ registry.names = registered.map Language.name ∧
      registry.size = registered.length) ∧
    (∀ query language, registry.get? query = some language ↔
      IsFirst (Language.AnswersTo query) registered language) ∧
    (∀ query, registry.get? query = none ↔
      ∀ language ∈ registered, ¬ language.AnswersTo query) ∧
    (∀ query language later, registry.get? query = some language →
      (registry.registerAll later).get? query = some language) ∧
    (∀ query added, registry.get? query = none →
      (registry.register added).get? query =
        if added.AnswersTo query then some added else none) ∧
    (∀ before language after, registered = before ++ language :: after →
      ∃ found ∈ before ++ [language], registry.get? language.name = some found) ∧
    ∀ query other, Relation.ReflTransGen Retouch query other →
      registry.get? query = registry.get? other := by
  intro registry registered
  have hlanguages : registry.languages = registered := languages_registerAll start history
  refine ⟨⟨hlanguages, ?_, ?_⟩, fun query language => ?_, fun query => ?_,
    fun query language later h => get?_registerAll_of_some h later, fun query added h => ?_,
    fun before language after h => exists_get?_name (hlanguages.trans h),
    fun query other h => get?_congr (lookupKey_eq_of_retouches h)⟩
  · rw [names, hlanguages]
  · rw [size, hlanguages]
  · rw [get?_eq_some_iff, hlanguages]
  · rw [get?_eq_none_iff, hlanguages]
  · rw [get?_register, h]
    rfl

/-- A language with a name that looks different and has the same key comes too late, for its own
name too. -/
theorem lookup_exact_shadowed :
    let late : Language := { name := "I.L.", fileExtension := ".txt" }
    let registry := builtin.registerAll [late]
    registry.names = ["IL", "IL (structured)", "Comments", "I.L."] ∧ registry.size = 4 ∧
    registry.get? "I.L." = some (.disassembly .flat) ∧
    registry.get? "(iL." = some (.disassembly .flat) := by
  intro late registry
  obtain ⟨⟨-, hnames, hsize⟩, hget, -, -, -, -, hretouch⟩ := lookup_exact builtin [late]
  have hlate : registry.get? "I.L." = some (.disassembly .flat) :=
    (hget "I.L." _).2 ⟨[], _, rfl, by decide, by simp⟩
  have hinsert : Retouch "I.L." "(I.L." := .insert "" "I.L." (c := '(') (by decide)
  have hrecase : Retouch "(I.L." "(i.L." :=
    .recase "(" ".L." (c := 'I') (d := 'i') (by decide) (by decide)
  have hdelete : Retouch "(i.L." "(iL." := .delete "(i" "L." (c := '.') (by decide)
  refine ⟨hnames, hsize, hlate, ?_⟩
  rw [← hretouch _ _ (((Relation.ReflTransGen.single hinsert).tail hrecase).tail hdelete)]
  exact hlate

end Registry

end Cil
