import Cil.Proofs.Selection

/-!
# How selectors are written

A selector is `Writable` if its text can be read back: for a member, both names are there and the
two colons before the name of the member are the last two in a row (`Divided`). Parsing accepts the
texts of these selectors and no others, and a text is that of one selector only (`grammar_exact`).

A text is divided twice, at its first colon and at its last two colons. Each division is pinned
down by what stands on one side of it: no colon before the first one (`splitAtColon_toList`), no two
colons after the last two, where the second of them counts too (`splitAtColons_eq_some_iff`).
-/

namespace Cil

theorem MemberKind.ofName?_eq_some_iff {name : String} {kind : MemberKind} :
    ofName? name = some kind ↔ name = kind.name := by
  constructor
  · intro h
    unfold ofName? at h
    split at h <;> cases h <;> rfl
  · rintro rfl
    cases kind <;> rfl

namespace Selector

/-! ### Dividing a text -/

section

variable {text before after : List Char}

theorem eq_append_of_splitAtColon (h : splitAtColon text = some (before, after)) :
    text = before ++ ':' :: after := by
  induction text generalizing before with
  | nil => cases h
  | cons c text ih =>
    rw [splitAtColon] at h
    split at h
    · next hc =>
      cases h
      rw [hc]
      rfl
    · obtain ⟨⟨before', after'⟩, hsplit, heq⟩ := Option.map_eq_some_iff.1 h
      cases heq
      rw [ih hsplit]
      rfl

theorem splitAtColons_eq_none_iff : splitAtColons text = none ↔ ¬ [':', ':'] <:+: text := by
  refine ⟨fun h => ?_, splitAtColons_eq_none⟩
  induction text with
  | nil => simp
  | cons c text ih =>
    unfold splitAtColons at h
    split at h
    · cases h
    · next hnone =>
      rw [List.infix_cons_iff, not_or]
      refine ⟨fun hstart => ?_, ih hnone⟩
      obtain ⟨rest, hrest⟩ := hstart
      cases hrest
      cases h

/-- A text is divided at the last two colons in a row, where the second colon may be the first one
of no other two. -/
theorem splitAtColons_eq_some_iff :
    splitAtColons text = some (before, after) ↔
      text = before ++ ':' :: ':' :: after ∧ ¬ [':', ':'] <:+: ':' :: after := by
  constructor
  · intro h
    induction text generalizing before with
    | nil => cases h
    | cons c text ih =>
      unfold splitAtColons at h
      split at h
      · next before' after' hsplit =>
        cases h
        obtain ⟨htext, hlast⟩ := ih hsplit
        exact ⟨by rw [htext]; rfl, hlast⟩
      · next hnone =>
        split at h
        · cases h
          exact ⟨rfl, splitAtColons_eq_none_iff.1 hnone⟩
        · cases h
  · rintro ⟨rfl, hlast⟩
    exact splitAtColons_append hlast before

end

/-! ### The grammar -/

/-- Two colons between these names divide them: none is empty, and the colons are the last two in a
row of the text. -/
structure Divided (typeName name : String) : Prop where
  typeName_ne : typeName ≠ ""
  name_ne : name ≠ ""
  colons : ¬ [':', ':'] <:+: name.toList
  colon : name.toList.head? ≠ some ':'

/-- The selectors whose texts can be read back. -/
def Writable : Selector → Prop
  | member _ typeName name => Divided typeName name
  | _ => True

theorem parseMember_eq_ok {kind : MemberKind} {text : List Char} {selector : Selector}
    (h : parseMember kind text = .ok selector) :
    ∃ typeName name, Divided typeName name ∧
      text = typeName.toList ++ ':' :: ':' :: name.toList ∧
      selector = member kind typeName name := by
  rw [parseMember] at h
  split at h
  · next c typeName d name hsplit =>
    cases h
    obtain ⟨htext, hlast⟩ := splitAtColons_eq_some_iff.1 hsplit
    obtain ⟨hcolons, hcolon⟩ := not_infix_colon_cons_iff.1 hlast
    refine ⟨_, _, ⟨?_, ?_, ?_, ?_⟩, ?_, rfl⟩
    · simp
    · simp
    · simpa using hcolons
    · simpa using hcolon
    · simpa using htext
  · cases h

theorem parse_space (name : String) : parse ("namespace" ++ ":" ++ name) = .ok (space name) := by
  obtain ⟨hassembly, hsplit⟩ := @splitAtColon_toList "namespace" (by decide) name
  rw [parse, if_neg hassembly, hsplit]
  simp

theorem parse_type (fullName : String) :
    parse ("type" ++ ":" ++ fullName) = .ok (type fullName) := by
  obtain ⟨hassembly, hsplit⟩ := @splitAtColon_toList "type" (by decide) fullName
  rw [parse, if_neg hassembly, hsplit]
  simp

theorem parse_eq_ok_iff {text : String} {selector : Selector} :
    parse text = .ok selector ↔ selector.Writable ∧ selector.text = text := by
  constructor
  · intro h
    rw [parse] at h
    split at h
    · next htext =>
      cases h
      exact ⟨trivial, htext.symm⟩
    split at h
    · cases h
    next kind rest hsplit =>
    have htext : text = String.ofList kind ++ ":" ++ String.ofList rest := by
      rw [← String.toList_inj, eq_append_of_splitAtColon hsplit]
      simp
    split at h
    · next hkind =>
      cases h
      exact ⟨trivial, by rw [htext, hkind]; rfl⟩
    · next hkind =>
      cases h
      exact ⟨trivial, by rw [htext, hkind]; rfl⟩
    split at h
    · next hkind =>
      obtain ⟨typeName, name, hdivided, hrest, rfl⟩ := parseMember_eq_ok h
      refine ⟨hdivided, ?_⟩
      rw [htext, MemberKind.ofName?_eq_some_iff.1 hkind, hrest, ← String.toList_inj]
      simp [Selector.text]
    · cases h
  · rintro ⟨hwritable, rfl⟩
    cases selector with
    | assembly => rfl
    | space name => exact parse_space name
    | type fullName => exact parse_type fullName
    | member kind typeName name =>
      have hdivided : Divided typeName name := hwritable
      exact parse_member kind hdivided.typeName_ne hdivided.name_ne hdivided.colons hdivided.colon

/-- A text is that of one selector only. -/
theorem Writable.eq_of_text_eq {a b : Selector} (ha : a.Writable) (hb : b.Writable)
    (h : a.text = b.text) : a = b := by
  have hparse : parse b.text = .ok a := parse_eq_ok_iff.2 ⟨ha, h⟩
  rw [parse_eq_ok_iff.2 ⟨hb, rfl⟩] at hparse
  exact (Except.ok.inj hparse).symm

/-! ### Texts and selectors -/

/-- A text is accepted exactly if it is `assembly`, a namespace or a type with any name, or a
member of one of four kinds with two names that its colons divide. What is returned is the only
selector with that text. So the selector has the text that it was read from, and no two texts give
the same one. -/
theorem grammar_exact :
    (∀ text, (∃ selector, parse text = .ok selector) ↔
      text = "assembly" ∨ (∃ name, text = "namespace:" ++ name) ∨ (∃ name, text = "type:" ++ name) ∨
        ∃ kind ∈ ["method", "field", "property", "event"], ∃ typeName name, Divided typeName name ∧
          text = kind ++ ":" ++ typeName ++ "::" ++ name) ∧
    (∀ text selector, parse text = .ok selector ↔ selector.Writable ∧ selector.text = text) ∧
    (∀ a b : Selector, a.Writable → b.Writable → a.text = b.text → a = b) ∧
    ∀ text other selector,
      parse text = .ok selector → parse other = .ok selector → text = other := by
  refine ⟨fun text => ⟨?_, ?_⟩, fun text selector => parse_eq_ok_iff,
    fun a b => Writable.eq_of_text_eq, fun text other selector htext hother => ?_⟩
  · rintro ⟨selector, hparse⟩
    obtain ⟨hwritable, rfl⟩ := parse_eq_ok_iff.1 hparse
    cases selector with
    | assembly => exact .inl rfl
    | space name => exact .inr (.inl ⟨name, rfl⟩)
    | type fullName => exact .inr (.inr (.inl ⟨fullName, rfl⟩))
    | member kind typeName name =>
      refine .inr (.inr (.inr ⟨kind.name, ?_, typeName, name, hwritable, rfl⟩))
      cases kind <;> decide
  · rintro (rfl | ⟨name, rfl⟩ | ⟨name, rfl⟩ | ⟨kind, hkind, typeName, name, hdivided, rfl⟩)
    · exact ⟨assembly, parse_eq_ok_iff.2 ⟨trivial, rfl⟩⟩
    · exact ⟨space name, parse_eq_ok_iff.2 ⟨trivial, rfl⟩⟩
    · exact ⟨type name, parse_eq_ok_iff.2 ⟨trivial, rfl⟩⟩
    · have hname : ∃ memberKind : MemberKind, kind = memberKind.name := by
        simp only [List.mem_cons, List.not_mem_nil, or_false] at hkind
        rcases hkind with rfl | rfl | rfl | rfl
        · exact ⟨.method, rfl⟩
        · exact ⟨.field, rfl⟩
        · exact ⟨.property, rfl⟩
        · exact ⟨.event, rfl⟩
      obtain ⟨memberKind, rfl⟩ := hname
      exact ⟨member memberKind typeName name, parse_eq_ok_iff.2 ⟨hdivided, rfl⟩⟩
  · rw [← (parse_eq_ok_iff.1 htext).2, (parse_eq_ok_iff.1 hother).2]

/-- The last two of five colons divide the names, and the type keeps the two before them. With three
colons nothing is left for the name of the type. -/
theorem grammar_exact_colons :
    parse "method:::::b:" = .ok (member .method "::" "b:") ∧
    (∀ other : Selector, other.Writable → other.text = "method:::::b:" →
      other = member .method "::" "b:") ∧
    ¬ ∃ selector, parse "method:::b:" = .ok selector := by
  obtain ⟨-, hparse, hunique, -⟩ := grammar_exact
  have hwritable : (member .method "::" "b:").Writable :=
    ⟨by decide, by decide, by decide, by decide⟩
  refine ⟨(hparse _ _).2 ⟨hwritable, rfl⟩, fun other hother htext => ?_, ?_⟩
  · exact hunique other _ hother hwritable htext
  · rintro ⟨selector, h⟩
    cases h

end Selector

end Cil
