import Mathlib.Data.List.Induction
import Mathlib.Logic.Relation
import Cil.Cancellation

/-!
# Shared cancellation

A token is copied any number of times, and each copy in turn. The history of what was done says
which tokens have a common origin (`TokenHistory.SameOrigin`), and cancelling one of them cancels
exactly these, whether they came to hand before or after (`cancellation_shared`).

There are two reasons for it. Tokens at hand are equal if and only if they have a common origin
(`sameOrigin_iff`): copying passes the token on, and no token is issued twice. And the cancelled
tokens are those that an action of the history has cancelled (`isCancelled_iff`).
-/

namespace Cil

abbrev TokenHistory := List TokenAction

namespace TokenAction

/-- The token of which an action makes another one. -/
def source? : TokenAction → Option Nat
  | copy source | pass _ source => some source
  | issue | cancel _ => none

/-- The token that has to be at hand for an action. -/
def needed? : TokenAction → Option Nat
  | copy index | pass _ index | cancel index => some index
  | issue => none

/-- Whether an action brings another token to hand. -/
def gains : TokenAction → Bool
  | issue | copy _ | pass _ _ => true
  | cancel _ => false

variable {action : TokenAction} {source : Nat}

theorem needed?_of_source? (h : action.source? = some source) : action.needed? = some source := by
  cases action with
  | issue => cases h
  | copy index => exact h
  | pass full index => exact h
  | cancel index => cases h

theorem gains_of_source? (h : action.source? = some source) : action.gains = true := by
  cases action with
  | cancel index => cases h
  | _ => rfl

end TokenAction

/-! ### Histories -/

namespace TokenHistory

/-- How many tokens are at hand after a history. -/
def held (history : TokenHistory) : Nat := history.countP TokenAction.gains

/-- Every action finds the token that it needs. -/
def Valid (history : TokenHistory) : Prop :=
  ∀ past action, past ++ [action] <+: history → ∀ index ∈ action.needed?, index < held past

/-- The token with this number was issued, and is no copy. -/
def Issued (history : TokenHistory) (index : Nat) : Prop :=
  ∃ past, past ++ [.issue] <+: history ∧ held past = index

/-- One token was made from another. -/
def Copied (history : TokenHistory) (source copy : Nat) : Prop :=
  ∃ past action, past ++ [action] <+: history ∧ action.source? = some source ∧ held past = copy

/-- A token is another one, or a copy of it, or a copy of a copy, and so on. -/
def Descends (history : TokenHistory) : Nat → Nat → Prop := Relation.ReflTransGen (Copied history)

def SameOrigin (history : TokenHistory) (first second : Nat) : Prop :=
  ∃ root, Issued history root ∧ Descends history root first ∧ Descends history root second

/-- Some token with the same origin was cancelled. -/
def Struck (history : TokenHistory) (index : Nat) : Prop :=
  ∃ target, .cancel target ∈ history ∧ SameOrigin history target index

variable {past history : TokenHistory} {action : TokenAction}

theorem held_concat :
    held (history ++ [action]) = held history + [action].countP TokenAction.gains :=
  List.countP_append

theorem valid_nil : Valid [] := by
  intro past action h
  simp at h

theorem valid_concat :
    Valid (history ++ [action]) ↔
      Valid history ∧ ∀ index ∈ action.needed?, index < held history := by
  refine ⟨fun h => ⟨fun past other hbegins => ?_, h history action (List.prefix_refl _)⟩, ?_⟩
  · exact h past other (hbegins.trans (List.prefix_append _ _))
  · rintro ⟨hvalid, haction⟩ past other hbegins
    obtain heq | hbegins := List.prefix_concat_iff.1 hbegins
    · obtain ⟨rfl, hother⟩ := List.append_inj' heq rfl
      obtain rfl : other = action := List.singleton_inj.1 hother
      exact haction
    · exact hvalid past other hbegins

theorem Issued.mono {index : Nat} (hbegins : past <+: history) (h : Issued past index) :
    Issued history index := by
  obtain ⟨before, hbefore, rfl⟩ := h
  exact ⟨before, hbefore.trans hbegins, rfl⟩

theorem Descends.mono {first second : Nat} (hbegins : past <+: history)
    (h : Descends past first second) : Descends history first second := by
  refine Relation.ReflTransGen.mono ?_ _ _ h
  rintro source copy ⟨before, action, hbefore, hsource⟩
  exact ⟨before, action, hbefore.trans hbegins, hsource⟩

/-- Every token at hand goes back to one that was issued. -/
theorem exists_issued (hvalid : Valid history) {index : Nat} (hindex : index < held history) :
    ∃ root, Issued history root ∧ Descends history root index := by
  induction history using List.reverseRecOn generalizing index with
  | nil => exact absurd hindex (Nat.not_lt_zero _)
  | append_singleton history action ih =>
    obtain ⟨hvalid, hneeded⟩ := valid_concat.1 hvalid
    have hbegins : history <+: history ++ [action] := List.prefix_append _ _
    have hold : ∀ {index}, index < held history →
        ∃ root, Issued (history ++ [action]) root ∧ Descends (history ++ [action]) root index := by
      intro index hindex
      obtain ⟨root, hroot, hdescends⟩ := ih hvalid hindex
      exact ⟨root, hroot.mono hbegins, hdescends.mono hbegins⟩
    have hcopy : ∀ {source}, action.source? = some source → ∃ root,
        Issued (history ++ [action]) root ∧ Descends (history ++ [action]) root (held history) := by
      intro source hsource
      obtain ⟨root, hroot, hdescends⟩ :=
        hold (hneeded source (TokenAction.needed?_of_source? hsource))
      exact ⟨root, hroot, hdescends.tail ⟨history, action, List.prefix_refl _, hsource, rfl⟩⟩
    by_cases hlt : index < held history
    · exact hold hlt
    · rw [held_concat] at hindex
      have hlast : held history = index := by
        have := List.countP_le_length (p := TokenAction.gains) (l := [action])
        rw [List.length_singleton] at this
        omega
      subst hlast
      cases action with
      | issue => exact ⟨_, ⟨history, List.prefix_refl _, rfl⟩, .refl⟩
      | copy source => exact hcopy rfl
      | pass full source => exact hcopy rfl
      | cancel target => exact absurd hindex hlt

end TokenHistory

namespace Cancellations

variable {cancellations : Cancellations} {token : CancelToken}

theorem check_eq_error_iff :
    cancellations.check token = .error .cancelled ↔ cancellations.isCancelled token = true := by
  simp [check]

theorem check_eq_ok_iff :
    cancellations.check token = .ok () ↔ ¬ cancellations.isCancelled token = true := by
  simp [check]

end Cancellations

namespace TokenHolder

open TokenHistory

/-! ### One action -/

/-- What an action does to its holder. -/
inductive Performs (holder : TokenHolder) : TokenAction → TokenHolder → Prop
  | issue : Performs holder .issue
      { tokens := holder.tokens ++ [⟨holder.cancellations.issued⟩]
        cancellations := holder.cancellations.issue.2 }
  | copy {action : TokenAction} {source issued : Nat} {token : CancelToken}
    (hsource : action.source? = some source) (htoken : holder.tokens[source]? = some token)
    (hissued : holder.cancellations.issued ≤ issued) : Performs holder action
      { tokens := holder.tokens ++ [token]
        cancellations := { holder.cancellations with issued } }
  | cancel {target : Nat} {token : CancelToken} (htoken : holder.tokens[target]? = some token) :
    Performs holder (.cancel target)
      { holder with cancellations := holder.cancellations.cancel token }

/-- The tokens at hand keep their places, those issued are counted on, and none is revived. -/
structure Grows (earlier later : TokenHolder) : Prop where
  tokens : earlier.tokens <+: later.tokens
  issued : earlier.cancellations.issued ≤ later.cancellations.issued
  cancelled : earlier.cancellations.cancelled ⊆ later.cancellations.cancelled

variable {holder next : TokenHolder} {action : TokenAction} {past history : TokenHistory}
  {index : Nat} {token : CancelToken}

theorem performs (h : holder.perform? action = some next) : Performs holder action next := by
  cases action with
  | issue =>
    obtain rfl := Option.some.inj h
    exact .issue
  | copy source =>
    obtain ⟨token, htoken, rfl⟩ := Option.map_eq_some_iff.1 h
    exact .copy rfl htoken (Nat.le_refl _)
  | pass full source =>
    obtain ⟨token, htoken, rfl⟩ := Option.map_eq_some_iff.1 h
    exact .copy rfl htoken (Nat.le_succ _)
  | cancel target =>
    obtain ⟨token, htoken, rfl⟩ := Option.map_eq_some_iff.1 h
    exact .cancel htoken

theorem isSome_perform? :
    (holder.perform? action).isSome ↔ ∀ index ∈ action.needed?, index < holder.tokens.length := by
  cases action <;> simp [perform?, TokenAction.needed?]

theorem Performs.length_tokens (h : Performs holder action next) :
    next.tokens.length = holder.tokens.length + [action].countP TokenAction.gains := by
  cases h with
  | issue => exact List.length_append
  | copy hsource htoken hissued => simp [TokenAction.gains_of_source? hsource]
  | cancel htoken => rfl

theorem Performs.grows (h : Performs holder action next) : holder.Grows next := by
  cases h with
  | issue => exact ⟨List.prefix_append _ _, Nat.le_succ _, List.Subset.refl _⟩
  | copy hsource htoken hissued =>
    exact ⟨List.prefix_append _ _, hissued, List.Subset.refl _⟩
  | cancel htoken => exact ⟨List.prefix_refl _, Nat.le_refl _, List.subset_cons_self _ _⟩

namespace Grows

theorem trans {later : TokenHolder} (h : holder.Grows next) (h' : next.Grows later) :
    holder.Grows later :=
  ⟨h.tokens.trans h'.tokens, Nat.le_trans h.issued h'.issued,
    List.Subset.trans h.cancelled h'.cancelled⟩

theorem getElem? (hgrows : holder.Grows next) (h : holder.tokens[index]? = some token) :
    next.tokens[index]? = some token := by
  obtain ⟨hindex, rfl⟩ := List.getElem?_eq_some_iff.1 h
  exact List.prefix_iff_getElem?.1 hgrows.tokens index hindex

theorem isCancelled (hgrows : holder.Grows next)
    (h : holder.cancellations.isCancelled token = true) :
    next.cancellations.isCancelled token = true :=
  List.contains_iff_mem.2 (hgrows.cancelled (List.contains_iff_mem.1 h))

theorem isCancelled? (hgrows : holder.Grows next) (h : holder.isCancelled? index = some true) :
    next.isCancelled? index = some true := by
  obtain ⟨token, htoken, hcancelled⟩ := Option.map_eq_some_iff.1 h
  rw [TokenHolder.isCancelled?, hgrows.getElem? htoken, Option.map_some,
    hgrows.isCancelled hcancelled]

end Grows

/-! ### Whole histories -/

theorem after?_concat :
    after? (history ++ [action]) = (after? history).bind (perform? · action) := by
  simp [after?, List.foldlM_append]

theorem length_tokens (h : after? history = some holder) :
    holder.tokens.length = held history := by
  induction history using List.reverseRecOn generalizing holder with
  | nil =>
    obtain rfl := Option.some.inj h
    rfl
  | append_singleton history action ih =>
    rw [after?_concat] at h
    obtain ⟨before, hbefore, haction⟩ := Option.bind_eq_some_iff.1 h
    rw [(performs haction).length_tokens, ih hbefore, held_concat]

theorem isSome_after? : (after? history).isSome ↔ Valid history := by
  induction history using List.reverseRecOn with
  | nil => exact iff_of_true rfl valid_nil
  | append_singleton history action ih =>
    rw [valid_concat, ← ih, after?_concat]
    cases hbefore : after? history with
    | none => simp
    | some holder => simp [isSome_perform?, length_tokens hbefore]

/-- The holder at an earlier time. -/
theorem exists_grows (hbegins : past <+: history) (h : after? history = some holder) :
    ∃ earlier, after? past = some earlier ∧ earlier.Grows holder := by
  obtain ⟨later, rfl⟩ := hbegins
  induction later using List.reverseRecOn generalizing holder with
  | nil =>
    rw [List.append_nil] at h
    exact ⟨holder, h, List.prefix_refl _, Nat.le_refl _, List.Subset.refl _⟩
  | append_singleton later action ih =>
    rw [← List.append_assoc, after?_concat] at h
    obtain ⟨middle, hmiddle, haction⟩ := Option.bind_eq_some_iff.1 h
    obtain ⟨earlier, hearlier, hgrows⟩ := ih hmiddle
    exact ⟨earlier, hearlier, hgrows.trans (performs haction).grows⟩

theorem exists_later {later : TokenHistory} (h : after? history = some holder)
    (hvalid : Valid (history ++ later)) :
    ∃ final, after? (history ++ later) = some final ∧ holder.Grows final := by
  obtain ⟨final, hfinal⟩ := Option.isSome_iff_exists.1 (isSome_after?.2 hvalid)
  obtain ⟨holder', h', hgrows⟩ := exists_grows (List.prefix_append _ _) hfinal
  obtain rfl : holder = holder' := Option.some.inj (h.symm.trans h')
  exact ⟨final, hfinal, hgrows⟩

/-- The holder before and after an earlier action. -/
theorem exists_performs (hbegins : past ++ [action] <+: history)
    (h : after? history = some holder) :
    ∃ before next, after? past = some before ∧ Performs before action next ∧ next.Grows holder := by
  obtain ⟨next, hnext, hgrows⟩ := exists_grows hbegins h
  rw [after?_concat] at hnext
  obtain ⟨before, hbefore, haction⟩ := Option.bind_eq_some_iff.1 hnext
  exact ⟨before, next, hbefore, performs haction, hgrows⟩

/-! ### Equal tokens -/

theorem tokens_eq_of_copied {source copy : Nat} (h : after? history = some holder)
    (hcopied : Copied history source copy) : holder.tokens[source]? = holder.tokens[copy]? := by
  obtain ⟨past, action, hbegins, hsource, rfl⟩ := hcopied
  obtain ⟨before, next, hbefore, hperforms, hgrows⟩ := exists_performs hbegins h
  have hold := hperforms.grows
  cases hperforms with
  | issue => cases hsource
  | cancel htoken => cases hsource
  | copy hsource' htoken hissued =>
    rw [hsource, Option.some.injEq] at hsource'
    subst hsource'
    rw [hgrows.getElem? (hold.getElem? htoken), ← length_tokens hbefore,
      hgrows.getElem? List.getElem?_concat_length]

theorem tokens_eq_of_descends {first second : Nat} (h : after? history = some holder)
    (hdescends : Descends history first second) :
    holder.tokens[first]? = holder.tokens[second]? := by
  induction hdescends with
  | refl => rfl
  | tail _ hcopied ih => exact ih.trans (tokens_eq_of_copied h hcopied)

/-- An issued token has the number of tokens issued before it, and they are more afterwards. -/
theorem token_of_issued {before : TokenHolder} (hbefore : after? past = some before)
    (hbegins : past ++ [.issue] <+: history) (h : after? history = some holder) :
    holder.tokens[held past]? = some ⟨before.cancellations.issued⟩ ∧
      before.cancellations.issued < holder.cancellations.issued := by
  obtain ⟨before', next, hbefore', hperforms, hgrows⟩ := exists_performs hbegins h
  obtain rfl : before = before' := Option.some.inj (hbefore.symm.trans hbefore')
  cases hperforms with
  | issue =>
    rw [← length_tokens hbefore]
    exact ⟨hgrows.getElem? List.getElem?_concat_length, hgrows.issued⟩
  | copy hsource htoken hissued => cases hsource

/-- A token is not issued again. -/
theorem tokens_ne_of_issued {past' : TokenHistory} (h : after? history = some holder)
    (hbegins : past ++ [.issue] <+: past') (hbegins' : past' ++ [.issue] <+: history) :
    holder.tokens[held past]? ≠ holder.tokens[held past']? := by
  have hpast' : past' <+: history := (List.prefix_append _ _).trans hbegins'
  obtain ⟨before', hbefore', hgrows'⟩ := exists_grows hpast' h
  obtain ⟨before, hbefore, -⟩ := exists_grows ((List.prefix_append _ _).trans hbegins) hbefore'
  obtain ⟨htoken, hlt⟩ := token_of_issued hbefore hbegins hbefore'
  obtain ⟨htoken', -⟩ := token_of_issued hbefore' hbegins' h
  rw [hgrows'.getElem? htoken, htoken']
  intro heq
  injection heq with heq
  injection heq with heq
  exact absurd heq (Nat.ne_of_lt hlt)

theorem eq_of_issued {first second : Nat} (h : after? history = some holder)
    (hfirst : Issued history first) (hsecond : Issued history second)
    (heq : holder.tokens[first]? = holder.tokens[second]?) : first = second := by
  obtain ⟨past, hpast, rfl⟩ := hfirst
  obtain ⟨past', hpast', rfl⟩ := hsecond
  -- one of the two was issued first, unless they are the same
  obtain hle | hle := List.prefix_or_prefix_of_prefix hpast hpast'
  · obtain hsame | hlt := List.prefix_concat_iff.1 hle
    · rw [List.append_cancel_right hsame]
    · exact absurd heq (tokens_ne_of_issued h hlt hpast')
  · obtain hsame | hlt := List.prefix_concat_iff.1 hle
    · rw [List.append_cancel_right hsame]
    · exact absurd heq.symm (tokens_ne_of_issued h hlt hpast)

/-- Tokens at hand are the same if and only if they have a common origin. -/
theorem sameOrigin_iff {first second : Nat} (h : after? history = some holder)
    (hsecond : holder.tokens[second]? = some token) :
    SameOrigin history first second ↔ holder.tokens[first]? = some token := by
  rw [← hsecond]
  constructor
  · rintro ⟨root, -, hdescends, hdescends'⟩
    rw [← tokens_eq_of_descends h hdescends, tokens_eq_of_descends h hdescends']
  · intro heq
    have hvalid : Valid history := isSome_after?.1 (Option.isSome_of_eq_some h)
    have hheld : ∀ {index}, holder.tokens[index]? = some token → index < held history :=
      fun htoken => length_tokens h ▸ (List.getElem?_eq_some_iff.1 htoken).1
    obtain ⟨root, hroot, hdescends⟩ := exists_issued hvalid (hheld (heq.trans hsecond))
    obtain ⟨root', hroot', hdescends'⟩ := exists_issued hvalid (hheld hsecond)
    have hroots : root = root' := by
      refine eq_of_issued h hroot hroot' ?_
      rw [tokens_eq_of_descends h hdescends, heq, tokens_eq_of_descends h hdescends']
    subst hroots
    exact ⟨root, hroot, hdescends, hdescends'⟩

/-! ### Cancelled tokens -/

theorem exists_target (h : after? history = some holder)
    (hcancelled : holder.cancellations.isCancelled token = true) :
    ∃ target, .cancel target ∈ history ∧ holder.tokens[target]? = some token := by
  induction history using List.reverseRecOn generalizing holder with
  | nil =>
    obtain rfl := Option.some.inj h
    cases hcancelled
  | append_singleton history action ih =>
    rw [after?_concat] at h
    obtain ⟨before, hbefore, haction⟩ := Option.bind_eq_some_iff.1 h
    have hgrows := (performs haction).grows
    have hold : before.cancellations.isCancelled token = true →
        ∃ target, .cancel target ∈ history ++ [action] ∧ holder.tokens[target]? = some token := by
      intro hcancelled
      obtain ⟨target, htarget, htoken⟩ := ih hbefore hcancelled
      exact ⟨target, List.mem_append_left _ htarget, hgrows.getElem? htoken⟩
    cases performs haction with
    | issue => exact hold hcancelled
    | copy hsource htoken hissued => exact hold hcancelled
    | cancel htoken =>
      obtain heq | hmem := List.mem_cons.1 (List.contains_iff_mem.1 hcancelled)
      · rw [heq]
        exact ⟨_, List.mem_append_right _ (List.mem_singleton_self _), htoken⟩
      · exact hold (List.contains_iff_mem.2 hmem)

theorem isCancelled_iff (h : after? history = some holder) :
    holder.cancellations.isCancelled token = true ↔
      ∃ target, .cancel target ∈ history ∧ holder.tokens[target]? = some token := by
  refine ⟨exists_target h, ?_⟩
  rintro ⟨target, htarget, htoken⟩
  obtain ⟨past, later, rfl⟩ := List.append_of_mem htarget
  have hbegins : past ++ [.cancel target] <+: past ++ .cancel target :: later := ⟨later, by simp⟩
  obtain ⟨before, next, -, hperforms, hgrows⟩ := exists_performs hbegins h
  cases hperforms with
  | copy hsource htoken' hissued => cases hsource
  | cancel htoken' =>
    have hsame := (hgrows.getElem? htoken').symm.trans htoken
    rw [← Option.some.inj hsame]
    exact hgrows.isCancelled (List.contains_iff_mem.2 List.mem_cons_self)

theorem isCancelled_iff_struck (h : after? history = some holder)
    (hindex : holder.tokens[index]? = some token) :
    holder.cancellations.isCancelled token = true ↔ Struck history index := by
  rw [isCancelled_iff h]
  simp only [← sameOrigin_iff h hindex]
  rfl

/-- Tokens are cancelled together if they were copied, directly or by way of others, from the same
one, and independently otherwise. After any history in which every action finds its token, a token
is cancelled, and its check fails, if and only if one with the same origin was cancelled before.
It then stays so whatever is done later, and a copy of it is cancelled from the start. -/
theorem cancellation_shared (history : TokenHistory) (hvalid : Valid history) :
    ∃ holder, after? history = some holder ∧
      holder.tokens.length = held history ∧
      (∀ index < held history,
        (holder.isCancelled? index = some true ↔ Struck history index) ∧
        (holder.isCancelled? index = some false ↔ ¬ Struck history index) ∧
        (holder.check? index = some (.error .cancelled) ↔ Struck history index) ∧
        (holder.check? index = some (.ok ()) ↔ ¬ Struck history index)) ∧
      (∀ later, Valid (history ++ later) →
        ∃ final, after? (history ++ later) = some final ∧
          ∀ index, holder.isCancelled? index = some true → final.isCancelled? index = some true) ∧
      ∀ (action : TokenAction) (source : Nat), action.source? = some source →
        holder.isCancelled? source = some true →
        ∃ next, after? (history ++ [action]) = some next ∧
          next.isCancelled? (held history) = some true := by
  obtain ⟨holder, h⟩ := Option.isSome_iff_exists.1 (isSome_after?.2 hvalid)
  have hlength := length_tokens h
  refine ⟨holder, h, hlength, ?_, ?_, ?_⟩
  · intro index hindex
    have htoken := List.getElem?_eq_getElem (hlength ▸ hindex)
    have hstruck := isCancelled_iff_struck h htoken
    simp only [isCancelled?, check?, htoken, Option.map_some, Option.some.injEq,
      Cancellations.check_eq_error_iff, Cancellations.check_eq_ok_iff, ← Bool.not_eq_true, hstruck,
      and_self]
  · intro later hlater
    obtain ⟨final, hfinal, hgrows⟩ := exists_later h hlater
    exact ⟨final, hfinal, fun index => hgrows.isCancelled?⟩
  · intro action source hsource hcancelled
    obtain ⟨token, htoken, -⟩ := Option.map_eq_some_iff.1 hcancelled
    have hlt : source < held history := hlength ▸ (List.getElem?_eq_some_iff.1 htoken).1
    have haction : ∀ index ∈ action.needed?, index < held history := by
      simpa [TokenAction.needed?_of_source? hsource] using hlt
    obtain ⟨next, hnext, hgrows⟩ := exists_later h (valid_concat.2 ⟨hvalid, haction⟩)
    have hcopied : Copied (history ++ [action]) source (held history) :=
      ⟨history, action, List.prefix_refl _, hsource, rfl⟩
    refine ⟨next, hnext, ?_⟩
    rw [isCancelled?, ← tokens_eq_of_copied hnext hcopied]
    exact hgrows.isCancelled? hcancelled

/-- Cancelling a copy that went through the options of a rendering reaches the token it comes from
and the copy that is made of that one afterwards, and leaves the other token alone. -/
theorem cancellation_shared_passed :
    let history : TokenHistory := [.issue, .copy 0, .issue, .pass true 1, .cancel 3, .copy 0]
    Valid history ∧ Struck history 0 ∧ ¬ Struck history 2 ∧ Struck history 4 ∧
      ∃ holder, after? history = some holder ∧
        (List.range 5).map holder.isCancelled? =
          [some true, some true, some false, some true, some true] := by
  intro history
  have hvalid : Valid history := isSome_after?.1 rfl
  obtain ⟨holder, h, -, hexact, -, -⟩ := cancellation_shared history hvalid
  obtain rfl := Option.some.inj h
  refine ⟨hvalid, (hexact 0 (by decide)).1.1 rfl, (hexact 2 (by decide)).2.1.1 rfl,
    (hexact 4 (by decide)).1.1 rfl, _, rfl, by decide⟩

end TokenHolder

end Cil
