import Morphing.Proofs.Token.Separator

/-!
# Half-settled lines in reconcile mode

In reconcile mode, too, a modified line does not read like the new one before all its candidates
have been paid for. Behind the words that both lines begin with, the old and the new line go on with
different words. If the first open removal comes behind the old one of these, the line still reads
as of old there. If it is inside, what is left of the old word would have to be the new word, which
either the character diff or the kept word behind it makes impossible.
-/

namespace Morphing

/-! ### Runs of changes -/

section Runs

variable (first : Bool) (waiting words : List Text) (changes : List (Change Text))

theorem pairTokensWith_reconcile_first :
    pairTokensWith .reconcile first waiting changes =
      pairTokensWith .reconcile false waiting changes := by
  cases changes with
  | nil => rw [pairTokensWith_reconcile_nil, pairTokensWith_reconcile_nil]
  | cons c changes =>
    cases c with
    | kept token => rw [pairTokensWith_reconcile_kept, pairTokensWith_reconcile_kept]
    | removed token => rw [pairTokensWith_removed, pairTokensWith_removed]
    | added token =>
      cases waiting with
      | nil => rw [pairTokensWith_reconcile_added, pairTokensWith_reconcile_added]
      | cons old waiting => rw [pairTokensWith_added_cons, pairTokensWith_added_cons]

theorem pairTokensWith_reconcile_map_removed :
    pairTokensWith .reconcile first waiting (words.map .removed ++ changes) =
      pairTokensWith .reconcile false (waiting ++ words) changes := by
  induction words generalizing first waiting with
  | nil =>
    rw [pairTokensWith_reconcile_first, List.append_nil]
    rfl
  | cons token words ih =>
    rw [List.map_cons, List.cons_append, pairTokensWith_removed, ih, List.append_assoc]
    rfl

theorem pairTokensWith_reconcile_map_added :
    pairTokensWith .reconcile first [] (words.map .added ++ changes) =
      words.map (.rewritten []) ++ pairTokensWith .reconcile false [] changes := by
  induction words generalizing first with
  | nil => exact pairTokensWith_reconcile_first first [] changes
  | cons token words ih =>
    rw [List.map_cons, List.cons_append, pairTokensWith_reconcile_added, ih]
    rfl

theorem pairTokensWith_reconcile_map_kept :
    pairTokensWith .reconcile first [] (words.map .kept ++ changes) =
      words.map .kept ++ pairTokensWith .reconcile false [] changes := by
  induction words generalizing first with
  | nil => exact pairTokensWith_reconcile_first first [] changes
  | cons token words ih =>
    rw [List.map_cons, List.cons_append, pairTokensWith_reconcile_kept, ih]
    rfl

theorem flushRemoved_cons (old : Text) :
    flushRemoved (old :: waiting) = .rewritten old [] :: flushRemoved waiting := rfl

theorem filterMap_old?_map_rewritten_nil :
    ((words.map (TokenPair.rewritten [])).flatMap TokenPair.changes).filterMap Change.old? = [] := by
  induction words with
  | nil => rfl
  | cons token words ih =>
    rw [List.map_cons, List.flatMap_cons, List.filterMap_append, ih,
      TokenPair.filterMap_old?_changes_rewritten]
    rfl

theorem flatMap_changes_map_kept :
    (words.map TokenPair.kept).flatMap TokenPair.changes = words.flatten.map .kept := by
  induction words with
  | nil => rfl
  | cons token words ih =>
    rw [List.map_cons, List.flatMap_cons, ih, List.flatten_cons, List.map_append]
    rfl

theorem filterMap_kept?_flushRemoved :
    ((flushRemoved waiting).flatMap TokenPair.changes).filterMap Change.kept? = [] := by
  have length := length_kept?_le_new? ((flushRemoved waiting).flatMap TokenPair.changes)
  rw [filterMap_new?_flushRemoved, List.length_nil] at length
  exact List.length_eq_zero_iff.mp (Nat.le_zero.mp length)

end Runs

/-! ### What reconciled words come to -/

/-- What becomes of the characters when the words of some changes are reconciled. -/
def reconciled (changes : List (Change Text)) : List (Change Char) :=
  (pairTokensWith .reconcile false [] changes).flatMap TokenPair.changes

section Reconciled

variable {o w : Text} {os ws rs as : List Text} {changes rest : List (Change Text)}

theorem filterMap_old?_reconciled (changes : List (Change Text)) :
    (reconciled changes).filterMap Change.old? = (changes.filterMap Change.old?).flatten :=
  filterMap_old?_reconcile false [] changes

theorem filterMap_new?_reconciled (changes : List (Change Text)) :
    (reconciled changes).filterMap Change.new? = (changes.filterMap Change.new?).flatten :=
  filterMap_new?_reconcile false [] changes

/-- Added words in front of a kept one have no removals. -/
theorem reconciled_of_added (as : List Text) (o : Text) (rest : List (Change Text)) :
    ∃ part later, reconciled (as.map .added ++ .kept o :: rest) = part ++ later ∧
      part.filterMap Change.old? = o ∧ part.countP Change.isRemoved = 0 := by
  have whole : reconciled (as.map .added ++ .kept o :: rest) =
      ((as.map (TokenPair.rewritten [])).flatMap TokenPair.changes ++ o.map .kept) ++
        (pairTokensWith .reconcile false [] rest).flatMap TokenPair.changes := by
    rw [reconciled, pairTokensWith_reconcile_map_added, pairTokensWith_reconcile_kept,
      List.flatMap_append, List.append_assoc]
    rfl
  have added := filterMap_old?_map_rewritten_nil as
  refine ⟨_, _, whole, ?_, ?_⟩
  · rw [List.filterMap_append, added, filterMap_old?_map_kept]
    rfl
  · have length := length_filterMap_old? ((as.map (TokenPair.rewritten [])).flatMap
      TokenPair.changes)
    rw [added, List.length_nil] at length
    rw [List.countP_append, countP_isRemoved_map_kept]
    omega

/-- Of removed words and added ones, the first are rewritten into each other. -/
theorem reconciled_of_rewritten (o w : Text) (rs as : List Text) (rest : List (Change Text)) :
    ∃ later, reconciled ((o :: rs).map .removed ++ ((w :: as).map .added ++ rest)) =
      diff o w ++ later := by
  refine ⟨(pairTokensWith .reconcile false rs (as.map .added ++ rest)).flatMap
    TokenPair.changes, ?_⟩
  rw [reconciled, pairTokensWith_reconcile_map_removed]
  rfl

/-- Removed words in front of a kept one come to nothing, and the kept one is there at any budget. -/
theorem reconciled_of_flushed (o w : Text) (rs : List Text) (rest : List (Change Text)) :
    ∃ later, reconciled ((o :: rs).map .removed ++ .kept w :: rest) = diff o [] ++ later ∧
      w <+: later.filterMap Change.kept? := by
  refine ⟨(flushRemoved rs ++ .kept w :: pairTokensWith .reconcile false [] rest).flatMap
    TokenPair.changes, ?_, ?_⟩
  · rw [reconciled, pairTokensWith_reconcile_map_removed, List.nil_append,
      pairTokensWith_reconcile_kept, flushRemoved_cons]
    rfl
  · rw [List.flatMap_append, List.filterMap_append, filterMap_kept?_flushRemoved, List.nil_append,
      List.flatMap_cons, List.filterMap_append, TokenPair.changes, filterMap_kept?_map_kept]
    exact List.prefix_append w _

/-- What becomes of the first old word: nothing is removed before it, or it is rewritten into the
first new word, or it makes way for that word. -/
theorem reconciled_cases (first : Diff.RemovalsFirst (changes.map Change.step))
    (hos : changes.filterMap Change.old? = o :: os)
    (hws : changes.filterMap Change.new? = w :: ws) :
    (∃ part later, reconciled changes = part ++ later ∧ part.filterMap Change.old? = o ∧
        part.countP Change.isRemoved = 0) ∨
      (∃ later, reconciled changes = diff o w ++ later) ∨
      ∃ later, reconciled changes = diff o [] ++ later ∧ w <+: later.filterMap Change.kept? := by
  obtain ⟨rs, as, rest, rfl, hrest⟩ := Change.exists_run first
  simp only [List.filterMap_append, filterMap_old?_map_removed, filterMap_old?_map_added,
    filterMap_new?_map_removed, filterMap_new?_map_added, List.nil_append] at hos hws
  cases rs with
  | nil =>
    cases rest with
    | nil => cases hos
    | cons c rest =>
      cases c with
      | removed k | added k => cases hrest _ rfl
      | kept k =>
        cases hos
        exact .inl (reconciled_of_added as o rest)
  | cons r rs =>
    cases hos
    cases as with
    | cons a as =>
      cases hws
      exact .inr (.inl (reconciled_of_rewritten o w rs as rest))
    | nil =>
      cases rest with
      | nil => cases hws
      | cons c rest =>
        cases c with
        | removed k | added k => cases hrest _ rfl
        | kept k =>
          cases hws
          exact .inr (.inr (reconciled_of_flushed o w rs rest))

end Reconciled

/-! ### The first words that differ -/

section First

open Text

variable {part later : List (Change Char)} {o w : Text} {os ws : List Text} {struck : Nat}

/-- An open removal behind the first old word leaves that word as it was. -/
theorem settled_ne_of_later (alto : Alternating (o :: os)) (altw : Alternating (w :: ws))
    (differ : o ≠ w) (hpart : part.filterMap Change.old? = o)
    (hlater : later.filterMap Change.old? = os.flatten)
    (h : struck < later.countP Change.isRemoved) :
    settled struck 0 (part ++ later) ≠ w ++ ws.flatten := by
  intro heq
  rw [settled_append, Nat.sub_eq_zero_of_le (Nat.le_of_lt h), Nat.zero_sub, settled_zero_zero,
    hpart] at heq
  have turn : ∀ a ∈ o, ∀ b ∈ (settled struck 0 later).head?, isBlank a ≠ isBlank b := by
    rw [head?_settled h, hlater]
    exact alto.head_differs
  apply differ
  exact first_word_unique heq (alto.ne_nil o List.mem_cons_self) (altw.ne_nil w List.mem_cons_self)
    (alto.uniform o List.mem_cons_self) (altw.uniform w List.mem_cons_self) turn altw.head_differs

/-- An open removal inside a word that is rewritten into the new one leaves too much of it. -/
theorem settled_ne_of_rewritten (alto : Alternating (o :: os)) (altw : Alternating (w :: ws))
    (differ : o ≠ w) (hold : later.filterMap Change.old? = os.flatten)
    (hnew : later.filterMap Change.new? = ws.flatten)
    (h : struck < (diff o w).countP Change.isRemoved + later.countP Change.isRemoved) :
    settled struck 0 (diff o w ++ later) ≠ w ++ ws.flatten := by
  by_cases hlater : struck < later.countP Change.isRemoved
  · exact settled_ne_of_later alto altw differ (filterMap_old?_diff o w) hold hlater
  · intro heq
    have cut := settled_cut [] (Nat.not_lt.mp hlater) h
    simp only [List.nil_append, List.filterMap_nil] at cut
    rw [cut] at heq
    have sub := settled_diff_sublist (struck - later.countP Change.isRemoved) o w
    have uniform := (alto.uniform o List.mem_cons_self).subset sub.subset
    have short : (later.filterMap Change.kept?).length ≤ ws.flatten.length := by
      rw [← hnew]
      exact length_kept?_le_new? later
    have still : struck - later.countP Change.isRemoved < (diff o w).countP Change.isRemoved := by
      omega
    have nothing : ∀ a ∈ ([] : Text).getLast?, ∀ b ∈ w.head?, isBlank a ≠ isBlank b := by
      intro a ha
      cases ha
    apply settled_diff_ne still
    exact altw.eq_of_le (u := []) uniform heq.symm nothing short

/-- An open removal inside a word that makes way for the new one stands before the new word. -/
theorem settled_ne_of_flushed (alto : Alternating (o :: os)) (altw : Alternating (w :: ws))
    (differ : o ≠ w) (hold : later.filterMap Change.old? = os.flatten)
    (hkept : w <+: later.filterMap Change.kept?)
    (h : struck < (diff o []).countP Change.isRemoved + later.countP Change.isRemoved) :
    settled struck 0 (diff o [] ++ later) ≠ w ++ ws.flatten := by
  by_cases hlater : struck < later.countP Change.isRemoved
  · exact settled_ne_of_later alto altw differ (filterMap_old?_diff o []) hold hlater
  · intro heq
    obtain ⟨rest, hrest⟩ := hkept
    have cut := settled_cut [] (Nat.not_lt.mp hlater) h
    simp only [List.nil_append, List.filterMap_nil] at cut
    rw [cut, ← hrest] at heq
    have length := length_settled (struck - later.countP Change.isRemoved) 0 (diff o [])
    have sub := settled_diff_sublist (struck - later.countP Change.isRemoved) o []
    generalize settled (struck - later.countP Change.isRemoved) 0 (diff o []) = left at *
    have hw := altw.ne_nil w List.mem_cons_self
    have uw := altw.uniform w List.mem_cons_self
    have uleft := (alto.uniform o List.mem_cons_self).subset sub.subset
    have short := uleft.length_le (u := []) heq.symm hw altw.head_differs
    -- What is left begins the new word, so with the kept word behind it, it is of one kind.
    have begins : left <+: w :=
      List.prefix_of_prefix_length_le ⟨_, heq⟩ (List.prefix_append w _) short
    have uboth : Uniform (left ++ w) := by
      apply uw.subset
      rw [List.append_subset]
      exact ⟨begins.subset, List.Subset.refl w⟩
    have both : w ++ ws.flatten = left ++ w ++ rest := by
      rw [List.append_assoc]
      exact heq.symm
    have long := uboth.length_le (u := []) both hw altw.head_differs
    simp only [List.nil_append, List.length_append] at long
    omega

/-- Words that begin differently do not read like the new ones while a removal is open. -/
theorem settled_reconciled_cons_ne {changes : List (Change Text)}
    (first : Diff.RemovalsFirst (changes.map Change.step))
    (hos : changes.filterMap Change.old? = o :: os) (hws : changes.filterMap Change.new? = w :: ws)
    (alto : Alternating (o :: os)) (altw : Alternating (w :: ws)) (differ : o ≠ w)
    (h : struck < (reconciled changes).countP Change.isRemoved) :
    settled struck 0 (reconciled changes) ≠ w ++ ws.flatten := by
  have hold := filterMap_old?_reconciled changes
  have hnew := filterMap_new?_reconciled changes
  rw [hos, List.flatten_cons] at hold
  rw [hws, List.flatten_cons] at hnew
  obtain ⟨part, later, hparts, hpart, none⟩ | ⟨later, hparts⟩ | ⟨later, hparts, hkept⟩ :=
    reconciled_cases first hos hws
  · rw [hparts] at h hold ⊢
    rw [List.filterMap_append, hpart] at hold
    rw [List.countP_append, none, Nat.zero_add] at h
    exact settled_ne_of_later alto altw differ hpart (List.append_cancel_left hold) h
  · rw [hparts] at h hold hnew ⊢
    rw [List.filterMap_append, filterMap_old?_diff] at hold
    rw [List.filterMap_append, filterMap_new?_diff] at hnew
    rw [List.countP_append] at h
    exact settled_ne_of_rewritten alto altw differ (List.append_cancel_left hold)
      (List.append_cancel_left hnew) h
  · rw [hparts] at h hold ⊢
    rw [List.filterMap_append, filterMap_old?_diff] at hold
    rw [List.countP_append] at h
    exact settled_ne_of_flushed alto altw differ (List.append_cancel_left hold) hkept h

end First

/-- Changes that begin differently do not read like the new words while a removal is open. -/
theorem settled_reconciled_ne {changes : List (Change Text)} {struck : Nat}
    (first : Diff.RemovalsFirst (changes.map Change.step))
    (alto : Text.Alternating (changes.filterMap Change.old?))
    (altw : Text.Alternating (changes.filterMap Change.new?))
    (differ : ∀ o w, (changes.filterMap Change.old?).head? = some o →
      (changes.filterMap Change.new?).head? = some w → o ≠ w)
    (h : struck < (reconciled changes).countP Change.isRemoved) :
    settled struck 0 (reconciled changes) ≠ (changes.filterMap Change.new?).flatten := by
  cases hos : changes.filterMap Change.old? with
  | nil =>
    -- Without old words there is nothing to be removed.
    have length := length_filterMap_old? (reconciled changes)
    rw [filterMap_old?_reconciled, hos, List.flatten_nil, List.length_nil] at length
    omega
  | cons o os =>
    cases hws : changes.filterMap Change.new? with
    | nil =>
      intro heq
      have length := length_settled struck 0 (reconciled changes)
      rw [heq, List.flatten_nil, List.length_nil] at length
      omega
    | cons w ws =>
      rw [hos, hws] at differ
      rw [hos] at alto
      rw [hws] at altw
      exact settled_reconciled_cons_ne first hos hws alto altw (differ o w rfl rfl) h

/-- Behind the words that both lines begin with, a superposition comes to what the changes of the
other words come to. -/
theorem exists_superposition_eq (old new : Text) :
    ∃ (common : List Text) (later : List (Change Text)),
      superposition .reconcile old new = common.flatten.map .kept ++ reconciled later ∧
      Diff.RemovalsFirst (later.map Change.step) ∧
      Text.words old = common ++ later.filterMap Change.old? ∧
      Text.words new = common ++ later.filterMap Change.new? ∧
      ∀ o w, (later.filterMap Change.old?).head? = some o →
        (later.filterMap Change.new?).head? = some w → o ≠ w := by
  obtain ⟨common, later, hdiff, differ⟩ := exists_diff_eq (Text.words old) (Text.words new)
  have first := Diff.removalsFirst_script (Text.words old) (Text.words new)
  have oldWords := filterMap_old?_diff (Text.words old) (Text.words new)
  have newWords := filterMap_new?_diff (Text.words old) (Text.words new)
  rw [← map_step_diff, hdiff, List.map_append] at first
  rw [hdiff, List.filterMap_append, filterMap_old?_map_kept] at oldWords
  rw [hdiff, List.filterMap_append, filterMap_new?_map_kept] at newWords
  refine ⟨common, later, ?_, first.right_of_append, oldWords.symm, newWords.symm, differ⟩
  rw [superposition, tokenPairs, pairTokens, Granularity.diff, Granularity.split, hdiff,
    pairTokensWith_reconcile_map_kept, List.flatMap_append, flatMap_changes_map_kept]
  rfl

/-- A modified line in reconcile mode does not read like the new one while a removal is open. -/
theorem settled_reconcile_ne {old new : Text} {struck : Nat}
    (h : struck < (superposition .reconcile old new).countP Change.isRemoved) :
    settled struck 0 (superposition .reconcile old new) ≠ new := by
  intro heq
  obtain ⟨common, later, parts, first, oldWords, newWords, differ⟩ :=
    exists_superposition_eq old new
  have alto := (oldWords ▸ Text.alternating_words old).of_append
  have altw := (newWords ▸ Text.alternating_words new).of_append
  rw [parts, List.countP_append, countP_isRemoved_map_kept, Nat.zero_add] at h
  rw [parts, settled_map_kept_append] at heq
  have whole : common.flatten ++ (later.filterMap Change.new?).flatten = new := by
    rw [← List.flatten_append, ← newWords, Text.flatten_words]
  exact settled_reconciled_ne first alto altw differ h
    (List.append_cancel_left (heq.trans whole.symm))

/-- A modified line in reconcile mode reads like the new one only when all its candidates have been
paid for. -/
theorem cost_le_of_settled_reconcile {old new : Text} {budget : Nat}
    (h : settled budget (budget - (superposition .reconcile old new).countP Change.isRemoved)
      (superposition .reconcile old new) = new) :
    (superposition .reconcile old new).countP Change.isRemoved +
      (superposition .reconcile old new).countP Change.isAdded ≤ budget := by
  by_cases hr : (superposition .reconcile old new).countP Change.isRemoved ≤ budget
  · apply countP_isAdded_le h hr
    rw [(superposition_reconcile old new).2]
  · have still := Nat.not_le.mp hr
    rw [Nat.sub_eq_zero_of_le (Nat.le_of_lt still)] at h
    exact absurd h (settled_reconcile_ne still)

/-- A modified line reads like the new one only when all its candidates have been paid for. -/
theorem cost_le_of_settled_eq {mode : UnpairedTokens} {old new : Text} {budget : Nat}
    (h : settled budget (budget - (superposition mode old new).countP Change.isRemoved)
      (superposition mode old new) = new) :
    (superposition mode old new).countP Change.isRemoved +
      (superposition mode old new).countP Change.isAdded ≤ budget := by
  cases mode with
  | separator => exact cost_le_of_settled_separator h
  | reconcile => exact cost_le_of_settled_reconcile h

end Morphing
