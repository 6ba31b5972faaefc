import Morphing.Proofs.Draft.Settled
import Morphing.Proofs.Draft.Superposition

/-!
# What pairs of words come to

Reconciled pairs of words superpose the two lines they come from: without the added characters they
are the old line, without the removed ones the new line. In separator mode only the order of the new
words is kept, each of which has one pair: a word in its own right, a space or nothing.

No character of a pair is foreign to the two lines, except for spaces.
-/

namespace Morphing

section Equations

variable (mode : UnpairedTokens) (first : Bool) (token old : Text) (waiting : List Text)
  (changes : List (Change Text))

@[simp] theorem pairTokensWith_removed :
    pairTokensWith mode first waiting (.removed token :: changes) =
      pairTokensWith mode false (waiting ++ [token]) changes := by
  cases waiting <;> rfl

@[simp] theorem pairTokensWith_added_cons :
    pairTokensWith mode first (old :: waiting) (.added token :: changes) =
      .rewritten old token :: pairTokensWith mode false waiting changes := rfl

@[simp] theorem pairTokensWith_reconcile_nil :
    pairTokensWith .reconcile first waiting [] = flushRemoved waiting := by
  cases waiting <;> rfl

@[simp] theorem pairTokensWith_reconcile_added :
    pairTokensWith .reconcile first [] (.added token :: changes) =
      .rewritten [] token :: pairTokensWith .reconcile false [] changes := rfl

@[simp] theorem pairTokensWith_reconcile_kept :
    pairTokensWith .reconcile first waiting (.kept token :: changes) =
      flushRemoved waiting ++ .kept token :: pairTokensWith .reconcile false [] changes := by
  cases waiting <;> rfl

@[simp] theorem pairTokensWith_separator_nil :
    pairTokensWith .separator first waiting [] =
      if waiting.isEmpty then [] else [.dropped waiting.length] := by
  cases waiting <;> rfl

@[simp] theorem pairTokensWith_separator_added :
    pairTokensWith .separator first [] (.added token :: changes) =
      (if first || Text.allBlank token then .omitted token else .separator token) ::
        pairTokensWith .separator false [] changes := rfl

@[simp] theorem pairTokensWith_separator_kept :
    pairTokensWith .separator first waiting (.kept token :: changes) =
      .kept token :: pairTokensWith .separator false waiting changes := by
  cases waiting <;> rfl

end Equations

/-! ### Reconciled words -/

namespace TokenPair

variable (token old new : Text)

@[simp] theorem filterMap_old?_changes_kept :
    (kept token).changes.filterMap Change.old? = token := filterMap_old?_map_kept token

@[simp] theorem filterMap_new?_changes_kept :
    (kept token).changes.filterMap Change.new? = token := filterMap_new?_map_kept token

@[simp] theorem filterMap_old?_changes_rewritten :
    (rewritten old new).changes.filterMap Change.old? = old := filterMap_old?_diff old new

@[simp] theorem filterMap_new?_changes_rewritten :
    (rewritten old new).changes.filterMap Change.new? = new := filterMap_new?_diff old new

end TokenPair

theorem filterMap_old?_flushRemoved (waiting : List Text) :
    ((flushRemoved waiting).flatMap TokenPair.changes).filterMap Change.old? = waiting.flatten := by
  induction waiting with
  | nil => rfl
  | cons old waiting ih =>
    rw [flushRemoved, List.map_cons, List.flatMap_cons, List.filterMap_append, List.flatten_cons]
    exact congrArg₂ (· ++ ·) (filterMap_old?_diff old []) ih

theorem filterMap_new?_flushRemoved (waiting : List Text) :
    ((flushRemoved waiting).flatMap TokenPair.changes).filterMap Change.new? = [] := by
  induction waiting with
  | nil => rfl
  | cons old waiting ih =>
    rw [flushRemoved, List.map_cons, List.flatMap_cons, List.filterMap_append]
    exact congrArg₂ (· ++ ·) (filterMap_new?_diff old []) ih

/-- Without added characters, reconciled words are the old ones, those that wait first. -/
theorem filterMap_old?_reconcile (first : Bool) (waiting : List Text)
    (changes : List (Change Text)) :
    ((pairTokensWith .reconcile first waiting changes).flatMap TokenPair.changes).filterMap
        Change.old? = waiting.flatten ++ (changes.filterMap Change.old?).flatten := by
  induction changes generalizing first waiting with
  | nil => simp [filterMap_old?_flushRemoved]
  | cons c changes ih =>
    cases c with
    | kept token => simp [filterMap_old?_flushRemoved, ih]
    | removed token => simp [ih]
    | added token =>
      cases waiting with
      | nil => simp [List.filterMap_cons, ih]
      | cons old waiting => simp [List.filterMap_cons, ih]

/-- Without removed characters, they are the new ones. -/
theorem filterMap_new?_reconcile (first : Bool) (waiting : List Text)
    (changes : List (Change Text)) :
    ((pairTokensWith .reconcile first waiting changes).flatMap TokenPair.changes).filterMap
        Change.new? = (changes.filterMap Change.new?).flatten := by
  induction changes generalizing first waiting with
  | nil => simp [filterMap_new?_flushRemoved]
  | cons c changes ih =>
    cases c with
    | kept token => simp [filterMap_new?_flushRemoved, ih]
    | removed token => simp [List.filterMap_cons, ih]
    | added token =>
      cases waiting with
      | nil => simp [ih]
      | cons old waiting => simp [ih]

/-- A reconciled superposition leads from the old line to the new one. -/
theorem superposition_reconcile (old new : Text) :
    (superposition .reconcile old new).filterMap Change.old? = old ∧
      (superposition .reconcile old new).filterMap Change.new? = new := by
  constructor
  · rw [superposition, tokenPairs, pairTokens, filterMap_old?_reconcile, Granularity.diff,
      filterMap_old?_diff, Granularity.flatten_split]
    rfl
  · rw [superposition, tokenPairs, pairTokens, filterMap_new?_reconcile, Granularity.diff,
      filterMap_new?_diff, Granularity.flatten_split]

/-! ### Separated words -/

namespace TokenPair

/-- The new word that a pair is about. -/
def word : TokenPair → Text
  | kept token | separator token | omitted token => token
  | rewritten _ new => new
  | dropped _ => []

/-- Whether a pair is about a new word at all. -/
def hasWord : TokenPair → Bool
  | dropped _ => false
  | kept _ | rewritten _ _ | separator _ | omitted _ => true

/-- The words that a pair is about. -/
def texts : TokenPair → List Text
  | kept token | separator token | omitted token => [token]
  | rewritten old new => [old, new]
  | dropped _ => []

/-- Pairs without a new word can be left out where they come to nothing. -/
theorem flatMap_filter_hasWord {f : TokenPair → List α} (nothing : ∀ count, f (.dropped count) = [])
    (pairs : List TokenPair) : (pairs.filter hasWord).flatMap f = pairs.flatMap f := by
  induction pairs with
  | nil => rfl
  | cons pair pairs ih =>
    cases pair with
    | dropped count =>
      rw [List.flatMap_cons, nothing]
      exact ih
    | kept t | rewritten o n | separator t | omitted t => exact congrArg (_ ++ ·) ih

end TokenPair

/-- In separator mode, every new word has one pair, and they keep their order. -/
theorem map_word_separator (first : Bool) (waiting : List Text) (changes : List (Change Text)) :
    ((pairTokensWith .separator first waiting changes).filter TokenPair.hasWord).map
      TokenPair.word = changes.filterMap Change.new? := by
  induction changes generalizing first waiting with
  | nil =>
    rw [pairTokensWith_separator_nil]
    split <;> rfl
  | cons c changes ih =>
    cases c with
    | kept token => simp [List.filter_cons, TokenPair.hasWord, TokenPair.word, ih]
    | removed token => simp [List.filterMap_cons, ih]
    | added token =>
      cases waiting with
      | nil =>
        rw [pairTokensWith_separator_added]
        split <;> simp [List.filter_cons, TokenPair.hasWord, TokenPair.word, ih]
      | cons old waiting => simp [List.filter_cons, TokenPair.hasWord, TokenPair.word, ih]

theorem map_word_tokenPairs (old new : Text) :
    ((tokenPairs .separator old new).filter TokenPair.hasWord).map TokenPair.word =
      Text.words new := by
  rw [tokenPairs, pairTokens, map_word_separator, Granularity.diff, filterMap_new?_diff]
  rfl

/-! ### The words and characters of pairs -/

/-- What holds of all words that wait or are changed, and of the empty one, holds of all paired
words. -/
theorem forall_texts_pairTokensWith {P : Text → Prop} {mode : UnpairedTokens} {first : Bool}
    {waiting : List Text} {changes : List (Change Text)} (hempty : P [])
    (hwaiting : ∀ t ∈ waiting, P t) (hchanges : ∀ c ∈ changes, P c.item) :
    ∀ pair ∈ pairTokensWith mode first waiting changes, ∀ t ∈ pair.texts, P t := by
  have flushed : ∀ {waiting : List Text}, (∀ t ∈ waiting, P t) →
      ∀ pair ∈ flushRemoved waiting, ∀ t ∈ pair.texts, P t := by
    intro waiting hwaiting pair hpair t ht
    obtain ⟨old, hold, rfl⟩ := List.mem_map.mp hpair
    simp only [TokenPair.texts, List.mem_cons, List.not_mem_nil, or_false] at ht
    obtain rfl | rfl := ht
    · exact hwaiting _ hold
    · exact hempty
  induction changes generalizing first waiting with
  | nil =>
    cases mode with
    | separator =>
      rw [pairTokensWith_separator_nil]
      split <;> simp [TokenPair.texts]
    | reconcile => simpa using flushed hwaiting
  | cons c changes ih =>
    obtain ⟨hc, hlater⟩ := List.forall_mem_cons.mp hchanges
    cases c with
    | kept token =>
      cases mode with
      | separator =>
        rw [pairTokensWith_separator_kept]
        exact List.forall_mem_cons.mpr ⟨by simpa [TokenPair.texts] using hc, ih hwaiting hlater⟩
      | reconcile =>
        rw [pairTokensWith_reconcile_kept]
        have hkept : ∀ t ∈ (TokenPair.kept token).texts, P t := by
          simpa [TokenPair.texts] using hc
        rw [List.forall_mem_append]
        constructor
        · exact flushed hwaiting
        · exact List.forall_mem_cons.mpr ⟨hkept, ih (by simp) hlater⟩
    | removed token =>
      rw [pairTokensWith_removed]
      exact ih (List.forall_mem_append.mpr ⟨hwaiting, by simpa using hc⟩) hlater
    | added token =>
      cases waiting with
      | nil =>
        cases mode with
        | separator =>
          rw [pairTokensWith_separator_added]
          rw [List.forall_mem_cons]
          constructor
          · split <;> simpa [TokenPair.texts] using hc
          · exact ih hwaiting hlater
        | reconcile =>
          rw [pairTokensWith_reconcile_added]
          rw [List.forall_mem_cons]
          constructor
          · simpa [TokenPair.texts] using ⟨hempty, hc⟩
          · exact ih hwaiting hlater
      | cons old waiting =>
        obtain ⟨hold, hothers⟩ := List.forall_mem_cons.mp hwaiting
        rw [pairTokensWith_added_cons]
        rw [List.forall_mem_cons]
        constructor
        · simpa [TokenPair.texts] using ⟨hold, hc⟩
        · exact ih hothers hlater

/-- The words of the pairs of two lines share every property of the empty text and of the words of
the two. -/
theorem forall_texts_tokenPairs {P : Text → Prop} {mode : UnpairedTokens} {old new : Text}
    (hempty : P []) (hold : ∀ t ∈ Text.words old, P t) (hnew : ∀ t ∈ Text.words new, P t) :
    ∀ pair ∈ tokenPairs mode old new, ∀ t ∈ pair.texts, P t := by
  apply forall_texts_pairTokensWith hempty (by simp)
  intro c hc
  obtain hmem | hmem := item_mem_of_mem_diff hc
  · exact hold _ hmem
  · exact hnew _ hmem

theorem TokenPair.item_mem_texts {pair : TokenPair} {c : Change Char} (h : c ∈ pair.changes) :
    (∃ t ∈ pair.texts, c.item ∈ t) ∨ c.item = ' ' := by
  cases pair with
  | kept token =>
    obtain ⟨a, ha, rfl⟩ := List.mem_map.mp h
    exact .inl ⟨token, by simp [texts], ha⟩
  | rewritten old new =>
    obtain hmem | hmem := item_mem_of_mem_diff h
    · exact .inl ⟨old, by simp [texts], hmem⟩
    · exact .inl ⟨new, by simp [texts], hmem⟩
  | separator token =>
    rw [List.mem_singleton.mp h]
    exact .inr rfl
  | omitted token | dropped count => cases h

/-- A superposition has no character that neither line has, except for spaces. -/
theorem item_mem_of_mem_superposition {mode : UnpairedTokens} {old new : Text} {c : Change Char}
    (h : c ∈ superposition mode old new) : c.item ∈ old ∨ c.item ∈ new ∨ c.item = ' ' := by
  obtain ⟨pair, hpair, hc⟩ := List.mem_flatMap.mp h
  obtain ⟨t, ht, hmem⟩ | hspace := pair.item_mem_texts hc
  · have origin : ∀ a ∈ t, a ∈ old ∨ a ∈ new := by
      refine forall_texts_tokenPairs (P := fun t => ∀ a ∈ t, a ∈ old ∨ a ∈ new) (by simp) ?_ ?_
        pair hpair t ht
      · intro u hu a ha
        left
        rw [← Text.flatten_words old]
        exact List.mem_flatten.mpr ⟨u, hu, ha⟩
      · intro u hu a ha
        right
        rw [← Text.flatten_words new]
        exact List.mem_flatten.mpr ⟨u, hu, ha⟩
    obtain hmem | hmem := origin _ hmem
    · exact .inl hmem
    · exact .inr (.inl hmem)
  · exact .inr (.inr hspace)

end Morphing
