import Morphing.Proofs.Text.Words
import Morphing.Proofs.Token.Pairing

/-!
# Lines whose added words all find a partner

In separator mode an added word is written only if a removed word is waiting for it. The removed
words wait in a queue that kept words leave alone, so it is never empty when it is needed if, and
only if, no beginning of the diff adds more words than it removes.

Without a partner, an added word leaves a space or nothing, and never itself. What is left is no
longer than the word, so a line with all candidates confirmed reads like the new line only if every
single pair reads like its word.
-/

namespace Morphing

/-- No beginning of a list of changes adds more elements than it removes, even with a stock of
removed elements at hand. -/
def Change.Supplied (stock : Nat) (changes : List (Change α)) : Prop :=
  ∀ front, front <+: changes → front.countP isAdded ≤ stock + front.countP isRemoved

namespace Change.Supplied

variable {stock : Nat} {a : α} {c : Change α} {changes : List (Change α)}

theorem nil : Supplied stock ([] : List (Change α)) := by
  intro front hfront
  rw [List.prefix_nil.mp hfront]
  exact Nat.zero_le _

theorem cons_iff : Supplied stock (c :: changes) ↔ ∀ front, front <+: changes →
    (c :: front).countP isAdded ≤ stock + (c :: front).countP isRemoved := by
  constructor
  · intro h front hfront
    exact h (c :: front) (List.cons_prefix_cons.mpr ⟨rfl, hfront⟩)
  · intro h front hfront
    obtain rfl | ⟨rest, rfl, hrest⟩ := List.prefix_cons_iff.mp hfront
    · exact Nat.zero_le _
    · exact h rest hrest

theorem kept_iff : Supplied stock (.kept a :: changes) ↔ Supplied stock changes := by
  rw [cons_iff]
  exact forall₂_congr fun front _ => by simp

/-- A removed element adds to the stock. -/
theorem removed_iff : Supplied stock (.removed a :: changes) ↔ Supplied (stock + 1) changes := by
  rw [cons_iff]
  refine forall₂_congr fun front _ => ?_
  simp only [List.countP_cons, isAdded, isRemoved, if_true, Bool.false_eq_true, if_false]
  omega

/-- An added element takes from it. -/
theorem added_iff : Supplied (stock + 1) (.added a :: changes) ↔ Supplied stock changes := by
  rw [cons_iff]
  refine forall₂_congr fun front _ => ?_
  simp only [List.countP_cons, isAdded, isRemoved, if_true, Bool.false_eq_true, if_false]
  omega

theorem not_zero_added : ¬Supplied 0 (.added a :: changes) := by
  intro h
  have := h [.added a] (List.prefix_append [.added a] changes)
  simp at this

end Change.Supplied

/-! ### Pieces and their lengths -/

section Pieces

variable {f g : β → List α} {l : List β}

theorem length_flatMap_le (shorter : ∀ b ∈ l, (f b).length ≤ (g b).length) :
    (l.flatMap f).length ≤ (l.flatMap g).length := by
  induction l with
  | nil => exact Nat.le_refl 0
  | cons b l ih =>
    obtain ⟨hb, hl⟩ := List.forall_mem_cons.mp shorter
    rw [List.flatMap_cons, List.flatMap_cons, List.length_append, List.length_append]
    exact Nat.add_le_add hb (ih hl)

/-- Pieces that are no longer than those of another list read like it together only if each reads
like its own. -/
theorem flatMap_eq_flatMap_iff (shorter : ∀ b ∈ l, (f b).length ≤ (g b).length) :
    l.flatMap f = l.flatMap g ↔ ∀ b ∈ l, f b = g b := by
  induction l with
  | nil => simp
  | cons b l ih =>
    obtain ⟨hb, hl⟩ := List.forall_mem_cons.mp shorter
    rw [List.flatMap_cons, List.flatMap_cons, List.forall_mem_cons]
    constructor
    · intro heq
      have rest := length_flatMap_le hl
      have lengths := congrArg List.length heq
      rw [List.length_append, List.length_append] at lengths
      obtain ⟨first, others⟩ := List.append_inj heq (by omega)
      exact ⟨first, (ih hl).mp others⟩
    · rintro ⟨first, others⟩
      rw [first, (ih hl).mpr others]

end Pieces

/-! ### Pairs that read like their words -/

namespace TokenPair

/-- What a pair reads like when all its candidates are confirmed. -/
def reading (pair : TokenPair) : Text := pair.changes.filterMap Change.new?

@[simp] theorem reading_kept (token : Text) : (kept token).reading = token :=
  filterMap_new?_changes_kept token

@[simp] theorem reading_rewritten (old new : Text) : (rewritten old new).reading = new :=
  filterMap_new?_changes_rewritten old new

theorem length_reading_le {pair : TokenPair} (h : pair.hasWord = true → pair.word ≠ []) :
    pair.reading.length ≤ pair.word.length := by
  cases pair with
  | kept token => rw [reading_kept]; exact Nat.le_refl _
  | rewritten old new => rw [reading_rewritten]; exact Nat.le_refl _
  | separator token => exact List.length_pos_iff.mpr (h rfl)
  | omitted token | dropped count => exact Nat.zero_le _

theorem flatMap_reading (pairs : List TokenPair) :
    pairs.flatMap reading = (pairs.flatMap changes).filterMap Change.new? :=
  List.filterMap_flatMap.symm

end TokenPair

/-- A word without a partner does not read like itself: a space stands for a visible word. -/
theorem reading_unpaired_ne {first : Bool} {token : Text} {pair : TokenPair}
    (h : pair = if first || Text.allBlank token then .omitted token else .separator token)
    (hne : token ≠ []) : pair.reading ≠ pair.word := by
  subst h
  split
  · exact hne.symm
  next visible =>
    intro same
    have space : [' '] = token := same
    apply visible
    rw [← space, show Text.allBlank [' '] = true from rfl, Bool.or_true]

/-- In separator mode, the pairs of some changes read like their words exactly if there is a removed
word for each added one. -/
theorem forall_reading_eq_word_iff (first : Bool) (waiting : List Text)
    {changes : List (Change Text)} (words : ∀ w ∈ changes.filterMap Change.new?, w ≠ []) :
    (∀ pair ∈ pairTokensWith .separator first waiting changes, pair.reading = pair.word) ↔
      Change.Supplied waiting.length changes := by
  induction changes generalizing first waiting with
  | nil =>
    refine iff_of_true ?_ .nil
    rw [pairTokensWith_separator_nil]
    split <;> simp [TokenPair.reading, TokenPair.changes, TokenPair.word]
  | cons c changes ih =>
    cases c with
    | kept token =>
      obtain ⟨_, words⟩ := List.forall_mem_cons.mp words
      rw [pairTokensWith_separator_kept, List.forall_mem_cons, ih false waiting words,
        Change.Supplied.kept_iff]
      exact and_iff_right (TokenPair.reading_kept token)
    | removed token =>
      rw [pairTokensWith_removed, ih false _ words, Change.Supplied.removed_iff,
        List.length_append]
      rfl
    | added token =>
      obtain ⟨hne, words⟩ := List.forall_mem_cons.mp words
      cases waiting with
      | nil =>
        refine iff_of_false ?_ Change.Supplied.not_zero_added
        rw [pairTokensWith_separator_added, List.forall_mem_cons]
        rintro ⟨same, -⟩
        exact reading_unpaired_ne rfl hne same
      | cons old waiting =>
        rw [pairTokensWith_added_cons, List.forall_mem_cons, ih false waiting words,
          List.length_cons, Change.Supplied.added_iff]
        exact and_iff_right (TokenPair.reading_rewritten old token)

section Lines

variable (old new : Text)

theorem flatMap_word_tokenPairs : (tokenPairs .separator old new).flatMap TokenPair.word = new := by
  rw [← TokenPair.flatMap_filter_hasWord fun _ => rfl, List.flatMap_def, map_word_tokenPairs,
    Text.flatten_words]

/-- No pair of words of two lines reads longer than its word. -/
theorem length_reading_le_of_mem_tokenPairs :
    ∀ pair ∈ tokenPairs .separator old new, pair.reading.length ≤ pair.word.length := by
  intro pair hpair
  apply TokenPair.length_reading_le
  intro hasWord
  apply (Text.alternating_words new).ne_nil
  rw [← map_word_tokenPairs old new]
  exact List.mem_map_of_mem (List.mem_filter.mpr ⟨hpair, hasWord⟩)

/-- In separator mode, a modified line grows no longer than the new one. -/
theorem length_superposition_separator_le :
    ((superposition .separator old new).filterMap Change.new?).length ≤ new.length := by
  conv_rhs => rw [← flatMap_word_tokenPairs old new]
  rw [superposition, ← TokenPair.flatMap_reading]
  exact length_flatMap_le (length_reading_le_of_mem_tokenPairs old new)

/-- It reads like the new one in the end exactly if each added word finds a removed one waiting. -/
theorem superposition_separator_eq_iff :
    (superposition .separator old new).filterMap Change.new? = new ↔
      Change.Supplied 0 (Granularity.word.diff old new) := by
  have words : ∀ w ∈ (Granularity.word.diff old new).filterMap Change.new?, w ≠ [] := by
    rw [Granularity.diff, filterMap_new?_diff]
    exact (Text.alternating_words new).ne_nil
  conv_lhs => rhs; rw [← flatMap_word_tokenPairs old new]
  rw [superposition, ← TokenPair.flatMap_reading,
    flatMap_eq_flatMap_iff (length_reading_le_of_mem_tokenPairs old new)]
  exact forall_reading_eq_word_iff true [] words

end Lines

end Morphing
