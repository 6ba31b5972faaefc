import Morphing.Proofs.Diff.Minimality
import Morphing.Proofs.Text.Words
import Morphing.Proofs.Token.Pairing

/-!
# Half-settled lines in separator mode

A modified line whose candidates have not all been paid for does not read like the new line. If a
removal is still open, every word before it reads as of old, the word itself is of one kind, and
whatever follows is no longer than in the new line. So, cut into what the pairs of words come to,
the line would have to have the new word in the place of that word. But a character diff keeps as
much as can be kept: with a removal open, what is left of it is too long to be the new word.
-/

namespace Morphing

theorem settled_diff_sublist [BEq α] (struck : Nat) (old new : List α) :
    (settled struck 0 (diff old new)).Sublist old := by
  have sub := settled_sublist_old struck (diff old new)
  rwa [filterMap_old?_diff] at sub

/-- With removals open, a diff is not settled to the new sequence. -/
theorem settled_diff_ne [BEq α] [LawfulBEq α] {old new : List α} {struck : Nat}
    (h : struck < (diff old new).countP Change.isRemoved) :
    settled struck 0 (diff old new) ≠ new := by
  intro heq
  have sub := settled_diff_sublist struck old new
  rw [heq] at sub
  have same : List.Forall₂ (fun a b : α => (a == b) = true) new new := by
    apply List.forall₂_same.mpr
    intro a _
    exact beq_self_eq_true a
  have kept := length_le_countP_isKept sub (List.Sublist.refl new) same
  have length := length_settled struck 0 (diff old new)
  rw [heq] at length
  omega

namespace TokenPair

theorem uniform_old {pair : TokenPair} (h : ∀ t ∈ pair.texts, Text.Uniform t) :
    Text.Uniform (pair.changes.filterMap Change.old?) := by
  cases pair with
  | kept token =>
    rw [filterMap_old?_changes_kept]
    exact h token List.mem_cons_self
  | rewritten old new =>
    rw [filterMap_old?_changes_rewritten]
    exact h old List.mem_cons_self
  | separator token => exact Text.uniform_singleton ' '
  | omitted token | dropped count => exact Text.uniform_nil

/-- No pair writes more than its word. -/
theorem length_new_le {pair : TokenPair} (h : pair.word ≠ []) :
    (pair.changes.filterMap Change.new?).length ≤ pair.word.length := by
  cases pair with
  | kept token => rw [filterMap_new?_changes_kept]; exact Nat.le_refl _
  | rewritten old new => rw [filterMap_new?_changes_rewritten]; exact Nat.le_refl _
  | separator token => exact List.length_pos_iff.mpr h
  | omitted token | dropped count => exact Nat.zero_le _

theorem length_flatMap_new_le {pairs : List TokenPair} (h : ∀ pair ∈ pairs, pair.word ≠ []) :
    ((pairs.flatMap changes).filterMap Change.new?).length ≤ (pairs.map word).flatten.length := by
  induction pairs with
  | nil => exact Nat.le_refl 0
  | cons pair pairs ih =>
    obtain ⟨hpair, hpairs⟩ := List.forall_mem_cons.mp h
    rw [List.flatMap_cons, List.filterMap_append, List.length_append, List.map_cons,
      List.flatten_cons, List.length_append]
    exact Nat.add_le_add (length_new_le hpair) (ih hpairs)

/-- Only rewritten words have removals. -/
theorem exists_rewritten (pair : TokenPair) (h : 0 < pair.changes.countP Change.isRemoved) :
    ∃ old new, pair = rewritten old new := by
  cases pair with
  | rewritten old new => exact ⟨old, new, rfl⟩
  | kept token => exact absurd h (by simp [changes])
  | separator token | omitted token | dropped count => exact absurd h (by simp [changes])

end TokenPair

/-- While a removal is open, pairs with one word each do not read like their words. -/
theorem settled_pairs_ne {pairs : List TokenPair} {struck : Nat}
    (alt : Text.Alternating (pairs.map TokenPair.word))
    (uniform : ∀ pair ∈ pairs, ∀ t ∈ pair.texts, Text.Uniform t)
    (h : struck < (pairs.flatMap TokenPair.changes).countP Change.isRemoved) :
    settled struck 0 (pairs.flatMap TokenPair.changes) ≠ (pairs.map TokenPair.word).flatten := by
  intro heq
  obtain ⟨front, pair, back, rfl, hback, hpair⟩ := exists_cut h
  obtain ⟨old, new, rfl⟩ := pair.exists_rewritten (by omega)
  rw [List.flatMap_append, List.flatMap_cons, ← List.append_assoc, settled_cut _ hback hpair,
    List.filterMap_flatMap, List.flatMap_def] at heq
  rw [List.map_append, List.map_cons] at alt heq
  have still : struck - (back.flatMap TokenPair.changes).countP Change.isRemoved <
      (diff old new).countP Change.isRemoved := Nat.sub_lt_right_of_lt_add hback hpair
  generalize struck - (back.flatMap TokenPair.changes).countP Change.isRemoved = left at *
  apply settled_diff_ne still
  have uold : ∀ x ∈ front.map fun p => p.changes.filterMap Change.old?, Text.Uniform x := by
    intro x hx
    obtain ⟨p, hp, rfl⟩ := List.mem_map.mp hx
    exact TokenPair.uniform_old (uniform p (by simp [hp]))
  have uleft : Text.Uniform (settled left 0 (diff old new)) := by
    have word := uniform (.rewritten old new) (by simp) old (by simp [TokenPair.texts])
    exact word.subset (settled_diff_sublist left old new).subset
  have short : ((back.flatMap TokenPair.changes).filterMap Change.kept?).length ≤
      (back.map TokenPair.word).flatten.length := by
    apply Nat.le_trans (length_kept?_le_new? _)
    apply TokenPair.length_flatMap_new_le
    intro p hp
    exact alt.ne_nil p.word (by simp [List.mem_map_of_mem hp])
  have cut : [] ++ (front.map TokenPair.word ++ new :: back.map TokenPair.word).flatten =
      (front.map (fun p => p.changes.filterMap Change.old?) ++ settled left 0 (diff old new) ::
        [(back.flatMap TokenPair.changes).filterMap Change.kept?]).flatten := by
    simpa [TokenPair.word, TokenPair.changes] using heq.symm
  exact alt.eq_of_cut (by simp) uold uleft cut (by simp) (by simpa using short)

/-- A modified line in separator mode reads like the new one only when all its candidates have been
paid for. -/
theorem cost_le_of_settled_separator {old new : Text} {budget : Nat}
    (h : settled budget (budget - (superposition .separator old new).countP Change.isRemoved)
      (superposition .separator old new) = new) :
    (superposition .separator old new).countP Change.isRemoved +
      (superposition .separator old new).countP Change.isAdded ≤ budget := by
  have words := map_word_tokenPairs old new
  have whole := TokenPair.flatMap_filter_hasWord (f := TokenPair.changes) (fun _ => rfl)
    (tokenPairs .separator old new)
  have uniform : ∀ pair ∈ (tokenPairs .separator old new).filter TokenPair.hasWord,
      ∀ t ∈ pair.texts, Text.Uniform t := by
    intro pair hpair
    obtain ⟨hpair, _⟩ := List.mem_filter.mp hpair
    exact forall_texts_tokenPairs Text.uniform_nil (Text.alternating_words old).uniform
      (Text.alternating_words new).uniform pair hpair
  rw [superposition, ← whole] at h ⊢
  generalize hpairs : (tokenPairs .separator old new).filter TokenPair.hasWord = pairs at *
  have alt : Text.Alternating (pairs.map TokenPair.word) := words ▸ Text.alternating_words new
  have hnew : (pairs.map TokenPair.word).flatten = new := by
    rw [words, Text.flatten_words]
  by_cases hr : (pairs.flatMap TokenPair.changes).countP Change.isRemoved ≤ budget
  · apply countP_isAdded_le h hr
    conv_rhs => rw [← hnew]
    apply TokenPair.length_flatMap_new_le
    intro pair hpair
    exact alt.ne_nil _ (List.mem_map_of_mem hpair)
  · have still := Nat.not_le.mp hr
    rw [Nat.sub_eq_zero_of_le (Nat.le_of_lt still)] at h
    exact absurd (h.trans hnew.symm) (settled_pairs_ne alt uniform still)

end Morphing
