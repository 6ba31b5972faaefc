import Morphing.Proofs.Morph.Completion
import Morphing.Proofs.Token.Supply

/-!
# Where separator mode leads to

With budget left over, a morph has written every pair of lines in full. In separator mode the full
piece of a modified line is the new line only if each added word finds a removed one waiting; it is
never longer than that. So the pieces read like the new text together only if each of them reads
like its new line, and no two shortcomings make up for each other.
-/

namespace Morphing

namespace LinePair

/-- Whether each added word of a modified line finds a removed one waiting. -/
def Supplied : LinePair → Prop
  | kept _ | unpairedRemoval _ | pureInsertion _ => True
  | modification old new =>
    Change.Supplied 0 (Granularity.word.diff (Text.content old) (Text.content new))

theorem length_full_separator_le (pairing : LinePairing) (pair : LinePair) :
    (pair.full ⟨pairing, .separator⟩).length ≤ ((pair.new?).toList.flatten).length := by
  cases pair with
  | kept line | pureInsertion line => simp [full, new?]
  | unpairedRemoval line => exact Nat.le_refl 0
  | modification old new =>
    have content := length_superposition_separator_le (Text.content old) (Text.content new)
    have whole := congrArg List.length (Text.content_append_terminator new)
    rw [List.length_append] at whole
    simp only [full, changes, new?, Option.toList_some, List.flatten_singleton, List.length_append]
    omega

theorem full_separator_eq_iff (pairing : LinePairing) (pair : LinePair) :
    pair.full ⟨pairing, .separator⟩ = (pair.new?).toList.flatten ↔ pair.Supplied := by
  cases pair with
  | kept line | pureInsertion line => exact iff_of_true (List.append_nil line).symm trivial
  | unpairedRemoval line => exact iff_of_true rfl trivial
  | modification old new =>
    rw [Supplied, ← superposition_separator_eq_iff, full, changes, new?, Option.toList_some,
      List.flatten_singleton]
    conv_lhs => rhs; rw [← Text.content_append_terminator new]
    exact List.append_left_inj _

end LinePair

namespace Morph

/-- In separator mode, a morph with budget left over shows the new text if, and only if, no beginning
of the diff of a modified line adds more words than it removes. -/
theorem separator_text_eq_iff (old new : Text) (pairing : LinePairing) {b : Budget}
    (left : ((Morph.mk old new ⟨pairing, .separator⟩).run b).budget.remaining ≠ 0) :
    ((Morph.mk old new ⟨pairing, .separator⟩).run b).text = new ↔
      ∀ o n, LinePair.modification o n ∈ linePairs pairing old new →
        ∀ front, front <+: Granularity.word.diff (Text.content o) (Text.content n) →
          front.countP Change.isAdded ≤ front.countP Change.isRemoved := by
  have lines : (linePairs pairing old new).flatMap (fun pair => (pair.new?).toList.flatten) =
      new := by
    rw [flatMap_new?, filterMap_new?_linePairs, Text.flatten_lines]
  have each := flatMap_eq_flatMap_iff (l := linePairs pairing old new) fun pair _ =>
    pair.length_full_separator_le pairing
  rw [lines] at each
  rw [text_run_of_allAffordable (allAffordable_of_remaining left)]
  refine each.trans ⟨?_, ?_⟩
  · intro reads o n hpair front hfront
    have supplied : Change.Supplied 0 _ := (LinePair.full_separator_eq_iff _ _).mp (reads _ hpair)
    simpa using supplied front hfront
  · intro supplied pair hpair
    rw [LinePair.full_separator_eq_iff]
    cases pair with
    | kept line | unpairedRemoval line | pureInsertion line => trivial
    | modification o n =>
      intro front hfront
      simpa using supplied o n hpair front hfront

/-- From `a` to `a b`, the added word finds no removed one and leaves a space. -/
theorem separator_text_ne_unpaired :
    let m : Morph := ⟨['a'], ['a', ' ', 'b'], ⟨.stack, .separator⟩⟩
    (m.run (.ofNat 3)).budget.remaining ≠ 0 ∧ (m.run (.ofNat 3)).text = ['a', ' '] ∧
      ¬∀ o n, LinePair.modification o n ∈ linePairs .stack ['a'] ['a', ' ', 'b'] →
        ∀ front, front <+: Granularity.word.diff (Text.content o) (Text.content n) →
          front.countP Change.isAdded ≤ front.countP Change.isRemoved := by
  intro m
  have left : (m.run (.ofNat 3)).budget.remaining ≠ 0 := by decide +kernel
  have text : (m.run (.ofNat 3)).text = ['a', ' '] := by decide +kernel
  refine ⟨left, text, ?_⟩
  rw [← separator_text_eq_iff ['a'] ['a', ' ', 'b'] .stack left]
  exact ne_of_eq_of_ne text (by decide)

end Morph

end Morphing
