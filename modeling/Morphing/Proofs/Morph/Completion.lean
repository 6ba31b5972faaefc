import Morphing.Frame
import Morphing.Proofs.Line.Affordable

/-!
# Complete frames in reconcile mode

A morph that has budget left over has written every pair of lines in full. In reconcile mode these
are the new lines in their order, so the text is the new text, and a frame is complete exactly if it
shows it.
-/

namespace Morphing

namespace Morph

variable {m : Morph} {b : Budget}

theorem allAffordable_of_remaining (h : (m.run b).budget.remaining ≠ 0) :
    AllAffordable m.options b.remaining m.pairs := by
  rw [budget_run, Budget.remaining_spendUpTo] at h
  exact allAffordable_of_lt (Nat.lt_of_sub_ne_zero h)

theorem text_run_of_allAffordable (h : AllAffordable m.options b.remaining m.pairs) :
    (m.run b).text = m.pairs.flatMap (LinePair.full m.options) := by
  rw [text_run, h.written_eq]

theorem flatMap_full_pairs (old new : Text) (pairing : LinePairing) :
    (Morph.mk old new ⟨pairing, .reconcile⟩).pairs.flatMap
      (LinePair.full ⟨pairing, .reconcile⟩) = new := by
  rw [flatMap_full_reconcile, pairs, filterMap_new?_linePairs, Text.flatten_lines]

/-- A frame is complete if budget is left over or the new text is reached. -/
theorem complete_frameAt (m : Morph) (amount : Nat) :
    (m.frameAt amount).complete = true ↔
      (m.run (.ofNat amount)).budget.remaining ≠ 0 ∨ (m.frameAt amount).text = m.new := by
  simp [frameAt, Budget.isExhausted]

/-- In reconcile mode, a frame is complete exactly if it shows the new text, and left over budget
means that it does. -/
theorem reconcile_complete_iff (old new : Text) (pairing : LinePairing) :
    (∀ amount, ((Morph.mk old new ⟨pairing, .reconcile⟩).frameAt amount).complete = true ↔
      ((Morph.mk old new ⟨pairing, .reconcile⟩).frameAt amount).text = new) ∧
    ∀ b, ((Morph.mk old new ⟨pairing, .reconcile⟩).run b).budget.remaining ≠ 0 →
      ((Morph.mk old new ⟨pairing, .reconcile⟩).run b).text = new := by
  have reached : ∀ b, ((Morph.mk old new ⟨pairing, .reconcile⟩).run b).budget.remaining ≠ 0 →
      ((Morph.mk old new ⟨pairing, .reconcile⟩).run b).text = new := by
    intro b hb
    rw [text_run_of_allAffordable (allAffordable_of_remaining hb)]
    exact flatMap_full_pairs old new pairing
  refine ⟨?_, reached⟩
  intro amount
  rw [complete_frameAt]
  constructor
  · rintro (hleft | hsame)
    · exact reached _ hleft
    · exact hsame
  · intro hsame
    exact .inr hsame

end Morph

end Morphing
