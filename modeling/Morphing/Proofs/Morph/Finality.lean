import Morphing.Proofs.Line.Final
import Morphing.Proofs.Morph.Completion

/-!
# Complete frames are final

A frame is complete if budget is left over or if it shows the new text. Either way the morph has
paid for all that its pairs of lines want: in the first case since the budget was larger, in the
second since half-written lines never read like the new ones. With a more generous budget the same
pieces are written and the same amount is spent, so a complete frame is the last one that shows
anything new.
-/

namespace Morphing

namespace Morph

/-- A morph whose text is the new text has paid for everything. -/
theorem allAffordable_of_text_eq {m : Morph} {b : Budget} (h : (m.run b).text = m.new) :
    AllAffordable m.options b.remaining m.pairs := by
  have lines := filterMap_new?_linePairs m.options.linePairing m.old m.new
  have ends : (m.pairs.filterMap LinePair.new?).Pairwise fun l _ => Text.terminator l ≠ [] := by
    rw [pairs, lines]
    exact Text.pairwise_lines m.new
  refine allAffordable_of_written_eq isLine_of_mem_linePairs ends ?_
  rw [← text_run, h, pairs, lines, Text.flatten_lines]

theorem allAffordable_of_complete {m : Morph} {amount : Nat}
    (h : (m.frameAt amount).complete = true) : AllAffordable m.options amount m.pairs := by
  obtain hleft | hsame := (m.complete_frameAt amount).mp h
  · exact allAffordable_of_remaining hleft
  · exact allAffordable_of_text_eq (b := .ofNat amount) hsame

/-- A complete frame is final: with every larger budget the frame is complete, has the same text and
spends the same amount. -/
theorem frameAt_final (m : Morph) {amount amount' : Nat} (hle : amount ≤ amount')
    (h : (m.frameAt amount).complete = true) :
    (m.frameAt amount').complete = true ∧ (m.frameAt amount').text = (m.frameAt amount).text ∧
      (m.frameAt amount').budget - (m.frameAt amount').remaining =
        (m.frameAt amount).budget - (m.frameAt amount).remaining := by
  have paid := allAffordable_of_complete h
  have paid' := paid.mono hle
  have cost := paid.totalCost_le
  have remaining : ∀ n, (m.frameAt n).remaining = n - totalCost m.options m.pairs := by
    intro n
    rw [frameAt, budget_run, Budget.remaining_spendUpTo, Budget.remaining_ofNat]
  have text : (m.frameAt amount').text = (m.frameAt amount).text := by
    have short := text_run_of_allAffordable (b := .ofNat amount) paid
    have long := text_run_of_allAffordable (b := .ofNat amount') paid'
    exact long.trans short.symm
  refine ⟨?_, text, ?_⟩
  · rw [complete_frameAt] at h ⊢
    obtain hleft | hsame := h
    · left
      rw [budget_run, Budget.remaining_spendUpTo, Budget.remaining_ofNat] at hleft ⊢
      omega
    · right
      rw [text, hsame]
  · rw [remaining, remaining]
    show amount' - (amount' - _) = amount - (amount - _)
    omega

/-- Two units lead from `cat` to `cut` and leave none, and the next frame shows nothing else. -/
theorem frameAt_final_cut : 2 ≤ 3 ∧
    ((Morph.mk ['c', 'a', 't'] ['c', 'u', 't'] {}).frameAt 2).complete = true ∧
    ((Morph.mk ['c', 'a', 't'] ['c', 'u', 't'] {}).frameAt 3).text =
      ((Morph.mk ['c', 'a', 't'] ['c', 'u', 't'] {}).frameAt 2).text := by
  have complete : ((Morph.mk ['c', 'a', 't'] ['c', 'u', 't'] {}).frameAt 2).complete = true := by
    decide +kernel
  exact ⟨by decide, complete, (frameAt_final _ (by decide) complete).2.1⟩

end Morph

end Morphing
