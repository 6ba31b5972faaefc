import Morphing.Proofs.Diff.Shape
import Morphing.Proofs.Line.Pairing
import Morphing.Proofs.Line.Write

/-!
# Common lines pass through

Lines that two texts begin with are kept by their diff, and the lines behind them are aligned as if
there were none. Kept lines in front of all others leave nothing waiting and cost nothing. So a
morph copies them and goes on as the morph between what follows, with the whole budget. Between two
equal texts nothing is left to do at all.
-/

namespace Morphing

theorem linePairs_append_left (pairing : LinePairing) {common : Text}
    (h : common = [] ∨ common.getLast? = some '\n') (old new : Text) :
    linePairs pairing (common ++ old) (common ++ new) =
      (Text.lines common).map .kept ++ linePairs pairing old new := by
  have lines : Granularity.line.diff (common ++ old) (common ++ new) =
      (Text.lines common).map .kept ++ Granularity.line.diff old new := by
    simp only [Granularity.diff, Granularity.split, Text.lines_append h]
    exact diff_append_left _ _ _
  rw [linePairs, lines, pairLines_map_kept_append, linePairs]

theorem linePairs_self (pairing : LinePairing) (t : Text) :
    linePairs pairing t t = (Text.lines t).map .kept := by
  have lines : Granularity.line.diff t t = (Text.lines t).map .kept ++ [] := by
    rw [List.append_nil]
    exact diff_self _
  rw [linePairs, lines, pairLines_map_kept_append]
  exact List.append_nil _

namespace Morph

/-- A morph copies the whole lines that both texts begin with, and then leads from the rest of the
old text to the rest of the new one at the same expense. A text is led to itself for free. -/
theorem run_common_lines (options : Options) (b : Budget) :
    (∀ common old new : Text, common = [] ∨ common.getLast? = some '\n' →
      ((Morph.mk (common ++ old) (common ++ new) options).run b).text =
        common ++ ((Morph.mk old new options).run b).text ∧
      ((Morph.mk (common ++ old) (common ++ new) options).run b).budget =
        ((Morph.mk old new options).run b).budget) ∧
    ∀ t : Text, ((Morph.mk t t options).run b).text = t ∧
      ((Morph.mk t t options).run b).budget = b := by
  constructor
  · intro common old new whole
    rw [text_run, text_run, budget_run, budget_run, pairs, pairs,
      linePairs_append_left _ whole, written_map_kept_append, totalCost_map_kept_append,
      Text.flatten_lines]
    exact ⟨rfl, rfl⟩
  · intro t
    have kept := List.append_nil ((Text.lines t).map LinePair.kept)
    rw [text_run, budget_run, pairs, linePairs_self, ← kept, written_map_kept_append,
      totalCost_map_kept_append, Text.flatten_lines]
    exact ⟨List.append_nil t, b.spendUpTo_zero⟩

/-- From `a, x` to `a, y`, the unit goes to the second line. -/
theorem run_common_lines_second :
    (['a', '\n'] = [] ∨ ['a', '\n'].getLast? = some '\n') ∧
      ((Morph.mk ['a', '\n', 'x'] ['a', '\n', 'y'] {}).run (.ofNat 1)).text = ['a', '\n'] := by
  have whole : ['a', '\n'] = [] ∨ ['a', '\n'].getLast? = some '\n' := .inr rfl
  obtain ⟨text, _⟩ := (run_common_lines {} (.ofNat 1)).1 ['a', '\n'] ['x'] ['y'] whole
  have rest : ((Morph.mk ['x'] ['y'] {}).run (.ofNat 1)).text = [] := by decide +kernel
  rw [rest] at text
  exact ⟨whole, text⟩

end Morph

end Morphing
