import Morphing.Proofs.Line.Distance

/-!
# Morphs in progress

`Morph.progress` is how far a morph has come after some of its pairs of lines. No pair stops it, so
the next pair is written where the ones before it have left the draft and the budget: with nothing
to be decided, and with what their distances have left to spend. What it appends is its piece.
-/

namespace Morphing

namespace Morph

/-- How far a morph has come after its first pairs of lines. -/
def progress (m : Morph) (b : Budget) (count : Nat) : Progress :=
  writeAll m.options (m.pairs.take count) ⟨.empty, b, []⟩

/-- The edits that the first pairs of lines of a morph ask for. -/
def distanceBefore (m : Morph) (count : Nat) : Nat :=
  ((m.pairs.take count).map (LinePair.distance m.options)).sum

section Progress

variable (m : Morph) (b : Budget)

theorem distanceBefore_succ {j : Nat} (hj : j < m.pairs.length) :
    m.distanceBefore (j + 1) = m.distanceBefore j + m.pairs[j].distance m.options := by
  rw [distanceBefore, List.take_succ_eq_append_getElem hj, List.map_append, List.sum_append]
  rfl

theorem distanceBefore_length : m.distanceBefore m.pairs.length = m.distance := by
  rw [distanceBefore, List.take_length, distance]

theorem budget_progress (count : Nat) :
    (m.progress b count).budget = b.spendUpTo (m.distanceBefore count) := by
  rw [progress, (writeAll_spec _ [] Draft.candidates_empty).2, totalCost_eq_sum]
  rfl

/-- What the first pairs of lines leave of an amount. -/
theorem remaining_progress (amount count : Nat) :
    (m.progress (.ofNat amount) count).budget.remaining = amount - m.distanceBefore count := by
  rw [budget_progress, Budget.remaining_spendUpTo, Budget.remaining_ofNat]

/-- Where the last pair of lines has led to is where the morph ends. -/
theorem run_eq_progress :
    (m.run b).text = (m.progress b m.pairs.length).draft.text ∧
      (m.run b).budget = (m.progress b m.pairs.length).budget := by
  rw [progress, List.take_length]
  exact ⟨rfl, rfl⟩

/-- Between two pairs of lines, nothing is to be decided. -/
theorem candidates_progress (count : Nat) (kind : Candidate) :
    (m.progress b count).draft.candidates kind = [] :=
  (writeAll_append (m.pairs.take count) [] [] Draft.candidates_empty).2 kind

theorem progress_succ {j : Nat} (hj : j < m.pairs.length) :
    m.progress b (j + 1) = writeAll m.options [m.pairs[j]] (m.progress b j) := by
  rw [progress, List.take_succ_eq_append_getElem hj,
    (writeAll_append _ _ [] Draft.candidates_empty).1]
  rfl

/-- The next pair of lines is written where those before it have led to. -/
theorem write_progress {j : Nat} (hj : j < m.pairs.length) :
    ∃ events, m.pairs[j].write m.options (m.progress b j).draft (m.progress b j).budget =
        .ok ⟨(m.progress b (j + 1)).draft, (m.progress b (j + 1)).budget, events⟩ ∧
      (m.progress b (j + 1)).events = (m.progress b j).events ++ events ∧
      (m.progress b (j + 1)).draft.text =
        (m.progress b j).draft.text ++
          m.pairs[j].piece m.options (m.progress b j).budget.remaining := by
  obtain ⟨q, written, text, _, _⟩ :=
    m.pairs[j].write_spec m.options (m.progress b j).budget (m.candidates_progress b j)
  have next : m.progress b (j + 1) =
      ⟨q.draft, q.budget, (m.progress b j).events ++ q.events⟩ := by
    rw [progress_succ m b hj]
    simp only [writeAll, written]
  rw [next]
  exact ⟨q.events, written, rfl, text⟩

theorem text_progress_succ {j : Nat} (hj : j < m.pairs.length) :
    (m.progress b (j + 1)).draft.text =
      (m.progress b j).draft.text ++
        m.pairs[j].piece m.options (m.progress b j).budget.remaining := by
  obtain ⟨_, _, _, text⟩ := m.write_progress b hj
  exact text

end Progress

end Morph

end Morphing
