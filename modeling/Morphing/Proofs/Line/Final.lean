import Morphing.Proofs.Line.Affordable
import Morphing.Proofs.Token.Reconcile

/-!
# Lines that read like the new ones

A pair of lines writes its new line only if it can pay for all it wants. Since every piece ends like
its new line and has no other line feed, or is empty, the pieces of several pairs read like the new
lines together only if each of them reads like its own: the line feeds fall short if one is left
out.
-/

namespace Morphing

theorem exists_mem_of_mem_settled {struck confirmed : Nat} {cs : List (Change α)} {a : α}
    (h : a ∈ settled struck confirmed cs) : ∃ c ∈ cs, c.item = a := by
  induction cs with
  | nil => cases h
  | cons c cs ih =>
    have later : a ∈ settled struck confirmed cs → ∃ d ∈ c :: cs, d.item = a := by
      intro ha
      obtain ⟨d, hd, hitem⟩ := ih ha
      exact ⟨d, List.mem_cons_of_mem c hd, hitem⟩
    cases c with
    | kept b =>
      obtain rfl | h := List.mem_cons.mp h
      · exact ⟨_, List.mem_cons_self, rfl⟩
      · exact later h
    | removed b | added b =>
      rw [settled] at h
      split at h
      all_goals first
        | exact later h
        | obtain rfl | h := List.mem_cons.mp h
          · exact ⟨_, List.mem_cons_self, rfl⟩
          · exact later h

namespace LinePair

variable {options : Options} {budget : Nat} {pair : LinePair} {l : Text}

/-- A piece is empty, or has its only line feed where the new line has it. -/
theorem piece_cases (options : Options) (budget : Nat) (hl : pair.new? = some l)
    (lines : ∀ x ∈ pair.lines, Text.IsLine x) : pair.piece options budget = [] ∨
      ∃ s, '\n' ∉ s ∧ pair.piece options budget = s ++ Text.terminator l := by
  cases pair with
  | unpairedRemoval line => cases hl
  | kept line =>
    cases hl
    exact .inr ⟨Text.content l, (lines l List.mem_cons_self).notMem_content,
      (Text.content_append_terminator l).symm⟩
  | pureInsertion line =>
    cases hl
    rw [piece]
    split
    · exact .inl rfl
    · refine .inr ⟨_, ?_, rfl⟩
      intro hmem
      exact (lines l List.mem_cons_self).notMem_content (List.mem_of_mem_take hmem)
  | modification old new =>
    cases hl
    refine .inr ⟨_, ?_, rfl⟩
    intro hmem
    obtain ⟨c, hc, hitem⟩ := exists_mem_of_mem_settled hmem
    obtain hmem | hmem | hspace := item_mem_of_mem_superposition hc
    · exact (lines old (by simp [LinePair.lines])).notMem_content (hitem ▸ hmem)
    · exact (lines l (by simp [LinePair.lines])).notMem_content (hitem ▸ hmem)
    · exact absurd (hitem.symm.trans hspace) (by decide)

theorem count_piece_le (hl : pair.new? = some l) (lines : ∀ x ∈ pair.lines, Text.IsLine x)
    (hline : Text.IsLine l) : (pair.piece options budget).count '\n' ≤ l.count '\n' := by
  obtain hpiece | ⟨s, hs, hpiece⟩ := piece_cases options budget hl lines
  · rw [hpiece]
    exact Nat.zero_le _
  · rw [hpiece, List.count_append, List.count_eq_zero_of_not_mem hs, Nat.zero_add, hline.count]

theorem piece_of_new?_eq_none (hl : pair.new? = none) : pair.piece options budget = [] := by
  cases pair with
  | unpairedRemoval line => rfl
  | kept line | pureInsertion line | modification old line => cases hl

/-- A pair of lines writes its new line only if it can pay for all it wants. -/
theorem affordable_of_piece_eq (hl : pair.new? = some l) (hne : l ≠ [])
    (h : pair.piece options budget = l) : pair.Affordable options budget := by
  cases pair with
  | kept line | unpairedRemoval line => trivial
  | pureInsertion line =>
    cases hl
    rw [piece] at h
    split at h
    · exact absurd h.symm hne
    next hb =>
      have typed := List.append_cancel_right (h.trans (Text.content_append_terminator l).symm)
      have length := congrArg List.length typed
      rw [List.length_take] at length
      exact ⟨Nat.pos_of_ne_zero hb, by omega⟩
  | modification old new =>
    cases hl
    rw [piece] at h
    exact cost_le_of_settled_eq
      (List.append_cancel_right (h.trans (Text.content_append_terminator l).symm))

theorem isLine_of_new?_eq_some (hl : pair.new? = some l)
    (lines : ∀ x ∈ pair.lines, Text.IsLine x) : Text.IsLine l := by
  cases pair with
  | unpairedRemoval line => cases hl
  | kept line | pureInsertion line | modification old line =>
    cases hl
    exact lines l (by simp [LinePair.lines])

end LinePair

section Lists

variable {options : Options} {budget : Nat} {pairs : List LinePair}

theorem count_written_le (options : Options) (budget : Nat)
    (lines : ∀ pair ∈ pairs, ∀ l ∈ pair.lines, Text.IsLine l) :
    (written options budget pairs).count '\n' ≤
      (pairs.filterMap LinePair.new?).flatten.count '\n' := by
  induction pairs generalizing budget with
  | nil => exact Nat.le_refl 0
  | cons pair pairs ih =>
    obtain ⟨hpair, hpairs⟩ := List.forall_mem_cons.mp lines
    have later := ih (budget - pair.cost options) hpairs
    rw [written, List.count_append]
    cases hl : pair.new? with
    | none =>
      rw [LinePair.piece_of_new?_eq_none hl, List.filterMap_cons_none hl, List.count_nil,
        Nat.zero_add]
      exact later
    | some l =>
      rw [List.filterMap_cons_some hl, List.flatten_cons, List.count_append]
      exact Nat.add_le_add
        (LinePair.count_piece_le hl hpair (LinePair.isLine_of_new?_eq_some hl hpair)) later

theorem written_of_no_lines (h : pairs.filterMap LinePair.new? = []) :
    written options budget pairs = [] := by
  induction pairs generalizing budget with
  | nil => rfl
  | cons pair pairs ih =>
    obtain ⟨hl, hpairs⟩ := List.forall_mem_cons.mp (List.filterMap_eq_nil_iff.mp h)
    rw [written, LinePair.piece_of_new?_eq_none hl, ih (List.filterMap_eq_nil_iff.mpr hpairs)]
    rfl

/-- If pairs of lines read like their new lines, the first of them reads like its own. -/
theorem piece_eq_of_written_eq {pair : LinePair} {l : Text} (hl : pair.new? = some l)
    (lines : ∀ p ∈ pair :: pairs, ∀ x ∈ p.lines, Text.IsLine x)
    (ends : ∀ l' ∈ pairs.filterMap LinePair.new?, Text.terminator l ≠ [])
    (h : written options budget (pair :: pairs) =
      l ++ (pairs.filterMap LinePair.new?).flatten) :
    pair.piece options budget = l ∧
      written options (budget - pair.cost options) pairs =
        (pairs.filterMap LinePair.new?).flatten := by
  obtain ⟨hpair, hpairs⟩ := List.forall_mem_cons.mp lines
  have hline := LinePair.isLine_of_new?_eq_some hl hpair
  rw [written] at h
  by_cases hterm : Text.terminator l = []
  · have none : pairs.filterMap LinePair.new? = [] :=
      List.eq_nil_iff_forall_not_mem.mpr fun l' hl' => ends l' hl' hterm
    rw [none, written_of_no_lines none] at h ⊢
    exact ⟨by simpa using h, rfl⟩
  · obtain hpiece | ⟨s, hs, hpiece⟩ := LinePair.piece_cases options budget hl hpair
    · -- A line feed would be missing.
      have counts := congrArg (List.count '\n') h
      have most := count_written_le options (budget - pair.cost options) hpairs
      rw [hpiece, List.nil_append, List.count_append, hline.count, Text.count_terminator,
        if_neg hterm] at counts
      omega
    · rw [hpiece]
      conv at h => rhs; rw [← Text.content_append_terminator l]
      rw [hpiece] at h
      obtain ⟨rfl, hrest⟩ := Text.terminated_unique hterm hs hline.notMem_content h
      exact ⟨Text.content_append_terminator l, hrest⟩

/-- Pairs of lines that read like their new lines can pay for all they want. -/
theorem allAffordable_of_written_eq (lines : ∀ pair ∈ pairs, ∀ l ∈ pair.lines, Text.IsLine l)
    (ends : (pairs.filterMap LinePair.new?).Pairwise fun l _ => Text.terminator l ≠ [])
    (h : written options budget pairs = (pairs.filterMap LinePair.new?).flatten) :
    AllAffordable options budget pairs := by
  induction pairs generalizing budget with
  | nil => trivial
  | cons pair pairs ih =>
    obtain ⟨hpair, hpairs⟩ := List.forall_mem_cons.mp lines
    cases hl : pair.new? with
    | none =>
      rw [List.filterMap_cons_none hl] at h ends
      rw [written, LinePair.piece_of_new?_eq_none hl, List.nil_append] at h
      refine ⟨?_, ih hpairs ends h⟩
      cases pair with
      | unpairedRemoval line => trivial
      | kept line | pureInsertion line | modification old line => cases hl
    | some l =>
      rw [List.filterMap_cons_some hl] at h ends
      obtain ⟨hends, ends⟩ := List.pairwise_cons.mp ends
      obtain ⟨hpiece, hrest⟩ := piece_eq_of_written_eq hl lines hends h
      have hline := LinePair.isLine_of_new?_eq_some hl hpair
      exact ⟨LinePair.affordable_of_piece_eq hl hline.ne_nil hpiece, ih hpairs ends hrest⟩

end Lists

end Morphing
