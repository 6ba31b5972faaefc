import Morphing.Proofs.Line.Final

/-!
# Pairs of lines are written in isolation

Candidates are positions in the whole text, but those of a pair of lines lie behind everything that
was written before it, and none of them is left when the next pair begins. So a pair of lines
appends its piece to the text and changes nothing else, and the piece has a line feed only where its
new line ends with one. A morph writes one piece for each kept or added line, in the order of the
diff, and nothing for the removed lines that are left without a partner.
-/

namespace Morphing

namespace LinePair

variable {options : Options} {budget : Nat} {pair : LinePair}

/-- Whether a pair stands for a kept or an added line. -/
def isShown (pair : LinePair) : Bool := pair.change?.isSome

/-- A piece can only end with a line feed, and then it ends like its new line. -/
theorem terminator_isSuffix_of_piece_eq {front back : Text}
    (lines : ∀ l ∈ pair.lines, Text.IsLine l)
    (h : pair.piece options budget = front ++ '\n' :: back) :
    back = [] ∧ ∃ l, pair.new? = some l ∧ Text.terminator l ≠ [] ∧
      Text.terminator l <:+ pair.piece options budget := by
  cases hl : pair.new? with
  | none =>
    rw [piece_of_new?_eq_none hl] at h
    exact absurd h (by simp)
  | some l =>
    obtain hpiece | ⟨s, hs, hpiece⟩ := piece_cases options budget hl lines
    · exact absurd (hpiece.symm.trans h) (by simp)
    · obtain ⟨last, hterm⟩ := Text.append_terminator_eq_append_cons hs (hpiece.symm.trans h)
      exact ⟨last, l, rfl, hterm, hpiece ▸ List.suffix_append s _⟩

end LinePair

section Shown

variable (options : Options)

/-- Removed lines that are left without a partner write nothing, and those behind them do not notice
them. -/
theorem written_filter_isShown (budget : Nat) (pairs : List LinePair) :
    written options budget (pairs.filter LinePair.isShown) = written options budget pairs := by
  induction pairs generalizing budget with
  | nil => rfl
  | cons pair pairs ih =>
    cases pair with
    | unpairedRemoval line => exact ih budget
    | kept line | pureInsertion line | modification old line =>
      exact congrArg (_ ++ ·) (ih _)

theorem filterMap_change?_filter_isShown (pairs : List LinePair) :
    (pairs.filter LinePair.isShown).filterMap LinePair.change? =
      pairs.filterMap LinePair.change? := by
  rw [List.filterMap_filter]
  exact List.filterMap_congr (by rintro (_ | _ | _ | _) _ <;> rfl)

end Shown

namespace Morph

/-- With nothing to be decided about in a draft, a pair of lines of texts is written without sending
a position out of range. It appends a piece that depends on the pair, the options and what is left
of the budget, and leaves nothing to be decided; the piece has no line feed but the one at its end
that the new line ends with. A morph writes such pairs only: its text is made up of the pieces of
those that stand for a kept or an added line, in the order of the diff. -/
theorem pieces_isolated (options : Options) :
    (∀ (pair : LinePair) (d : Draft) (b : Budget), (∀ l ∈ pair.lines, ∃ t, l ∈ Text.lines t) →
      (∀ kind, d.candidates kind = []) →
      (∃ p, pair.write options d b = .ok p ∧
        p.draft.text = d.text ++ pair.piece options b.remaining ∧
        (∀ kind, p.draft.candidates kind = []) ∧
        p.budget = b.spendUpTo (pair.cost options)) ∧
      ∀ front back, pair.piece options b.remaining = front ++ '\n' :: back →
        back = [] ∧ ∃ l, pair.new? = some l ∧ Text.terminator l ≠ [] ∧
          Text.terminator l <:+ pair.piece options b.remaining) ∧
    ∀ (old new : Text) (b : Budget),
      let m : Morph := ⟨old, new, options⟩
      let shown := m.pairs.filter LinePair.isShown
      (∀ pair ∈ m.pairs, ∀ l ∈ pair.lines, ∃ t, l ∈ Text.lines t) ∧
        shown.filterMap LinePair.change? =
          (Granularity.line.diff old new).filter (fun c => !c.isRemoved) ∧
        (m.run b).text = written options b.remaining shown := by
  constructor
  · intro pair d b lines hd
    refine ⟨pair.write_spec options b hd, ?_⟩
    intro front back h
    apply LinePair.terminator_isSuffix_of_piece_eq _ h
    intro l hl
    obtain ⟨t, ht⟩ := lines l hl
    exact Text.isLine_of_mem_lines ht
  · intro old new b m shown
    refine ⟨exists_mem_lines_of_mem_linePairs, ?_, ?_⟩
    · rw [filterMap_change?_filter_isShown]
      exact filterMap_change?_pairLinesWith _ _ _
    · rw [written_filter_isShown, text_run]

/-- Behind another line, one unit leads from `cat` to `ct`. -/
theorem pieces_isolated_cut :
    let d : Draft := Draft.empty.append ['x', '\n']
    let pair : LinePair := .modification ['c', 'a', 't', '\n'] ['c', 'u', 't', '\n']
    (∀ l ∈ pair.lines, ∃ t, l ∈ Text.lines t) ∧ (∀ kind, d.candidates kind = []) ∧
      pair.piece {} 1 = ['c', 't'] ++ '\n' :: [] ∧
      ∃ p, pair.write {} d (.ofNat 1) = .ok p ∧ p.draft.text = ['x', '\n', 'c', 't', '\n'] ∧
        Text.terminator ['c', 'u', 't', '\n'] <:+ ['c', 't', '\n'] := by
  intro d pair
  have lines : ∀ l ∈ pair.lines, ∃ t, l ∈ Text.lines t := by
    intro l hl
    obtain rfl | rfl : l = _ ∨ l = _ := by simpa [pair, LinePair.lines] using hl
    · exact ⟨['c', 'a', 't', '\n'], by decide +kernel⟩
    · exact ⟨['c', 'u', 't', '\n'], by decide +kernel⟩
  have none : ∀ kind, d.candidates kind = [] := by
    intro kind
    cases kind <;> rfl
  have cut : pair.piece {} 1 = ['c', 't'] ++ '\n' :: [] := by decide +kernel
  obtain ⟨⟨p, hwrite, htext, -, -⟩, ends⟩ :=
    (pieces_isolated {}).1 pair d (.ofNat 1) lines none
  obtain ⟨-, l, hl, -, hsuffix⟩ := ends ['c', 't'] [] cut
  cases hl
  rw [Budget.remaining_ofNat, cut] at htext hsuffix
  exact ⟨lines, none, cut, p, hwrite, htext, hsuffix⟩

end Morph

end Morphing
