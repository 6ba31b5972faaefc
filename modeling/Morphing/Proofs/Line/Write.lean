import Morphing.Morph
import Morphing.Proofs.Draft.Settle

/-!
# What pairs of lines write

With nothing left to be decided in a draft, a pair of lines always appends a piece of text and
leaves nothing to be decided. The piece depends on the pair, the options and what is left of the
budget, and the spending on the cost of the pair. So a morph never stops early: its text is a
concatenation of pieces, where each pair finds what those before it have left of the budget.
-/

namespace Morphing

namespace LinePair

/-- What becomes of the characters of a modified line. -/
def changes (options : Options) (old new : Text) : List (Change Char) :=
  superposition options.unpairedTokens (Text.content old) (Text.content new)

/-- The most that a pair of lines can spend. -/
def cost (options : Options) : LinePair → Nat
  | kept _ | unpairedRemoval _ => 0
  | pureInsertion line => (Text.content line).length
  | modification old new =>
    (changes options old new).countP Change.isRemoved +
      (changes options old new).countP Change.isAdded

/-- What a pair of lines writes when this much of the budget is left. -/
def piece (options : Options) (budget : Nat) : LinePair → Text
  | kept line => line
  | unpairedRemoval _ => []
  | pureInsertion line =>
    if budget = 0 then [] else (Text.content line).take budget ++ Text.terminator line
  | modification old new =>
    settled budget (budget - (changes options old new).countP Change.isRemoved)
      (changes options old new) ++ Text.terminator new

end LinePair

namespace LinePair

variable {options : Options} {d : Draft} {b : Budget}

theorem typeLine_spec (options : Options) (line : Text) (d : Draft) (b : Budget) :
    (typeLine line d b).1.text = d.text ++ (pureInsertion line).piece options b.remaining ∧
      (∀ kind, (typeLine line d b).1.candidates kind = d.candidates kind) ∧
      (typeLine line d b).2 = b.spendUpTo ((pureInsertion line).cost options) := by
  by_cases hb : b.remaining = 0
  · have exhausted : b.isExhausted = true := b.isExhausted_iff.mpr hb
    simp only [typeLine, exhausted, if_true, piece, hb]
    exact ⟨by simp, by simp, (Budget.spendUpTo_of_exhausted hb _).symm⟩
  · have more : ¬b.isExhausted = true := by
      rw [b.isExhausted_iff]
      exact hb
    have taken : (Text.content line).take (b.granted (Text.content line).length) =
        (Text.content line).take b.remaining := by
      rw [Budget.granted, Nat.min_comm, ← List.take_take, List.take_length]
    simp only [typeLine, more, if_false, piece, hb, taken]
    exact ⟨by simp, by simp, rfl⟩

theorem rewriteLine_spec (old new : Text) (hd : ∀ kind, d.candidates kind = []) :
    ∃ p, rewriteLine options.unpairedTokens old new d b = .ok p ∧
      p.draft.text = d.text ++ (modification old new).piece options b.remaining ∧
      (∀ kind, p.draft.candidates kind = []) ∧
      p.budget = b.spendUpTo ((modification old new).cost options) := by
  have merged := (Draft.Superposes.of_no_candidates hd).merge options.unpairedTokens
    (Text.content old) (Text.content new)
  obtain ⟨d', hsettle, htext, hd'⟩ := merged.settle_spec b
  simp only [List.countP_append, countP_isRemoved_map_kept, countP_isAdded_map_kept, Nat.zero_add,
    settled_map_kept_append] at hsettle htext
  refine ⟨_, by simp only [rewriteLine, bind, Except.bind, hsettle]; rfl, ?_, ?_, rfl⟩
  · simp only [Draft.text_append, htext, List.append_assoc]
    rfl
  · intro kind
    rw [Draft.candidates_append, hd']

/-- With nothing to be decided about, a pair of lines appends its piece, at its cost. -/
theorem write_spec (pair : LinePair) (options : Options) (b : Budget)
    (hd : ∀ kind, d.candidates kind = []) :
    ∃ p, pair.write options d b = .ok p ∧
      p.draft.text = d.text ++ pair.piece options b.remaining ∧
      (∀ kind, p.draft.candidates kind = []) ∧
      p.budget = b.spendUpTo (pair.cost options) := by
  cases pair with
  | kept line =>
    refine ⟨_, rfl, Draft.text_append d line, ?_, (Budget.spendUpTo_zero b).symm⟩
    intro kind
    rw [Draft.candidates_append, hd]
  | unpairedRemoval line =>
    exact ⟨_, rfl, (List.append_nil _).symm, hd, (Budget.spendUpTo_zero b).symm⟩
  | pureInsertion line =>
    obtain ⟨htext, hcandidates, hbudget⟩ := typeLine_spec options line d b
    refine ⟨_, rfl, htext, ?_, hbudget⟩
    intro kind
    exact (hcandidates kind).trans (hd kind)
  | modification old new => exact rewriteLine_spec old new hd

end LinePair

/-- What pairs of lines write in turn. -/
def written (options : Options) : (budget : Nat) → List LinePair → Text
  | _, [] => []
  | budget, pair :: pairs =>
    pair.piece options budget ++ written options (budget - pair.cost options) pairs

/-- The most that pairs of lines can spend. -/
def totalCost (options : Options) : List LinePair → Nat
  | [] => 0
  | pair :: pairs => pair.cost options + totalCost options pairs

section Kept

variable (options : Options) (kept : List Text) (pairs : List LinePair)

theorem written_map_kept_append (budget : Nat) :
    written options budget (kept.map .kept ++ pairs) =
      kept.flatten ++ written options budget pairs := by
  induction kept with
  | nil => rfl
  | cons line kept ih =>
    rw [List.map_cons, List.cons_append, written, List.flatten_cons, List.append_assoc]
    exact congrArg (line ++ ·) ih

theorem totalCost_map_kept_append :
    totalCost options (kept.map .kept ++ pairs) = totalCost options pairs := by
  induction kept with
  | nil => rfl
  | cons line kept ih => exact (Nat.zero_add _).trans ih

end Kept

namespace Morph

theorem writeAll_spec {options : Options} (pairs : List LinePair) {d : Draft} {b : Budget}
    (events : List Event) (hd : ∀ kind, d.candidates kind = []) :
    (writeAll options pairs ⟨d, b, events⟩).draft.text =
        d.text ++ written options b.remaining pairs ∧
      (writeAll options pairs ⟨d, b, events⟩).budget = b.spendUpTo (totalCost options pairs) := by
  induction pairs generalizing d b events with
  | nil => exact ⟨(List.append_nil _).symm, (Budget.spendUpTo_zero b).symm⟩
  | cons pair pairs ih =>
    obtain ⟨p, hwrite, htext, hp, hbudget⟩ := pair.write_spec options b hd
    obtain ⟨htexts, hbudgets⟩ := ih (events ++ p.events) hp
    simp only [writeAll, hwrite]
    constructor
    · rw [htexts, htext, hbudget, Budget.remaining_spendUpTo, List.append_assoc]
      rfl
    · rw [hbudgets, hbudget, Budget.spendUpTo_spendUpTo]
      rfl

/-- Pairs of lines can be written in two goes, with nothing to be decided in between. -/
theorem writeAll_append {options : Options} (before after : List LinePair) {d : Draft} {b : Budget}
    (events : List Event) (hd : ∀ kind, d.candidates kind = []) :
    writeAll options (before ++ after) ⟨d, b, events⟩ =
        writeAll options after (writeAll options before ⟨d, b, events⟩) ∧
      ∀ kind, (writeAll options before ⟨d, b, events⟩).draft.candidates kind = [] := by
  induction before generalizing d b events with
  | nil => exact ⟨rfl, hd⟩
  | cons pair before ih =>
    obtain ⟨p, hwrite, _, hp, _⟩ := pair.write_spec options b hd
    have later := ih (b := p.budget) (events ++ p.events) hp
    simpa only [List.cons_append, writeAll, hwrite] using later

/-- The text of a morph is what its pairs of lines write. -/
theorem text_run (m : Morph) (b : Budget) :
    (m.run b).text = written m.options b.remaining m.pairs :=
  (writeAll_spec m.pairs [] Draft.candidates_empty).1

theorem budget_run (m : Morph) (b : Budget) :
    (m.run b).budget = b.spendUpTo (totalCost m.options m.pairs) :=
  (writeAll_spec m.pairs [] Draft.candidates_empty).2

end Morph

end Morphing
