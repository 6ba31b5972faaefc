import Morphing.Proofs.Line.Pairing
import Morphing.Proofs.Line.Write
import Morphing.Proofs.Token.Pairing

/-!
# Affordable lines

A pair of lines that can pay for all it wants writes the same piece with every larger budget, its
full piece. To begin an added line at all, a budget must not be exhausted, even if there is nothing
to type. So a morph with budget left over has written every piece in full.

In reconcile mode the full piece of a pair is its new line.
-/

namespace Morphing

namespace LinePair

/-- Whether this budget pays for all that a pair of lines wants. -/
def Affordable (options : Options) (budget : Nat) : LinePair → Prop
  | kept _ | unpairedRemoval _ => True
  | pureInsertion line => 0 < budget ∧ (Text.content line).length ≤ budget
  | modification old new => (modification old new).cost options ≤ budget

/-- What a pair of lines writes when it can pay for all it wants. -/
def full (options : Options) : LinePair → Text
  | kept line | pureInsertion line => line
  | unpairedRemoval _ => []
  | modification old new =>
    (changes options old new).filterMap Change.new? ++ Text.terminator new

variable {options : Options} {budget budget' : Nat} {pair : LinePair}

theorem Affordable.mono (h : pair.Affordable options budget) (hle : budget ≤ budget') :
    pair.Affordable options budget' := by
  cases pair with
  | kept line | unpairedRemoval line => trivial
  | pureInsertion line => exact ⟨Nat.lt_of_lt_of_le h.1 hle, Nat.le_trans h.2 hle⟩
  | modification old new => exact Nat.le_trans h hle

theorem affordable_of_lt (h : pair.cost options < budget) : pair.Affordable options budget := by
  cases pair with
  | kept line | unpairedRemoval line => trivial
  | pureInsertion line => exact ⟨Nat.zero_lt_of_lt h, Nat.le_of_lt h⟩
  | modification old new => exact Nat.le_of_lt h

theorem Affordable.cost_le (h : pair.Affordable options budget) : pair.cost options ≤ budget := by
  cases pair with
  | kept line | unpairedRemoval line => exact Nat.zero_le budget
  | pureInsertion line => exact h.2
  | modification old new => exact h

theorem Affordable.piece_eq (h : pair.Affordable options budget) :
    pair.piece options budget = pair.full options := by
  cases pair with
  | kept line | unpairedRemoval line => rfl
  | pureInsertion line =>
    obtain ⟨hpos, hle⟩ := h
    rw [piece, if_neg (Nat.ne_of_gt hpos), List.take_of_length_le hle,
      Text.content_append_terminator]
    rfl
  | modification old new =>
    have hcost : (changes options old new).countP Change.isRemoved +
        (changes options old new).countP Change.isAdded ≤ budget := h
    rw [piece, settled_of_le (by omega) (by omega)]
    rfl

/-- In reconcile mode, the full piece is the new line. -/
theorem full_reconcile (pairing : LinePairing) (pair : LinePair) :
    pair.full ⟨pairing, .reconcile⟩ = (pair.new?).toList.flatten := by
  cases pair with
  | kept line | pureInsertion line => exact (List.append_nil line).symm
  | unpairedRemoval line => rfl
  | modification old new =>
    rw [full, changes, (superposition_reconcile _ _).2, Text.content_append_terminator]
    exact (List.append_nil new).symm

end LinePair

/-- Whether this budget pays for all that pairs of lines want in turn. -/
def AllAffordable (options : Options) : (budget : Nat) → List LinePair → Prop
  | _, [] => True
  | budget, pair :: pairs =>
    pair.Affordable options budget ∧ AllAffordable options (budget - pair.cost options) pairs

section Lists

variable {options : Options} {pairs : List LinePair} {budget budget' : Nat}

theorem AllAffordable.mono (h : AllAffordable options budget pairs) (hle : budget ≤ budget') :
    AllAffordable options budget' pairs := by
  induction pairs generalizing budget budget' with
  | nil => trivial
  | cons pair pairs ih =>
    obtain ⟨hpair, hpairs⟩ := h
    constructor
    · exact hpair.mono hle
    · exact ih hpairs (Nat.sub_le_sub_right hle _)

theorem allAffordable_of_lt (h : totalCost options pairs < budget) :
    AllAffordable options budget pairs := by
  induction pairs generalizing budget with
  | nil => trivial
  | cons pair pairs ih =>
    rw [totalCost] at h
    constructor
    · exact LinePair.affordable_of_lt (by omega)
    · exact ih (by omega)

theorem AllAffordable.totalCost_le (h : AllAffordable options budget pairs) :
    totalCost options pairs ≤ budget := by
  induction pairs generalizing budget with
  | nil => exact Nat.zero_le budget
  | cons pair pairs ih =>
    have first := h.1.cost_le
    have others := ih h.2
    rw [totalCost]
    omega

/-- What can be paid for is written in full, whatever is left over. -/
theorem AllAffordable.written_eq (h : AllAffordable options budget pairs) :
    written options budget pairs = pairs.flatMap (LinePair.full options) := by
  induction pairs generalizing budget with
  | nil => rfl
  | cons pair pairs ih =>
    rw [written, h.1.piece_eq, ih h.2, List.flatMap_cons]

theorem flatMap_new? (pairs : List LinePair) :
    (pairs.flatMap fun pair => (pair.new?).toList.flatten) =
      (pairs.filterMap LinePair.new?).flatten := by
  induction pairs with
  | nil => rfl
  | cons pair pairs ih =>
    rw [List.flatMap_cons, ih, List.filterMap_cons]
    cases pair.new? with
    | none => rfl
    | some line => simp

theorem flatMap_full_reconcile (pairing : LinePairing) (pairs : List LinePair) :
    pairs.flatMap (LinePair.full ⟨pairing, .reconcile⟩) =
      (pairs.filterMap LinePair.new?).flatten := by
  rw [← flatMap_new?]
  exact List.flatMap_congr fun pair _ => LinePair.full_reconcile pairing pair

end Lists

end Morphing
