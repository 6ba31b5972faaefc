import Mathlib.Algebra.Ring.Nat
import Morphing.Budget

/-!
# Spending

Spending up to an amount adds up: in two steps it comes to the same as in one. A single unit, where
one is left, is a special case. So a sequence of spendings comes to their sum, and nothing is gained
or lost by it: what is left and what is spent make up the amount.

For this reason counters in machine words, whose arithmetic wraps around, never do so.
-/

namespace Morphing

namespace Budget

theorem ext {b c : Budget} (hr : b.remaining = c.remaining) (hs : b.spent = c.spent) : b = c := by
  cases b
  cases c
  cases hr
  cases hs
  rfl

/-- Spending twice is spending the sum. -/
@[simp] theorem spendUpTo_spendUpTo (b : Budget) (m n : Nat) :
    (b.spendUpTo m).spendUpTo n = b.spendUpTo (m + n) := by
  apply ext
  · simp only [remaining_spendUpTo]
    omega
  · simp only [spent_spendUpTo, remaining_spendUpTo]
    omega

theorem spendUpTo_of_exhausted {b : Budget} (h : b.remaining = 0) (n : Nat) :
    b.spendUpTo n = b := by
  apply ext
  · rw [remaining_spendUpTo, h, Nat.zero_sub]
  · rw [spent_spendUpTo, h, Nat.min_zero, Nat.add_zero]

@[simp] theorem spendUpTo_zero (b : Budget) : b.spendUpTo 0 = b := by
  apply ext
  · rw [remaining_spendUpTo, Nat.sub_zero]
  · rw [spent_spendUpTo, Nat.zero_min, Nat.add_zero]

/-- To spend one unit that is left is to spend up to one. -/
theorem spend?_of_pos {b : Budget} (h : 0 < b.remaining) : b.spend? = some (b.spendUpTo 1) := by
  have left : b.spend? ≠ none := by
    intro none
    exact Nat.ne_of_gt h (spend?_eq_none_iff.mp none)
  obtain ⟨c, hc⟩ := Option.ne_none_iff_exists'.mp left
  have same : c = b.spendUpTo 1 := by
    obtain ⟨hr, hs⟩ := spend?_eq_some hc
    apply ext
    · rw [remaining_spendUpTo]
      omega
    · rw [spent_spendUpTo, hs]
      omega
  rw [hc, same]

end Budget

/-- A way to spend: one unit, if one is left, or up to a number of them. -/
inductive Spending where
  | one
  | upTo (wanted : Nat)
deriving DecidableEq, Repr

namespace Spending

/-- The number of units that are asked for. -/
def demand : Spending → Nat
  | one => 1
  | upTo wanted => wanted

/-- Spend what is asked for and left. -/
def apply (b : Budget) : Spending → Budget
  | one => b.spend?.getD b
  | upTo wanted => b.spendUpTo wanted

theorem apply_eq (b : Budget) (s : Spending) : s.apply b = b.spendUpTo s.demand := by
  cases s with
  | upTo wanted => rfl
  | one =>
    obtain none | left := Nat.eq_zero_or_pos b.remaining
    · rw [apply, Budget.spend?_eq_none_iff.mpr none, Budget.spendUpTo_of_exhausted none]
      rfl
    · rw [apply, Budget.spend?_of_pos left]
      rfl

/-- Spendings come to their sum. -/
theorem foldl_apply (spendings : List Spending) (b : Budget) :
    spendings.foldl apply b = b.spendUpTo (spendings.map demand).sum := by
  induction spendings generalizing b with
  | nil => exact b.spendUpTo_zero.symm
  | cons s spendings ih =>
    rw [List.foldl_cons, ih, apply_eq, Budget.spendUpTo_spendUpTo, List.map_cons, List.sum_cons]

end Spending

/-! ### Machine words -/

/-- A budget whose counters are machine words of 64 bits, with arithmetic that wraps around. -/
structure WordBudget where
  remaining : UInt64
  spent : UInt64
deriving DecidableEq, Repr

namespace WordBudget

/-- The counters as numbers. -/
def toBudget (b : WordBudget) : Budget := ⟨b.remaining.toNat, b.spent.toNat⟩

/-- Move units that are left from one counter to the other. -/
def move (b : WordBudget) (granted : UInt64) : WordBudget :=
  ⟨b.remaining - granted, b.spent + granted⟩

theorem toBudget_move {b : WordBudget} {granted : UInt64} (left : granted ≤ b.remaining)
    (total : b.remaining.toNat + b.spent.toNat < 2 ^ 64) :
    (b.move granted).toBudget = b.toBudget.spendUpTo granted.toNat := by
  have le : granted.toNat ≤ b.remaining.toNat := UInt64.le_iff_toNat_le.mp left
  apply Budget.ext
  · rw [Budget.remaining_spendUpTo]
    exact UInt64.toNat_sub_of_le _ _ left
  · rw [Budget.spent_spendUpTo]
    show (b.spent + granted).toNat = b.spent.toNat + min granted.toNat b.remaining.toNat
    rw [UInt64.toNat_add, Nat.mod_eq_of_lt (by omega), Nat.min_eq_left le]

/-- Spend what is asked for and left. -/
def spend (b : WordBudget) : Spending → WordBudget
  | .one => if b.remaining = 0 then b else b.move 1
  | .upTo wanted => b.move (.ofNat (min wanted b.remaining.toNat))

/-- Counters that make up no more than a machine word holds count like numbers. -/
theorem toBudget_spend {b : WordBudget} (s : Spending)
    (total : b.remaining.toNat + b.spent.toNat < 2 ^ 64) :
    (b.spend s).toBudget = s.apply b.toBudget := by
  rw [Spending.apply_eq]
  cases s with
  | one =>
    rw [spend]
    split
    next none =>
      have exhausted : b.toBudget.remaining = 0 := UInt64.toNat_inj.mpr none
      exact (Budget.spendUpTo_of_exhausted exhausted _).symm
    next some =>
      apply toBudget_move _ total
      rw [UInt64.le_iff_toNat_le]
      exact Nat.pos_of_ne_zero fun none => some (UInt64.toNat_inj.mp none)
  | upTo wanted =>
    have granted : (UInt64.ofNat (min wanted b.remaining.toNat)).toNat =
        min wanted b.remaining.toNat := by
      apply UInt64.toNat_ofNat_of_lt'
      exact Nat.lt_of_le_of_lt (Nat.min_le_right _ _) b.remaining.toNat_lt
    rw [spend, toBudget_move _ total, granted]
    · apply Budget.ext
      · simp only [Budget.remaining_spendUpTo, toBudget, Spending.demand]
        omega
      · simp only [Budget.spent_spendUpTo, toBudget, Spending.demand]
        omega
    · rw [UInt64.le_iff_toNat_le, granted]
      exact Nat.min_le_right _ _

/-- So the counters never wrap around, whatever is asked for. -/
theorem toBudget_foldl_spend (spendings : List Spending) {b : WordBudget}
    (total : b.remaining.toNat + b.spent.toNat < 2 ^ 64) :
    (spendings.foldl spend b).toBudget = spendings.foldl Spending.apply b.toBudget := by
  induction spendings generalizing b with
  | nil => rfl
  | cons s spendings ih =>
    have one := toBudget_spend s total
    have conserved : (b.spend s).remaining.toNat + (b.spend s).spent.toNat < 2 ^ 64 := by
      have hr := congrArg Budget.remaining one
      have hs := congrArg Budget.spent one
      rw [Spending.apply_eq, Budget.remaining_spendUpTo] at hr
      rw [Spending.apply_eq, Budget.spent_spendUpTo] at hs
      simp only [toBudget] at hr hs
      omega
    rw [List.foldl_cons, List.foldl_cons, ih conserved, one]

end WordBudget

end Morphing
