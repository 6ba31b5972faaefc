/-!
# Budgets

A budget is a number of character edits that may still be made, with a count of those already made.
Spending moves units from one to the other and never goes below zero.
-/

namespace Morphing

/-- The largest number that fits a machine word, and so the largest amount of a budget. -/
def maxWord : Nat := 0xFFFFFFFFFFFFFFFF

/-- How many edits are left, and how many have been made. -/
structure Budget where
  remaining : Nat
  spent : Nat
deriving DecidableEq, Repr

namespace Budget

/-- A fresh budget of the given amount. -/
def ofNat (amount : Nat) : Budget := ⟨amount, 0⟩

/-- A fresh budget of the given amount, where a debt counts as nothing. -/
def ofInt (amount : Int) : Budget := ofNat amount.toNat

@[simp] theorem remaining_ofNat (n : Nat) : (ofNat n).remaining = n := rfl

@[simp] theorem spent_ofNat (n : Nat) : (ofNat n).spent = 0 := rfl

/-- Whether nothing is left to spend. -/
def isExhausted (b : Budget) : Bool := b.remaining == 0

@[simp] theorem isExhausted_iff (b : Budget) : b.isExhausted = true ↔ b.remaining = 0 := by
  simp [isExhausted]

/-- Spend one unit, if one is left. -/
def spend? (b : Budget) : Option Budget :=
  match b.remaining with
  | 0 => none
  | n + 1 => some ⟨n, b.spent + 1⟩

theorem spend?_eq_none_iff {b : Budget} : b.spend? = none ↔ b.remaining = 0 := by
  unfold spend?
  split <;> simp_all

theorem spend?_eq_some {b c : Budget} (h : b.spend? = some c) :
    b.remaining = c.remaining + 1 ∧ c.spent = b.spent + 1 := by
  unfold spend? at h
  split at h
  next => cases h
  next n hn => cases h; exact ⟨hn, rfl⟩

/-- The part of `wanted` that a budget can grant. -/
def granted (b : Budget) (wanted : Nat) : Nat := min wanted b.remaining

/-- Spend `wanted` units, or all that is left if there are fewer. -/
def spendUpTo (b : Budget) (wanted : Nat) : Budget :=
  ⟨b.remaining - b.granted wanted, b.spent + b.granted wanted⟩

@[simp] theorem remaining_spendUpTo (b : Budget) (wanted : Nat) :
    (b.spendUpTo wanted).remaining = b.remaining - wanted := by
  simp only [spendUpTo, granted]; omega

@[simp] theorem spent_spendUpTo (b : Budget) (wanted : Nat) :
    (b.spendUpTo wanted).spent = b.spent + min wanted b.remaining := rfl

end Budget

end Morphing
