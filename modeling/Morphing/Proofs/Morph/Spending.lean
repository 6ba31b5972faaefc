import Morphing.Proofs.Morph.Progress

/-!
# What scripts of morphs spend

A budget can be handed on from one morph to the next, with single spendings in between. Each of
these operations has a demand that does not depend on the budget, for a morph its distance, and
together they spend the sum of their demands, as far as the budget goes. Inside a morph it is the
pairs of lines that share the budget in the same way.

A morph spends in steps: an added line at once, a modified one by single units. So counters in
machine words are enough for every script.
-/

namespace Morphing

namespace LinePair

/-- The steps in which a pair of lines spends. -/
def spendings (options : Options) : LinePair → List Spending
  | kept _ | unpairedRemoval _ => []
  | pureInsertion line => [.upTo (Text.content line).length]
  | modification old new =>
    List.replicate ((modification old new).distance options) .one

theorem sum_demand_spendings (options : Options) (pair : LinePair) :
    ((pair.spendings options).map Spending.demand).sum = pair.distance options := by
  cases pair with
  | kept line | unpairedRemoval line => rfl
  | pureInsertion line => exact Nat.add_zero _
  | modification old new => simp [spendings, Spending.demand]

theorem sum_demand_flatMap_spendings (options : Options) (pairs : List LinePair) :
    ((pairs.flatMap (spendings options)).map Spending.demand).sum =
      (pairs.map (distance options)).sum := by
  induction pairs with
  | nil => rfl
  | cons pair pairs ih =>
    rw [List.flatMap_cons, List.map_append, List.sum_append, sum_demand_spendings, ih,
      List.map_cons, List.sum_cons]

end LinePair

/-- What can be done with a budget. -/
inductive Operation where
  | spend (s : Spending)
  | morph (m : Morph)
deriving DecidableEq, Repr

namespace Operation

/-- The units that an operation asks for. -/
def demand : Operation → Nat
  | spend s => s.demand
  | morph m => m.distance

/-- What an operation leaves of a budget. -/
def apply (b : Budget) : Operation → Budget
  | spend s => s.apply b
  | morph m => (m.run b).budget

/-- The steps in which an operation spends. -/
def spendings : Operation → List Spending
  | spend s => [s]
  | morph m => m.pairs.flatMap (LinePair.spendings m.options)

theorem apply_eq (b : Budget) (op : Operation) : op.apply b = b.spendUpTo op.demand := by
  cases op with
  | spend s => exact s.apply_eq b
  | morph m => exact m.budget_run_eq b

theorem sum_demand_spendings (op : Operation) :
    (op.spendings.map Spending.demand).sum = op.demand := by
  cases op with
  | spend s => exact Nat.add_zero _
  | morph m => exact LinePair.sum_demand_flatMap_spendings m.options m.pairs

/-- An operation leaves what its steps leave. -/
theorem foldl_spendings (b : Budget) (op : Operation) :
    op.spendings.foldl Spending.apply b = op.apply b := by
  rw [Spending.foldl_apply, sum_demand_spendings, apply_eq]

theorem foldl_flatMap_spendings (ops : List Operation) (b : Budget) :
    (ops.flatMap spendings).foldl Spending.apply b = ops.foldl apply b := by
  induction ops generalizing b with
  | nil => rfl
  | cons op ops ih =>
    rw [List.flatMap_cons, List.foldl_append, foldl_spendings, ih, List.foldl_cons]

/-- Operations spend the sum of their demands, as far as the budget goes. -/
theorem foldl_apply (ops : List Operation) (b : Budget) :
    ops.foldl apply b = b.spendUpTo (ops.map demand).sum := by
  induction ops generalizing b with
  | nil => exact b.spendUpTo_zero.symm
  | cons op ops ih =>
    rw [List.foldl_cons, ih, apply_eq, Budget.spendUpTo_spendUpTo, List.map_cons, List.sum_cons]

end Operation

namespace Morph

variable (m : Morph) (b : Budget)

/-- A pair of lines spends in its steps. -/
theorem budget_progress_succ {j : Nat} (hj : j < m.pairs.length) :
    (m.progress b (j + 1)).budget =
      (m.pairs[j].spendings m.options).foldl Spending.apply (m.progress b j).budget := by
  rw [Spending.foldl_apply, LinePair.sum_demand_spendings, budget_progress, budget_progress,
    Budget.spendUpTo_spendUpTo, distanceBefore_succ m hj]

/-- A pair of lines spends its distance, or what those before it have left. -/
theorem spent_progress_succ {j : Nat} (hj : j < m.pairs.length) :
    (m.progress b (j + 1)).budget.spent = (m.progress b j).budget.spent +
      min (m.pairs[j].distance m.options) (b.remaining - m.distanceBefore j) := by
  rw [budget_progress_succ m b hj, Spending.foldl_apply, LinePair.sum_demand_spendings,
    Budget.spent_spendUpTo, budget_progress, Budget.remaining_spendUpTo]

end Morph

/-- Operations in turn spend the sum of their demands, as far as the budget goes, and leave the
rest. Counters in machine words get through all their steps without wrapping around, whatever the
sum is. Within a morph, a pair of lines spends its distance or what those before it have left. -/
theorem spending_law (amount : UInt64) :
    (∀ ops : List Operation,
      let b := ops.foldl Operation.apply (.ofNat amount.toNat)
      b.spent = min amount.toNat (ops.map Operation.demand).sum ∧
        b.remaining = amount.toNat - b.spent ∧
        ((ops.flatMap Operation.spendings).foldl WordBudget.spend ⟨amount, 0⟩).toBudget = b) ∧
    (∀ steps : List Spending, (steps.foldl WordBudget.spend ⟨amount, 0⟩).toBudget =
      steps.foldl Spending.apply (.ofNat amount.toNat)) ∧
    ∀ (m : Morph) (b : Budget),
      (m.run b).budget = (m.progress b m.pairs.length).budget ∧
      ∀ (j : Nat) (hj : j < m.pairs.length),
        (∃ events, m.pairs[j].write m.options (m.progress b j).draft (m.progress b j).budget =
          .ok ⟨(m.progress b (j + 1)).draft, (m.progress b (j + 1)).budget, events⟩) ∧
        (m.progress b (j + 1)).budget =
          (m.pairs[j].spendings m.options).foldl Spending.apply (m.progress b j).budget ∧
        (m.progress b (j + 1)).budget.spent = (m.progress b j).budget.spent +
          min (m.pairs[j].distance m.options) (b.remaining - m.distanceBefore j) := by
  have words : ∀ steps : List Spending, (steps.foldl WordBudget.spend ⟨amount, 0⟩).toBudget =
      steps.foldl Spending.apply (.ofNat amount.toNat) := by
    intro steps
    exact WordBudget.toBudget_foldl_spend steps (b := ⟨amount, 0⟩) amount.toNat_lt
  refine ⟨?_, words, ?_⟩
  · intro ops
    have total := Operation.foldl_apply ops (.ofNat amount.toNat)
    refine ⟨?_, ?_, ?_⟩
    · rw [total, Budget.spent_spendUpTo, Budget.spent_ofNat, Budget.remaining_ofNat, Nat.zero_add,
        Nat.min_comm]
    · rw [total, Budget.spent_spendUpTo, Budget.remaining_spendUpTo, Budget.spent_ofNat,
        Budget.remaining_ofNat]
      omega
    · rw [words, Operation.foldl_flatMap_spendings]
  · intro m b
    refine ⟨(m.run_eq_progress b).2, ?_⟩
    intro j hj
    obtain ⟨events, written, _⟩ := m.write_progress b hj
    exact ⟨⟨events, written⟩, m.budget_progress_succ b hj, m.spent_progress_succ b hj⟩

/-- Spend two units, lead from `cat` to `cut`, and ask for more than a machine word holds: three
units go that far. One unit pays for one of the two edits. -/
theorem spending_law_cut :
    let cut : Morph := ⟨['c', 'a', 't'], ['c', 'u', 't'], {}⟩
    let ops : List Operation := [.spend (.upTo 2), .morph cut, .spend (.upTo (2 ^ 64))]
    0 < cut.pairs.length ∧ (ops.foldl Operation.apply (.ofNat 3)).spent = min 3 (2 ^ 64 + 4) ∧
      (cut.progress (.ofNat 1) 1).budget.spent = 1 := by
  intro cut ops
  have one : 0 < cut.pairs.length := by decide +kernel
  have demand : (ops.map Operation.demand).sum = 2 ^ 64 + 4 := by decide +kernel
  have distance : cut.pairs[0].distance cut.options = 2 := by decide +kernel +revert
  have spent := ((spending_law 3).1 ops).1
  have first := (((spending_law 3).2.2 cut (.ofNat 1)).2 0 one).2.2
  rw [demand] at spent
  rw [distance] at first
  exact ⟨one, spent, first⟩

end Morphing
