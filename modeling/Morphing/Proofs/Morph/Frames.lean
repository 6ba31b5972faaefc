import Mathlib.Data.Nat.Find
import Morphing.Proofs.Line.Distance
import Morphing.Proofs.Morph.Completion

/-!
# The frames of a morph

The frames of a morph end with the first complete one. There is one, since a budget beyond the
distance of the morph always leaves something over, and it comes soon, since the distance is not
more than the two texts are long. For the same reason budgets stay within a machine word while they
grow, as long as the texts leave half of it free: a large step leads behind the distance at once.
-/

namespace Morphing

namespace Morph

variable {m : Morph} {amount : Nat}

theorem complete_of_distance_lt (h : m.distance < amount) :
    (m.frameAt amount).complete = true := by
  rw [complete_frameAt, budget_run_eq, Budget.remaining_spendUpTo, Budget.remaining_ofNat]
  exact .inl (Nat.sub_ne_zero_of_lt h)

/-- An incomplete frame has spent all its budget. -/
theorem le_distance_of_incomplete (h : (m.frameAt amount).complete = false) :
    amount ≤ m.distance := by
  apply Nat.le_of_not_lt
  intro more
  rw [complete_of_distance_lt more] at h
  cases h

end Morph

namespace Frames

variable {m : Morph} {step next : Nat}

/-- Nothing follows a complete frame, or one behind which there is no room for a step. -/
theorem take_of_ended (h : (m.frameAt next).complete = true ∨ maxWord < next + step)
    (limit : Nat) : take ⟨m, step, some next⟩ (limit + 1) = [m.frameAt next] := by
  have ended : ∀ limit, take ⟨m, step, none⟩ limit = [] := by
    intro limit
    cases limit <;> rfl
  rcases h with complete | full
  · simp only [take, advance?, complete, if_true, ended]
  · simp only [take, advance?, Nat.not_le_of_lt full, if_false, ite_self, ended]

theorem take_of_incomplete (h : (m.frameAt next).complete = false)
    (fits : next + step ≤ maxWord) (limit : Nat) :
    take ⟨m, step, some next⟩ (limit + 1) =
      m.frameAt next :: take ⟨m, step, some (next + step)⟩ limit := by
  simp [take, advance?, h, fits]

/-- Up to the last frame, the budgets of frames grow by steps. -/
theorem take_of_last (last : Nat)
    (early : ∀ k < last, (m.frameAt (next + k * step)).complete = false ∧
      next + k * step + step ≤ maxWord)
    (done : (m.frameAt (next + last * step)).complete = true ∨
      maxWord < next + last * step + step) (limit : Nat) :
    take ⟨m, step, some next⟩ limit =
      ((List.range (last + 1)).map fun k => m.frameAt (next + k * step)).take limit := by
  induction last generalizing next limit with
  | zero =>
    cases limit with
    | zero => rfl
    | succ limit =>
      rw [Nat.zero_mul, Nat.add_zero] at done
      rw [take_of_ended done]
      simp
  | succ last ih =>
    cases limit with
    | zero => rfl
    | succ limit =>
      obtain ⟨incomplete, fits⟩ := early 0 (Nat.succ_pos last)
      have shift : ∀ k, next + (k + 1) * step = next + step + k * step := by
        intro k
        rw [Nat.succ_mul, Nat.add_comm (k * step), Nat.add_assoc]
      rw [Nat.zero_mul, Nat.add_zero] at incomplete fits
      rw [take_of_incomplete incomplete fits, List.range_succ_eq_map, List.map_cons,
        List.take_succ_cons, List.map_map, Nat.zero_mul, Nat.add_zero]
      simp only [shift] at done early
      rw [ih _ done]
      · simp only [Function.comp_def, shift]
      · intro k hk
        simpa only [shift] using early (k + 1) (Nat.succ_lt_succ hk)

/-- Up to the first complete frame, the budgets of frames grow by steps. -/
theorem take_of_first (last : Nat)
    (early : ∀ k < last, (m.frameAt (next + k * step)).complete = false ∧
      next + k * step + step ≤ maxWord)
    (done : (m.frameAt (next + last * step)).complete = true) (limit : Nat) :
    take ⟨m, step, some next⟩ limit =
      ((List.range (last + 1)).map fun k => m.frameAt (next + k * step)).take limit :=
  take_of_last last early (.inl done) limit

end Frames

namespace Morph

variable {m : Morph} {step : Nat}

/-- A first frame is complete, and no later than one step behind the distance of the morph. -/
theorem exists_first (m : Morph) (pos : 0 < step) :
    ∃ last, last + 1 ≤ (m.old.length + m.new.length) / step + 2 ∧
      (m.frameAt (last * step)).complete = true ∧
      ∀ k < last, (m.frameAt (k * step)).complete = false := by
  have some : ∃ k, (m.frameAt (k * step)).complete = true := by
    refine ⟨m.distance + 1, complete_of_distance_lt ?_⟩
    exact Nat.lt_of_lt_of_le (Nat.lt_succ_self _) (Nat.le_mul_of_pos_right _ pos)
  have early : ∀ k < Nat.find some, (m.frameAt (k * step)).complete = false := by
    intro k hk
    exact Bool.eq_false_iff.mpr (Nat.find_min some hk)
  refine ⟨Nat.find some, ?_, Nat.find_spec some, early⟩
  cases last : Nat.find some with
  | zero => exact Nat.le_add_left 1 _
  | succ k =>
    have within := le_distance_of_incomplete (early k (by omega))
    have few : k ≤ (m.old.length + m.new.length) / step :=
      (Nat.le_div_iff_mul_le pos).mpr (within.trans m.distance_le)
    omega

/-- Behind an incomplete frame there is room for one more step. -/
theorem fits_of_incomplete (short : m.old.length + m.new.length < 2 ^ 63) (word : step ≤ maxWord)
    {k : Nat} (h : (m.frameAt (k * step)).complete = false) : k * step + step ≤ maxWord := by
  cases k with
  | zero => rwa [Nat.zero_mul, Nat.zero_add]
  | succ k =>
    have within := le_distance_of_incomplete h
    have most := m.distance_le
    have large : step ≤ (k + 1) * step := Nat.le_mul_of_pos_left step (Nat.succ_pos k)
    have half : maxWord = 2 ^ 63 + (2 ^ 63 - 1) := by decide
    omega

/-- The frames of a morph have budgets that grow by steps, until the first complete frame, which is
not far. No budget is too large for a machine word. -/
theorem frames_end (m : Morph) (step : UInt64) (short : m.old.length + m.new.length < 2 ^ 63) :
    let s := max step.toNat 1
    ∃ last, last + 1 ≤ (m.old.length + m.new.length) / s + 2 ∧
      (∀ limit, (m.frames step.toNat).take limit =
        ((List.range (last + 1)).map fun k => m.frameAt (k * s)).take limit) ∧
      m.allFrames step.toNat = (List.range (last + 1)).map (fun k => m.frameAt (k * s)) ∧
      (m.frameAt (last * s)).complete = true ∧
      ∀ k < last, (m.frameAt (k * s)).complete = false ∧ k * s + s ≤ maxWord := by
  intro s
  have pos : 0 < s := Nat.lt_of_lt_of_le Nat.one_pos (Nat.le_max_right _ _)
  have word : s ≤ maxWord := Nat.max_le.mpr ⟨Nat.le_of_lt_succ step.toNat_lt, by decide⟩
  obtain ⟨last, few, done, incomplete⟩ := m.exists_first pos
  have early : ∀ k < last, (m.frameAt (k * s)).complete = false ∧ k * s + s ≤ maxWord := by
    intro k hk
    exact ⟨incomplete k hk, fits_of_incomplete short word (incomplete k hk)⟩
  have all : ∀ limit, (m.frames step.toNat).take limit =
      ((List.range (last + 1)).map fun k => m.frameAt (k * s)).take limit := by
    intro limit
    have start : (m.frameAt (0 + last * s)).complete = true := by rwa [Nat.zero_add]
    have first := Frames.take_of_first last (by simpa only [Nat.zero_add] using early) start limit
    simp only [Nat.zero_add] at first
    exact first
  refine ⟨last, few, all, ?_, done, early⟩
  rw [allFrames, all, List.take_of_length_le]
  rw [List.length_map, List.length_range]
  exact few

/-- From `cat` to `cut`, the largest step leads to two frames at most. -/
theorem frames_end_cut :
    let cut : Morph := ⟨['c', 'a', 't'], ['c', 'u', 't'], {}⟩
    cut.old.length + cut.new.length < 2 ^ 63 ∧
      ∃ last, last + 1 ≤ 2 ∧ (cut.frameAt (last * maxWord)).complete = true ∧
        cut.allFrames maxWord =
          (List.range (last + 1)).map fun k => cut.frameAt (k * maxWord) := by
  intro cut
  have short : cut.old.length + cut.new.length < 2 ^ 63 := by decide
  have word : (UInt64.ofNat maxWord).toNat = maxWord := by decide
  have largest : max maxWord 1 = maxWord := by decide
  have none : (cut.old.length + cut.new.length) / maxWord = 0 := by decide
  have frames := frames_end cut (UInt64.ofNat maxWord) short
  rw [word, largest] at frames
  obtain ⟨last, few, _, all, complete, _⟩ := frames
  rw [none] at few
  exact ⟨short, last, few, complete, all⟩

end Morph

end Morphing
