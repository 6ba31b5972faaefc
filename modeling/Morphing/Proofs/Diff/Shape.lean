import Morphing.Proofs.Diff.Lockstep
import Morphing.Proofs.Diff.Normal

/-!
# The shape of a diff

Which elements a diff keeps, removes and adds depends only on which of them are the same. So a diff
commutes with every function that neither makes elements the same nor tells them apart.

A diff begins with everything that both sequences begin with, kept, and after that the two sequences
begin differently or one of them has ended. What follows a common beginning is aligned as if it were
all there is.
-/

namespace Morphing

namespace Diff

theorem ofLists_congr [BEq α] [BEq β] {old new : List α} {old' new' : List β}
    (hold : old.length = old'.length) (hnew : new.length = new'.length)
    (h : ∀ i j (_ : i < old.length) (_ : j < new.length) (_ : i < old'.length)
      (_ : j < new'.length), (old[i] == new[j]) = (old'[i] == new'[j])) :
    Grid.ofLists old new = Grid.ofLists old' new' := by
  have same : (Grid.ofLists old new).same = (Grid.ofLists old' new').same := by
    funext x y
    rw [Bool.eq_iff_iff, same_ofLists, same_ofLists]
    constructor
    · rintro ⟨hx, hy, hs⟩
      have hx' := hold ▸ hx
      have hy' := hnew ▸ hy
      exact ⟨hx', hy', h x y hx hy hx' hy' ▸ hs⟩
    · rintro ⟨hx, hy, hs⟩
      have hx' := hold ▸ hx
      have hy' := hnew ▸ hy
      exact ⟨hx', hy', (h x y hx' hy' hx hy).symm ▸ hs⟩
  calc Grid.ofLists old new
      _ = ⟨old.length, new.length, (Grid.ofLists old new).same⟩ := by
        rw [← Grid.width_ofLists old new, ← Grid.height_ofLists old new]
      _ = ⟨old'.length, new'.length, (Grid.ofLists old' new').same⟩ := by rw [hold, hnew, same]
      _ = Grid.ofLists old' new' := by
        rw [← Grid.width_ofLists old' new', ← Grid.height_ofLists old' new']

theorem replay_nil_nil (steps : List Step) : replay steps ([] : List α) [] = [] := by
  cases steps with
  | nil => rfl
  | cons step steps => cases step <;> rfl

theorem replay_map (f : α → β) (steps : List Step) (old new : List α) :
    replay steps (old.map f) (new.map f) = (replay steps old new).map (Change.map f) := by
  induction steps generalizing old new with
  | nil => simp [replay]
  | cons step steps ih =>
    cases step with
    | keep =>
      cases old with
      | nil => simp [replay]
      | cons a old =>
        cases new with
        | nil => simp [replay]
        | cons b new => exact congrArg (_ :: ·) (ih old new)
    | remove =>
      cases old with
      | nil => simp [replay]
      | cons a old => simpa [replay, Change.map] using ih old new
    | add =>
      cases new with
      | nil => simp [replay]
      | cons b new => simpa [replay, Change.map] using ih old new

end Diff

open Diff

/-- A diff commutes with a function that respects sameness. -/
theorem diff_map [BEq α] [BEq β] (f : α → β) (same : ∀ a b, (f a == f b) = (a == b))
    (old new : List α) : diff (old.map f) (new.map f) = (diff old new).map (Change.map f) := by
  have grids : Grid.ofLists (old.map f) (new.map f) = Grid.ofLists old new := by
    apply ofLists_congr (List.length_map _) (List.length_map _)
    intro i j _ _ _ _
    rw [List.getElem_map, List.getElem_map, same]
  rw [diff, script, grids, replay_map]
  rfl

namespace Diff

theorem holdAdditions_replicate_keep (k : Nat) (steps : List Step) :
    holdAdditions 0 (List.replicate k .keep ++ steps) =
      List.replicate k .keep ++ holdAdditions 0 steps := by
  induction k with
  | zero => rfl
  | succ k ih => exact congrArg (_ :: ·) ih

theorem replay_replicate_keep {k : Nat} (steps : List Step) {old new : List α}
    (hold : k ≤ old.length) (hnew : k ≤ new.length) :
    replay (List.replicate k .keep ++ steps) old new =
      (old.take k).map .kept ++ replay steps (old.drop k) (new.drop k) := by
  induction k generalizing old new with
  | zero => rfl
  | succ k ih =>
    cases old with
    | nil => cases hold
    | cons a old =>
      cases new with
      | nil => cases hnew
      | cons b new =>
        exact congrArg (_ :: ·) (ih (Nat.le_of_succ_le_succ hold) (Nat.le_of_succ_le_succ hnew))

section Beginnings

variable [BEq α] (ps xs ys : List α)

theorem matches_ofLists_append [ReflBEq α] {i : Nat} (hi : i < ps.length) :
    (Grid.ofLists (ps ++ xs) (ps ++ ys)).Matches i i := by
  have hx : i < (ps ++ xs).length := by simp; omega
  have hy : i < (ps ++ ys).length := by simp; omega
  refine matches_ofLists.mpr ⟨hx, hy, ?_⟩
  rw [List.getElem_append_left hi, List.getElem_append_left hi]
  exact beq_self_eq_true _

theorem after_ofLists_append :
    (Grid.ofLists (ps ++ xs) (ps ++ ys)).after ⟨ps.length, ps.length⟩ = Grid.ofLists xs ys := by
  simp [Grid.after, Grid.window, Grid.ofLists, List.getElem?_append_right]

end Beginnings

/-- Every script begins with the common beginning. -/
theorem exists_script_eq [BEq α] (old new : List α) :
    ∃ later, script old new =
      List.replicate (Grid.ofLists old new).leading .keep ++ later := by
  rw [script, Grid.script, Grid.scriptWith]
  exact ⟨_, (congrArg removalsFirst (List.append_assoc _ _ _)).trans
    (holdAdditions_replicate_keep _ _)⟩

end Diff

/-- A common beginning is kept and makes no difference to the diff of what follows. -/
theorem diff_append_left [BEq α] [ReflBEq α] (ps xs ys : List α) :
    diff (ps ++ xs) (ps ++ ys) = ps.map .kept ++ diff xs ys := by
  have begins : ∀ i < ps.length, (Grid.ofLists (ps ++ xs) (ps ++ ys)).Matches i i :=
    fun _ hi => matches_ofLists_append ps xs ys hi
  rw [diff, script, Grid.script_of_begins begins, after_ofLists_append, removalsFirst,
    holdAdditions_replicate_keep, replay_replicate_keep _ (by simp) (by simp)]
  simp only [List.take_left, List.drop_left]
  rfl

/-- Nothing becomes of two sequences that are the same. -/
theorem diff_self [BEq α] [ReflBEq α] (l : List α) : diff l l = l.map .kept := by
  have whole := diff_append_left l [] []
  have nothing : diff ([] : List α) [] = [] := replay_nil_nil _
  simpa [nothing] using whole

section Sides

variable (l : List α)

@[simp] theorem filterMap_old?_map_kept : (l.map Change.kept).filterMap Change.old? = l := by
  simp [List.filterMap_map, Function.comp_def]

@[simp] theorem filterMap_new?_map_kept : (l.map Change.kept).filterMap Change.new? = l := by
  simp [List.filterMap_map, Function.comp_def]

@[simp] theorem filterMap_old?_map_removed : (l.map Change.removed).filterMap Change.old? = l := by
  simp [List.filterMap_map, Function.comp_def]

@[simp] theorem filterMap_new?_map_removed : (l.map Change.removed).filterMap Change.new? = [] := by
  simp [List.filterMap_map, Function.comp_def]

@[simp] theorem filterMap_old?_map_added : (l.map Change.added).filterMap Change.old? = [] := by
  simp [List.filterMap_map, Function.comp_def]

@[simp] theorem filterMap_new?_map_added : (l.map Change.added).filterMap Change.new? = l := by
  simp [List.filterMap_map, Function.comp_def]

end Sides

theorem Change.eq_map_added {cs : List (Change α)} (h : cs.filterMap old? = []) :
    cs = (cs.filterMap new?).map added := by
  induction cs with
  | nil => rfl
  | cons c cs ih =>
    cases c with
    | kept a | removed a => cases h
    | added a => exact congrArg (added a :: ·) (ih h)

/-- Everything is added to nothing. -/
theorem diff_nil_left [BEq α] [LawfulBEq α] (new : List α) : diff [] new = new.map .added := by
  have added := Change.eq_map_added (filterMap_old?_diff [] new)
  rwa [filterMap_new?_diff] at added

/-- A diff keeps what both sequences begin with. What follows begins differently in both, unless one
of them ends there. -/
theorem exists_diff_eq [BEq α] [LawfulBEq α] (old new : List α) :
    ∃ (common : List α) (later : List (Change α)), diff old new = common.map .kept ++ later ∧
      ∀ a b, (later.filterMap Change.old?).head? = some a →
        (later.filterMap Change.new?).head? = some b → a ≠ b := by
  generalize hk : (Grid.ofLists old new).leading = k
  have hold : k ≤ old.length := by
    rw [← hk, ← Grid.width_ofLists old new]
    exact Grid.leading_le_width _
  have hnew : k ≤ new.length := by
    rw [← hk, ← Grid.height_ofLists old new]
    exact Grid.leading_le_height _
  obtain ⟨steps, hsteps⟩ := exists_script_eq old new
  rw [hk] at hsteps
  have whole : diff old new =
      (old.take k).map .kept ++ replay steps (old.drop k) (new.drop k) := by
    rw [diff, hsteps, replay_replicate_keep steps hold hnew]
  have length : (old.take k).length = k := List.length_take_of_le hold
  have oldSide := congrArg (List.drop k) (filterMap_old?_diff old new)
  have newSide := congrArg (List.drop k) (filterMap_new?_diff old new)
  rw [whole, List.filterMap_append, filterMap_old?_map_kept, List.drop_left' length] at oldSide
  rw [whole, List.filterMap_append, filterMap_new?_map_kept, List.drop_left' length] at newSide
  refine ⟨_, _, whole, ?_⟩
  intro a b ha hb hab
  rw [oldSide, List.head?_drop] at ha
  rw [newSide, List.head?_drop] at hb
  obtain ⟨hx, ha⟩ := List.getElem?_eq_some_iff.mp ha
  obtain ⟨hy, hb⟩ := List.getElem?_eq_some_iff.mp hb
  have stop := (Grid.ofLists old new).not_matches_leading
  rw [hk] at stop
  exact stop (matches_ofLists.mpr ⟨hx, hy, by rw [ha, hb, hab, beq_self_eq_true]⟩)

end Morphing
