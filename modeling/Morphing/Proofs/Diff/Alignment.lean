import Mathlib.Data.List.Chain
import Mathlib.Data.List.SplitBy
import Morphing.Diff.Change
import Morphing.Proofs.Diff.Shortest

/-!
# Diffs align two sequences

A diff can be read in two ways: without its additions it is the old sequence, without its removals
the new one, where a kept element stands for the new element that it is the same as. Additions never
stand directly before removals.

`Alignment` is the list form of a path through the grid of two sequences, which `Diff.replay` turns
into a diff. Putting removals first moves a path only between two of its keeps.
-/

namespace Morphing

namespace Change

/-- The element of the old sequence that a change shows, if any. -/
@[simp] def old? : Change α → Option α
  | kept a | removed a => some a
  | added _ => none

/-- The element that a change shows for the new sequence, if any. A kept one comes from the old
sequence. -/
@[simp] def new? : Change α → Option α
  | kept a | added a => some a
  | removed _ => none

/-- The step of an edit script that leads to a change. -/
@[simp] def step : Change α → Diff.Step
  | kept _ => .keep
  | removed _ => .remove
  | added _ => .add

@[simp] def isKept : Change α → Bool
  | kept _ => true
  | removed _ | added _ => false

@[simp] def isRemoved : Change α → Bool
  | removed _ => true
  | kept _ | added _ => false

@[simp] def isAdded : Change α → Bool
  | added _ => true
  | kept _ | removed _ => false

@[simp] theorem item_kept (a : α) : (kept a).item = a := rfl

@[simp] theorem item_removed (a : α) : (removed a).item = a := rfl

@[simp] theorem item_added (a : α) : (added a).item = a := rfl

/-- A change without removals shows an element of the new sequence: an added one is that element, a
kept one is the same. -/
inductive Shows [BEq α] : Change α → α → Prop where
  | added (b : α) : Shows (.added b) b
  | kept {a b : α} : (a == b) = true → Shows (.kept a) b

end Change

namespace Diff

/-- An edit script that leads from one list to another and keeps only what is the same. -/
inductive Alignment [BEq α] : List Step → List α → List α → Prop where
  | nil : Alignment [] [] []
  | keep {steps : List Step} {a b : α} {old new : List α} :
      (a == b) = true → Alignment steps old new → Alignment (.keep :: steps) (a :: old) (b :: new)
  | remove {steps : List Step} {a : α} {old new : List α} :
      Alignment steps old new → Alignment (.remove :: steps) (a :: old) new
  | add {steps : List Step} {b : α} {old new : List α} :
      Alignment steps old new → Alignment (.add :: steps) old (b :: new)

section Lists

variable [BEq α] {steps : List Step} {old new : List α}

theorem same_ofLists {x y : Nat} : (Grid.ofLists old new).same x y = true ↔
    ∃ (hx : x < old.length) (hy : y < new.length), (old[x] == new[y]) = true := by
  simp only [Grid.ofLists, List.getElem?_toArray]
  by_cases hx : x < old.length
  · by_cases hy : y < new.length <;> simp [hx, hy]
  · simp [hx]

theorem matches_ofLists {x y : Nat} : (Grid.ofLists old new).Matches x y ↔
    ∃ (hx : x < old.length) (hy : y < new.length), (old[x] == new[y]) = true := by
  rw [Grid.Matches, Grid.width_ofLists, Grid.height_ofLists, same_ofLists]
  constructor
  · rintro ⟨_, _, same⟩
    exact same
  · rintro ⟨hx, hy, hs⟩
    exact ⟨hx, hy, hx, hy, hs⟩

/-- A path to the end of the grid aligns what has not been read yet. -/
theorem Alignment.of_path {x y u v : Nat} (path : Path (Grid.ofLists old new) steps x y u v)
    (hu : u = old.length) (hv : v = new.length) :
    Alignment steps (old.drop x) (new.drop y) := by
  induction path with
  | nil =>
    subst hu hv
    rw [List.drop_length, List.drop_length]
    exact .nil
  | keep hm _ ih =>
    obtain ⟨hx, hy, hs⟩ := matches_ofLists.mp hm
    rw [List.drop_eq_getElem_cons hx, List.drop_eq_getElem_cons hy]
    exact .keep hs (ih hu hv)
  | remove rest ih =>
    have bound := rest.le.1
    rw [List.drop_eq_getElem_cons (by omega)]
    exact .remove (ih hu hv)
  | add rest ih =>
    have bound := rest.le.2
    rw [List.drop_eq_getElem_cons (i := _) (l := new) (by omega)]
    exact .add (ih hu hv)

/-- Conversely, an alignment of what follows on `old₀` and `new₀` is a path to the end of the grid. -/
theorem Alignment.path (h : Alignment steps old new) (old₀ new₀ : List α) :
    Path (Grid.ofLists (old₀ ++ old) (new₀ ++ new)) steps old₀.length new₀.length
      (old₀ ++ old).length (new₀ ++ new).length := by
  induction h generalizing old₀ new₀ with
  | nil =>
    rw [List.append_nil, List.append_nil]
    exact .nil _ _
  | @keep _ a b _ _ hs _ ih =>
    have rest := ih (old₀ ++ [a]) (new₀ ++ [b])
    simp only [List.append_assoc, List.singleton_append, List.length_append, List.length_singleton]
      at rest
    apply Path.keep
    · exact matches_ofLists.mpr ⟨by simp, by simp, by simpa using hs⟩
    · simpa only [List.length_append] using rest
  | @remove _ a _ _ _ ih =>
    have rest := ih (old₀ ++ [a]) new₀
    simp only [List.append_assoc, List.singleton_append, List.length_append, List.length_singleton]
      at rest
    exact .remove (by simpa only [List.length_append] using rest)
  | @add _ b _ _ _ ih =>
    have rest := ih old₀ (new₀ ++ [b])
    simp only [List.append_assoc, List.singleton_append, List.length_append, List.length_singleton]
      at rest
    exact .add (by simpa only [List.length_append] using rest)

/-- Every element is kept or edited, once on its side. -/
theorem Alignment.edits_add (h : Alignment steps old new) :
    edits steps + 2 * steps.count .keep = old.length + new.length := by
  induction h with
  | nil => rfl
  | keep _ _ ih | remove _ ih | add _ ih =>
    simp only [edits_keep, edits_remove, Diff.edits_add, List.count_cons, List.length_cons]
    simp
    omega

/-- Two common subsequences that are the same, element by element, can be kept. -/
theorem exists_alignment {common common' : List α} (hold : common.Sublist old)
    (hnew : common'.Sublist new) (same : List.Forall₂ (fun a b => (a == b) = true) common common') :
    ∃ steps, Alignment steps old new ∧ steps.count .keep = common.length := by
  induction hold generalizing new common' with
  | slnil =>
    cases same
    induction new with
    | nil => exact ⟨[], .nil, rfl⟩
    | cons b new ih =>
      obtain ⟨steps, h, hc⟩ := ih (List.nil_sublist new)
      exact ⟨.add :: steps, .add h, by simpa using hc⟩
  | cons a _ ih =>
    obtain ⟨steps, h, hc⟩ := ih hnew same
    exact ⟨.remove :: steps, .remove h, by simpa using hc⟩
  | cons_cons a sub ih =>
    cases same with
    | @cons _ b _ common' hab same =>
      induction new with
      | nil => cases hnew
      | cons c new ihn =>
        cases hnew with
        | cons _ hnew =>
          obtain ⟨steps, h, hc⟩ := ihn hnew
          exact ⟨.add :: steps, .add h, by simpa using hc⟩
        | cons_cons _ hnew =>
          obtain ⟨steps, h, hc⟩ := ih hnew same
          exact ⟨.keep :: steps, .keep hab h, by simpa using hc⟩

end Lists

/-! ### Removals first -/

/-- Holding back additions does not change where a path leads. -/
theorem Path.holdAdditions {g : Grid} {steps : List Step} {pending x y u v : Nat}
    (path : Path g steps x (y + pending) u v) : Path g (holdAdditions pending steps) x y u v := by
  induction steps generalizing pending x y with
  | nil =>
    cases path
    exact Path.additions _ _ pending
  | cons step steps ih =>
    cases path with
    | keep hm rest =>
      have later : Path g (Diff.holdAdditions 0 steps) (x + 1) (y + pending + 1) u v := ih rest
      exact (Path.additions x y pending).trans (.keep hm later)
    | remove rest => exact .remove (ih rest)
    | add rest => exact ih rest

theorem edits_holdAdditions (pending : Nat) (steps : List Step) :
    edits (holdAdditions pending steps) = pending + edits steps := by
  induction steps generalizing pending with
  | nil => simp [holdAdditions]
  | cons step steps ih =>
    cases step with
    | keep => simp [holdAdditions, ih]
    | remove =>
      simp [holdAdditions, ih]
      omega
    | add =>
      simp [holdAdditions, ih]
      omega

/-- No addition stands directly before a removal. -/
def RemovalsFirst (steps : List Step) : Prop :=
  steps.IsChain fun a b => ¬(a = .add ∧ b = .remove)

theorem removalsFirst_holdAdditions (pending : Nat) (steps : List Step) :
    RemovalsFirst (holdAdditions pending steps) := by
  induction steps generalizing pending with
  | nil => exact List.isChain_replicate_of_rel _ (by simp)
  | cons step steps ih =>
    cases step with
    | keep =>
      have held : RemovalsFirst (List.replicate pending .add) :=
        List.isChain_replicate_of_rel _ (by simp)
      have later : RemovalsFirst (.keep :: holdAdditions 0 steps) := by
        apply (ih 0).cons
        rintro b _ ⟨hadd, _⟩
        cases hadd
      apply List.IsChain.append held later
      rintro a _ b hb ⟨_, hremove⟩
      cases hb
      cases hremove
    | remove =>
      apply (ih pending).cons
      rintro b _ ⟨hadd, _⟩
      cases hadd
    | add => exact ih (pending + 1)

end Diff

end Morphing
