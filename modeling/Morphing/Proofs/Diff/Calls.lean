import Morphing.Proofs.Diff.Course
import Morphing.Proofs.Diff.Shortest

/-!
# The calls of a diff

A script is put together by calls of `Grid.scriptWith` on smaller and smaller parts of the grid.
Whenever such a call searches for a middle snake, the search succeeds and splits the part in two
that are both smaller: a script is never put together from removals and additions alone as long as
both sides have something left.

The grids of two sequences that are not longer than memory leave enough room in a machine word for
all the numbers of a search.
-/

namespace Morphing.Diff

namespace Grid

/-! ### Parts of a grid -/

/-- A grid is a rectangle of another one: its two sequences are ranges of the other's. -/
def PartOf (h g : Grid) : Prop :=
  ∃ a b, a + h.width ≤ g.width ∧ b + h.height ≤ g.height ∧
    ∀ i j, h.same i j = g.same (a + i) (b + j)

namespace PartOf

variable {g h k : Grid}

theorem refl (g : Grid) : g.PartOf g :=
  ⟨0, 0, by simp, by simp, by simp⟩

theorem trans (inner : k.PartOf h) (outer : h.PartOf g) : k.PartOf g := by
  obtain ⟨a, b, hw, hh, hs⟩ := inner
  obtain ⟨a', b', hw', hh', hs'⟩ := outer
  refine ⟨a' + a, b' + b, by omega, by omega, ?_⟩
  intro i j
  rw [hs, hs', Nat.add_assoc, Nat.add_assoc]

theorem window {a b w h : Nat} (hw : a + w ≤ g.width) (hh : b + h ≤ g.height) :
    (g.window a b w h).PartOf g :=
  ⟨a, b, hw, hh, fun _ _ => rfl⟩

theorem core (g : Grid) : g.core.PartOf g := by
  have rest : g.rest.PartOf g :=
    window (Nat.le_of_eq (Nat.add_sub_cancel' g.leading_le_width))
      (Nat.le_of_eq (Nat.add_sub_cancel' g.leading_le_height))
  have inner : g.core.PartOf g.rest := by
    apply window
    · rw [Nat.zero_add]
      exact Nat.sub_le _ _
    · rw [Nat.zero_add]
      exact Nat.sub_le _ _
  exact inner.trans rest

theorem before {p : Point} (h : g.Splits p) : (g.before p).PartOf g := by
  obtain ⟨hx, hy, _⟩ := h
  exact window (by omega) (by omega)

theorem after {p : Point} (h : g.Splits p) : (g.after p).PartOf g := by
  obtain ⟨hx, hy, _⟩ := h
  exact window (by omega) (by omega)

theorem size_le (h : k.PartOf g) : k.width + k.height ≤ g.width + g.height := by
  obtain ⟨a, b, hw, hh, _⟩ := h
  omega

theorem roundLimit_le (h : k.PartOf g) : k.roundLimit ≤ g.roundLimit := by
  have size := h.size_le
  rw [roundLimit, roundLimit]
  omega

end PartOf

/-! ### Calls -/

/-- The calls of `scriptWith` that its call for `g` on scratch space `s` leads to, itself included:
where a search of what is left returns a point, one call for either part. -/
inductive Calls (g : Grid) (s : Scratch) : Grid → Scratch → Prop where
  | self : Calls g s g s
  | before {h : Grid} {t t₁ : Scratch} {p : Point} :
      Calls g s h t → h.core.width ≠ 0 → h.core.height ≠ 0 →
      middleSnake? h.core t = some (t₁, p) → Calls g s (h.core.before p) t₁
  | after {h : Grid} {t t₁ : Scratch} {p : Point} :
      Calls g s h t → h.core.width ≠ 0 → h.core.height ≠ 0 →
      middleSnake? h.core t = some (t₁, p) →
      Calls g s (h.core.after p) ((h.core.before p).scriptWith t₁).1

/-- With room for the rounds, the search of what is left of a grid finds a point that splits it. -/
theorem exists_split {h : Grid} {t : Scratch} (hw : h.core.width ≠ 0) (hh : h.core.height ≠ 0)
    (fits : t.Fits h.roundLimit) :
    ∃ t₁ p, middleSnake? h.core t = some (t₁, p) ∧ t.SameRoom t₁ ∧ h.core.Splits p := by
  obtain ⟨t₁, p, hsnake, same, halves⟩ := exists_middleSnake (two_le_distance_core hw hh)
    (fits.mono (PartOf.core h).roundLimit_le)
  exact ⟨t₁, p, hsnake, same, halves.splits⟩

/-- Every call is about a part of the grid, and on scratch space of the same size. -/
theorem Calls.partOf {g h : Grid} {s t : Scratch} (call : g.Calls s h t)
    (fits : s.Fits g.roundLimit) : h.PartOf g ∧ s.SameRoom t := by
  induction call with
  | self => exact ⟨.refl g, .refl s⟩
  | @before h t t₁ p _ hw hh hsnake ih =>
    obtain ⟨part, same⟩ := ih
    obtain ⟨_, _, hsnake', same', hsplits⟩ :=
      exists_split hw hh ((fits.of_sameRoom same).mono part.roundLimit_le)
    cases hsnake.symm.trans hsnake'
    exact ⟨(PartOf.before hsplits).trans ((PartOf.core h).trans part), same.trans same'⟩
  | @after h t t₁ p _ hw hh hsnake ih =>
    obtain ⟨part, same⟩ := ih
    obtain ⟨_, _, hsnake', same', hsplits⟩ :=
      exists_split hw hh ((fits.of_sameRoom same).mono part.roundLimit_le)
    cases hsnake.symm.trans hsnake'
    have first := (PartOf.before hsplits).trans ((PartOf.core h).trans part)
    have room := fits.of_sameRoom (same.trans same')
    have same'' := ((h.core.before p).scriptWith_spec (room.mono first.roundLimit_le)).1
    exact ⟨(PartOf.after hsplits).trans ((PartOf.core h).trans part),
      (same.trans same').trans same''⟩

/-- Two tokens inside a grid that do not match are not the same. -/
theorem same_eq_false {g : Grid} {x y : Nat} (hx : x < g.width) (hy : y < g.height)
    (h : ¬g.Matches x y) : g.same x y = false := by
  rw [Bool.eq_false_iff]
  intro hs
  exact h ⟨hx, hy, hs⟩

/-- A point that splits a grid is neither its beginning nor its end. -/
theorem Splits.ne_corners {g : Grid} {p : Point} (h : g.Splits p) :
    p ≠ ⟨0, 0⟩ ∧ p ≠ ⟨g.width, g.height⟩ := by
  obtain ⟨_, _, hpos, hlt⟩ := h
  constructor
  · rintro rfl
    exact absurd hpos (Nat.lt_irrefl 0)
  · rintro rfl
    exact absurd hlt (Nat.lt_irrefl _)

/-- Both parts of what is left of a grid are smaller than the grid. -/
theorem Splits.smaller {h : Grid} {p : Point} (hp : h.core.Splits p) :
    (h.core.before p).width + (h.core.before p).height < h.width + h.height ∧
      (h.core.after p).width + (h.core.after p).height < h.width + h.height := by
  obtain ⟨hx, hy, hpos, hlt⟩ := hp
  have size := (PartOf.core h).size_le
  simp only [before, after, width_window, height_window]
  omega

end Grid

open Grid

/-- Whenever a diff searches two ranges for a middle snake, their first and their last tokens
differ, and the search finds a point inside them and away from both corners. So the two parts are
smaller, and the script is put together from theirs. No turn of the search leaves its frontiers or
the quarter plane, and all its numbers fit into machine words. -/
theorem search_splits [BEq α] {old new : List α} {h : Grid} {t : Scratch}
    (short : old.length + new.length < 2 ^ 62)
    (call : (ofLists old new).Calls (.ofSize (old.length + new.length)) h t)
    (hw : h.core.width ≠ 0) (hh : h.core.height ≠ 0) :
    (h.core.PartOf (ofLists old new) ∧ h.core.same 0 0 = false ∧
      h.core.same (h.core.width - 1) (h.core.height - 1) = false) ∧
    t.Fits h.core.roundLimit ∧
    (∃ t₁ p, middleSnake? h.core t = some (t₁, p) ∧
      (p.x ≤ h.core.width ∧ p.y ≤ h.core.height) ∧
      (p ≠ ⟨0, 0⟩ ∧ p ≠ ⟨h.core.width, h.core.height⟩) ∧
      ((h.core.before p).width + (h.core.before p).height < h.width + h.height ∧
        (h.core.after p).width + (h.core.after p).height < h.width + h.height) ∧
      (h.scriptWith t).2 = List.replicate h.leading .keep ++
        (((h.core.before p).scriptWith t₁).2 ++
          ((h.core.after p).scriptWith ((h.core.before p).scriptWith t₁).1).2) ++
        List.replicate h.closing .keep) ∧
    ∀ turn, t.HasTurn h.core turn →
      ∃ snake met, turn.Succeeds snake met ∧ turn.FitsWords snake := by
  have size : (ofLists old new).width + (ofLists old new).height = old.length + new.length := by
    rw [width_ofLists, height_ofLists]
  have fits : (Scratch.ofSize (old.length + new.length)).Fits (ofLists old new).roundLimit := by
    rw [roundLimit, size]
    exact ⟨Nat.le_refl _, Nat.le_refl _⟩
  obtain ⟨part, same⟩ := call.partOf fits
  have room : t.Fits h.roundLimit := (fits.of_sameRoom same).mono part.roundLimit_le
  have core := (PartOf.core h).trans part
  have small := core.size_le
  obtain ⟨t₁, p, hsnake, _, hsplits⟩ := exists_split hw hh room
  refine ⟨⟨core, ?_, ?_⟩, room.mono (PartOf.core h).roundLimit_le, ?_, ?_⟩
  · exact same_eq_false (by omega) (by omega) h.not_matches_core_first
  · exact same_eq_false (by omega) (by omega) h.not_matches_core_last
  · refine ⟨t₁, p, hsnake, ⟨hsplits.1, hsplits.2.1⟩, hsplits.ne_corners, hsplits.smaller, ?_⟩
    rw [scriptWith_of_splits hw hh hsnake hsplits]
  · intro turn hturn
    obtain ⟨snake, met, succeeds, near⟩ := hturn.exists_succeeds (two_le_distance_core hw hh)
      (room.mono (PartOf.core h).roundLimit_le)
      ⟨Nat.le_of_eq same.forward, Nat.le_of_eq same.backward⟩
    refine ⟨snake, met, succeeds, near.fitsWords ?_ ?_⟩
    · rw [hturn.size]
      omega
    · simp only [Scratch.ofSize, Frontier.radius_zero]
      omega

/-- From `a, b` to `b, a` nothing is common at either end, and both sides are searched in full. -/
theorem search_splits_swap :
    ['a', 'b'].length + ['b', 'a'].length < 2 ^ 62 ∧
    (ofLists ['a', 'b'] ['b', 'a']).Calls (.ofSize 4) (ofLists ['a', 'b'] ['b', 'a']) (.ofSize 4) ∧
    (ofLists ['a', 'b'] ['b', 'a']).core.width ≠ 0 ∧
    (ofLists ['a', 'b'] ['b', 'a']).core.height ≠ 0 ∧
    ∃ t₁ p, middleSnake? (ofLists ['a', 'b'] ['b', 'a']).core (.ofSize 4) = some (t₁, p) ∧
      p ≠ ⟨0, 0⟩ ∧ p ≠ ⟨2, 2⟩ := by
  have short : ['a', 'b'].length + ['b', 'a'].length < 2 ^ 62 := by decide
  have hw : (ofLists ['a', 'b'] ['b', 'a']).core.width = 2 := by decide
  have hh : (ofLists ['a', 'b'] ['b', 'a']).core.height = 2 := by decide
  have hw' : (ofLists ['a', 'b'] ['b', 'a']).core.width ≠ 0 := by rw [hw]; decide
  have hh' : (ofLists ['a', 'b'] ['b', 'a']).core.height ≠ 0 := by rw [hh]; decide
  obtain ⟨_, _, ⟨t₁, p, hsnake, _, corners, _⟩, _⟩ := search_splits short .self hw' hh'
  rw [hw, hh] at corners
  exact ⟨short, .self, hw', hh', t₁, p, hsnake, corners⟩

end Morphing.Diff
