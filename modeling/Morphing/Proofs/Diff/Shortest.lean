import Morphing.Proofs.Diff.Search

/-!
# The script of a grid is shortest

`Grid.scriptWith` keeps common beginnings and ends and splits what is left between them at a middle
snake. Neither changes the distance: matches at the corners are free, and the two parts of a grid
that is split on a shortest path have its distance between them. So the script is a path through the
grid with as many edits as its distance, on any scratch space with room for the rounds, and it is
never put together from removals and additions alone unless one side is empty.
-/

namespace Morphing.Diff

namespace Path

variable {g : Grid} {steps : List Step} {p : Point} {x y u v : Nat}

theorem of_before (path : Path (g.before p) steps x y u v) (hx : p.x ≤ g.width)
    (hy : p.y ≤ g.height) : Path g steps x y u v := by
  have whole := path.of_window (by rwa [Nat.zero_add]) (by rwa [Nat.zero_add])
  simpa only [Nat.zero_add] using whole

theorem of_after (path : Path (g.after p) steps x y u v) (hx : p.x ≤ g.width)
    (hy : p.y ≤ g.height) : Path g steps (p.x + x) (p.y + y) (p.x + u) (p.y + v) :=
  path.of_window (Nat.le_of_eq (Nat.add_sub_cancel' hx)) (Nat.le_of_eq (Nat.add_sub_cancel' hy))

end Path

namespace Grid

variable {g : Grid}

theorem matches_window {a b w h i j : Nat} (hw : a + w ≤ g.width) (hh : b + h ≤ g.height) :
    (g.window a b w h).Matches i j ↔ i < w ∧ j < h ∧ g.Matches (a + i) (b + j) := by
  simp only [Matches, width_window, height_window, same_window]
  constructor
  · rintro ⟨hi, hj, hs⟩
    exact ⟨hi, hj, by omega, by omega, hs⟩
  · rintro ⟨hi, hj, _, _, hs⟩
    exact ⟨hi, hj, hs⟩

/-- What lies before a point costs what the point costs. -/
theorem distance_before {p : Point} (hx : p.x ≤ g.width) (hy : p.y ≤ g.height) :
    (g.before p).distance = g.cost p.x p.y := by
  apply cost_congr
  intro i j hi hj
  rw [before, matches_window (by omega) (by omega), Nat.zero_add, Nat.zero_add]
  constructor
  · rintro ⟨_, _, h⟩
    exact h
  · intro h
    exact ⟨hi, hj, h⟩

/-- What lies after it costs what the point costs in the flipped grid. -/
theorem distance_after {p : Point} (hx : p.x ≤ g.width) (hy : p.y ≤ g.height) :
    (g.after p).distance = g.flip.cost (g.width - p.x) (g.height - p.y) := by
  rw [← distance_flip]
  apply cost_congr
  intro i j hi hj
  simp only [after, width_window, height_window, width_flip, height_flip] at hi hj
  have ex : p.x + (g.width - p.x - 1 - i) = g.width - 1 - i := by omega
  have ey : p.y + (g.height - p.y - 1 - j) = g.height - 1 - j := by omega
  simp only [Matches, after, width_flip, height_flip, same_flip, width_window, height_window,
    same_window, ex, ey]
  constructor
  · rintro ⟨_, _, hs⟩
    exact ⟨by omega, by omega, hs⟩
  · rintro ⟨_, _, hs⟩
    exact ⟨hi, hj, hs⟩

/-- What is left of a grid behind the common beginning. -/
def rest (g : Grid) : Grid := g.after ⟨g.leading, g.leading⟩

/-- Where the common end of that begins. -/
def coreEnd (g : Grid) : Point :=
  ⟨g.rest.width - g.rest.trailing, g.rest.height - g.rest.trailing⟩

theorem core_eq (g : Grid) : g.core = g.rest.before g.coreEnd := rfl

theorem width_rest_add (g : Grid) : g.leading + g.rest.width = g.width := by
  have := g.leading_le_width
  simp only [rest, after, width_window]
  omega

theorem height_rest_add (g : Grid) : g.leading + g.rest.height = g.height := by
  have := g.leading_le_height
  simp only [rest, after, height_window]
  omega

theorem width_core_add (g : Grid) : g.core.width + g.closing = g.rest.width := by
  have := g.rest.trailing_le_width
  exact Nat.sub_add_cancel this

theorem height_core_add (g : Grid) : g.core.height + g.closing = g.rest.height := by
  have := g.rest.trailing_le_height
  exact Nat.sub_add_cancel this

/-- The common beginning of a grid, from its first point. -/
theorem matches_zero_add_leading {i : Nat} (h : i < g.leading) : g.Matches (0 + i) (0 + i) :=
  matches_of_lt_runFrom h

theorem matches_leading {i : Nat} (h : i < g.leading) : g.Matches i i := by
  have := matches_zero_add_leading h
  rwa [Nat.zero_add] at this

theorem not_matches_leading (g : Grid) : ¬g.Matches g.leading g.leading := by
  have stop := g.not_matches_runFrom 0 0
  rw [Nat.zero_add] at stop
  exact stop

/-- The common end of a grid, from where it begins. -/
theorem matches_trailing {i : Nat} (h : i < g.trailing) :
    g.Matches (g.width - g.trailing + i) (g.height - g.trailing + i) := by
  have hw := g.trailing_le_width
  have hh := g.trailing_le_height
  have hm : g.flip.Matches (g.trailing - 1 - i) (g.trailing - 1 - i) := by
    apply matches_leading
    show _ < g.trailing
    omega
  have := matches_of_flip hm
  have ex : g.width - 1 - (g.trailing - 1 - i) = g.width - g.trailing + i := by omega
  have ey : g.height - 1 - (g.trailing - 1 - i) = g.height - g.trailing + i := by omega
  rwa [ex, ey] at this

theorem distance_rest (g : Grid) : g.rest.distance = g.distance := by
  have slid := cost_flip_slide fun _ hi => matches_zero_add_leading (g := g) hi
  rw [rest, distance_after g.leading_le_width g.leading_le_height, ← distance_flip g]
  simp only [Nat.zero_add, Nat.sub_zero] at slid
  exact slid.symm

/-- Stripping the common beginning and end does not change the distance. -/
theorem distance_core (g : Grid) : g.core.distance = g.distance := by
  have hw := g.rest.trailing_le_width
  have hh := g.rest.trailing_le_height
  have slid := cost_slide fun _ hi => matches_trailing (g := g.rest) hi
  rw [Nat.sub_add_cancel hw, Nat.sub_add_cancel hh] at slid
  have inner : g.core.distance = g.rest.cost g.coreEnd.x g.coreEnd.y := by
    rw [core_eq]
    exact distance_before (Nat.sub_le _ _) (Nat.sub_le _ _)
  calc g.core.distance
      _ = g.rest.cost g.coreEnd.x g.coreEnd.y := inner
      _ = g.rest.distance := slid.symm
      _ = g.distance := distance_rest g

theorem matches_rest_of_core {i j : Nat} (h : g.core.Matches i j) : g.rest.Matches i j := by
  have cw := g.width_core_add
  have ch := g.height_core_add
  obtain ⟨hi, hj, hs⟩ := h
  rw [core_eq, before, same_window, Nat.zero_add, Nat.zero_add] at hs
  exact ⟨by omega, by omega, hs⟩

/-- What is left begins with a difference. -/
theorem not_matches_core_first (g : Grid) : ¬g.core.Matches 0 0 := by
  intro h
  obtain ⟨hx, hy, hs⟩ := matches_rest_of_core h
  have hw := g.width_rest_add
  have hh := g.height_rest_add
  exact g.not_matches_leading ⟨by omega, by omega, hs⟩

/-- It ends with a difference as well. -/
theorem not_matches_core_last (g : Grid) :
    ¬g.core.Matches (g.core.width - 1) (g.core.height - 1) := by
  intro h
  have hx := h.1
  have hy := h.2.1
  have hm := matches_rest_of_core h
  have cw := g.width_core_add
  have ch := g.height_core_add
  have flipped := (matches_flip hm.1 hm.2.1).mpr hm
  have stop : ¬g.rest.flip.Matches g.closing g.closing := g.rest.flip.not_matches_leading
  have ex : g.rest.width - 1 - (g.core.width - 1) = g.closing := by omega
  have ey : g.rest.height - 1 - (g.core.height - 1) = g.closing := by omega
  rw [ex, ey] at flipped
  exact stop flipped

theorem two_le_distance_core (hw : g.core.width ≠ 0) (hh : g.core.height ≠ 0) :
    2 ≤ g.core.distance :=
  two_le_distance (Nat.pos_of_ne_zero hw) (Nat.pos_of_ne_zero hh) g.not_matches_core_first
    g.not_matches_core_last

/-- A shortest path through what is left, between the kept beginning and the kept end, is a shortest
path through the whole grid. -/
theorem path_of_core {inner : List Step} (path : Path g.core inner 0 0 g.core.width g.core.height) :
    Path g (List.replicate g.leading .keep ++ inner ++ List.replicate g.closing .keep) 0 0
      g.width g.height := by
  have start := Path.slide fun _ hi => matches_zero_add_leading (g := g) hi
  have middle : Path g.rest inner 0 0 g.core.width g.core.height :=
    Path.of_before (p := g.coreEnd) path (Nat.sub_le _ _) (Nat.sub_le _ _)
  have finish := Path.slide (g := g.rest) (x := g.core.width) (y := g.core.height)
    (k := g.closing) fun i hi => matches_trailing hi
  have inside := (middle.trans finish).of_after g.leading_le_width g.leading_le_height
  simp only [Nat.add_zero, Nat.zero_add, width_core_add, height_core_add, width_rest_add,
    height_rest_add] at inside start
  rw [List.append_assoc]
  exact start.trans inside

/-- A script for an empty side only removes or only adds. -/
theorem replaceAll_spec (h : g.width = 0 ∨ g.height = 0) :
    Path g (replaceAll g.width g.height) 0 0 g.width g.height ∧
      edits (replaceAll g.width g.height) = g.distance := by
  have path := (Path.removals (g := g) 0 0 g.width).trans (Path.additions _ 0 g.height)
  rw [Nat.zero_add, Nat.zero_add] at path
  refine ⟨path, ?_⟩
  rw [replaceAll, edits_append, distance]
  obtain h | h := h <;> simp [h]

/-- A point that splits what is left splits the script. -/
theorem scriptWith_of_splits {s s₁ : Scratch} {p : Point} (hw : g.core.width ≠ 0)
    (hh : g.core.height ≠ 0) (hsnake : middleSnake? g.core s = some (s₁, p))
    (hsplits : g.core.Splits p) :
    g.scriptWith s =
      (((g.core.after p).scriptWith ((g.core.before p).scriptWith s₁).1).1,
        List.replicate g.leading .keep ++
          (((g.core.before p).scriptWith s₁).2 ++
            ((g.core.after p).scriptWith ((g.core.before p).scriptWith s₁).1).2) ++
          List.replicate g.closing .keep) := by
  rw [scriptWith]
  simp only [hw, hh, or_self, if_false, hsnake, hsplits, if_true]

/-- `Grid.scriptWith` finds a shortest path through a grid. -/
theorem scriptWith_spec (g : Grid) {s : Scratch} (fits : s.Fits g.roundLimit) :
    s.SameRoom (g.scriptWith s).1 ∧ Path g (g.scriptWith s).2 0 0 g.width g.height ∧
      edits (g.scriptWith s).2 = g.distance := by
  generalize hsize : g.width + g.height = size
  induction size using Nat.strongRecOn generalizing g s with
  | ind size ih =>
    -- It is enough to know what the part between the common beginning and the common end comes to.
    have whole : ∀ (s' : Scratch) (inner : List Step), s.SameRoom s' →
        Path g.core inner 0 0 g.core.width g.core.height → edits inner = g.core.distance →
        g.scriptWith s = (s', List.replicate g.leading .keep ++ inner ++
          List.replicate g.closing .keep) →
        s.SameRoom (g.scriptWith s).1 ∧ Path g (g.scriptWith s).2 0 0 g.width g.height ∧
          edits (g.scriptWith s).2 = g.distance := by
      intro s' inner same path hedits heq
      rw [heq]
      exact ⟨same, path_of_core path, by simp [hedits, distance_core]⟩
    have cw := g.width_core_le
    have ch := g.height_core_le
    by_cases hempty : g.core.width = 0 ∨ g.core.height = 0
    · obtain ⟨path, hedits⟩ := replaceAll_spec hempty
      apply whole s _ (.refl s) path hedits
      rw [scriptWith]
      simp only [hempty, if_true]
    · rw [not_or] at hempty
      have smaller : ∀ h : Grid, h.width + h.height ≤ g.core.width + g.core.height →
          h.roundLimit ≤ g.roundLimit := by
        intro h hle
        rw [roundLimit, roundLimit]
        omega
      obtain ⟨s₁, p, hsnake, same, ⟨hx, hy, hpos, hlt⟩, hsum⟩ :=
        exists_middleSnake (two_le_distance_core hempty.1 hempty.2)
          (fits.mono (smaller _ (Nat.le_refl _)))
      have hbefore : (g.core.before p).width + (g.core.before p).height = p.x + p.y := rfl
      have hafter : (g.core.after p).width + (g.core.after p).height =
          g.core.width - p.x + (g.core.height - p.y) := rfl
      obtain ⟨same₁, path₁, hedits₁⟩ := ih _ (by omega) (g.core.before p)
        ((fits.of_sameRoom same).mono (smaller _ (by omega))) hbefore
      obtain ⟨same₂, path₂, hedits₂⟩ := ih _ (by omega) (g.core.after p)
        (((fits.of_sameRoom same).of_sameRoom same₁).mono (smaller _ (by omega))) hafter
      have first := path₁.of_before hx hy
      have second := path₂.of_after hx hy
      have ex : p.x + (g.core.after p).width = g.core.width := Nat.add_sub_cancel' hx
      have ey : p.y + (g.core.after p).height = g.core.height := Nat.add_sub_cancel' hy
      rw [ex, ey, Nat.add_zero, Nat.add_zero] at second
      apply whole _ _ ((same.trans same₁).trans same₂) (first.trans second)
      · rw [edits_append, hedits₁, hedits₂, distance_before hx hy, distance_after hx hy, hsum]
      · exact scriptWith_of_splits hempty.1 hempty.2 hsnake ⟨hx, hy, hpos, hlt⟩

/-- The script of a grid is a path through it. -/
theorem path_script (g : Grid) : Path g g.script 0 0 g.width g.height :=
  (g.scriptWith_spec ⟨Nat.le_refl _, Nat.le_refl _⟩).2.1

/-- It has as few edits as any. -/
theorem edits_script (g : Grid) : edits g.script = g.distance :=
  (g.scriptWith_spec ⟨Nat.le_refl _, Nat.le_refl _⟩).2.2

theorem edits_script_le {steps : List Step} (path : Path g steps 0 0 g.width g.height) :
    edits g.script ≤ edits steps := by
  have := path.cost_le
  rwa [cost_zero_left, Nat.zero_add, ← distance, ← edits_script] at this

end Grid

end Morphing.Diff
