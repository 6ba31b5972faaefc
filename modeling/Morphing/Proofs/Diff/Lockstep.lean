import Morphing.Proofs.Diff.Calls

/-!
# What a diff does not depend on

Two searches of a grid on different scratch spaces go in lockstep. A round reads only furthest
points, and those belong to the grid: two frontiers that are ready for a round agree wherever it
reads, whatever else they hold and however far they extend. So the searches find the same snakes,
meet at the same turn and return the same point, and scripts do not depend on the scratch space.

Nor does a script depend on what both sequences begin with: what is left behind it is the same part
of the same grid, only searched on a larger scratch space. So a diff of two sequences with a common
beginning is the beginning, kept, and the diff of what follows.
-/

namespace Morphing.Diff

theorem Furthest.unique {g : Grid} {d : Nat} {k : Int} {x x' : Nat} (h : Furthest g d k x)
    (h' : Furthest g d k x') : x = x' := by
  obtain ⟨y, hy, hc⟩ := h.exists_row
  obtain ⟨y', hy', hc'⟩ := h'.exists_row
  apply Nat.le_antisymm
  · exact (h'.cost_le_iff x y hy).mp hc
  · exact (h.cost_le_iff x' y' hy').mp hc'

namespace Frontier

variable {f f' : Frontier} {g h : Grid} {d e : Nat} {k : Int}

theorem Layer.get?_eq (layer : f.Layer g d) (layer' : f'.Layer g d) (hk : k ∈ diagonals d) :
    f.get? k = f'.get? k := by
  obtain ⟨x, hget, far⟩ := layer k hk
  obtain ⟨x', hget', far'⟩ := layer' k hk
  rw [hget, hget', far.unique far']

/-- Frontiers that are ready for a round lead into its diagonals at the same points. -/
theorem Ready.enter?_eq (ready : f.Ready g d) (ready' : f'.Ready g d) (hk : k ∈ diagonals d) :
    f.enter? d k = f'.enter? d k := by
  have hk := mem_diagonals.mp hk
  cases d with
  | zero =>
    obtain rfl : k = 0 := by omega
    have seed : f.get? 1 = some 0 := ready
    have seed' : f'.get? 1 = some 0 := ready'
    simp [enter?, seed, seed']
  | succ d =>
    have same : ∀ j ∈ diagonals d, f.get? j = f'.get? j := fun _ hj => Layer.get?_eq ready ready' hj
    rw [enter?, enter?]
    split
    · exact same _ (mem_diagonals.mpr (by omega))
    split
    · rw [same _ (mem_diagonals.mpr (by omega))]
    · rw [same _ (mem_diagonals.mpr (by omega)), same _ (mem_diagonals.mpr (by omega))]

theorem Ready.snake?_eq (ready : f.Ready g d) (ready' : f'.Ready g d) (hk : k ∈ diagonals d) :
    f.snake? g d k = f'.snake? g d k := by
  rw [snake?, snake?, ready.enter?_eq ready' hk]

/-- Frontiers of the opposite search that have completed a round give the same answers. -/
theorem Layer.covers?_eq (layer : f.Layer h e) (layer' : f'.Layer h e) (s : Snake)
    (parity : (e - (g.lastDiagonal - k)) % 2 = 0) :
    ∃ b, f.covers? g e k s = some b ∧ f'.covers? g e k s = some b := by
  obtain ⟨b, hb, hiff⟩ := covers?_spec layer s parity
  obtain ⟨b', hb', hiff'⟩ := covers?_spec layer' s parity
  obtain rfl : b = b' := Bool.eq_iff_iff.mpr (hiff.trans hiff'.symm)
  exact ⟨b, hb, hb'⟩

variable {meets meets' : Int → Snake → Option Bool}

/-- Sweeps that ask the same questions stop at the same snake. -/
theorem sweep_lockstep (ready : f.Ready g d) (ready' : f'.Ready g d) (room : d < f.radius)
    (room' : d < f'.radius) (same : ∀ k ∈ diagonals d, ∀ s, meets k s = meets' k s)
    {ks : List Int} (hsub : ∀ k ∈ ks, k ∈ diagonals d) :
    (f.sweep g d meets ks).map Prod.snd = (f'.sweep g d meets' ks).map Prod.snd := by
  induction ks generalizing f f' with
  | nil => rfl
  | cons k ks ih =>
    obtain ⟨hk, hks⟩ := List.forall_mem_cons.mp hsub
    have bounds := mem_diagonals.mp hk
    obtain ⟨s, hsnake, _⟩ := exists_snake ready hk
    have hsnake' := (ready.snake?_eq ready' hk).symm.trans hsnake
    obtain ⟨f₁, hset⟩ := Option.isSome_iff_exists.mp
      (set?_isSome (f := f) (k := k) s.finish.x (by omega) (by omega))
    obtain ⟨f₁', hset'⟩ := Option.isSome_iff_exists.mp
      (set?_isSome (f := f') (k := k) s.finish.x (by omega) (by omega))
    have later := ih (ready.of_set? hk hset) (ready'.of_set? hk hset')
      (radius_of_set? hset ▸ room) (radius_of_set? hset' ▸ room') hks
    rw [sweep, sweep, hsnake, hsnake']
    simp only [Option.bind_eq_bind, Option.bind_some, hset, hset', same k hk s]
    cases meets' k s with
    | none => rfl
    | some met =>
      cases met with
      | true => rfl
      | false => exact later

/-- Whole sweeps end with the same result, and both have recorded the layer of their round if they
find no meeting. -/
theorem exists_sweeps (ready : f.Ready g d) (ready' : f'.Ready g d) (room : d < f.radius)
    (room' : d < f'.radius)
    (same : ∀ k ∈ diagonals d, ∀ s, ∃ b, meets k s = some b ∧ meets' k s = some b) :
    ∃ f₁ f₁' r, f.sweep g d meets (diagonals d) = some (f₁, r) ∧
      f'.sweep g d meets' (diagonals d) = some (f₁', r) ∧
      (f₁.radius = f.radius ∧ f₁'.radius = f'.radius) ∧
      (r = none → f₁.Layer g d ∧ f₁'.Layer g d) := by
  have agree : ∀ k ∈ diagonals d, ∀ s, meets k s = meets' k s := by
    intro k hk s
    obtain ⟨b, hb, hb'⟩ := same k hk s
    rw [hb, hb']
  have answers : ∀ k ∈ diagonals d, ∀ s, (meets k s).isSome := by
    intro k hk s
    obtain ⟨b, hb, _⟩ := same k hk s
    rw [hb]
    rfl
  have answers' : ∀ k ∈ diagonals d, ∀ s, (meets' k s).isSome :=
    fun k hk s => agree k hk s ▸ answers k hk s
  obtain ⟨f₁, r, hsweep, hr, _, swept⟩ :=
    sweep_spec meets ready room answers (fun _ hk => hk) (nodup_diagonals d)
  obtain ⟨f₁', r', hsweep', hr', _, swept'⟩ :=
    sweep_spec meets' ready' room' answers' (fun _ hk => hk) (nodup_diagonals d)
  have lockstep := sweep_lockstep ready ready' room room' agree fun _ hk => hk
  rw [hsweep, hsweep'] at lockstep
  obtain rfl : r = r' := Option.some.inj lockstep
  refine ⟨f₁, f₁', r, hsweep, hsweep', ⟨hr, hr'⟩, ?_⟩
  rintro rfl
  exact ⟨swept.layer, swept'.layer⟩

end Frontier

namespace Scratch

variable {g : Grid} {d : Nat} {s t : Scratch}

theorem meetsForward_lockstep (ready : s.Ready g d) (ready' : t.Ready g d) :
    ∀ k ∈ diagonals d, ∀ snake, ∃ b,
      s.meetsForward g d k snake = some b ∧ t.meetsForward g d k snake = some b := by
  intro k hk snake
  cases hodd : g.isOdd with
  | false =>
    rw [meetsForward_of_even s hodd, meetsForward_of_even t hodd]
    exact ⟨false, rfl, rfl⟩
  | true =>
    cases d with
    | zero =>
      rw [meetsForward_zero s hodd, meetsForward_zero t hodd]
      exact ⟨false, rfl, rfl⟩
    | succ e =>
      have odd : (g.width + g.height) % 2 = 1 := by simpa [Grid.isOdd] using hodd
      have hk := mem_diagonals.mp hk
      rw [meetsForward_succ s hodd, meetsForward_succ t hodd]
      apply Frontier.Layer.covers?_eq ready.backward ready'.backward
      rw [Grid.lastDiagonal]
      omega

theorem meetsBackward_lockstep {forward forward' : Frontier} (layer : forward.Layer g d)
    (layer' : forward'.Layer g d) :
    ∀ k ∈ diagonals d, ∀ snake, ∃ b,
      meetsBackward forward g d k snake = some b ∧ meetsBackward forward' g d k snake = some b := by
  intro k hk snake
  cases hodd : g.isOdd with
  | true =>
    rw [meetsBackward_of_odd forward hodd, meetsBackward_of_odd forward' hodd]
    exact ⟨false, rfl, rfl⟩
  | false =>
    have even : (g.width + g.height) % 2 = 0 := by simpa [Grid.isOdd] using hodd
    have hk := mem_diagonals.mp hk
    rw [meetsBackward_of_even forward hodd, meetsBackward_of_even forward' hodd]
    apply layer.covers?_eq layer'
    rw [Grid.lastDiagonal_flip, Grid.lastDiagonal]
    omega

/-- Rounds of two searches end alike: both outside the grid, both at the same point, or both ready
for the next round. -/
theorem round_lockstep (ready : s.Ready g d) (ready' : t.Ready g d) (fits : s.Fits (d + 1))
    (fits' : t.Fits (d + 1)) :
    s.round g d = none ∧ t.round g d = none ∨
      ∃ s₁ t₁ r, s.round g d = some (s₁, r) ∧ t.round g d = some (t₁, r) ∧
        (s.SameRoom s₁ ∧ t.SameRoom t₁) ∧
        (r = none → s₁.Ready g (d + 1) ∧ t₁.Ready g (d + 1)) := by
  obtain ⟨forward, forward', r, forth, forth', ⟨hrf, hrf'⟩, layers⟩ :=
    Frontier.exists_sweeps ready.forward ready'.forward fits.forward fits'.forward
      (meetsForward_lockstep ready ready')
  cases r with
  | some snake =>
    exact .inr ⟨_, _, _, round_of_forward forth, round_of_forward forth',
      ⟨⟨hrf, rfl⟩, ⟨hrf', rfl⟩⟩, nofun⟩
  | none =>
    obtain ⟨layer, layer'⟩ := layers rfl
    obtain ⟨backward, backward', r, back, back', ⟨hrb, hrb'⟩, layers'⟩ :=
      Frontier.exists_sweeps ready.backward ready'.backward fits.backward fits'.backward
        (meetsBackward_lockstep layer layer')
    cases r with
    | none =>
      obtain ⟨layerb, layerb'⟩ := layers' rfl
      exact .inr ⟨_, _, _, round_of_passed forth back, round_of_passed forth' back',
        ⟨⟨hrf, hrb⟩, ⟨hrf', hrb'⟩⟩, fun _ => ⟨⟨layer, layerb⟩, ⟨layer', layerb'⟩⟩⟩
    | some snake =>
      cases hp : snake.finish.flip? g with
      | none =>
        left
        rw [round_of_met forth back, round_of_met forth' back', hp]
        exact ⟨rfl, rfl⟩
      | some p =>
        exact .inr ⟨_, _, _, round_of_backward forth back hp, round_of_backward forth' back' hp,
          ⟨⟨hrf, hrb⟩, ⟨hrf', hrb'⟩⟩, nofun⟩

/-- Searches that are ready for a round come to the same point. -/
theorem rounds_lockstep (count : Nat) (ready : s.Ready g d) (ready' : t.Ready g d)
    (fits : s.Fits (d + count)) (fits' : t.Fits (d + count)) :
    (s.rounds g d count).map Prod.snd = (t.rounds g d count).map Prod.snd := by
  induction count generalizing d s t with
  | zero => rfl
  | succ count ih =>
    have room : d + 1 ≤ d + (count + 1) := by omega
    rw [rounds, rounds]
    obtain ⟨hs, ht⟩ | ⟨s₁, t₁, r, hs, ht, ⟨same, same'⟩, next⟩ :=
      round_lockstep ready ready' (fits.mono room) (fits'.mono room)
    · rw [hs, ht]
    · rw [hs, ht]
      cases r with
      | some p => rfl
      | none =>
        obtain ⟨ready, ready'⟩ := next rfl
        have later : d + 1 + count = d + (count + 1) := by omega
        exact ih ready ready' (later ▸ fits.of_sameRoom same) (later ▸ fits'.of_sameRoom same')

end Scratch

/-- The point that a search for a middle snake returns does not depend on the scratch space. -/
theorem middleSnake?_lockstep {g : Grid} {s t : Scratch} (two : s.Fits 2) (two' : t.Fits 2)
    (fits : s.Fits g.roundLimit) (fits' : t.Fits g.roundLimit) :
    (middleSnake? g s).map Prod.snd = (middleSnake? g t).map Prod.snd := by
  obtain ⟨s₁, hs, same, ready⟩ := Scratch.exists_begin g two
  obtain ⟨t₁, ht, same', ready'⟩ := Scratch.exists_begin g two'
  have fits₁ := fits.of_sameRoom same
  have fits₁' := fits'.of_sameRoom same'
  simp only [middleSnake?, hs, ht, Option.bind_eq_bind, Option.bind_some,
    Scratch.check?_of_fits fits₁, Scratch.check?_of_fits fits₁']
  apply Scratch.rounds_lockstep g.roundLimit ready ready'
  · rwa [Nat.zero_add]
  · rwa [Nat.zero_add]

namespace Grid

theorem two_le_roundLimit {g : Grid} (hg : 0 < g.width + g.height) : 2 ≤ g.roundLimit := by
  rw [roundLimit]
  omega

/-- Nor does the script of a grid. -/
theorem scriptWith_lockstep (g : Grid) {s t : Scratch} (fits : s.Fits g.roundLimit)
    (fits' : t.Fits g.roundLimit) : (g.scriptWith s).2 = (g.scriptWith t).2 := by
  generalize hsize : g.width + g.height = size
  induction size using Nat.strongRecOn generalizing g s t with
  | ind size ih =>
    by_cases hempty : g.core.width = 0 ∨ g.core.height = 0
    · rw [scriptWith, scriptWith]
      simp only [hempty, if_true]
    · rw [not_or] at hempty
      obtain ⟨hw, hh⟩ := hempty
      have inner := (PartOf.core g).roundLimit_le
      have two := two_le_roundLimit (g := g.core) (by omega)
      obtain ⟨s₁, p, hs, same, hsplits⟩ := exists_split hw hh fits
      obtain ⟨t₁, q, ht, same', -⟩ := exists_split hw hh fits'
      have points := middleSnake?_lockstep (fits.mono (Nat.le_trans two inner))
        (fits'.mono (Nat.le_trans two inner)) (fits.mono inner) (fits'.mono inner)
      rw [hs, ht] at points
      obtain rfl : p = q := Option.some.inj points
      have before := (PartOf.before hsplits).trans (PartOf.core g)
      have after := (PartOf.after hsplits).trans (PartOf.core g)
      have room := fits.of_sameRoom same
      have room' := fits'.of_sameRoom same'
      have first := ih _ (hsize ▸ hsplits.smaller.1) (g.core.before p)
        (room.mono before.roundLimit_le) (room'.mono before.roundLimit_le) rfl
      have left := (scriptWith_spec (g.core.before p) (room.mono before.roundLimit_le)).1
      have left' := (scriptWith_spec (g.core.before p) (room'.mono before.roundLimit_le)).1
      have second := ih _ (hsize ▸ hsplits.smaller.2) (g.core.after p)
        ((room.of_sameRoom left).mono after.roundLimit_le)
        ((room'.of_sameRoom left').mono after.roundLimit_le) rfl
      rw [scriptWith_of_splits hw hh hs hsplits, scriptWith_of_splits hw hh ht hsplits, first,
        second]

/-! ### Common beginnings -/

section Beginnings

variable {g : Grid} {n : Nat} {p : Point} {i j : Nat}

theorem matches_after (hx : p.x ≤ g.width) (hy : p.y ≤ g.height) :
    (g.after p).Matches i j ↔ g.Matches (p.x + i) (p.y + j) := by
  rw [after, matches_window (by omega) (by omega)]
  constructor
  · rintro ⟨_, _, h⟩
    exact h
  · intro h
    exact ⟨Nat.lt_sub_of_add_lt (Nat.add_comm _ _ ▸ h.1),
      Nat.lt_sub_of_add_lt (Nat.add_comm _ _ ▸ h.2.1), h⟩

theorem after_after (g : Grid) (p q : Point) :
    (g.after p).after q = g.after ⟨p.x + q.x, p.y + q.y⟩ := by
  simp only [after, window, Nat.sub_sub, Nat.add_assoc]

theorem leading_eq (begins : ∀ i < n, g.Matches i i) (stops : ¬g.Matches n n) : g.leading = n := by
  obtain less | same | more := Nat.lt_trichotomy g.leading n
  · exact absurd (begins _ less) g.not_matches_leading
  · exact same
  · exact absurd (matches_leading more) stops

theorem le_of_begins (begins : ∀ i < n, g.Matches i i) : n ≤ g.width ∧ n ≤ g.height := by
  cases n with
  | zero => exact ⟨Nat.zero_le _, Nat.zero_le _⟩
  | succ n =>
    obtain ⟨hx, hy, _⟩ := begins n (Nat.lt_succ_self n)
    exact ⟨hx, hy⟩

theorem leading_of_begins (begins : ∀ i < n, g.Matches i i) :
    g.leading = n + (g.after ⟨n, n⟩).leading := by
  obtain ⟨hx, hy⟩ := le_of_begins begins
  apply leading_eq
  · intro i hi
    obtain inside | beyond := Nat.lt_or_ge i n
    · exact begins i inside
    · have later : (g.after ⟨n, n⟩).Matches (i - n) (i - n) := matches_leading (by omega)
      rw [matches_after hx hy] at later
      simpa only [Nat.add_sub_cancel' beyond] using later
  · rw [← matches_after (p := ⟨n, n⟩) hx hy]
    exact not_matches_leading _

theorem rest_of_begins (begins : ∀ i < n, g.Matches i i) : g.rest = (g.after ⟨n, n⟩).rest := by
  rw [rest, rest, after_after, ← leading_of_begins begins]

/-- What follows a common beginning is searched in the same way with and without it. -/
theorem scriptWith_of_begins (begins : ∀ i < n, g.Matches i i) (s : Scratch) :
    (g.scriptWith s).2 = List.replicate n .keep ++ ((g.after ⟨n, n⟩).scriptWith s).2 := by
  have core : g.core = (g.after ⟨n, n⟩).core := by
    rw [core_eq, core_eq, coreEnd, coreEnd, rest_of_begins begins]
  have closing : g.closing = (g.after ⟨n, n⟩).closing :=
    congrArg trailing (rest_of_begins begins)
  rw [scriptWith]
  conv => rhs; rw [scriptWith]
  simp only [core, closing, leading_of_begins begins, ← List.replicate_append_replicate,
    List.append_assoc]

/-- A common beginning is kept, and the rest of the script is that of what follows. -/
theorem script_of_begins (begins : ∀ i < n, g.Matches i i) :
    g.script = List.replicate n .keep ++ (g.after ⟨n, n⟩).script := by
  obtain ⟨hx, hy⟩ := le_of_begins begins
  have part : (g.after ⟨n, n⟩).PartOf g :=
    .window (Nat.le_of_eq (Nat.add_sub_cancel' hx)) (Nat.le_of_eq (Nat.add_sub_cancel' hy))
  have big : (Scratch.ofSize (g.width + g.height)).Fits g.roundLimit :=
    ⟨Nat.le_refl _, Nat.le_refl _⟩
  rw [script, scriptWith_of_begins begins, script]
  exact congrArg _ (scriptWith_lockstep _ (big.mono part.roundLimit_le)
    ⟨Nat.le_refl _, Nat.le_refl _⟩)

end Beginnings

end Grid

end Morphing.Diff
