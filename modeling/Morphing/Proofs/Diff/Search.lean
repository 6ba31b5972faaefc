import Morphing.Proofs.Diff.Meeting

/-!
# The search for a middle snake

The rounds of `middleSnake?` keep both frontiers ready for the next round until the searches meet,
which happens in round `⌈D / 2⌉` for a grid of distance `D`: in the forward sweep if `D` is odd and
in the backward one if it is even. Neither the contents of the scratch space nor its size matter, as
long as it has room for the rounds.
-/

namespace Morphing.Diff

/-- Room for the diagonals of rounds before `limit`. -/
structure Scratch.Fits (s : Scratch) (limit : Nat) : Prop where
  forward : limit ≤ s.forward.radius
  backward : limit ≤ s.backward.radius

/-- The same room, whatever the cells hold. -/
structure Scratch.SameRoom (s s' : Scratch) : Prop where
  forward : s'.forward.radius = s.forward.radius
  backward : s'.backward.radius = s.backward.radius

theorem Scratch.SameRoom.refl (s : Scratch) : s.SameRoom s := ⟨rfl, rfl⟩

theorem Scratch.SameRoom.trans {s t u : Scratch} (first : s.SameRoom t) (second : t.SameRoom u) :
    s.SameRoom u :=
  ⟨second.forward.trans first.forward, second.backward.trans first.backward⟩

theorem Scratch.Fits.of_sameRoom {s s' : Scratch} {limit : Nat} (fits : s.Fits limit)
    (same : s.SameRoom s') : s'.Fits limit :=
  ⟨same.forward ▸ fits.forward, same.backward ▸ fits.backward⟩

theorem Scratch.Fits.mono {s : Scratch} {limit limit' : Nat} (fits : s.Fits limit)
    (h : limit' ≤ limit) : s.Fits limit' :=
  ⟨Nat.le_trans h fits.forward, Nat.le_trans h fits.backward⟩

namespace Frontier

variable {f opposite : Frontier} {g h : Grid} {d e : Nat} {k : Int}

/-- A snake covers the gap exactly if it overlaps with the furthest point of the opposite search. -/
theorem covers?_spec (layer : opposite.Layer h e) (s : Snake)
    (parity : (e - (g.lastDiagonal - k)) % 2 = 0) :
    ∃ b, opposite.covers? g e k s = some b ∧
      (b = true ↔ g.lastDiagonal - k ∈ diagonals e ∧
        ∃ U, Furthest h e (g.lastDiagonal - k) U ∧ g.width ≤ s.finish.x + U) := by
  by_cases hreach : -(e : Int) ≤ g.lastDiagonal - k ∧ g.lastDiagonal - k ≤ e
  · have hk := mem_diagonals.mpr ⟨hreach.1, hreach.2, parity⟩
    obtain ⟨U, hget, hfar⟩ := layer _ hk
    refine ⟨decide (g.width ≤ s.finish.x + U), ?_, ?_⟩
    · apply (if_pos hreach).trans
      show (opposite.get? (g.lastDiagonal - k)).map _ = _
      rw [hget]
      rfl
    · rw [decide_eq_true_iff]
      constructor
      · intro hover
        exact ⟨hk, U, hfar, hover⟩
      · rintro ⟨_, V, hfar', hover⟩
        obtain ⟨y, hy, hc⟩ := hfar'.exists_row
        have := (hfar.cost_le_iff V y hy).mp hc
        omega
  · refine ⟨false, if_neg hreach, ?_⟩
    simp only [Bool.false_eq_true, false_iff]
    rintro ⟨hk, _⟩
    have := mem_diagonals.mp hk
    exact hreach ⟨this.1, this.2.1⟩

/-- A sweep that looks for no meeting records the layer of its round. -/
theorem sweep_blind (ready : f.Ready g d) (hradius : d < f.radius) :
    ∃ f', f.sweep g d (fun _ _ => some false) (diagonals d) = some (f', none) ∧
      f'.radius = f.radius ∧ f'.Layer g d := by
  obtain ⟨f', r, hsweep, hr, _, hswept⟩ :=
    sweep_spec (fun _ _ => some false) ready hradius (fun _ _ _ => rfl)
      (fun _ hk => hk) (nodup_diagonals d)
  cases r with
  | none => exact ⟨f', hsweep, hr, hswept.layer⟩
  | some s =>
    cases hswept with
    | met _ _ hm => cases hm

/-- A sweep that looks for a meeting with a search that has taken `e` steps either finds one, or
records the layer of its round and proves that the searches do not overlap yet. -/
theorem sweep_covers (ready : f.Ready g d) (hradius : d < f.radius) (layer : opposite.Layer h e)
    (parity : (d + e) % 2 = (g.width + g.height) % 2) :
    ∃ f' r, f.sweep g d (fun k s => opposite.covers? g e k s) (diagonals d) = some (f', r) ∧
      f'.radius = f.radius ∧
      ((∃ k s U, r = some s ∧ s.Ends g d k ∧ Furthest h e (g.lastDiagonal - k) U ∧
          g.width ≤ s.finish.x + U) ∨
        r = none ∧ f'.Layer g d ∧
          ¬∃ k ∈ diagonals d, g.lastDiagonal - k ∈ diagonals e ∧ ∀ X U, Furthest g d k X →
            Furthest h e (g.lastDiagonal - k) U → g.width ≤ X + U) := by
  have opens : ∀ k ∈ diagonals d, ∀ s, ∃ b, opposite.covers? g e k s = some b ∧
      (b = true ↔ g.lastDiagonal - k ∈ diagonals e ∧
        ∃ U, Furthest h e (g.lastDiagonal - k) U ∧ g.width ≤ s.finish.x + U) := by
    intro k hk s
    have hk' := mem_diagonals.mp hk
    exact covers?_spec layer s (by rw [Grid.lastDiagonal]; omega)
  have answers : ∀ k ∈ diagonals d, ∀ s, (opposite.covers? g e k s).isSome := by
    intro k hk s
    obtain ⟨b, hb, _⟩ := opens k hk s
    rw [hb]
    rfl
  obtain ⟨f', r, hsweep, hr, _, hswept⟩ :=
    sweep_spec (fun k s => opposite.covers? g e k s) ready hradius answers
      (fun _ hk => hk) (nodup_diagonals d)
  refine ⟨f', r, hsweep, hr, ?_⟩
  cases hswept with
  | @met k s hk hends hm =>
    obtain ⟨b, hb, hiff⟩ := opens k hk s
    obtain rfl : b = true := by simpa [hb] using hm
    obtain ⟨_, U, hfar, hover⟩ := hiff.mp rfl
    exact .inl ⟨k, s, U, rfl, hends, hfar, hover⟩
  | passed hall =>
    refine .inr ⟨rfl, (Swept.passed hall).layer, ?_⟩
    rintro ⟨k, hk, hk', hover⟩
    obtain ⟨s, hends, hm, _⟩ := hall k hk
    obtain ⟨b, hb, hiff⟩ := opens k hk s
    obtain ⟨U, _, hfar⟩ := layer _ hk'
    have hb' := hiff.mpr ⟨hk', U, hfar, hover _ U hends.furthest hfar⟩
    simp [hb, hb'] at hm

end Frontier

namespace Scratch

variable {g : Grid} {d : Nat} {s : Scratch}

/-- Both frontiers hold what round `d` reads. -/
structure Ready (s : Scratch) (g : Grid) (d : Nat) : Prop where
  forward : s.forward.Ready g d
  backward : s.backward.Ready g.flip d

/-- Whether a forward snake of round `d` meets the backward search. -/
def meetsForward (s : Scratch) (g : Grid) (d : Nat) (k : Int) (snake : Snake) : Option Bool :=
  if g.isOdd then s.backward.covers? g ((d : Int) - 1) k snake else some false

/-- Whether a backward snake of round `d` meets the forward search. -/
def meetsBackward (forward : Frontier) (g : Grid) (d : Nat) (k : Int) (snake : Snake) :
    Option Bool :=
  if g.isOdd then some false else forward.covers? g d k snake

theorem meetsForward_zero (s : Scratch) (hodd : g.isOdd = true) :
    s.meetsForward g 0 = fun _ _ => some false := by
  funext k snake
  have out : ¬(-(((0 : Nat) : Int) - 1) ≤ (g.width : Int) - g.height - k ∧
      (g.width : Int) - g.height - k ≤ ((0 : Nat) : Int) - 1) := by omega
  simp only [meetsForward, hodd, if_true]
  exact if_neg out

theorem meetsForward_succ (s : Scratch) (hodd : g.isOdd = true) (e : Nat) :
    s.meetsForward g (e + 1) = fun k snake => s.backward.covers? g e k snake := by
  funext k snake
  have hreach : ((e + 1 : Nat) : Int) - 1 = e := by omega
  simp only [meetsForward, hodd, if_true, hreach]

theorem meetsForward_of_even (s : Scratch) (heven : g.isOdd = false) (d : Nat) :
    s.meetsForward g d = fun _ _ => some false := by
  funext k snake
  simp [meetsForward, heven]

theorem meetsBackward_of_odd (forward : Frontier) (hodd : g.isOdd = true) (d : Nat) :
    meetsBackward forward g d = fun _ _ => some false := by
  funext k snake
  simp [meetsBackward, hodd]

theorem meetsBackward_of_even (forward : Frontier) (heven : g.isOdd = false) (d : Nat) :
    meetsBackward forward g d = fun k snake => forward.covers? g.flip d k snake := by
  funext k snake
  simp only [meetsBackward, heven, Bool.false_eq_true, if_false]
  rfl

theorem round_of_forward {forward : Frontier} {snake : Snake}
    (forth : s.forward.sweep g d (s.meetsForward g d) (diagonals d) = some (forward, some snake)) :
    s.round g d = some (⟨forward, s.backward⟩, some snake.start) := by
  show (s.forward.sweep g d (s.meetsForward g d) (diagonals d)).bind _ = _
  rw [forth]
  rfl

theorem round_of_met {forward backward : Frontier} {snake : Snake}
    (forth : s.forward.sweep g d (s.meetsForward g d) (diagonals d) = some (forward, none))
    (back : s.backward.sweep g.flip d (meetsBackward forward g d) (diagonals d) =
      some (backward, some snake)) :
    s.round g d = (snake.finish.flip? g).map fun p => (⟨forward, backward⟩, some p) := by
  show (s.forward.sweep g d (s.meetsForward g d) (diagonals d)).bind _ = _
  rw [forth]
  show (s.backward.sweep g.flip d (meetsBackward forward g d) (diagonals d)).bind _ = _
  rw [back]
  show (snake.finish.flip? g).bind _ = _
  cases snake.finish.flip? g <;> rfl

theorem round_of_backward {forward backward : Frontier} {snake : Snake} {p : Point}
    (forth : s.forward.sweep g d (s.meetsForward g d) (diagonals d) = some (forward, none))
    (back : s.backward.sweep g.flip d (meetsBackward forward g d) (diagonals d) =
      some (backward, some snake))
    (hp : snake.finish.flip? g = some p) :
    s.round g d = some (⟨forward, backward⟩, some p) := by
  rw [round_of_met forth back, hp]
  rfl

theorem round_of_passed {forward backward : Frontier}
    (forth : s.forward.sweep g d (s.meetsForward g d) (diagonals d) = some (forward, none))
    (back : s.backward.sweep g.flip d (meetsBackward forward g d) (diagonals d) =
      some (backward, none)) :
    s.round g d = some (⟨forward, backward⟩, none) := by
  show (s.forward.sweep g d (s.meetsForward g d) (diagonals d)).bind _ = _
  rw [forth]
  show (s.backward.sweep g.flip d (meetsBackward forward g d) (diagonals d)).bind _ = _
  rw [back]
  rfl

/-- What a round comes to: as soon as both searches have covered the distance, it finds a point,
which halves the grid if there is something to halve; before, it prepares the next round. -/
def Outcome (s : Scratch) (g : Grid) (d : Nat) : Prop :=
  ∃ s' r, s.round g d = some (s', r) ∧ s.SameRoom s' ∧
    ((∃ p, r = some p ∧ g.distance ≤ 2 * d ∧ (2 ≤ g.distance → g.Halves p)) ∨
      r = none ∧ 2 * d < g.distance ∧ s'.Ready g (d + 1))

/-- In a grid of odd distance the searches meet in a forward sweep. -/
theorem outcome_of_odd (ready : s.Ready g d) (fits : s.Fits (d + 1))
    (hd : 2 * d ≤ g.distance + 1) (hodd : g.isOdd = true) : s.Outcome g d := by
  have most := g.distance_le_sum
  have parity := g.distance_parity
  have odd : (g.width + g.height) % 2 = 1 := by simpa [Grid.isOdd] using hodd
  obtain ⟨backward, back, hrb, hlayerb⟩ := Frontier.sweep_blind ready.backward fits.backward
  have blind := fun forward => meetsBackward_of_odd forward hodd d
  cases d with
  | zero =>
    obtain ⟨forward, forth, hrf, hlayerf⟩ := Frontier.sweep_blind ready.forward fits.forward
    have never := s.meetsForward_zero hodd
    have hround := round_of_passed (s := s) (by rw [never, forth]) (by rw [blind, back])
    exact ⟨_, none, hround, ⟨hrf, hrb⟩, .inr ⟨rfl, by omega, hlayerf, hlayerb⟩⟩
  | succ e =>
    have covers := s.meetsForward_succ hodd e
    obtain ⟨forward, r, forth, hrf, hmet | ⟨rfl, hlayerf, hnone⟩⟩ :=
      Frontier.sweep_covers (e := e) ready.forward fits.forward ready.backward (by omega)
    · obtain ⟨k, snake, U, rfl, hends, hfar, hover⟩ := hmet
      have hdist := Grid.distance_le_of_overlap hends.furthest hfar hover (by omega)
      refine ⟨_, _, round_of_forward (by rw [covers, forth]), ⟨hrf, rfl⟩,
        .inl ⟨_, rfl, by omega, ?_⟩⟩
      intro htwo
      exact .of_forward (d := e + 1) (by omega) (by omega) (by omega) hends hfar hover
    · have hround := round_of_passed (s := s) (by rw [covers, forth]) (by rw [blind, back])
      have hne : g.distance ≠ (e + 1) + e := by
        intro h
        exact hnone (Grid.exists_overlap h)
      exact ⟨_, none, hround, ⟨hrf, hrb⟩, .inr ⟨rfl, by omega, hlayerf, hlayerb⟩⟩

/-- In a grid of even distance they meet in a backward sweep. -/
theorem outcome_of_even (ready : s.Ready g d) (fits : s.Fits (d + 1))
    (hd : 2 * d ≤ g.distance + 1) (heven : g.isOdd = false) : s.Outcome g d := by
  have most := g.distance_le_sum
  have parity := g.distance_parity
  have even : (g.width + g.height) % 2 = 0 := by simpa [Grid.isOdd] using heven
  obtain ⟨forward, forth, hrf, hlayerf⟩ := Frontier.sweep_blind ready.forward fits.forward
  have blind := s.meetsForward_of_even heven d
  have covers := meetsBackward_of_even forward heven d
  obtain ⟨backward, r, back, hrb, hmet | ⟨rfl, hlayerb, hnone⟩⟩ :=
    Frontier.sweep_covers (e := d) ready.backward fits.backward hlayerf
      (by rw [Grid.width_flip, Grid.height_flip]; omega)
  · obtain ⟨k, snake, X, rfl, hends, hfar, hover⟩ := hmet
    rw [Grid.lastDiagonal_flip] at hfar
    rw [Grid.width_flip] at hover
    have hfurthest : Furthest g.flip d (g.lastDiagonal - (g.lastDiagonal - k)) snake.finish.x := by
      rw [Int.sub_sub_self]
      exact hends.furthest
    have hdist := Grid.distance_le_of_overlap hfar hfurthest (by omega) (by omega)
    obtain ⟨p, hp, hhalves⟩ :=
      Grid.Halves.of_backward (d := d) (e := d) (by omega) hends hfar hover
    have hround := round_of_backward (s := s) (by rw [blind, forth]) (by rw [covers, back]) hp
    refine ⟨_, _, hround, ⟨hrf, hrb⟩, .inl ⟨p, rfl, by omega, ?_⟩⟩
    intro htwo
    exact hhalves (by omega) (by omega)
  · have hround := round_of_passed (s := s) (by rw [blind, forth]) (by rw [covers, back])
    refine ⟨_, none, hround, ⟨hrf, hrb⟩, .inr ⟨rfl, ?_, hlayerf, hlayerb⟩⟩
    have hne : g.distance ≠ d + d := by
      intro h
      obtain ⟨k, hk, hk', hover⟩ := Grid.exists_overlap h
      apply hnone
      refine ⟨g.lastDiagonal - k, hk', ?_, ?_⟩
      · rw [Grid.lastDiagonal_flip, Int.sub_sub_self]
        exact hk
      · intro U X backward forward
        rw [Grid.lastDiagonal_flip, Int.sub_sub_self] at forward
        have := hover X U forward backward
        rw [Grid.width_flip]
        omega
    omega

theorem outcome (ready : s.Ready g d) (fits : s.Fits (d + 1)) (hd : 2 * d ≤ g.distance + 1) :
    s.Outcome g d := by
  cases hodd : g.isOdd with
  | true => exact outcome_of_odd ready fits hd hodd
  | false => exact outcome_of_even ready fits hd hodd

/-- Rounds go on until the searches meet, which they do before the scratch space gets too small. -/
theorem exists_rounds (count : Nat) (ready : s.Ready g d) (fits : s.Fits g.roundLimit)
    (hd : 2 * d ≤ g.distance + 1) (enough : g.distance + 2 ≤ 2 * (d + count)) :
    ∃ s' p, s.rounds g d count = some (s', p) ∧ s.SameRoom s' ∧
      (2 ≤ g.distance → g.Halves p) := by
  induction count generalizing d s with
  | zero => omega
  | succ count ih =>
    have most := g.distance_le_sum
    have room : d + 1 ≤ g.roundLimit := by
      rw [Grid.roundLimit]
      omega
    obtain ⟨s₁, r, hround, hroom, ⟨p, rfl, _, hp⟩ | ⟨rfl, hlt, next⟩⟩ :=
      outcome ready (fits.mono room) hd
    · refine ⟨s₁, p, ?_, hroom, hp⟩
      rw [rounds, hround]
      rfl
    · obtain ⟨s', p, hrest, hroom', hp⟩ :=
        ih next (fits.of_sameRoom hroom) (by omega) (by omega)
      refine ⟨s', p, ?_, hroom.trans hroom', hp⟩
      rw [rounds, hround]
      exact hrest

/-- Setting up makes both frontiers ready for the first round, whatever they held. -/
theorem ready_of_begin {s' : Scratch} (g : Grid) (h : s.begin? = some s') :
    s.SameRoom s' ∧ s'.Ready g 0 := by
  obtain ⟨forward, hf, rest⟩ := Option.bind_eq_some_iff.mp
    (show (s.forward.set? 1 0).bind _ = _ from h)
  obtain ⟨backward, hb, rest⟩ := Option.bind_eq_some_iff.mp
    (show (s.backward.set? 1 0).bind _ = _ from rest)
  cases rest
  refine ⟨⟨Frontier.radius_of_set? hf, Frontier.radius_of_set? hb⟩, ?_, ?_⟩
  · exact (Frontier.get?_set? hf 1).trans (if_pos rfl)
  · exact (Frontier.get?_set? hb 1).trans (if_pos rfl)

theorem exists_begin (g : Grid) (fits : s.Fits 2) :
    ∃ s', s.begin? = some s' ∧ s.SameRoom s' ∧ s'.Ready g 0 := by
  have roomf := fits.forward
  have roomb := fits.backward
  obtain ⟨forward, hf⟩ := Option.isSome_iff_exists.mp
    (Frontier.set?_isSome (f := s.forward) (k := 1) 0 (by omega) (by omega))
  obtain ⟨backward, hb⟩ := Option.isSome_iff_exists.mp
    (Frontier.set?_isSome (f := s.backward) (k := 1) 0 (by omega) (by omega))
  have begun : s.begin? = some ⟨forward, backward⟩ := by
    show (s.forward.set? 1 0).bind _ = _
    rw [hf]
    show (s.backward.set? 1 0).bind _ = _
    rw [hb]
    rfl
  exact ⟨_, begun, ready_of_begin g begun⟩

theorem check?_of_fits {g : Grid} (fits : s.Fits g.roundLimit) : s.check? g = some s := by
  have roomf := fits.forward
  have roomb := fits.backward
  apply if_pos
  rw [s.forward.size_cells, s.backward.size_cells]
  omega

end Scratch

/-- The searches of any grid meet, on any scratch space with room to begin and for the rounds. -/
theorem exists_meeting {g : Grid} {s : Scratch} (two : s.Fits 2) (fits : s.Fits g.roundLimit) :
    ∃ s' p, middleSnake? g s = some (s', p) ∧ s.SameRoom s' ∧
      (2 ≤ g.distance → g.Halves p) := by
  have most := g.distance_le_sum
  have hlimit : g.roundLimit = (g.width + g.height + 1) / 2 + 1 := rfl
  obtain ⟨s₁, hbegin, hroom, ready⟩ := Scratch.exists_begin g two
  have fits₁ := fits.of_sameRoom hroom
  obtain ⟨s', p, hrounds, hroom', hp⟩ := Scratch.exists_rounds g.roundLimit ready fits₁
    (by omega) (by omega)
  refine ⟨s', p, ?_, hroom.trans hroom', hp⟩
  rw [middleSnake?, hbegin, Option.bind_eq_bind, Option.bind_some, Scratch.check?_of_fits fits₁]
  exact hrounds

/-- A grid of distance at least two has a middle snake, and it is found in any scratch space with
room for the rounds. -/
theorem exists_middleSnake {g : Grid} {s : Scratch} (htwo : 2 ≤ g.distance)
    (fits : s.Fits g.roundLimit) :
    ∃ s' p, middleSnake? g s = some (s', p) ∧ s.SameRoom s' ∧ g.Halves p := by
  have most := g.distance_le_sum
  have hlimit : g.roundLimit = (g.width + g.height + 1) / 2 + 1 := rfl
  obtain ⟨s', p, hsnake, same, halves⟩ := exists_meeting (fits.mono (by omega)) fits
  exact ⟨s', p, hsnake, same, halves htwo⟩

/-- Two sequences that differ in their first and in their last tokens are at least two edits apart. -/
theorem Grid.two_le_distance {g : Grid} (hw : 0 < g.width) (hh : 0 < g.height)
    (first : ¬g.Matches 0 0) (last : ¬g.Matches (g.width - 1) (g.height - 1)) :
    2 ≤ g.distance := by
  obtain ⟨x, hx⟩ : ∃ x, g.width = x + 1 := ⟨g.width - 1, by omega⟩
  obtain ⟨y, hy⟩ : ∃ y, g.height = y + 1 := ⟨g.height - 1, by omega⟩
  rw [hx, hy, Nat.add_sub_cancel, Nat.add_sub_cancel] at last
  -- No point but the first is free, for its diagonal would have to begin with a match.
  have free : ∀ u v, g.cost u v = 0 → u = 0 := by
    intro u v h
    have right := g.le_cost_add_right u v
    have left := g.le_cost_add_left u v
    obtain hu | hu := Nat.eq_zero_or_pos u
    · exact hu
    · have mono := g.cost_le_add 1 1 (u - 1)
      have start := g.cost_of_not_matches first
      rw [show 1 + (u - 1) = u by omega] at mono
      obtain rfl : u = v := by omega
      simp only [cost_zero_left, cost_zero_right, Nat.zero_add] at start
      omega
  have end_ := g.cost_of_not_matches last
  have right := g.le_cost_add_left x (y + 1)
  have hleft : g.cost x (y + 1) ≠ 0 := by
    intro h
    have := free _ _ h
    omega
  have hright : g.cost (x + 1) y ≠ 0 := by
    intro h
    have := free _ _ h
    omega
  rw [distance, hx, hy]
  omega

end Morphing.Diff
