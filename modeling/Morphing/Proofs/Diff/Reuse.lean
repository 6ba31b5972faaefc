import Morphing.Diff.Change
import Morphing.Proofs.Diff.Lockstep

/-!
# Scratch space carries nothing

A diff sets up its scratch space once, for the grid of the whole sequences, and hands it from call
to call as it is. Whatever the searches of the earlier calls have left there, and however large it
is, a call finds the same points and puts together the same script as on fresh scratch space of its
own size.
-/

namespace Morphing.Diff

theorem Scratch.ofSize_fits (size : Nat) : (Scratch.ofSize size).Fits ((size + 1) / 2 + 1) :=
  ⟨Nat.le_refl _, Nat.le_refl _⟩

/-- A search that returns has had room to begin. -/
theorem fits_of_middleSnake? {g : Grid} {s s₁ : Scratch} {p : Point}
    (h : middleSnake? g s = some (s₁, p)) : s.Fits 2 := by
  obtain ⟨s₀, hbegin, _⟩ := Option.bind_eq_some_iff.mp
    (show s.begin?.bind _ = _ from h)
  obtain ⟨forward, hf, rest⟩ := Option.bind_eq_some_iff.mp
    (show (s.forward.set? 1 0).bind _ = _ from hbegin)
  obtain ⟨backward, hb, _⟩ := Option.bind_eq_some_iff.mp
    (show (s.backward.set? 1 0).bind _ = _ from rest)
  have insideForward := Frontier.range_of_set? hf
  have insideBackward := Frontier.range_of_set? hb
  constructor <;> omega

section Searches

variable {g : Grid} {s t s₁ t₁ : Scratch} {p q : Point}

/-- Searches of a grid agree if they return. -/
theorem middleSnake?_unique (fits : s.Fits g.roundLimit) (fits' : t.Fits g.roundLimit)
    (hs : middleSnake? g s = some (s₁, p)) (ht : middleSnake? g t = some (t₁, q)) : p = q := by
  have two := fits_of_middleSnake? hs
  have two' := fits_of_middleSnake? ht
  have points := middleSnake?_lockstep two two' fits fits'
  rw [hs, ht] at points
  exact Option.some.inj points

/-- With room to begin, they do. -/
theorem exists_same_point (two : s.Fits 2) (two' : t.Fits 2) (fits : s.Fits g.roundLimit)
    (fits' : t.Fits g.roundLimit) :
    ∃ s₁ t₁ p, middleSnake? g s = some (s₁, p) ∧ middleSnake? g t = some (t₁, p) := by
  obtain ⟨s₁, p, hs, _⟩ := exists_meeting two fits
  obtain ⟨t₁, q, ht, _⟩ := exists_meeting two' fits'
  obtain rfl := middleSnake?_unique fits fits' hs ht
  exact ⟨s₁, t₁, p, hs, ht⟩

end Searches

namespace Grid

/-- Every call works as on fresh scratch space. -/
theorem Calls.scriptWith_eq_script {g h : Grid} {s t : Scratch} (call : g.Calls s h t)
    (fits : s.Fits g.roundLimit) : (h.scriptWith t).2 = h.script := by
  obtain ⟨part, same⟩ := call.partOf fits
  exact h.scriptWith_lockstep ((fits.of_sameRoom same).mono part.roundLimit_le)
    (Scratch.ofSize_fits _)

end Grid

open Grid

/-- On any two scratch spaces with room for the rounds, a search of two ranges returns the same
point, and the script of the ranges shows the same changes. So no call of a diff sees what the calls
before it have left on the scratch space that all of them share, and the diff itself does not depend
on what it begins with. Only for two empty ranges can a frontier be large enough for the rounds and
have no cell to begin in, at radius one. Then nothing is returned. -/
theorem scratch_carries_nothing [BEq α] (old new : List α) :
    (∀ (a n b m : Nat) (s t : Scratch),
      s.Fits ((n + m + 1) / 2 + 1) → t.Fits ((n + m + 1) / 2 + 1) →
      (0 < n + m ∨ s.Fits 2 ∧ t.Fits 2 → ∃ s₁ t₁ p,
        middleSnake? ((ofLists old new).window a b n m) s = some (s₁, p) ∧
          middleSnake? ((ofLists old new).window a b n m) t = some (t₁, p)) ∧
      (∀ s₁ p t₁ q,
        middleSnake? ((ofLists old new).window a b n m) s = some (s₁, p) →
          middleSnake? ((ofLists old new).window a b n m) t = some (t₁, q) → p = q) ∧
      replay (((ofLists old new).window a b n m).scriptWith s).2
          ((old.drop a).take n) ((new.drop b).take m) =
        replay (((ofLists old new).window a b n m).scriptWith t).2
          ((old.drop a).take n) ((new.drop b).take m)) ∧
    ∀ s : Scratch, s.Fits ((old.length + new.length + 1) / 2 + 1) →
      (∀ h t, (ofLists old new).Calls s h t → (h.scriptWith t).2 = h.script) ∧
        replay (removalsFirst ((ofLists old new).scriptWith s).2) old new = diff old new := by
  have size : (ofLists old new).width + (ofLists old new).height = old.length + new.length := by
    rw [width_ofLists, height_ofLists]
  have limit : (ofLists old new).roundLimit = (old.length + new.length + 1) / 2 + 1 := by
    rw [roundLimit, size]
  constructor
  · intro a n b m s t fits fits'
    have same := ((ofLists old new).window a b n m).scriptWith_lockstep fits fits'
    refine ⟨fun room => ?_, fun s₁ p t₁ q hs ht => middleSnake?_unique fits fits' hs ht,
      by rw [same]⟩
    obtain ⟨two, two'⟩ : s.Fits 2 ∧ t.Fits 2 := by
      obtain hpos | room := room
      · have least : 2 ≤ (n + m + 1) / 2 + 1 := by omega
        exact ⟨fits.mono least, fits'.mono least⟩
      · exact room
    exact exists_same_point two two' fits fits'
  · intro s fits
    have same := (ofLists old new).scriptWith_lockstep (limit ▸ fits) (Scratch.ofSize_fits _)
    refine ⟨fun h t call => call.scriptWith_eq_script (limit ▸ fits), ?_⟩
    rw [same]
    rfl

/-- From `a, b` to `b, a`, on a scratch space that is too large and full of numbers. -/
theorem scratch_carries_nothing_stale : ∃ stale : Scratch,
    stale.forward.cells = #[9, 8, 7, 6, 5, 4, 3, 2] ∧ stale.backward.cells = #[1, 1, 1, 1, 1, 1] ∧
    stale.Fits ((2 + 2 + 1) / 2 + 1) ∧ (Scratch.ofSize 4).Fits ((2 + 2 + 1) / 2 + 1) ∧ 0 < 2 + 2 ∧
    (∃ s₁ t₁ p, middleSnake? ((ofLists ['a', 'b'] ['b', 'a']).window 0 0 2 2) stale = some (s₁, p) ∧
      middleSnake? ((ofLists ['a', 'b'] ['b', 'a']).window 0 0 2 2) (.ofSize 4) = some (t₁, p)) ∧
    (ofLists ['a', 'b'] ['b', 'a']).Calls stale (ofLists ['a', 'b'] ['b', 'a']) stale ∧
    ((ofLists ['a', 'b'] ['b', 'a']).scriptWith stale).2 =
      (ofLists ['a', 'b'] ['b', 'a']).script ∧
    replay (removalsFirst ((ofLists ['a', 'b'] ['b', 'a']).scriptWith stale).2)
      ['a', 'b'] ['b', 'a'] = diff ['a', 'b'] ['b', 'a'] := by
  let stale : Scratch := ⟨⟨4, #[9, 8, 7, 6, 5, 4, 3, 2], rfl⟩, ⟨3, #[1, 1, 1, 1, 1, 1], rfl⟩⟩
  have fits : stale.Fits ((2 + 2 + 1) / 2 + 1) := ⟨by decide, by decide⟩
  have fresh : (Scratch.ofSize 4).Fits ((2 + 2 + 1) / 2 + 1) := Scratch.ofSize_fits 4
  have hpos : 0 < 2 + 2 := by decide
  obtain ⟨searches, diffs⟩ := scratch_carries_nothing ['a', 'b'] ['b', 'a']
  have search := (searches 0 2 0 2 stale (.ofSize 4) fits fresh).1 (.inl hpos)
  obtain ⟨calls, whole⟩ := diffs stale fits
  exact ⟨stale, rfl, rfl, fits, fresh, hpos, search, .self, calls _ _ .self, whole⟩

/-- Two empty ranges are the exception: they take one round, for which frontiers of radius one have
room, but a search begins on diagonal one, which these do not have. -/
theorem scratch_without_beginning :
    let nothing : Grid := (ofLists ([] : List Char) []).window 0 0 0 0
    let one : Scratch := ⟨.zero 1, .zero 1⟩
    let two : Scratch := ⟨.zero 2, .zero 2⟩
    one.Fits ((0 + 0 + 1) / 2 + 1) ∧ two.Fits ((0 + 0 + 1) / 2 + 1) ∧
      middleSnake? nothing one = none ∧
      (middleSnake? nothing two).map Prod.snd = some ⟨0, 0⟩ := by
  intro nothing one two
  have fits : one.Fits ((0 + 0 + 1) / 2 + 1) := ⟨by decide, by decide⟩
  have fits' : two.Fits ((0 + 0 + 1) / 2 + 1) := ⟨by decide, by decide⟩
  exact ⟨fits, fits', rfl, by decide +kernel⟩

end Morphing.Diff
