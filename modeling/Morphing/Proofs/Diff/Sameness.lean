import Morphing.Proofs.Diff.Shape

/-!
# A diff depends on sameness only

Two pairs of sequences can have nothing in common but which old element is the same as which new
one. Their diffs then list the same kinds of changes at the same places. What the elements are, how
they are spelled, and which elements of one sequence are the same among themselves makes no
difference.
-/

namespace Morphing

/-- Where the element of a change stands: a kept one stands in both sequences. -/
inductive Place where
  | kept (i j : Nat)
  | removed (i : Nat)
  | added (j : Nat)
deriving DecidableEq, Repr

/-- A place in two sequences and the change of the element that stands there. A kept element is the
one of the old sequence, and the new sequence has the same. -/
inductive Place.Denotes [BEq α] (old new : List α) : Place → Change α → Prop where
  | kept {i j : Nat} {a b : α} : old[i]? = some a → new[j]? = some b → (a == b) = true →
      Denotes old new (.kept i j) (.kept a)
  | removed {i : Nat} {a : α} : old[i]? = some a → Denotes old new (.removed i) (.removed a)
  | added {j : Nat} {b : α} : new[j]? = some b → Denotes old new (.added j) (.added b)

namespace Change

/-- The places of changes, where `i` old and `j` new elements come before the first one. -/
def placesFrom (i j : Nat) : List (Change α) → List Place
  | [] => []
  | kept _ :: cs => .kept i j :: placesFrom (i + 1) (j + 1) cs
  | removed _ :: cs => .removed i :: placesFrom (i + 1) j cs
  | added _ :: cs => .added j :: placesFrom i (j + 1) cs

/-- The places of the changes of a diff. -/
def places (cs : List (Change α)) : List Place := placesFrom 0 0 cs

/-- Changes of the same kinds are at the same places. -/
theorem placesFrom_congr {cs : List (Change α)} {cs' : List (Change β)}
    (same : cs.map step = cs'.map step) (i j : Nat) : placesFrom i j cs = placesFrom i j cs' := by
  induction cs generalizing cs' i j with
  | nil =>
    obtain rfl := List.map_eq_nil_iff.mp same.symm
    rfl
  | cons c cs ih =>
    cases cs' with
    | nil => cases same
    | cons c' cs' =>
      obtain ⟨first, later⟩ := List.cons.inj same
      cases c <;> cases c' <;> cases first <;> exact congrArg (_ :: ·) (ih later _ _)

end Change

namespace Diff

theorem getElem?_of_drop_eq_cons {l later : List α} {i : Nat} {a : α}
    (h : l.drop i = a :: later) : l[i]? = some a ∧ l.drop (i + 1) = later := by
  have first := congrArg List.head? h
  have rest := congrArg List.tail h
  rw [List.head?_drop] at first
  rw [List.tail_drop] at rest
  exact ⟨first, rest⟩

/-- An alignment of what follows on the first elements denotes changes at their places. -/
theorem Alignment.denotes [BEq α] {steps : List Step} {later later' old new : List α}
    (h : Alignment steps later later') {i j : Nat} (hold : old.drop i = later)
    (hnew : new.drop j = later') :
    List.Forall₂ (Place.Denotes old new) (Change.placesFrom i j (replay steps later later'))
      (replay steps later later') := by
  induction h generalizing i j with
  | nil => exact .nil
  | keep same _ ih =>
    obtain ⟨ha, hold⟩ := getElem?_of_drop_eq_cons hold
    obtain ⟨hb, hnew⟩ := getElem?_of_drop_eq_cons hnew
    exact .cons (.kept ha hb same) (ih hold hnew)
  | remove _ ih =>
    obtain ⟨ha, hold⟩ := getElem?_of_drop_eq_cons hold
    exact .cons (.removed ha) (ih hold hnew)
  | add _ ih =>
    obtain ⟨hb, hnew⟩ := getElem?_of_drop_eq_cons hnew
    exact .cons (.added hb) (ih hold hnew)

end Diff

open Diff

/-- A diff lists the elements that stand at its places. -/
theorem denotes_diff [BEq α] (old new : List α) :
    List.Forall₂ (Place.Denotes old new) (Change.places (diff old new)) (diff old new) :=
  (alignment_script old new).denotes (List.drop_zero) (List.drop_zero)

/-- Two pairs of sequences, of the same lengths, in which the same old elements are the same as the
same new ones. -/
structure SamePattern [BEq α] [BEq β] (old new : List α) (old' new' : List β) : Prop where
  length_old : old.length = old'.length
  length_new : new.length = new'.length
  same : ∀ i j (_ : i < old.length) (_ : j < new.length) (_ : i < old'.length)
    (_ : j < new'.length), (old[i] == new[j]) = (old'[i] == new'[j])

theorem SamePattern.places_diff [BEq α] [BEq β] {old new : List α} {old' new' : List β}
    (h : SamePattern old new old' new') :
    Change.places (diff old new) = Change.places (diff old' new') := by
  have scripts : script old new = script old' new' :=
    congrArg (fun g : Grid => removalsFirst g.script)
      (ofLists_congr h.length_old h.length_new h.same)
  apply Change.placesFrom_congr
  rw [map_step_diff, map_step_diff, scripts]

section Tokens

variable {κ : Type u} {κ' : Type v}

/-- The tokens `l'` have the keys that `f` makes of those of `l`, and any originals. -/
def Renames (f : κ → κ') (l : List (Token κ)) (l' : List (Token κ')) : Prop :=
  l'.map Token.key = l.map fun t => f t.key

namespace Renames

variable {f : κ → κ'} {l : List (Token κ)} {l' : List (Token κ')}

theorem length_eq (h : Renames f l l') : l.length = l'.length := by
  simpa using (congrArg List.length h).symm

theorem key_getElem (h : Renames f l l') {i : Nat} (hi : i < l.length) (hi' : i < l'.length) :
    l'[i].key = f l[i].key := by
  have both := congrArg (·[i]?) h
  simpa [hi, hi'] using both

end Renames

/-- Keys that tell apart the same tokens make the same pattern, whatever the originals are. -/
theorem SamePattern.of_renames [BEq κ] [BEq κ'] {f : κ → κ'} {old new : List (Token κ)}
    {old' new' : List (Token κ')} (respects : ∀ a b, (f a == f b) = (a == b))
    (hold : Renames f old old') (hnew : Renames f new new') : SamePattern old new old' new' where
  length_old := hold.length_eq
  length_new := hnew.length_eq
  same i j hi hj hi' hj' := by
    rw [Token.beq_def, Token.beq_def, hold.key_getElem hi hi', hnew.key_getElem hj hj', respects]

/-- Two pairs of token sequences in which the same old tokens are the same as the same new ones have
the same diff: changes of the same kinds at the same places, where each diff lists its own tokens.
So a diff does not depend on originals, nor on keys as long as they tell apart the same tokens. -/
theorem diff_depends_on_sameness [BEq κ] [BEq κ'] {old new : List (Token κ)}
    {old' new' : List (Token κ')} :
    (SamePattern old new old' new' →
      Change.places (diff old' new') = Change.places (diff old new) ∧
      List.Forall₂ (Place.Denotes old new) (Change.places (diff old new)) (diff old new) ∧
      List.Forall₂ (Place.Denotes old' new') (Change.places (diff old new)) (diff old' new')) ∧
    ∀ f : κ → κ', (∀ a b, (f a == f b) = (a == b)) → Renames f old old' → Renames f new new' →
      Change.places (diff old' new') = Change.places (diff old new) := by
  refine ⟨?_, ?_⟩
  · intro pattern
    refine ⟨pattern.places_diff.symm, denotes_diff old new, ?_⟩
    rw [pattern.places_diff]
    exact denotes_diff old' new'
  · intro f respects hold hnew
    exact (SamePattern.of_renames respects hold hnew).places_diff.symm

/-- Two old tokens that are the same, but not the same as any new one, can as well be different.
Neither that, nor a shift of all keys, nor other originals change the places. -/
theorem diff_depends_on_sameness_twins :
    let old : List (Token Nat) := [⟨0, ['a']⟩, ⟨0, ['b']⟩, ⟨5, ['c']⟩]
    let new : List (Token Nat) := [⟨5, ['d']⟩, ⟨7, ['e']⟩]
    let old' : List (Token Char) := [⟨'x', []⟩, ⟨'y', []⟩, ⟨'z', []⟩]
    let new' : List (Token Char) := [⟨'z', []⟩, ⟨'w', []⟩]
    let shifted (l : List (Token Nat)) : List (Token Nat) := l.map fun t => ⟨t.key + 1, []⟩
    SamePattern old new old' new' ∧
      Change.places (diff old' new') = [.removed 0, .removed 1, .kept 2 0, .added 1] ∧
      Renames (· + 1) old (shifted old) ∧ Renames (· + 1) new (shifted new) ∧
      Change.places (diff (shifted old) (shifted new)) =
        [.removed 0, .removed 1, .kept 2 0, .added 1] := by
  intro old new old' new' shifted
  have across : ∀ (i : Fin 3) (j : Fin 2), (old[i] == new[j]) = (old'[i] == new'[j]) := by decide
  have pattern : SamePattern old new old' new' :=
    ⟨rfl, rfl, fun i j hi hj _ _ => across ⟨i, hi⟩ ⟨j, hj⟩⟩
  have listed : Change.places (diff old new) = [.removed 0, .removed 1, .kept 2 0, .added 1] := by
    decide +kernel
  have respects : ∀ a b : Nat, (a + 1 == b + 1) = (a == b) := by simp
  have alike := (diff_depends_on_sameness.1 pattern).1
  have olds : Renames (· + 1) old (shifted old) := rfl
  have news : Renames (· + 1) new (shifted new) := rfl
  have alikeShifted := diff_depends_on_sameness.2 (· + 1) respects olds news
  exact ⟨pattern, alike.trans listed, olds, news, alikeShifted.trans listed⟩

end Tokens

end Morphing
