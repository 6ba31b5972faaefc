import Morphing.Proofs.Draft.Marks
import Morphing.Proofs.Line.Matching
import Morphing.Proofs.Token.Pairing

/-!
# Added words take removed ones in turn

In separator mode removed words wait in a queue that outlasts kept words. Of the added words that
find one waiting, the first takes the first removed word, the second takes the second one, and so
on. Whether there is one waiting is a matter of counting, so the pairs can be told by position,
without the queue: the queue is what is left of the removed words so far behind those that are
taken.

Erased to either version, the merged line reads as its new words do, position by position: a kept
word as itself, an added word that has taken a removed one as one of the two, and any other as a
space or as nothing.
-/

namespace Morphing

namespace Change

section Turns

variable {α : Type u}

/-- The elements that are removed before a position. -/
def removedBefore (changes : List (Change α)) (j : Nat) : List α :=
  (changes.take j).filterMap removed?

/-- How many of the additions before a position have found a removed element that was not taken. -/
def servedBefore (changes : List (Change α)) : Nat → Nat
  | 0 => 0
  | j + 1 =>
    if addedAt changes j ∧ servedBefore changes j < (removedBefore changes j).length
    then servedBefore changes j + 1
    else servedBefore changes j

/-- The removed element that an addition takes: the first addition that finds one takes the first of
all, the second takes the second, and so on. -/
def source (changes : List (Change α)) (j : Nat) : Option α :=
  if addedAt changes j ∧ servedBefore changes j < (removedBefore changes j).length
  then (changes.filterMap removed?)[servedBefore changes j]?
  else none

/-- The removed elements before a position that are not taken there, the first one first. -/
def queueAt (changes : List (Change α)) (j : Nat) : List α :=
  (removedBefore changes j).drop (servedBefore changes j)

variable {changes : List (Change α)} {j : Nat} {a : α}

theorem removedBefore_succ (changes : List (Change α)) (j : Nat) :
    removedBefore changes (j + 1) =
      removedBefore changes j ++ (changes[j]?.bind removed?).toList := by
  rw [removedBefore, List.take_add_one, List.filterMap_append]
  cases changes[j]? with
  | none => rfl
  | some c => cases c <;> rfl

/-- No more elements are taken than there are. -/
theorem servedBefore_le (changes : List (Change α)) (j : Nat) :
    servedBefore changes j ≤ (removedBefore changes j).length := by
  induction j with
  | zero => exact Nat.zero_le _
  | succ j ih =>
    rw [servedBefore, removedBefore_succ, List.length_append]
    split
    next finds => exact Nat.le_add_right_of_le finds.2
    next => exact Nat.le_add_right_of_le ih

/-- Unless an element is added, the queue can only grow. -/
theorem queueAt_succ_of_not_added (other : ¬addedAt changes j = true) :
    queueAt changes (j + 1) = queueAt changes j ++ (changes[j]?.bind removed?).toList := by
  rw [queueAt, servedBefore, if_neg (fun finds => other finds.1), removedBefore_succ]
  exact List.drop_append_of_le_length (servedBefore_le changes j)

theorem queueAt_succ_of_kept (h : changes[j]? = some (.kept a)) :
    queueAt changes (j + 1) = queueAt changes j := by
  rw [queueAt_succ_of_not_added (by simp [addedAt, h]), h]
  exact List.append_nil _

theorem queueAt_succ_of_removed (h : changes[j]? = some (.removed a)) :
    queueAt changes (j + 1) = queueAt changes j ++ [a] := by
  rw [queueAt_succ_of_not_added (by simp [addedAt, h]), h]
  rfl

/-- An addition takes the first element of the queue. -/
theorem queueAt_succ_of_added (h : changes[j]? = some (.added a)) :
    queueAt changes (j + 1) = (queueAt changes j).tail := by
  have added : addedAt changes j = true := by simp [addedAt, h]
  have same : removedBefore changes (j + 1) = removedBefore changes j := by
    rw [removedBefore_succ, h]
    exact List.append_nil _
  rw [queueAt, queueAt, servedBefore, same, List.tail_drop]
  split
  · rfl
  next finds =>
    have all : (removedBefore changes j).length ≤ servedBefore changes j :=
      Nat.not_lt.mp fun some => finds ⟨added, some⟩
    rw [List.drop_eq_nil_of_le all, List.drop_eq_nil_of_le (Nat.le_succ_of_le all)]

theorem source_of_added (h : changes[j]? = some (.added a)) :
    source changes j = (queueAt changes j).head? := by
  have added : addedAt changes j = true := by simp [addedAt, h]
  rw [source, queueAt, List.head?_drop]
  split
  next finds =>
    have whole : changes.filterMap removed? =
        removedBefore changes j ++ (changes.drop j).filterMap removed? := by
      rw [removedBefore, ← List.filterMap_append, List.take_append_drop]
    rw [whole, List.getElem?_append_left finds.2]
  next finds =>
    have all : (removedBefore changes j).length ≤ servedBefore changes j :=
      Nat.not_lt.mp fun some => finds ⟨added, some⟩
    exact (List.getElem?_eq_none all).symm

/-- The additions before a position have taken the first removed elements, each of them once. -/
theorem filterMap_source (changes : List (Change α)) (j : Nat) :
    (List.range j).filterMap (source changes) =
      (changes.filterMap removed?).take (servedBefore changes j) := by
  induction j with
  | zero => rfl
  | succ j ih =>
    have one : [j].filterMap (source changes) = (source changes j).toList := by
      cases h : source changes j <;> simp [h]
    rw [List.range_succ, List.filterMap_append, ih, one, source, servedBefore]
    split
    · exact List.take_add_one.symm
    · exact List.append_nil _

end Turns

end Change

open Change

/-- What stands for an added word that has taken no removed one. -/
def placeholder (j : Nat) (word : Text) : Text :=
  if j = 0 ∨ Text.allBlank word then [] else [' ']

/-- What becomes of the characters of a merged line at a position of its diff. -/
def changesAt (changes : List (Change Text)) (j : Nat) : List (Change Char) :=
  match changes[j]? with
  | some (.kept word) => word.map .kept
  | some (.added word) =>
    match source changes j with
    | some old => diff old word
    | none => (placeholder j word).map .kept
  | some (.removed _) | none => []

/-- What a merged line reads like at a position of its diff without its removal candidates. -/
def newAt (changes : List (Change Text)) (j : Nat) : Text :=
  match changes[j]? with
  | some (.kept word) => word
  | some (.added word) => if (source changes j).isSome then word else placeholder j word
  | some (.removed _) | none => []

/-- What it reads like there without its insertion candidates. -/
def oldAt (changes : List (Change Text)) (j : Nat) : Text :=
  match changes[j]? with
  | some (.kept word) => word
  | some (.added word) => (source changes j).getD (placeholder j word)
  | some (.removed _) | none => []

section Lines

variable {changes : List (Change Text)} {j : Nat}

theorem filterMap_new?_changesAt (changes : List (Change Text)) (j : Nat) :
    (changesAt changes j).filterMap Change.new? = newAt changes j := by
  rw [changesAt, newAt]
  split
  · exact filterMap_new?_map_kept _
  · cases source changes j with
    | some old => exact filterMap_new?_diff old _
    | none => exact filterMap_new?_map_kept _
  · rfl
  · rfl

theorem filterMap_old?_changesAt (changes : List (Change Text)) (j : Nat) :
    (changesAt changes j).filterMap Change.old? = oldAt changes j := by
  rw [changesAt, oldAt]
  split
  · exact filterMap_old?_map_kept _
  · cases source changes j with
    | some old => exact filterMap_old?_diff old _
    | none => exact filterMap_old?_map_kept _
  · rfl
  · rfl

theorem changes_unpaired (j : Nat) (word : Text) :
    (if j == 0 || Text.allBlank word then TokenPair.omitted word
      else TokenPair.separator word).changes = (placeholder j word).map .kept := by
  rw [placeholder]
  split <;> split <;> simp_all [TokenPair.changes]

/-- One turn: the queue changes as `queueAt` does, and what becomes of the position is written. -/
theorem pairTokensWith_queueAt (hj : j < changes.length) :
    (pairTokensWith .separator (j == 0) (queueAt changes j) (changes.drop j)).flatMap
        TokenPair.changes =
      changesAt changes j ++
        (pairTokensWith .separator (j + 1 == 0) (queueAt changes (j + 1))
          (changes.drop (j + 1))).flatMap TokenPair.changes := by
  have here : changes[j]? = some changes[j] := List.getElem?_eq_getElem hj
  rw [List.drop_eq_getElem_cons hj]
  cases hc : changes[j] with
  | kept word =>
    rw [hc] at here
    rw [queueAt_succ_of_kept here, changesAt, here, pairTokensWith_separator_kept]
    rfl
  | removed word =>
    rw [hc] at here
    rw [queueAt_succ_of_removed here, changesAt, here, pairTokensWith_removed]
    rfl
  | added word =>
    rw [hc] at here
    rw [queueAt_succ_of_added here, changesAt, here, source_of_added here]
    cases queueAt changes j with
    | cons old waiting => rfl
    | nil =>
      rw [pairTokensWith_separator_added, List.flatMap_cons, changes_unpaired]
      rfl

/-- After any number of turns, what becomes of the positions so far is written, and the rest is
paired with the queue of this position. -/
theorem superposition_separator_eq {old new : Text} (j : Nat)
    (hj : j ≤ (Granularity.word.diff old new).length) :
    superposition .separator old new =
      (List.range j).flatMap (changesAt (Granularity.word.diff old new)) ++
        (pairTokensWith .separator (j == 0) (queueAt (Granularity.word.diff old new) j)
          ((Granularity.word.diff old new).drop j)).flatMap TokenPair.changes := by
  induction j with
  | zero => rfl
  | succ j ih =>
    rw [ih (Nat.le_of_succ_le hj), pairTokensWith_queueAt hj, List.range_succ, List.flatMap_append,
      List.append_assoc, List.flatMap_singleton]

end Lines

/-- In separator mode, the positions of the word diff, of which the new words are the kept and the
added ones, make up the merged line: a kept word is written as it is, an added word that has taken a
removed one as the superposition of the two, any other added word as its placeholder, and a removed
word not at all. The removed words that are taken are the first ones, each of them once. So without
its removal candidates the line reads as `newAt` says, and without its insertion candidates as
`oldAt` says. -/
theorem merge_separator_eq (old new : Text) :
    let changes := Granularity.word.diff old new
    let positions := List.range changes.length
    let merged := Draft.empty.merge .separator old new
    changes.filterMap Change.new? = Text.words new ∧
      positions.filterMap (source changes) =
        (changes.filterMap removed?).take (servedBefore changes changes.length) ∧
      merged.Superposes (positions.flatMap (changesAt changes)) ∧
      merged.erase .removal = positions.flatMap (newAt changes) ∧
      merged.erase .insertion = positions.flatMap (oldAt changes) := by
  intro changes positions merged
  have superposes : merged.Superposes (positions.flatMap (changesAt changes)) := by
    have blank := Draft.Superposes.of_no_candidates Draft.candidates_empty
    have whole := blank.merge .separator old new
    rw [superposition_separator_eq changes.length (Nat.le_refl _), List.drop_length,
      pairTokensWith_separator_nil] at whole
    -- The words that still wait at the end of the line are dropped.
    have dropped (waiting : List Text) :
        (if waiting.isEmpty then [] else [TokenPair.dropped waiting.length]).flatMap
          TokenPair.changes = [] := by
      split <;> rfl
    rwa [dropped, List.append_nil] at whole
  refine ⟨filterMap_new?_diff _ _, filterMap_source changes _, superposes, ?_, ?_⟩
  · rw [superposes.erase_removal, List.filterMap_flatMap]
    simp only [filterMap_new?_changesAt]
  · rw [superposes.erase_insertion, List.filterMap_flatMap]
    simp only [filterMap_old?_changesAt]

end Morphing
