import Mathlib.Algebra.Ring.Nat
import Morphing.Proofs.Diff.Common
import Morphing.Proofs.Line.Pairing
import Morphing.Proofs.Line.Write
import Morphing.Proofs.Token.Pairing

/-!
# The distance of a morph

A morph makes a number of single character edits that depends on its texts and options only: what
rewritten words differ by, and the contents of added lines. Everything else is free.
`LinePair.cost`, which counts the candidates of a draft, comes to the same.

Every removed and every added character is edited at most once, so the distance of a morph is not
more than both of its texts are long.
-/

namespace Morphing

/-- The edits that a pair of words asks for. -/
def TokenPair.distance : TokenPair → Nat
  | rewritten old new => Morphing.distance old new
  | kept _ | separator _ | omitted _ | dropped _ => 0

/-- The edits that a pair of lines asks for. -/
def LinePair.distance (options : Options) : LinePair → Nat
  | kept _ | unpairedRemoval _ => 0
  | pureInsertion line => (Text.content line).length
  | modification old new =>
    ((tokenPairs options.unpairedTokens (Text.content old) (Text.content new)).map
      TokenPair.distance).sum

/-- The edits that a morph asks for. -/
def Morph.distance (m : Morph) : Nat := (m.pairs.map (LinePair.distance m.options)).sum

/-! ### Counting candidates -/

theorem TokenPair.countP_changes (pair : TokenPair) :
    pair.changes.countP Change.isRemoved + pair.changes.countP Change.isAdded = pair.distance := by
  cases pair with
  | rewritten old new => exact countP_edits_diff old new
  | kept token => simp [changes, distance]
  | separator token | omitted token | dropped count => rfl

theorem TokenPair.countP_flatMap_changes (pairs : List TokenPair) :
    (pairs.flatMap changes).countP Change.isRemoved +
        (pairs.flatMap changes).countP Change.isAdded =
      (pairs.map distance).sum := by
  induction pairs with
  | nil => rfl
  | cons pair pairs ih =>
    have first := pair.countP_changes
    rw [List.flatMap_cons, List.countP_append, List.countP_append, List.map_cons, List.sum_cons]
    omega

theorem LinePair.cost_eq_distance (options : Options) (pair : LinePair) :
    pair.cost options = pair.distance options := by
  cases pair with
  | kept line | unpairedRemoval line | pureInsertion line => rfl
  | modification old new => exact TokenPair.countP_flatMap_changes _

theorem totalCost_eq_sum (options : Options) (pairs : List LinePair) :
    totalCost options pairs = (pairs.map (LinePair.distance options)).sum := by
  induction pairs with
  | nil => rfl
  | cons pair pairs ih => rw [totalCost, pair.cost_eq_distance, ih, List.map_cons, List.sum_cons]

/-- A morph spends its distance, as far as the budget goes. -/
theorem Morph.budget_run_eq (m : Morph) (b : Budget) :
    (m.run b).budget = b.spendUpTo m.distance := by
  rw [budget_run, totalCost_eq_sum, distance]

/-! ### Distances are not more than lengths -/

/-- The number of characters that a change is about, in both texts. -/
def Change.volume : Change Text → Nat
  | kept t => t.length + t.length
  | removed t | added t => t.length

theorem Change.sum_volume (changes : List (Change Text)) :
    (changes.map volume).sum =
      (changes.filterMap old?).flatten.length + (changes.filterMap new?).flatten.length := by
  induction changes with
  | nil => rfl
  | cons c changes ih =>
    cases c <;>
    · simp only [List.map_cons, List.sum_cons, volume, ih, List.filterMap_cons, old?, new?,
        List.flatten_cons, List.length_append]
      omega

theorem Granularity.sum_volume_diff (g : Granularity) (old new : Text) :
    ((g.diff old new).map Change.volume).sum = old.length + new.length := by
  rw [Change.sum_volume, Granularity.diff, filterMap_old?_diff, filterMap_new?_diff,
    Granularity.flatten_split, Granularity.flatten_split]

theorem sum_distance_flushRemoved (waiting : List Text) :
    ((flushRemoved waiting).map TokenPair.distance).sum ≤ waiting.flatten.length := by
  induction waiting with
  | nil => exact Nat.le_refl 0
  | cons old waiting ih =>
    have first : distance old [] ≤ old.length := distance_le old []
    rw [List.flatten_cons, List.length_append]
    exact Nat.add_le_add first ih

/-- Words are rewritten at most once, those that wait included. -/
theorem sum_distance_pairTokensWith (mode : UnpairedTokens) (first : Bool) (waiting : List Text)
    (changes : List (Change Text)) :
    ((pairTokensWith mode first waiting changes).map TokenPair.distance).sum ≤
      waiting.flatten.length + (changes.map Change.volume).sum := by
  induction changes generalizing first waiting with
  | nil =>
    cases mode with
    | separator =>
      rw [pairTokensWith_separator_nil]
      split <;> exact Nat.zero_le _
    | reconcile =>
      rw [pairTokensWith_reconcile_nil]
      exact sum_distance_flushRemoved waiting
  | cons c changes ih =>
    rw [List.map_cons, List.sum_cons]
    cases c with
    | kept token =>
      cases mode with
      | separator =>
        have later := ih false waiting
        rw [pairTokensWith_separator_kept, List.map_cons, List.sum_cons, TokenPair.distance]
        omega
      | reconcile =>
        have flushed := sum_distance_flushRemoved waiting
        have later := ih false []
        rw [List.flatten_nil, List.length_nil] at later
        rw [pairTokensWith_reconcile_kept, List.map_append, List.sum_append, List.map_cons,
          List.sum_cons, TokenPair.distance]
        omega
    | removed token =>
      have later := ih false (waiting ++ [token])
      rw [List.flatten_concat, List.length_append] at later
      rw [pairTokensWith_removed, Change.volume]
      omega
    | added token =>
      rw [Change.volume]
      cases waiting with
      | nil =>
        have later := ih false []
        cases mode with
        | separator =>
          rw [pairTokensWith_separator_added, List.map_cons, List.sum_cons]
          split <;>
          · rw [TokenPair.distance]
            omega
        | reconcile =>
          have rewritten : distance [] token ≤ 0 + token.length := distance_le [] token
          rw [pairTokensWith_reconcile_added, List.map_cons, List.sum_cons, TokenPair.distance]
          omega
      | cons old waiting =>
        have later := ih false waiting
        have rewritten := distance_le old token
        rw [pairTokensWith_added_cons, List.map_cons, List.sum_cons, TokenPair.distance,
          List.flatten_cons, List.length_append]
        omega

theorem sum_distance_tokenPairs (mode : UnpairedTokens) (old new : Text) :
    ((tokenPairs mode old new).map TokenPair.distance).sum ≤ old.length + new.length := by
  have most := sum_distance_pairTokensWith mode true [] (Granularity.word.diff old new)
  rw [Granularity.sum_volume_diff, List.flatten_nil, List.length_nil, Nat.zero_add] at most
  exact most

namespace Text

theorem length_content_le (line : Text) : (content line).length ≤ line.length := by
  have whole := congrArg List.length (content_append_terminator line)
  rw [List.length_append] at whole
  omega

end Text

theorem LinePair.distance_modification_le (options : Options) (old new : Text) :
    (modification old new).distance options ≤ old.length + new.length := by
  have words := sum_distance_tokenPairs options.unpairedTokens (Text.content old) (Text.content new)
  have hold := Text.length_content_le old
  have hnew := Text.length_content_le new
  rw [distance]
  omega

theorem sum_distance_unpairedRemovals (options : Options) (waiting : List Text) :
    ((waiting.map LinePair.unpairedRemoval).map (LinePair.distance options)).sum = 0 := by
  induction waiting with
  | nil => rfl
  | cons line waiting ih => simpa [LinePair.distance] using ih

/-- Lines are rewritten at most once, those that wait included. -/
theorem sum_distance_pairLinesWith (options : Options) (pairing : LinePairing)
    (waiting : List Text) (changes : List (Change Text)) :
    ((pairLinesWith pairing waiting changes).map (LinePair.distance options)).sum ≤
      waiting.flatten.length + (changes.map Change.volume).sum := by
  induction changes generalizing waiting with
  | nil =>
    rw [pairLinesWith_nil, sum_distance_unpairedRemovals]
    exact Nat.zero_le _
  | cons c changes ih =>
    rw [List.map_cons, List.sum_cons]
    cases c with
    | kept line =>
      rw [pairLinesWith_kept]
      cases pairing with
      | stack =>
        have later := ih waiting
        simp only [List.map_cons, List.sum_cons, LinePair.distance]
        omega
      | adjacent =>
        have later := ih []
        rw [List.flatten_nil, List.length_nil] at later
        simp only [List.map_append, List.sum_append, sum_distance_unpairedRemovals, List.map_cons,
          List.sum_cons, LinePair.distance]
        omega
    | removed line =>
      have later := ih (line :: waiting)
      rw [List.flatten_cons, List.length_append] at later
      rw [pairLinesWith_removed, Change.volume]
      omega
    | added line =>
      rw [Change.volume]
      cases waiting with
      | nil =>
        have later := ih []
        have typed := Text.length_content_le line
        rw [pairLinesWith_added_nil, List.map_cons, List.sum_cons, LinePair.distance]
        omega
      | cons old waiting =>
        have later := ih waiting
        have rewritten := LinePair.distance_modification_le options old line
        rw [pairLinesWith_added_cons, List.map_cons, List.sum_cons, List.flatten_cons,
          List.length_append]
        omega

/-- A morph edits every character of both texts at most once. -/
theorem Morph.distance_le (m : Morph) : m.distance ≤ m.old.length + m.new.length := by
  have most := sum_distance_pairLinesWith m.options m.options.linePairing []
    (Granularity.line.diff m.old m.new)
  rw [Granularity.sum_volume_diff, List.flatten_nil, List.length_nil, Nat.zero_add] at most
  exact most

end Morphing
