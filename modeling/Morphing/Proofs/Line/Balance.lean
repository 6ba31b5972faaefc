import Morphing.Proofs.Line.Write
import Morphing.Proofs.Token.Pairing

/-!
# Where the two modes agree

The modes differ in what becomes of words without a partner, and in how long a removed word waits for
one. If every stretch between kept words removes as many words as it adds, all words find a partner
before the next kept one: removed words come first in a stretch, and the added ones behind them take
them all. So neither mode has anything to decide, and both write the same. Where a stretch is not
balanced, they pair words in different ways.
-/

namespace Morphing

open Diff

namespace Change

section Balance

variable {a b : α} {changes front run : List (Change α)} {runs : List (List (Change α))}
  {waiting : List α}

/-- Every stretch between kept elements removes as many elements as it adds. -/
def Balanced (changes : List (Change α)) : Prop :=
  ∀ run ∈ changes.splitOnP isKept, run.countP isRemoved = run.countP isAdded

instance (changes : List (Change α)) : Decidable (Balanced changes) :=
  inferInstanceAs (Decidable (∀ run ∈ changes.splitOnP isKept, _))

theorem splitOnP_append (edited : ∀ c ∈ front, c.isKept = false)
    (h : changes.splitOnP isKept = run :: runs) :
    (front ++ changes).splitOnP isKept = (front ++ run) :: runs := by
  induction front with
  | nil => exact h
  | cons c front ih =>
    obtain ⟨hc, others⟩ := List.forall_mem_cons.mp edited
    rw [List.cons_append, List.splitOnP_cons_eq_if_modifyHead, hc, ih others]
    rfl

/-- What stands in front of a list of changes belongs to its first stretch. -/
theorem balanced_append_iff (edited : ∀ c ∈ front, c.isKept = false)
    (h : changes.splitOnP isKept = run :: runs) :
    Balanced (front ++ changes) ↔
      (front ++ run).countP isRemoved = (front ++ run).countP isAdded ∧
        ∀ run ∈ runs, run.countP isRemoved = run.countP isAdded := by
  rw [Balanced, splitOnP_append edited h, List.forall_mem_cons]

theorem balanced_append_kept_iff :
    Balanced (front ++ kept a :: changes) ↔ Balanced front ∧ Balanced changes := by
  rw [Balanced, List.splitOnP_append_cons _ _ rfl, List.forall_mem_append]
  rfl

theorem balanced_iff_of_edited (edited : ∀ c ∈ run, c.isKept = false) :
    Balanced run ↔ run.countP isRemoved = run.countP isAdded := by
  rw [Balanced, List.splitOnP_eq_singleton edited, List.forall_mem_singleton]

theorem isKept_of_mem_map_removed (waiting : List α) :
    ∀ c ∈ waiting.map removed, c.isKept = false := by simp

theorem balanced_map_removed_iff : Balanced (waiting.map removed) ↔ waiting = [] := by
  rw [balanced_iff_of_edited (isKept_of_mem_map_removed waiting)]
  simp [List.countP_map, Function.comp_def]

/-- A removed element in front makes up for an added one in the same stretch. -/
theorem balanced_removed_added_iff :
    Balanced ((b :: waiting).map removed ++ added a :: changes) ↔
      Balanced (waiting.map removed ++ changes) := by
  obtain ⟨run, runs, h⟩ := List.exists_cons_of_ne_nil (List.splitOnP_ne_nil isKept changes)
  have edited : ∀ c ∈ (b :: waiting).map removed ++ [added a], c.isKept = false :=
    List.forall_mem_append.mpr ⟨isKept_of_mem_map_removed _, by simp⟩
  rw [List.append_cons, balanced_append_iff edited h,
    balanced_append_iff (isKept_of_mem_map_removed waiting) h]
  apply and_congr_left'
  simp only [List.countP_append, List.map_cons, List.countP_cons, List.countP_nil, isRemoved,
    isAdded, if_true, Bool.false_eq_true, if_false]
  omega

theorem balanced_map_added_iff : Balanced (waiting.map added) ↔ waiting = [] := by
  rw [balanced_iff_of_edited (by simp)]
  simp [List.countP_map, Function.comp_def, eq_comm]

/-- An added element that a stretch begins with has nothing to make up for it. -/
theorem not_balanced_added (order : RemovalsFirst ((added a :: changes).map step)) :
    ¬Balanced (added a :: changes) := by
  intro balanced
  obtain ⟨rs, as, rest, heq, hrest⟩ := exists_run order
  rw [heq] at balanced
  cases rs with
  | cons r rs => cases heq
  | nil =>
    -- The first stretch is `as`, and all of it is added.
    have front : Balanced (as.map added) := by
      cases rest with
      | nil => simpa using balanced
      | cons c rest =>
        cases c with
        | removed k | added k => cases hrest _ rfl
        | kept k => exact (balanced_append_kept_iff.mp balanced).1
    obtain rfl := balanced_map_added_iff.mp front
    rw [List.map_nil, List.map_nil, List.nil_append, List.nil_append] at heq
    subst heq
    cases hrest _ rfl

end Balance

end Change

open Change

/-- The two modes pair the words of a line in the same way exactly if its stretches are balanced,
where the words that wait count for the first one. -/
theorem pairTokensWith_eq_iff_balanced (first : Bool) (waiting : List Text)
    {changes : List (Change Text)} (order : RemovalsFirst (changes.map step)) :
    pairTokensWith .separator first waiting changes =
        pairTokensWith .reconcile first waiting changes ↔
      Balanced (waiting.map removed ++ changes) := by
  induction changes generalizing first waiting with
  | nil =>
    rw [pairTokensWith_separator_nil, pairTokensWith_reconcile_nil, List.append_nil,
      balanced_map_removed_iff]
    cases waiting <;> simp [flushRemoved]
  | cons c changes ih =>
    have rest : RemovalsFirst (changes.map step) := List.IsChain.of_cons order
    cases c with
    | kept token =>
      rw [pairTokensWith_separator_kept, pairTokensWith_reconcile_kept, balanced_append_kept_iff,
        balanced_map_removed_iff]
      cases waiting with
      | nil => simpa [flushRemoved] using ih false [] rest
      | cons old waiting => simp [flushRemoved]
    | removed token =>
      rw [pairTokensWith_removed, pairTokensWith_removed, ih false _ rest]
      simp
    | added token =>
      cases waiting with
      | nil =>
        apply iff_of_false _ (not_balanced_added order)
        rw [pairTokensWith_separator_added, pairTokensWith_reconcile_added]
        split <;> simp
      | cons old waiting =>
        rw [pairTokensWith_added_cons, pairTokensWith_added_cons, balanced_removed_added_iff,
          ← ih false waiting rest]
        simp

theorem tokenPairs_eq_iff_balanced (old new : Text) :
    tokenPairs .separator old new = tokenPairs .reconcile old new ↔
      Balanced (Granularity.word.diff old new) := by
  apply pairTokensWith_eq_iff_balanced true []
  rw [Granularity.diff, map_step_diff]
  exact removalsFirst_script _ _

namespace LinePair

/-- The two modes pair the words of a modified line in the same way exactly if every stretch between
kept words removes as many words as it adds. Then they merge the line into the same draft, with the
same candidates, and write the same at the same expense. -/
theorem write_modes_agree (old new : Text) :
    let changes := Granularity.word.diff (Text.content old) (Text.content new)
    (tokenPairs .separator (Text.content old) (Text.content new) =
        tokenPairs .reconcile (Text.content old) (Text.content new) ↔ Balanced changes) ∧
      (Balanced changes → ∀ (pairing : LinePairing) (d : Draft) (b : Budget),
        d.merge .separator (Text.content old) (Text.content new) =
            d.merge .reconcile (Text.content old) (Text.content new) ∧
          (modification old new).write ⟨pairing, .separator⟩ d b =
            (modification old new).write ⟨pairing, .reconcile⟩ d b ∧
          ((∀ kind, d.candidates kind = []) →
            ∃ p, (modification old new).write ⟨pairing, .separator⟩ d b = .ok p ∧
              (modification old new).write ⟨pairing, .reconcile⟩ d b = .ok p)) := by
  intro changes
  have modes := tokenPairs_eq_iff_balanced (Text.content old) (Text.content new)
  refine ⟨modes, ?_⟩
  intro balanced pairing d b
  have words := modes.mpr balanced
  have merged : d.merge .separator (Text.content old) (Text.content new) =
      d.merge .reconcile (Text.content old) (Text.content new) := by
    rw [Draft.merge, Draft.merge, words]
  have written : (modification old new).write ⟨pairing, .separator⟩ d b =
      (modification old new).write ⟨pairing, .reconcile⟩ d b := by
    simp only [write, rewriteLine, merged, words]
  refine ⟨merged, written, ?_⟩
  intro none
  obtain ⟨p, ok, -⟩ := (modification old new).write_spec ⟨pairing, .separator⟩ b none
  exact ⟨p, ok, written ▸ ok⟩

/-- Of `a b` and `c d`, each word finds a partner on its side of the gap. With one unit, both modes
strike out the last old word. -/
theorem write_modes_agree_gap :
    let d : Draft := Draft.empty.append ['x', '\n']
    let old : Text := ['a', ' ', 'b']
    let new : Text := ['c', ' ', 'd']
    Balanced (Granularity.word.diff (Text.content old) (Text.content new)) ∧
      (∀ kind, d.candidates kind = []) ∧
      ∃ p, (modification old new).write ⟨.stack, .separator⟩ d (.ofNat 1) = .ok p ∧
        (modification old new).write ⟨.stack, .reconcile⟩ d (.ofNat 1) = .ok p ∧
        p.draft.text = ['x', '\n', 'a', ' '] := by
  intro d old new
  have balanced : Balanced (Granularity.word.diff (Text.content old) (Text.content new)) := by
    decide +kernel
  have none : ∀ kind, d.candidates kind = [] := by
    intro kind
    cases kind <;> rfl
  obtain ⟨-, -, ok⟩ := (write_modes_agree old new).2 balanced .stack d (.ofNat 1)
  obtain ⟨p, separator, reconcile⟩ := ok none
  have text : ((modification old new).write ⟨.stack, .separator⟩ d (.ofNat 1)).map
      (fun p => p.draft.text) = .ok ['x', '\n', 'a', ' '] := by decide +kernel
  rw [separator] at text
  exact ⟨balanced, none, p, separator, reconcile, Except.ok.inj text⟩

end LinePair

end Morphing
