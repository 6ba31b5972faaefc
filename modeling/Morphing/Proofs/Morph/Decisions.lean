import Morphing.Proofs.Line.Distance

/-!
# Decisions do not depend on the budget

While a morph writes its pairs of lines it tells of its decisions: which words and lines it leaves
out, and how many candidates there are in a modified line before it is settled. All of this is fixed
by the texts and the options. The budget has a say only afterwards, and since no pair of lines
leaves a candidate behind, an exhausted budget cannot show in the numbers of a later line either.

What is told is enough to foresee the spending: the reported candidates and the contents of added
lines, as far as the budget goes.
-/

namespace Morphing

namespace Event

/-- The number of candidates that an event reports. -/
def candidates : Event → Nat
  | resolving removals insertions _ => removals + insertions
  | replacedToken _ | droppedTokens _ | droppedLine _ | morphed .. => 0

end Event

theorem TokenPair.candidates_of_event? {pair : TokenPair} {e : Event} (h : pair.event? = some e) :
    e.candidates = 0 ∧ e.level = .trace := by
  cases pair with
  | separator token | dropped count =>
    cases h
    exact ⟨rfl, rfl⟩
  | kept token | rewritten old new | omitted token => cases h

theorem TokenPair.sum_candidates_events (pairs : List TokenPair) :
    ((pairs.filterMap event?).map Event.candidates).sum = 0 := by
  rw [List.sum_eq_zero_iff_forall_eq_nat]
  intro n hn
  obtain ⟨e, he, rfl⟩ := List.mem_map.mp hn
  obtain ⟨pair, _, hpair⟩ := List.mem_filterMap.mp he
  exact (candidates_of_event? hpair).1

namespace LinePair

/-- What there is to tell of a pair of lines, whatever the budget. -/
def decisions (options : Options) : LinePair → List Event
  | kept _ | pureInsertion _ => []
  | unpairedRemoval line => [.droppedLine line]
  | modification old new =>
    (tokenPairs options.unpairedTokens (Text.content old) (Text.content new)).filterMap
        TokenPair.event? ++
      [.resolving ((changes options old new).countP Change.isRemoved)
        ((changes options old new).countP Change.isAdded) (Text.content new)]

/-- The number of characters in the content of a line that is added as a whole. -/
def typed : LinePair → Nat
  | pureInsertion line => (Text.content line).length
  | kept _ | unpairedRemoval _ | modification _ _ => 0

variable {options : Options} {d : Draft} {b : Budget} {p : Progress}

theorem level_of_mem_decisions {pair : LinePair} {e : Event} (h : e ∈ pair.decisions options) :
    e.level = .trace := by
  cases pair with
  | kept line | pureInsertion line => cases h
  | unpairedRemoval line =>
    obtain rfl := List.mem_singleton.mp h
    rfl
  | modification old new =>
    obtain left | counts := List.mem_append.mp h
    · obtain ⟨_, _, hpair⟩ := List.mem_filterMap.mp left
      exact (TokenPair.candidates_of_event? hpair).2
    · obtain rfl := List.mem_singleton.mp counts
      rfl

/-- The distance of a pair of lines can be read off what is told of it. -/
theorem sum_candidates_decisions (options : Options) (pair : LinePair) :
    ((pair.decisions options).map Event.candidates).sum + pair.typed = pair.cost options := by
  cases pair with
  | kept line | unpairedRemoval line => rfl
  | pureInsertion line => exact Nat.zero_add _
  | modification old new =>
    have words := TokenPair.sum_candidates_events
      (tokenPairs options.unpairedTokens (Text.content old) (Text.content new))
    simp only [decisions, List.map_append, List.sum_append, words, List.map_cons, List.map_nil,
      List.sum_cons, List.sum_nil, Event.candidates, typed, cost]
    omega

/-- The candidates of a modified line are counted before it is settled, and nothing stands in their
way that an earlier line has left. -/
theorem events_rewriteLine {old new : Text} (hd : ∀ kind, d.candidates kind = [])
    (h : rewriteLine options.unpairedTokens old new d b = .ok p) :
    p.events = (modification old new).decisions options := by
  have merged := (Draft.Superposes.of_no_candidates hd).merge options.unpairedTokens
    (Text.content old) (Text.content new)
  have counted : ∀ kind : Candidate,
      ((d.merge options.unpairedTokens (Text.content old) (Text.content new)).candidates
        kind).length = (changes options old new).countP kind.marks := by
    intro kind
    have none : (d.text.map Change.kept).countP kind.marks = 0 := by simp
    rw [merged.length_candidates, List.countP_append, none, Nat.zero_add, changes]
  simp only [rewriteLine, counted, bind, Except.bind] at h
  split at h
  next => cases h
  next => cases h; rfl

theorem events_write {pair : LinePair} (hd : ∀ kind, d.candidates kind = [])
    (h : pair.write options d b = .ok p) : p.events = pair.decisions options := by
  cases pair with
  | kept line | unpairedRemoval line | pureInsertion line =>
    cases h
    rfl
  | modification old new => exact events_rewriteLine hd h

end LinePair

namespace Morph

/-- Pairs of lines in turn tell of their decisions in turn. -/
theorem events_writeAll {options : Options} (pairs : List LinePair) {d : Draft} {b : Budget}
    (events : List Event) (hd : ∀ kind, d.candidates kind = []) :
    (writeAll options pairs ⟨d, b, events⟩).events =
      events ++ pairs.flatMap (LinePair.decisions options) := by
  induction pairs generalizing d b events with
  | nil => exact (List.append_nil events).symm
  | cons pair pairs ih =>
    obtain ⟨p, hwrite, _, hp, _⟩ := pair.write_spec options b hd
    simp only [writeAll, hwrite, ih _ hp, LinePair.events_write hd hwrite, List.flatMap_cons,
      List.append_assoc]

/-- What there is to tell of a morph, but for its end. -/
def decisions (m : Morph) : List Event := m.pairs.flatMap (LinePair.decisions m.options)

theorem level_of_mem_decisions {m : Morph} {e : Event} (h : e ∈ m.decisions) :
    e.level = .trace := by
  obtain ⟨_, _, he⟩ := List.mem_flatMap.mp h
  exact LinePair.level_of_mem_decisions he

theorem sum_candidates_flatMap_decisions (options : Options) (pairs : List LinePair) :
    ((pairs.flatMap (LinePair.decisions options)).map Event.candidates).sum +
        (pairs.map LinePair.typed).sum = totalCost options pairs := by
  induction pairs with
  | nil => rfl
  | cons pair pairs ih =>
    have first := pair.sum_candidates_decisions options
    simp only [List.flatMap_cons, List.map_append, List.sum_append, List.map_cons, List.sum_cons,
      totalCost]
    omega

end Morph

namespace Morphed

/-- The events of a morph that tell of its decisions. -/
def traces (r : Morphed) : List Event := r.events.filter fun e => e.level == .trace

end Morphed

namespace Morph

variable (m : Morph) (b : Budget)

/-- Behind its decisions, a morph tells of its end and of what it has spent. -/
theorem events_run :
    (m.run b).events =
      m.decisions ++ [.morphed m.pairs.length (min b.remaining m.distance) b.remaining] := by
  have spent : b.remaining - (m.run b).budget.remaining = min b.remaining m.distance := by
    simp only [budget_run_eq, Budget.remaining_spendUpTo]
    omega
  have told : (writeAll m.options m.pairs ⟨.empty, b, []⟩).events = m.decisions :=
    events_writeAll m.pairs [] Draft.candidates_empty
  exact congrArg₂ (fun es n => es ++ [Event.morphed m.pairs.length n b.remaining]) told spent

theorem traces_run : (m.run b).traces = m.decisions := by
  have decided : m.decisions.filter (fun e => e.level == .trace) = m.decisions := by
    rw [List.filter_eq_self]
    intro e he
    simp [level_of_mem_decisions he]
  rw [Morphed.traces, events_run, List.filter_append, decided]
  exact List.append_nil _

theorem distance_eq_sum_candidates :
    m.distance = (m.decisions.map Event.candidates).sum + (m.pairs.map LinePair.typed).sum := by
  rw [decisions, sum_candidates_flatMap_decisions, totalCost_eq_sum, distance]

/-- With any two budgets, a morph takes the same decisions, those of its pairs of lines in turn.
Behind them it only tells of its end: the amount that it has spent is the sum of the candidates that
it has reported and of the contents of the lines that it has added, as far as the budget goes. -/
theorem decisions_without_budget (m : Morph) (b b' : Budget) :
    (m.run b).traces = (m.run b').traces ∧
      (m.run b).traces = m.pairs.flatMap (LinePair.decisions m.options) ∧
      let spent := min b.remaining
        (((m.run b).traces.map Event.candidates).sum + (m.pairs.map LinePair.typed).sum)
      (m.run b).events = (m.run b).traces ++ [.morphed m.pairs.length spent b.remaining] ∧
        (m.run b).budget.remaining = b.remaining - spent := by
  simp only [traces_run, ← distance_eq_sum_candidates]
  refine ⟨trivial, rfl, m.events_run b, ?_⟩
  rw [budget_run_eq, Budget.remaining_spendUpTo]
  omega

end Morph

end Morphing
