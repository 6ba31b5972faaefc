import Morphing.Proofs.Line.Matching

/-!
# Adjacent pairing goes block by block

A kept line ends the wait of all removed lines before it. So with adjacent pairing a diff can be cut
at its kept lines, and what stands between two of them, a block, is paired on its own. Inside a block
nothing ends a wait, and adjacent pairing is stack pairing. What a block leaves alone is put out at
its end, just before the kept line that ends it.
-/

namespace Morphing

open Change

section Cut

variable {front back : List (Change Text)}

/-- Nothing waits behind a kept line, whatever waits before it. -/
theorem pairLinesWith_adjacent_append_kept (waiting : List Text) (before : List (Change Text))
    (line : Text) (after : List (Change Text)) :
    pairLinesWith .adjacent waiting (before ++ .kept line :: after) =
      pairLinesWith .adjacent waiting before ++ .kept line :: pairLines .adjacent after := by
  induction before generalizing waiting with
  | nil =>
    rw [List.nil_append, pairLinesWith_kept, pairLinesWith_nil]
    rfl
  | cons c before ih =>
    rw [List.cons_append]
    cases c with
    | kept k =>
      rw [pairLinesWith_kept, pairLinesWith_kept]
      simp only [ih [], List.append_assoc, List.cons_append]
    | removed old => rw [pairLinesWith_removed, pairLinesWith_removed, ih (old :: waiting)]
    | added new =>
      cases waiting with
      | nil => exact congrArg (.pureInsertion new :: ·) (ih [])
      | cons old waiting => exact congrArg (.modification old new :: ·) (ih waiting)

theorem pairLines_adjacent_append_kept (before : List (Change Text)) (line : Text)
    (after : List (Change Text)) :
    pairLines .adjacent (before ++ .kept line :: after) =
      pairLines .adjacent before ++ .kept line :: pairLines .adjacent after :=
  pairLinesWith_adjacent_append_kept [] before line after

/-- A diff can be cut behind a kept line. -/
theorem pairLines_adjacent_append_of_getLast? (h : ∀ c ∈ front.getLast?, c.isKept = true) :
    pairLines .adjacent (front ++ back) =
      pairLines .adjacent front ++ pairLines .adjacent back := by
  obtain rfl | ⟨front, c, rfl⟩ := List.eq_nil_or_concat front
  · rfl
  · have hc : c.isKept = true := h c (by simp)
    cases c with
    | removed line | added line => cases hc
    | kept line =>
      have whole := pairLines_adjacent_append_kept front line back
      have first := pairLines_adjacent_append_kept front line []
      rw [List.concat_eq_append, List.append_assoc, List.singleton_append, whole, first,
        List.append_assoc]
      rfl

/-- A diff can be cut before a kept line. -/
theorem pairLines_adjacent_append_of_head? (h : ∀ c ∈ back.head?, c.isKept = true) :
    pairLines .adjacent (front ++ back) =
      pairLines .adjacent front ++ pairLines .adjacent back := by
  cases back with
  | nil =>
    rw [List.append_nil]
    exact (List.append_nil _).symm
  | cons c back =>
    have hc : c.isKept = true := h c rfl
    cases c with
    | removed line | added line => cases hc
    | kept line => exact pairLines_adjacent_append_kept front line back

end Cut

section Block

variable {block : List (Change Text)}

/-- The two ways to pair lines differ at kept lines only. -/
theorem pairLinesWith_adjacent_eq_stack (waiting : List Text)
    (edited : ∀ c ∈ block, c.isKept = false) :
    pairLinesWith .adjacent waiting block = pairLinesWith .stack waiting block := by
  induction block generalizing waiting with
  | nil => rw [pairLinesWith_nil, pairLinesWith_nil]
  | cons c block ih =>
    obtain ⟨hc, others⟩ := List.forall_mem_cons.mp edited
    cases c with
    | kept line => cases hc
    | removed old =>
      rw [pairLinesWith_removed, pairLinesWith_removed, ih (old :: waiting) others]
    | added new =>
      cases waiting with
      | nil => exact congrArg (.pureInsertion new :: ·) (ih [] others)
      | cons old waiting => exact congrArg (.modification old new :: ·) (ih waiting others)

/-- A block is paired by its own positions, and ends with the removed lines that nobody takes. -/
theorem pairLines_block (edited : ∀ c ∈ block, c.isKept = false) :
    pairLines .adjacent block =
      (List.range block.length).filterMap (pairAt block) ++
        ((List.range block.length).filter fun i =>
          Untaken block (partner block) block.length i).map fun i =>
            .unpairedRemoval (lineAt block i) := by
  rw [pairLines, pairLinesWith_adjacent_eq_stack [] edited, ← pairLines,
    pairLines_stack_eq (Nat.le_refl _), List.drop_length, pairLinesWith_nil, ← List.map_reverse,
    reverse_waitingAt_length, List.map_map]
  rfl

end Block

/-- A line is removed by some changes, and no line is kept since then. -/
def RemovedInBlock (past : List (Change Text)) (old : Text) : Prop :=
  ∃ front run, past = front ++ .removed old :: run ∧ ∀ c ∈ run, c.isKept = false

namespace RemovedInBlock

variable {past : List (Change Text)} {old : Text} {waiting : List Text}

theorem last (past : List (Change Text)) (old : Text) :
    RemovedInBlock (past ++ [.removed old]) old :=
  ⟨past, [], rfl, by simp⟩

theorem snoc {c : Change Text} (h : RemovedInBlock past old) (hc : c.isKept = false) :
    RemovedInBlock (past ++ [c]) old := by
  obtain ⟨front, run, rfl, edited⟩ := h
  refine ⟨front, run ++ [c], by simp, ?_⟩
  exact List.forall_mem_append.mpr ⟨edited, by simpa using hc⟩

theorem of_mem_nil (past : List (Change Text)) :
    ∀ line ∈ ([] : List Text), RemovedInBlock past line :=
  fun _ hline => absurd hline List.not_mem_nil

/-- Whatever waits has been removed in this block, so this is where all partners come from. -/
theorem of_modification_mem {new : Text} {changes : List (Change Text)}
    (waits : ∀ line ∈ waiting, RemovedInBlock past line)
    (h : .modification old new ∈ pairLinesWith .adjacent waiting changes) :
    ∃ before after, past ++ changes = before ++ .added new :: after ∧ RemovedInBlock before old := by
  induction changes generalizing past waiting with
  | nil =>
    rw [pairLinesWith_nil] at h
    simp at h
  | cons c changes ih =>
    rw [← List.singleton_append, ← List.append_assoc]
    cases c with
    | kept k =>
      apply ih (of_mem_nil _)
      simpa using h
    | removed line =>
      rw [pairLinesWith_removed] at h
      apply ih _ h
      rw [List.forall_mem_cons]
      exact ⟨last past line, fun line hline => (waits line hline).snoc rfl⟩
    | added line =>
      cases waiting with
      | nil =>
        apply ih (of_mem_nil _)
        simpa using h
      | cons top waiting =>
        obtain ⟨top_waits, waits⟩ := List.forall_mem_cons.mp waits
        rw [pairLinesWith_added_cons, List.mem_cons] at h
        obtain here | later := h
        · cases here
          exact ⟨past, changes, by simp, top_waits⟩
        · exact ih (fun line hline => (waits line hline).snoc rfl) later

end RemovedInBlock

/-- With adjacent pairing, the pairs of a diff are those before a kept line, the kept line, and those
behind it; without kept lines they are those of stack pairing. So a block between two kept lines is
paired on its own: the pairs that stand for its positions join lines of the block only, and the
removed lines of the block that stay alone follow in their order, directly before the kept line that
ends the block. No added line is paired with one that is removed before the last kept line. -/
theorem pairLines_adjacent_blocks :
    (∀ (before : List (Change Text)) (line : Text) (after : List (Change Text)),
      pairLines .adjacent (before ++ .kept line :: after) =
        pairLines .adjacent before ++ .kept line :: pairLines .adjacent after) ∧
    (∀ block : List (Change Text), (∀ c ∈ block, c.isKept = false) →
      pairLines .adjacent block = pairLines .stack block) ∧
    (∀ front block back : List (Change Text), (∀ c ∈ front.getLast?, c.isKept = true) →
      (∀ c ∈ block, c.isKept = false) → (∀ c ∈ back.head?, c.isKept = true) →
      pairLines .adjacent (front ++ block ++ back) =
        pairLines .adjacent front ++
          ((List.range block.length).filterMap (pairAt block) ++
            ((List.range block.length).filter fun i =>
              Untaken block (partner block) block.length i).map fun i =>
                .unpairedRemoval (lineAt block i)) ++
          pairLines .adjacent back) ∧
    ∀ (changes : List (Change Text)) (old new : Text),
      .modification old new ∈ pairLines .adjacent changes →
      ∃ before after, changes = before ++ .added new :: after ∧ RemovedInBlock before old := by
  refine ⟨pairLines_adjacent_append_kept, ?_, ?_, ?_⟩
  · intro block edited
    exact pairLinesWith_adjacent_eq_stack [] edited
  · intro front block back before edited behind
    rw [pairLines_adjacent_append_of_head? behind, pairLines_adjacent_append_of_getLast? before,
      pairLines_block edited]
  · intro changes old new h
    exact RemovedInBlock.of_modification_mem (RemovedInBlock.of_mem_nil []) h

/-- The line that is left over in front of a kept line is put out there, and the line added behind it
stays alone. -/
theorem pairLines_adjacent_blocks_left :
    let block : List (Change Text) := [.removed ['a'], .removed ['b'], .added ['x']]
    let back : List (Change Text) := [.kept ['k'], .added ['y']]
    (∀ c ∈ block, c.isKept = false) ∧ (∀ c ∈ back.head?, c.isKept = true) ∧
      pairLines .adjacent block = pairLines .stack block ∧
      pairLines .adjacent (block ++ back) = [.modification ['b'] ['x'], .unpairedRemoval ['a'],
        .kept ['k'], .pureInsertion ['y']] ∧
      ∃ before after, block ++ back = before ++ .added ['x'] :: after ∧
        RemovedInBlock before ['b'] := by
  intro block back
  have edited : ∀ c ∈ block, c.isKept = false := by decide
  have behind : ∀ c ∈ back.head?, c.isKept = true := by decide
  obtain ⟨-, stack, blocks, partners⟩ := pairLines_adjacent_blocks
  have whole := blocks [] block back (by decide) edited behind
  exact ⟨edited, behind, stack block edited, whole.trans (by decide),
    partners _ ['b'] ['x'] (by decide)⟩

end Morphing
