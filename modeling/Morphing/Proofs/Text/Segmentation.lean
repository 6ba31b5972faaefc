import Morphing.Proofs.Text.Lines
import Morphing.Proofs.Text.Words

/-!
# Words and lines can be read off a text

The words of a text alternate, and its lines end with their line feeds. Conversely, whatever
alternates are the words of the text that they make up, and whatever ends like lines are its lines:
of all ways to cut a text, one has this form only. In the same way, of all ways to cut a line, one
cuts off what ends it.
-/

namespace Morphing.Text

theorem Uniform.isChain {w : Text} (h : Uniform w) :
    w.IsChain fun a b => (isBlank a == isBlank b) = true := by
  apply List.Pairwise.isChain
  apply List.pairwise_of_forall_mem_list
  intro a ha b hb
  exact beq_iff_eq.mpr (h a ha b hb)

/-- The words of a text are what it is made up of in turns of blank and of other characters. -/
theorem words_eq_iff {t : Text} {ws : List Text} :
    words t = ws ↔ Alternating ws ∧ ws.flatten = t := by
  constructor
  · rintro rfl
    exact ⟨alternating_words t, flatten_words t⟩
  · rintro ⟨alt, rfl⟩
    rw [words_eq_splitBy]
    apply List.splitBy_flatten
    · intro hnil
      exact alt.ne_nil [] hnil rfl
    · intro w hw
      exact (alt.uniform w hw).isChain
    · apply alt.turns.imp_of_mem_imp
      intro v w hv hw differ
      have hv := alt.ne_nil v hv
      have hw := alt.ne_nil w hw
      exact ⟨hv, hw, beq_eq_false_iff_ne.mpr (differ _ (List.getLast_mem hv) _ (List.head_mem hw))⟩

/-! ### Lines -/

/-- Texts that end like lines: none is empty, a line feed can only be the last character of one, and
only the last of them can do without. -/
structure Lined (ls : List Text) : Prop where
  ne_nil : ∀ l ∈ ls, l ≠ []
  inner : ∀ l ∈ ls, '\n' ∉ l.dropLast
  terminated : ls.IsChain fun l _ => l.getLast? = some '\n'

theorem lined_lines (t : Text) : Lined (lines t) where
  ne_nil _ hl := List.ne_nil_of_mem_splitBy hl
  inner _ hl := notMem_dropLast_of_isChain (List.isChain_of_mem_splitBy hl)
  terminated := by
    apply (List.isChain_getLast_head_splitBy (fun a _ : Char => a != '\n') t).imp
    rintro l l' ⟨hl, -, hlast⟩
    rw [List.getLast?_eq_some_getLast hl]
    simpa using hlast

theorem isChain_of_notMem_dropLast {l : Text} (h : '\n' ∉ l.dropLast) :
    l.IsChain fun a _ => (a != '\n') = true := by
  induction l with
  | nil => exact .nil
  | cons a l ih =>
    cases l with
    | nil => exact .singleton a
    | cons b l =>
      rw [List.dropLast_cons_cons, List.mem_cons, not_or] at h
      exact (ih h.2).cons_cons (bne_iff_ne.mpr (Ne.symm h.1))

/-- The lines of a text are what it is made up of with line feeds at the ends only. -/
theorem lines_eq_iff {t : Text} {ls : List Text} : lines t = ls ↔ Lined ls ∧ ls.flatten = t := by
  constructor
  · rintro rfl
    exact ⟨lined_lines t, List.flatten_splitBy _ t⟩
  · rintro ⟨lined, rfl⟩
    apply List.splitBy_flatten
    · intro hnil
      exact lined.ne_nil [] hnil rfl
    · intro l hl
      exact isChain_of_notMem_dropLast (lined.inner l hl)
    · apply lined.terminated.imp_of_mem_imp
      intro l l' hl hl' hlast
      have hl := lined.ne_nil l hl
      rw [List.getLast?_eq_some_getLast hl, Option.some.injEq] at hlast
      exact ⟨hl, lined.ne_nil l' hl', by rw [hlast]; rfl⟩

/-- What can end a line behind its content: nothing, or a line feed, which takes a carriage return
before it along. -/
inductive Ends (content : Text) : Text → Prop where
  | unterminated : Ends content []
  | lineFeed : content.getLast? ≠ some '\r' → Ends content ['\n']
  | carriageReturn : Ends content ['\r', '\n']

theorem Ends.splitTerminator {content ending : Text} (h : Ends content ending)
    (hcontent : '\n' ∉ content) : splitTerminator (content ++ ending) = (content, ending) := by
  cases h with
  | unterminated =>
    have last : content.reverse.head? ≠ some '\n' := by
      rw [List.head?_reverse]
      intro hlast
      exact hcontent (List.mem_of_getLast? hlast)
    rw [List.append_nil, Text.splitTerminator]
    split
    next hrev => exact absurd (congrArg List.head? hrev) last
    next hrev => exact absurd (congrArg List.head? hrev) last
    next => rfl
  | lineFeed hlast =>
    rw [Text.splitTerminator, List.reverse_append]
    split
    next rest hrev =>
      have back : content.reverse = '\r' :: rest := (List.cons.inj hrev).2
      rw [← List.head?_reverse, back] at hlast
      exact absurd rfl hlast
    next rest _ hrev =>
      have back : content.reverse = rest := (List.cons.inj hrev).2
      rw [← back, List.reverse_reverse]
    next _ hrev => exact absurd rfl (hrev content.reverse)
  | carriageReturn =>
    rw [Text.splitTerminator, List.reverse_append]
    show (content.reverse.reverse, _) = _
    rw [List.reverse_reverse]

/-- Every line is made up in this way. -/
theorem exists_ends {l : Text} (h : '\n' ∉ l.dropLast) :
    ∃ content ending, content ++ ending = l ∧ '\n' ∉ content ∧ Ends content ending := by
  obtain rfl | ⟨m, c, rfl⟩ := List.eq_nil_or_concat l
  · exact ⟨[], [], rfl, List.not_mem_nil, .unterminated⟩
  · rw [List.concat_eq_append, List.dropLast_concat] at h
    by_cases hc : c = '\n'
    · subst hc
      by_cases hlast : m.getLast? = some '\r'
      · obtain ⟨m, rfl⟩ := List.getLast?_eq_some_iff.mp hlast
        rw [List.mem_append, not_or] at h
        exact ⟨m, ['\r', '\n'], by simp, h.1, .carriageReturn⟩
      · exact ⟨m, ['\n'], by simp, h, .lineFeed hlast⟩
    · refine ⟨m.concat c, [], List.append_nil _, ?_, .unterminated⟩
      rw [List.concat_eq_append, List.mem_append, List.mem_singleton, not_or]
      exact ⟨h, Ne.symm hc⟩

/-- A line is split where what ends it begins. -/
theorem splitTerminator_eq_iff {l content ending : Text} (h : '\n' ∉ l.dropLast) :
    splitTerminator l = (content, ending) ↔
      content ++ ending = l ∧ '\n' ∉ content ∧ Ends content ending := by
  constructor
  · intro hsplit
    obtain ⟨c, e, rfl, hc, ends⟩ := exists_ends h
    rw [ends.splitTerminator hc] at hsplit
    cases hsplit
    exact ⟨rfl, hc, ends⟩
  · rintro ⟨rfl, hcontent, ends⟩
    exact ends.splitTerminator hcontent

/-- Words and lines are read off a text: they are the one way to cut it into stretches that take
turns, and into texts that end like lines. A line is split into its content and what ends it, in the
one way that there is. -/
theorem segmentation_unique :
    (∀ (t : Text) (ws : List Text), words t = ws ↔ Alternating ws ∧ ws.flatten = t) ∧
    (∀ (t : Text) (ls : List Text), lines t = ls ↔ Lined ls ∧ ls.flatten = t) ∧
    ∀ l : Text, '\n' ∉ l.dropLast → ∀ content ending, splitTerminator l = (content, ending) ↔
      content ++ ending = l ∧ '\n' ∉ content ∧ Ends content ending := by
  refine ⟨fun _ _ => words_eq_iff, fun _ _ => lines_eq_iff, ?_⟩
  intro l hl content ending
  exact splitTerminator_eq_iff hl

/-- A carriage return belongs to the line feed behind it, and to nothing else. -/
theorem segmentation_unique_carriageReturn :
    '\n' ∉ ['a', '\r', '\r', '\n'].dropLast ∧
      splitTerminator ['a', '\r', '\r', '\n'] = (['a', '\r'], ['\r', '\n']) := by
  have inner : '\n' ∉ ['a', '\r', '\r', '\n'].dropLast := by decide
  obtain ⟨-, -, split⟩ := segmentation_unique
  refine ⟨inner, (split _ inner ['a', '\r'] ['\r', '\n']).mpr ⟨rfl, ?_, .carriageReturn⟩⟩
  decide

end Morphing.Text
