import Mathlib.Data.List.Chain
import Mathlib.Data.List.SplitBy
import Morphing.Token.Lines

/-!
# Lines end with their line feeds

A line has a line feed at its end or nowhere, and of the lines of a text only the last one can do
without. So texts that are put together from lines can be told apart line by line: two texts with
their first line feeds in the same place have the same first line.
-/

namespace Morphing.Text

/-- A line is its content, its terminator, and nothing else: either it ends with a line feed, which a
carriage return may precede, or it is all content. -/
theorem terminator_cases (l : Text) :
    (∃ r, '\n' ∉ r ∧ terminator l = r ++ ['\n']) ∨
      terminator l = [] ∧ content l = l ∧ l.getLast? ≠ some '\n' := by
  simp only [terminator, content, splitTerminator]
  split
  next => exact .inl ⟨['\r'], by decide, rfl⟩
  next => exact .inl ⟨[], by decide, rfl⟩
  next _ h =>
    refine .inr ⟨rfl, rfl, ?_⟩
    intro hlast
    rw [List.getLast?_eq_head?_reverse] at hlast
    obtain ⟨rest, hrest⟩ := List.head?_eq_some_iff.mp hlast
    exact h rest hrest

/-- A text that can be a line: it is not empty, and its content has no line feed. -/
structure IsLine (l : Text) : Prop where
  ne_nil : l ≠ []
  notMem_content : '\n' ∉ content l

theorem notMem_dropLast_of_isChain {l : Text} (h : l.IsChain fun a _ => (a != '\n') = true) :
    '\n' ∉ l.dropLast := by
  induction l with
  | nil => simp
  | cons a l ih =>
    cases l with
    | nil => simp
    | cons b l =>
      obtain ⟨ha, rest⟩ := List.isChain_cons_cons.mp h
      rw [List.dropLast_cons_cons, List.mem_cons, not_or]
      constructor
      · intro heq
        exact bne_iff_ne.mp ha heq.symm
      · exact ih rest

theorem isLine_of_mem_lines {l t : Text} (h : l ∈ lines t) : IsLine l where
  ne_nil := List.ne_nil_of_mem_splitBy h
  notMem_content := by
    have inner := notMem_dropLast_of_isChain (List.isChain_of_mem_splitBy h)
    have whole := content_append_terminator l
    intro hmem
    obtain ⟨r, -, hterm⟩ | ⟨-, hcontent, hlast⟩ := terminator_cases l
    · apply inner
      rw [← whole, hterm, ← List.append_assoc, List.dropLast_concat]
      exact List.mem_append_left r hmem
    · have hne : l ≠ [] := List.ne_nil_of_mem_splitBy h
      rw [hcontent, ← List.dropLast_append_getLast hne, List.mem_append, List.mem_singleton] at hmem
      obtain hmem | hmem := hmem
      · exact inner hmem
      · apply hlast
        rw [List.getLast?_eq_some_getLast hne, ← hmem]

/-- Every line before another one is terminated. -/
theorem pairwise_lines (t : Text) : (lines t).Pairwise fun l _ => terminator l ≠ [] := by
  have borders := List.isChain_getLast_head_splitBy (fun a _ : Char => a != '\n') t
  have chain : (lines t).IsChain fun l _ => terminator l ≠ [] := by
    apply borders.imp
    rintro l l' ⟨hl, -, hlast⟩ hterm
    obtain ⟨r, -, hr⟩ | ⟨-, -, hlast'⟩ := terminator_cases l
    · exact absurd (hr.symm.trans hterm) (by simp)
    · apply hlast'
      rw [List.getLast?_eq_some_getLast hl]
      simpa using hlast
  have : Trans (fun l _ : Text => terminator l ≠ []) (fun l _ : Text => terminator l ≠ [])
      (fun l _ : Text => terminator l ≠ []) := ⟨fun h _ => h⟩
  exact List.isChain_iff_pairwise.mp chain

/-- Behind a line feed, or at the beginning, a text can be cut without cutting a line. -/
theorem lines_append {s : Text} (h : s = [] ∨ s.getLast? = some '\n') (t : Text) :
    lines (s ++ t) = lines s ++ lines t := by
  apply List.splitBy_append
  intro c hc d _
  obtain rfl | hlast := h
  · cases hc
  · cases hlast.symm.trans hc
    rfl

theorem count_terminator (l : Text) :
    (terminator l).count '\n' = if terminator l = [] then 0 else 1 := by
  obtain ⟨r, hr, hterm⟩ | ⟨hterm, -, -⟩ := terminator_cases l
  · rw [hterm, List.count_append, List.count_eq_zero_of_not_mem hr, if_neg (by simp)]
    rfl
  · rw [hterm, if_pos rfl, List.count_nil]

/-- A line has as many line feeds as its terminator. -/
theorem IsLine.count {l : Text} (h : IsLine l) : l.count '\n' = (terminator l).count '\n' := by
  conv_lhs => rw [← content_append_terminator l]
  rw [List.count_append, List.count_eq_zero_of_not_mem h.notMem_content, Nat.zero_add]

/-- A text that ends like a line, and has no other line feed, ends with the one that it has. -/
theorem append_terminator_eq_append_cons {s front back l : Text} (hs : '\n' ∉ s)
    (h : s ++ terminator l = front ++ '\n' :: back) : back = [] ∧ terminator l ≠ [] := by
  obtain ⟨r, hr, hterm⟩ | ⟨hterm, -, -⟩ := terminator_cases l
  · refine ⟨?_, by simp [hterm]⟩
    obtain rfl | ⟨inner, c, rfl⟩ := List.eq_nil_or_concat back
    · rfl
    · -- The line feed would lie inside.
      rw [hterm, ← List.append_assoc, List.concat_eq_append, ← List.cons_append,
        ← List.append_assoc] at h
      have inside : s ++ r = front ++ '\n' :: inner := (List.append_inj' h rfl).1
      have hmem : '\n' ∈ s ++ r := inside ▸ by simp
      exact absurd hmem (by simp [hs, hr])
  · rw [hterm, List.append_nil] at h
    exact absurd (h ▸ by simp) hs

/-- The text before the first line feed, and the one behind it, can be read off. -/
theorem append_cons_unique {a : α} {x y z w : List α} (heq : x ++ a :: z = y ++ a :: w) (hx : a ∉ x)
    (hy : a ∉ y) : x = y ∧ z = w := by
  induction x generalizing y with
  | nil =>
    cases y with
    | nil => exact ⟨rfl, (List.cons.inj heq).2⟩
    | cons b y =>
      obtain ⟨rfl, _⟩ := List.cons.inj heq
      exact absurd List.mem_cons_self hy
  | cons b x ih =>
    cases y with
    | nil =>
      obtain ⟨rfl, _⟩ := List.cons.inj heq
      exact absurd List.mem_cons_self hx
    | cons c y =>
      obtain ⟨rfl, tails⟩ := List.cons.inj heq
      rw [List.mem_cons, not_or] at hx hy
      obtain ⟨rfl, hz⟩ := ih tails hx.2 hy.2
      exact ⟨rfl, hz⟩

/-- Behind a terminated line, texts can be compared line by line. -/
theorem terminated_unique {s t rest rest' l : Text} (hterm : terminator l ≠ []) (hs : '\n' ∉ s)
    (ht : '\n' ∉ t) (heq : s ++ terminator l ++ rest = t ++ terminator l ++ rest') :
    s = t ∧ rest = rest' := by
  obtain ⟨r, hr, hl⟩ | ⟨hl, -, -⟩ := terminator_cases l
  · have marked : (s ++ r) ++ '\n' :: rest = (t ++ r) ++ '\n' :: rest' := by
      rw [hl] at heq
      simpa using heq
    obtain ⟨hsame, hrest⟩ := append_cons_unique marked (by simp [hs, hr]) (by simp [ht, hr])
    exact ⟨List.append_cancel_right hsame, hrest⟩
  · exact absurd hl hterm

end Morphing.Text
