import Mathlib.Data.List.Chain
import Mathlib.Data.List.SplitBy
import Morphing.Token.Words

/-!
# Words alternate

Reading a text from its beginning splits it wherever blank and other characters meet. So its words
are not empty, each is blank all through or nowhere, and the two kinds take turns. A stretch of one
kind that a text begins with is therefore no longer than the first word, and the first word can be
read off a text. The same holds behind the end of another text, if the kinds change there.
-/

namespace Morphing.Text

/-! ## Reading words -/

theorem extract_append (before word rest : Text) :
    (before ++ word ++ rest).extract before.length (before ++ word).length = word := by
  rw [List.extract_eq_take_drop, List.append_assoc, List.drop_left, List.length_append,
    Nat.add_sub_cancel_left, List.take_left]

/-- Behind the words `ws`, and inside one of which `word` has been read, reading goes on as a split
by kind does. -/
theorem wordsFrom_eq_loop {t before word run rest : Text} {c : Char}
    (whole : t = before ++ word ++ rest) (last : word = (c :: run).reverse) (ws : List Text) :
    ws.reverse ++ wordsFrom t before.length (before ++ word).length (isBlank c) rest =
      List.splitBy.loop (fun a b => isBlank a == isBlank b) rest c run ws := by
  induction rest generalizing before word run c ws with
  | nil =>
    have inside : before.length < t.length := by
      rw [whole, last]
      simp
    have final : t.drop before.length = word := by
      rw [whole, List.append_nil, List.drop_left]
    rw [wordsFrom, if_pos inside, final, List.splitBy.loop, ← last, List.reverse_cons]
  | cons b rest ih =>
    rw [wordsFrom, List.splitBy.loop]
    by_cases same : isBlank c = isBlank b
    · have longer : word ++ [b] = (b :: c :: run).reverse := by
        rw [List.reverse_cons, ← last]
      have next : (before ++ (word ++ [b])).length = (before ++ word).length + 1 := by
        rw [← List.append_assoc, List.length_append, List.length_singleton]
      rw [same, bne_self_eq_false, if_neg Bool.false_ne_true, beq_self_eq_true, ← next]
      exact ih (by simp [whole]) longer ws
    · have done : t.extract before.length (before ++ word).length = word :=
        whole ▸ extract_append before word _
      have split : t = before ++ word ++ [b] ++ rest := by simp [whole]
      have next : (before ++ word ++ [b]).length = (before ++ word).length + 1 :=
        List.length_append
      have read := ih split (show [b] = [b].reverse from rfl) (word :: ws)
      rw [List.reverse_cons, List.append_assoc, next] at read
      rw [if_pos (bne_iff_ne.mpr same), beq_eq_false_iff_ne.mpr same, done, ← last]
      exact read

/-- The words of a text are its runs of characters of one kind. -/
theorem words_eq_splitBy (t : Text) : words t = t.splitBy fun a b => isBlank a == isBlank b := by
  cases t with
  | nil => rfl
  | cons c rest =>
    rw [words, wordsFrom, List.splitBy, List.head?_cons, Option.all_some, bne_self_eq_false,
      if_neg Bool.false_ne_true]
    exact wordsFrom_eq_loop (show c :: rest = [] ++ [c] ++ rest from rfl) rfl []

@[simp] theorem flatten_words (t : Text) : (words t).flatten = t := by
  rw [words_eq_splitBy, List.flatten_splitBy]

/-! ## Their kinds -/

/-- A text of one kind: blank all through, or nowhere. -/
def Uniform (t : Text) : Prop := ∀ a ∈ t, ∀ b ∈ t, isBlank a = isBlank b

theorem uniform_nil : Uniform [] := by
  intro a ha
  cases ha

theorem uniform_singleton (c : Char) : Uniform [c] := by
  intro a ha b hb
  rw [List.mem_singleton.mp ha, List.mem_singleton.mp hb]

theorem Uniform.subset {t u : Text} (h : Uniform u) (hsub : t ⊆ u) : Uniform t := by
  intro a ha b hb
  exact h a (hsub ha) b (hsub hb)

theorem uniform_of_isChain {t : Text}
    (h : t.IsChain fun a b => (isBlank a == isBlank b) = true) : Uniform t := by
  induction t with
  | nil => exact uniform_nil
  | cons a t ih =>
    cases t with
    | nil => exact uniform_singleton a
    | cons b t =>
      obtain ⟨hab, rest⟩ := List.isChain_cons_cons.mp h
      have kind : ∀ c ∈ a :: b :: t, isBlank c = isBlank b := by
        intro c hc
        obtain rfl | hc := List.mem_cons.mp hc
        · exact eq_of_beq hab
        · exact ih rest c hc b List.mem_cons_self
      intro x hx y hy
      rw [kind x hx, kind y hy]

/-- Texts of one kind each, none of them empty, whose kinds take turns. -/
structure Alternating (ws : List Text) : Prop where
  ne_nil : ∀ w ∈ ws, w ≠ []
  uniform : ∀ w ∈ ws, Uniform w
  turns : ws.IsChain fun v w => ∀ a ∈ v, ∀ b ∈ w, isBlank a ≠ isBlank b

theorem alternating_words (t : Text) : Alternating (words t) where
  ne_nil _ hw := List.ne_nil_of_mem_splitBy (words_eq_splitBy t ▸ hw)
  uniform _ hw := uniform_of_isChain (List.isChain_of_mem_splitBy (words_eq_splitBy t ▸ hw))
  turns := by
    rw [words_eq_splitBy]
    have borders := List.isChain_getLast_head_splitBy (fun a b => isBlank a == isBlank b) t
    apply borders.imp_of_mem_imp
    rintro v w hv hw ⟨hv', hw', hdiffer⟩ a ha b hb hab
    have left := uniform_of_isChain (List.isChain_of_mem_splitBy hv) a ha _ (List.getLast_mem hv')
    have right := uniform_of_isChain (List.isChain_of_mem_splitBy hw) b hb _ (List.head_mem hw')
    rw [← left, ← right, hab, beq_self_eq_true] at hdiffer
    cases hdiffer

namespace Alternating

variable {v w : Text} {vs ws : List Text}

theorem of_append (h : Alternating (vs ++ ws)) : Alternating ws where
  ne_nil w hw := h.ne_nil w (List.mem_append_right _ hw)
  uniform w hw := h.uniform w (List.mem_append_right _ hw)
  turns := h.turns.right_of_append

theorem of_cons (h : Alternating (w :: ws)) : Alternating ws := by
  have split : Alternating ([w] ++ ws) := h
  exact split.of_append

/-- What follows a word begins with the other kind. -/
theorem head_differs (h : Alternating (w :: ws)) :
    ∀ a ∈ w, ∀ b ∈ ws.flatten.head?, isBlank a ≠ isBlank b := by
  intro a ha b hb
  cases ws with
  | nil => cases hb
  | cons v ws =>
    have hv : v ≠ [] := h.ne_nil v (by simp)
    obtain ⟨c, v, rfl⟩ := List.exists_cons_of_ne_nil hv
    have hcb : c = b := by simpa using hb
    exact (List.isChain_cons_cons.mp h.turns).1 a ha b (hcb ▸ List.mem_cons_self)

end Alternating

/-- A stretch of one kind ends at the latest where, behind something that is not empty, the kinds
change. -/
theorem Uniform.length_le {t u v rest rest' : Text} (h : Uniform t)
    (heq : u ++ v ++ rest = t ++ rest') (hv : v ≠ [])
    (turn : ∀ a ∈ v, ∀ b ∈ rest.head?, isBlank a ≠ isBlank b) :
    t.length ≤ (u ++ v).length := by
  obtain ⟨s, hs, hrest⟩ | ⟨s, hs, -⟩ := List.append_eq_append_iff.mp heq
  · cases s with
    | nil =>
      rw [hs, List.append_nil]
    | cons b s =>
      obtain ⟨a, v', rfl⟩ := List.exists_cons_of_ne_nil hv
      have ha : a ∈ t := by
        rw [hs]
        simp
      have hb : b ∈ t := by
        rw [hs]
        simp
      rw [hrest] at turn
      exact absurd (h a ha b hb) (turn a List.mem_cons_self b rfl)
  · rw [hs, List.length_append]
    exact Nat.le_add_right _ _

/-- The first word can be read off a text. -/
theorem first_word_unique {v w rest rest' : Text} (heq : v ++ rest = w ++ rest') (hv : v ≠ [])
    (hw : w ≠ []) (uv : Uniform v) (uw : Uniform w)
    (turn : ∀ a ∈ v, ∀ b ∈ rest.head?, isBlank a ≠ isBlank b)
    (turn' : ∀ a ∈ w, ∀ b ∈ rest'.head?, isBlank a ≠ isBlank b) : v = w := by
  have hle : w.length ≤ v.length := uw.length_le (u := []) heq hv turn
  have hge : v.length ≤ w.length := uv.length_le (u := []) heq.symm hw turn'
  exact List.append_inj_left heq (Nat.le_antisymm hge hle)

namespace Alternating

variable {t u w rest : Text} {ws : List Text}

/-- A stretch of one kind, behind which no more follows than behind the first word, is that word.
Before the word there may be a text that ends in the other kind. -/
theorem eq_of_le (alt : Alternating (w :: ws)) (ut : Uniform t)
    (heq : u ++ w ++ ws.flatten = t ++ rest)
    (lag : ∀ a ∈ u.getLast?, ∀ b ∈ w.head?, isBlank a ≠ isBlank b)
    (hle : rest.length ≤ ws.flatten.length) : t = w := by
  have hw : w ≠ [] := alt.ne_nil w List.mem_cons_self
  have short := ut.length_le heq hw alt.head_differs
  have lengths := congrArg List.length heq
  simp only [List.length_append] at lengths short
  have same : u ++ w = t := List.append_inj_left heq (by rw [List.length_append]; omega)
  cases hu : u.getLast? with
  | none =>
    rw [List.getLast?_eq_none_iff.mp hu] at same
    exact same.symm
  | some a =>
    obtain ⟨b, w, rfl⟩ := List.exists_cons_of_ne_nil hw
    have ha : a ∈ t := same ▸ List.mem_append_left _ (List.mem_of_getLast? hu)
    have hb : b ∈ t := same ▸ List.mem_append_right _ List.mem_cons_self
    exact absurd (ut a ha b hb) (lag a hu b rfl)

/-- A stretch of one kind does not reach behind the first word. What is left of that ends as the
word does. -/
theorem exists_lag (alt : Alternating (w :: ws)) (ut : Uniform t)
    (heq : u ++ w ++ ws.flatten = t ++ rest) :
    ∃ u', u' ++ ws.flatten = rest ∧ ∀ a ∈ u'.getLast?, a ∈ w := by
  have hw : w ≠ [] := alt.ne_nil w List.mem_cons_self
  have short := ut.length_le heq hw alt.head_differs
  obtain ⟨s, hs, hrest⟩ | ⟨s, hs, hrest⟩ := List.append_eq_append_iff.mp heq
  · have none : s = [] := by
      rw [hs, List.length_append] at short
      exact List.length_eq_zero_iff.mp (by omega)
    rw [none, List.nil_append] at hrest
    refine ⟨[], hrest, ?_⟩
    intro a ha
    cases ha
  · refine ⟨s, hrest.symm, ?_⟩
    intro a ha
    have last : (u ++ w).getLast? = some a := by
      rw [hs, List.getLast?_append, Option.mem_def.mp ha]
      rfl
    rw [List.getLast?_append, List.getLast?_eq_some_getLast hw] at last
    cases last
    exact List.getLast_mem hw

/-- Let a text be cut into words and into as many stretches of one kind. A stretch never reaches
behind its word, so if what follows it is no longer than what follows the word, the two are the
same. -/
theorem eq_of_cut {ts ts' ws' : List Text} (alt : Alternating (ws ++ w :: ws'))
    (hlen : ts.length = ws.length) (uts : ∀ x ∈ ts, Uniform x) (ut : Uniform t)
    (heq : u ++ (ws ++ w :: ws').flatten = (ts ++ t :: ts').flatten)
    (lag : ∀ a ∈ u.getLast?, ∀ b ∈ (ws ++ w :: ws').flatten.head?, isBlank a ≠ isBlank b)
    (hle : ts'.flatten.length ≤ ws'.flatten.length) : t = w := by
  -- `u` is by how much the stretches lag behind. It ends in the kind of the word before.
  induction ts generalizing ws u with
  | nil =>
    obtain rfl : ws = [] := List.length_eq_zero_iff.mp hlen.symm
    have whole : u ++ w ++ ws'.flatten = t ++ ts'.flatten := by simpa using heq
    have lag' : ∀ a ∈ u.getLast?, ∀ b ∈ w.head?, isBlank a ≠ isBlank b := by
      intro a ha b hb
      apply lag a ha b
      rw [List.nil_append, List.flatten_cons, List.head?_append, Option.mem_def.mp hb]
      rfl
    exact alt.eq_of_le ut whole lag' hle
  | cons x ts ih =>
    cases ws with
    | nil => cases hlen
    | cons v ws =>
      obtain ⟨ux, uts⟩ := List.forall_mem_cons.mp uts
      have whole : u ++ v ++ (ws ++ w :: ws').flatten = x ++ (ts ++ t :: ts').flatten := by
        simpa using heq
      obtain ⟨u', rest, hlast⟩ := alt.exists_lag ux whole
      apply ih alt.of_cons (Nat.succ.inj hlen) uts rest
      intro a ha
      exact alt.head_differs a (hlast a ha)

end Alternating

end Morphing.Text
