import Mathlib.Data.List.Forall2
import Mathlib.Data.List.TakeDrop
import Morphing.Json.Parse
import Morphing.Json.Render

/-!
# Reading what was written

`Json.parse?` reads what `Json.render` has written, with the members of objects in their order. The
lemmas follow the parser: each says what one of its parts reads off a written piece that some other
text follows.
-/

namespace Morphing.Json

/-! ## Strings -/

theorem skipBlanks_cons {c : Char} (h : c ≠ ' ' ∧ c ≠ '\t' ∧ c ≠ '\n' ∧ c ≠ '\r') (t : Text) :
    skipBlanks (c :: t) = c :: t := by
  simp [skipBlanks, h]

theorem codeUnit?_control : ∀ n < 0x20,
    List.replicate (4 - (Text.hexadecimal n).length) '0' ++ Text.hexadecimal n =
        ['0', '0', Nat.digitChar (n / 16), Nat.digitChar (n % 16)] ∧
      codeUnit? '0' '0' (Nat.digitChar (n / 16)) (Nat.digitChar (n % 16)) = some n := by
  decide

theorem string?_escapeChar (c : Char) (t : Text) :
    string? (escapeChar c ++ t) = (string? t).map fun r => (c :: r.1, r.2) := by
  unfold escapeChar
  split
  next quote => subst quote; rfl
  next noQuote =>
    split
    next backslash => subst backslash; rfl
    next noBackslash =>
      split
      next control =>
        obtain ⟨digits, unit⟩ := codeUnit?_control c.toNat control
        refine (congrArg (fun d => string? ('\\' :: 'u' :: (d ++ t))) digits).trans ?_
        simp only [List.cons_append, List.nil_append, string?, unit]
        rw [if_neg (by omega), if_neg (by omega), Char.ofNat_toNat]
      next plain =>
        rw [List.cons_append, List.nil_append, string?.eq_def]
        split
        next h => exact absurd (List.cons.inj h).1 noQuote
        next h => exact absurd (List.cons.inj h).1 noBackslash
        next h => exact absurd (List.cons.inj h).1 noBackslash
        next h =>
          cases h
          exact if_neg (by tauto)
        next h => cases h

theorem string?_written (s rest : Text) :
    string? (s.flatMap escapeChar ++ '"' :: rest) = some (s, rest) := by
  induction s with
  | nil => rfl
  | cons c s ih => rw [List.flatMap_cons, List.append_assoc, string?_escapeChar, ih]; rfl

/-! ## Numbers -/

/-- What may follow a value: nothing, or the sign that separates or closes. -/
inductive Stops : Text → Prop
  | nil : Stops []
  | comma (t : Text) : Stops (',' :: t)
  | bracket (t : Text) : Stops (']' :: t)
  | brace (t : Text) : Stops ('\x7d' :: t)

variable {n : Nat} {rest : Text}

theorem isDigit_of_mem_toDigits {c : Char} (h : c ∈ Nat.toDigits 10 n) : c.isDigit = true :=
  Nat.isDigit_of_mem_toDigits (by decide) (by decide) h

theorem ofDigits_toDigits (n : Nat) : ofDigits (Nat.toDigits 10 n) = n := by
  have value := Nat.ofDigitChars_toDigits (n := n) (show 1 < 10 by decide) (by decide)
  simp only [Nat.ofDigitChars_eq_foldl, Nat.mul_comm 10] at value
  exact value

/-- Decimal digits do not begin with a zero that could be left out. -/
theorem head?_toDigits (h : n ≠ 0) : (Nat.toDigits 10 n).head? ≠ some '0' := by
  induction n using Nat.strongRecOn with
  | ind n ih =>
    by_cases small : n < 10
    · rw [Nat.toDigits_of_lt_base small]
      have : ∀ m < 10, m ≠ 0 → [Nat.digitChar m].head? ≠ some '0' := by decide
      exact this n small h
    · rw [Nat.toDigits_of_base_le (by decide) (by omega),
        List.head?_append_of_ne_nil _ Nat.toDigits_ne_nil]
      exact ih (n / 10) (by omega) (by omega)

theorem Stops.digits (stops : Stops rest) :
    rest.takeWhile Char.isDigit = [] ∧ rest.dropWhile Char.isDigit = rest := by
  cases stops <;> exact ⟨rfl, rfl⟩

theorem digits_written (stops : Stops rest) :
    digits (Nat.toDigits 10 n ++ rest) = (Nat.toDigits 10 n, rest) := by
  have all : ∀ c ∈ Nat.toDigits 10 n, c.isDigit = true := fun _ => isDigit_of_mem_toDigits
  rw [digits, List.span_eq_takeWhile_dropWhile, List.takeWhile_append_of_pos all,
    List.dropWhile_append_of_pos all, stops.digits.1, stops.digits.2, List.append_nil]

theorem number?_written (h : n ≤ maxWord) (stops : Stops rest) :
    number? (Nat.toDigits 10 n ++ rest) = some (.integer n, rest) := by
  have all : ∀ c ∈ Nat.toDigits 10 n, c.isDigit = true := fun _ => isDigit_of_mem_toDigits
  have parts := digits_written (n := n) stops
  have value : ofParts? false (Nat.toDigits 10 n) [] none = some (.integer n) := by
    rw [ofParts?, ofDigits_toDigits]
    exact if_pos (by simpa using h)
  have fraction : fraction? rest = some ([], rest) := by cases stops <;> rfl
  have exponent : exponent? rest = some (none, rest) := by cases stops <;> rfl
  cases written : Nat.toDigits 10 n with
  | nil => exact absurd written Nat.toDigits_ne_nil
  | cons c cs =>
    rw [written] at all parts value
    have unsigned : ∀ t, c :: (cs ++ rest) = '-' :: t → False := by
      rintro _ ⟨⟩
      exact absurd (all _ List.mem_cons_self) (by decide)
    have whole : ((c :: cs).isEmpty || ((c :: cs).head? == some '0' &&
        decide (1 < (c :: cs).length))) = false := by
      by_cases zero : n = 0
      · rw [zero, Nat.toDigits_of_lt_base (by decide)] at written
        cases written
        rfl
      · have leading : c ≠ '0' := by simpa [written] using head?_toDigits zero
        simp [leading]
    simp only [number?, List.cons_append, List.cons_append ▸ parts, whole, fraction]
    simp only [Bool.false_eq_true, if_false, Option.bind_eq_bind, Option.bind_some, exponent, value]
    rfl

/-! ## Values -/

variable {j k : Json} {fs gs : List (Text × Json)}

/-- The first value, in writing, is read as the second, whatever follows it. -/
def ReadsAs (j k : Json) : Prop :=
  ∀ depth rest, 2 * (render j).length ≤ depth → Stops rest →
    value? (depth + 1) (render j ++ rest) = some (k, rest)

theorem readsAs_string (s : Text) : ReadsAs (.string s) (.string s) := by
  intro depth rest _ _
  simp only [render, renderString, List.cons_append, List.append_assoc, List.nil_append, value?]
  rw [skipBlanks_cons (by decide)]
  simp only [string?_written, Option.map_some]

theorem readsAs_bool (b : Bool) : ReadsAs (.bool b) (.bool b) := by
  intro depth rest _ _
  cases b <;> rfl

theorem readsAs_integer {n : Nat} (h : n ≤ maxWord) :
    ReadsAs (.integer n) (.integer n) := by
  intro depth rest _ stops
  have written : render (.integer n) = Nat.toDigits 10 n := String.toList_ofList
  have read := number?_written h stops
  have all : ∀ c ∈ Nat.toDigits 10 n, c.isDigit = true := fun _ => isDigit_of_mem_toDigits
  rw [written]
  cases digits : Nat.toDigits 10 n with
  | nil => exact absurd digits Nat.toDigits_ne_nil
  | cons c cs =>
    rw [digits] at read all
    have digit := all c List.mem_cons_self
    have other (d : Char) (h : d.isDigit = false) : c ≠ d := by
      rintro rfl
      exact absurd digit (h ▸ Bool.false_ne_true)
    rw [List.cons_append] at read ⊢
    rw [value?, skipBlanks_cons ⟨other _ rfl, other _ rfl, other _ rfl, other _ rfl⟩]
    -- a digit is none of the characters that other values begin with
    split
    case h_7 => exact read
    all_goals
      next h => exact absurd (List.cons.inj h).1 (other _ rfl)

/-- What is read of an object when one of its members has been read. -/
def afterMember (depth : Nat) (key : Text) (value : Json) :
    Text → Option (List (Text × Json) × Text)
  | ',' :: t => (fields? depth t).map fun r => ((key, value) :: r.1, r.2)
  | '\x7d' :: t => some ([(key, value)], t)
  | _ => none

theorem fields?_member (key : Text) (reads : ReadsAs j k) (stops : Stops rest) {depth : Nat}
    (enough : 2 * (render j).length ≤ depth) :
    fields? (depth + 2) (renderString key ++ ':' :: (render j ++ rest)) =
      afterMember (depth + 1) key k rest := by
  simp only [renderString, List.cons_append, List.append_assoc, List.nil_append]
  rw [fields?, skipBlanks_cons (by decide)]
  simp only [string?_written]
  rw [skipBlanks_cons (by decide)]
  simp only [reads depth rest enough stops]
  cases stops <;> rfl

theorem fields?_written (h : List.Forall₂ (fun m n => m.1 = n.1 ∧ ReadsAs m.2 n.2) fs gs)
    (nonempty : fs ≠ []) (rest : Text) {depth : Nat}
    (enough : 2 * (renderFields fs).length ≤ depth) :
    fields? (depth + 1) (renderFields fs ++ '\x7d' :: rest) = some (gs, rest) := by
  induction h generalizing depth with
  | nil => exact absurd rfl nonempty
  | @cons m n fs gs head tail ih =>
    obtain ⟨key, j⟩ := m
    obtain ⟨_, k⟩ := n
    obtain ⟨rfl, reads⟩ : key = _ ∧ ReadsAs j k := head
    cases tail with
    | nil =>
      simp only [renderFields, List.length_append, List.length_cons] at enough
      obtain ⟨depth, rfl⟩ : ∃ d, depth = d + 1 := ⟨depth - 1, by omega⟩
      simp only [renderFields, List.append_assoc, List.cons_append]
      exact fields?_member key reads (.brace rest) (by omega)
    | @cons next _ more _ =>
      simp only [renderFields, List.length_append, List.length_cons] at enough
      obtain ⟨depth, rfl⟩ : ∃ d, depth = d + 1 := ⟨depth - 1, by omega⟩
      have later := @ih (List.cons_ne_nil next more) depth (by omega)
      simp only [renderFields, List.append_assoc, List.cons_append]
      rw [fields?_member key reads (.comma _) (by omega), afterMember, later, Option.map_some]

theorem exists_renderFields_cons (m : Text × Json) (fs : List (Text × Json)) :
    ∃ t, renderFields (m :: fs) = '"' :: t := by
  cases fs <;> exact ⟨_, rfl⟩

/-- The members of an object are read one by one, and end up in their order. -/
theorem readsAs_object (h : List.Forall₂ (fun m n => m.1 = n.1 ∧ ReadsAs m.2 n.2) fs gs) :
    ReadsAs (.object fs) (.object (members gs)) := by
  intro depth rest enough stops
  simp only [render, List.cons_append, List.append_assoc, List.nil_append, List.length_cons,
    List.length_append] at enough ⊢
  rw [value?, skipBlanks_cons (by decide)]
  cases h with
  | nil => rfl
  | @cons m n fs gs head tail =>
    obtain ⟨depth, rfl⟩ : ∃ d, depth = d + 1 := ⟨depth - 1, by omega⟩
    have read : fields? (depth + 1) (renderFields (m :: fs) ++ '\x7d' :: rest) = _ :=
      fields?_written (.cons head tail) (List.cons_ne_nil _ _) rest (by omega)
    obtain ⟨t, quote⟩ := exists_renderFields_cons m fs
    rw [quote, List.cons_append] at read ⊢
    simp only [skipBlanks_cons (c := '"') (by decide)]
    exact congrArg (Option.map fun r => (Json.object (members r.1), r.2)) read

/-- A value that is read as another wherever it stands is read so where it stands alone. -/
theorem ReadsAs.parse? (h : ReadsAs j k) : parse? (render j) = some k := by
  have read := h (2 * (render j).length + 1) [] (by omega) .nil
  rw [List.append_nil] at read
  rw [Json.parse?, read]
  rfl

end Morphing.Json
