import Morphing.Json.Decode

/-!
# How numbers and variants are read

What is read is what the form says: a number only from an integer that fits a machine word, a
variant only under its name.
-/

namespace Morphing.Json

variable {α β ε : Type}

theorem bind_eq_ok {x : Except ε α} {f : α → Except ε β} {b : β} :
    x >>= f = .ok b ↔ ∃ a, x = .ok a ∧ f a = .ok b := by
  cases x with
  | error e => exact ⟨nofun, nofun⟩
  | ok a => exact ⟨fun h => ⟨a, rfl, h⟩, fun ⟨_, h, h'⟩ => Except.ok.inj h ▸ h'⟩

/-! ## Numbers -/

theorem toWord_eq_ok {j : Json} {n : Nat} :
    toWord j = .ok n ↔ j = .integer n ∧ n ≤ maxWord := by
  cases j with
  | integer m =>
    simp only [toWord, integer.injEq]
    by_cases negative : m < 0
    · rw [if_pos negative]
      exact ⟨nofun, fun ⟨h, _⟩ => by omega⟩
    · by_cases small : m ≤ maxWord
      · rw [if_neg negative, if_pos small, Except.ok.injEq]
        omega
      · rw [if_neg negative, if_neg small]
        exact ⟨nofun, fun ⟨h, _⟩ => by omega⟩
  | _ => exact ⟨nofun, fun ⟨h, _⟩ => nomatch h⟩

theorem toWord_integer {n : Nat} (h : n ≤ maxWord) : toWord (.integer n) = .ok n :=
  toWord_eq_ok.mpr ⟨rfl, h⟩

/-- A number, if it has been read, fits a machine word. -/
def FitsWord (x : Option Nat) : Prop := ∀ n, x = some n → n ≤ maxWord

theorem fitsWord_none : FitsWord none := nofun

theorem fitsWord_of_toWord {j : Json} {n : Nat} (h : toWord j = .ok n) : FitsWord (some n) :=
  fun _ same => Option.some.inj same ▸ (toWord_eq_ok.mp h).2

theorem required_eq_ok {missing : String → DecodeError} {name : String} {x : Option α} {a : α} :
    required missing name x = .ok a ↔ x = some a := by
  cases x <;> simp [required]

/-! ## Variants -/

/-- Among things with different names the one with a given name is found. -/
theorem find?_name_eq_some_iff {named : List (String × α)} {name : Text} {m : String × α}
    (nodup : (named.map fun n => n.1.toList).Nodup) :
    named.find? (fun n => n.1.toList == name) = some m ↔ m ∈ named ∧ m.1.toList = name := by
  constructor
  · intro h
    have same := List.find?_some h
    exact ⟨List.mem_of_find?_eq_some h, eq_of_beq same⟩
  · rintro ⟨mem, rfl⟩
    obtain ⟨before, after, rfl⟩ := List.append_of_mem mem
    rw [List.map_append, List.map_cons] at nodup
    refine List.find?_eq_some_iff_append.mpr ⟨beq_self_eq_true _, before, after, rfl, ?_⟩
    intro n hn
    have differ := (List.nodup_append.mp nodup).2.2 n.1.toList (List.mem_map.mpr ⟨n, hn, rfl⟩)
      m.1.toList List.mem_cons_self
    exact bne_iff_ne.mpr differ

theorem findVariant_eq_ok {variants : List (String × α)} {name : Text} {a : α}
    (nodup : (variants.map fun v => v.1.toList).Nodup) :
    findVariant variants name = .ok a ↔ ∃ v, (v, a) ∈ variants ∧ v.toList = name := by
  have found (m) : variants.find? (fun v => v.1.toList == name) = some m ↔ _ :=
    find?_name_eq_some_iff nodup
  unfold findVariant
  split
  next m h =>
    obtain ⟨mem, named⟩ := (found m).mp h
    refine ⟨fun same => ⟨m.1, Except.ok.inj same ▸ mem, named⟩, fun ⟨v, mem', named'⟩ => ?_⟩
    have same := h.symm.trans ((found (v, a)).mpr ⟨mem', named'⟩)
    exact congrArg (fun m => Except.ok m.2) (Option.some.inj same)
  next h =>
    refine ⟨nofun, fun ⟨v, mem, named⟩ => ?_⟩
    exact absurd (h.symm.trans ((found (v, a)).mpr ⟨mem, named⟩)) nofun

theorem variant_eq_ok_some {variants : List (String × α)} {j content : Json} {a : α} :
    variant variants j = .ok (a, some content) ↔ ∃ fs name, j = .object fs ∧
      members fs = [(name, content)] ∧ findVariant variants name = .ok a := by
  cases j with
  | string name =>
    refine ⟨fun h => ?_, nofun⟩
    obtain ⟨_, -, same⟩ := bind_eq_ok.mp h
    cases same
  | object fs =>
    simp only [variant]
    split
    next name content' one =>
      rw [bind_eq_ok]
      constructor
      · rintro ⟨_, found, same⟩
        cases same
        exact ⟨fs, name, rfl, one, found⟩
      · rintro ⟨_, name', ⟨⟩, one', found⟩
        cases one.symm.trans one'
        exact ⟨a, found, rfl⟩
    next many =>
      refine ⟨nofun, fun ⟨_, name, same, one, _⟩ => ?_⟩
      cases same
      exact (many name content one).elim
  | _ => exact ⟨nofun, nofun⟩

theorem toVariant_eq_ok {variants : List (String × (Json → Decoded α))} {j : Json} {a : α} :
    toVariant variants j = .ok a ↔
      ∃ read content, variant variants j = .ok (read, some content) ∧ read content = .ok a := by
  unfold toVariant
  rw [bind_eq_ok]
  constructor
  · rintro ⟨⟨read, content⟩, found, rest⟩
    cases content with
    | none => cases rest
    | some content => exact ⟨read, content, found, rest⟩
  · exact fun ⟨read, content, found, rest⟩ => ⟨(read, some content), found, rest⟩

end Morphing.Json
