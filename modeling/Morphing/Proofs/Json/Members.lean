import Mathlib.Data.List.Sort
import Morphing.Json.Basic

/-!
# The members of an object

`Json.members` orders the members of an object by key and keeps the last of those with the same key.
So what an object has for a key is what the last of its members with that key says, whatever stands
between and around them, and the ordered list has every key once. Two ordered lists that say the
same are equal.
-/

namespace Morphing.Json

variable {key name : Text} {value : Json} {l l' fs gs : List (Text × Json)}

/-- Members are ordered by key, and no key comes twice. -/
abbrev Ordered (l : List (Text × Json)) : Prop := l.Pairwise fun a b => a.1 < b.1

/-! ## Looking up a key -/

theorem lookup_cons_eq (name key : Text) (value : Json) (l : List (Text × Json)) :
    ((key, value) :: l).lookup name = if name = key then some value else l.lookup name := by
  by_cases h : name = key
  · simp [h]
  · simp only [List.lookup_cons, beq_eq_false_iff_ne.mpr h, if_neg h]

theorem lookup_insertMember (key : Text) (value : Json) (l : List (Text × Json)) (name : Text) :
    (insertMember key value l).lookup name = if name = key then some value else l.lookup name := by
  induction l with
  | nil => simp only [insertMember, lookup_cons_eq]
  | cons m l ih =>
    obtain ⟨k, v⟩ := m
    simp only [insertMember, lookup_cons_eq]
    split
    next same =>
      subst same
      by_cases h : name = key <;> simp only [lookup_cons_eq, h, if_true, if_false]
    next differs =>
      split
      next => simp only [lookup_cons_eq]
      next =>
        simp only [lookup_cons_eq, ih]
        by_cases h : name = k
        · subst h
          simp only [if_neg (Ne.symm differs), if_true]
        · simp only [if_neg h]

/-- Of members with the same key the last one counts. -/
theorem lookup_members (fs : List (Text × Json)) (name : Text) :
    (members fs).lookup name = fs.reverse.lookup name := by
  have rest : ∀ l : List (Text × Json),
      (fs.foldl (fun members m => Json.insertMember m.1 m.2 members) l).lookup name =
        (fs.reverse ++ l).lookup name := by
    induction fs with
    | nil => exact fun _ => rfl
    | cons m fs ih =>
      intro l
      obtain ⟨key, value⟩ := m
      simp only [List.foldl_cons, ih, List.reverse_cons, List.append_assoc, List.lookup_append,
        List.cons_append, List.nil_append, lookup_insertMember, lookup_cons_eq]
  exact (rest []).trans (congrArg (List.lookup name) (List.append_nil fs.reverse))

theorem get?_object (fs : List (Text × Json)) (name : String) :
    (object fs).get? name = fs.reverse.lookup name.toList :=
  lookup_members fs name.toList

theorem lookup_eq_some_iff (h : (l.map Prod.fst).Nodup) :
    l.lookup name = some value ↔ (name, value) ∈ l := by
  induction l with
  | nil => simp
  | cons m l ih =>
    obtain ⟨k, v⟩ := m
    obtain ⟨absent, rest⟩ := List.nodup_cons.mp h
    rw [lookup_cons_eq]
    by_cases same : name = k
    · subst same
      have other : (name, value) ∉ l := fun hm => absent (List.mem_map.mpr ⟨_, hm, rfl⟩)
      simp [other, eq_comm]
    · simp [same, ih rest]

theorem lookup_reverse (h : (l.map Prod.fst).Nodup) (name : Text) :
    l.reverse.lookup name = l.lookup name := by
  have reverse : (l.reverse.map Prod.fst).Nodup := by
    simpa only [List.map_reverse, List.nodup_reverse] using h
  refine Option.ext fun value => ?_
  rw [lookup_eq_some_iff reverse, lookup_eq_some_iff h, List.mem_reverse]

theorem map_fst_zip_sublist :
    ∀ (keys : List Text) (items : List Json), ((keys.zip items).map Prod.fst).Sublist keys
  | [], _ => List.nil_sublist _
  | _ :: _, [] => List.nil_sublist _
  | key :: keys, _ :: items => (map_fst_zip_sublist keys items).cons_cons key

theorem mem_insertMember {m : Text × Json} (h : m ∈ insertMember key value l) :
    m = (key, value) ∨ m ∈ l := by
  induction l with
  | nil => exact .inl (List.mem_singleton.mp h)
  | cons n l ih =>
    obtain ⟨k, v⟩ := n
    rw [insertMember] at h
    split at h
    next => exact (List.mem_cons.mp h).imp_right (List.mem_cons_of_mem _)
    next =>
      split at h
      next => exact List.mem_cons.mp h
      next =>
        obtain rfl | h := List.mem_cons.mp h
        · exact .inr List.mem_cons_self
        · exact (ih h).imp_right (List.mem_cons_of_mem _)

theorem lt_of_not_lt {a b : Text} (h : ¬b < a) (differs : a ≠ b) : a < b :=
  Decidable.byContradiction fun h' => differs (Std.Trichotomous.trichotomous a b h' h)

theorem Ordered.insertMember (h : Ordered l) : Ordered (insertMember key value l) := by
  induction l with
  | nil => exact List.pairwise_singleton _ _
  | cons n l ih =>
    obtain ⟨k, v⟩ := n
    obtain ⟨first, rest⟩ := List.pairwise_cons.mp h
    rw [Json.insertMember]
    split
    next same => exact List.pairwise_cons.mpr ⟨fun m hm => same ▸ first m hm, rest⟩
    next differs =>
      split
      next before =>
        refine List.pairwise_cons.mpr ⟨fun m hm => ?_, h⟩
        obtain rfl | hm := List.mem_cons.mp hm
        · exact before
        · exact List.lt_trans before (first m hm)
      next notBefore =>
        refine List.pairwise_cons.mpr ⟨fun m hm => ?_, ih rest⟩
        obtain rfl | hm := mem_insertMember hm
        · exact lt_of_not_lt notBefore (Ne.symm differs)
        · exact first m hm

theorem ordered_members (fs : List (Text × Json)) : Ordered (members fs) := by
  have rest : ∀ l : List (Text × Json), Ordered l →
      Ordered (fs.foldl (fun members m => Json.insertMember m.1 m.2 members) l) := by
    induction fs with
    | nil => exact fun _ h => h
    | cons m fs ih => exact fun l h => ih _ h.insertMember
  exact rest [] List.Pairwise.nil

theorem Ordered.nodup_keys (h : Ordered l) : (l.map Prod.fst).Nodup := by
  refine List.pairwise_map.mpr (h.imp fun {a b} before same => ?_)
  exact List.lt_irrefl b.1 (same ▸ before)

/-- Ordered lists that have the same for every key are equal. -/
theorem Ordered.eq_of_lookup (h : Ordered l) (h' : Ordered l')
    (same : ∀ name, l.lookup name = l'.lookup name) : l = l' := by
  have : Std.Antisymm fun a b : Text × Json => a.1 < b.1 :=
    ⟨fun a b before after => absurd (List.lt_trans before after) (List.lt_irrefl a.1)⟩
  have : Std.Irrefl fun a b : Text × Json => a.1 < b.1 := ⟨fun a => List.lt_irrefl a.1⟩
  refine List.Pairwise.eq_of_mem_iff h h' fun m => ?_
  rw [← lookup_eq_some_iff h.nodup_keys, ← lookup_eq_some_iff h'.nodup_keys, same]

/-- If no key comes twice, ordering the members only moves them. -/
theorem members_perm (h : (fs.map Prod.fst).Nodup) : (members fs).Perm fs := by
  have nodup := (ordered_members fs).nodup_keys
  refine (List.perm_ext_iff_of_nodup nodup.of_map h.of_map).mpr fun m => ?_
  rw [← lookup_eq_some_iff nodup, lookup_members, lookup_reverse h, lookup_eq_some_iff h]

/-! ## What an object has for a name -/

theorem get?_members (fs : List (Text × Json)) (name : String) :
    (object (members fs)).get? name = (object fs).get? name := by
  rw [get?_object, lookup_reverse (ordered_members fs).nodup_keys]
  rfl

end Morphing.Json
