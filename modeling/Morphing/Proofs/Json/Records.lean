import Mathlib.Data.List.Pairwise
import Morphing.Proofs.Json.Decoding
import Morphing.Proofs.Json.Members

/-!
# How records are read

What is read of an object depends only on what it has for the names of the fields: the members with
those keys are read in the order of the keys, the others are left out. Where the fields are apart,
so that neither sees what another has put into the record, any order will do, and a list is read
like the object that has its items under the names of the fields.
-/

namespace Morphing.Json

variable {ρ α β : Type}

namespace RecordReader

/-- How a field is read. -/
abbrev Field (ρ : Type) := String × (ρ → Json → Decoded ρ)

/-- Two fields may be read in either order. -/
def Apart (f g : Field ρ) : Prop :=
  ∀ record j k record', f.2 record j >>= (g.2 · k) = .ok record' ↔
    g.2 record k >>= (f.2 · j) = .ok record'

instance : Std.Symm (@Apart ρ) := ⟨fun _ _ h record j k record' => (h record k j record').symm⟩

/-- Fields that put what they read into different places are apart. -/
theorem apart_of_put {name name' : String} {p : Json → Decoded α} {q : Json → Decoded β}
    {put : ρ → α → ρ} {put' : ρ → β → ρ}
    (h : ∀ record a b, put' (put record a) b = put (put' record b) a) :
    Apart (name, fun record j => return put record (← p j))
      (name', fun record k => return put' record (← q k)) := by
  intro record j k record'
  cases hp : p j <;> cases hq : q k <;> simp [hp, hq, h, bind, Except.bind, pure, Except.pure]

variable (r : RecordReader ρ α)

/-- The keys of the members that are read. -/
def keys : List Text := r.fields.map fun field => field.1.toList

/-- The names of the fields differ, the fields are apart, and whether a record is complete does not
depend on how a missing field is reported. -/
structure Lawful : Prop where
  nodup : r.keys.Nodup
  apart : r.fields.Pairwise Apart
  finish : ∀ missing missing' record a,
    r.finish missing record = .ok a → r.finish missing' record = .ok a

variable {r} {record record' : ρ} {j : Json} {a : α}

/-! ## Members of other names -/

theorem readMember_of_notMem {m : Text × Json} (h : m.1 ∉ r.keys) (record : ρ) :
    r.readMember record m = .ok record := by
  have unknown : r.fields.find? (fun field => field.1.toList == m.1) = none := by
    refine List.find?_eq_none.mpr fun field mem same => h ?_
    exact List.mem_map.mpr ⟨field, mem, eq_of_beq same⟩
  rw [readMember, unknown]

theorem foldlM_filter_keys (ms : List (Text × Json)) (record : ρ) :
    (ms.filter (·.1 ∈ r.keys)).foldlM r.readMember record = ms.foldlM r.readMember record := by
  induction ms generalizing record with
  | nil => rfl
  | cons m ms ih =>
    rw [List.filter_cons]
    split
    next => simp only [List.foldlM_cons, ih]
    next other =>
      have unread := readMember_of_notMem (by simpa using other) record
      rw [ih, List.foldlM_cons, unread]
      rfl

theorem lookup_filter_keys (ms : List (Text × Json)) (name : Text) :
    (ms.filter (·.1 ∈ r.keys)).lookup name = if name ∈ r.keys then ms.lookup name else none := by
  induction ms with
  | nil => simp
  | cons m ms ih =>
    obtain ⟨key, value⟩ := m
    rw [List.filter_cons]
    by_cases h : name = key
    · subst h
      by_cases known : name ∈ r.keys <;> simp [known, ih]
    · by_cases known : key ∈ r.keys <;> simp [known, lookup_cons_eq, h, ih]

/-- Objects that have the same for every field are read the same. -/
theorem read_object_congr {fs gs : List (Text × Json)}
    (same : ∀ field ∈ r.fields, (object fs).get? field.1 = (object gs).get? field.1) :
    r.read (object fs) = r.read (object gs) := by
  have known : (members fs).filter (·.1 ∈ r.keys) = (members gs).filter (·.1 ∈ r.keys) := by
    refine Ordered.eq_of_lookup ((ordered_members fs).filter _) ((ordered_members gs).filter _) ?_
    intro name
    rw [lookup_filter_keys, lookup_filter_keys]
    split
    next known =>
      obtain ⟨field, mem, rfl⟩ := List.mem_map.mp known
      exact same field mem
    next => rfl
  simp only [read, ← foldlM_filter_keys (members _), known]

/-- Putting the members into their order does not change what is read. -/
theorem read_members (fs : List (Text × Json)) :
    r.read (object (members fs)) = r.read (object fs) :=
  read_object_congr fun field _ => get?_members fs field.1

/-! ## The order of the fields -/

theorem Lawful.readMember_of_mem (lawful : r.Lawful) {field : Field ρ} (mem : field ∈ r.fields)
    (record : ρ) (j : Json) :
    r.readMember record (field.1.toList, j) = field.2 record j := by
  have found := (find?_name_eq_some_iff lawful.nodup).mpr ⟨mem, rfl⟩
  rw [readMember, found]

theorem readMember_comm_of_notMem {m n : Text × Json} (h : m.1 ∉ r.keys) (record : ρ) :
    r.readMember record m >>= (r.readMember · n) =
      r.readMember record n >>= (r.readMember · m) := by
  simp only [readMember_of_notMem h]
  exact (bind_pure (r.readMember record n)).symm

/-- Members with different keys may be read in either order. -/
theorem Lawful.readMember_comm (lawful : r.Lawful) {m n : Text × Json} (differ : m.1 ≠ n.1)
    (record record' : ρ) :
    r.readMember record m >>= (r.readMember · n) = .ok record' ↔
      r.readMember record n >>= (r.readMember · m) = .ok record' := by
  by_cases hm : m.1 ∈ r.keys
  · by_cases hn : n.1 ∈ r.keys
    · obtain ⟨key, j⟩ := m
      obtain ⟨key', k⟩ := n
      obtain ⟨f, hf, rfl⟩ := List.mem_map.mp hm
      obtain ⟨g, hg, rfl⟩ := List.mem_map.mp hn
      have apart : Apart f g := lawful.apart.forall hf hg fun same => differ (same ▸ rfl)
      simpa only [lawful.readMember_of_mem hf, lawful.readMember_of_mem hg] using
        apart record j k record'
    · rw [readMember_comm_of_notMem hn]
  · rw [readMember_comm_of_notMem hm]

/-- Members with different keys may be read in any order. -/
theorem Lawful.foldlM_perm (lawful : r.Lawful) {ms ns : List (Text × Json)} (perm : ms.Perm ns)
    (nodup : (ms.map Prod.fst).Nodup) (record record' : ρ) :
    ms.foldlM r.readMember record = .ok record' ↔ ns.foldlM r.readMember record = .ok record' := by
  induction perm generalizing record with
  | nil => exact Iff.rfl
  | cons m _ ih =>
    simp only [List.foldlM_cons, bind_eq_ok, ih (List.nodup_cons.mp nodup).2]
  | swap m n l =>
    have differ : m.1 ≠ n.1 := fun h => (List.nodup_cons.mp nodup).1 (h ▸ List.mem_cons_self)
    simp only [List.foldlM_cons, ← bind_assoc]
    rw [bind_eq_ok, bind_eq_ok]
    exact exists_congr fun _ => and_congr_left fun _ => lawful.readMember_comm differ.symm record _
  | trans first _ ih ih' =>
    exact (ih nodup record).trans (ih' ((first.map _).nodup_iff.mp nodup) record)

/-- The items of a list are read like members with the names of the fields as their keys. -/
theorem Lawful.readItems_eq (lawful : r.Lawful) (items : List Json) (record : ρ) :
    readItems r.fields items record = (r.keys.zip items).foldlM r.readMember record := by
  have rest : ∀ fields ⊆ r.fields, ∀ items record, readItems fields items record =
      ((fields.map fun field => field.1.toList).zip items).foldlM r.readMember record := by
    intro fields
    induction fields with
    | nil => exact fun _ _ _ => rfl
    | cons field fields ih =>
      intro sub items record
      obtain ⟨mem, sub⟩ := List.cons_subset.mp sub
      cases items with
      | nil => rfl
      | cons item items =>
        simp only [readItems, List.map_cons, List.zip_cons_cons, List.foldlM_cons,
          lawful.readMember_of_mem mem, ih sub]
  exact rest r.fields (List.Subset.refl _) items record

/-! ## The two forms of a record -/

theorem read_object_iff {fs : List (Text × Json)} :
    r.read (object fs) = .ok a ↔ ∃ record, (members fs).foldlM r.readMember r.start = .ok record ∧
      r.finish .missingField record = .ok a :=
  bind_eq_ok

theorem Lawful.read_object_iff (lawful : r.Lawful) {fs : List (Text × Json)}
    (nodup : (fs.map Prod.fst).Nodup) :
    r.read (object fs) = .ok a ↔ ∃ record, fs.foldlM r.readMember r.start = .ok record ∧
      r.finish .missingField record = .ok a := by
  have perm := lawful.foldlM_perm (members_perm nodup) (ordered_members fs).nodup_keys r.start
  simp only [RecordReader.read_object_iff, perm]

theorem Lawful.nodup_keys_zip (lawful : r.Lawful) (items : List Json) :
    ((r.keys.zip items).map Prod.fst).Nodup :=
  lawful.nodup.sublist (map_fst_zip_sublist r.keys items)

/-- A list is read like the object with its items under the names of the fields. -/
theorem Lawful.read_array_iff (lawful : r.Lawful) {items : List Json} :
    r.read (array items) = .ok a ↔
      items.length ≤ r.fields.length ∧ r.read (object (r.keys.zip items)) = .ok a := by
  rw [lawful.read_object_iff (lawful.nodup_keys_zip items), read]
  simp only [bind_eq_ok, lawful.readItems_eq]
  constructor
  · rintro ⟨record, found, value, finish, short⟩
    split at short
    next => cases short
    next short =>
      cases short
      exact ⟨by omega, record, found, lawful.finish _ _ _ _ finish⟩
  · rintro ⟨short, record, found, finish⟩
    refine ⟨record, found, a, lawful.finish _ _ _ _ finish, ?_⟩
    rw [if_neg (by omega)]
    rfl

/-- Every field that is read leaves the property true. -/
def Keeps (r : RecordReader ρ α) (P : ρ → Prop) : Prop :=
  ∀ field ∈ r.fields, ∀ record j record', P record → field.2 record j = .ok record' → P record'

variable {P : ρ → Prop}

theorem keep_of_put {p : Json → Decoded β} {put : ρ → β → ρ}
    (h : ∀ record j b, P record → p j = .ok b → P (put record b)) (record : ρ) (j : Json)
    (record' : ρ) (holds : P record)
    (read : (do return put record (← p j) : Decoded ρ) = .ok record') : P record' := by
  obtain ⟨b, found, same⟩ := bind_eq_ok.mp read
  exact Except.ok.inj same ▸ h record j b holds found

theorem Keeps.readMember (keeps : r.Keeps P) {m : Text × Json} (holds : P record)
    (h : r.readMember record m = .ok record') : P record' := by
  unfold RecordReader.readMember at h
  split at h
  next field found => exact keeps field (List.mem_of_find?_eq_some found) record m.2 _ holds h
  next => exact Except.ok.inj h ▸ holds

theorem Keeps.foldlM (keeps : r.Keeps P) {ms : List (Text × Json)} (holds : P record)
    (h : ms.foldlM r.readMember record = .ok record') : P record' := by
  induction ms generalizing record with
  | nil => exact Except.ok.inj h ▸ holds
  | cons m ms ih =>
    rw [List.foldlM_cons, bind_eq_ok] at h
    obtain ⟨next, first, rest⟩ := h
    exact ih (keeps.readMember holds first) rest

/-- What holds of a fresh record and is kept by every field holds of a record that is completed. -/
theorem Lawful.exists_of_read (lawful : r.Lawful) (start : P r.start) (keeps : r.Keeps P)
    (h : r.read j = .ok a) : ∃ record, P record ∧ r.finish .missingField record = .ok a := by
  have object : ∀ fs, r.read (object fs) = .ok a →
      ∃ record, P record ∧ r.finish .missingField record = .ok a := by
    intro fs h
    obtain ⟨record, found, finish⟩ := RecordReader.read_object_iff.mp h
    exact ⟨record, keeps.foldlM start found, finish⟩
  cases j with
  | object fs => exact object fs h
  | array items => exact object _ (lawful.read_array_iff.mp h).2
  | _ => cases h

end RecordReader

/-! ## Values that are read by their fields -/

namespace RecordReader

variable {r : RecordReader ρ α}

end RecordReader

end Morphing.Json
