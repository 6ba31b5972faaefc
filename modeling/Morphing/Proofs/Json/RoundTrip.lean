import Morphing.Json.Codec
import Morphing.Proofs.Json.Records
import Morphing.Proofs.Json.Written

/-!
# The JSON forms are faithful

A value that is written as JSON and read again is the same value, in every field. What is read of a
record depends on what its form says for the names of the fields and on nothing else. So a form that
is accepted can be rewritten, and rewriting it once more changes nothing.
-/

namespace Morphing

namespace Json

variable {α : Type} {write : α → Json} {read : Json → Decoded α} {valid : α → Prop}

/-- Read a value and write it again. -/
def rewrite (write : α → Json) (read : Json → Decoded α) (j : Json) : Decoded Json :=
  return write (← read j)

/-- Valid values, and only they, can be read, and each is read as it was written, be it from its
form or from a text that holds it. -/
structure RoundTrip (valid : α → Prop) (write : α → Json) (read : Json → Decoded α) : Prop where
  read_write : ∀ a, valid a → read (write a) = .ok a
  parse_render : ∀ a, valid a → (parse? (write a).render).map read = some (.ok a)
  valid_of_read : ∀ j a, read j = .ok a → valid a
  rewrite_rewrite : ∀ j k, rewrite write read j = .ok k → rewrite write read k = .ok k

/-- It is enough to look at the values: their forms, and what the parser makes of them. -/
theorem RoundTrip.of_forms (read_write : ∀ a, valid a → read (write a) = .ok a)
    (parsed : ∀ a, valid a → ∃ j, ReadsAs (write a) j ∧ read j = read (write a))
    (valid_of_read : ∀ j a, read j = .ok a → valid a) : RoundTrip valid write read where
  read_write := read_write
  parse_render a h := by
    obtain ⟨j, reads, same⟩ := parsed a h
    rw [reads.parse?, Option.map_some, same, read_write a h]
  valid_of_read := valid_of_read
  rewrite_rewrite j k h := by
    obtain ⟨a, accepted, written⟩ := bind_eq_ok.mp h
    cases written
    rw [rewrite, read_write a (valid_of_read j a accepted)]
    rfl

end Json

open Json

namespace LinePairing

theorem readsAs_toJson (p : LinePairing) : ReadsAs p.toJson p.toJson := by
  cases p <;> exact readsAs_string _

theorem roundTrip : RoundTrip (fun _ => True) toJson ofJson :=
  .of_forms (fun p _ => by cases p <;> rfl) (fun p _ => ⟨_, readsAs_toJson p, rfl⟩)
    fun _ _ _ => trivial

end LinePairing

namespace UnpairedTokens

theorem readsAs_toJson (u : UnpairedTokens) : ReadsAs u.toJson u.toJson := by
  cases u <;> exact readsAs_string _

theorem roundTrip : RoundTrip (fun _ => True) toJson ofJson :=
  .of_forms (fun u _ => by cases u <;> rfl) (fun u _ => ⟨_, readsAs_toJson u, rfl⟩)
    fun _ _ _ => trivial

end UnpairedTokens

namespace Side

theorem readsAs_toJson (s : Side) : ReadsAs s.toJson s.toJson := by
  cases s <;> exact readsAs_string _

theorem roundTrip : RoundTrip (fun _ => True) toJson ofJson :=
  .of_forms (fun s _ => by cases s <;> rfl) (fun s _ => ⟨_, readsAs_toJson s, rfl⟩)
    fun _ _ _ => trivial

end Side

namespace Options

theorem lawful : reader.Lawful where
  nodup := by decide
  apart := List.pairwise_pair.mpr (RecordReader.apart_of_put fun _ _ _ => rfl)
  finish _ _ _ _ h := h

theorem ofJson_toJson (o : Options) : ofJson o.toJson = .ok o := by
  -- a list has no keys to be put in order, so it is read field by field
  have listed : reader.read (.array [o.linePairing.toJson, o.unpairedTokens.toJson]) = .ok o := by
    have pairing := LinePairing.roundTrip.read_write o.linePairing trivial
    have unpaired := UnpairedTokens.roundTrip.read_write o.unpairedTokens trivial
    simp only [RecordReader.read, RecordReader.readItems, reader, pairing, unpaired]
    rfl
  exact (lawful.read_array_iff.mp listed).2

theorem roundTrip : RoundTrip (fun _ => True) toJson ofJson :=
  .of_forms (fun o _ => ofJson_toJson o)
    (fun o _ => ⟨_, readsAs_object (.cons ⟨rfl, o.linePairing.readsAs_toJson⟩
      (.cons ⟨rfl, o.unpairedTokens.readsAs_toJson⟩ .nil)), RecordReader.read_members _⟩)
    fun _ _ _ => trivial

end Options

namespace Budget

/-- The amounts of a budget fit machine words. -/
def FitsWords (b : Budget) : Prop := b.remaining ≤ maxWord ∧ b.spent ≤ maxWord

theorem lawful : reader.Lawful where
  nodup := by decide
  apart := List.pairwise_pair.mpr (RecordReader.apart_of_put fun _ _ _ => rfl)
  finish missing missing' b a h := by
    simp only [reader, bind_eq_ok, required_eq_ok] at h ⊢
    exact h

theorem ofJson_toJson {b : Budget} (h : b.FitsWords) : ofJson b.toJson = .ok b := by
  have listed : reader.read (.array [.integer b.remaining, .integer b.spent]) = .ok b := by
    simp only [RecordReader.read, RecordReader.readItems, reader, toWord_integer h.1,
      toWord_integer h.2]
    rfl
  exact (lawful.read_array_iff.mp listed).2

/-- The amounts that have been read fit machine words. -/
def Unfinished.FitsWords (b : Unfinished) : Prop := FitsWord b.remaining ∧ FitsWord b.spent

theorem keeps_fitsWords : reader.Keeps Unfinished.FitsWords := by
  simp only [RecordReader.Keeps, reader, List.forall_mem_cons, List.not_mem_nil, false_imp_iff,
    forall_true_iff, and_true]
  exact ⟨RecordReader.keep_of_put fun _ _ _ fits read => ⟨fitsWord_of_toWord read, fits.2⟩,
    RecordReader.keep_of_put fun _ _ _ fits read => ⟨fits.1, fitsWord_of_toWord read⟩⟩

theorem fitsWords_of_ofJson {j : Json} {b : Budget} (h : ofJson j = .ok b) : b.FitsWords := by
  have start : Unfinished.FitsWords {} := ⟨fitsWord_none, fitsWord_none⟩
  obtain ⟨record, fits, finish⟩ := lawful.exists_of_read start keeps_fitsWords h
  simp only [reader, bind_eq_ok, required_eq_ok] at finish
  obtain ⟨remaining, left, spent, made, same⟩ := finish
  exact Except.ok.inj same ▸ ⟨fits.1 _ left, fits.2 _ made⟩

theorem roundTrip : RoundTrip FitsWords toJson ofJson :=
  .of_forms (fun _ => ofJson_toJson)
    (fun _ h => ⟨_, readsAs_object (.cons ⟨rfl, readsAs_integer h.1⟩
      (.cons ⟨rfl, readsAs_integer h.2⟩ .nil)), RecordReader.read_members _⟩)
    fun _ _ => fitsWords_of_ofJson

end Budget

namespace Frame

/-- The amounts of a frame fit machine words. -/
def FitsWords (f : Frame) : Prop := f.budget ≤ maxWord ∧ f.remaining ≤ maxWord

theorem lawful : reader.Lawful where
  nodup := by decide
  apart := by
    simp only [reader, List.pairwise_cons, List.forall_mem_cons, List.not_mem_nil, false_imp_iff,
      forall_true_iff, List.Pairwise.nil, and_true]
    refine ⟨⟨?_, ?_, ?_⟩, ⟨?_, ?_⟩, ?_⟩ <;> exact RecordReader.apart_of_put fun _ _ _ => rfl
  finish missing missing' f a h := by
    simp only [reader, bind_eq_ok, required_eq_ok] at h ⊢
    exact h

theorem ofJson_toJson {f : Frame} (h : f.FitsWords) : ofJson f.toJson = .ok f := by
  have listed : reader.read
      (.array [.string f.text, .integer f.budget, .integer f.remaining, .bool f.complete]) =
        .ok f := by
    simp only [RecordReader.read, RecordReader.readItems, reader, toWord_integer h.1,
      toWord_integer h.2]
    rfl
  exact (lawful.read_array_iff.mp listed).2

/-- The amounts that have been read fit machine words. -/
def Unfinished.FitsWords (f : Unfinished) : Prop := FitsWord f.budget ∧ FitsWord f.remaining

theorem keeps_fitsWords : reader.Keeps Unfinished.FitsWords := by
  simp only [RecordReader.Keeps, reader, List.forall_mem_cons, List.not_mem_nil, false_imp_iff,
    forall_true_iff, and_true]
  exact ⟨RecordReader.keep_of_put fun _ _ _ fits _ => fits,
    RecordReader.keep_of_put fun _ _ _ fits read => ⟨fitsWord_of_toWord read, fits.2⟩,
    RecordReader.keep_of_put fun _ _ _ fits read => ⟨fits.1, fitsWord_of_toWord read⟩,
    RecordReader.keep_of_put fun _ _ _ fits _ => fits⟩

theorem fitsWords_of_ofJson {j : Json} {f : Frame} (h : ofJson j = .ok f) : f.FitsWords := by
  have start : Unfinished.FitsWords {} := ⟨fitsWord_none, fitsWord_none⟩
  obtain ⟨record, fits, finish⟩ := lawful.exists_of_read start keeps_fitsWords h
  simp only [reader, bind_eq_ok, required_eq_ok] at finish
  obtain ⟨text, -, budget, full, remaining, left, complete, -, same⟩ := finish
  exact Except.ok.inj same ▸ ⟨fits.1 _ full, fits.2 _ left⟩

theorem roundTrip : RoundTrip FitsWords toJson ofJson :=
  .of_forms (fun _ => ofJson_toJson)
    (fun f h => ⟨_, readsAs_object (.cons ⟨rfl, readsAs_string f.text⟩
      (.cons ⟨rfl, readsAs_integer h.1⟩ (.cons ⟨rfl, readsAs_integer h.2⟩
        (.cons ⟨rfl, readsAs_bool f.complete⟩ .nil)))), RecordReader.read_members _⟩)
    fun _ _ => fitsWords_of_ofJson

end Frame

namespace Token

theorem lawful : reader.Lawful where
  nodup := by decide
  apart := List.pairwise_pair.mpr (RecordReader.apart_of_put fun _ _ _ => rfl)
  finish missing missing' t a h := by
    simp only [reader, bind_eq_ok, required_eq_ok] at h ⊢
    exact h

theorem ofJson_toJson (t : Token Text) : ofJson t.toJson = .ok t := by
  have listed : reader.read (.array [.string t.key, .string t.original]) = .ok t := rfl
  exact (lawful.read_array_iff.mp listed).2

theorem exists_readsAs_toJson (t : Token Text) :
    ∃ j, ReadsAs t.toJson j ∧ ofJson j = ofJson t.toJson :=
  ⟨_, readsAs_object (.cons ⟨rfl, readsAs_string t.key⟩
    (.cons ⟨rfl, readsAs_string t.original⟩ .nil)), RecordReader.read_members _⟩

theorem roundTrip : RoundTrip (fun _ => True) toJson ofJson :=
  .of_forms (fun t _ => ofJson_toJson t) (fun t _ => exists_readsAs_toJson t) fun _ _ _ => trivial

end Token

namespace Change

/-- The name of the kind of a change. -/
def kindName : Change α → String
  | kept _ => "Kept"
  | removed _ => "Removed"
  | added _ => "Added"

theorem read_readers_iff {name : String} {content : Json} {c : Change (Token Text)} :
    (∃ read, (name, read) ∈ readers ∧ read content = .ok c) ↔
      name = c.kindName ∧ Token.ofJson content = .ok c.item := by
  constructor
  · rintro ⟨read, mem, h⟩
    simp only [readers, List.mem_cons, Prod.mk.injEq, List.not_mem_nil, or_false] at mem
    obtain ⟨rfl, rfl⟩ | ⟨rfl, rfl⟩ | ⟨rfl, rfl⟩ := mem
    all_goals
      obtain ⟨t, token, same⟩ := bind_eq_ok.mp h
      cases same
      exact ⟨rfl, token⟩
  · rintro ⟨rfl, token⟩
    cases c with
    | kept t => exact ⟨_, List.mem_cons_self, bind_eq_ok.mpr ⟨t, token, rfl⟩⟩
    | removed t =>
      exact ⟨_, List.mem_cons_of_mem _ List.mem_cons_self, bind_eq_ok.mpr ⟨t, token, rfl⟩⟩
    | added t =>
      exact ⟨_, List.mem_cons_of_mem _ (List.mem_cons_of_mem _ List.mem_cons_self),
        bind_eq_ok.mpr ⟨t, token, rfl⟩⟩

/-- A change has its kind as its only key, and there its token in any form that a token has. -/
theorem ofJson_eq_ok {j : Json} {c : Change (Token Text)} :
    ofJson j = .ok c ↔ ∃ fs content, j = .object fs ∧
      members fs = [(c.kindName.toList, content)] ∧ Token.ofJson content = .ok c.item := by
  have nodup : (readers.map fun v => v.1.toList).Nodup := by decide
  unfold ofJson
  simp only [toVariant_eq_ok, variant_eq_ok_some, findVariant_eq_ok nodup]
  constructor
  · rintro ⟨read, content, ⟨fs, _, rfl, one, name, mem, rfl⟩, h⟩
    obtain ⟨rfl, token⟩ := read_readers_iff.mp ⟨read, mem, h⟩
    exact ⟨fs, content, rfl, one, token⟩
  · rintro ⟨fs, content, rfl, one, token⟩
    obtain ⟨read, mem, h⟩ := read_readers_iff.mpr ⟨rfl, token⟩
    exact ⟨read, content, ⟨fs, _, rfl, one, _, mem, rfl⟩, h⟩

theorem toJson_eq (c : Change (Token Text)) :
    c.toJson = .ofFields [(c.kindName, c.item.toJson)] := by
  cases c <;> rfl

theorem ofJson_toJson (c : Change (Token Text)) : ofJson c.toJson = .ok c :=
  ofJson_eq_ok.mpr ⟨_, _, c.toJson_eq, rfl, Token.ofJson_toJson c.item⟩

theorem exists_readsAs_toJson (c : Change (Token Text)) :
    ∃ j, ReadsAs c.toJson j ∧ ofJson j = ofJson c.toJson := by
  obtain ⟨content, reads, same⟩ := c.item.exists_readsAs_toJson
  have token : Token.ofJson content = .ok c.item := same.trans (Token.ofJson_toJson c.item)
  have written : ReadsAs (.object [(c.kindName.toList, c.item.toJson)])
      (.object (members [(c.kindName.toList, content)])) :=
    readsAs_object (.cons ⟨rfl, reads⟩ .nil)
  rw [ofJson_toJson, toJson_eq]
  exact ⟨_, written, ofJson_eq_ok.mpr ⟨_, content, rfl, rfl, token⟩⟩

theorem roundTrip : RoundTrip (fun _ => True) toJson ofJson :=
  .of_forms (fun c _ => ofJson_toJson c) (fun c _ => exists_readsAs_toJson c) fun _ _ _ => trivial

end Change

/-! ## All types -/

end Morphing
