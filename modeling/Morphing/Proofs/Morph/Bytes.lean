import Morphing.Frame
import Morphing.Proofs.Text.Encoding

/-!
# Morphs between texts in bytes

Bytes can be given to a morph in two ways: to make one that is shown at any budget, or to be edited
at once with a budget that is handed on. Both look at the bytes first and refuse the same ones, the
old side before the new one, and a refusal spends nothing. Otherwise there is just one text on each
side that the bytes can stand for, and both ways lead to the morph between these two.
-/

namespace Morphing

namespace Morph

/-- The side whose bytes are refused: the new one only if the old one is text. -/
def Refused (old new : ByteArray) : Side → Prop
  | .old => Text.Binary old
  | .new => ¬Text.Binary old ∧ Text.Binary new

section Reading

variable {old new : ByteArray} {s t : Text} {side : Side} (options : Options) (b : Budget)

/-- Bytes are refused on one of the sides, or they are the texts of a morph. -/
theorem refused_or_texts (old new : ByteArray) :
    (∃ side, Refused old new side) ∨
      ∃ s t, Text.ofBytes? old = some s ∧ Text.ofBytes? new = some t := by
  cases hs : Text.ofBytes? old with
  | none => exact .inl ⟨.old, Text.ofBytes?_eq_none_iff.mp hs⟩
  | some s =>
    cases ht : Text.ofBytes? new with
    | some t => exact .inr ⟨s, t, rfl, rfl⟩
    | none =>
      have text : ¬Text.Binary old := by
        rw [← Text.ofBytes?_eq_none_iff, hs]
        exact Option.some_ne_none s
      exact .inl ⟨.new, text, Text.ofBytes?_eq_none_iff.mp ht⟩

theorem ofBytes_of_refused (h : Refused old new side) :
    ofBytes old new options = .error (.binaryInput side) := by
  cases side with
  | old => rw [ofBytes, Text.ofBytes?_eq_none_iff.mpr h]
  | new =>
    obtain ⟨s, hs⟩ := Text.not_binary_iff.mp h.1
    rw [ofBytes, Text.ofBytes?_eq_some_iff.mpr hs, Text.ofBytes?_eq_none_iff.mpr h.2]

theorem ofBytes_of_texts (hs : Text.ofBytes? old = some s) (ht : Text.ofBytes? new = some t) :
    ofBytes old new options = .ok ⟨s, t, options⟩ := by
  rw [ofBytes, hs, ht]

theorem ofBytes_eq_error_iff :
    ofBytes old new options = .error (.binaryInput side) ↔ Refused old new side := by
  refine ⟨?_, ofBytes_of_refused options⟩
  intro failed
  obtain ⟨other, refused⟩ | ⟨s, t, hs, ht⟩ := refused_or_texts old new
  · rw [ofBytes_of_refused options refused] at failed
    cases failed
    exact refused
  · rw [ofBytes_of_texts options hs ht] at failed
    cases failed

/-- A refusal leaves the budget as it was. -/
theorem editBytes_of_refused (h : Refused old new side) :
    (editBytes old new options).run.run b = (.error (.binaryInput side), b) := by
  cases side with
  | old =>
    rw [editBytes, Text.ofBytes?_eq_none_iff.mpr h]
    rfl
  | new =>
    obtain ⟨s, hs⟩ := Text.not_binary_iff.mp h.1
    rw [editBytes, Text.ofBytes?_eq_some_iff.mpr hs, Text.ofBytes?_eq_none_iff.mpr h.2]
    rfl

theorem editBytes_of_texts (hs : Text.ofBytes? old = some s) (ht : Text.ofBytes? new = some t) :
    (editBytes old new options).run.run b =
      (.ok (run ⟨s, t, options⟩ b), (run ⟨s, t, options⟩ b).budget) := by
  rw [editBytes, hs, ht]
  rfl

theorem editBytes_eq_error_iff :
    ((editBytes old new options).run.run b).1 = .error (.binaryInput side) ↔
      Refused old new side := by
  constructor
  · intro failed
    obtain ⟨other, refused⟩ | ⟨s, t, hs, ht⟩ := refused_or_texts old new
    · rw [editBytes_of_refused options b refused] at failed
      cases failed
      exact refused
    · rw [editBytes_of_texts options b hs ht] at failed
      cases failed
  · intro refused
    rw [editBytes_of_refused options b refused]

end Reading

/-- Making a morph of bytes and editing them at once fail on the same side: the old one exactly if
it is binary, the new one exactly if it is binary and the old one is not. A failure leaves the
budget as it was. Bytes that are not binary encode one text on each side, without NUL characters,
and either way leads to the morph between these texts: with a fresh budget, the frame has the text
and leaves the amount that the edits do. -/
theorem bytes_lead_to_texts (old new : ByteArray) (options : Options) :
    (∀ side, ofBytes old new options = .error (.binaryInput side) ↔ Refused old new side) ∧
    (∀ side b, ((editBytes old new options).run.run b).1 = .error (.binaryInput side) ↔
      Refused old new side) ∧
    (∀ e b, ((editBytes old new options).run.run b).1 = .error e →
      ((editBytes old new options).run.run b).2 = b) ∧
    (¬Text.Binary old → ¬Text.Binary new → ∃ s t : Text,
      ('\x00' ∉ s ∧ Text.toBytes s = old ∧ ∀ s', Text.toBytes s' = old → s' = s) ∧
      ('\x00' ∉ t ∧ Text.toBytes t = new ∧ ∀ t', Text.toBytes t' = new → t' = t) ∧
      ofBytes old new options = .ok ⟨s, t, options⟩ ∧
      (∀ b, (editBytes old new options).run.run b =
        (.ok (run ⟨s, t, options⟩ b), (run ⟨s, t, options⟩ b).budget)) ∧
      ∀ amount,
        (frameAt ⟨s, t, options⟩ amount).text = (run ⟨s, t, options⟩ (.ofNat amount)).text ∧
        (frameAt ⟨s, t, options⟩ amount).remaining =
          (run ⟨s, t, options⟩ (.ofNat amount)).budget.remaining) := by
  refine ⟨fun side => ofBytes_eq_error_iff options,
    fun side b => editBytes_eq_error_iff options b, ?_, ?_⟩
  · rintro ⟨side⟩ b failed
    rw [editBytes_of_refused options b ((editBytes_eq_error_iff options b).mp failed)]
  · intro oldText newText
    obtain ⟨s, noNul, hs⟩ := Text.not_binary_iff.mp oldText
    obtain ⟨t, noNul', ht⟩ := Text.not_binary_iff.mp newText
    have readOld := Text.ofBytes?_eq_some_iff.mpr ⟨noNul, hs⟩
    have readNew := Text.ofBytes?_eq_some_iff.mpr ⟨noNul', ht⟩
    refine ⟨s, t, ⟨noNul, hs, ?_⟩, ⟨noNul', ht, ?_⟩, ofBytes_of_texts options readOld readNew,
      fun b => editBytes_of_texts options b readOld readNew, ?_⟩
    · intro s' hs'
      exact Text.toBytes_injective (hs'.trans hs.symm)
    · intro t' ht'
      exact Text.toBytes_injective (ht'.trans ht.symm)
    · intro amount
      exact ⟨rfl, rfl⟩

/-- An overlong zero is no text, and refused on the old side even if the new side has a zero byte.
The letters `a` and `é` take one byte and two, and one unit strikes the first of them out. -/
theorem bytes_lead_to_texts_overlong :
    let overlong : ByteArray := ⟨#[0xC0, 0x80]⟩
    let zero : ByteArray := ⟨#[0x61, 0x00]⟩
    let a : ByteArray := ⟨#[0x61]⟩
    let accented : ByteArray := ⟨#[0xC3, 0xA9]⟩
    ofBytes overlong zero {} = .error (.binaryInput .old) ∧
      ((editBytes a zero {}).run.run (.ofNat 3)).1 = .error (.binaryInput .new) ∧
      ((editBytes a zero {}).run.run (.ofNat 3)).2 = .ofNat 3 ∧
      ¬Text.Binary a ∧ ¬Text.Binary accented ∧
      ((editBytes a accented {}).run.run (.ofNat 1)).1 =
        .ok (run ⟨['a'], ['é'], {}⟩ (.ofNat 1)) := by
  intro overlong zero a accented
  have refusedOld : Refused overlong zero .old := by
    show Text.Binary overlong
    decide +kernel
  have oldText : ¬Text.Binary a := by decide +kernel
  have newText : ¬Text.Binary accented := by decide +kernel
  have refusedNew : Refused a zero .new := ⟨oldText, by decide +kernel⟩
  have failed := ((bytes_lead_to_texts a zero {}).2.1 .new (.ofNat 3)).mpr refusedNew
  have kept := (bytes_lead_to_texts a zero {}).2.2.1 _ (.ofNat 3) failed
  obtain ⟨s, t, ⟨_, _, hs⟩, ⟨_, _, ht⟩, _, edited, _⟩ :=
    (bytes_lead_to_texts a accented {}).2.2.2 oldText newText
  have olds : ['a'] = s := hs _ (by decide +kernel)
  have news : ['é'] = t := ht _ (by decide +kernel)
  refine ⟨((bytes_lead_to_texts overlong zero {}).1 .old).mpr refusedOld, failed, kept, oldText,
    newText, ?_⟩
  rw [edited, olds, news]

end Morph

end Morphing
