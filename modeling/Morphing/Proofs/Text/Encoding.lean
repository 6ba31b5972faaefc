import Mathlib.Data.List.Basic
import Morphing.Text.Bytes

/-!
# Texts and their bytes

Bytes are those of a text, or of none. A text without the NUL character is encoded without a zero
byte, since all bytes of a longer encoding have their highest bit set, and different texts have
different bytes. So reading bytes undoes writing them, and what cannot be read is binary: it has a
zero byte, or it encodes nothing.
-/

namespace Morphing.Text

/-- Bytes that are not taken for text: there is a zero byte among them, or they are the encoding of
no text. -/
def Binary (bytes : ByteArray) : Prop := 0 ∈ bytes.data ∨ ∀ t : Text, toBytes t ≠ bytes

theorem toBytes_eq_utf8Encode (t : Text) : toBytes t = t.utf8Encode := by
  rw [toBytes, String.toUTF8_eq_toByteArray, String.toByteArray_ofList]

/-- Different texts have different bytes. -/
theorem toBytes_injective {s t : Text} (h : toBytes s = toBytes t) : s = t := by
  simp only [toBytes, String.toUTF8_eq_toByteArray] at h
  exact String.ofList_inj.mp (String.toByteArray_inj.mp h)

/-- A text has no more characters than bytes. -/
theorem length_le_size_toBytes (t : Text) : t.length ≤ (toBytes t).size := by
  rw [toBytes_eq_utf8Encode, List.utf8Encode, List.size_toByteArray]
  induction t with
  | nil => exact Nat.le_refl 0
  | cons c t ih =>
    have one := c.utf8Size_pos
    rw [List.flatMap_cons, List.length_append, String.length_utf8EncodeChar, List.length_cons]
    omega

theorem mem_toBytes {b : UInt8} {t : Text} :
    b ∈ (toBytes t).data ↔ ∃ c ∈ t, b ∈ String.utf8EncodeChar c := by
  rw [toBytes_eq_utf8Encode, List.utf8Encode, Array.mem_def, List.toList_data_toByteArray,
    List.mem_flatMap]

/-- A character has a zero byte only if it is NUL: the other ones of a single byte are that byte,
and the bytes of longer encodings are at least 128. -/
theorem zero_mem_utf8EncodeChar {c : Char} : 0 ∈ String.utf8EncodeChar c ↔ c = '\x00' := by
  have zero : ∀ n : Nat, (0 : UInt8) = UInt8.ofNat n ↔ n % 256 = 0 := by
    intro n
    rw [← UInt8.toNat_inj, UInt8.toNat_ofNat']
    exact eq_comm
  have nul : c = '\x00' ↔ c.val.toNat = 0 := by
    rw [Char.ext_iff, ← UInt32.toNat_inj]
    rfl
  rw [nul, String.utf8EncodeChar]
  -- one case for each number of bytes, from one to four
  split_ifs <;> simp only [List.mem_cons, List.not_mem_nil, or_false, zero] <;> omega

theorem zero_mem_toBytes {t : Text} : 0 ∈ (toBytes t).data ↔ '\x00' ∈ t := by
  simp only [mem_toBytes, zero_mem_utf8EncodeChar]
  exact exists_eq_right

/-- Bytes are read as the text that they encode, unless it has a NUL character. -/
theorem ofBytes?_eq_some_iff {bytes : ByteArray} {t : Text} :
    ofBytes? bytes = some t ↔ '\x00' ∉ t ∧ toBytes t = bytes := by
  rw [← zero_mem_toBytes, ofBytes?, String.fromUTF8?]
  constructor
  · intro h
    split at h
    next => cases h
    next none =>
      split at h
      next valid =>
        obtain rfl := Option.some.inj h
        have same : toBytes (String.fromUTF8 bytes valid).toList = bytes := by
          rw [toBytes, String.ofList_toList]
          rfl
        rw [same]
        exact ⟨by simpa using none, rfl⟩
      next => cases h
  · rintro ⟨none, rfl⟩
    have valid : (toBytes t).IsValidUTF8 := (String.ofList t).isValidUTF8
    have read : String.fromUTF8 (toBytes t) valid = String.ofList t := rfl
    rw [if_neg (by simpa using none), dif_pos valid, read, Option.map_some, String.toList_ofList]

theorem not_binary_iff {bytes : ByteArray} :
    ¬Binary bytes ↔ ∃ t : Text, '\x00' ∉ t ∧ toBytes t = bytes := by
  simp only [Binary, not_or, not_forall, not_not]
  constructor
  · rintro ⟨none, t, rfl⟩
    exact ⟨t, fun nul => none (zero_mem_toBytes.mpr nul), rfl⟩
  · rintro ⟨t, none, rfl⟩
    exact ⟨fun zero => none (zero_mem_toBytes.mp zero), t, rfl⟩

/-- Exactly binary bytes cannot be read. -/
theorem ofBytes?_eq_none_iff {bytes : ByteArray} : ofBytes? bytes = none ↔ Binary bytes := by
  rw [← not_iff_not, not_binary_iff, ← ne_eq, Option.ne_none_iff_exists']
  simp only [ofBytes?_eq_some_iff]

instance : DecidablePred Binary := fun bytes =>
  decidable_of_iff (ofBytes? bytes = none) ofBytes?_eq_none_iff

end Morphing.Text
