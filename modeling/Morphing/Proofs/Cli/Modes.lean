import Morphing.Proofs.Cli.Arguments
import Morphing.Proofs.Cli.Counting
import Morphing.Proofs.Morph.Bytes
import Morphing.Proofs.Morph.Frames
import Morphing.Proofs.Morph.Typing

/-!
# Single texts and frames

A run writes the text at one budget, or all frames. Both come from the same morph: what the frames
show, one after the other, is what runs for the budgets of the frames would write each, as long as
the frames can be counted. If there is no morph, because a file cannot be read or has nothing that
can be used, a run fails and has written nothing.
-/

namespace Morphing.Cli

variable {files : Files} {a a' : Arguments} {args : List Text} {m : Morph}

/-! ## What a run needs -/

/-- The morph that a run is about, from its options and its two texts. -/
def Loads (files : Files) (a : Arguments) (m : Morph) : Prop :=
  ∃ options, (loadOptions files a.optionsFile).2 = .ok options ∧
    readMorph files a.old a.new options = .ok m

theorem readMorph_eq_ok {old new : Text} {options : Options}
    (h : readMorph files old new options = .ok m) : ∃ oldBytes newBytes,
      files old = some oldBytes ∧ files new = some newBytes ∧
      Text.ofBytes? oldBytes = some m.old ∧ Text.ofBytes? newBytes = some m.new := by
  unfold readMorph at h
  split at h
  · cases h
  next oldBytes readOld =>
    split at h
    · cases h
    next newBytes readNew =>
      refine ⟨oldBytes, newBytes, readOld, readNew, ?_⟩
      obtain ⟨side, refused⟩ | ⟨s, t, hs, ht⟩ := Morph.refused_or_texts oldBytes newBytes
      · rw [Morph.ofBytes_of_refused options refused] at h
        cases h
      · rw [Morph.ofBytes_of_texts options hs ht] at h
        cases h
        exact ⟨hs, ht⟩

/-- A run that succeeds: it has written a text and, as far as the log shows it, reports a record
last. -/
structure Shows (args : List Text) (environment : Option Text) (time : String) (files : Files)
    (a : Arguments) (text : Text) (record : LogRecord) : Prop where
  exit : (run args environment time files).exit = 0
  stdout : (run args environment time files).stdout = text
  stderr : (LogFilter.ofRun environment a.verbosity).admits record = true →
    (run args environment time files).stderr.getLast? =
      some (record.render (a.color == .always) time)

/-- The texts of a morph are not longer than the files that hold them. -/
theorem Loads.length_le {oldBytes newBytes : ByteArray} (h : Loads files a m)
    (readOld : files a.old = some oldBytes) (readNew : files a.new = some newBytes) :
    m.old.length + m.new.length ≤ oldBytes.size + newBytes.size := by
  obtain ⟨options, _, isRead⟩ := h
  obtain ⟨_, _, readOld', readNew', hs, ht⟩ := readMorph_eq_ok isRead
  cases readOld.symm.trans readOld'
  cases readNew.symm.trans readNew'
  have oldLength := Text.length_le_size_toBytes m.old
  have newLength := Text.length_le_size_toBytes m.new
  rw [(Text.ofBytes?_eq_some_iff.mp hs).2] at oldLength
  rw [(Text.ofBytes?_eq_some_iff.mp ht).2] at newLength
  exact Nat.add_le_add oldLength newLength

end Morphing.Cli
