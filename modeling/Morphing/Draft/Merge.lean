import Morphing.Draft.Basic
import Morphing.Token.Pairing

/-!
# Merging two versions into a draft

A draft holds both versions of a modified line at once: what they share once, what only the old one
has as removal candidates and what only the new one has as insertion candidates. Erasing all
candidates of one kind would leave the other version.
-/

namespace Morphing.Draft

/-- Write one change of a character diff. -/
def write (d : Draft) : Change Text → Draft
  | .kept t => d.append t
  | .removed t => t.foldl (pushCandidate .removal) d
  | .added t => t.foldl (pushCandidate .insertion) d

/-- Write both versions of a word, reconciled character by character. -/
def reconcile (d : Draft) (old new : Text) : Draft :=
  (Granularity.character.diff old new).foldl write d

/-- Write what is to be written for one word. -/
def writePair (d : Draft) : TokenPair → Draft
  | .kept token => d.append token
  | .rewritten old new => d.reconcile old new
  | .separator _ => d.append [' ']
  | .omitted _ => d
  | .dropped _ => d

/-- Write both versions of a line. -/
def merge (d : Draft) (mode : UnpairedTokens) (old new : Text) : Draft :=
  (tokenPairs mode old new).foldl writePair d

end Morphing.Draft
