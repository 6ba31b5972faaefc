import Morphing.Diff.Change
import Morphing.Event
import Morphing.Options

/-!
# Pairs of words

Inside a pair of lines, words are paired as well: an added word takes the first removed word that is
still waiting. `pairTokens` lists what is to be written for each word. What becomes of words without
a partner depends on the options: in separator mode an added word leaves a space (unless it is blank
or the line begins with it) and removed words vanish; in reconcile mode both are rewritten from or
into nothing, removed words at the latest before the next kept one.
-/

namespace Morphing

/-- What is written for a word. -/
inductive TokenPair where
  /-- A word that both lines have. -/
  | kept (token : Text)
  /-- A word that is rewritten character by character. -/
  | rewritten (old new : Text)
  /-- A space in the place of an added word. -/
  | separator (token : Text)
  /-- Nothing, in the place of an added word. -/
  | omitted (token : Text)
  /-- Nothing, for this many removed words. -/
  | dropped (count : Nat)
deriving DecidableEq, Repr

namespace TokenPair

/-- The event that tells of a word left out. -/
def event? : TokenPair → Option Event
  | separator token => some (.replacedToken token)
  | dropped count => some (.droppedTokens count)
  | _ => none

end TokenPair

/-- What is written for removed words whose wait has ended. -/
def flushRemoved (waiting : List Text) : List TokenPair := waiting.map (.rewritten · [])

/-- Pair words while the removed words `waiting`, in their order, have no partner yet. `first` holds
for the first change of a line. -/
def pairTokensWith (mode : UnpairedTokens) : (first : Bool) → (waiting : List Text) →
    List (Change Text) → List TokenPair
  | _, waiting, [] =>
    match mode with
    | .separator => if waiting.isEmpty then [] else [.dropped waiting.length]
    | .reconcile => flushRemoved waiting
  | _, waiting, .removed token :: changes =>
    pairTokensWith mode false (waiting ++ [token]) changes
  | _, old :: waiting, .added token :: changes =>
    .rewritten old token :: pairTokensWith mode false waiting changes
  | first, [], .added token :: changes =>
    let pair :=
      match mode with
      | .separator => if first || Text.allBlank token then .omitted token else .separator token
      | .reconcile => .rewritten [] token
    pair :: pairTokensWith mode false [] changes
  | _, waiting, .kept token :: changes =>
    match mode with
    | .separator => .kept token :: pairTokensWith mode false waiting changes
    | .reconcile =>
      flushRemoved waiting ++ .kept token :: pairTokensWith mode false [] changes

/-- Pair the removed and the added words of the diff of two lines. -/
def pairTokens (mode : UnpairedTokens) (changes : List (Change Text)) : List TokenPair :=
  pairTokensWith mode true [] changes

/-- The pairs of words of two lines. -/
def tokenPairs (mode : UnpairedTokens) (old new : Text) : List TokenPair :=
  pairTokens mode (Granularity.word.diff old new)

end Morphing
