import Morphing.Draft.Merge
import Morphing.Draft.Settle
import Morphing.Line.Pairing
import Morphing.Token.Lines

/-!
# Writing pairs of lines

What a pair of lines adds to a draft, and what it costs. Kept lines pass through, removed lines
vanish, and neither costs anything. An added line is typed from its beginning as far as the budget
goes, with its terminator, and not begun at all without a budget. A modified line is merged and
settled, and always ends like the new one.
-/

namespace Morphing

/-- What has been written so far, what is left of the budget, and what there is to tell. -/
structure Progress where
  draft : Draft
  budget : Budget
  events : List Event
deriving DecidableEq, Repr

namespace LinePair

/-- Type an added line from its beginning, as far as the budget goes. -/
def typeLine (line : Text) (d : Draft) (b : Budget) : Draft × Budget :=
  if b.isExhausted then (d, b)
  else
    let content := Text.content line
    (d.append (content.take (b.granted content.length)) |>.append (Text.terminator line),
      b.spendUpTo content.length)

/-- Rewrite a line. -/
def rewriteLine (mode : UnpairedTokens) (old new : Text) (d : Draft) (b : Budget) :
    Except Stopped Progress := do
  let old := Text.content old
  let content := Text.content new
  let d := d.merge mode old content
  let events := (tokenPairs mode old content).filterMap TokenPair.event? ++
    [.resolving (d.candidates .removal).length (d.candidates .insertion).length content]
  let (d, b) ← d.settle b
  return ⟨d.append (Text.terminator new), b, events⟩

/-- Write one pair of lines. -/
def write (options : Options) (pair : LinePair) (d : Draft) (b : Budget) :
    Except Stopped Progress :=
  match pair with
  | kept line => .ok ⟨d.append line, b, []⟩
  | unpairedRemoval line => .ok ⟨d, b, [.droppedLine line]⟩
  | pureInsertion line =>
    let (d, b) := typeLine line d b
    .ok ⟨d, b, []⟩
  | modification old new => rewriteLine options.unpairedTokens old new d b

end LinePair

end Morphing
