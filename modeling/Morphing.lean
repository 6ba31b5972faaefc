import Morphing.Json.Parse
import Morphing.Json.Render
import Morphing.Main
import Morphing.Proofs.Diff.Meeting
import Morphing.Proofs.Diff.Search
import Morphing.Proofs.Diff.Shortest
import Morphing.Proofs.Diff.Alignment
import Morphing.Proofs.Diff.Normal
import Morphing.Proofs.Diff.Minimality
import Morphing.Proofs.Diff.Shape
import Morphing.Proofs.Draft.Settle
import Morphing.Proofs.Text.Lines
import Morphing.Proofs.Text.Words
import Morphing.Proofs.Token.Pairing
import Morphing.Proofs.Line.Write
import Morphing.Proofs.Line.Affordable
import Morphing.Proofs.Morph.Completion
import Morphing.Proofs.Token.Separator
import Morphing.Proofs.Token.Reconcile
import Morphing.Proofs.Line.Final
import Morphing.Proofs.Morph.Finality
import Morphing.Proofs.Diff.Course
import Morphing.Proofs.Diff.Calls
import Morphing.Proofs.Diff.Common
import Morphing.Proofs.Line.Distance
import Morphing.Proofs.Morph.Spending
import Morphing.Proofs.Morph.Steps
import Morphing.Proofs.Morph.Frames
import Morphing.Proofs.Line.Path
import Morphing.Proofs.Token.Supply
import Morphing.Proofs.Morph.Convergence
import Morphing.Proofs.Line.Matching
import Morphing.Proofs.Diff.Lockstep
import Morphing.Proofs.Morph.CommonLines
import Morphing.Proofs.Draft.Marks
import Morphing.Proofs.Draft.Stability
import Morphing.Proofs.Token.Queue
import Morphing.Proofs.Morph.Isolation
import Morphing.Proofs.Line.Blocks
import Morphing.Proofs.Morph.Typing
import Morphing.Proofs.Text.Segmentation
import Morphing.Proofs.Line.Balance
import Morphing.Proofs.Diff.Sameness
import Morphing.Proofs.Morph.Bytes
import Morphing.Proofs.Morph.Decisions
import Morphing.Proofs.Cli.Arguments
import Morphing.Proofs.Cli.Modes
import Morphing.Proofs.Diff.Layers
import Morphing.Proofs.Diff.Reuse
import Morphing.Proofs.Json.Members
import Morphing.Proofs.Json.Records
import Morphing.Proofs.Json.RoundTrip
