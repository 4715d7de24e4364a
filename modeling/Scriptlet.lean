import Scriptlet.Folder
import Scriptlet.Main
import Scriptlet.Session
import Scriptlet.Proofs.Grammar.Acceptance
import Scriptlet.Proofs.Grammar.RoundTrip
import Scriptlet.Proofs.Grammar.Spelling
import Scriptlet.Proofs.Evaluation.Frame
import Scriptlet.Proofs.Evaluation.WordRange
import Scriptlet.Proofs.Script.Pieces
import Scriptlet.Proofs.Script.ReadBack
import Scriptlet.Proofs.Evaluation.Truncation
import Scriptlet.Proofs.Grammar.Alike
import Scriptlet.Proofs.Script.Diagnostics
import Scriptlet.Proofs.Grammar.Ground
import Scriptlet.Proofs.Evaluation.Vetting
import Scriptlet.Proofs.Script.Location
import Scriptlet.Proofs.Script.Regularity
import Scriptlet.Proofs.Evaluation.Depth
import Scriptlet.Proofs.Script.Limit
import Scriptlet.Proofs.Evaluation.NilFree
import Scriptlet.Proofs.Evaluation.Weakening
import Scriptlet.Proofs.Script.Imports
import Scriptlet.Proofs.Script.Records
import Scriptlet.Proofs.Grammar.Climbing
import Scriptlet.Proofs.Grammar.Progress
import Scriptlet.Proofs.Grammar.Blame
import Scriptlet.Proofs.Token.Literal
import Scriptlet.Proofs.Value.Exactness
import Scriptlet.Proofs.Token.CharClass
import Scriptlet.Proofs.Token.Layout
import Scriptlet.Proofs.Evaluation.Signal
import Scriptlet.Proofs.Evaluation.Rounds
import Scriptlet.Proofs.Evaluation.Nesting
import Scriptlet.Proofs.Script.Termination
import Scriptlet.Proofs.Evaluation.Unrolling
import Scriptlet.Proofs.Evaluation.Iteration
import Scriptlet.Proofs.Evaluation.Compound
import Scriptlet.Proofs.Grammar.Placement
import Scriptlet.Proofs.Script.Session
import Scriptlet.Proofs.Token.Escape
