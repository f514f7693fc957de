import Promptline.Completion.Session
import Promptline.Editor.Step
import Promptline.History.Search
import Promptline.History.Suggestion
import Promptline.Key.Binding
import Promptline.Key.Terminal
import Promptline.KillRing
import Promptline.Main
import Promptline.Program.Completer
import Promptline.Screen.Paint
import Promptline.Session.Invocation
import Promptline.Session.Terminal
import Promptline.Settings.File
import Promptline.Spec.Builtin
import Promptline.Text.Quoted
import Promptline.Text.SingleLine
import Promptline.Text.Width
import Promptline.Proofs.Completion.Cycle
import Promptline.Proofs.Editor.Reachable
import Promptline.Proofs.Editor.Session
import Promptline.Proofs.Editor.Motion
import Promptline.Proofs.Editor.Repaint
import Promptline.Proofs.Editor.Escape
import Promptline.Proofs.Completion.Repetition
import Promptline.Proofs.Completion.Placement
import Promptline.Proofs.LineBuffer.Kill
import Promptline.Proofs.Spec.Reentry
import Promptline.Proofs.Editor.Consistency
import Promptline.Proofs.Editor.KillChain
import Promptline.Proofs.Editor.Searching
import Promptline.Proofs.History.Listing
import Promptline.Proofs.History.Selection
import Promptline.Proofs.History.Matrix
import Promptline.Proofs.History.Filling
import Promptline.Proofs.History.Independence
import Promptline.Proofs.KillRing.Chains
import Promptline.Proofs.Spec.Failure
import Promptline.Proofs.Spec.Reply
import Promptline.Proofs.Session.Completion
import Promptline.Proofs.LineBuffer.Run
import Promptline.Proofs.Editor.OneLine
import Promptline.Proofs.Session.Log
import Promptline.Proofs.Session.LineEnds
import Promptline.Proofs.Text.Separate
import Promptline.Proofs.Screen.Frame
import Promptline.Proofs.Screen.Line
import Promptline.Proofs.Screen.Paging
import Promptline.Proofs.Screen.Highlight
import Promptline.Proofs.Screen.Checked.Text
import Promptline.Proofs.Screen.Tiling
import Promptline.Proofs.Screen.Checked.Frame
import Promptline.Proofs.Screen.Checked.Box
import Promptline.Proofs.Screen.Checked.Compose
import Promptline.Proofs.Editor.Submission
import Promptline.Proofs.Text.SingleLine
import Promptline.Proofs.Screen.Painting
import Promptline.Proofs.History.Ranking
import Promptline.Proofs.Spec.Environment
import Promptline.Proofs.Spec.Compgen
import Promptline.Proofs.Session.Registration
import Promptline.Proofs.Screen.SearchBox
import Promptline.Proofs.Screen.Columns
import Promptline.Proofs.Text.Truncation
import Promptline.Proofs.History.Narrowing
import Promptline.Proofs.Text.Scanning
import Promptline.Proofs.Screen.SearchFrame
