import AutomataShell.Text.Basic
import AutomataShell.Text.Blank
import AutomataShell.Text.CaseTable
import AutomataShell.Text.Digit
import AutomataShell.Text.LetterCase
import AutomataShell.Text.LineBreak
import AutomataShell.Text.Printable
import AutomataShell.Text.Quoted
import AutomataShell.Machine.Acceptance
import AutomataShell.Machine.Description
import AutomataShell.Machine.Drawing
import AutomataShell.Command.Arguments
import AutomataShell.Script.Expansion
import AutomataShell.Disk.Route
import AutomataShell.Session.Execute
import AutomataShell.Session.Opening
import AutomataShell.Checker
import AutomataShell.CommandLine.Run
import AutomataShell.Main
import AutomataShell.Proofs.Command.Reading
import AutomataShell.Proofs.Session.Change
import AutomataShell.Proofs.Session.Effect
import AutomataShell.Proofs.Session.Operation
import AutomataShell.Proofs.Text.Words
import AutomataShell.Proofs.Session.Replay
import AutomataShell.Proofs.Text.Lowering
import AutomataShell.Proofs.Script.Scope
import AutomataShell.Proofs.Script.Agreement
import AutomataShell.Proofs.Script.Meaning
import AutomataShell.Proofs.Script.Grammar
import AutomataShell.Proofs.Script.Spacing
import AutomataShell.Proofs.Script.Spelling
import AutomataShell.Proofs.Script.Lines
import AutomataShell.Proofs.Script.Storage
import AutomataShell.Proofs.Script.Survival
import AutomataShell.Proofs.Command.Rereading
import AutomataShell.Proofs.Disk.Reaching
import AutomataShell.Proofs.Disk.Writing
import AutomataShell.Proofs.Session.Recording
import AutomataShell.Proofs.Session.Rerunning
import AutomataShell.Proofs.Session.RoundTrip
import AutomataShell.Proofs.Machine.Growth
import AutomataShell.Proofs.Machine.Graph
import AutomataShell.Proofs.Machine.Walking
import AutomataShell.Proofs.Machine.Closure
import AutomataShell.Proofs.Machine.Sweeping
import AutomataShell.Proofs.Script.Normal
import AutomataShell.Proofs.Session.Refusing
import AutomataShell.Proofs.Script.FixedPoint
import AutomataShell.Proofs.Disk.Resembling
import AutomataShell.Proofs.Machine.Soundness
import AutomataShell.Proofs.Machine.Slots
import AutomataShell.Proofs.Session.Following
import AutomataShell.Proofs.Session.Independence
import AutomataShell.Proofs.CommandLine.Checking
import AutomataShell.Proofs.Session.Grounding
import AutomataShell.Proofs.Session.Nesting
import AutomataShell.Proofs.Session.Calling
import AutomataShell.Proofs.Session.Enclosing
import AutomataShell.Proofs.Session.Closing
import AutomataShell.Proofs.Session.Exiting
import AutomataShell.Proofs.Checker.Protocol
import AutomataShell.Proofs.Session.Exporting
import AutomataShell.Proofs.Checker.Files
import AutomataShell.Proofs.Machine.History
import AutomataShell.Proofs.Machine.Kinds
import AutomataShell.Proofs.Script.Joining
import AutomataShell.Proofs.Session.Depth
import AutomataShell.Proofs.Session.Joining
import AutomataShell.Proofs.Session.Layers
import AutomataShell.Proofs.Machine.Sequence
import AutomataShell.Proofs.Session.Editing
import AutomataShell.Proofs.Session.Holding
import AutomataShell.Proofs.Machine.Arrows
import AutomataShell.Proofs.Command.Arrows
import AutomataShell.Proofs.Session.Connecting
import AutomataShell.Proofs.Script.FileNames
import AutomataShell.Proofs.Session.Naming
import AutomataShell.Proofs.Text.Capitals
import AutomataShell.Proofs.Command.Capitals
import AutomataShell.Proofs.Session.Capitals
import AutomataShell.Proofs.Drawing.Rows
import AutomataShell.Proofs.Machine.Monotonicity
import AutomataShell.Proofs.Machine.Traversal
import AutomataShell.Proofs.Drawing.Collecting
import AutomataShell.Proofs.Drawing.Lines
import AutomataShell.Proofs.Drawing.Reading
import AutomataShell.Proofs.Drawing.Quoting
import AutomataShell.Proofs.Script.Insertion
import AutomataShell.Proofs.Script.Splitting
import AutomataShell.Proofs.Checker.Delivery
import AutomataShell.Proofs.Machine.Describing
