import PipeShell.Main
import PipeShell.Proofs.Token.Marks
import PipeShell.Proofs.Token.TwoPhases
import PipeShell.Proofs.Token.Rounds
import PipeShell.Proofs.Token.Reading
import PipeShell.Proofs.Token.Continuation
import PipeShell.Proofs.Token.Progress
import PipeShell.Proofs.Pipeline.Grammar
import PipeShell.Proofs.Pipeline.Spelling
import PipeShell.Proofs.Run.Step
import PipeShell.Proofs.Run.Ends
import PipeShell.Proofs.Run.Turn
import PipeShell.Proofs.Run.Wiring
import PipeShell.Proofs.Run.Ownership
import PipeShell.Proofs.Run.Flow
import PipeShell.Proofs.Run.Trace
import PipeShell.Proofs.Run.Delivery
import PipeShell.Proofs.Run.Liveness
import PipeShell.Proofs.Run.Refusal
import PipeShell.Proofs.Run.InOrder
import PipeShell.Proofs.Run.Alone
import PipeShell.Proofs.Run.Outlook
import PipeShell.Proofs.Run.Sequence
import PipeShell.Proofs.Run.Scene
import PipeShell.Proofs.Run.Window
import PipeShell.Proofs.Run.Part
import PipeShell.Proofs.Run.Return
import PipeShell.Proofs.Run.Cut
import PipeShell.Proofs.Run.Isolation
import PipeShell.Proofs.Channel
import PipeShell.Proofs.Run.Course
import PipeShell.Proofs.Run.Consumer
import PipeShell.Proofs.Host.Walk
import PipeShell.Proofs.Host.Canonical
import PipeShell.Proofs.Replies
import PipeShell.Proofs.Run.Request
import PipeShell.Proofs.Session
import PipeShell.Proofs.Host.Overlook
import PipeShell.Proofs.Host.Gap
import PipeShell.Proofs.Host.Footprint
import PipeShell.Proofs.Host.Opening
import PipeShell.Proofs.Host.Access
import PipeShell.Proofs.Host.Attempt
import PipeShell.Proofs.Run.Alike
import PipeShell.Proofs.Run.Growth
import PipeShell.Proofs.Run.Discard
import PipeShell.Proofs.Run.Transparency
import PipeShell.Proofs.Sharing
import PipeShell.Proofs.Run.Preparation
import PipeShell.Proofs.Run.Records
import PipeShell.Proofs.LineInput
import PipeShell.Proofs.CommandLine.Rounds
import PipeShell.Proofs.CommandLine.Loop
import PipeShell.Proofs.CommandLine.Agreement
import PipeShell.Proofs.Lookup
import PipeShell.Proofs.Host.Astray
import PipeShell.Proofs.Run.Dialogue
import PipeShell.Proofs.Run.Truth
import PipeShell.Proofs.Destination
import PipeShell.Proofs.Arguments
import PipeShell.Proofs.Operands
import PipeShell.Proofs.Run.Single
import PipeShell.Proofs.CommandLine.Exit
