import StatementPad.Interpreter.Scripted
import StatementPad.Main
import StatementPad.Proofs.Batch
import StatementPad.Proofs.Block.Statement
import StatementPad.Proofs.Channel.Alive
import StatementPad.Proofs.Channel.Paired
import StatementPad.Proofs.Document.Checked
import StatementPad.Proofs.Document.Editing
import StatementPad.Proofs.Marker
import StatementPad.Proofs.Probe.Growth
import StatementPad.Proofs.Run.Compiled
import StatementPad.Proofs.Run.SingleFlight
import StatementPad.Run.Scripted
import StatementPad.Proofs.Block.Candidates
import StatementPad.Proofs.Run.Painted
import StatementPad.Proofs.Pad.Painted
import StatementPad.Proofs.Json.Number
import StatementPad.Proofs.Json.Token
import StatementPad.Proofs.Json.Reader
import StatementPad.Proofs.Text.Utf8
import StatementPad.Proofs.Wire
import StatementPad.Proofs.Console
import StatementPad.Proofs.Run.Told
import StatementPad.Proofs.Run.Clicked
import StatementPad.Proofs.Run.Narrated
import StatementPad.Proofs.Batch.Progress
import StatementPad.Proofs.Block.Proposed
import StatementPad.Proofs.Block.Head
import StatementPad.Proofs.Pad.Interrupted
import StatementPad.Proofs.Block.Unfinished
import StatementPad.Proofs.Block.Wrapped
import StatementPad.Proofs.Document.Typing
import StatementPad.Proofs.Marker.Running
import StatementPad.Proofs.Cell.Partition
import StatementPad.Proofs.Console.Marks
import StatementPad.Proofs.Console.Pieces
import StatementPad.Proofs.Settings
import StatementPad.Proofs.Document.Saved
import StatementPad.Proofs.Batch.Cell
import StatementPad.Proofs.Block.Numbered
import StatementPad.Proofs.Pad.Words
import StatementPad.Proofs.Session
