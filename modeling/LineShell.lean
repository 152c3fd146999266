import LineShell.Text.Blank
import LineShell.Text.Pieces
import LineShell.Text.Quoted
import LineShell.Text.Upper
import LineShell.Text.Columns
import LineShell.Plan
import LineShell.Path
import LineShell.Fault
import LineShell.Files.Basic
import LineShell.Files.Handle
import LineShell.Image
import LineShell.Script
import LineShell.Machine
import LineShell.Log.Logger
import LineShell.Event
import LineShell.Command
import LineShell.Sink
import LineShell.Session
import LineShell.Loop
import LineShell.Settings.Basic
import LineShell.CommandLine
import LineShell.Main
import LineShell.Proofs.Quoting
import LineShell.Proofs.Delivery
import LineShell.Proofs.Outcome
import LineShell.Proofs.Routing
import LineShell.Proofs.Escape
import LineShell.Proofs.Normal
import LineShell.Proofs.Whereabouts
import LineShell.Proofs.Grammar
import LineShell.Proofs.Expressible
import LineShell.Proofs.PathText
import LineShell.Proofs.Launching
import LineShell.Proofs.Contents
import LineShell.Proofs.Conversation
import LineShell.Proofs.LoggerHistory
import LineShell.Proofs.Refusal
import LineShell.Proofs.Release
import LineShell.Proofs.Resolution
import LineShell.Proofs.Layout
import LineShell.Proofs.Trimming
import LineShell.Proofs.Conservation
import LineShell.Proofs.Lookup
import LineShell.Proofs.Identity
import LineShell.Proofs.Starting
import LineShell.Proofs.Layering
import LineShell.Proofs.SingleLine
import LineShell.Proofs.Switches
