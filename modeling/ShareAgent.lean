import ShareAgent.Agent
import ShareAgent.Command.Runner
import ShareAgent.Daemon.Start
import ShareAgent.Device.Growth
import ShareAgent.Device.Inspect
import ShareAgent.Device.Mapping
import ShareAgent.Dialogue
import ShareAgent.Health.Timer
import ShareAgent.Health.Watch
import ShareAgent.HostError
import ShareAgent.Machine.Files
import ShareAgent.Machine.Kernel
import ShareAgent.Machine.Program
import ShareAgent.Machine.Timer
import ShareAgent.Machine.Shell.Print
import ShareAgent.Machine.Shell.Reader
import ShareAgent.Machine.Shell.Run
import ShareAgent.Machine.Shell.State
import ShareAgent.Machine.Shell.Sum
import ShareAgent.Mount.Mounter
import ShareAgent.Settings
import ShareAgent.Share.Lifecycle
import ShareAgent.Share.Rehearsal
import ShareAgent.Text.Basic
import ShareAgent.Text.Blank
import ShareAgent.Text.Numeral
import ShareAgent.Text.Quoted
import ShareAgent.Text.Split
import ShareAgent.Text.Utf8
import ShareAgent.Main
import ShareAgent.Proofs.Dialogue.Transcript
import ShareAgent.Proofs.Dialogue.Always
import ShareAgent.Proofs.Dialogue.Asks
import ShareAgent.Proofs.Share.Standing
import ShareAgent.Proofs.Share.Operation
import ShareAgent.Proofs.Share.Life
import ShareAgent.Proofs.Share.Exposure
import ShareAgent.Proofs.Share.Memory
import ShareAgent.Proofs.Share.Recollection
import ShareAgent.Proofs.Share.Healing
import ShareAgent.Proofs.Text.Lines
import ShareAgent.Proofs.Text.Pieces
import ShareAgent.Proofs.Text.Numeral
import ShareAgent.Proofs.Text.Utf8
import ShareAgent.Proofs.Export.Entries
import ShareAgent.Proofs.Export.Sections
import ShareAgent.Proofs.Export.Statements
import ShareAgent.Proofs.Export.Render
import ShareAgent.Proofs.Export.Header
import ShareAgent.Proofs.Export.Addition
import ShareAgent.Proofs.Export.Files
import ShareAgent.Proofs.Export.Creation
import ShareAgent.Proofs.Path.Components
import ShareAgent.Proofs.Export.RoundTrip
import ShareAgent.Proofs.Export.Removal
import ShareAgent.Proofs.Export.Table
import ShareAgent.Proofs.Export.Progress
import ShareAgent.Proofs.Export.Comments
import ShareAgent.Proofs.Share.Calls
import ShareAgent.Proofs.Share.Refusal
import ShareAgent.Proofs.Dialogue.Refine
import ShareAgent.Proofs.Agent.Secrecy
import ShareAgent.Proofs.Command.Input
import ShareAgent.Proofs.Mount.Escape
import ShareAgent.Proofs.Mount.Table
import ShareAgent.Proofs.Export.Layout
import ShareAgent.Proofs.Share.Inventory
import ShareAgent.Proofs.Share.Retries
import ShareAgent.Proofs.Device.Format
import ShareAgent.Proofs.Mount.Formatting
import ShareAgent.Proofs.Agent.System
import ShareAgent.Proofs.Agent.Unmounting
import ShareAgent.Proofs.Device.Growth
import ShareAgent.Proofs.Agent.Trimming
import ShareAgent.Proofs.Agent.Resizing
import ShareAgent.Proofs.Export.Numbering
import ShareAgent.Proofs.Text.Octets
import ShareAgent.Proofs.Agent.Queries
import ShareAgent.Proofs.Mount.Lines
import ShareAgent.Proofs.Agent.Strangers
import ShareAgent.Proofs.Export.Process
import ShareAgent.Proofs.Path.Extension
import ShareAgent.Proofs.Export.Replacement
import ShareAgent.Proofs.Export.Splitting
import ShareAgent.Proofs.Agent.Mappings
import ShareAgent.Proofs.Health.Delivery
import ShareAgent.Proofs.Health.Ticks
import ShareAgent.Proofs.Health.Errands
import ShareAgent.Proofs.Health.Ward
import ShareAgent.Proofs.Command.Supervision
import ShareAgent.Proofs.Mount.Cursor
