import Workflow.Main
import Workflow.Scripted
import Workflow.Proofs.Execution.Step
import Workflow.Proofs.Program.Accepted
import Workflow.Proofs.Run.Course
import Workflow.Proofs.Value.Decidable
import Workflow.Proofs.Envelope.Described
import Workflow.Proofs.Envelope.Errors
import Workflow.Proofs.Json.Quoted
import Workflow.Proofs.Json.ReadBack
import Workflow.Proofs.Json.Shaped
import Workflow.Proofs.Program.Arguments
import Workflow.Proofs.Run.Boundary
import Workflow.Proofs.CommandLine.ExitCode
import Workflow.Proofs.Engine.Work
import Workflow.Proofs.Run.Cancellation
import Workflow.Proofs.Host.Payload
import Workflow.Proofs.Template.Placeholders
import Workflow.Proofs.Run.Backwards
import Workflow.Proofs.Run.Abreast
import Workflow.Proofs.Run.Interleaving
import Workflow.Proofs.Template.Named
import Workflow.Proofs.Program.Reordered
import Workflow.Proofs.Run.Reordering
import Workflow.Proofs.Engine.Installed
import Workflow.Proofs.Engine.Learned
import Workflow.Proofs.Host.Usage
import Workflow.Proofs.Program.Nested
import Workflow.Proofs.Engine.Nesting
import Workflow.Proofs.Run.Flattened
import Workflow.Proofs.Run.Nested
import Workflow.Proofs.Engine.Registered
import Workflow.Proofs.Program.Submitted
import Workflow.Proofs.Host.Pulled
import Workflow.Proofs.Run.Truncated
import Workflow.Proofs.Text.Numeral
import Workflow.Proofs.Path.Addressed
import Workflow.Proofs.Execution.Atomic
import Workflow.Proofs.Path.Summarised
import Workflow.Proofs.Envelope.Forms
import Workflow.Proofs.Host.Announced
import Workflow.Proofs.Path.Notation
import Workflow.Proofs.Path.Transparent
import Workflow.Proofs.Template.Sequences
import Workflow.Proofs.Run.Hinted
import Workflow.Proofs.Path.Located
import Workflow.Proofs.Template.Rendered
import Workflow.Proofs.Bundled.Confined
import Workflow.Proofs.Bundled.Workspace
