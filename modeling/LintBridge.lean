import LintBridge.Log.Configuration
import LintBridge.Main
import LintBridge.Pattern.Reader
import LintBridge.Proofs.Extraction.Anchoring
import LintBridge.Proofs.Extraction.Staleness
import LintBridge.Proofs.Issue.Report
import LintBridge.Proofs.Syntax.Laminar
import LintBridge.Proofs.Syntax.Nodes
import LintBridge.Proofs.Syntax.Characters
import LintBridge.Proofs.Pattern.Search
import LintBridge.Proofs.Issue.Grammar
import LintBridge.Proofs.ErrorOutput
import LintBridge.Session.Run
import LintBridge.Proofs.Extraction.Origins
import LintBridge.Proofs.Extraction.Accounting
import LintBridge.Proofs.Editor.Use
import LintBridge.Proofs.Extraction.Edits
import LintBridge.Proofs.Host.Action
import LintBridge.Proofs.Host.Disk
import LintBridge.Proofs.Host.Settings
import LintBridge.Proofs.Session.Settings
import LintBridge.Proofs.Session.LastWriter
import LintBridge.Proofs.Text.Utf8
import LintBridge.Proofs.Text.Bytes
import LintBridge.Proofs.Host.Lint
import LintBridge.Proofs.Session.Callbacks
import LintBridge.Proofs.Session.Observers
import LintBridge.Proofs.Host.Package
import LintBridge.Proofs.Host.Lifecycle
import LintBridge.Proofs.Session.Package
import LintBridge.Proofs.Host.Verdict
import LintBridge.Proofs.Host.Cleanup
import LintBridge.Proofs.Text.Template
import LintBridge.Proofs.Command.Directories
import LintBridge.Proofs.Editor.Ranges
import LintBridge.Proofs.Host.Launch
import LintBridge.Proofs.Path.Normal
import LintBridge.Proofs.Project
import LintBridge.Proofs.Project.Order
import LintBridge.Proofs.Extraction.Remapping
import LintBridge.Proofs.Extraction.Display
import LintBridge.Proofs.Editor.LineBreaks
import LintBridge.Proofs.Command.MessageFormat
import LintBridge.Proofs.Command.Environment
import LintBridge.Proofs.Settings.Groups
import LintBridge.Proofs.Settings.Unclaimed
import LintBridge.Proofs.Session.Reentry
import LintBridge.Proofs.Session.CallOrder
import LintBridge.Proofs.Session.FailedObservations
import LintBridge.Proofs.Session.CurrentValue
