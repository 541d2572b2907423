import WindowRules.Audit.Report
import WindowRules.Cascade
import WindowRules.Catalog
import WindowRules.CommandLine.Answer
import WindowRules.Config.File
import WindowRules.Config.Reader
import WindowRules.Config.Writer
import WindowRules.Main
import WindowRules.Matching
import WindowRules.Pattern.Basic
import WindowRules.Proofs.Cascade
import WindowRules.Proofs.Catalog.ClassPattern
import WindowRules.Proofs.Catalog.Coverage
import WindowRules.Proofs.Config.Comments
import WindowRules.Proofs.Config.Editing
import WindowRules.Proofs.Config.Recovery
import WindowRules.Proofs.Config.RoundTrip
import WindowRules.Proofs.Config.WellFormed
import WindowRules.Proofs.Session.Chronicle
import WindowRules.Proofs.Session.Saving
import WindowRules.Proofs.Session.Throughout
import WindowRules.Proofs.Shell.Run
import WindowRules.Proofs.Shell.Saving
import WindowRules.Proofs.Text.Lowercase
import WindowRules.Proofs.Text.Sigma
import WindowRules.Proofs.Text.Words
import WindowRules.Session
import WindowRules.Settings
import WindowRules.Shell.Run
import WindowRules.Snapshot
import WindowRules.Proofs.Audit.Findings
import WindowRules.Proofs.Audit.Report
import WindowRules.Proofs.Rule.Strictness
import WindowRules.Proofs.Session.Mutations
import WindowRules.Proofs.History.UnboundedLog
import WindowRules.Proofs.Session.Alike
import WindowRules.Proofs.Shell.Thinning
import WindowRules.Proofs.Matching.Memory
import WindowRules.Proofs.Session.Memory
import WindowRules.Proofs.Audit.DeadRules
import WindowRules.Proofs.Audit.Faults
import WindowRules.Proofs.CommandLine.AuditStatus
import WindowRules.Proofs.Cascade.Explanations
import WindowRules.Proofs.Config.Places
import WindowRules.Proofs.Config.Overwriting
import WindowRules.Proofs.Config.Layout
import WindowRules.Proofs.Config.Nesting
import WindowRules.Proofs.Cascade.Composition
import WindowRules.Proofs.CommandLine.Suggestions
import WindowRules.Proofs.Rule.Extras
import WindowRules.Proofs.Rule.Algebra
import WindowRules.Proofs.Pattern.Spans
import WindowRules.Proofs.Pattern.Search
import WindowRules.Proofs.Pattern.Rounds
import WindowRules.Proofs.Pattern.Reading
import WindowRules.Proofs.Pattern.Literal
import WindowRules.Proofs.Catalog.ExactMatch
import WindowRules.Proofs.Catalog.Mentions
import WindowRules.Proofs.Shell.Reading
import WindowRules.Proofs.Text.Numerals
import WindowRules.Proofs.Text.Spacing
import WindowRules.Proofs.CommandLine.Starting
import WindowRules.Proofs.Pattern.Sets
