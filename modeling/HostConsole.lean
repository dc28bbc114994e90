import HostConsole.Arguments
import HostConsole.Bindings
import HostConsole.Call.Basic
import HostConsole.Call.Parser
import HostConsole.Call.Segments
import HostConsole.CodePoints.Basic
import HostConsole.CodePoints.Case
import HostConsole.CodePoints.Encoding
import HostConsole.CodePoints.Stretches
import HostConsole.Coercion
import HostConsole.Completion
import HostConsole.Demo.Calculator
import HostConsole.Demo.Host
import HostConsole.Demo.Ship
import HostConsole.Fault
import HostConsole.Host
import HostConsole.Log
import HostConsole.Main
import HostConsole.Number.Binary
import HostConsole.Number.Decimal
import HostConsole.Number.Floating
import HostConsole.Number.Integer
import HostConsole.Number.Shortest
import HostConsole.Options
import HostConsole.Pattern.Alternation
import HostConsole.Pattern.Automaton
import HostConsole.Pattern.Automaton.Extent
import HostConsole.Pattern.Automaton.Sets
import HostConsole.Pattern.Automaton.Words
import HostConsole.Pattern.Basic
import HostConsole.Pattern.Class
import HostConsole.Pattern.Escape
import HostConsole.Pattern.Fault
import HostConsole.Pattern.Meaning
import HostConsole.Pattern.Nesting
import HostConsole.Pattern.Parser
import HostConsole.Pattern.Reader
import HostConsole.Pattern.Settings
import HostConsole.Pattern.Tree
import HostConsole.Program
import HostConsole.Prompt
import HostConsole.Proofs.Call.Balance
import HostConsole.Proofs.Call.Context
import HostConsole.Proofs.Call.Cuts
import HostConsole.Proofs.Call.Depth
import HostConsole.Proofs.Call.Faults
import HostConsole.Proofs.Call.Reading
import HostConsole.Proofs.Call.Spelling
import HostConsole.Proofs.Call.Written
import HostConsole.Proofs.Completion
import HostConsole.Proofs.Demo.Counts
import HostConsole.Proofs.Demo.Headings
import HostConsole.Proofs.Demo.Installed
import HostConsole.Proofs.Demo.Snapshots
import HostConsole.Proofs.Demo.Sums
import HostConsole.Proofs.Evaluation.Alike
import HostConsole.Proofs.Evaluation.Calls
import HostConsole.Proofs.Evaluation.Coercion
import HostConsole.Proofs.Evaluation.Extension
import HostConsole.Proofs.Evaluation.Fitting
import HostConsole.Proofs.Evaluation.Holding
import HostConsole.Proofs.Evaluation.Invocation
import HostConsole.Proofs.Evaluation.Members
import HostConsole.Proofs.Evaluation.Naming
import HostConsole.Proofs.Evaluation.Order
import HostConsole.Proofs.Evaluation.Provenance
import HostConsole.Proofs.Evaluation.Relation
import HostConsole.Proofs.Evaluation.Targets
import HostConsole.Proofs.Number.Integer
import HostConsole.Proofs.Number.Reading
import HostConsole.Proofs.Program.Input
import HostConsole.Proofs.Program.Prompt
import HostConsole.Proofs.Program.Script
import HostConsole.Proofs.Program.Words
import HostConsole.Proofs.Session.Access
import HostConsole.Proofs.Session.Alike
import HostConsole.Proofs.Session.Arity
import HostConsole.Proofs.Session.Execution
import HostConsole.Proofs.Session.Extension
import HostConsole.Proofs.Session.History
import HostConsole.Proofs.Session.Holding
import HostConsole.Proofs.Session.Keeping
import HostConsole.Proofs.Session.Line
import HostConsole.Proofs.Session.Listing
import HostConsole.Proofs.Session.Marking
import HostConsole.Proofs.Session.Naming
import HostConsole.Proofs.Session.Objects
import HostConsole.Proofs.Session.Padding
import HostConsole.Proofs.Session.Provenance
import HostConsole.Proofs.Session.Reachable
import HostConsole.Proofs.Session.Registration
import HostConsole.Proofs.Session.Report
import HostConsole.Proofs.Session.Shorthand
import HostConsole.Proofs.Session.Variables
import HostConsole.Proofs.Text.Alike
import HostConsole.Proofs.Text.Trim
import HostConsole.Property.Age
import HostConsole.Property.Category
import HostConsole.Property.Derived
import HostConsole.Property.GraphemeBreak
import HostConsole.Property.Lookup
import HostConsole.Property.Script
import HostConsole.Property.ScriptExtension
import HostConsole.Property.SentenceBreak
import HostConsole.Property.Tables
import HostConsole.Property.WordBreak
import HostConsole.Session.Basic
import HostConsole.Session.Evaluation
import HostConsole.Session.Line
import HostConsole.Text.Alike
import HostConsole.Text.Blank
import HostConsole.Text.Cluster
import HostConsole.Text.ClusterRole
import HostConsole.Text.Lines
import HostConsole.Text.LowerCase
import HostConsole.Text.Quoted
import HostConsole.Ty
import HostConsole.Value
