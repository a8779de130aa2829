import LineShell.Main
import LineShell.Proofs.Binding.Call
import LineShell.Proofs.Binding.EmptySlot
import LineShell.Proofs.Binding.Form
import LineShell.Proofs.Binding.Issues
import LineShell.Proofs.Binding.Roles
import LineShell.Proofs.Builtin.Batch
import LineShell.Proofs.Builtin.Expansion
import LineShell.Proofs.Builtin.Help
import LineShell.Proofs.Builtin.Paste
import LineShell.Proofs.Builtin.Prompt
import LineShell.Proofs.Builtin.Transaction
import LineShell.Proofs.Cancellation.NewestScope
import LineShell.Proofs.Editor.Agreement
import LineShell.Proofs.Editor.Difference
import LineShell.Proofs.Editor.Refusals
import LineShell.Proofs.Editor.WordBoundary
import LineShell.Proofs.Grammar.Finish
import LineShell.Proofs.Grammar.Overlap
import LineShell.Proofs.Grammar.Problems
import LineShell.Proofs.History.Append
import LineShell.Proofs.History.Persistence
import LineShell.Proofs.History.Refusals
import LineShell.Proofs.Line.Caret
import LineShell.Proofs.Line.Marks
import LineShell.Proofs.Line.Slices
import LineShell.Proofs.Line.Typing
import LineShell.Proofs.Shell.ByGrammar
import LineShell.Proofs.Shell.Completion
import LineShell.Proofs.Shell.Contained
import LineShell.Proofs.Shell.Cycle
import LineShell.Proofs.Shell.Merge
import LineShell.Proofs.Shell.NameCompletion
import LineShell.Proofs.Shell.OptionCompletion
import LineShell.Proofs.Shell.Order
import LineShell.Proofs.Shell.Ring
import LineShell.Proofs.Shell.ValueCompletion
import LineShell.Script
