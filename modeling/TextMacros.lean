import TextMacros.Main
import TextMacros.Proofs.Definition
import TextMacros.Proofs.Segmentation
import TextMacros.Proofs.Token.Fault
import TextMacros.Proofs.Expansion.Frame
import TextMacros.Proofs.Expansion.Concatenation
import TextMacros.Proofs.Expansion.Interchange
import TextMacros.Proofs.Expansion.Limit
import TextMacros.Proofs.Expansion.Location
import TextMacros.Proofs.Expansion.Substitution
import TextMacros.Proofs.Expansion.Termination
import TextMacros.Proofs.Expansion.Reference
import TextMacros.Proofs.Expansion.Formal
import TextMacros.Proofs.Expansion.Counting
import TextMacros.Proofs.Expansion.Lockstep
import TextMacros.Proofs.Expansion.Binding
import TextMacros.Proofs.Expansion.Spelling
import TextMacros.Proofs.Line
import TextMacros.Proofs.Files
import TextMacros.Proofs.Editor.Reopening
import TextMacros.Proofs.Prompt.Terminal
import TextMacros.Proofs.Editor.Transcript
import TextMacros.Proofs.Expansion.Quotation
import TextMacros.Proofs.Expansion.Persistence
import TextMacros.Proofs.Expansion.Reordering
import TextMacros.Proofs.Expansion.Cycle
import TextMacros.Proofs.Expansion.Unexpanded
import TextMacros.Proofs.Expansion.Loop
import TextMacros.Proofs.Scope.History
import TextMacros.Proofs.Expansion.Arithmetic
import TextMacros.Proofs.Wrap
import TextMacros.Proofs.Prompt.Reply
import TextMacros.Proofs.Retrieval
import TextMacros.Proofs.Token.Accounting
import TextMacros.Proofs.Expansion.Safety
import TextMacros.Proofs.CommandLine
