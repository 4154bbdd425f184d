import PostingRules.Main
import PostingRules.Store.Foreign
import PostingRules.Proofs.Except
import PostingRules.Proofs.Suggestions
import PostingRules.Proofs.Pattern.Tokens
import PostingRules.Proofs.Store.Listing
import PostingRules.Proofs.Store.Evaluation
import PostingRules.Proofs.Store.Call
import PostingRules.Proofs.Store.Failure
import PostingRules.Proofs.Store.Change
import PostingRules.Proofs.Store.History
import PostingRules.Proofs.Store.UsageCount
import PostingRules.Proofs.Store.Isolation
import PostingRules.Proofs.Pattern.Screening
import PostingRules.Proofs.Text.Property
import PostingRules.Proofs.Text.Moment
import PostingRules.Proofs.Pattern.Escapes
import PostingRules.Proofs.Amount
import PostingRules.Proofs.Csv
import PostingRules.Proofs.Pattern.Agreement
import PostingRules.Proofs.Statement
import PostingRules.Proofs.Condition
import PostingRules.Proofs.Removal
import PostingRules.Proofs.Store.Coherence
import PostingRules.Proofs.Statement.Writing
import PostingRules.Proofs.Occurrence
import PostingRules.Proofs.Command.SetUp
import PostingRules.Proofs.Command.Trial
import PostingRules.Proofs.Store.Overlay
import PostingRules.Proofs.Amount.Grammar
import PostingRules.Proofs.Amount.Kronor
import PostingRules.Proofs.Statement.Lines
import PostingRules.Proofs.Store.Outranking
import PostingRules.Proofs.Store.Switching
import PostingRules.Proofs.Amount.Limit
import PostingRules.Proofs.Condition.Case
import PostingRules.Proofs.Condition.Literal
import PostingRules.Proofs.Confidence.Monotone
import PostingRules.Proofs.Command.Loading
import PostingRules.Proofs.Command.Again
import PostingRules.Proofs.Pattern.Indices
