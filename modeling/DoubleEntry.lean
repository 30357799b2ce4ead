import DoubleEntry.AccountBook
import DoubleEntry.Amount
import DoubleEntry.Error.AccountError
import DoubleEntry.Error.LedgerError
import DoubleEntry.Error.Problem
import DoubleEntry.Http.MediaType
import DoubleEntry.Http.Message
import DoubleEntry.Http.Route
import DoubleEntry.Http.Service
import DoubleEntry.Identifier
import DoubleEntry.Json.Basic
import DoubleEntry.Json.Reader
import DoubleEntry.Json.Token
import DoubleEntry.Json.Writer
import DoubleEntry.Ledger.Account
import DoubleEntry.Ledger.Arithmetic
import DoubleEntry.Ledger.Balance
import DoubleEntry.Ledger.Funds
import DoubleEntry.Ledger.FundsPolicy
import DoubleEntry.Ledger.Proposal
import DoubleEntry.Ledger.Purpose
import DoubleEntry.Ledger.Transaction
import DoubleEntry.Order
import DoubleEntry.Posting
import DoubleEntry.Proofs.AccountReading
import DoubleEntry.Proofs.Agreement
import DoubleEntry.Proofs.AllOrNothing
import DoubleEntry.Proofs.Answer
import DoubleEntry.Proofs.AppendOnly
import DoubleEntry.Proofs.Books
import DoubleEntry.Proofs.Bulk
import DoubleEntry.Proofs.Calls
import DoubleEntry.Proofs.Causes
import DoubleEntry.Proofs.Chronology
import DoubleEntry.Proofs.Closure
import DoubleEntry.Proofs.Conflicts
import DoubleEntry.Proofs.Deadlines
import DoubleEntry.Proofs.Disclosure
import DoubleEntry.Proofs.Discretion
import DoubleEntry.Proofs.Entries
import DoubleEntry.Proofs.Funds
import DoubleEntry.Proofs.History
import DoubleEntry.Proofs.Independence
import DoubleEntry.Proofs.Judgement
import DoubleEntry.Proofs.Lifecycle
import DoubleEntry.Proofs.Listing
import DoubleEntry.Proofs.Loading
import DoubleEntry.Proofs.Locking
import DoubleEntry.Proofs.Lookup
import DoubleEntry.Proofs.Masking
import DoubleEntry.Proofs.Matching
import DoubleEntry.Proofs.Nets
import DoubleEntry.Proofs.Offenders
import DoubleEntry.Proofs.OnBehalf
import DoubleEntry.Proofs.Opening
import DoubleEntry.Proofs.Opposite
import DoubleEntry.Proofs.Order
import DoubleEntry.Proofs.Overdraft
import DoubleEntry.Proofs.Posting
import DoubleEntry.Proofs.Proposal
import DoubleEntry.Proofs.Readability
import DoubleEntry.Proofs.Removal
import DoubleEntry.Proofs.Replies
import DoubleEntry.Proofs.Retraction
import DoubleEntry.Proofs.Retrieval
import DoubleEntry.Proofs.Reversal
import DoubleEntry.Proofs.Revocable
import DoubleEntry.Proofs.Rewriting
import DoubleEntry.Proofs.RoundTrip
import DoubleEntry.Proofs.Sending
import DoubleEntry.Proofs.Serving
import DoubleEntry.Proofs.Settlement
import DoubleEntry.Proofs.Soundness
import DoubleEntry.Proofs.Strictness
import DoubleEntry.Proofs.Sums
import DoubleEntry.Proofs.TakingBack
import DoubleEntry.Proofs.Undoing
import DoubleEntry.Proofs.Unseen
import DoubleEntry.Proofs.Verdict
import DoubleEntry.Proofs.Views
import DoubleEntry.Proofs.Wording
import DoubleEntry.Proofs.Words
import DoubleEntry.Proofs.Work
import DoubleEntry.Proofs.WrittenTime
import DoubleEntry.Reading
import DoubleEntry.Reversal
import DoubleEntry.Schema.Migration
import DoubleEntry.Schema.Table
import DoubleEntry.Settings.Basic
import DoubleEntry.Settings.Files
import DoubleEntry.Settings.Layers
import DoubleEntry.Settings.Load
import DoubleEntry.Settings.Path
import DoubleEntry.Settings.Values
import DoubleEntry.Store.Disturbance
import DoubleEntry.Store.Query
import DoubleEntry.Store.Rows
import DoubleEntry.Store.Settlement
import DoubleEntry.Store.Statement
import DoubleEntry.Store.Work
import DoubleEntry.Text.Case
import DoubleEntry.Text.Cased
import DoubleEntry.Text.Cut
import DoubleEntry.Text.Double
import DoubleEntry.Text.Numeral
import DoubleEntry.Text.Percent
import DoubleEntry.Text.Quoted
import DoubleEntry.Text.Shortest
import DoubleEntry.Text.Utf8
import DoubleEntry.Time.Date
import DoubleEntry.Time.Text
import DoubleEntry.Time.Timestamp
import DoubleEntry.Wire.Account
import DoubleEntry.Wire.Proposal
import DoubleEntry.Wire.Shape
import DoubleEntry.Wire.Transaction
