import Passbook.Account.Basic
import Passbook.Account.Status
import Passbook.Binary64.Basic
import Passbook.Binary64.Fixed
import Passbook.Binary64.Reading
import Passbook.Binary64.Shortest
import Passbook.Decimal.Arithmetic
import Passbook.Decimal.Basic
import Passbook.Decimal.Printing
import Passbook.Decimal.Reading
import Passbook.Failure
import Passbook.Instant
import Passbook.Instant.Reading
import Passbook.Json.Basic
import Passbook.Json.Reading
import Passbook.Ledger.Basic
import Passbook.Ledger.Engine
import Passbook.Ledger.Posting
import Passbook.Ledger.Retry
import Passbook.Ledger.Service
import Passbook.Lock.Hold
import Passbook.Lock.Registry
import Passbook.Lock.Table
import Passbook.Lock.Waiter
import Passbook.Money.Amount
import Passbook.Money.Column
import Passbook.Notice
import Passbook.Policy
import Passbook.Procedure
import Passbook.Proofs.Binary64.Nearest
import Passbook.Proofs.Binary64.Shortest
import Passbook.Proofs.Binary64.Text
import Passbook.Proofs.Clients.Alone
import Passbook.Proofs.Clients.Bank
import Passbook.Proofs.Clients.Drawing
import Passbook.Proofs.Clients.Fair
import Passbook.Proofs.Clients.Lifecycle
import Passbook.Proofs.Clients.LoneCall
import Passbook.Proofs.Clients.Serial
import Passbook.Proofs.Clients.Serving
import Passbook.Proofs.Clients.Turn
import Passbook.Proofs.Clients.Units
import Passbook.Proofs.Clients.Withdrawals
import Passbook.Proofs.Clients.World
import Passbook.Proofs.Decimal.Figure
import Passbook.Proofs.Decimal.Numeral
import Passbook.Proofs.Decimal.Quantized
import Passbook.Proofs.Failures.Post
import Passbook.Proofs.Failures.Service
import Passbook.Proofs.Failures.Units
import Passbook.Proofs.History.AppendOnly
import Passbook.Proofs.History.AuditTrail
import Passbook.Proofs.History.Growth
import Passbook.Proofs.History.ReadBack
import Passbook.Proofs.History.Steps
import Passbook.Proofs.History.Versions
import Passbook.Proofs.History.Walks
import Passbook.Proofs.Json.Literal
import Passbook.Proofs.Json.Object
import Passbook.Proofs.Ledger.Application
import Passbook.Proofs.Ledger.Attempt
import Passbook.Proofs.Ledger.Checks
import Passbook.Proofs.Ledger.Exactness
import Passbook.Proofs.Ledger.Execution
import Passbook.Proofs.Ledger.Isolation
import Passbook.Proofs.Ledger.Locked
import Passbook.Proofs.Ledger.Outcome
import Passbook.Proofs.Ledger.Parts
import Passbook.Proofs.Ledger.Post
import Passbook.Proofs.Ledger.Posted
import Passbook.Proofs.Ledger.Progress
import Passbook.Proofs.Ledger.Rebalancing
import Passbook.Proofs.Ledger.Reconciliation
import Passbook.Proofs.Ledger.Recorded
import Passbook.Proofs.Ledger.Request
import Passbook.Proofs.Ledger.Retries
import Passbook.Proofs.Ledger.Service
import Passbook.Proofs.Ledger.Settlement
import Passbook.Proofs.Ledger.Undisturbed
import Passbook.Proofs.Locks.Acquisition
import Passbook.Proofs.Locks.Alone
import Passbook.Proofs.Locks.Client
import Passbook.Proofs.Locks.Crowd
import Passbook.Proofs.Locks.Holding
import Passbook.Proofs.Locks.Order
import Passbook.Proofs.Locks.Passage
import Passbook.Proofs.Locks.Table
import Passbook.Proofs.Money.Cents
import Passbook.Proofs.Money.Denoted
import Passbook.Proofs.Money.Exact
import Passbook.Proofs.Money.Judged
import Passbook.Proofs.Money.Order
import Passbook.Proofs.Money.RoundTrip
import Passbook.Proofs.Money.Text
import Passbook.Proofs.Money.Worth
import Passbook.Proofs.Procedure
import Passbook.Proofs.Storage.Agreement
import Passbook.Proofs.Storage.Balances
import Passbook.Proofs.Storage.Calls
import Passbook.Proofs.Storage.Calm
import Passbook.Proofs.Storage.Frame
import Passbook.Proofs.Storage.Lookups
import Passbook.Proofs.Storage.Mirror
import Passbook.Proofs.Storage.Numbers
import Passbook.Proofs.Storage.Parts
import Passbook.Proofs.Storage.Plans
import Passbook.Proofs.Storage.Rewrites
import Passbook.Proofs.Storage.Survival
import Passbook.Proofs.Storage.Tables
import Passbook.Proofs.Storage.Writes
import Passbook.Proofs.Text.Digits
import Passbook.Proofs.Text.Encoding
import Passbook.Proofs.Web.Amount
import Passbook.Proofs.Web.Post
import Passbook.Schema
import Passbook.Schema.Target
import Passbook.Settings
import Passbook.Storage.Accounts
import Passbook.Storage.Database
import Passbook.Storage.Disruption
import Passbook.Storage.Log
import Passbook.Storage.Session
import Passbook.Text.Blank
import Passbook.Text.Digit
import Passbook.Text.Encoding
import Passbook.Text.Printable
import Passbook.Text.Quoted
import Passbook.Text.Scheme
import Passbook.Transaction.Kind
import Passbook.Transaction.Record
import Passbook.Transaction.Reference
import Passbook.Value.Basic
import Passbook.Value.Measure
import Passbook.Value.Number
import Passbook.Verbosity
import Passbook.Web.Address
import Passbook.Web.Answer
import Passbook.Web.Field
import Passbook.Web.Request
import Passbook.Web.Route
import Passbook.Web.Site
import Passbook.Web.Whole
