import Turnstile.Admission
import Turnstile.Agent
import Turnstile.CommandLine
import Turnstile.Config
import Turnstile.Config.File
import Turnstile.Controller.Tasks
import Turnstile.Controller.Triggers
import Turnstile.Decimal.Remainder
import Turnstile.Decimal.Shortest
import Turnstile.Digest.Block
import Turnstile.Digest.Hmac
import Turnstile.Digest.Sha1
import Turnstile.Digest.Sha256
import Turnstile.Digest.Sha512
import Turnstile.Faults
import Turnstile.Filter.Check
import Turnstile.Filter.Engine
import Turnstile.Filter.Eval
import Turnstile.Filter.Expr
import Turnstile.Filter.Lexer
import Turnstile.Filter.Parser
import Turnstile.Filter.Transform
import Turnstile.Http.Message
import Turnstile.Http.Routes
import Turnstile.Http.Target
import Turnstile.Json.Basic
import Turnstile.Json.Reader
import Turnstile.Json.Wire
import Turnstile.Json.Writer
import Turnstile.LogFormat
import Turnstile.Main
import Turnstile.Manifest.Apply
import Turnstile.Manifest.Basic
import Turnstile.Manifest.Check
import Turnstile.Manifest.Files
import Turnstile.Object.Key
import Turnstile.Object.Metadata
import Turnstile.Object.Uid
import Turnstile.Procedure
import Turnstile.Proofs.Admission.Count
import Turnstile.Proofs.Admission.Crew
import Turnstile.Proofs.Admission.Expiry
import Turnstile.Proofs.Admission.Idle
import Turnstile.Proofs.Admission.Line
import Turnstile.Proofs.Admission.Moves
import Turnstile.Proofs.Admission.Order
import Turnstile.Proofs.Admission.Overlap
import Turnstile.Proofs.Admission.Quota
import Turnstile.Proofs.Admission.Requirements
import Turnstile.Proofs.Admission.Worker
import Turnstile.Proofs.Attempt
import Turnstile.Proofs.Changes
import Turnstile.Proofs.Controller.Coverage
import Turnstile.Proofs.Controller.Following
import Turnstile.Proofs.Controller.Freed
import Turnstile.Proofs.Controller.Loop
import Turnstile.Proofs.Controller.Publishing
import Turnstile.Proofs.Controller.Running
import Turnstile.Proofs.Controller.Serving
import Turnstile.Proofs.Controller.Settling
import Turnstile.Proofs.Controller.Waking
import Turnstile.Proofs.Filter.Boolean
import Turnstile.Proofs.Filter.Engine
import Turnstile.Proofs.Filter.Variables
import Turnstile.Proofs.Interleaved
import Turnstile.Proofs.Json.Text
import Turnstile.Proofs.Json.Wire
import Turnstile.Proofs.Manifest
import Turnstile.Proofs.Manifest.Applying
import Turnstile.Proofs.Object.Uid
import Turnstile.Proofs.Object.Wire
import Turnstile.Proofs.Procedure
import Turnstile.Proofs.Queue
import Turnstile.Proofs.Queue.HandOut
import Turnstile.Proofs.Reconcile.Calls
import Turnstile.Proofs.Reconcile.Change
import Turnstile.Proofs.Reconcile.Ending
import Turnstile.Proofs.Reconcile.Heeds
import Turnstile.Proofs.Reconcile.Noted
import Turnstile.Proofs.Reconcile.Outputs
import Turnstile.Proofs.Reconcile.Pauses
import Turnstile.Proofs.Reconcile.Rounds
import Turnstile.Proofs.Reconcile.Settle
import Turnstile.Proofs.Reconcile.Settled
import Turnstile.Proofs.Reconcile.Stopping
import Turnstile.Proofs.Reconcile.Tending
import Turnstile.Proofs.Reconcile.Visit
import Turnstile.Proofs.Reconcile.Writes
import Turnstile.Proofs.Since
import Turnstile.Proofs.SortedMap
import Turnstile.Proofs.Store
import Turnstile.Proofs.Store.Copies
import Turnstile.Proofs.Store.Forms
import Turnstile.Proofs.Store.History
import Turnstile.Proofs.Store.Keeping
import Turnstile.Proofs.Store.Versions
import Turnstile.Proofs.Store.Watching
import Turnstile.Proofs.Task.Backoff
import Turnstile.Proofs.Task.Coherence
import Turnstile.Proofs.Task.Conditions
import Turnstile.Proofs.Task.History
import Turnstile.Proofs.Task.Lifecycle
import Turnstile.Proofs.Task.Marking
import Turnstile.Proofs.Task.Queued
import Turnstile.Proofs.Task.Retries
import Turnstile.Proofs.Task.Transitions
import Turnstile.Proofs.Task.Wire
import Turnstile.Proofs.Template.Filling
import Turnstile.Proofs.Template.Layout
import Turnstile.Proofs.Template.Literal
import Turnstile.Proofs.Template.Pipeline
import Turnstile.Proofs.Template.Substitution
import Turnstile.Proofs.Template.Terms
import Turnstile.Proofs.Template.Trimming
import Turnstile.Proofs.Text.Blank
import Turnstile.Proofs.Text.Hex
import Turnstile.Proofs.Time
import Turnstile.Proofs.Time.Calendar
import Turnstile.Proofs.Time.Rfc3339
import Turnstile.Proofs.Trigger.Wire
import Turnstile.Proofs.Webhook.Accounts
import Turnstile.Proofs.Webhook.Adding
import Turnstile.Proofs.Webhook.Books
import Turnstile.Proofs.Webhook.Checking
import Turnstile.Proofs.Webhook.Credentials
import Turnstile.Proofs.Webhook.Exclusion
import Turnstile.Proofs.Webhook.Judging
import Turnstile.Proofs.Webhook.Ledger
import Turnstile.Proofs.Webhook.Making
import Turnstile.Proofs.Webhook.Owing
import Turnstile.Proofs.Webhook.Path
import Turnstile.Proofs.Webhook.Recording
import Turnstile.Proofs.Webhook.Registry
import Turnstile.Proofs.Webhook.Rejection
import Turnstile.Proofs.Webhook.Replacement
import Turnstile.Proofs.Webhook.Rules
import Turnstile.Proofs.Webhook.Scope
import Turnstile.Proofs.Webhook.Signature
import Turnstile.Proofs.Webhook.Traffic
import Turnstile.Proofs.Webhook.Variables
import Turnstile.Proofs.Webhook.Writes
import Turnstile.Proofs.Workload.Live
import Turnstile.Proofs.Workload.Origin
import Turnstile.Proofs.Workload.Ownership
import Turnstile.Proofs.Workload.Stray
import Turnstile.Proofs.Workload.Watch
import Turnstile.Queue.Basic
import Turnstile.Queue.Line
import Turnstile.Reconcile.Basic
import Turnstile.Reconcile.Status
import Turnstile.Retry
import Turnstile.Secret
import Turnstile.Service
import Turnstile.SortedMap
import Turnstile.Store.Basic
import Turnstile.Store.Kind
import Turnstile.Task.Basic
import Turnstile.Task.Status
import Turnstile.Task.Stop
import Turnstile.Template.Action
import Turnstile.Template.Render
import Turnstile.Text.Blank
import Turnstile.Text.Case
import Turnstile.Text.Hex
import Turnstile.Text.Letter
import Turnstile.Text.Search
import Turnstile.Time.Civil
import Turnstile.Time.Instant
import Turnstile.Time.Rfc3339
import Turnstile.Toml.Reader
import Turnstile.Toml.Table
import Turnstile.Trigger.Basic
import Turnstile.Webhook.Auth
import Turnstile.Webhook.Blueprint
import Turnstile.Webhook.Concurrency
import Turnstile.Webhook.Intake
import Turnstile.Webhook.Path
import Turnstile.Webhook.Registry
import Turnstile.Workload
import Turnstile.Yaml.Node
import Turnstile.Yaml.Token
import Turnstile.Yaml.Value
