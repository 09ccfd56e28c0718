import CrossCall.Abi.Basic
import CrossCall.Abi.Decoder
import CrossCall.Abi.Encoder
import CrossCall.Abi.Event
import CrossCall.Bytes.Basic
import CrossCall.Bytes.Hex
import CrossCall.Bytes.Lemmas
import CrossCall.Chain.Connection
import CrossCall.Chain.Endpoint
import CrossCall.Chain.Registry
import CrossCall.CommandLine.Invocation
import CrossCall.CommandLine.Reader
import CrossCall.CommandLine.Setting
import CrossCall.Config.Configuration
import CrossCall.Config.Error
import CrossCall.Config.Path
import CrossCall.Config.Settings
import CrossCall.Config.Wallet
import CrossCall.Data.Basic
import CrossCall.Data.Json
import CrossCall.Domain.Direction
import CrossCall.Domain.Joining
import CrossCall.Domain.Mapping
import CrossCall.Domain.Name
import CrossCall.Domain.Punycode
import CrossCall.Fulfillment.Call
import CrossCall.Fulfillment.Error
import CrossCall.Fulfillment.Fee
import CrossCall.Fulfillment.Relayer
import CrossCall.Fulfillment.Stage
import CrossCall.Fulfillment.Transaction
import CrossCall.Fulfillment.Validation
import CrossCall.Hash.Keccak
import CrossCall.Hash.Sha256
import CrossCall.Job.Error
import CrossCall.Job.Prove
import CrossCall.Job.Report
import CrossCall.Job.Run
import CrossCall.Job.Transfer
import CrossCall.Journal.Directive
import CrossCall.Journal.Field
import CrossCall.Journal.Filter
import CrossCall.Journal.Line
import CrossCall.Journal.Pattern
import CrossCall.Journal.Settings
import CrossCall.Json.Lexeme
import CrossCall.Json.Reader
import CrossCall.Main
import CrossCall.Message.Attributes
import CrossCall.Message.DecodeError
import CrossCall.Message.Payload
import CrossCall.Message.Posted
import CrossCall.Metrics
import CrossCall.Metrics.Settings
import CrossCall.Node.AccountProof
import CrossCall.Node.Header
import CrossCall.Node.Request
import CrossCall.Node.Session
import CrossCall.Rlp
import CrossCall.Service.Queue
import CrossCall.Service.Router
import CrossCall.Service.Schedule
import CrossCall.Service.Supervisor
import CrossCall.Service.System
import CrossCall.Service.Task
import CrossCall.Service.Watcher
import CrossCall.Service.Worker
import CrossCall.Settlement.Assertion
import CrossCall.Settlement.Bundle
import CrossCall.Settlement.Claim
import CrossCall.Settlement.L1State
import CrossCall.Settlement.Rollup
import CrossCall.Settlement.SlotProof
import CrossCall.Signature.Curve
import CrossCall.Signature.Key
import CrossCall.Signature.Sign
import CrossCall.Text.Blank
import CrossCall.Text.CharSet
import CrossCall.Text.CharTable
import CrossCall.Text.Composition
import CrossCall.Text.Decimal
import CrossCall.Text.IpAddress
import CrossCall.Text.Letter
import CrossCall.Text.Number
import CrossCall.Toml.Date
import CrossCall.Toml.Lexeme
import CrossCall.Toml.Number
import CrossCall.Toml.Reader
import CrossCall.Toml.Table
import CrossCall.Url.Basic
import CrossCall.Url.Host
import CrossCall.Url.Path
import CrossCall.Url.Percent
import CrossCall.Url.Reader
import CrossCall.Word
import CrossCall.Proofs.Abi.RoundTrip
import CrossCall.Proofs.Message.Contents
import CrossCall.Proofs.Message.RoundTrip
import CrossCall.Proofs.Message.Reading
import CrossCall.Proofs.Node.Locality
import CrossCall.Proofs.Fulfillment.Acceptance
import CrossCall.Proofs.Fulfillment.Course
import CrossCall.Proofs.Fulfillment.Roles
import CrossCall.Proofs.Fulfillment.Faithful
import CrossCall.Proofs.Fulfillment.Shapes
import CrossCall.Proofs.Service.Steps
import CrossCall.Proofs.Service.Drain
import CrossCall.Proofs.Service.Follow
import CrossCall.Proofs.Service.SingleWorker
import CrossCall.Proofs.Service.Lanes
import CrossCall.Proofs.Service.PerDestination
import CrossCall.Proofs.Service.Topologies
import CrossCall.Proofs.Service.Accounts
import CrossCall.Proofs.Node.Traces
import CrossCall.Proofs.Rlp.Reader
import CrossCall.Proofs.Fulfillment.Blocks
import CrossCall.Proofs.Settlement.Snapshot
import CrossCall.Proofs.Service.Watching
import CrossCall.Proofs.Service.Runs
import CrossCall.Proofs.Service.Wiring
import CrossCall.Proofs.Service.Calm
import CrossCall.Proofs.Service.Recounting
import CrossCall.Proofs.Service.Custody
import CrossCall.Proofs.Service.Once
import CrossCall.Proofs.Service.Serial
import CrossCall.Proofs.Service.Detours
import CrossCall.Proofs.Service.Backlog
import CrossCall.Proofs.Service.Polling
import CrossCall.Proofs.Service.Junction
import CrossCall.Proofs.Service.Supervision
import CrossCall.Proofs.Service.Replaying
import CrossCall.Proofs.Service.Leaving
import CrossCall.Proofs.Service.Isolation
import CrossCall.Proofs.Settlement.ClaimData
import CrossCall.Proofs.Settlement.Search
import CrossCall.Proofs.Settlement.Values
import CrossCall.Proofs.Config.Validation
import CrossCall.Proofs.Chain.Connecting
import CrossCall.Proofs.Job.Existence
import CrossCall.Proofs.Job.Printing
import CrossCall.Proofs.Job.Starting
import CrossCall.Proofs.Job.Outboxes
import CrossCall.Proofs.Fulfillment.Rewards
import CrossCall.Proofs.Message.Unread
import CrossCall.Proofs.Fulfillment.Defects
import CrossCall.Proofs.Bytes.Hexadecimal
import CrossCall.Proofs.Node.Questions
import CrossCall.Proofs.Settlement.SlotReading
import CrossCall.Proofs.Settlement.Steps
import CrossCall.Proofs.Bytes.Grammar
import CrossCall.Proofs.Rlp.Canonical
import CrossCall.Proofs.Fulfillment.Signing
import CrossCall.Proofs.Chain.Registering
import CrossCall.Proofs.Config.KeyText
import CrossCall.Proofs.Job.Proving
import CrossCall.Proofs.Job.Planning
import CrossCall.Proofs.Job.Gating
import CrossCall.Proofs.Config.Refusal
import CrossCall.Proofs.Message.Totals
import CrossCall.Proofs.Json.Spelling
import CrossCall.Proofs.Json.Nesting
import CrossCall.Proofs.Data.Finding
import CrossCall.Proofs.Settlement.Stored
