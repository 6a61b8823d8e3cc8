import TailnetTargets.Address.Basic
import TailnetTargets.Address.Parser
import TailnetTargets.Address.Printer
import TailnetTargets.Binary64.Basic
import TailnetTargets.Binary64.Shortest
import TailnetTargets.Client.Credentials
import TailnetTargets.Client.LocalApi
import TailnetTargets.Client.PublicAddress
import TailnetTargets.Client.PublicApi
import TailnetTargets.Client.Request
import TailnetTargets.Client.Status
import TailnetTargets.Daemon
import TailnetTargets.Device.Basic
import TailnetTargets.Device.Json
import TailnetTargets.Device.TagSet
import TailnetTargets.Discovery.AccessToken
import TailnetTargets.Discovery.Cache
import TailnetTargets.Discovery.Instant
import TailnetTargets.Discovery.Outcome
import TailnetTargets.Discovery.Schedule
import TailnetTargets.Discovery.Scope
import TailnetTargets.Discovery.Script
import TailnetTargets.Discovery.Source
import TailnetTargets.Discovery.Step
import TailnetTargets.Discovery.Task
import TailnetTargets.Discovery.World
import TailnetTargets.Duration.Basic
import TailnetTargets.Duration.Parser
import TailnetTargets.Duration.Printer
import TailnetTargets.Duration.Unit
import TailnetTargets.Failure
import TailnetTargets.Json.Basic
import TailnetTargets.Json.Decode
import TailnetTargets.Json.Number
import TailnetTargets.Json.Printer
import TailnetTargets.Json.Reader
import TailnetTargets.KeyMap
import TailnetTargets.Log
import TailnetTargets.Main
import TailnetTargets.Message.Basic
import TailnetTargets.Message.Framing
import TailnetTargets.Message.Reply
import TailnetTargets.Message.Visit
import TailnetTargets.Metrics.Exposition
import TailnetTargets.Metrics.Registry
import TailnetTargets.PeerList
import TailnetTargets.Proofs.Discovery.Agreement
import TailnetTargets.Report
import TailnetTargets.Service
import TailnetTargets.Settings.Basic
import TailnetTargets.Settings.CommandLine
import TailnetTargets.Settings.File
import TailnetTargets.Settings.Options
import TailnetTargets.Simulation.Attempt
import TailnetTargets.Simulation.Basic
import TailnetTargets.Simulation.Network
import TailnetTargets.Target.Basic
import TailnetTargets.Target.Filter
import TailnetTargets.Target.Json
import TailnetTargets.Target.Label
import TailnetTargets.Text.Base64
import TailnetTargets.Text.Blank
import TailnetTargets.Text.CaseTable
import TailnetTargets.Text.Digit
import TailnetTargets.Text.Fields
import TailnetTargets.Text.HiddenTable
import TailnetTargets.Text.Lowercase
import TailnetTargets.Text.Quoted
import TailnetTargets.Text.Range
import TailnetTargets.Text.Utf8
import TailnetTargets.Toml.Basic
import TailnetTargets.Toml.Reader
import TailnetTargets.Toml.Scalar
import TailnetTargets.Toml.Text
import TailnetTargets.Url.Basic
import TailnetTargets.Url.Host
import TailnetTargets.Url.Parser
import TailnetTargets.Url.Percent
import TailnetTargets.Url.Punycode
import TailnetTargets.Proofs.Discovery.Turn
import TailnetTargets.Proofs.Discovery.Life
import TailnetTargets.Proofs.Discovery.Commit
import TailnetTargets.Proofs.Discovery.Entry
import TailnetTargets.Proofs.Discovery.Freshness
import TailnetTargets.Proofs.Discovery.RateBound
import TailnetTargets.Proofs.Discovery.FanOut
import TailnetTargets.Proofs.Discovery.Masking
import TailnetTargets.Proofs.Discovery.Atomicity
import TailnetTargets.Proofs.Json.RoundTrip
import TailnetTargets.Proofs.Target.RoundTrip
import TailnetTargets.Proofs.Discovery.Member
import TailnetTargets.Proofs.Service.Targets
import TailnetTargets.Proofs.Service.Nesting
import TailnetTargets.Proofs.Discovery.Kin
import TailnetTargets.Proofs.Discovery.Recall
import TailnetTargets.Proofs.Discovery.Decline
import TailnetTargets.Proofs.Discovery.Inert
import TailnetTargets.Proofs.Service.Declined
import TailnetTargets.Proofs.Discovery.Exchange
import TailnetTargets.Proofs.Json.Record
import TailnetTargets.Proofs.Device.RoundTrip
import TailnetTargets.Proofs.Address.RoundTrip
import TailnetTargets.Proofs.Target.Filter
import TailnetTargets.Proofs.Service.Body
import TailnetTargets.Proofs.Discovery.Queue
import TailnetTargets.Proofs.Discovery.Starts
import TailnetTargets.Proofs.Discovery.SingleFlight
import TailnetTargets.Proofs.Metrics.Meter
import TailnetTargets.Proofs.Discovery.Bill
import TailnetTargets.Proofs.Discovery.Ledger
import TailnetTargets.Proofs.Service.Conserved
import TailnetTargets.Proofs.Toml.Keys
import TailnetTargets.Proofs.Settings.File
import TailnetTargets.Proofs.Settings.Overlay
import TailnetTargets.Proofs.Client.Secrets
import TailnetTargets.Proofs.Discovery.Alike
import TailnetTargets.Proofs.Service.Secrets
import TailnetTargets.Proofs.Metrics.Totals
import TailnetTargets.Proofs.Metrics.Lines
import TailnetTargets.Proofs.Discovery.Account
import TailnetTargets.Proofs.Discovery.Charge
import TailnetTargets.Proofs.Discovery.Balance
import TailnetTargets.Proofs.Json.Members
import TailnetTargets.Proofs.Json.Number
import TailnetTargets.Proofs.Device.Rewording
import TailnetTargets.Proofs.Client.Listing
import TailnetTargets.Proofs.Target.Labels
import TailnetTargets.Proofs.Text.Digits
import TailnetTargets.Proofs.Address.Grammar
import TailnetTargets.Proofs.Target.OverIPv4
import TailnetTargets.Proofs.Target.TagLabel
import TailnetTargets.Proofs.Client.Base
import TailnetTargets.Proofs.Text.ByteOrder
import TailnetTargets.Proofs.Json.Fields
import TailnetTargets.Proofs.Json.Changes
import TailnetTargets.Proofs.Client.Status
import TailnetTargets.Proofs.Client.Rewording
import TailnetTargets.Proofs.Address.Canonical
import TailnetTargets.Proofs.Client.Addresses
import TailnetTargets.Proofs.Json.Nulls
import TailnetTargets.Proofs.Client.Nulls
