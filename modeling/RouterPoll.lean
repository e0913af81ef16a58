import RouterPoll.Adapter.Standard
import RouterPoll.Bench.Agents
import RouterPoll.Bench.Services
import RouterPoll.Bench.System
import RouterPoll.Device.Description
import RouterPoll.Main
import RouterPoll.Proofs.Adapter.Selection
import RouterPoll.Proofs.Device.Secrets
import RouterPoll.Proofs.Pipeline.Free
import RouterPoll.Proofs.Pipeline.Outcome
import RouterPoll.Proofs.Pipeline.Pass
import RouterPoll.Proofs.Pipeline.Room
import RouterPoll.Proofs.Pipeline.Settlement
import RouterPoll.Proofs.Pipeline.Succession
import RouterPoll.Proofs.RouterOs.Partial
import RouterPoll.Proofs.RouterOs.Result
import RouterPoll.Proofs.RouterOs.Uptime
import RouterPoll.Proofs.Snmp.Column
import RouterPoll.Proofs.Snmp.Interfaces
import RouterPoll.Proofs.Snmp.Partial
import RouterPoll.Proofs.Snmp.Retries
import RouterPoll.Proofs.Store.Agreement
import RouterPoll.Proofs.Store.Database
import RouterPoll.Proofs.Store.Dueness
import RouterPoll.Proofs.Store.Entities
import RouterPoll.Proofs.Store.Failures
import RouterPoll.Proofs.Store.Loading
import RouterPoll.Proofs.Store.Newest
import RouterPoll.Proofs.Store.Overflow
import RouterPoll.Proofs.Store.Point
import RouterPoll.Proofs.Store.Sessions
import RouterPoll.Proofs.Store.Upsert
import RouterPoll.Report.Pipeline
import RouterPoll.Report.Store
import RouterPoll.Settings.Document
import RouterPoll.Store.Document
import RouterPoll.Store.Tampering
