import Switchboard.Board.Assembly
import Switchboard.Json.Writer
import Switchboard.Proofs.Board.Transparency
import Switchboard.Proofs.Caching.Staleness
import Switchboard.Proofs.Layered.StaleCopies
import Switchboard.Proofs.Secured.Escalation
import Switchboard.Settings.Sources
import Switchboard.Strategy.Catalogue
import Switchboard.SweptCache
import Switchboard.Text.Unseen
import Switchboard.Wire.Calls
import Switchboard.Wire.Documents
import Switchboard.Wire.Reports
import Switchboard.Proofs.Cache.Alive
import Switchboard.Proofs.Cache.Eager
import Switchboard.Proofs.Cache.Ledger
import Switchboard.Proofs.Cache.Refinement
import Switchboard.Proofs.Schedule.Conservation
import Switchboard.Proofs.Notices.Calls
import Switchboard.Proofs.Notices.Reported
import Switchboard.Proofs.Notices.Replay
import Switchboard.Proofs.Repository.Leads
import Switchboard.Proofs.Notices.Log
import Switchboard.Proofs.Store.Representation
import Switchboard.Proofs.Board.Reload
import Switchboard.Proofs.Board.Isolation
import Switchboard.Proofs.Board.Layering
import Switchboard.Proofs.Settings.Fields
import Switchboard.Proofs.Settings.Precedence
import Switchboard.Proofs.Settings.Variables
import Switchboard.Proofs.Layered.Failures
import Switchboard.Proofs.Layered.Coherent
import Switchboard.Proofs.Evaluation.Looks
import Switchboard.Proofs.Evaluation.BulkChecks
import Switchboard.Proofs.Evaluation.Chain
import Switchboard.Proofs.Schedule.Rounds
import Switchboard.Proofs.Schedule.Histories
import Switchboard.Proofs.Schedule.Draining
import Switchboard.Proofs.Board.Final
import Switchboard.Proofs.Board.Usage
import Switchboard.Proofs.Access.History
import Switchboard.Proofs.Store.OneByOne
import Switchboard.Proofs.Caching.Fill
import Switchboard.Proofs.Board.Online
import Switchboard.Proofs.Board.Refreshes
import Switchboard.Proofs.Repository.Undated
import Switchboard.Proofs.Repository.GroupToggles
import Switchboard.Proofs.Layered.GroupToggles
import Switchboard.Proofs.Text.Trimmed
import Switchboard.Proofs.Number.Digits
import Switchboard.Proofs.Time.Calendar
import Switchboard.Proofs.Time.Rfc3339
import Switchboard.Proofs.Value.Shown
import Switchboard.Proofs.Layered.ValueChanges
import Switchboard.Proofs.Caching.Retention
import Switchboard.Proofs.Evaluation.Creation
