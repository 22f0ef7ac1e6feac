import RentalStatus.Time.Civil
import RentalStatus.Time.Instant
import RentalStatus.Time.Rfc3339
import RentalStatus.Text.Blank
import RentalStatus.Status
import RentalStatus.Role
import RentalStatus.Transition
import RentalStatus.Guard
import RentalStatus.Equipment
import RentalStatus.Error
import RentalStatus.Json.Value
import RentalStatus.Json.Read
import RentalStatus.Store.Basic
import RentalStatus.Store.Events
import RentalStatus.Store.Records
import RentalStatus.Engine
import RentalStatus.Console.Request
import RentalStatus.Console.Encode
import RentalStatus.Console.Rules
import RentalStatus.Console.Seed
import RentalStatus.Store.Relations
import RentalStatus.Console.Scenario
import RentalStatus.Console
import RentalStatus.Text.Numeral
import RentalStatus.Text.Printable
import RentalStatus.Text.Quoted
import RentalStatus.Net.SocketAddr
import RentalStatus.Config
import RentalStatus.Schedule
import RentalStatus.Store.Migration
import RentalStatus.Text.Utf8
import RentalStatus.Text.Properties
import RentalStatus.Net.IdnaMapping
import RentalStatus.Net.Punycode
import RentalStatus.Net.Idna
import RentalStatus.Net.Url
import RentalStatus.Launch.Database
import RentalStatus.Launch
import RentalStatus.Console.Service
import RentalStatus.Web.MediaType
import RentalStatus.Web.StatusChange
import RentalStatus.Web.Exchange
import RentalStatus.Web.Api
import RentalStatus.Json.Encode
import RentalStatus.Web.Router
import RentalStatus.Web.Document
import RentalStatus.Main
import RentalStatus.Proofs.Transaction
import RentalStatus.Proofs.Writes
import RentalStatus.Proofs.History
import RentalStatus.Proofs.AddStatus
import RentalStatus.Proofs.Overdue
import RentalStatus.Proofs.Succession
import RentalStatus.Proofs.Runs
import RentalStatus.Proofs.Coupling
import RentalStatus.Proofs.Terminal
import RentalStatus.Proofs.Sweep
import RentalStatus.Proofs.Versioning
import RentalStatus.Proofs.Checks
import RentalStatus.Proofs.Policy
import RentalStatus.Proofs.Locality
import RentalStatus.Proofs.Independence
import RentalStatus.Proofs.Routes
import RentalStatus.Proofs.OverdueMark
import RentalStatus.Proofs.ReadAccess
import RentalStatus.Proofs.RecordUpdate
import RentalStatus.Proofs.VersionStep
import RentalStatus.Proofs.Settings
