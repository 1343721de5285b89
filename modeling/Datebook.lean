import Datebook.Alert.Wire
import Datebook.Clock
import Datebook.Contract.Defect
import Datebook.Json.Record
import Datebook.Queue.Recording
import Datebook.Queue.Subscription
import Datebook.Retry
import Datebook.Scheduler
import Datebook.Settings.EnvFile
import Datebook.Sql.Server
import Datebook.Proofs.Store.Invariant
import Datebook.Proofs.Store.Agenda
import Datebook.Proofs.Store.Outcome
import Datebook.Proofs.Store.Listing
import Datebook.Proofs.Number.Double
import Datebook.Proofs.Settings.Period
import Datebook.Proofs.Text.Utf8
import Datebook.Proofs.Time.Civil
import Datebook.Proofs.Time.Stamp
import Datebook.Proofs.Alert.Wire
import Datebook.Proofs.Scheduler.Frame
import Datebook.Proofs.Scheduler.Reminders
import Datebook.Proofs.Scheduler.Course
import Datebook.Proofs.Scheduler.Progress
import Datebook.Proofs.Scheduler.Elapsed
import Datebook.Proofs.Scheduler.Phase
import Datebook.Proofs.Scheduler.Lifecycle
import Datebook.Proofs.Scheduler.Series
import Datebook.Proofs.Scheduler.Record
import Datebook.Proofs.Scheduler.Pace
import Datebook.Proofs.Scheduler.Overlap
import Datebook.Proofs.Store.Race
import Datebook.Proofs.Store.Isolation
import Datebook.Proofs.Store.Rounding
import Datebook.Proofs.Sql.Tables
import Datebook.Proofs.Sql.Interval
import Datebook.Proofs.Sql.Rows
import Datebook.Proofs.Sql.Play
import Datebook.Proofs.Sql.Agreement
import Datebook.Proofs.Sql.Database
import Datebook.Proofs.Sql.Due
import Datebook.Proofs.Sql.Update
import Datebook.Proofs.Queue.Subscription
import Datebook.Proofs.Scheduler.Secrecy
import Datebook.Proofs.Json.Record
import Datebook.Proofs.Retry.Fixed
import Datebook.Proofs.Sql.Contention
import Datebook.Proofs.Sql.Startup
import Datebook.Proofs.Alert.Format
import Datebook.Proofs.Contract.Guests
import Datebook.Proofs.Contract.Timetable
import Datebook.Proofs.Contract.Rules
import Datebook.Proofs.Contract.Suite
import Datebook.Proofs.Sql.Codec
import Datebook.Proofs.Sql.Lead
import Datebook.Proofs.Event.Reminder
