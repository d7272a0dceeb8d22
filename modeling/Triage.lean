import Triage.Action.Plan
import Triage.Action.Reconcile
import Triage.Console.Checkup
import Triage.Console.Help
import Triage.Console.Invocation
import Triage.Console.Machine
import Triage.Console.Run
import Triage.Error
import Triage.Host.Composition
import Triage.Host.CompositionTable
import Triage.Host.Direction
import Triage.Host.Label
import Triage.Host.LabelTable
import Triage.Host.Name
import Triage.Host.Numeric
import Triage.Host.Punycode
import Triage.Journal
import Triage.Json.Agreement
import Triage.Json.Body
import Triage.Json.Display
import Triage.Json.Parts
import Triage.Json.Reader
import Triage.Json.Room
import Triage.Json.Value
import Triage.Json.Writer
import Triage.Keyed
import Triage.Main
import Triage.Notification.Basic
import Triage.Notification.Description
import Triage.Notification.Payload
import Triage.Notification.Row
import Triage.Notification.Schema
import Triage.Number.Binary64
import Triage.Number.DecimalText
import Triage.Number.IntegerText
import Triage.Number.Shortest
import Triage.Number.Width
import Triage.Proofs.Time.Calendar
import Triage.Remote.Address
import Triage.Remote.Client
import Triage.Remote.Profile
import Triage.Remote.Wire
import Triage.Report.Age
import Triage.Report.Given
import Triage.Report.Health
import Triage.Report.Listing
import Triage.Report.Overview
import Triage.Report.Style
import Triage.Resync.Probe
import Triage.Resync.Protocol
import Triage.Resync.Session
import Triage.Resync.Setup
import Triage.Schema.Checked
import Triage.Schema.Field
import Triage.Screen.App
import Triage.Screen.Event
import Triage.Screen.Sidebar
import Triage.Screen.State
import Triage.Screen.Transition
import Triage.Search.Criteria
import Triage.Search.Facet
import Triage.Search.Given
import Triage.Search.Pinned
import Triage.Search.Terms
import Triage.Settings.Location
import Triage.Settings.Merge
import Triage.Settings.Surroundings
import Triage.Store.Access
import Triage.Store.File
import Triage.Store.Given
import Triage.Store.SyncStatus
import Triage.Store.Table
import Triage.Store.Totals
import Triage.Store.Transaction
import Triage.Summary
import Triage.Text.Base64
import Triage.Text.Basic
import Triage.Text.Case
import Triage.Text.CaseTable
import Triage.Text.CharClass
import Triage.Text.ClassTable
import Triage.Text.Encoding
import Triage.Text.Halves
import Triage.Text.Hex
import Triage.Text.Percent
import Triage.Text.Quoted
import Triage.Time.Calendar
import Triage.Time.Duration
import Triage.Time.FieldText
import Triage.Time.Moment
import Triage.Time.Timestamp
import Triage.Toml.Document
import Triage.Toml.Moment
import Triage.Toml.Scalar
import Triage.Proofs.Time.IsoText
import Triage.Proofs.Notification.Stored
import Triage.Proofs.Store.Sound
import Triage.Proofs.Keyed
import Triage.Proofs.Store.Runs
import Triage.Proofs.Resync.Session
import Triage.Proofs.Resync.AllOrNothing
import Triage.Proofs.Store.Assign
import Triage.Proofs.Action.Plan
import Triage.Proofs.Action.Session
import Triage.Proofs.Action.World
import Triage.Proofs.Action.Tabs
import Triage.Proofs.Action.Apart
import Triage.Proofs.Action.Independent
import Triage.Proofs.Screen.Answer
import Triage.Proofs.Screen.Cursor
import Triage.Proofs.Screen.Run
import Triage.Proofs.Screen.Mirror
import Triage.Proofs.Screen.Account
import Triage.Proofs.Screen.Settlement
import Triage.Proofs.Screen.Rollback
import Triage.Proofs.Screen.SidebarCursor
import Triage.Proofs.Store.Order
import Triage.Proofs.Store.Reachable
import Triage.Proofs.Store.Views
import Triage.Proofs.Store.LastCopy
import Triage.Proofs.Screen.Facets
import Triage.Proofs.Screen.FacetCounts
import Triage.Proofs.Store.Atomic
import Triage.Proofs.Store.Bookkeeping
import Triage.Proofs.Remote.Mutation
import Triage.Proofs.Screen.CarryOut
import Triage.Proofs.Console.Machine
import Triage.Proofs.Console.Change
import Triage.Proofs.Console.Orders
import Triage.Proofs.Console.Ending
import Triage.Proofs.Console.Escapes
import Triage.Proofs.Text.Words
import Triage.Proofs.Search.Terms
import Triage.Proofs.Search.Join
import Triage.Proofs.Search.Aspects
import Triage.Proofs.Search.Conjunction
import Triage.Proofs.Search.Opposites
import Triage.Proofs.Search.Written
import Triage.Proofs.Search.Merge
import Triage.Proofs.Search.LeftOver
import Triage.Proofs.Search.Literal
import Triage.Proofs.Remote.Route
import Triage.Proofs.Remote.Endings
import Triage.Proofs.Notification.RoundTrip
import Triage.Proofs.Notification.Payload
import Triage.Proofs.Store.Received
import Triage.Proofs.Store.Merge
import Triage.Proofs.Remote.Sending
import Triage.Proofs.Resync.Waiting
import Triage.Proofs.Remote.Pages
import Triage.Proofs.Screen.Mutations
import Triage.Proofs.Search.FieldValues
import Triage.Proofs.Json.Paths
import Triage.Proofs.Settings.Merge
import Triage.Proofs.Toml.Tables
import Triage.Proofs.Settings.Token
import Triage.Proofs.Screen.SidebarWalk
import Triage.Proofs.Screen.FacetSums
import Triage.Proofs.Number.Digits
import Triage.Proofs.Number.Rounding
import Triage.Proofs.Report.Age
import Triage.Proofs.Report.Colour
import Triage.Proofs.Console.Pinned
