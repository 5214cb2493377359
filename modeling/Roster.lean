import Roster.Cache.Coalescing
import Roster.Cache.Contention
import Roster.Cache.Error
import Roster.Cache.Fetchers
import Roster.Cache.Lru
import Roster.Cache.Memo
import Roster.Cache.Recency
import Roster.Cache.Stats
import Roster.Cache.Traffic
import Roster.Character
import Roster.Character.Batch
import Roster.Character.Wire
import Roster.Chunks
import Roster.Database.Custody
import Roster.Database.Failure
import Roster.Database.Journal
import Roster.Database.Pool
import Roster.Database.Row
import Roster.Database.Script
import Roster.Database.Server
import Roster.Database.Statement
import Roster.Database.Store
import Roster.Decimal.Shortest
import Roster.Deployment
import Roster.Freshness
import Roster.Host
import Roster.Host.Direction
import Roster.Host.Ipv4
import Roster.Host.Ipv6
import Roster.Host.Joiner
import Roster.Host.Mapping
import Roster.Host.Mark
import Roster.Host.Name
import Roster.Json.Decode
import Roster.Json.Token
import Roster.Json.Tree
import Roster.Json.Value
import Roster.Listing.Page
import Roster.Listing.Query
import Roster.Listing.Service
import Roster.Listing.Wire
import Roster.LockTable
import Roster.LockTable.Registry
import Roster.Main
import Roster.Message.Chunked
import Roster.Message.Head
import Roster.Message.Header
import Roster.Message.Response
import Roster.Metrics.Exposition
import Roster.Metrics.Labelled
import Roster.Metrics.Registry
import Roster.Problem
import Roster.Proofs.Cache.Accounting
import Roster.Proofs.Cache.Chain
import Roster.Proofs.Cache.Containment
import Roster.Proofs.Cache.Contention
import Roster.Proofs.Cache.Contents
import Roster.Proofs.Cache.Deposits
import Roster.Proofs.Cache.Failures
import Roster.Proofs.Cache.Fetchers
import Roster.Proofs.Cache.Fetching
import Roster.Proofs.Cache.Flights
import Roster.Proofs.Cache.History
import Roster.Proofs.Cache.Index
import Roster.Proofs.Cache.Invalidation
import Roster.Proofs.Cache.Origins
import Roster.Proofs.Cache.Provenance
import Roster.Proofs.Cache.Refinement
import Roster.Proofs.Cache.Remembering
import Roster.Proofs.Cache.Serving
import Roster.Proofs.Cache.Singleflight
import Roster.Proofs.Cache.Slab
import Roster.Proofs.Cache.Sources
import Roster.Proofs.Cache.Steps
import Roster.Proofs.Cache.Traffic
import Roster.Proofs.Cache.Undisturbed
import Roster.Proofs.Character.Batch
import Roster.Proofs.Character.Encoding
import Roster.Proofs.Character.Sparse
import Roster.Proofs.Database.Agreement
import Roster.Proofs.Database.Custody
import Roster.Proofs.Database.Health
import Roster.Proofs.Database.Journal
import Roster.Proofs.Database.Leaks
import Roster.Proofs.Database.Table
import Roster.Proofs.Database.TableServer
import Roster.Proofs.Database.Transactions
import Roster.Proofs.Deployment
import Roster.Proofs.Deployment.Coherence
import Roster.Proofs.Freshness
import Roster.Proofs.Json.Fields
import Roster.Proofs.Json.Legibility
import Roster.Proofs.Json.Reading
import Roster.Proofs.Json.Rendering
import Roster.Proofs.Json.RoundTrip
import Roster.Proofs.Json.Written
import Roster.Proofs.Listing.Arithmetic
import Roster.Proofs.Listing.Encoding
import Roster.Proofs.Listing.Order
import Roster.Proofs.LockTable
import Roster.Proofs.Message.Arrival
import Roster.Proofs.Refresh.Admission
import Roster.Proofs.Refresh.AllOrNothing
import Roster.Proofs.Refresh.Answers
import Roster.Proofs.Refresh.Attempt
import Roster.Proofs.Refresh.Completion
import Roster.Proofs.Refresh.Duty
import Roster.Proofs.Refresh.Enlistment
import Roster.Proofs.Refresh.Exclusion
import Roster.Proofs.Refresh.Fleet
import Roster.Proofs.Refresh.Member
import Roster.Proofs.Refresh.Outliving
import Roster.Proofs.Refresh.Phases
import Roster.Proofs.Refresh.Seeding
import Roster.Proofs.Refresh.Shutdown
import Roster.Proofs.Refresh.Starvation
import Roster.Proofs.Settings
import Roster.Proofs.Source.Answering
import Roster.Proofs.Source.Backoff
import Roster.Proofs.Source.Classification
import Roster.Proofs.Source.Memory
import Roster.Proofs.Source.Pacing
import Roster.Proofs.Source.Pursuit
import Roster.Proofs.Source.RetryAfter
import Roster.Proofs.Source.Stream
import Roster.Proofs.Source.Walking
import Roster.Proofs.Store.Operations
import Roster.Proofs.Store.Paging
import Roster.Proofs.Store.Waiting
import Roster.Proofs.Web.Discretion
import Roster.Refresh.Attempt
import Roster.Refresh.Cycle
import Roster.Refresh.Duty
import Roster.Refresh.Effort
import Roster.Refresh.Fleet
import Roster.Refresh.Outcome
import Roster.Refresh.Policy
import Roster.Refresh.Run
import Roster.Refresh.Tenure
import Roster.Refresh.Wire
import Roster.Refresh.Worker
import Roster.Replica
import Roster.Settings
import Roster.Settings.Environment
import Roster.Settings.Error
import Roster.Settings.Telemetry
import Roster.Simulation.Bench
import Roster.Simulation.CacheTrial
import Roster.Simulation.Cluster
import Roster.Simulation.DatabaseServer
import Roster.Simulation.DatabaseTrial
import Roster.Simulation.Executor
import Roster.Simulation.FaultyStore
import Roster.Simulation.Fixture
import Roster.Simulation.Holding
import Roster.Simulation.Run
import Roster.Simulation.ScriptedSource
import Roster.Simulation.SourceTrial
import Roster.Simulation.WebServer
import Roster.Source.Client
import Roster.Source.Error
import Roster.Source.Http
import Roster.Source.Journey
import Roster.Source.Pursuit
import Roster.Source.Report
import Roster.Source.Retry
import Roster.Source.RetryAfter
import Roster.Source.Status
import Roster.Source.Stream
import Roster.Source.Walk
import Roster.Startup
import Roster.Store.Error
import Roster.Store.Memory
import Roster.Store.Operation
import Roster.Store.Wait
import Roster.Text.Blank
import Roster.Text.Composition
import Roster.Text.FormEncoded
import Roster.Text.LowerCase
import Roster.Text.Numeral
import Roster.Text.Percent
import Roster.Text.Printable
import Roster.Text.Punycode
import Roster.Text.Quoted
import Roster.Text.Utf8
import Roster.Time.Calendar
import Roster.Time.Instant
import Roster.Time.Span
import Roster.Time.Timestamp
import Roster.Url
import Roster.Url.Path
import Roster.Url.Reading
import Roster.Url.Strict
import Roster.Web.Front
import Roster.Web.Handler
import Roster.Web.Health
import Roster.Web.ListingParams
import Roster.Web.Response
import Roster.Web.Route
