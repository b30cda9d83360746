import Testbed.Prog
import Testbed.Time.Duration
import Testbed.Text.Quoted
import Testbed.Context
import Testbed.Launch.Request
import Testbed.Log.Record
import Testbed.Path
import Testbed.Launch.Service
import Testbed.Fixture
import Testbed.FixtureSet
import Testbed.Session.Contexts
import Testbed.Session.Run
import Testbed.Docker.Engine
import Testbed.Config.Load
import Testbed.Config.Plan
import Testbed.Simulation.Terminal
import Testbed.Main
import Testbed.Proofs.Monitor
import Testbed.Proofs.Ledger
import Testbed.Proofs.Launching
import Testbed.Proofs.Release
import Testbed.Proofs.Bootstrap
import Testbed.Proofs.Starts
import Testbed.Proofs.Provision
import Testbed.Proofs.Restoration
import Testbed.Proofs.Lives
import Testbed.Proofs.Reports
import Testbed.Proofs.Sweeping
import Testbed.Proofs.Occupancy
import Testbed.Proofs.Clearing
import Testbed.Proofs.Dialogue
import Testbed.Proofs.Protocol
import Testbed.Proofs.Vigilance
import Testbed.Proofs.Answers
import Testbed.Proofs.Scenes
import Testbed.Proofs.Conduct
import Testbed.Proofs.Cancellation
import Testbed.Proofs.Adoption
import Testbed.Proofs.Merging
import Testbed.Proofs.Endpoints
import Testbed.Proofs.ClientRuns
import Testbed.Proofs.Undoing
import Testbed.Proofs.Presence
import Testbed.Proofs.Resistance
import Testbed.Proofs.Teardown
import Testbed.Proofs.Extension
import Testbed.Proofs.Requests
import Testbed.Proofs.Joining
import Testbed.Proofs.Freshness
import Testbed.Proofs.Chores
import Testbed.Proofs.Disposal
import Testbed.Proofs.Delivery
import Testbed.Proofs.Credentials
import Testbed.Proofs.ClientEnds
import Testbed.Proofs.Atomicity
import Testbed.Proofs.NotFound
import Testbed.Proofs.ArgumentReading
import Testbed.Proofs.TimestampReading
import Testbed.Proofs.LogReading
import Testbed.Proofs.NormalForm
import Testbed.Proofs.Polling
import Testbed.Proofs.Sleeping
import Testbed.Proofs.Retries
import Testbed.Proofs.PortReading
import Testbed.Proofs.EngineHost
import Testbed.Proofs.Families
import Testbed.Proofs.Wiring
