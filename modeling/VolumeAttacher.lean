import VolumeAttacher.Cluster.Api
import VolumeAttacher.Cluster.Informer
import VolumeAttacher.Cluster.RequestRate
import VolumeAttacher.Cluster.Store
import VolumeAttacher.Csi.Address
import VolumeAttacher.Csi.Attaching
import VolumeAttacher.Csi.Capability
import VolumeAttacher.Csi.CapabilityForm
import VolumeAttacher.Csi.Client
import VolumeAttacher.Csi.Connection
import VolumeAttacher.Csi.DriverName
import VolumeAttacher.Csi.Encoding
import VolumeAttacher.Csi.Error
import VolumeAttacher.Csi.ErrorForm
import VolumeAttacher.Csi.Identity
import VolumeAttacher.Csi.LogLine
import VolumeAttacher.Csi.Message
import VolumeAttacher.Csi.MessageForm
import VolumeAttacher.Failure
import VolumeAttacher.FailureForm
import VolumeAttacher.Http.Route
import VolumeAttacher.Http.Server
import VolumeAttacher.Json.Basic
import VolumeAttacher.Json.Fields
import VolumeAttacher.Json.MergePatch
import VolumeAttacher.Json.Parser
import VolumeAttacher.Json.Printer
import VolumeAttacher.Main
import VolumeAttacher.Metrics
import VolumeAttacher.Net.Authority
import VolumeAttacher.Net.Endpoint
import VolumeAttacher.Net.Uri
import VolumeAttacher.Number.Binary
import VolumeAttacher.Number.Numeral
import VolumeAttacher.Number.Rounding
import VolumeAttacher.Number.Single
import VolumeAttacher.Number.Stepwise
import VolumeAttacher.Object.Format
import VolumeAttacher.Object.Metadata
import VolumeAttacher.Object.Node
import VolumeAttacher.Object.NodeId
import VolumeAttacher.Object.NodeParts
import VolumeAttacher.Object.PersistentVolume
import VolumeAttacher.Object.Publishing
import VolumeAttacher.Object.Shape
import VolumeAttacher.Object.VolumeAttachment
import VolumeAttacher.Object.VolumeParts
import VolumeAttacher.Program
import VolumeAttacher.Proofs.Cluster.Archive
import VolumeAttacher.Proofs.Cluster.Chronicle
import VolumeAttacher.Proofs.Cluster.Contents
import VolumeAttacher.Proofs.Cluster.Installation
import VolumeAttacher.Proofs.Cluster.Mirror
import VolumeAttacher.Proofs.Cluster.Scene
import VolumeAttacher.Proofs.Cluster.Simulated
import VolumeAttacher.Proofs.Cluster.SimulatedSite
import VolumeAttacher.Proofs.Cluster.Site
import VolumeAttacher.Proofs.Cluster.Writes
import VolumeAttacher.Proofs.Csi.Addresses
import VolumeAttacher.Proofs.Csi.Listing
import VolumeAttacher.Proofs.Csi.LogLines
import VolumeAttacher.Proofs.Csi.Losses
import VolumeAttacher.Proofs.Csi.Outlines
import VolumeAttacher.Proofs.Csi.Reading
import VolumeAttacher.Proofs.Http.Routes
import VolumeAttacher.Proofs.Http.Serving
import VolumeAttacher.Proofs.Json.MergePatch
import VolumeAttacher.Proofs.Json.Ordered
import VolumeAttacher.Proofs.Json.Untouched
import VolumeAttacher.Proofs.Object.Finalizers
import VolumeAttacher.Proofs.Program.Conduct
import VolumeAttacher.Proofs.Program.Ends
import VolumeAttacher.Proofs.Program.Expansion
import VolumeAttacher.Proofs.Program.Heeding
import VolumeAttacher.Proofs.Program.Lockstep
import VolumeAttacher.Proofs.Program.Logged
import VolumeAttacher.Proofs.Program.Requests
import VolumeAttacher.Proofs.Program.System
import VolumeAttacher.Proofs.Queue.Delays
import VolumeAttacher.Proofs.Queue.Delivery
import VolumeAttacher.Proofs.Queue.Doubling
import VolumeAttacher.Proofs.Queue.Draining
import VolumeAttacher.Proofs.Queue.History
import VolumeAttacher.Proofs.Queue.Operations
import VolumeAttacher.Proofs.Queue.Punctuality
import VolumeAttacher.Proofs.Queue.Timed
import VolumeAttacher.Proofs.Queue.Wakefulness
import VolumeAttacher.Proofs.Queue.Waking
import VolumeAttacher.Proofs.Reconcile.Action
import VolumeAttacher.Proofs.Reconcile.Attaching
import VolumeAttacher.Proofs.Reconcile.CachedNode
import VolumeAttacher.Proofs.Reconcile.Calls
import VolumeAttacher.Proofs.Reconcile.Concurrency
import VolumeAttacher.Proofs.Reconcile.Courses
import VolumeAttacher.Proofs.Reconcile.Crew
import VolumeAttacher.Proofs.Reconcile.Detaching
import VolumeAttacher.Proofs.Reconcile.Edits
import VolumeAttacher.Proofs.Reconcile.Effects
import VolumeAttacher.Proofs.Reconcile.Endings
import VolumeAttacher.Proofs.Reconcile.Exposure
import VolumeAttacher.Proofs.Reconcile.Fates
import VolumeAttacher.Proofs.Reconcile.Frame
import VolumeAttacher.Proofs.Reconcile.Guarding
import VolumeAttacher.Proofs.Reconcile.Heeding
import VolumeAttacher.Proofs.Reconcile.Instructions
import VolumeAttacher.Proofs.Reconcile.Marks
import VolumeAttacher.Proofs.Reconcile.Naming
import VolumeAttacher.Proofs.Reconcile.Recovery
import VolumeAttacher.Proofs.Reconcile.Remit
import VolumeAttacher.Proofs.Reconcile.Repetition
import VolumeAttacher.Proofs.Reconcile.Retrying
import VolumeAttacher.Proofs.Reconcile.Returning
import VolumeAttacher.Proofs.Reconcile.Secrecy
import VolumeAttacher.Proofs.Reconcile.Serialized
import VolumeAttacher.Proofs.Reconcile.Sharing
import VolumeAttacher.Proofs.Reconcile.Stages
import VolumeAttacher.Proofs.Reconcile.Strays
import VolumeAttacher.Proofs.Reconcile.Suppression
import VolumeAttacher.Proofs.Reconcile.Survey
import VolumeAttacher.Proofs.Reconcile.Sweeping
import VolumeAttacher.Proofs.Reconcile.Target
import VolumeAttacher.Proofs.Reconcile.Upkeep
import VolumeAttacher.Proofs.Reconcile.Veil
import VolumeAttacher.Proofs.Reconcile.Verdicts
import VolumeAttacher.Proofs.Reconcile.Versions
import VolumeAttacher.Proofs.Settings.LeaseTiming
import VolumeAttacher.Proofs.Settings.Retries
import VolumeAttacher.Proofs.Simulation.Alike
import VolumeAttacher.Proofs.Simulation.Ending
import VolumeAttacher.Proofs.Simulation.Secrecy
import VolumeAttacher.Proofs.Simulation.Shift
import VolumeAttacher.Proofs.Simulation.Timing
import VolumeAttacher.Proofs.Simulation.Undivided
import VolumeAttacher.Proofs.Text.Legible
import VolumeAttacher.Proofs.Time.DoublePrecision
import VolumeAttacher.Proofs.Wire.Foreign
import VolumeAttacher.Proofs.Wire.Numeral
import VolumeAttacher.Proofs.Wire.Outline
import VolumeAttacher.Proofs.Wire.Slots
import VolumeAttacher.Queue.Backoff
import VolumeAttacher.Queue.Signal
import VolumeAttacher.Queue.WorkQueue
import VolumeAttacher.Reconcile.Attachment
import VolumeAttacher.Reconcile.Controller
import VolumeAttacher.Reconcile.Handler
import VolumeAttacher.Reconcile.Request
import VolumeAttacher.Reconcile.Trivial
import VolumeAttacher.Scenario.Attaching
import VolumeAttacher.Scenario.Client
import VolumeAttacher.Scenario.Connection
import VolumeAttacher.Scenario.Controller
import VolumeAttacher.Scenario.Election
import VolumeAttacher.Scenario.Queue
import VolumeAttacher.Scenario.Report
import VolumeAttacher.Scenario.Session
import VolumeAttacher.Scenario.Steps
import VolumeAttacher.Scenario.Watch
import VolumeAttacher.Scenario.World
import VolumeAttacher.Settings.Attaching
import VolumeAttacher.Settings.CommandLine
import VolumeAttacher.Settings.Form
import VolumeAttacher.Settings.LeaderElection
import VolumeAttacher.Simulation.ControllerRun
import VolumeAttacher.Simulation.Election
import VolumeAttacher.Simulation.QueueRun
import VolumeAttacher.Simulation.Script
import VolumeAttacher.Simulation.Session
import VolumeAttacher.Simulation.Watching
import VolumeAttacher.Simulation.World
import VolumeAttacher.Table
import VolumeAttacher.Text.Blank
import VolumeAttacher.Text.Bytes
import VolumeAttacher.Text.Quoted
import VolumeAttacher.Text.Visible
import VolumeAttacher.Time.Agenda
import VolumeAttacher.Time.DoublePrecision
import VolumeAttacher.Time.Duration
import VolumeAttacher.Time.Spelled
import VolumeAttacher.Time.Timestamp
import VolumeAttacher.Wire.Fault
import VolumeAttacher.Wire.Field
import VolumeAttacher.Wire.Message
import VolumeAttacher.Wire.Varint
