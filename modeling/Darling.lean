import Darling.Boundary.Books
import Darling.Boundary.Cleanup
import Darling.Boundary.Custody
import Darling.Boundary.Errors
import Darling.Boundary.Foreign
import Darling.Boundary.Journal
import Darling.Boundary.Losses
import Darling.Boundary.Machine
import Darling.Boundary.Namespace
import Darling.Boundary.Observing
import Darling.Boundary.Operations
import Darling.Boundary.Owners
import Darling.Boundary.Publication
import Darling.Boundary.Recovery
import Darling.Boundary.Removals
import Darling.Boundary.Standing
import Darling.Boundary.Terminals
import Darling.Bundles.Pack
import Darling.Bundles.PackAtomicity
import Darling.Caches.Collection
import Darling.Caches.Counters
import Darling.Caches.Documents
import Darling.Caches.Snapshots
import Darling.Caches.Verdicts
import Darling.Closure.BindOrder
import Darling.Closure.Chains
import Darling.Closure.Commands
import Darling.Closure.Confinement
import Darling.Closure.Covering
import Darling.Closure.Imports
import Darling.Closure.Loading
import Darling.Closure.Opcodes
import Darling.Closure.Reexports
import Darling.Closure.Withholding
import Darling.Descriptors.Gate
import Darling.Descriptors.Trace
import Darling.Diag.CoreNotes
import Darling.Diag.Excerpts
import Darling.Diag.FrameChain
import Darling.Diag.FutexTraces
import Darling.Diag.LogWatches
import Darling.Diag.MachoOffsets
import Darling.Diag.MachoSegments
import Darling.Diag.ProcessTree
import Darling.Diag.RingDumps
import Darling.Diag.Selection
import Darling.Evidence.Compression
import Darling.Evidence.LogCapture
import Darling.Evidence.Lossless
import Darling.Evidence.Soundness
import Darling.Evidence.Storage
import Darling.Fuzz.Bytecode
import Darling.Fuzz.Classification
import Darling.Fuzz.Codec
import Darling.Fuzz.Minimization
import Darling.Fuzz.Replay
import Darling.Handoff.Atomicity
import Darling.Handoff.Publishing
import Darling.Handoff.Recovery
import Darling.Handoff.Transaction
import Darling.Lanes.Ancestry
import Darling.Lanes.Contracts
import Darling.Lanes.Creation
import Darling.Lanes.Forest
import Darling.Lanes.Health
import Darling.Lanes.Identity
import Darling.Lanes.Intents
import Darling.Lanes.Operations
import Darling.Lanes.Removal
import Darling.Lanes.Snapshotter
import Darling.Lanes.Stranding
import Darling.Lanes.Views
import Darling.Lanes.Walks
import Darling.Library.Associations
import Darling.Library.Checks
import Darling.Library.Codecs
import Darling.Library.CommitGraphs
import Darling.Library.Courses
import Darling.Library.Distances
import Darling.Library.Effects
import Darling.Library.FileTrees
import Darling.Library.FiniteMaps
import Darling.Library.Forests
import Darling.Library.Guards
import Darling.Library.Interleavings
import Darling.Library.Interruptions
import Darling.Library.JsonPaths
import Darling.Library.JsonTrees
import Darling.Library.JsonWriting
import Darling.Library.Jsons
import Darling.Library.Layouts
import Darling.Library.Lebs
import Darling.Library.Machines
import Darling.Library.Numerals
import Darling.Library.Pacing
import Darling.Library.Panics
import Darling.Library.Points
import Darling.Library.Splices
import Darling.Library.Texts
import Darling.Library.Traversals
import Darling.Library.Utf8
import Darling.Lifecycle.Agreement
import Darling.Lifecycle.Conformance
import Darling.Lifecycle.Divergence
import Darling.Lifecycle.Documents
import Darling.Lifecycle.Emission
import Darling.Lifecycle.Exploration
import Darling.Lifecycle.Explorer
import Darling.Lifecycle.Ledger
import Darling.Lifecycle.Lockstep
import Darling.Lifecycle.Obligations
import Darling.Lifecycle.Oracle
import Darling.Lifecycle.OracleSteps
import Darling.Lifecycle.Phases
import Darling.Lifecycle.Preparation
import Darling.Lifecycle.Replay
import Darling.Lifecycle.Restoration
import Darling.Lifecycle.State
import Darling.Lifecycle.Steps
import Darling.Payloads.Cpio
import Darling.Pins.Manifest
import Darling.Pins.Rewriting
import Darling.Pins.Sync
import Darling.Prefixes.Mounts
import Darling.Prefixes.Rescue
import Darling.Registry.Scanner
import Darling.Registry.Splicing
import Darling.Registry.Updating
import Darling.Review.Receipt
import Darling.Ring.Catalog
import Darling.Ring.Completion
import Darling.Ring.Courier
import Darling.Ring.Directory
import Darling.Ring.Ownership
import Darling.Ring.Plane
import Darling.Ring.Publication
import Darling.Stack.Capture
import Darling.Stack.Confinement
import Darling.Stack.Extract
import Darling.Stack.Growth
import Darling.Stack.Members
import Darling.Stack.Roundtrip
import Darling.Start.Artifact
import Darling.Start.CrashRecovery
import Darling.Start.Failures
import Darling.Start.ForeignFiles
import Darling.Start.Forward
import Darling.Start.Interference
import Darling.Start.Journal
import Darling.Start.JournalAtomicity
import Darling.Start.JournalUpdate
import Darling.Start.Ownership
import Darling.Start.Recovery
import Darling.Start.Rollback
import Darling.Start.Transaction
import Darling.Start.World
