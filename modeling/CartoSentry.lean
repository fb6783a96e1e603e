import CartoSentry.Foundation.Binary64
import CartoSentry.Foundation.Runs
import CartoSentry.Foundation.DurableProc
import CartoSentry.Foundation.DependencyOrder
import CartoSentry.Foundation.History
import CartoSentry.Foundation.Handlers
import CartoSentry.Runstate.Engine
import CartoSentry.Runstate.Steps
import CartoSentry.Runstate.Invariants
import CartoSentry.Runstate.Reconciliation
import CartoSentry.Runstate.Execution
import CartoSentry.Runstate.Runs
import CartoSentry.Runstate.CompleteClosure
import CartoSentry.Runstate.Refinement
import CartoSentry.Runstate.Reconciled
import CartoSentry.Runstate.ArtifactRows
import CartoSentry.Runstate.ForceRequest
import CartoSentry.Runstate.Transitions
import CartoSentry.Runstate.AttemptNames
import CartoSentry.Runstate.Plan
import CartoSentry.Runstate.FollowsPlan
import CartoSentry.Runstate.OnPlan
import CartoSentry.Runstate.CrashEquivalence
import CartoSentry.Runstate.Stability
import CartoSentry.Runstate.ForcedRun
import CartoSentry.RoadGraph.Contracts
import CartoSentry.RoadGraph.Restrictions
import CartoSentry.RoadGraph.RestrictionSoundness
import CartoSentry.Foundation.BestFirst
import CartoSentry.Matching.Contracts
import CartoSentry.Matching.Route
import CartoSentry.Matching.NativeGraph
import CartoSentry.RoadGraph.PermittedTurn
import CartoSentry.Matching.RouteSearch
import CartoSentry.Matching.RouteExact
import CartoSentry.Matching.RouteRejections
import CartoSentry.Matching.Rounding
import CartoSentry.Matching.Transition
import CartoSentry.Matching.Candidates
import CartoSentry.Foundation.ListOrder
import CartoSentry.Foundation.KeyedList
import CartoSentry.Foundation.Outcome
import CartoSentry.Foundation.IntervalUnion
import CartoSentry.Foundation.BeamSearch
import CartoSentry.Matching.Decoder
import CartoSentry.Matching.DecoderTrellis
import CartoSentry.Matching.DecoderBeam
import CartoSentry.Matching.DecoderRefinement
import CartoSentry.Matching.DecoderPermutation
import CartoSentry.Matching.DecoderExact
import CartoSentry.Matching.GeneratedDecoding
import CartoSentry.Matching.RoadCandidate
import CartoSentry.Matching.CandidateAcceptance
import CartoSentry.Matching.CandidateReference
import CartoSentry.Matching.DecodedIntervals
import CartoSentry.Matching.PythonRounding
import CartoSentry.Matching.DecodedRoadPath
import CartoSentry.Matching.PathAcceptance
import CartoSentry.Matching.DecodedAgreement
import CartoSentry.RoadBins.Contracts
import CartoSentry.RoadBins.Validation
import CartoSentry.RoadBins.Pieces
import CartoSentry.RoadBins.Aggregation
import CartoSentry.RoadBins.PieceOrder
import CartoSentry.RoadBins.PieceFacts
import CartoSentry.RoadBins.TraversalSums
import CartoSentry.RoadBins.BinSums
import CartoSentry.RoadBins.Windows
import CartoSentry.RoadBins.PathOrder
import CartoSentry.RoadBins.Ledger
import CartoSentry.RoadBins.Rounded
import CartoSentry.RoadBins.ModalityFacts
import CartoSentry.RoadBins.LedgerTraversals
import CartoSentry.RoadBins.LedgerBins
import CartoSentry.RoadBins.LedgerOutcome
import CartoSentry.Foundation.Json
import CartoSentry.Foundation.ByteText
import CartoSentry.Artifacts.Portability
import CartoSentry.Artifacts.PortabilityAgreement
import CartoSentry.Artifacts.Identifiers
import CartoSentry.Artifacts.PlainText
import CartoSentry.Artifacts.SequenceManifest
import CartoSentry.Artifacts.SequenceIdentity
import CartoSentry.Foundation.Sha256
import CartoSentry.Ingestion.BuildManifest
import CartoSentry.Ingestion.ManifestIdentity
import CartoSentry.Ingestion.AcceptedManifests
import CartoSentry.Foundation.TextDecoding
import CartoSentry.Artifacts.JsonBoundary
import CartoSentry.Foundation.JsonSpelling
import CartoSentry.Foundation.JsonScanner
import CartoSentry.Artifacts.BoundedJson
import CartoSentry.Foundation.DoubleArithmetic
import CartoSentry.Foundation.CompleteLink
import CartoSentry.Topology.Contracts
import CartoSentry.Topology.ValidInputs
import CartoSentry.Topology.Mining
import CartoSentry.Topology.Selection
import CartoSentry.Topology.Preference
import CartoSentry.Topology.Emission
import CartoSentry.Topology.Reordering
import CartoSentry.Topology.Clusters
import CartoSentry.Contracts.MachineInteger
import CartoSentry.Contracts.NativeTime
import CartoSentry.Contracts.DecimalSeconds
import CartoSentry.Contracts.RawTime
import CartoSentry.Artifacts.RecapturePlan
import CartoSentry.Artifacts.AcceptedData
import CartoSentry.Foundation.Spans
import CartoSentry.Foundation.BinarySearch
import CartoSentry.RoadBins.Splitting
import CartoSentry.RoadBins.BinTraversals
import CartoSentry.RoadBins.FindingLocalization
import CartoSentry.RoadBins.ModalityDurations
import CartoSentry.Foundation.GapNumbering
import CartoSentry.RoadBins.IndependentTraversals
import CartoSentry.Foundation.WeightedMean
import CartoSentry.RoadBins.OverlapMeans
import CartoSentry.Contracts.Raised
import CartoSentry.Foundation.SweepGroups
import CartoSentry.TrajectoryIntegrity.Contracts
import CartoSentry.TrajectoryIntegrity.Consolidation
import CartoSentry.TrajectoryIntegrity.PositionSteps
import CartoSentry.Artifacts.IdentityText
import CartoSentry.TrajectoryIntegrity.Events
import CartoSentry.Foundation.Stretches
import CartoSentry.Trajectory.Contracts
import CartoSentry.Trajectory.Continuous
import CartoSentry.Trajectory.Windows
import CartoSentry.Trajectory.Evaluation
import CartoSentry.TrajectoryIntegrity.Detection
import CartoSentry.TrajectoryIntegrity.RawFailures
import CartoSentry.TrajectoryIntegrity.Freezes
import CartoSentry.TrajectoryIntegrity.StructuralEvidence
import CartoSentry.Foundation.OrderStatistic
import CartoSentry.LidarIntegrity.Contracts
import CartoSentry.LidarIntegrity.Histogram
import CartoSentry.LidarIntegrity.Quantiles
import CartoSentry.LidarIntegrity.Events
import CartoSentry.LidarIntegrity.FailureRuns
import CartoSentry.LidarIntegrity.ReportedRuns
import CartoSentry.LidarIntegrity.Analyzer
import CartoSentry.LidarIntegrity.FrameCounts
import CartoSentry.LidarIntegrity.FrameReports
import CartoSentry.LidarIntegrity.CountConservation
import CartoSentry.LidarIntegrity.Report
import CartoSentry.Foundation.CircularRuns
import CartoSentry.Foundation.MaximalRuns
import CartoSentry.LidarIntegrity.BlankSectors
import CartoSentry.Matching.StationaryRuns
import CartoSentry.Trajectory.Segments
import CartoSentry.Foundation.Polyline
import CartoSentry.Topology.Resampling
import CartoSentry.Foundation.RecordStream
import CartoSentry.Adapters.LidarRecords
import CartoSentry.Ingestion.IndexWriter
import CartoSentry.Ingestion.Recording
import CartoSentry.Ingestion.Observations
import CartoSentry.Ingestion.IndexRecording
import CartoSentry.Ingestion.Staging
import CartoSentry.Ingestion.Publication
import CartoSentry.Artifacts.MappingText
import CartoSentry.Runstate.CacheKey
import CartoSentry.Foundation.Moments
import CartoSentry.MotionAlignment.Contracts
import CartoSentry.MotionAlignment.Analyzer
import CartoSentry.MotionAlignment.FrameScan
import CartoSentry.MotionAlignment.Permutation
import CartoSentry.MotionAlignment.Report
import CartoSentry.MotionAlignment.Exact
import CartoSentry.MotionAlignment.Rounding
import CartoSentry.Foundation.DecimalArithmetic
import CartoSentry.Foundation.DecimalText
import CartoSentry.RoadGraph.Coordinates
import CartoSentry.Foundation.Tally
import CartoSentry.Foundation.RoundRobin
import CartoSentry.Scheduler.Contracts
import CartoSentry.Scheduler.BoundedScheduler
import CartoSentry.Scheduler.Ledger
import CartoSentry.Scheduler.CriticalSections
import CartoSentry.Scheduler.Steps
import CartoSentry.Scheduler.Accounting
import CartoSentry.Scheduler.SelectionOrder
import CartoSentry.Scheduler.Termination
import CartoSentry.Foundation.Contraction
import CartoSentry.Foundation.Cuts
import CartoSentry.RoadGraph.Ways
import CartoSentry.RoadGraph.Arcs
import CartoSentry.RoadGraph.ArcRefinement
import CartoSentry.RoadGraph.GraphImport
import CartoSentry.RoadGraph.ImportAcceptance
import CartoSentry.RoadGraph.OsmDocument
