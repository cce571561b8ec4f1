import FiveStage.Main
import FiveStage.Proofs.Cache.Geometry
import FiveStage.Proofs.Cache.Blocks
import FiveStage.Proofs.Outcome
import FiveStage.Proofs.Cache.Coherence
import FiveStage.Proofs.Cache.Transparency
import FiveStage.Proofs.Cache.Failures
import FiveStage.Proofs.Cache.Flatness
import FiveStage.Proofs.Memory.Flat
import FiveStage.Proofs.Platform.Flat
import FiveStage.Proofs.Platform.Simulation
import FiveStage.Proofs.Memory.Loading
import FiveStage.Proofs.Pipeline.Flat
import FiveStage.Proofs.Pipeline.Simulation
import FiveStage.Proofs.Pipeline.Timing
import FiveStage.Proofs.Isa.Decoding
import FiveStage.Proofs.Platform.Runs
import FiveStage.Proofs.Pipeline.Issue
import FiveStage.Proofs.Platform.Essential
import FiveStage.Proofs.Pipeline.Forwarding
import FiveStage.Proofs.Pipeline.Handover
import FiveStage.Proofs.Pipeline.Stages
import FiveStage.Proofs.Pipeline.Cycle
import FiveStage.Proofs.Pipeline.Tracking
import FiveStage.Proofs.Pipeline.Trailing
import FiveStage.Proofs.Pipeline.Refinement
import FiveStage.Proofs.Pipeline.Faults
import FiveStage.Proofs.Pipeline.Operands
import FiveStage.Proofs.Pipeline.Counting
import FiveStage.Proofs.Pipeline.Accounting
import FiveStage.Proofs.Memory.ByteMap
import FiveStage.Proofs.Pipeline.Draining
import FiveStage.Proofs.Isa.Fields
import FiveStage.Proofs.Pipeline.Progress
import FiveStage.Proofs.Isa.Layout
import FiveStage.Proofs.Cache.Steps
import FiveStage.Proofs.Cache.Recency
import FiveStage.Proofs.Cache.Integrity
import FiveStage.Proofs.Cache.Placement
import FiveStage.Proofs.Cache.Inclusion
import FiveStage.Proofs.Cache.Occupancy
import FiveStage.Proofs.Cache.Prefetching
import FiveStage.Proofs.Cache.Traffic
import FiveStage.Proofs.Cache.Likeness
import FiveStage.Proofs.Cache.ReadCost
import FiveStage.Proofs.Memory.Frames
import FiveStage.Proofs.Cache.Oblivious
import FiveStage.Proofs.Memory.Pace
import FiveStage.Proofs.Platform.Pace
import FiveStage.Proofs.Pipeline.Pace
import FiveStage.Proofs.Prediction.Mispredictions
import FiveStage.Proofs.Executable.Loading
import FiveStage.Proofs.Cache.Outdated
import FiveStage.Proofs.Memory.Candidates
import FiveStage.Proofs.Executable.LateLoading
import FiveStage.Proofs.Isa.Arithmetic
import FiveStage.Proofs.Isa.Effects
import FiveStage.Proofs.Memory.InTurn
import FiveStage.Proofs.Platform.PrintString
import FiveStage.Proofs.Text.Lines
import FiveStage.Proofs.Settings.Reading
import FiveStage.Proofs.Settings.LastWins
import FiveStage.Proofs.Cache.AddressFields
