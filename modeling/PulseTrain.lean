import PulseTrain.Main
import PulseTrain.Program.Workspace
import PulseTrain.Document.Protocol
import PulseTrain.Proofs.Quantized
import PulseTrain.Proofs.Repeated
import PulseTrain.Proofs.Pipeline
import PulseTrain.Proofs.Segments
import PulseTrain.Proofs.Compiled
import PulseTrain.Proofs.Documents
import PulseTrain.Proofs.Outcome
import PulseTrain.Proofs.Pattern
import PulseTrain.Proofs.Recompiled
import PulseTrain.Proofs.Transcribed
import PulseTrain.Proofs.Playback
import PulseTrain.Proofs.Verified
import PulseTrain.Proofs.Sweep
import PulseTrain.Proofs.Reading
import PulseTrain.Proofs.Merged
import PulseTrain.Proofs.Redrawn
import PulseTrain.Proofs.Invariants
import PulseTrain.Proofs.Accepted
import PulseTrain.Proofs.Atomic
import PulseTrain.Proofs.Sampled
import PulseTrain.Proofs.Periodic
import PulseTrain.Proofs.Intervals
import PulseTrain.Proofs.Runs
import PulseTrain.Proofs.United
import PulseTrain.Proofs.Collapsed
import PulseTrain.Proofs.Coarsened
import PulseTrain.Proofs.Frozen
import PulseTrain.Proofs.Fingerprinted
import PulseTrain.Proofs.Exported
import PulseTrain.Proofs.Declared
import PulseTrain.Proofs.Named
import PulseTrain.Proofs.Unit
import PulseTrain.Proofs.Overridden
import PulseTrain.Proofs.Resolved
import PulseTrain.Proofs.Configured
import PulseTrain.Proofs.Construction
import PulseTrain.Proofs.Partitioned
import PulseTrain.Proofs.Counters
import PulseTrain.Proofs.Declarations
import PulseTrain.Proofs.Words
import PulseTrain.Proofs.Tabulated
import PulseTrain.Proofs.Aligned
import PulseTrain.Proofs.Lookup
import PulseTrain.Proofs.Lines
