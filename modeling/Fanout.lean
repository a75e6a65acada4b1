import Fanout.Describe
import Fanout.Filter.Probe
import Fanout.Json.Printer
import Fanout.Proofs.Sound
import Fanout.Proofs.Invariant
import Fanout.Proofs.Compilation
import Fanout.Proofs.Refinement
import Fanout.Proofs.Refusal
import Fanout.Proofs.Secrecy
import Fanout.Proofs.Solitude
import Fanout.Proofs.Inbox
import Fanout.Proofs.Snapshot
import Fanout.Proofs.Watching
import Fanout.Proofs.Reaping
import Fanout.Proofs.Release
import Fanout.Proofs.RoundTrip
import Fanout.Proofs.Reports
import Fanout.Proofs.Counters
import Fanout.Proofs.Spelling
import Fanout.Proofs.Precision
import Fanout.Proofs.Respelling
import Fanout.Proofs.Composition
import Fanout.Proofs.Operators
import Fanout.Proofs.Paths
import Fanout.Proofs.Stripping
import Fanout.Proofs.Ids
import Fanout.Proofs.Replacement
import Fanout.Proofs.Assembly
