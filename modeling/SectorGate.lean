import SectorGate.Main
import SectorGate.Volume.Edit
import SectorGate.Proofs.Gate.Trace
import SectorGate.Proofs.Gate.Events
import SectorGate.Proofs.Gate.Leniency
import SectorGate.Proofs.TwoStage
import SectorGate.Proofs.CommandLine.Cluster
import SectorGate.Proofs.CommandLine.Decisive
import SectorGate.Proofs.Slack
import SectorGate.Proofs.Overflow
import SectorGate.Proofs.DiagnosticLine
import SectorGate.Proofs.Log.Disclosure
import SectorGate.Proofs.Gate.Unreadable
import SectorGate.Proofs.Log.Entry
