import ComputeImport.Proofs.Agreement
import ComputeImport.Proofs.Import.Commuting
import ComputeImport.Proofs.Import.Exact
import ComputeImport.Proofs.Import.ExactKernel
import ComputeImport.Proofs.Import.Fallback
import ComputeImport.Proofs.Import.Frame
import ComputeImport.Proofs.Import.Leftovers
import ComputeImport.Proofs.Import.ReleaseOrder
import ComputeImport.Proofs.Import.WholeImport
import ComputeImport.Proofs.Journal.Choices
import ComputeImport.Proofs.Journal.Redaction
import ComputeImport.Proofs.Journal.Setup
import ComputeImport.Proofs.Session.Bundles
import ComputeImport.Proofs.Session.Children
import ComputeImport.Proofs.Session.Export
import ComputeImport.Proofs.Session.KernelLists
import ComputeImport.Proofs.Session.Kernels
import ComputeImport.Proofs.Session.Mirroring
import ComputeImport.Proofs.Session.ProcessWide
import ComputeImport.Proofs.Session.Provenance
import ComputeImport.Proofs.Simulator.Advancing
import ComputeImport.Proofs.Simulator.Failing
import ComputeImport.Proofs.Simulator.Linking
import ComputeImport.Proofs.Simulator.Representation
import ComputeImport.Proofs.Simulator.Separation
import ComputeImport.Session.Changes
import ComputeImport.Session.Run
