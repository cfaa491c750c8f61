import TlsEndpoint.CommandLine
import TlsEndpoint.Workspace
import TlsEndpoint.Context
import TlsEndpoint.Handshake
import TlsEndpoint.Proofs.EncodedText
import TlsEndpoint.Proofs.CommandLines
import TlsEndpoint.Proofs.ProtocolNames
import TlsEndpoint.Proofs.Attempt
import TlsEndpoint.Proofs.Cascade
import TlsEndpoint.Proofs.DecisionTable
import TlsEndpoint.Proofs.Monotone
import TlsEndpoint.Proofs.Provenance
import TlsEndpoint.Proofs.Degradation
import TlsEndpoint.Proofs.Record
import TlsEndpoint.Proofs.RootCauses
import TlsEndpoint.Proofs.CallOrder
import TlsEndpoint.Proofs.Negotiation
import TlsEndpoint.Proofs.DefaultStep
import TlsEndpoint.Proofs.EngineRefusals
import TlsEndpoint.Proofs.ContextParts
import TlsEndpoint.Proofs.ContextViews
import TlsEndpoint.Proofs.CompletedHandshakes
import TlsEndpoint.Proofs.CertifiedPaths
import TlsEndpoint.Proofs.Sections
import TlsEndpoint.Proofs.AnchorLoading
import TlsEndpoint.Proofs.SectionLines
import TlsEndpoint.Proofs.KeyLoading
import TlsEndpoint.Proofs.LeafAndKey
import TlsEndpoint.Proofs.EqualConfigurations
import TlsEndpoint.Proofs.Respelling
import TlsEndpoint.Proofs.MaterialEquality
import TlsEndpoint.Proofs.PresentedIdentity
import TlsEndpoint.Proofs.Likeness
import TlsEndpoint.Proofs.Interference
import TlsEndpoint.Proofs.Spelling
import TlsEndpoint.Proofs.MachineDefaults
import TlsEndpoint.Proofs.Snapshots
