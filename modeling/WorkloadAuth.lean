import WorkloadAuth.Directory.Inventory
import WorkloadAuth.Engine.Inquiry
import WorkloadAuth.Engine.Login
import WorkloadAuth.Engine.Renewal
import WorkloadAuth.Json.Encode
import WorkloadAuth.Store
import WorkloadAuth.Proofs.Run
import WorkloadAuth.Proofs.World
import WorkloadAuth.Proofs.Login
import WorkloadAuth.Proofs.AddressText
import WorkloadAuth.Proofs.Alike
import WorkloadAuth.Proofs.Snapshot
import WorkloadAuth.Proofs.Renewal
import WorkloadAuth.Proofs.NameConstraints
import WorkloadAuth.Proofs.Path
import WorkloadAuth.Proofs.Trust
import WorkloadAuth.Proofs.Encoding
import WorkloadAuth.Proofs.CertificateText
import WorkloadAuth.Proofs.StoredConfiguration
import WorkloadAuth.Proofs.Reconciliation
import WorkloadAuth.Proofs.LoginStages
import WorkloadAuth.Proofs.Refusals
import WorkloadAuth.Proofs.NetworkMembership
import WorkloadAuth.Proofs.CertificateTime
import WorkloadAuth.Proofs.TrustedRoot
import WorkloadAuth.Proofs.GivingUp
import WorkloadAuth.Proofs.PathCompleteness
import WorkloadAuth.Proofs.CommonUsage
import WorkloadAuth.Proofs.Keys
import WorkloadAuth.Proofs.SnapshotCodec
import WorkloadAuth.Proofs.Service
import WorkloadAuth.Proofs.TwoReaders
import WorkloadAuth.Proofs.TrustMonotone
import WorkloadAuth.Proofs.SignedIdentity
import WorkloadAuth.Proofs.Exchanges
import WorkloadAuth.Proofs.Reports
import WorkloadAuth.Proofs.Interleaving
import WorkloadAuth.Proofs.JsonText
import WorkloadAuth.Proofs.JsonSchema
import WorkloadAuth.Proofs.Persistence
import WorkloadAuth.Proofs.LookUps
import WorkloadAuth.Proofs.BelowBase
import WorkloadAuth.Proofs.RecordAddress
import WorkloadAuth.Proofs.Twins
import WorkloadAuth.Proofs.Protocol
import WorkloadAuth.Proofs.DirectoryChecks
import WorkloadAuth.Proofs.RoleChecks
import WorkloadAuth.Proofs.RenewalChecks
import WorkloadAuth.Proofs.ConfigurationFile
import WorkloadAuth.Proofs.Origins
import WorkloadAuth.Proofs.CarriedIdentity
import WorkloadAuth.Proofs.ReplayWindow
import WorkloadAuth.Proofs.SigningForms
import WorkloadAuth.Proofs.PemBlocks
import WorkloadAuth.Proofs.RootEntries
import WorkloadAuth.Proofs.ForeignBlocks
import WorkloadAuth.Proofs.SingleUsages
import WorkloadAuth.Proofs.ReportedFaults
import WorkloadAuth.Proofs.RegisteredCounters
