import ShootMachines.Admission.EachItem
import ShootMachines.Admission.Field
import ShootMachines.Admission.Networking
import ShootMachines.Admission.Pools
import ShootMachines.Admission.Profile
import ShootMachines.Admission.Secret
import ShootMachines.Admission.Shoot
import ShootMachines.Command.Arguments
import ShootMachines.Command.Failure
import ShootMachines.Command.Invocation
import ShootMachines.Command.Outcome
import ShootMachines.Credentials.Kubeconfig
import ShootMachines.Credentials.ProviderCluster
import ShootMachines.Digest.Sha256
import ShootMachines.Document.Dict
import ShootMachines.Document.Json.Reader
import ShootMachines.Document.Json.Writer
import ShootMachines.Document.Payload
import ShootMachines.Failure
import ShootMachines.Gardener.CloudProfile
import ShootMachines.Gardener.Cluster
import ShootMachines.Gardener.Reference
import ShootMachines.Gardener.SecretBinding
import ShootMachines.Gardener.Shoot
import ShootMachines.Gardener.Volume
import ShootMachines.Gardener.Worker
import ShootMachines.Gardener.WorkerPool
import ShootMachines.Kubernetes.DnsConfig
import ShootMachines.Kubernetes.Instant
import ShootMachines.Kubernetes.IntOrText
import ShootMachines.Kubernetes.Metadata
import ShootMachines.Kubernetes.Quantity
import ShootMachines.Kubernetes.Secret
import ShootMachines.Kubernetes.Taint
import ShootMachines.Lookup.Api
import ShootMachines.Lookup.Basic
import ShootMachines.Lookup.Inventory
import ShootMachines.Machines.Class
import ShootMachines.Machines.Deployment
import ShootMachines.Machines.Generation
import ShootMachines.Machines.Plan
import ShootMachines.Machines.PoolPlan
import ShootMachines.Machines.Report
import ShootMachines.Machines.Volume
import ShootMachines.Main
import ShootMachines.Net.Address
import ShootMachines.Net.Cidr
import ShootMachines.Net.Domain
import ShootMachines.Net.Domain.Character
import ShootMachines.Net.Domain.Composition
import ShootMachines.Net.Domain.Punycode
import ShootMachines.Net.Url
import ShootMachines.Number.Binary64
import ShootMachines.Number.Layout
import ShootMachines.Pool.Catalog
import ShootMachines.Pool.Distribution
import ShootMachines.Pool.Hash
import ShootMachines.Provider.ControlPlane
import ShootMachines.Provider.Infrastructure
import ShootMachines.Provider.Kind
import ShootMachines.Provider.ProfileConfig
import ShootMachines.Provider.Scheme
import ShootMachines.Provider.Section
import ShootMachines.Provider.WorkerConfig
import ShootMachines.Provider.WorkerStatus
import ShootMachines.Schema.Basic
import ShootMachines.Schema.Read
import ShootMachines.Schema.Source
import ShootMachines.Schema.Undeclared
import ShootMachines.Schema.Write
import ShootMachines.Text.Base64
import ShootMachines.Text.Blank
import ShootMachines.Text.CodePoints
import ShootMachines.Text.Lines
import ShootMachines.Text.Quoted
import ShootMachines.Text.Unprintable
import ShootMachines.Text.Utf8
import ShootMachines.Trace
import ShootMachines.Yaml.Character
import ShootMachines.Yaml.CoreScalar
import ShootMachines.Yaml.Cursor
import ShootMachines.Yaml.Manifest
import ShootMachines.Yaml.Node
import ShootMachines.Yaml.Output
import ShootMachines.Yaml.Token.Basic
import ShootMachines.Yaml.Token.Property
import ShootMachines.Yaml.Token.Scalar
import ShootMachines.Yaml.Token.Stream
import ShootMachines.Yaml.Value
import ShootMachines.Yaml.Writer
import ShootMachines.Proofs.Results
import ShootMachines.Proofs.Requirements
import ShootMachines.Proofs.Text.TextLemmas
import ShootMachines.Proofs.Kubernetes.QuantityGrammar
import ShootMachines.Proofs.Text.Utf8RoundTrip
import ShootMachines.Proofs.Text.Base64RoundTrip
import ShootMachines.Proofs.Document.DictLemmas
import ShootMachines.Proofs.Document.CanonicalText
import ShootMachines.Proofs.Document.Deletion
import ShootMachines.Proofs.Document.JsonDocuments
import ShootMachines.Proofs.Document.WrittenDocuments
import ShootMachines.Proofs.Schema.PlainLayout
import ShootMachines.Proofs.Schema.FaithfulLayout
import ShootMachines.Proofs.Schema.ReadForms
import ShootMachines.Proofs.Schema.RoundTrip
import ShootMachines.Proofs.Schema.ReadValues
import ShootMachines.Proofs.Yaml.NormalDocuments
import ShootMachines.Proofs.Schema.UndeclaredKeys
import ShootMachines.Proofs.Schema.DeletedKeys
import ShootMachines.Proofs.Provider.DecoderRuns
import ShootMachines.Proofs.Provider.PayloadRoundTrip
import ShootMachines.Proofs.Provider.DecoderEntries
import ShootMachines.Proofs.Provider.StrictDecoding
import ShootMachines.Proofs.Provider.StrictReports
import ShootMachines.Proofs.Admission.EachItemLemmas
import ShootMachines.Proofs.Admission.RelativeChecks
import ShootMachines.Proofs.Admission.OncePerField
import ShootMachines.Proofs.Admission.ShootFields
import ShootMachines.Proofs.Admission.UpdateOnly
import ShootMachines.Proofs.Admission.ShootRuns
import ShootMachines.Proofs.Admission.ShootUpdate
import ShootMachines.Proofs.Admission.NamedConfigs
import ShootMachines.Proofs.Admission.ShootHistory
import ShootMachines.Proofs.Admission.PoolIndependence
import ShootMachines.Proofs.Admission.ProfileAgreement
import ShootMachines.Proofs.Admission.ImageHistory
import ShootMachines.Proofs.Admission.CheckedProfiles
import ShootMachines.Proofs.Admission.PoolViolations
import ShootMachines.Proofs.Admission.ListedNames
import ShootMachines.Proofs.Admission.WorkerConfigViolations
import ShootMachines.Proofs.Admission.NetworkViolations
import ShootMachines.Proofs.Admission.SecretUse
import ShootMachines.Proofs.Pool.HashedBytes
import ShootMachines.Proofs.Pool.ZoneShares
import ShootMachines.Proofs.Pool.Percentages
import ShootMachines.Proofs.Gardener.ResourceRoundTrip
import ShootMachines.Proofs.Lookup.ResourcePaths
import ShootMachines.Proofs.Lookup.ServedInventory
import ShootMachines.Proofs.Lookup.DocumentTables
import ShootMachines.Proofs.Lookup.Interchange
import ShootMachines.Proofs.Machines.PoolPlans
import ShootMachines.Proofs.Machines.PlanImages
import ShootMachines.Proofs.Machines.PlanPools
import ShootMachines.Proofs.Machines.PlanFailures
import ShootMachines.Proofs.Machines.ZoneNames
import ShootMachines.Proofs.Machines.PlanZones
import ShootMachines.Proofs.Machines.RootVolumes
import ShootMachines.Proofs.Machines.PlanSources
import ShootMachines.Proofs.Machines.ImageEntries
import ShootMachines.Proofs.Machines.PlanBounds
import ShootMachines.Proofs.Machines.Reconciliation
