import ScrapeJobs.Compiler
import ScrapeJobs.ConfigFile
import ScrapeJobs.Doc.Json
import ScrapeJobs.Proofs.Relabel.Effects
import ScrapeJobs.Proofs.Doc.Records
import ScrapeJobs.Proofs.Job.Codec
import ScrapeJobs.Proofs.Job.Normal
import ScrapeJobs.Proofs.Job.Registrations
import ScrapeJobs.Proofs.Compiler.Emits
import ScrapeJobs.Proofs.Compiler.Reload
import ScrapeJobs.Proofs.Compiler.Acceptance
import ScrapeJobs.Proofs.Compiler.Order
import ScrapeJobs.Proofs.Compiler.Admission
import ScrapeJobs.Proofs.Compiler.Tenancy
import ScrapeJobs.Proofs.Compiler.Tokens
import ScrapeJobs.Proofs.Compiler.Mappings
import ScrapeJobs.Proofs.Compiler.Duplicates
import ScrapeJobs.Proofs.Compiler.Times
import ScrapeJobs.Proofs.Compiler.Attribution
import ScrapeJobs.Proofs.Secret.Pools
import ScrapeJobs.Proofs.Phase
import ScrapeJobs.Proofs.Protected
import ScrapeJobs.Proofs.Selection
import ScrapeJobs.Proofs.Selector
import ScrapeJobs.Proofs.Stamped
import ScrapeJobs.Proofs.NumericPort
import ScrapeJobs.Proofs.NamedPort
import ScrapeJobs.Proofs.Resource.Codec
import ScrapeJobs.Proofs.Doc.Readings
import ScrapeJobs.Proofs.Duration
import ScrapeJobs.Proofs.Duration.Bytes
import ScrapeJobs.Proofs.Lineage
import ScrapeJobs.Proofs.Status
import ScrapeJobs.Proofs.Mapping
import ScrapeJobs.Proofs.Regex.Anchored
import ScrapeJobs.Proofs.Relabel.Shards
import ScrapeJobs.Proofs.Relabel.LabelTemplates.Bytes
