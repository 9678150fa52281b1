import PolicyTree.Main
import PolicyTree.Context.Codec
import PolicyTree.Proofs.Map.Insertion
import PolicyTree.Proofs.Rules.Merge
import PolicyTree.Proofs.Access.Resolution
import PolicyTree.Proofs.Rules.Filtering
import PolicyTree.Proofs.Access.Decision
import PolicyTree.Proofs.Store.Coherence
import PolicyTree.Proofs.Access.Caching
import PolicyTree.Proofs.Catalog.Building
import PolicyTree.Proofs.Catalog.Reproduction
import PolicyTree.Proofs.Catalog.Ancestry
import PolicyTree.Proofs.Catalog.Diagnosis
import PolicyTree.Proofs.Rules.History
import PolicyTree.Proofs.Access.RecordRules
import PolicyTree.Proofs.Access.Redaction
import PolicyTree.Proofs.Bootstrap.Answering
import PolicyTree.Proofs.Resource.Lineage
import PolicyTree.Proofs.Store.Failure
import PolicyTree.Proofs.Store.Retention
import PolicyTree.Proofs.Access.Failure
import PolicyTree.Proofs.Access.Hierarchy
import PolicyTree.Proofs.Access.Specificity
import PolicyTree.Proofs.Rules.Privilege
import PolicyTree.Proofs.Access.Privilege
import PolicyTree.Proofs.Access.Locality
import PolicyTree.Proofs.Json.Reading
import PolicyTree.Proofs.Settings.RoundTrip
import PolicyTree.Proofs.CommandLine.Asking
import PolicyTree.Proofs.CommandLine.Reporting
import PolicyTree.Proofs.Access.Overlay
import PolicyTree.Proofs.Rules.NormalForm
import PolicyTree.Proofs.Store.Accounting
import PolicyTree.Proofs.Store.Staleness
import PolicyTree.Proofs.Bootstrap.Writing
import PolicyTree.Proofs.Settings.Validation
import PolicyTree.Proofs.Registry.Fields
import PolicyTree.Proofs.Rules.Sameness
