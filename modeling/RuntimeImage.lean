import RuntimeImage.Main
import RuntimeImage.Graph.Lemmas
import RuntimeImage.Proofs.Graph.Environment
import RuntimeImage.Proofs.Provision.Integrity
import RuntimeImage.Proofs.Provision.Atomicity
import RuntimeImage.Proofs.Graph.CacheKey
import RuntimeImage.Proofs.FileTree.Files
import RuntimeImage.Proofs.ArtifactCache.Addressing
import RuntimeImage.Proofs.Provision.Files
import RuntimeImage.Proofs.ArtifactCache.Runs
import RuntimeImage.Proofs.ArtifactCache.Frame
import RuntimeImage.Proofs.ArtifactCache.Refetch
import RuntimeImage.Proofs.ArtifactCache.Unverified
import RuntimeImage.Proofs.ArtifactCache.Downloads
import RuntimeImage.Proofs.Finalizer
import RuntimeImage.Proofs.Graph.After
import RuntimeImage.Proofs.Provision.Appends
import RuntimeImage.Proofs.Provision.Pipeline
import RuntimeImage.Proofs.Provision.Agreement
import RuntimeImage.Proofs.Json.Refusals
import RuntimeImage.Proofs.Settings.Faults
import RuntimeImage.Proofs.Graph.CanonicalForm
import RuntimeImage.Proofs.Provision.Refusals
import RuntimeImage.Proofs.Provision.Repetition
import RuntimeImage.Proofs.Json.RoundTrip
import RuntimeImage.Proofs.Json.Export
import RuntimeImage.Proofs.Graph.JsonForm
import RuntimeImage.Proofs.Graph.SearchPath
import RuntimeImage.Proofs.Provision.Exporting
import RuntimeImage.Proofs.Url
import RuntimeImage.Proofs.Settings.Acceptance
import RuntimeImage.Proofs.Settings.File
import RuntimeImage.Proofs.Log
import RuntimeImage.Proofs.Provision.InstallCommands
import RuntimeImage.Proofs.Provision.ShellCommands
import RuntimeImage.Proofs.Provision.Trace
import RuntimeImage.Proofs.Finalizer.Accumulation
import RuntimeImage.Proofs.Graph.Foreign
import RuntimeImage.Proofs.Provision.ArchivePath
import RuntimeImage.Proofs.Graph.WellFormed
