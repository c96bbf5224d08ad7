import Polybuild.Text.Blank
import Polybuild.Language
import Polybuild.Path.Normal
import Polybuild.Disk.Basic
import Polybuild.Disk.Access
import Polybuild.Json.Strict
import Polybuild.Json.Printer
import Polybuild.Charset.Basic
import Polybuild.Glob.Match
import Polybuild.SourceFilter
import Polybuild.Text.Keyed
import Polybuild.Json.Relaxed
import Polybuild.Manifest.Load
import Polybuild.Manifest.Writing
import Polybuild.Requirements.Order
import Polybuild.Catalog.Discover
import Polybuild.Text.Elapsed
import Polybuild.Project.Read
import Polybuild.Translation
import Polybuild.Snapshot.Store
import Polybuild.Watch.Session
import Polybuild.Proofs.Except
import Polybuild.Proofs.Requirements.Walk
import Polybuild.Proofs.Requirements.Cycles
import Polybuild.Proofs.Disk.Entries
import Polybuild.Proofs.Disk.Target
import Polybuild.Proofs.Disk.Placing
import Polybuild.Proofs.Build.Writing
import Polybuild.Proofs.Build.Atomic
import Polybuild.Proofs.Disk.Reading
import Polybuild.Proofs.Build.Bundles
import Polybuild.Proofs.Watch.Rebuild
import Polybuild.Proofs.Module.Sources
import Polybuild.Proofs.Build.Destinations
import Polybuild.Proofs.Build.Provenance
import Polybuild.Proofs.Build.Everything
import Polybuild.Proofs.Module.Listed
import Polybuild.Proofs.Build.Entries
import Polybuild.Proofs.Build.Again
import Polybuild.Proofs.Watch.Ownership
import Polybuild.Proofs.Disk.Inside
import Polybuild.Proofs.Build.Outputs
import Polybuild.Proofs.Catalog.Discovery
import Polybuild.Proofs.Project.Bundled
import Polybuild.Proofs.Build.Collected
import Polybuild.Proofs.Snapshot.Restored
import Polybuild.Proofs.Module.Contained
import Polybuild.Proofs.Naming.Inverse
import Polybuild.Proofs.Build.Repeat
import Polybuild.Proofs.Path.Order
import Polybuild.Proofs.Watch.Batches
import Polybuild.Proofs.Catalog.Offered
import Polybuild.Proofs.Project.Loaded
import Polybuild.Proofs.Watch.Reported
import Polybuild.Proofs.Disk.Relative
import Polybuild.Proofs.Catalog.Respelled
import Polybuild.Proofs.Project.Root
import Polybuild.Proofs.Requirements.Stable
import Polybuild.Proofs.Requirements.Reach
import Polybuild.Proofs.Module.Enumerated
import Polybuild.Proofs.Build.Accounts
import Polybuild.Proofs.Catalog.Around
import Polybuild.Proofs.Module.Translated
import Polybuild.Proofs.Module.Classes
import Polybuild.Proofs.Build.Lookup
import Polybuild.Proofs.Text.Ends
import Polybuild.Proofs.Project.Expanded
import Polybuild.Proofs.SourceFilter.Decision
import Polybuild.Proofs.Project.Confined
import Polybuild.Proofs.Disk.Upward
import Polybuild.Proofs.Project.Nearest
import Polybuild.Proofs.Build.Tallied
import Polybuild.Proofs.Path.Joined
import Polybuild.Proofs.Requirements.Nesting
import Polybuild.Proofs.Catalog.Loads
import Polybuild.Proofs.Charset.Changes
