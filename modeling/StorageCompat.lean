import StorageCompat.Main
import StorageCompat.Proofs.Upgrade.Places
import StorageCompat.Proofs.Alignment.Answers
import StorageCompat.Proofs.Alignment.Cheapest
import StorageCompat.Proofs.Upgrade.Verdict
import StorageCompat.Proofs.TypeKey.Runs
import StorageCompat.Proofs.TypeKey.RoundTrip
import StorageCompat.Proofs.TypeKey.Grammar
import StorageCompat.Proofs.Layout.Extraction
import StorageCompat.Proofs.Layout.TypeLabels
import StorageCompat.Proofs.TypeKey.Renumbering
import StorageCompat.Proofs.Layout.Renumbering
import StorageCompat.Proofs.Settling
import StorageCompat.Proofs.SyntaxTree.Search
import StorageCompat.Proofs.Layout.Refusals
import StorageCompat.Proofs.Upgrade.Report
import StorageCompat.Proofs.Command.Endings
import StorageCompat.Proofs.Command.Refusals
import StorageCompat.Proofs.Command.Verdict
import StorageCompat.Proofs.Upgrade.History
import StorageCompat.Proofs.Upgrade.Listing
import StorageCompat.Proofs.Layout.Construction
import StorageCompat.Proofs.Upgrade.Comparison
import StorageCompat.Proofs.Layout.Saving
import StorageCompat.Proofs.Files.Writing
import StorageCompat.Proofs.Json.Numbers
import StorageCompat.Proofs.Json.Texts
import StorageCompat.Proofs.Json.RoundTrip
import StorageCompat.Proofs.Command.SavedLayouts
import StorageCompat.Proofs.Alignment.Preference
import StorageCompat.Proofs.Alignment.Neighbours
import StorageCompat.Proofs.Alignment.CommonTail
import StorageCompat.Proofs.Command.Effects
import StorageCompat.Proofs.Alignment.CommonHead
import StorageCompat.Proofs.Upgrade.UnchangedHead
import StorageCompat.Proofs.Alignment.EquivalentCosts
import StorageCompat.Proofs.Alignment.Asking
import StorageCompat.Proofs.Alignment.FirstRefusal
import StorageCompat.Proofs.TypeKey.Closing
import StorageCompat.Proofs.TypeKey.Reference
import StorageCompat.Proofs.TypeKey.Sweep
import StorageCompat.Proofs.TypeKey.Again
import StorageCompat.Proofs.Layout.Declarations
import StorageCompat.Proofs.Layout.Collection
import StorageCompat.Proofs.Layout.FirstRefusal
import StorageCompat.Proofs.Layout.Documents
import StorageCompat.Proofs.Value.Positions
import StorageCompat.Proofs.Value.Writable
import StorageCompat.Proofs.SyntaxTree.DocumentOrder
import StorageCompat.Proofs.Settings
import StorageCompat.Proofs.Alignment.InPlace
import StorageCompat.Proofs.Alignment.Matrix
import StorageCompat.Proofs.TypeKey.Lookahead
