import ModuleDiscovery.Disk.Tree
import ModuleDiscovery.Main
import ModuleDiscovery.Proofs.Collect
import ModuleDiscovery.Proofs.Config.External
import ModuleDiscovery.Proofs.Config.Resolve
import ModuleDiscovery.Proofs.ModuleName.Shortest
import ModuleDiscovery.Proofs.Listing
import ModuleDiscovery.Proofs.Manifest
import ModuleDiscovery.Proofs.Walk.Canonical
import ModuleDiscovery.Proofs.Walk.Discovery
import ModuleDiscovery.Proofs.Walk.InlineScript
import ModuleDiscovery.Proofs.Walk.Ledger
import ModuleDiscovery.Proofs.Walk.Nesting
import ModuleDiscovery.Proofs.Walk.Once
import ModuleDiscovery.Proofs.Walk.Order
import ModuleDiscovery.Proofs.Collect.Reads
import ModuleDiscovery.Proofs.Collect.Restored
import ModuleDiscovery.Proofs.Collect.Spelling
import ModuleDiscovery.Proofs.Collect.Stamps
import ModuleDiscovery.Proofs.Walk.Policy
import ModuleDiscovery.Proofs.Walk.ReadSet
import ModuleDiscovery.Proofs.Walk.Root
import ModuleDiscovery.Proofs.Walk.ScriptEntry
import ModuleDiscovery.Proofs.Command.Check
import ModuleDiscovery.Proofs.Command.Collect
import ModuleDiscovery.Proofs.Rule.Anchored
import ModuleDiscovery.Proofs.Rule.Precedence
import ModuleDiscovery.Proofs.Script.Specifiers
import ModuleDiscovery.Proofs.ScriptId.Grammar
import ModuleDiscovery.Proofs.SourceUrl
import ModuleDiscovery.Proofs.SourceUrl.Decoding
import ModuleDiscovery.Proofs.SourceUrl.Position
