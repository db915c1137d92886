import HostBridge.Capability.Stock
import HostBridge.Engine.Planned
import HostBridge.Folder
import HostBridge.Main
import HostBridge.Proofs.Agreement
import HostBridge.Proofs.Arithmetic
import HostBridge.Proofs.Failure
import HostBridge.Proofs.Homogeneous
import HostBridge.Proofs.Layout
import HostBridge.Proofs.Native
import HostBridge.Proofs.Presence
import HostBridge.Proofs.ProxyOutcome
import HostBridge.Proofs.Settings
import HostBridge.Proofs.Spelling
import HostBridge.Proofs.Transient
