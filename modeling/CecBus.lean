import CecBus.Main
import CecBus.Proofs.AddressPool.Holding
import CecBus.Proofs.Bus.Announcing
import CecBus.Proofs.Bus.Commuting
import CecBus.Proofs.Bus.Dealing
import CecBus.Proofs.Bus.FreePorts
import CecBus.Proofs.Bus.Nesting
import CecBus.Proofs.Bus.Reporting
import CecBus.Proofs.Bus.Sources
import CecBus.Proofs.Bus.Sparing
import CecBus.Proofs.Component.Answering
import CecBus.Proofs.Component.Claiming
import CecBus.Proofs.Component.Crowd
import CecBus.Proofs.Component.Folding
import CecBus.Proofs.Component.Refusals
import CecBus.Proofs.Component.Reopening
import CecBus.Proofs.Component.Serving
import CecBus.Proofs.Component.Wrapping
import CecBus.Proofs.DeviceTree.Histories
import CecBus.Proofs.DeviceTree.Parts
import CecBus.Proofs.DeviceTree.Ports
import CecBus.Proofs.DeviceTree.Reading
import CecBus.Proofs.DeviceTree.Removal
import CecBus.Proofs.DeviceTree.Staging
import CecBus.Proofs.Frame.Buffers
import CecBus.Proofs.Frame.Codec
import CecBus.Proofs.Frame.Filling
import CecBus.Proofs.Frame.Spelling
import CecBus.Proofs.Frame.Typed
import CecBus.Proofs.Profile.Items
import CecBus.Proofs.Profile.Scalars
import CecBus.Proofs.Queue.Counting
import CecBus.Proofs.Queue.Draining
import CecBus.Proofs.Settings.Layers
