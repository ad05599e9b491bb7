import NativeIpc.Session.ControlChannel
import NativeIpc.Session.Agreement
import NativeIpc.Session.Ledger
import NativeIpc.Session.Pinning
import NativeIpc.Supervisor.Handshake
import NativeIpc.Windows.CapabilityRecord
import NativeIpc.Core.Publication
import NativeIpc.Core.HostileReader
import NativeIpc.Core.Codec
import NativeIpc.Session.FinalSealing
import NativeIpc.Session.Activation
import NativeIpc.Session.PrivateRegion
import NativeIpc.MacOs.ImageIdentity
import NativeIpc.Supervisor.Policy
import NativeIpc.Supervisor.ReportReceiver
import NativeIpc.Session.Prefault
import NativeIpc.Linux.Reaper
import NativeIpc.Linux.BootstrapDescriptor
import NativeIpc.Linux.Ancillary
import NativeIpc.Session.NonceText
import NativeIpc.Supervisor.Watchdog
import NativeIpc.MacOs.ReaperOwnership
