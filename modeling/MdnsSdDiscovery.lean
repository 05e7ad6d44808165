import MdnsSdDiscovery.Lib.Runs
import MdnsSdDiscovery.Lib.Slots
import MdnsSdDiscovery.Lib.Utf8
import MdnsSdDiscovery.Lib.Frames
import MdnsSdDiscovery.Browse
import MdnsSdDiscovery.Txt
import MdnsSdDiscovery.Lookup
import MdnsSdDiscovery.Linux.Browse
import MdnsSdDiscovery.Linux.Advertised
import MdnsSdDiscovery.Lib.Supervision
import MdnsSdDiscovery.Lib.Tracking
import MdnsSdDiscovery.Lib.Traced
import MdnsSdDiscovery.Lib.Futures
import MdnsSdDiscovery.Lib.Receivers
import MdnsSdDiscovery.Linux.Teardown
import MdnsSdDiscovery.Linux.Cascade
import MdnsSdDiscovery.Linux.Ledger
import MdnsSdDiscovery.Linux.Receive
import MdnsSdDiscovery.Linux.Tracking
import MdnsSdDiscovery.Linux.Subscription
import MdnsSdDiscovery.Macos.MetaReply
import MdnsSdDiscovery.Macos.Pump
import MdnsSdDiscovery.Macos.Cascade
import MdnsSdDiscovery.Macos.Release
import MdnsSdDiscovery.Macos.Threads
import MdnsSdDiscovery.Macos.Tracking
import MdnsSdDiscovery.Windows.Browse
import MdnsSdDiscovery.Windows.Registry
import MdnsSdDiscovery.Windows.Ownership
import MdnsSdDiscovery.Windows.Contexts
import MdnsSdDiscovery.Backends.ServiceTypes
import MdnsSdDiscovery.Windows.Scope
import MdnsSdDiscovery.Windows.Lifecycle
import MdnsSdDiscovery.Windows.Teardown
import MdnsSdDiscovery.Windows.Cascade
import MdnsSdDiscovery.Lib.Utf16
import MdnsSdDiscovery.Windows.Resolve
import MdnsSdDiscovery.Windows.Instances
import MdnsSdDiscovery.Windows.Channel
import MdnsSdDiscovery.Backends.TxtRecords
import MdnsSdDiscovery.Macos.Resolve
import MdnsSdDiscovery.Lib.Shuffle
import MdnsSdDiscovery.Macos.Replies
import MdnsSdDiscovery.Macos.Operations
import MdnsSdDiscovery.Windows.Names
import MdnsSdDiscovery.Windows.Probe
import MdnsSdDiscovery.Backends.Identities
import MdnsSdDiscovery.Lib.IpText
import MdnsSdDiscovery.Backends.Addresses
