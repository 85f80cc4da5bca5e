import Keryx.Daemon.Service
import Keryx.Store.Sqlite.Crash
import Keryx.Daemon.Backpressure
import Keryx.Daemon.Crossing
import Keryx.Store.Lockstep
import Keryx.Daemon.Cancellation
import Keryx.Relay.Revocation
import Keryx.Relay.Publication
import Keryx.Relay.Retry
import Keryx.Relay.EndToEnd
import Keryx.Daemon.LiveLease
import Keryx.Relay.Generations
import Keryx.Relay.DirectControl
import Keryx.Relay.Loss
import Keryx.Relay.Lifetime
import Keryx.Daemon.Peers
import Keryx.Policy.KeyFile
import Keryx.Policy.Redaction
import Keryx.Sdk.Card
import Keryx.Sdk.Heartbeat
