import Watchdog.Foundations.Interleaving
import Watchdog.Foundations.GoMap
import Watchdog.Foundations.Linq
import Watchdog.Foundations.RoundNearest
import Watchdog.Foundations.GoNumeric
import Watchdog.Foundations.GoSlice
import Watchdog.Foundations.GoStd
import Watchdog.Foundations.GoSync
import Watchdog.Foundations.FirstMax
import Watchdog.Foundations.RunningMax
import Watchdog.Model.Rpc
import Watchdog.Model.Value
import Watchdog.Model.Monitor
import Watchdog.Report.Summary
import Watchdog.Consensus.ShardHeight
import Watchdog.Manager.Replies
import Watchdog.Manager.Epoch
import Watchdog.Manager.Pool
import Watchdog.Beacon.Headers
import Watchdog.Consensus.Monitor
import Watchdog.CrossLink.Monitor
import Watchdog.Config.Params
import Watchdog.Config.Instructions
import Watchdog.Report.Handlers
import Watchdog.Beacon.Sync
import Watchdog.Report.Template
import Watchdog.Report.Snapshot
import Watchdog.Report.Network
import Watchdog.Report.Status
import Watchdog.Report.Render
import Watchdog.Cx.Monitor
import Watchdog.P2P.Monitor
