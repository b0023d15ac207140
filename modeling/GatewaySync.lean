import GatewaySync.Api.Reply
import GatewaySync.Api.Watch
import GatewaySync.CommandLine
import GatewaySync.Controller.Schedule
import GatewaySync.Endpoints
import GatewaySync.Json.Pointer
import GatewaySync.Main
import GatewaySync.WorkQueue.Waiting
import GatewaySync.Text.Shortest
import GatewaySync.Proofs.Convergence
import GatewaySync.Proofs.DocumentEntries
import GatewaySync.Proofs.RestartRecovery
import GatewaySync.Proofs.Settling
import GatewaySync.Proofs.QueueRefinement
import GatewaySync.Proofs.Notifications
import GatewaySync.Proofs.UnreadableSecrets
import GatewaySync.Proofs.StaleWrites
import GatewaySync.Proofs.DocumentText
import GatewaySync.Proofs.Wakeups
import GatewaySync.Proofs.Lifetime
import GatewaySync.Proofs.AnyOrder
import GatewaySync.Proofs.Credentials
import GatewaySync.Proofs.JsonSchema
import GatewaySync.Proofs.RemoteSchema
import GatewaySync.Proofs.Counting
import GatewaySync.Proofs.Ledger
import GatewaySync.Proofs.Metering
import GatewaySync.Proofs.RestartChain
import GatewaySync.Proofs.CacheAhead
import GatewaySync.Proofs.WriteOrder
import GatewaySync.Proofs.DocumentContents
import GatewaySync.Proofs.Leases
import GatewaySync.Proofs.Shutdown
import GatewaySync.Proofs.WrittenNames
import GatewaySync.Proofs.DelayedKeys
import GatewaySync.Proofs.PublishedStatus
