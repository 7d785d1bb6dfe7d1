import Todex.Conversation.DigestScan
import Todex.Conversation.Segment.Build
import Todex.Conversation.Segment.Index
import Todex.Conversation.Store.EnsureDigest
import Todex.Conversation.Store.Committed
import Todex.Conversation.CoalesceRuns
import Todex.FollowUps.Continuation
import Todex.Devices.Revoked
import Todex.DeviceAuth.SingleUse
import Todex.HistoryKeys.Blocked
import Todex.HistoryKeys.Readers
import Todex.DevicePairing.Admission
import Todex.AgentDesktop.Switch
import Todex.Workspaces.Batches
import Todex.Kanban.Store
import Todex.Ssh.Wildcard
import Todex.Ssh.ConfigFile
import Todex.AgentCalls.Limits
import Todex.AgentCalls.Stopped
import Todex.AgentCalls.Reported
import Todex.AgentCalls.EventPump
import Todex.Provider.BoundedLine
import Todex.Provider.HistoryCleanup
import Todex.Provider.Prewarm
import Todex.Provider.ProcessRegistry
import Todex.ApiKeys.Revoked
import Todex.Permissions.AnsweredOnce
import Todex.Resident.OneProcess
import Todex.Dsh.Lock
import Todex.AgentDesktop.Status
import Todex.Audit.Reopens
import Todex.Audit.Rotation
import Todex.Update.Install
