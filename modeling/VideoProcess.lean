import VideoProcess.Go.StallFreedom
import VideoProcess.Go.Redelivery
import VideoProcess.Go.Recovery
import VideoProcess.Autoflow.RightsLaws
import VideoProcess.ChannelOps.QueueLaws
import VideoProcess.Worker.FailureEvent
import VideoProcess.Upload.Submission
import VideoProcess.Delivery.Reconciler
import VideoProcess.Promotion.Allowance
import VideoProcess.Python.FailureClosure
import VideoProcess.Python.ReceiptLaws
import VideoProcess.Features.Exactness
import VideoProcess.ChannelOps.DiscoveryPolicy
import VideoProcess.Validation.Identity
import VideoProcess.Validation.Soundness
import VideoProcess.ChannelOps.LeaderLaws
import VideoProcess.ChannelOps.TickRuns
import VideoProcess.Inventory.Admission
import VideoProcess.ChannelOps.SchedulerLaws
import VideoProcess.Go.QueueClaim
import VideoProcess.Go.Window
import VideoProcess.Finalization
import VideoProcess.Go.RecoveryRunner
import VideoProcess.ChannelOps.LockOrder
import VideoProcess.Python.EventParser
import VideoProcess.ChannelOps.Reward
import VideoProcess.Autoflow.ClipDedupe
import VideoProcess.ChannelOps.Materials
import VideoProcess.Worker.PendingEntries
import VideoProcess.Inventory.Lineage
import VideoProcess.Worker.MergeWindows
