import SentinelFlow.AdminAuth.Limiter
import SentinelFlow.AuthBinding.Backlog
import SentinelFlow.Command.Agreement
import SentinelFlow.Correlation.Explained
import SentinelFlow.Correlation.Intake
import SentinelFlow.Delivery.Senders
import SentinelFlow.Detection.Stability
import SentinelFlow.DetectionWorker.Reproduce
import SentinelFlow.DetectionWorker.Routing
import SentinelFlow.EventSender.Recovery
import SentinelFlow.Executor.Soundness
import SentinelFlow.ExportBundle.Evidence
import SentinelFlow.ExportBundle.Faults
import SentinelFlow.Executor.Exchange
import SentinelFlow.Journal.Truncation
import SentinelFlow.Gateway.Classify
import SentinelFlow.Gateway.Headers
import SentinelFlow.NftValidate.Candidate
import SentinelFlow.NftValidate.Schema
import SentinelFlow.NftValidator.Protocol
import SentinelFlow.Policy.ResponsePolicy
