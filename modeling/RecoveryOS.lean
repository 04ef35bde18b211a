import RecoveryOS.Worker.Terminal
import RecoveryOS.Worker.Suppression
import RecoveryOS.Webhook.Ledger
import RecoveryOS.Webhook.Evolution
import RecoveryOS.Cases.Service
import RecoveryOS.Voice.Service
import RecoveryOS.Core.Operations
import RecoveryOS.Core.World
import RecoveryOS.Core.Approval
import RecoveryOS.Core.Cancellation
import RecoveryOS.Worker.Recovering
import RecoveryOS.Core.Agreement
import RecoveryOS.Core.Links
import RecoveryOS.Webhook.Inbox
import RecoveryOS.Webhook.Pollers
import RecoveryOS.Core.Commands
import RecoveryOS.Core.Lifecycle
import RecoveryOS.Webhook.Application
import RecoveryOS.Core.Replay
import RecoveryOS.Worker.Aside
import RecoveryOS.Worker.Gate
import RecoveryOS.Worker.Receipt
import RecoveryOS.Worker.Expiry
import RecoveryOS.Lib.Clients
import RecoveryOS.CustomerAgent.Models
import RecoveryOS.CustomerAgent.Service
import RecoveryOS.CustomerAgent.Lifecycle
import RecoveryOS.Lib.Base64
import RecoveryOS.Lib.Reader
import RecoveryOS.CustomerAgent.Wire
import RecoveryOS.CustomerAgent.Signing
import RecoveryOS.Voice.Contact
import RecoveryOS.Voice.Submission
import RecoveryOS.Decision.Ranking
import RecoveryOS.Lib.Register
import RecoveryOS.Reliability.CircuitBreaker
import RecoveryOS.Webhook.Cursor
import RecoveryOS.Webhook.Deliveries
import RecoveryOS.Core.Recommendations
import RecoveryOS.Decision.ContactCap
import RecoveryOS.Voice.ActiveCall
import RecoveryOS.Voice.Progress
import RecoveryOS.A2A.MemoryStore
import RecoveryOS.CustomerAgent.Stores
import RecoveryOS.Core.Arrears
import RecoveryOS.Worker.Disposition
import RecoveryOS.Cases.Channels
import RecoveryOS.Cases.Listing
import RecoveryOS.Cases.Queue
import RecoveryOS.Webhook.Attribution
import RecoveryOS.Cases.Cursor
import RecoveryOS.Lib.Rounds
import RecoveryOS.Razorpay.Collection
import RecoveryOS.Webhook.Normalizer
import RecoveryOS.Worker.Alarm
import RecoveryOS.Worker.Signals
import RecoveryOS.Core.Burned
import RecoveryOS.CustomerAgent.Approval
import RecoveryOS.CustomerAgent.Equality
import RecoveryOS.CustomerAgent.Client
import RecoveryOS.CustomerAgent.Polling
import RecoveryOS.CustomerAgent.Handshake
import RecoveryOS.Lib.JsonNumber
import RecoveryOS.Api.OperatorAuth
import RecoveryOS.Api.OperatorCommands
import RecoveryOS.Reliability.PaymentProjection
import RecoveryOS.Webhook.Dispatcher
import RecoveryOS.Webhook.Handoff
import RecoveryOS.Core.OptOut
import RecoveryOS.Core.CancelledActions
import RecoveryOS.Core.Submissions
