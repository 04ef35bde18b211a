import RecoveryOS.Domain

/-!
# The workflow's commands and results

The transport models of `contracts.py`. A value that crosses the activity boundary as `str` stays
a string here: an activity may answer with any text.
-/

namespace RecoveryOS.Worker

structure ProviderEvent where
  eventId : String
  eventType : String
  occurredAt : String
  payload : List (String × Json) := []

structure RecoveryWorkflowInput where
  caseId : String
  merchantId : String
  customerId : String
  subscriptionId : String
  failedInvoiceId : Option String
  failedPaymentId : Option String
  amountAtRiskPaise : ℤ
  currency : String
  recoveryDeadline : String
  failureEvent : ProviderEvent
  candidateAction : String := "OPEN_CUSTOMER_PAYMENT_SURFACE"
  paymentSurfaceType : Option String := some "SUBSCRIPTION_INVOICE_LINK"
  paymentSurfaceReference : Option String := none
  providerSubscriptionId : Option String := none
  providerInvoiceId : Option String := none
  recoveryActionId : Option String := none

structure NormalizeFailureInput where
  caseId : String
  merchantId : String
  subscriptionId : String
  failedInvoiceId : Option String
  failedPaymentId : Option String
  event : ProviderEvent

structure NormalizedFailure where
  caseId : String
  providerEventId : String
  paymentState : String
  subscriptionState : String
  reasonCode : Option String
  authoritative : Bool
  occurredAt : String

structure DiagnosisInput where
  caseId : String
  failure : NormalizedFailure

structure DiagnosisResult where
  diagnosis : String
  confidence : ℚ
  reasonCodes : List String := []

structure ScoreInput where
  caseId : String
  amountAtRiskPaise : ℤ
  diagnosis : String
  candidateAction : String

structure ScoreResult where
  modelName : String
  modelVersion : String
  recoveryProbability : ℚ
  expectedRecoveredPaise : ℤ
  expectedUtilityPaise : ℤ
  explanation : List String := []

structure PolicyInput where
  caseId : String
  merchantId : String
  amountAtRiskPaise : ℤ
  diagnosis : String
  candidateAction : String
  paymentSurfaceType : Option String
  recoveryDeadline : String

structure PolicyResult where
  disposition : String
  decisionCode : String
  action : String
  paymentSurfaceType : Option String
  reasonCodes : List String := []
  delayUntil : Option String := none

structure ExecuteActionInput where
  caseId : String
  merchantId : String
  customerId : String
  subscriptionId : String
  failedInvoiceId : Option String
  amountPaise : ℤ
  currency : String
  action : String
  paymentSurfaceType : Option String
  recoveryDeadline : String
  idempotencyKey : String
  mandate : Option Json := none
  providerSubscriptionId : Option String := none
  providerInvoiceId : Option String := none
  recoveryActionId : Option String := none

structure ActionExecutionResult where
  status : String
  provider : String
  providerReference : Option String := none
  customerUrl : Option String := none
  reasonCode : Option String := none

structure StartA2AAuthorizationInput where
  caseId : String
  merchantId : String
  customerId : String
  exactAmountPaise : ℤ
  currency : String
  paymentSurfaceType : String
  paymentSurfaceReference : String
  recoveryDeadline : String
  idempotencyKey : String
  recoveryActionId : Option String := none
  failedInvoiceId : Option String := none
  providerInvoiceId : Option String := none

structure A2AAuthorizationResult where
  remoteTaskId : String
  state : String
  approvalPath : Option String := none

structure PollA2AMandateInput where
  remoteTaskId : String
  caseId : String
  merchantId : String
  customerId : String
  exactAmountPaise : ℤ
  currency : String
  paymentSurfaceType : String
  paymentSurfaceReference : String
  recoveryDeadline : String
  recoveryActionId : Option String := none
  failedInvoiceId : Option String := none
  providerInvoiceId : Option String := none

structure A2AMandatePollResult where
  remoteTaskId : String
  taskState : String
  verificationStatus : String
  mandateId : Option String := none
  verifiedArtifact : Option Json := none
  reasonCode : Option String := none

/-- `observedAt` is the instant whose ISO text the source sends. -/
structure SendA2APaymentReceiptInput where
  remoteTaskId : String
  mandateId : String
  merchantId : String
  caseId : String
  exactAmountPaise : ℤ
  currency : String
  providerReference : String
  observedAt : Instant
  idempotencyKey : String
  recoveryActionId : Option String := none
  failedInvoiceId : Option String := none

structure A2APaymentReceiptResult where
  remoteTaskId : String
  taskState : String
  delivered : Bool

structure ReconciliationInput where
  caseId : String
  merchantId : String
  failedInvoiceId : Option String
  failedPaymentId : Option String
  triggerEventId : String
  paymentStateHint : Option String := none
  amountPaiseHint : Option ℤ := none
  authoritativeHint : Bool := false

structure ReconciliationResult where
  paymentState : String
  subscriptionState : String
  authoritative : Bool
  caseRecovered : Bool
  arrearsCollectedPaise : ℤ
  subscriptionReactivated : Bool
  providerReference : Option String := none

structure AuditInput where
  caseId : String
  eventType : String
  correlationId : String
  details : List (String × Json) := []

structure AuditResult where
  auditEventId : String
  recorded : Bool

structure CancelActionInput where
  caseId : String
  providerReference : Option String
  reason : String
  idempotencyKey : String

structure CancelActionResult where
  cancelled : Bool
  reasonCode : Option String := none

structure PaymentEventSignal where
  signalId : String
  providerEventId : String
  paymentState : String
  amountPaise : ℤ
  authoritative : Bool

structure CustomerIntentSignal where
  signalId : String
  intent : String
  confidence : Option ℚ := none

structure ApprovalSignal where
  signalId : String
  approved : Bool
  reviewerId : String
  reason : Option String := none

structure OptOutSignal where
  signalId : String
  source : String
  reason : Option String := none

structure CancellationSignal where
  signalId : String
  reason : String
  requestedBy : String

structure OperatorEscalationSignal where
  signalId : String
  reason : String
  requestedBy : String

structure A2AUpdateSignal where
  signalId : String
  remoteTaskId : String
  state : String
  artifact : Option Json := none

structure MandateSignal where
  signalId : String
  mandateId : String
  verified : Bool
  paymentSurfaceReference : String
  exactAmountPaise : ℤ
  expiresAt : String
  artifact : List (String × Json) := []

/-- A queued signal: its kind with the fields of the signal that was sent. -/
inductive QueuedSignal where
  | paymentEvent (sig : PaymentEventSignal)
  | customerIntent (sig : CustomerIntentSignal)
  | approval (sig : ApprovalSignal)
  | optOut (sig : OptOutSignal)
  | cancellation (sig : CancellationSignal)
  | operatorEscalation (sig : OperatorEscalationSignal)
  | a2aUpdate (sig : A2AUpdateSignal)
  | mandate (sig : MandateSignal)

def QueuedSignal.signalId : QueuedSignal → String
  | .paymentEvent sig => sig.signalId
  | .customerIntent sig => sig.signalId
  | .approval sig => sig.signalId
  | .optOut sig => sig.signalId
  | .cancellation sig => sig.signalId
  | .operatorEscalation sig => sig.signalId
  | .a2aUpdate sig => sig.signalId
  | .mandate sig => sig.signalId

structure RecoveryWorkflowResult where
  caseId : String
  outcome : CaseOutcome
  paymentState : String
  subscriptionState : String
  caseRecovered : Bool
  arrearsCollectedPaise : ℤ
  subscriptionReactivated : Bool
  contactDisposition : ContactDisposition
  processedSignalCount : ℕ
  duplicateSignalCount : ℕ

end RecoveryOS.Worker
