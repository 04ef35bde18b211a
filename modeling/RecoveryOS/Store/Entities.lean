import RecoveryOS.Lib.Table
import RecoveryOS.Webhook.Event
import RecoveryOS.A2A.NonceStore

/-!
# The persisted entities

The tables of `models/entities.py`, with the columns that the modelled code reads or writes. An
`insert` is what the flush of a new row does: it fails where a uniqueness or check constraint of the
table is violated, or, for a recognition or a voice receipt, where it refers to nothing. The other
foreign keys, the widths of the columns and the checks on columns that are not here are left out:
where the database would refuse a row on their account, the model goes on. The updates of the
modelled code never change a key.
-/

namespace RecoveryOS.Store

structure Merchant where
  id : String
  timezone : String

structure MerchantPolicySetting where
  merchantId : String
  quietHoursStart : Option String
  quietHoursEnd : Option String
  maxContactsPer7Days : Option ℤ
  requireApprovalAbovePaise : Option ℤ
  requireApprovalActions : List String
  recoveryKillSwitch : Bool

structure Customer where
  id : String
  merchantId : String
  phoneToken : Option String
  voiceConsentAt : Option Instant
  optedOutAt : Option Instant
  customerAgentAvailable : Bool
  createdAt : Instant

structure Subscription where
  id : String
  merchantId : String
  customerId : String
  providerSubscriptionId : String
  currency : String
  subscriptionState : SubscriptionState
  currentBillingCycleKey : Option String

structure Invoice where
  id : String
  merchantId : String
  subscriptionId : String
  providerInvoiceId : String
  billingCycleKey : String
  amountPaise : ℤ
  amountPaidPaise : ℤ
  currency : String
  invoiceState : String
  dueAt : Option Instant

structure PaymentAttempt where
  id : String
  merchantId : String
  invoiceId : String
  subscriptionId : String
  providerPaymentId : Option String
  amountPaise : ℤ
  currency : String
  paymentState : PaymentState
  method : Option String
  errorCode : Option String
  errorSource : Option String
  errorStep : Option String
  errorReason : Option String
  occurredAt : Instant

structure RecoveryCase where
  id : String
  merchantId : String
  customerId : String
  subscriptionId : String
  failedInvoiceId : Option String
  billingCycleKey : Option String
  failedPaymentId : Option String
  caseOutcome : CaseOutcome
  paymentState : PaymentState
  subscriptionState : SubscriptionState
  contactDisposition : ContactDisposition
  revenueAttribution : RevenueAttribution
  diagnosis : Diagnosis
  amountAtRiskPaise : ℤ
  arrearsCollectedPaise : ℤ
  caseRecovered : Bool
  subscriptionReactivated : Bool
  openedAt : Instant
  recoveryDeadline : Instant
  recoveredAt : Option Instant
  version : ℤ

structure PolicyDecisionRecord where
  id : String
  caseId : String
  actionId : Option String
  disposition : PolicyDisposition
  decisionCode : String
  reasonCodes : List String
  reasons : List String
  policyVersion : String
  delayUntil : Option Instant
  createdAt : Instant

structure RecoveryActionRecord where
  id : String
  caseId : String
  actionType : RecoveryActionType
  paymentSurfaceType : Option PaymentSurfaceType
  status : ActionStatus
  idempotencyKey : String
  scheduledFor : Option Instant
  externalReference : Option String
  customerUrl : Option String
  completedAt : Option Instant
  createdAt : Instant

/-- An audit event. The source's payload is text for people; what an event is about is in its
`sourceEventId`. -/
structure RecoveryEventRecord where
  caseId : String
  eventType : String
  source : String
  occurredAt : Instant
  sourceEventId : Option String

structure RevenueRecognitionRecord where
  caseId : String
  merchantId : String
  paymentAttemptId : Option String
  provider : String
  providerEventId : String
  amountPaise : ℤ
  attribution : RevenueAttribution
  arrearsCollected : Bool
  subscriptionReactivated : Bool
  recognizedAt : Instant

structure WebhookInboxEntry where
  id : String
  merchantId : String
  provider : String
  providerEventId : String
  eventType : String
  payload : List (String × Json)
  occurredAt : Option Instant
  processedAt : Option Instant
  processingErrorCode : Option String

/-- A row of the outbox; the payload is `none` if `RazorpayOutboxPayload` does not validate it. -/
structure OutboxMessage where
  id : String
  aggregateType : String
  eventType : String
  payload : Option Webhook.RazorpayOutboxPayload
  deduplicationKey : String
  availableAt : Instant
  publishedAt : Option Instant
  attemptCount : ℕ
  lastErrorCode : Option String
  createdAt : Instant

/-- The states of a call, of which the last eight are final. -/
inductive VoiceStatus where
  | reserved
  | uncertain
  | submitted
  | ringing
  | inProgress
  | busy
  | canceled
  | completed
  | failed
  | noAnswer
  | rejected
  | cancelPending
  | cancelUncertain
  deriving DecidableEq, Repr

structure VoiceContactAttemptRecord where
  id : String
  merchantId : String
  caseId : String
  customerId : String
  idempotencyKey : String
  provider : String
  providerCallId : Option String := none
  status : VoiceStatus
  disposition : Option String := none
  transcript : Option String := none
  detectedIntent : Option String := none
  confidenceBasisPoints : Option ℤ := none
  durationSeconds : Option ℤ := none
  disclosureDeliveredAt : Option Instant := none
  uncertainSubmission : Bool := false
  createdAt : Instant

structure VoiceWebhookReceiptRecord where
  provider : String
  providerEventId : String
  attemptId : Option String

structure VoiceSuppressionRecord where
  merchantId : String
  customerId : String
  sourceAttemptId : Option String
  reasonCode : String

structure Database where
  merchants : List Merchant := []
  settings : List MerchantPolicySetting := []
  customers : List Customer := []
  subscriptions : List Subscription := []
  invoices : List Invoice := []
  payments : List PaymentAttempt := []
  cases : List RecoveryCase := []
  policies : List PolicyDecisionRecord := []
  actions : List RecoveryActionRecord := []
  events : List RecoveryEventRecord := []
  recognitions : List RevenueRecognitionRecord := []
  inbox : List WebhookInboxEntry := []
  outbox : List OutboxMessage := []
  nonces : List A2A.A2AMandateNonceConsumption := []
  voiceAttempts : List VoiceContactAttemptRecord := []
  voiceReceipts : List VoiceWebhookReceiptRecord := []
  voiceSuppressions : List VoiceSuppressionRecord := []

namespace Database

def insertInvoice (r : Invoice) (db : Database) : Option Database :=
  (Table.insert
    (fun r => decide (0 ≤ r.amountPaise) && decide (0 ≤ r.amountPaidPaise) &&
      decide (r.amountPaidPaise ≤ r.amountPaise))
    (fun x r => decide (x.id = r.id) ||
      decide (x.merchantId = r.merchantId) && decide (x.providerInvoiceId = r.providerInvoiceId) ||
      decide (x.merchantId = r.merchantId) && decide (x.subscriptionId = r.subscriptionId) &&
        decide (x.billingCycleKey = r.billingCycleKey))
    db.invoices r).map fun rows => { db with invoices := rows }

def insertPayment (r : PaymentAttempt) (db : Database) : Option Database :=
  (Table.insert (fun r => decide (0 ≤ r.amountPaise))
    (fun x r => decide (x.id = r.id) ||
      decide (x.merchantId = r.merchantId) && r.providerPaymentId.isSome &&
        decide (x.providerPaymentId = r.providerPaymentId))
    db.payments r).map fun rows => { db with payments := rows }

def insertCase (r : RecoveryCase) (db : Database) : Option Database :=
  (Table.insert
    (fun r => (r.failedInvoiceId.isSome || r.billingCycleKey.isSome) &&
      decide (0 ≤ r.amountAtRiskPaise) && decide (0 ≤ r.arrearsCollectedPaise) &&
      decide (1 ≤ r.version) && decide (r.openedAt < r.recoveryDeadline))
    (fun x r => decide (x.id = r.id) ||
      decide (x.merchantId = r.merchantId) && r.failedInvoiceId.isSome &&
        decide (x.failedInvoiceId = r.failedInvoiceId) ||
      decide (x.merchantId = r.merchantId) && x.failedInvoiceId.isNone &&
        r.failedInvoiceId.isNone && r.billingCycleKey.isSome &&
        decide (x.billingCycleKey = r.billingCycleKey))
    db.cases r).map fun rows => { db with cases := rows }

def insertPolicy (r : PolicyDecisionRecord) (db : Database) : Option Database :=
  (Table.insert (fun r => decide (r.disposition = .delay) == r.delayUntil.isSome)
    (fun x r => decide (x.id = r.id))
    db.policies r).map fun rows => { db with policies := rows }

def insertAction (r : RecoveryActionRecord) (db : Database) : Option Database :=
  (Table.insert
    (fun r => decide (r.actionType = .openCustomerPaymentSurface) == r.paymentSurfaceType.isSome)
    (fun x r => decide (x.id = r.id) || decide (x.idempotencyKey = r.idempotencyKey))
    db.actions r).map fun rows => { db with actions := rows }

/-- An action and the policy decision about it. -/
def insertActionWithPolicy (a : RecoveryActionRecord) (p : PolicyDecisionRecord) (db : Database) :
    Option Database :=
  (db.insertAction a).bind (insertPolicy p)

def insertEvent (r : RecoveryEventRecord) (db : Database) : Option Database :=
  (Table.insert (fun _ => true)
    (fun x r => decide (x.caseId = r.caseId) && r.sourceEventId.isSome &&
      decide (x.sourceEventId = r.sourceEventId))
    db.events r).map fun rows => { db with events := rows }

def insertRecognition (r : RevenueRecognitionRecord) (db : Database) : Option Database :=
  (Table.insert
    (fun r => decide (0 < r.amountPaise) && decide (r.attribution ≠ .none) &&
      (db.cases.any fun c => c.id = r.caseId) &&
      r.paymentAttemptId.all fun id => db.payments.any fun p => p.id = id)
    (fun x r => decide (x.merchantId = r.merchantId) && decide (x.provider = r.provider) &&
      decide (x.providerEventId = r.providerEventId))
    db.recognitions r).map fun rows => { db with recognitions := rows }

/-- At most one call may be active on the platform. -/
def activeVoice (s : VoiceStatus) : Bool :=
  s ∈ [VoiceStatus.reserved, .submitted, .ringing, .inProgress]

/-- An attempt under its unique keys. Its foreign keys, its widths and the ranges of the confidence and
the duration are left out. -/
def insertVoiceAttempt (r : VoiceContactAttemptRecord) (db : Database) : Option Database :=
  (Table.insert (fun _ => true)
    (fun x r => decide (x.id = r.id) || decide (x.idempotencyKey = r.idempotencyKey) ||
      x.providerCallId.isSome && decide (x.providerCallId = r.providerCallId) ||
      activeVoice x.status && activeVoice r.status)
    db.voiceAttempts r).map fun rows => { db with voiceAttempts := rows }

def insertVoiceReceipt (r : VoiceWebhookReceiptRecord) (db : Database) : Option Database :=
  (Table.insert (fun r => r.attemptId.all fun id => db.voiceAttempts.any fun a => a.id = id)
    (fun x r => decide (x.provider = r.provider) && decide (x.providerEventId = r.providerEventId))
    db.voiceReceipts r).map fun rows => { db with voiceReceipts := rows }

/-- A suppression under its unique key; its foreign keys are left out. -/
def insertVoiceSuppression (r : VoiceSuppressionRecord) (db : Database) : Option Database :=
  (Table.insert (fun _ => true)
    (fun x r => decide (x.merchantId = r.merchantId) && decide (x.customerId = r.customerId))
    db.voiceSuppressions r).map fun rows => { db with voiceSuppressions := rows }

def putCustomer (r : Customer) (db : Database) : Database :=
  { db with customers := Table.put (·.id) db.customers r }

def putVoiceAttempt (r : VoiceContactAttemptRecord) (db : Database) : Database :=
  { db with voiceAttempts := Table.put (·.id) db.voiceAttempts r }

def putSubscription (r : Subscription) (db : Database) : Database :=
  { db with subscriptions := Table.put (·.id) db.subscriptions r }

def putInvoice (r : Invoice) (db : Database) : Database :=
  { db with invoices := Table.put (·.id) db.invoices r }

def putPayment (r : PaymentAttempt) (db : Database) : Database :=
  { db with payments := Table.put (·.id) db.payments r }

def putCase (r : RecoveryCase) (db : Database) : Database :=
  { db with cases := Table.put (·.id) db.cases r }

def putAction (r : RecoveryActionRecord) (db : Database) : Database :=
  { db with actions := Table.put (·.id) db.actions r }

def putInbox (r : WebhookInboxEntry) (db : Database) : Database :=
  { db with inbox := Table.put (·.id) db.inbox r }

def putOutbox (r : OutboxMessage) (db : Database) : Database :=
  { db with outbox := Table.put (·.id) db.outbox r }

/-- `update(RecoveryActionRecord)` to `CANCELLED`, for the open actions of a case. -/
def cancelNonterminalActions (caseId : String) (completedAt : Instant) (db : Database) : Database :=
  { db with
    actions := db.actions.map fun a =>
      if a.caseId = caseId ∧
          a.status ∈ [ActionStatus.proposed, .awaitingApproval, .scheduled, .executing] then
        { a with status := .cancelled, completedAt := some completedAt }
      else a }

/-- Write back a case that is closed, and cancel what is open of its actions. -/
def closeCase (c : RecoveryCase) (t : Instant) (db : Database) : Database :=
  (db.putCase c).cancelNonterminalActions c.id t

/-- Write back a case after a capture; one that is recovered is closed. -/
def settle (c : RecoveryCase) (t : Instant) (db : Database) : Database :=
  if c.caseRecovered then db.closeCase c t else db.putCase c

end Database

end RecoveryOS.Store
