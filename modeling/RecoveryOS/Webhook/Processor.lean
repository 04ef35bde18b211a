import RecoveryOS.Decision.Engine
import RecoveryOS.Webhook.Evidence

/-!
# The Razorpay outbox processor

`webhooks/processor.py`. A call of `process_next` takes one message of the outbox and applies its
event inside a transaction; whatever it raises rolls that transaction back, and only the attempt is
recorded. The effects on the case are committed before the downstream signal is sent, so a replay
finds them done.

Rows that the source holds as ORM objects are values here, and are written back with `put`.
-/

namespace RecoveryOS.Webhook

open Store

/-! ## What a call sees of the world -/

/-- What the deployment fixes: SHA-256 as a hex digest, and the time zone database. -/
structure Platform where
  sha256 : String → String
  zoneInfo : String → Option Safety.Zone

/-- The first `n` digits of a digest. -/
def Platform.digest (platform : Platform) (n : ℕ) (s : String) : String :=
  String.ofList ((platform.sha256 s).toList.take n)

structure RazorpayDownstreamSignal where
  idempotencyKey : String
  merchantId : String
  providerEventId : String
  eventType : String
  caseId : Option String
  normalizedEvent : NormalizedRazorpayEvent
  effects : List (String × Json)

/-- The points at which a call commits. -/
inductive Commit where
  | authorization
  | completion
  | failure
  deriving DecidableEq

/-- One call of `process_next`: the processor it is made on, the readings of its clock, the replies
of the provider, the scorer and the signal's receiver, and the commits that the database accepts. -/
structure Call where
  now : Instant
  evaluatedAt : Instant
  completedAt : Instant
  failedAt : Instant
  utcNow : Instant
  retryBaseDelay : ℤ
  dispatchLease : ℤ
  globalKillSwitch : Bool
  locked : OutboxMessage → Bool
  fetchPaymentSnapshot : String → Option String → String → Except ProcessingError PaymentSnapshot
  fetchInvoiceSnapshot : Option (String → String → Except ProcessingError InvoiceSnapshot)
  capabilities : Decision.Capabilities
  scorer : Decision.RecoveryActionCandidate → Except String Decision.RecoveryScoreResult
  downstreamSignal : RazorpayDownstreamSignal → Bool
  commits : Commit → Bool
  delay_nonneg : 0 ≤ retryBaseDelay
  lease_pos : 0 < dispatchLease

structure Correlation where
  subscription : Option Subscription
  invoice : Option Invoice
  recoveryCase : Option RecoveryCase

abbrev Work := Tx ProcessingError Database

def integrityError : ProcessingError := .other "IntegrityError"

/-- An exception that is none of the integration's own. -/
def raises {α : Type} : Except String α → Except ProcessingError α
  | .ok a => .ok a
  | .error message => .error (.other message)

section
variable (platform : Platform) (call : Call)

/-! ## Correlation -/

/-- `_find_inbox`. -/
def findInbox (payload : RazorpayOutboxPayload) (db : Database) : Option WebhookInboxEntry :=
  db.inbox.find? fun e =>
    e.merchantId = payload.merchantId ∧ e.provider = "razorpay" ∧
      e.providerEventId = payload.event.providerEventId

/-- `_lock_inbox`. -/
def lockInbox (payload : RazorpayOutboxPayload) : Work WebhookInboxEntry := do
  let found ← Tx.query (findInbox payload)
  let inbox ← Tx.expect found (.integration "RAZORPAY_INBOX_NOT_FOUND"
    "Outbox message has no matching Razorpay inbox entry.")
  Tx.require inbox.processedAt.isNone (.integration "RAZORPAY_INBOX_ALREADY_PROCESSED"
    "Published state is inconsistent with an already processed inbox entry.")
  pure inbox

def findInvoice (merchantId providerInvoiceId : String) (db : Database) : Option Invoice :=
  db.invoices.find? fun i =>
    i.merchantId = merchantId ∧ i.providerInvoiceId = providerInvoiceId

def findSubscription (merchantId providerSubscriptionId : String) (db : Database) :
    Option Subscription :=
  db.subscriptions.find? fun s =>
    s.merchantId = merchantId ∧ s.providerSubscriptionId = providerSubscriptionId

def getSubscription (merchantId id : String) (db : Database) : Option Subscription :=
  db.subscriptions.find? fun s => s.id = id ∧ s.merchantId = merchantId

def correlationMismatch (message : String) : ProcessingError :=
  .integration "RAZORPAY_CORRELATION_MISMATCH" message

/-- `_invoice_id`. -/
def invoiceId (merchantId providerInvoiceId : String) : String :=
  "invoice_rzp_" ++ platform.digest 40 (merchantId ++ ":" ++ providerInvoiceId)

/-- `_invoice_billing_cycle_key`. -/
def invoiceBillingCycleKey (providerInvoiceId : String) : String :=
  let value := "razorpay:" ++ providerInvoiceId
  if value.length ≤ 64 then value else "razorpay:" ++ platform.digest 40 providerInvoiceId

/-- The invoice that `_hydrate_webhook_invoice` persists. -/
def hydratedInvoice (merchantId : String) (subscription : Subscription)
    (snapshot : InvoiceSnapshot) : Invoice where
  id := invoiceId platform merchantId snapshot.invoiceId
  merchantId := merchantId
  subscriptionId := subscription.id
  providerInvoiceId := snapshot.invoiceId
  billingCycleKey := invoiceBillingCycleKey platform snapshot.invoiceId
  amountPaise := snapshot.amountPaise
  amountPaidPaise := snapshot.amountPaidPaise
  currency := snapshot.currency
  invoiceState := snapshot.invoiceState
  dueAt := snapshot.dueAt

/-- `_hydrate_webhook_invoice`, for the invoice that the event names. -/
def hydrateWebhookInvoice (payload : RazorpayOutboxPayload) (eventInvoiceId : String) :
    Work Invoice := do
  let event := payload.event
  let fetch ← Tx.expect call.fetchInvoiceSnapshot (.integration "RAZORPAY_INVOICE_NOT_CORRELATED"
    "Webhook invoice does not belong to this merchant.")
  let snapshot ← Tx.call (fetch payload.merchantId eventInvoiceId)
  Tx.require (snapshot.authoritative && decide (snapshot.provider = "razorpay") &&
      decide (snapshot.invoiceId = eventInvoiceId))
    (.integration "RAZORPAY_INVOICE_FETCH_UNTRUSTED"
      "Provider lookup did not authoritatively confirm the webhook invoice.")
  Tx.require ((truthy event.subscriptionId).all fun s => decide (s = snapshot.subscriptionId))
    (correlationMismatch "Webhook subscription does not match the authoritative invoice.")
  let found ← Tx.query (findSubscription payload.merchantId snapshot.subscriptionId)
  let subscription ← Tx.expect found (.integration "RAZORPAY_SUBSCRIPTION_NOT_CORRELATED"
    "Webhook invoice belongs to a subscription that has not been connected.")
  Tx.require (decide (subscription.currency = snapshot.currency))
    (.integration "RAZORPAY_INVOICE_CURRENCY_MISMATCH"
      "Authoritative invoice currency does not match the connected subscription.")
  let existing ← Tx.query (findInvoice payload.merchantId snapshot.invoiceId)
  match existing with
  | some invoice =>
    Tx.require (decide (invoice.subscriptionId = subscription.id))
      (.integration "RAZORPAY_INVOICE_SUBSCRIPTION_CONFLICT"
        "Razorpay invoice is already bound to another subscription.")
    pure invoice
  | none =>
    let invoice := hydratedInvoice platform payload.merchantId subscription snapshot
    Tx.attempt (Database.insertInvoice invoice) integrityError
    Tx.modifyIf subscription.currentBillingCycleKey.isNone (Database.putSubscription
      { subscription with currentBillingCycleKey := some invoice.billingCycleKey })
    pure invoice

/-- The part of `_correlate` that looks for the case the event names. -/
def correlateCase (payload : RazorpayOutboxPayload) : Work (Option RecoveryCase) :=
  match truthy payload.event.caseId with
  | none => pure none
  | some caseId => do
    let found ← Tx.query fun db : Database =>
      db.cases.find? fun c => c.id = caseId ∧ c.merchantId = payload.merchantId
    let recoveryCase ← Tx.expect found (.integration "RAZORPAY_CASE_NOT_CORRELATED"
      "Webhook case_id does not belong to this merchant.")
    pure (some recoveryCase)

/-- The part of `_correlate` that looks for the invoice. -/
def correlateInvoice (payload : RazorpayOutboxPayload) (recoveryCase : Option RecoveryCase) :
    Work (Option Invoice) :=
  match truthy payload.event.invoiceId, recoveryCase.bind fun c => truthy c.failedInvoiceId with
  | some eventInvoiceId, _ => do
    let found ← Tx.query (findInvoice payload.merchantId eventInvoiceId)
    match found with
    | some invoice => pure (some invoice)
    | none => do
      let invoice ← hydrateWebhookInvoice platform call payload eventInvoiceId
      pure (some invoice)
  | none, some id =>
    Tx.query fun db : Database =>
      db.invoices.find? fun i => i.id = id ∧ i.merchantId = payload.merchantId
  | none, none => pure none

/-- The part of `_correlate` that looks for the subscription. -/
def correlateSubscription (payload : RazorpayOutboxPayload) (recoveryCase : Option RecoveryCase)
    (invoice : Option Invoice) : Work (Option Subscription) :=
  match truthy payload.event.subscriptionId, invoice, recoveryCase with
  | some id, _, _ => do
    let found ← Tx.query (findSubscription payload.merchantId id)
    let subscription ← Tx.expect found (.integration "RAZORPAY_SUBSCRIPTION_NOT_CORRELATED"
      "Webhook subscription does not belong to this merchant.")
    pure (some subscription)
  | none, some invoice, _ => Tx.query (getSubscription payload.merchantId invoice.subscriptionId)
  | none, none, some recoveryCase =>
    Tx.query (getSubscription payload.merchantId recoveryCase.subscriptionId)
  | none, none, none => pure none

/-- Whether two things agree where both are there. -/
def agree {α β : Type} (a : Option α) (b : Option β) (p : α → β → Bool) : Bool :=
  match a, b with
  | some a, some b => p a b
  | _, _ => true

/-- The latest case of a subscription. -/
def latestCaseOf (merchantId subscriptionId : String) (db : Database) : Option RecoveryCase :=
  Table.first
    (fun a b => decide (b.openedAt < a.openedAt) ||
      decide (a.openedAt = b.openedAt) && decide (b.id ≤ a.id))
    (db.cases.filter fun c => c.merchantId = merchantId ∧ c.subscriptionId = subscriptionId)

/-- The part of `_correlate` that falls back to the case of the invoice or the subscription. -/
def fallbackCase (merchantId : String) (recoveryCase : Option RecoveryCase)
    (invoice : Option Invoice) (subscription : Option Subscription) (db : Database) :
    Option RecoveryCase :=
  match recoveryCase, invoice, subscription with
  | some c, _, _ => some c
  | none, some invoice, _ => db.cases.find? fun c =>
      c.merchantId = merchantId ∧ c.failedInvoiceId = some invoice.id
  | none, none, some subscription => latestCaseOf merchantId subscription.id db
  | none, none, none => none

/-- `_correlate`. -/
def correlate (payload : RazorpayOutboxPayload) : Work Correlation := do
  let recoveryCase ← correlateCase payload
  let invoice ← correlateInvoice platform call payload recoveryCase
  let subscription ← correlateSubscription payload recoveryCase invoice
  Tx.require (agree invoice subscription fun i s => decide (i.subscriptionId = s.id))
    (correlationMismatch "Webhook invoice and subscription do not match.")
  Tx.require (agree recoveryCase invoice fun c i => decide (c.failedInvoiceId = some i.id))
    (correlationMismatch "Webhook case and invoice do not match.")
  Tx.require (agree recoveryCase subscription fun c s => decide (c.subscriptionId = s.id))
    (correlationMismatch "Webhook case and subscription do not match.")
  let found ← Tx.query (fallbackCase payload.merchantId recoveryCase invoice subscription)
  pure ⟨subscription, invoice, found⟩

/-! ## Applying an event -/

/-- `_payment_attempt_id`. -/
def paymentAttemptId (providerPaymentId : String) : String :=
  "pay_rzp_" ++ platform.digest 48 providerPaymentId

/-- `_payment_attempt`. -/
def paymentAttempt (merchantId providerPaymentId : String) (db : Database) :
    Option PaymentAttempt :=
  db.payments.find? fun p =>
    p.merchantId = merchantId ∧ p.providerPaymentId = some providerPaymentId

/-- A field of the payment entity bound to a text column. -/
def column (entity : List (String × Json)) (name : String) :
    Except ProcessingError (Option String) :=
  match Json.get entity name with
  | .str s => .ok (some s)
  | .null => .ok none
  | _ => .error (.other "StatementError")

/-- `event_type.upper().replace(".", "_")`. -/
def auditEventType (eventType : String) : String :=
  String.ofList ((eventType.toList.flatMap upper).map fun c => if c = '.' then '_' else c)

/-- `_add_audit_event`. -/
def addAuditEvent (recoveryCase : RecoveryCase) (event : NormalizedRazorpayEvent) : Work Unit := do
  let existing ← Tx.query fun db : Database => db.events.any fun e =>
    decide (e.caseId = recoveryCase.id) && decide (e.sourceEventId = some event.providerEventId)
  if existing then pure () else
    Tx.attempt (Database.insertEvent
      { caseId := recoveryCase.id
        eventType := auditEventType event.eventType
        source := "razorpay"
        occurredAt := event.occurredAt
        sourceEventId := some event.providerEventId }) integrityError

def defaultRecoveryWindow : ℤ := 3 * Safety.day

/-- The case that `_create_case_for_failure` persists. -/
def caseForFailure (payload : RazorpayOutboxPayload) (invoice : Invoice)
    (subscription : Subscription) (customer : Customer) (payment : PaymentAttempt)
    (diagnosis : Diagnosis) : RecoveryCase where
  id := "case_rzp_" ++ platform.digest 40 (payload.merchantId ++ ":" ++ invoice.id)
  merchantId := payload.merchantId
  customerId := customer.id
  subscriptionId := subscription.id
  failedInvoiceId := some invoice.id
  billingCycleKey := some invoice.billingCycleKey
  failedPaymentId := some payment.id
  caseOutcome := .open
  paymentState := .failed
  subscriptionState := subscription.subscriptionState
  contactDisposition := .notContacted
  revenueAttribution := .none
  diagnosis := diagnosis
  amountAtRiskPaise := invoice.amountPaise - invoice.amountPaidPaise
  arrearsCollectedPaise := 0
  caseRecovered := false
  subscriptionReactivated := false
  openedAt := payload.event.occurredAt
  recoveryDeadline := payload.event.occurredAt + defaultRecoveryWindow
  recoveredAt := none
  version := 1

/-- `_create_case_for_failure`. -/
def createCaseForFailure (payload : RazorpayOutboxPayload) (invoice : Invoice)
    (subscription : Subscription) (payment : PaymentAttempt) : Work RecoveryCase := do
  let found ← Tx.query fun db : Database => db.customers.find? fun c =>
    c.id = subscription.customerId ∧ c.merchantId = payload.merchantId
  let customer ← Tx.expect found (.integration "RAZORPAY_CUSTOMER_NOT_CORRELATED"
    "The persisted subscription has no trusted merchant customer.")
  Tx.require (decide (0 < invoice.amountPaise - invoice.amountPaidPaise))
    (.integration "RAZORPAY_INVOICE_ALREADY_PAID"
      "A recovery case cannot be opened for a fully paid invoice.")
  let diagnosis ← Tx.call (diagnoseFailure (paymentEntity payload.event))
  let recoveryCase :=
    caseForFailure platform payload invoice subscription customer payment diagnosis
  Tx.attempt (Database.insertCase recoveryCase) integrityError
  pure recoveryCase

/-- The attempt that a failure leaves, and whether the failure changed it. -/
def failedAttempt (payload : RazorpayOutboxPayload) (invoice : Invoice)
    (subscription : Subscription) (paymentId : String) (amountPaise : ℤ) (currency : String) :
    Work (PaymentAttempt × Bool) := do
  let event := payload.event
  let entity := paymentEntity event
  let found ← Tx.query (paymentAttempt payload.merchantId paymentId)
  match found with
  | none =>
    let method ← Tx.call (column entity "method")
    let errorCode ← Tx.call (column entity "error_code")
    let errorSource ← Tx.call (column entity "error_source")
    let errorStep ← Tx.call (column entity "error_step")
    let errorReason ← Tx.call (column entity "error_reason")
    let payment : PaymentAttempt :=
      { id := paymentAttemptId platform paymentId
        merchantId := payload.merchantId
        invoiceId := invoice.id
        subscriptionId := subscription.id
        providerPaymentId := some paymentId
        paymentState := .failed
        occurredAt := event.occurredAt
        amountPaise, currency, method, errorCode, errorSource, errorStep, errorReason }
    Tx.attempt (Database.insertPayment payment) integrityError
    pure (payment, true)
  | some payment =>
    Tx.require (decide (payment.invoiceId = invoice.id))
      (.integration "RAZORPAY_PAYMENT_CORRELATION_MISMATCH"
        "Provider payment is already attached to another invoice.")
    if payment.paymentState ≠ .captured ∧ payment.occurredAt ≤ event.occurredAt then
      let errorCode ← Tx.call (column entity "error_code")
      let errorSource ← Tx.call (column entity "error_source")
      let errorStep ← Tx.call (column entity "error_step")
      let errorReason ← Tx.call (column entity "error_reason")
      let payment := { payment with
        paymentState := .failed
        occurredAt := event.occurredAt
        errorCode, errorSource, errorStep, errorReason }
      Tx.modify (Database.putPayment payment)
      pure (payment, true)
    else pure (payment, false)

/-- The case that a failure is about: a new one, or the correlated one with the failure noted. -/
def failedCase (payload : RazorpayOutboxPayload) (correlation : Correlation) (invoice : Invoice)
    (subscription : Subscription) (payment : PaymentAttempt) (stateApplied : Bool) :
    Work RecoveryCase :=
  match correlation.recoveryCase with
  | none => createCaseForFailure platform payload invoice subscription payment
  | some recoveryCase =>
    if stateApplied = true ∧ recoveryCase.paymentState ≠ .captured then do
      let recoveryCase := { recoveryCase with
        paymentState := .failed
        failedPaymentId := some payment.id
        version := recoveryCase.version + 1 }
      Tx.modify (Database.putCase recoveryCase)
      pure recoveryCase
    else pure recoveryCase

/-- `_apply_payment_failed`; the second component is the case it leaves in the correlation. -/
def applyPaymentFailed (payload : RazorpayOutboxPayload) (correlation : Correlation) :
    Work (List (String × Json) × Option RecoveryCase) := do
  let event := payload.event
  let notCorrelated : ProcessingError := .integration "RAZORPAY_FAILURE_NOT_CORRELATED"
    "payment.failed requires a known invoice and subscription."
  let invalid : ProcessingError := .integration "RAZORPAY_FAILURE_PAYMENT_INVALID"
    "payment.failed is missing payment identity, amount, or currency."
  let invoice ← Tx.expect correlation.invoice notCorrelated
  let subscription ← Tx.expect correlation.subscription notCorrelated
  let paymentId ← Tx.expect event.paymentId invalid
  let amountPaise ← Tx.expect event.amountPaise invalid
  let currency ← Tx.expect event.currency invalid
  Tx.require (decide (0 < amountPaise) && decide (amountPaise ≤ invoice.amountPaise) &&
      decide (currency = invoice.currency))
    (.integration "RAZORPAY_FAILURE_AMOUNT_MISMATCH"
      "Failed payment amount or currency does not match the trusted invoice.")
  let (payment, stateApplied) ←
    failedAttempt platform payload invoice subscription paymentId amountPaise currency
  let recoveryCase ←
    failedCase platform payload correlation invoice subscription payment stateApplied
  addAuditEvent recoveryCase event
  pure ([("payment_state", .str PaymentState.failed.value), ("state_applied", .bool stateApplied),
    ("case_correlated", .bool true), ("case_created", .bool correlation.recoveryCase.isNone),
    ("arrears_collected_paise", .int 0), ("subscription_reactivated", .bool false)],
    some recoveryCase)

/-- The attempt that an authoritative capture leaves. -/
def capturedAttempt (payload : RazorpayOutboxPayload) (invoice : Invoice)
    (subscription : Subscription) (snapshot : PaymentSnapshot) (providerPaymentId : String) :
    Work PaymentAttempt := do
  let event := payload.event
  let found ← Tx.query (paymentAttempt payload.merchantId providerPaymentId)
  match found with
  | none =>
    let method ← Tx.call (column (paymentEntity event) "method")
    let payment : PaymentAttempt :=
      { id := paymentAttemptId platform providerPaymentId
        merchantId := payload.merchantId
        invoiceId := invoice.id
        subscriptionId := subscription.id
        providerPaymentId := some providerPaymentId
        amountPaise := snapshot.amountPaise
        currency := snapshot.currency
        paymentState := .captured
        method := method
        errorCode := none
        errorSource := none
        errorStep := none
        errorReason := none
        occurredAt := event.occurredAt }
    Tx.attempt (Database.insertPayment payment) integrityError
    pure payment
  | some payment =>
    Tx.require (decide (payment.invoiceId = invoice.id))
      (.integration "RAZORPAY_PAYMENT_CORRELATION_MISMATCH"
        "Captured provider payment is attached to another invoice.")
    let payment := { payment with
      paymentState := .captured
      amountPaise := snapshot.amountPaise
      currency := snapshot.currency
      occurredAt := max payment.occurredAt event.occurredAt }
    Tx.modify (Database.putPayment payment)
    pure payment

/-- The recognition that already stands for the event or for the payment. -/
def existingRecognition (payload : RazorpayOutboxPayload) (payment : PaymentAttempt)
    (db : Database) : Option RevenueRecognitionRecord :=
  db.recognitions.find? fun r =>
    r.merchantId = payload.merchantId ∧ r.provider = "razorpay" ∧
      (r.providerEventId = payload.event.providerEventId ∨ r.paymentAttemptId = some payment.id)

/-- The invoice after the amount is collected. -/
def Invoice.collect (invoice : Invoice) (amount : ℤ) : Invoice :=
  { invoice with
    amountPaidPaise := invoice.amountPaidPaise + amount
    invoiceState := if invoice.amountPaidPaise + amount = invoice.amountPaise then "paid"
      else invoice.invoiceState }

/-- The recognition of a capture that none stands for yet, and the totals that move with it. -/
def recognize (payload : RazorpayOutboxPayload) (recoveryCase : RecoveryCase) (invoice : Invoice)
    (payment : PaymentAttempt) (snapshot : PaymentSnapshot) (outcome : PaymentRecoveryOutcome) :
    Work RecoveryCase := do
  Tx.require (decide (0 < snapshot.amountPaise) &&
      decide (snapshot.amountPaise ≤ min (invoice.amountPaise - invoice.amountPaidPaise)
        (recoveryCase.amountAtRiskPaise - recoveryCase.arrearsCollectedPaise)))
    (.integration "RAZORPAY_CAPTURE_AMOUNT_INVALID"
      "Captured amount exceeds the remaining correlated arrears.")
  Tx.attempt (Database.insertRecognition
    { caseId := recoveryCase.id
      merchantId := payload.merchantId
      paymentAttemptId := some payment.id
      provider := "razorpay"
      providerEventId := payload.event.providerEventId
      amountPaise := snapshot.amountPaise
      attribution := .razorpayTestVerified
      arrearsCollected := true
      subscriptionReactivated := outcome.subscriptionReactivated
      recognizedAt := payload.event.occurredAt }) integrityError
  Tx.modify (Database.putInvoice (Invoice.collect invoice snapshot.amountPaise))
  pure { recoveryCase with
    arrearsCollectedPaise := recoveryCase.arrearsCollectedPaise + snapshot.amountPaise
    revenueAttribution := .razorpayTestVerified
    version := recoveryCase.version + 1 }

/-- Whether a capture that is recognized already still changes the case. -/
def secondaryCaseChange (recoveryCase : RecoveryCase) (snapshot : PaymentSnapshot)
    (outcome : PaymentRecoveryOutcome) : Bool :=
  decide (recoveryCase.paymentState ≠ .captured) ||
    outcome.subscriptionReactivated && !recoveryCase.subscriptionReactivated ||
    decide (snapshot.subscriptionState ≠ .unknown) &&
      decide (recoveryCase.subscriptionState ≠ snapshot.subscriptionState)

/-- The case with the totals it has after the capture. -/
def settleCase (payload : RazorpayOutboxPayload) (recoveryCase : RecoveryCase) (invoice : Invoice)
    (payment : PaymentAttempt) (snapshot : PaymentSnapshot) (outcome : PaymentRecoveryOutcome) :
    Option RevenueRecognitionRecord → Work RecoveryCase
  | none => recognize payload recoveryCase invoice payment snapshot outcome
  | some _ => pure (if secondaryCaseChange recoveryCase snapshot outcome then
      { recoveryCase with version := recoveryCase.version + 1 } else recoveryCase)

/-- The case after a capture, once its totals are settled. -/
def capturedCase (recoveryCase : RecoveryCase) (event : NormalizedRazorpayEvent)
    (snapshot : PaymentSnapshot) (outcome : PaymentRecoveryOutcome) : RecoveryCase :=
  let recovered := decide (recoveryCase.amountAtRiskPaise ≤ recoveryCase.arrearsCollectedPaise)
  { recoveryCase with
    paymentState := .captured
    subscriptionReactivated :=
      recoveryCase.subscriptionReactivated || outcome.subscriptionReactivated
    subscriptionState := if snapshot.subscriptionState ≠ .unknown then snapshot.subscriptionState
      else recoveryCase.subscriptionState
    caseRecovered := recovered
    caseOutcome := if recovered = true then .recovered
      else if 0 < recoveryCase.arrearsCollectedPaise then .partiallyRecovered
      else recoveryCase.caseOutcome
    recoveredAt := if recovered = true then some event.occurredAt else recoveryCase.recoveredAt }

/-- `_apply_captured`. -/
def applyCaptured (payload : RazorpayOutboxPayload) (correlation : Correlation) :
    Work (List (String × Json) × Option RecoveryCase) := do
  let event := payload.event
  let notCorrelated : ProcessingError := .integration "RAZORPAY_CAPTURE_NOT_CORRELATED"
    "Captured payment requires a known recovery case, invoice, and subscription."
  let recoveryCase ← Tx.expect correlation.recoveryCase notCorrelated
  let invoice ← Tx.expect correlation.invoice notCorrelated
  let subscription ← Tx.expect correlation.subscription notCorrelated
  let snapshot ← Tx.call
    (call.fetchPaymentSnapshot payload.merchantId event.paymentId invoice.providerInvoiceId)
  let outcome ← Tx.call (reconcilePaymentSuccess event snapshot recoveryCase.paymentState)
  Tx.require (decide (snapshot.paymentState = .captured))
    (.integration "RAZORPAY_CAPTURE_NOT_CONFIRMED"
      "Authoritative Razorpay state does not confirm capture.")
  Tx.require ((truthy snapshot.subscriptionId).all fun s =>
      decide (s = subscription.providerSubscriptionId))
    (correlationMismatch "Authoritative subscription does not match the failed invoice.")
  Tx.require (decide (snapshot.currency = invoice.currency))
    (.integration "RAZORPAY_CAPTURE_CURRENCY_MISMATCH"
      "Captured payment currency does not match the invoice.")
  let providerPaymentId ← Tx.expect ((truthy snapshot.paymentId).or event.paymentId)
    (.integration "RAZORPAY_CAPTURE_PAYMENT_ID_MISSING"
      "Authoritative capture has no payment id.")
  let payment ←
    capturedAttempt platform payload invoice subscription snapshot providerPaymentId
  let existing ← Tx.query (existingRecognition payload payment)
  let settled ← settleCase payload recoveryCase invoice payment snapshot outcome existing
  let recoveryCase := capturedCase settled event snapshot outcome
  Tx.modify (Database.settle recoveryCase event.occurredAt)
  Tx.modifyIf (decide (snapshot.subscriptionState ≠ .unknown)) (Database.putSubscription
    { subscription with subscriptionState := snapshot.subscriptionState })
  addAuditEvent recoveryCase event
  pure ([("payment_state", .str PaymentState.captured.value),
    ("newly_recognized", .bool existing.isNone),
    ("arrears_collected_paise", .int (if existing.isNone then snapshot.amountPaise else 0)),
    ("subscription_reactivated", .bool outcome.subscriptionReactivated),
    ("case_recovered", .bool recoveryCase.caseRecovered),
    ("dispatch_required",
      .bool (existing.all fun r => decide (r.providerEventId = event.providerEventId)))],
    some recoveryCase)

/-- Whether one of the entries is an event of the subscription; one that does not normalize is
skipped. -/
def mentionsSubscription (subscriptionId : String) :
    List WebhookInboxEntry → Except ProcessingError Bool
  | [] => .ok false
  | entry :: rest =>
    match normalizeWebhook entry.providerEventId entry.payload with
    | .error (.integration _ _) => mentionsSubscription subscriptionId rest
    | .error e => .error e
    | .ok normalized =>
      if normalized.subscriptionId = some subscriptionId then .ok true
      else mentionsSubscription subscriptionId rest

/-- `_newer_processed_subscription_event_exists`. -/
def newerProcessedSubscriptionEventExists (payload : RazorpayOutboxPayload) : Work Bool :=
  match payload.event.subscriptionId with
  | none => pure false
  | some subscriptionId => do
    let entries ← Tx.query fun db : Database => db.inbox.filter fun e =>
      decide (e.merchantId = payload.merchantId) && decide (e.provider = "razorpay") &&
        e.processedAt.isSome && decide (e.eventType ∈ ["subscription.pending", "subscription.halted"])
        && e.occurredAt.any fun t => decide (payload.event.occurredAt < t)
    Tx.call (mentionsSubscription subscriptionId entries)

/-- The correlated case, with the subscription's state if the event is not stale. -/
def noteSubscriptionState (event : NormalizedRazorpayEvent) (stale : Bool) :
    Option RecoveryCase → Work (Option RecoveryCase)
  | none => pure none
  | some recoveryCase => do
    let updated := if stale then recoveryCase else
      { recoveryCase with
        subscriptionState := event.subscriptionState
        version := recoveryCase.version + 1 }
    Tx.modifyIf (!stale) (Database.putCase updated)
    addAuditEvent updated event
    pure (some updated)

/-- `_apply_subscription_only`. -/
def applySubscriptionOnly (payload : RazorpayOutboxPayload) (correlation : Correlation) :
    Work (List (String × Json) × Option RecoveryCase) := do
  let event := payload.event
  let notCorrelated : ProcessingError := .integration "RAZORPAY_SUBSCRIPTION_EVENT_NOT_CORRELATED"
    "Subscription lifecycle event has no known subscription."
  let subscription ← Tx.expect correlation.subscription notCorrelated
  Tx.require (decide (event.subscriptionState ≠ .unknown)) notCorrelated
  let stale ← newerProcessedSubscriptionEventExists payload
  Tx.modifyIf (!stale) (Database.putSubscription
    { subscription with subscriptionState := event.subscriptionState })
  let recoveryCase ← noteSubscriptionState event stale correlation.recoveryCase
  pure ([("subscription_state", .str event.subscriptionState.value),
    ("state_applied", .bool !stale), ("stale_event", .bool stale),
    ("case_correlated", .bool recoveryCase.isSome), ("arrears_collected_paise", .int 0)],
    recoveryCase)

/-- `_apply_event`. -/
def applyEvent (payload : RazorpayOutboxPayload) (correlation : Correlation) :
    Work (List (String × Json) × Option RecoveryCase) :=
  let event := payload.event
  if event.eventType = "payment.failed" then applyPaymentFailed platform payload correlation
  else if event.paymentState = .captured then applyCaptured platform call payload correlation
  else if event.eventType ∈ ["subscription.pending", "subscription.halted"] then
    applySubscriptionOnly payload correlation
  else Tx.throw (.integration "RAZORPAY_EVENT_PROCESSOR_UNSUPPORTED"
    ("No outbox processor exists for " ++ event.eventType ++ "."))

/-! ## Durable authorization -/

def initialRecommendationKey (caseId : String) : String :=
  "case:" ++ caseId ++ ":purpose:initial-recommendation:v1"

def createdFirst (a b : RecoveryActionRecord) : Bool :=
  decide (a.createdAt < b.createdAt) || decide (a.createdAt = b.createdAt) && decide (a.id ≤ b.id)

/-- The initial recommendation that is there already, also under the key it had before. -/
def existingRecommendation (caseId : String) (db : Database) : Option RecoveryActionRecord :=
  Table.first createdFirst (db.actions.filter fun a =>
    decide (a.idempotencyKey = initialRecommendationKey caseId) ||
      decide (a.caseId = caseId) && "action_rzp_".toList.isPrefixOf a.id.toList &&
        ("case:" ++ caseId ++ ":action:").toList.isPrefixOf a.idempotencyKey.toList &&
        !decide (":purpose:".toList <:+: a.idempotencyKey.toList))

def policiesOf (caseId actionId : String) (db : Database) : List PolicyDecisionRecord :=
  db.policies.filter fun p => p.caseId = caseId ∧ p.actionId = some actionId

/-- The case, the policy and the customer that the initial recommendation decides on. -/
def decisionPoint (merchantId : String) (recoveryCase : RecoveryCase) :
    Work (Decision.DecisionPoint × Customer) := do
  let notConfigured : ProcessingError := .integration "RAZORPAY_MERCHANT_POLICY_NOT_CONFIGURED"
    "The merchant has no durable recovery policy settings."
  let found ← Tx.query fun db : Database => db.merchants.find? fun m =>
    m.id = merchantId ∧ m.id = recoveryCase.merchantId
  let merchant ← Tx.expect found notConfigured
  let found ← Tx.query fun db : Database => db.settings.find? fun s => s.merchantId = merchant.id
  let settings ← Tx.expect found notConfigured
  let config ← Tx.call (raises
    (Decision.policyConfig platform.zoneInfo call.globalKillSwitch merchant settings))
  let found ← Tx.query fun db : Database => db.customers.find? fun c =>
    c.id = recoveryCase.customerId ∧ c.merchantId = merchantId
  let customer ← Tx.expect found (.integration "RAZORPAY_CUSTOMER_NOT_CORRELATED"
    "The recovery case has no trusted merchant customer for scoring.")
  if h : 0 ≤ recoveryCase.amountAtRiskPaise then
    pure (⟨recoveryCase, config, call.evaluatedAt, h⟩, customer)
  else Tx.throw (.other "amount_at_risk_paise must be a non-negative integer")

/-- The ranked decision of the initial recommendation. -/
def rankedDecision (merchantId : String) (recoveryCase : RecoveryCase) :
    Work Decision.RecoveryDecisionResult := do
  let (point, customer) ← decisionPoint platform call merchantId recoveryCase
  Tx.call (raises (Decision.decide call.scorer
    (point.rankingContext customer call.capabilities recoveryCase.failedInvoiceId.isSome)
    point.config))

/-- `_ensure_initial_recommendation`. -/
def ensureInitialRecommendation (merchantId : String) (recoveryCase : RecoveryCase) :
    Work RecoveryActionRecord := do
  let key := initialRecommendationKey recoveryCase.id
  let existing ← Tx.query (existingRecommendation recoveryCase.id)
  match existing with
  | some action =>
    Tx.require (decide (action.caseId = recoveryCase.id))
      (.integration "RAZORPAY_RECOVERY_ACTION_SCOPE_MISMATCH"
        "The durable recovery action does not match the failed invoice case scope.")
    let policies ← Tx.query (policiesOf recoveryCase.id action.id)
    Tx.require (decide (policies.length = 1))
      (.integration "RAZORPAY_RECOVERY_POLICY_CARDINALITY_INVALID"
        "The durable recovery action must have exactly one matching policy decision.")
    pure action
  | none =>
    let ranked ← rankedDecision platform call merchantId recoveryCase
    let decision := ranked.policy
    let scopeDigest := platform.digest 40 key
    let action : RecoveryActionRecord :=
      { id := "action_rzp_" ++ scopeDigest
        caseId := recoveryCase.id
        actionType := ranked.candidate.actionType
        paymentSurfaceType := ranked.candidate.paymentSurfaceType
        status := Decision.statusOf decision.disposition
        idempotencyKey := key
        scheduledFor := decision.delayUntil
        externalReference := none
        customerUrl := none
        completedAt := if decision.disposition = .block then some call.evaluatedAt else none
        createdAt := call.utcNow }
    Tx.attempt (Database.insertActionWithPolicy action
      { id := "policy_rzp_" ++ scopeDigest
        caseId := recoveryCase.id
        actionId := some action.id
        disposition := decision.disposition
        decisionCode := decision.decisionCode
        reasonCodes := decision.reasonCodes
        reasons := decision.reasons
        policyVersion := decision.policyVersion
        delayUntil := decision.delayUntil
        createdAt := call.evaluatedAt }) integrityError
    Tx.attempt (Database.insertEvent
      { caseId := recoveryCase.id
        eventType := "ACTION_RECOMMENDED"
        source := "decision-engine"
        occurredAt := call.evaluatedAt
        sourceEventId := some ("initial-recommendation:" ++ recoveryCase.id) }) integrityError
    pure action

def reconciliationKey (caseId : String) : String :=
  "case:" ++ caseId ++ ":action:WAIT_FOR_GATEWAY_RETRY:surface:none:" ++
    "purpose:authoritative-success-reconciliation"

/-- When the authorization is dated: after every wait that the case has. -/
def authorizedAt (caseId : String) (db : Database) : Instant :=
  let waits := db.actions.filter fun a => decide (a.caseId = caseId) &&
    decide (a.actionType = .waitForGatewayRetry) && a.paymentSurfaceType.isNone
  waits.foldl (fun t a => max t (a.createdAt + 1)) call.evaluatedAt

/-- `_ensure_reconciliation_authorization`. -/
def ensureReconciliationAuthorization (recoveryCase : RecoveryCase) : Work RecoveryActionRecord := do
  let key := reconciliationKey recoveryCase.id
  let existing ← Tx.query fun db : Database => db.actions.find? fun a => a.idempotencyKey = key
  match existing with
  | some action =>
    let policies ← Tx.query (policiesOf recoveryCase.id action.id)
    Tx.require (decide (action.caseId = recoveryCase.id) &&
        decide (action.actionType = .waitForGatewayRetry) && action.paymentSurfaceType.isNone &&
        decide (policies.map (·.disposition) = [.allow]))
      (.integration "RAZORPAY_RECONCILIATION_POLICY_SCOPE_INVALID"
        "Authoritative success has no exact reconciliation-only authorization.")
    let action := { action with status := .scheduled, scheduledFor := none, completedAt := none }
    Tx.modify (Database.putAction action)
    pure action
  | none =>
    let evaluatedAt ← Tx.query (authorizedAt call recoveryCase.id)
    let scopeDigest := platform.digest 40 key
    let action : RecoveryActionRecord :=
      { id := "action_rzp_" ++ scopeDigest
        caseId := recoveryCase.id
        actionType := .waitForGatewayRetry
        paymentSurfaceType := none
        status := .scheduled
        idempotencyKey := key
        scheduledFor := none
        externalReference := none
        customerUrl := none
        completedAt := none
        createdAt := evaluatedAt }
    Tx.attempt (Database.insertActionWithPolicy action
      { id := "policy_rzp_" ++ scopeDigest
        caseId := recoveryCase.id
        actionId := some action.id
        disposition := .allow
        decisionCode := "AUTHORITATIVE_PAYMENT_RECONCILIATION_ONLY"
        reasonCodes := ["AUTHORITATIVE_PAYMENT_RECONCILIATION_ONLY", "NO_CUSTOMER_FACING_ACTION"]
        reasons := ["Authoritative payment success must converge before workflow cleanup.",
          "The WAIT action performs no payment or customer-facing provider call."]
        policyVersion := "recovery-reconciliation.v1"
        delayUntil := none
        createdAt := evaluatedAt }) integrityError
    pure action

/-! ## `process_next` -/

/-- The transaction up to the effects on the case. -/
def applyMessage (payload : RazorpayOutboxPayload) :
    Work (WebhookInboxEntry × List (String × Json) × Option RecoveryCase) := do
  let inbox ← lockInbox payload
  let correlation ← correlate platform call payload
  let (effects, recoveryCase) ← applyEvent platform call payload correlation
  pure (inbox, effects, recoveryCase)

/-- `effects.get("dispatch_required") is True`. -/
def dispatchRequired (effects : List (String × Json)) : Bool :=
  match Json.get effects "dispatch_required" with
  | .bool b => b
  | _ => false

/-- The authorization that an event needs before it is dispatched, with the effects it adds. -/
def authorize (payload : RazorpayOutboxPayload) (effects : List (String × Json))
    (recoveryCase : Option RecoveryCase) : Work (Option (List (String × Json))) :=
  if payload.event.eventType = "payment.failed" then do
    let recoveryCase ← Tx.expect recoveryCase (.integration "RAZORPAY_FAILURE_CASE_NOT_CREATED"
      "payment.failed did not produce an invoice-scoped recovery case.")
    let action ← ensureInitialRecommendation platform call payload.merchantId recoveryCase
    pure (some (effects ++ [("recommended_action_id", .str action.id),
      ("recommended_action_type", .str action.actionType.value),
      ("recommended_payment_surface_type",
        .ofOption (action.paymentSurfaceType.map (·.value)))]))
  else if payload.event.paymentState = .captured ∧ dispatchRequired effects = true then do
    let recoveryCase ← Tx.expect recoveryCase (.integration "RAZORPAY_CAPTURE_CASE_NOT_CORRELATED"
      "Authoritative payment success has no recovery case.")
    let action ← ensureReconciliationAuthorization platform call recoveryCase
    pure (some (effects ++ [("reconciliation_action_id", .str action.id),
      ("recommended_action_type", .str action.actionType.value),
      ("recommended_payment_surface_type", .null)]))
  else pure none

/-- `_error_code`. -/
def errorCode : ProcessingError → String
  | .integration code _ => String.ofList (code.toList.take 128)
  | .other _ => "RAZORPAY_OUTBOX_PROCESSING_FAILED"

structure OutboxProcessResult where
  outboxId : String
  published : Bool
  attemptCount : ℕ
  providerEventId : Option String
  caseId : Option String
  errorCode : Option String

/-- The next message: published nowhere, available, and locked by nobody. -/
def nextMessage (db : Database) : Option OutboxMessage :=
  Table.first
    (fun a b => decide (a.availableAt < b.availableAt) ||
      decide (a.availableAt = b.availableAt) && (decide (a.createdAt < b.createdAt) ||
        decide (a.createdAt = b.createdAt) && decide (a.id ≤ b.id)))
    (db.outbox.filter fun m => decide (m.aggregateType = "razorpay_webhook") &&
      decide (m.eventType = "RAZORPAY_WEBHOOK_RECEIVED") && m.publishedAt.isNone &&
      decide (m.availableAt ≤ call.now) && !call.locked m)

/-- The inbox entry with the error noted. -/
def noteError (payload : Option RazorpayOutboxPayload) (code : String) (db : Database) : Database :=
  match payload.bind fun p => findInbox p db with
  | none => db
  | some inbox =>
    db.putInbox { inbox with processingErrorCode := some code, processedAt := none }

/-- `_record_failure`, after the transaction has been rolled back to `db`. -/
def recordFailure (outboxId : String) (payload : Option RazorpayOutboxPayload)
    (caseId : Option String) (code : String) (db : Database) :
    Except String (Option OutboxProcessResult) × Database :=
  match db.outbox.find? fun m => m.id = outboxId with
  | none => (.error "outbox disappeared while recording a processing failure", db)
  | some outbox =>
    if call.commits .failure then
      let attemptCount := outbox.attemptCount + 1
      let multiplier : ℤ := (min (2 ^ (attemptCount - 1)) 64 : ℕ)
      let db := db.putOutbox { outbox with
        attemptCount
        lastErrorCode := some code
        publishedAt := none
        availableAt := call.failedAt + call.retryBaseDelay * multiplier }
      (.ok (some { outboxId, attemptCount, caseId
                   published := false
                   providerEventId := payload.map (·.event.providerEventId)
                   errorCode := some code }), noteError payload code db)
    else (.error "the failure could not be recorded", db)

/-- The end of `process_next`: the signal, and the message published. `db` is the state of the open
transaction, `committed` the one that a failure goes back to. -/
def dispatch (outbox : OutboxMessage) (payload : RazorpayOutboxPayload) (inbox : WebhookInboxEntry)
    (effects : List (String × Json)) (caseId : Option String) (db committed : Database) :
    Except String (Option OutboxProcessResult) × Database :=
  let event := payload.event
  let outbox := { outbox with attemptCount := outbox.attemptCount + 1 }
  let signal : RazorpayDownstreamSignal :=
    { idempotencyKey := outbox.deduplicationKey
      merchantId := payload.merchantId
      providerEventId := event.providerEventId
      eventType := event.eventType
      normalizedEvent := event
      caseId, effects }
  if call.downstreamSignal signal then
    if call.commits .completion then
      let db := db.putInbox { inbox with
        processedAt := some call.completedAt
        processingErrorCode := none }
      let db := db.putOutbox { outbox with
        publishedAt := some call.completedAt
        lastErrorCode := none }
      (.ok (some { outboxId := outbox.id
                   published := true
                   attemptCount := outbox.attemptCount
                   providerEventId := some event.providerEventId
                   caseId
                   errorCode := none }), db)
    else recordFailure call outbox.id payload caseId (errorCode (.other "commit")) committed
  else recordFailure call outbox.id payload caseId "RAZORPAY_DOWNSTREAM_SIGNAL_FAILED" committed

/-- `process_next`. -/
def processNext (db : Database) : Except String (Option OutboxProcessResult) × Database :=
  match nextMessage call db with
  | none => (.ok none, db)
  | some outbox =>
    match outbox.payload with
    | none => recordFailure call outbox.id none none (errorCode (.other "ValidationError")) db
    | some payload =>
      match applyMessage platform call payload db with
      | .error e => recordFailure call outbox.id payload none (errorCode e) db
      | .ok ((inbox, effects, recoveryCase), applied) =>
        let caseId := recoveryCase.map (·.id)
        match authorize platform call payload effects recoveryCase applied with
        | .error e => recordFailure call outbox.id payload caseId (errorCode e) db
        | .ok (none, authorized) =>
          dispatch call outbox payload inbox effects caseId authorized db
        | .ok (some effects, authorized) =>
          if call.commits .authorization then
            let outbox := { outbox with availableAt := call.now + call.dispatchLease }
            let committed := authorized.putOutbox outbox
            dispatch call outbox payload inbox effects caseId committed committed
          else recordFailure call outbox.id payload caseId (errorCode (.other "commit")) db

end

/-! ## A merchant with one unpaid invoice -/

/-- SHA-256 at the texts that the example hashes, and Indian standard time. -/
def samplePlatform : Platform where
  sha256 s :=
    if s = "pay_1" then "6ec81111d581d10d7725c768ec7408574fb3bc895f76ec93e678dd3d469db8cf"
    else if s = "merchant_1:invoice_1" then
      "3427be8787b2266361a016954392901e17b9144a0755724f33ab0f56e97139aa"
    else if s = "merchant_1:evt_1" then
      "65196f398f80a468d876f42f434aa1296c4402c76acf618924685c6e3a7e237b"
    else if s = "merchant_1:evt_2" then
      "eaebf2cca65aa0da2f8dd3bebeae95a364b4c7d1e32ac61e36e4c78ef6e8117a"
    else if s = "case:case_rzp_3427be8787b2266361a016954392901e17b9144a" ++
        ":purpose:initial-recommendation:v1" then
      "c49d8b6a508161781ddb853d05cb1b21de59eaf54013be8846644b9af64c2e10"
    else if s = "case:case_rzp_3427be8787b2266361a016954392901e17b9144a" ++
        ":action:WAIT_FOR_GATEWAY_RETRY:surface:none:purpose:authoritative-success-reconciliation"
      then "4573b1dfbbad26da48e3829ca11cf300bdd1b7465b0b29a10c4bf4e0dd412e47"
    else ""
  zoneInfo name := if name = "Asia/Kolkata" then
      some ⟨fun _ => 330 * Safety.minute, fun _ _ => 330 * Safety.minute⟩
    else none

def sampleStore : Database where
  merchants := [⟨"merchant_1", "Asia/Kolkata"⟩]
  settings := [⟨"merchant_1", some "20:00", some "09:00", some 2, some 500000, [], false⟩]
  customers := [⟨"customer_1", "merchant_1", some "tok_1", some 0, none, false, 0⟩]
  subscriptions := [⟨"subscription_1", "merchant_1", "customer_1", "sub_1", "INR", .halted, none⟩]
  invoices := [⟨"invoice_1", "merchant_1", "subscription_1", "inv_1", "cycle_1", 50000, 0, "INR",
    "issued", none⟩]

def sampleEvent (id eventType : String) (paymentState : PaymentState) (occurredAt : Instant) :
    NormalizedRazorpayEvent where
  providerEventId := id
  eventType := eventType
  occurredAt := occurredAt
  paymentId := some "pay_1"
  invoiceId := some "inv_1"
  amountPaise := some 50000
  currency := some "INR"
  paymentState := paymentState
  correlationKind := .invoiceAndSubscriptionFromPayment
  requiresAuthoritativeFetch := decide (paymentState = .captured)
  providerPayload := []

def sampleEntry (event : NormalizedRazorpayEvent) : WebhookInboxEntry :=
  ⟨"inbox_" ++ event.providerEventId, "merchant_1", "razorpay", event.providerEventId,
    event.eventType, [], some event.occurredAt, none, none⟩

def sampleMessage (event : NormalizedRazorpayEvent) : OutboxMessage :=
  ⟨"outbox_" ++ event.providerEventId, "razorpay_webhook", "RAZORPAY_WEBHOOK_RECEIVED",
    some ⟨"merchant_1", event⟩, "razorpay:" ++ event.providerEventId, event.occurredAt, none, 0, none,
    event.occurredAt⟩

/-- A call at `now` on a provider that confirms the payment as captured. -/
def sampleCall (now : Instant) (signalled : Bool) : Call where
  now := now
  evaluatedAt := now
  completedAt := now
  failedAt := now
  utcNow := now
  retryBaseDelay := 5000000
  dispatchLease := 300000000
  globalKillSwitch := false
  locked _ := false
  fetchPaymentSnapshot _ _ _ := .ok
    { provider := "razorpay"
      paymentId := some "pay_1"
      invoiceId := some "inv_1"
      paymentState := .captured
      subscriptionState := .active
      amountPaise := 50000
      currency := "INR"
      authoritative := true
      amount_nonneg := by decide }
  fetchInvoiceSnapshot := none
  capabilities := ⟨true, false⟩
  scorer _ := .ok ⟨0, 0, 0, by norm_num, le_refl 0⟩
  downstreamSignal _ := signalled
  commits _ := true
  delay_nonneg := by decide
  lease_pos := by decide

end RecoveryOS.Webhook
