import RecoveryOS.Decision.Engine

/-!
# The recovery-case service

`services/cases.py` with the queries of `repositories/cases.py` it uses: the operator's commands on
a case and its actions. Each is a transaction; what it raises leaves the database as it was.

Two commands are two steps each. `recommend_action` decides on a case that it does not lock, and
writes the action later. `approve_action` first loads the whole case, and keeps the latest action it
saw; the locking read that follows does not refresh an object the session already holds. So the
status it checks may be older than the row it then writes.
-/

namespace RecoveryOS.Cases

open Store Decision

inductive CaseError where
  | notFound (message : String)
  | conflict (message : String)
  | alreadyRecovered (message : String)
  | runtime (message : String)

abbrev Work := Tx CaseError Database

def caseNotFound : CaseError := .notFound "Recovery case was not found."

def actionNotFound : CaseError := .notFound "Recovery action was not found."

def alreadyTerminal : CaseError := .conflict "The recovery case is already terminal."

/-! ## The repository -/

structure CaseAggregate where
  recoveryCase : RecoveryCase
  customer : Customer
  subscription : Subscription
  invoice : Option Invoice
  latestAction : Option RecoveryActionRecord

/-- `get_case` and `get_case_for_update`. -/
def getCase (merchantId caseId : String) (db : Database) : Option RecoveryCase :=
  db.cases.find? fun c => c.id = caseId ∧ c.merchantId = merchantId

def latestActionOf (caseId : String) (db : Database) : Option RecoveryActionRecord :=
  Table.first
    (fun a b => decide (b.createdAt < a.createdAt) ||
      decide (a.createdAt = b.createdAt) && decide (b.id ≤ a.id))
    (db.actions.filter fun a => a.caseId = caseId)

/-- `get_case_aggregate`, as the service calls it. -/
def getCaseAggregate (merchantId caseId : String) : Work CaseAggregate := do
  let broken : CaseError := .runtime "recovery case has broken customer/subscription references"
  let found ← Tx.query (getCase merchantId caseId)
  let recoveryCase ← Tx.expect found caseNotFound
  let found ← Tx.query fun db : Database =>
    db.customers.find? fun c => c.id = recoveryCase.customerId
  let customer ← Tx.expect found broken
  let found ← Tx.query fun db : Database =>
    db.subscriptions.find? fun s => s.id = recoveryCase.subscriptionId
  let subscription ← Tx.expect found broken
  let invoice ← Tx.query fun db : Database =>
    (truthy recoveryCase.failedInvoiceId).bind fun id => db.invoices.find? fun i => i.id = id
  let latestAction ← Tx.query (latestActionOf caseId)
  pure ⟨recoveryCase, customer, subscription, invoice, latestAction⟩

/-- `get_action`. -/
def getAction (caseId actionId : String) (db : Database) : Option RecoveryActionRecord :=
  db.actions.find? fun a => a.id = actionId ∧ a.caseId = caseId

/-- `get_policy_for_action`. -/
def getPolicyForAction (actionId : String) (db : Database) : Option PolicyDecisionRecord :=
  Table.first (fun a b => decide (b.createdAt ≤ a.createdAt))
    (db.policies.filter fun p => p.actionId = some actionId)

/-- `add_event`: an event that is there already is a no-op. -/
def addEvent (event : RecoveryEventRecord) : Work Unit :=
  Tx.modify fun db => (db.insertEvent event).getD db

/-- `add_action_with_policy`. -/
def addActionWithPolicy (action : RecoveryActionRecord) (policy : PolicyDecisionRecord) :
    Work Unit :=
  Tx.attempt (Database.insertActionWithPolicy action { policy with actionId := some action.id })
    (.runtime "IntegrityError")

/-! ## Recommendation -/

/-- How the service is deployed. -/
structure Service where
  zoneInfo : String → Option Safety.Zone
  globalKillSwitch : Bool
  capabilities : Capabilities
  scorer : RecoveryActionCandidate → Except String RecoveryScoreResult

/-- A call of `recommend_action`, with the ids and the row times that are drawn for it. -/
structure RecommendRequest where
  merchantId : String
  caseId : String
  actionType : Option RecoveryActionType
  paymentSurfaceType : Option PaymentSurfaceType
  evaluatedAt : Instant
  actionId : String
  policyId : String
  utcNow : Instant

def idempotencyKey (caseId : String) (action : RecoveryActionType)
    (surface : Option PaymentSurfaceType) : String :=
  "case:" ++ caseId ++ ":action:" ++ action.value ++ ":surface:" ++ surface.elim "none" (·.value)

def raises {α : Type} : Except String α → Except CaseError α
  | .ok a => .ok a
  | .error message => .error (.runtime message)

section
variable (service : Service) (request : RecommendRequest)

/-- The case and the policy that the recommendation decides on. -/
def decisionPoint (recoveryCase : RecoveryCase) : Work DecisionPoint := do
  let notFound : CaseError := .notFound "Merchant policy settings were not found."
  let found ← Tx.query fun db : Database => db.merchants.find? fun m => m.id = request.merchantId
  let merchant ← Tx.expect found notFound
  let found ← Tx.query fun db : Database =>
    db.settings.find? fun s => s.merchantId = request.merchantId
  let settings ← Tx.expect found notFound
  let config ← Tx.call (raises
    (policyConfig service.zoneInfo service.globalKillSwitch merchant settings))
  if h : 0 ≤ recoveryCase.amountAtRiskPaise then
    pure ⟨recoveryCase, config, request.evaluatedAt, h⟩
  else Tx.throw (.runtime "amount_at_risk_paise must be a non-negative integer")

/-- The action and its decision: the engine's choice, or the operator's action as the policy sees
it. -/
def chooseAction (point : DecisionPoint) (aggregate : CaseAggregate) :
    Except CaseError
      (RecoveryActionType × Option PaymentSurfaceType × Safety.PolicyDecision) := do
  match request.actionType with
  | none =>
    let ranked ← raises (decide service.scorer
      (point.rankingContext aggregate.customer service.capabilities aggregate.invoice.isSome)
      point.config)
    .ok (ranked.candidate.actionType, ranked.candidate.paymentSurfaceType, ranked.policy)
  | some action =>
    if h : action = .openCustomerPaymentSurface ↔ request.paymentSurfaceType.isSome = true then
      let decision ← raises (Safety.evaluateSafetyPolicy point.config
        (point.context action request.paymentSurfaceType h))
      .ok (action, request.paymentSurfaceType, decision.toContract)
    else .error (.conflict
      "Payment surface type must be set only for customer payment surface actions.")

/-- The rows of a new recommendation. -/
def recommendedAction (action : RecoveryActionType) (surface : Option PaymentSurfaceType)
    (decision : Safety.PolicyDecision) : RecoveryActionRecord where
  id := request.actionId
  caseId := request.caseId
  actionType := action
  paymentSurfaceType := surface
  status := statusOf decision.disposition
  idempotencyKey := idempotencyKey request.caseId action surface
  scheduledFor := decision.delayUntil
  externalReference := none
  customerUrl := none
  completedAt := if decision.disposition = .block then some request.evaluatedAt else none
  createdAt := request.utcNow

def recommendedPolicy (decision : Safety.PolicyDecision) : PolicyDecisionRecord where
  id := request.policyId
  caseId := request.caseId
  actionId := some request.actionId
  disposition := decision.disposition
  decisionCode := decision.decisionCode
  reasonCodes := decision.reasonCodes
  reasons := decision.reasons
  policyVersion := decision.policyVersion
  delayUntil := decision.delayUntil
  createdAt := request.utcNow

/-- The action with the policy that was decided for it. -/
def withPolicy (action : RecoveryActionRecord) :
    Work (RecoveryActionRecord × PolicyDecisionRecord) := do
  let found ← Tx.query (getPolicyForAction action.id)
  let policy ← Tx.expect found (.runtime "persisted recovery action has no policy decision")
  pure (action, policy)

/-- A recommendation that is decided and not yet written. -/
structure PendingRecommendation where
  request : RecommendRequest
  point : DecisionPoint
  action : RecoveryActionType
  surface : Option PaymentSurfaceType
  decision : Safety.PolicyDecision

/-- The action that an automatic recommendation returns unchanged. -/
def replayed (aggregate : CaseAggregate) : Option RecoveryActionRecord :=
  match request.actionType with
  | none => aggregate.latestAction
  | some _ => none

/-- The first part of `recommend_action`: an action that is returned unchanged, or a decision. -/
def decideRecommendation : Work (RecoveryActionRecord ⊕ PendingRecommendation) := do
  let aggregate ← getCaseAggregate request.merchantId request.caseId
  match replayed request aggregate with
  | some action => pure (.inl action)
  | none => do
    let point ← decisionPoint service request aggregate.recoveryCase
    let (action, surface, decision) ← Tx.call (chooseAction service request point aggregate)
    pure (.inr ⟨request, point, action, surface, decision⟩)

end

/-- The rest of `recommend_action`: the action that has the key, or a new one. -/
def persistRecommendation (pending : PendingRecommendation) :
    Work (RecoveryActionRecord × PolicyDecisionRecord) := do
  let request := pending.request
  let existing ← Tx.query fun db : Database => db.actions.find? fun a =>
    a.idempotencyKey = idempotencyKey request.caseId pending.action pending.surface
  match existing with
  | some existing => withPolicy existing
  | none => do
    let row := recommendedAction request pending.action pending.surface pending.decision
    let policy := recommendedPolicy request pending.decision
    addActionWithPolicy row policy
    addEvent
      { caseId := request.caseId
        eventType := "ACTION_RECOMMENDED"
        source := "decision-engine"
        occurredAt := request.evaluatedAt
        sourceEventId := some ("recommendation:" ++ row.id) }
    pure (row, policy)

/-- `recommend_action`, undisturbed. -/
def recommendAction (service : Service) (request : RecommendRequest) :
    Work (RecoveryActionRecord × PolicyDecisionRecord) := do
  let decided ← decideRecommendation service request
  match decided with
  | .inl action => withPolicy action
  | .inr pending => persistRecommendation pending

/-! ## Approval and rejection -/

/-- An approval that has loaded its case: the action it holds is the latest one it saw, if that is
the one to approve. -/
structure PendingApproval where
  caseId : String
  actionId : String
  held : Option RecoveryActionRecord
  hasInvoice : Bool

/-- The load of `approve_action`. -/
def loadApproval (merchantId caseId actionId : String) : Work PendingApproval := do
  let aggregate ← getCaseAggregate merchantId caseId
  pure
    { caseId, actionId
      held := aggregate.latestAction.filter fun a => a.id = actionId
      hasInvoice := aggregate.invoice.isSome }

/-- The approval event of an action. -/
def approvalEvent (action : RecoveryActionRecord) (at_ : Instant) : RecoveryEventRecord where
  caseId := action.caseId
  eventType := "ACTION_APPROVED"
  source := "operator"
  occurredAt := at_
  sourceEventId := some ("approval:" ++ action.id)

/-- The rest of `approve_action`. The row is the one in the table, with the columns that changed
in the object the session holds. -/
def commitApproval (pending : PendingApproval) (completedAt : Instant) :
    Work RecoveryActionRecord := do
  let found ← Tx.query (getAction pending.caseId pending.actionId)
  let row ← Tx.expect found actionNotFound
  let action := pending.held.getD row
  Tx.require (decide (action.status = .awaitingApproval))
    (.conflict "Only the current approval-pending action can be approved.")
  Tx.require (decide (action.actionType ≠ .openCustomerPaymentSurface) ||
      action.paymentSurfaceType.isSome && pending.hasInvoice)
    (.conflict "The recovery case has no payable failed invoice.")
  let written := { row with
    status := .scheduled
    completedAt := if action.completedAt.isSome then none else row.completedAt }
  Tx.modify (Database.putAction written)
  addEvent (approvalEvent row completedAt)
  pure written

/-- The row of a rejected action, whose session holds it as `held`. -/
def rejectedRow (row held : RecoveryActionRecord) (rejectedAt : Instant) : RecoveryActionRecord :=
  { row with
    status := .cancelled
    completedAt := if held.completedAt = some rejectedAt then row.completedAt else some rejectedAt }

/-- `reject_action`. The session of the façade holds the action as the façade read it, and then the
columns that change in it are written to the row; the endpoint of the command holds nothing. -/
def rejectAction (merchantId caseId actionId : String) (held : Option RecoveryActionRecord)
    (rejectedAt : Instant) : Work RecoveryActionRecord := do
  let _ ← getCaseAggregate merchantId caseId
  let found ← Tx.query (getAction caseId actionId)
  let row ← Tx.expect found actionNotFound
  let action := held.getD row
  if action.status = .cancelled then pure action
  else do
    Tx.require (action.status ∈ [ActionStatus.proposed, .awaitingApproval, .scheduled])
      (.conflict "This recovery action can no longer be rejected.")
    let written := rejectedRow row action rejectedAt
    Tx.modify (Database.putAction written)
    addEvent
      { caseId
        eventType := "ACTION_REJECTED"
        source := "operator"
        occurredAt := rejectedAt
        sourceEventId := some ("rejection:" ++ row.id) }
    pure written

/-! ## Closing a case -/

/-- `stop_case`. -/
def stopCase (merchantId caseId : String) (stoppedAt : Instant) : Work RecoveryCase := do
  let found ← Tx.query (getCase merchantId caseId)
  let recoveryCase ← Tx.expect found caseNotFound
  if recoveryCase.caseOutcome = .stopped then pure recoveryCase
  else do
    Tx.require (decide (recoveryCase.caseOutcome = .open)) alreadyTerminal
    let recoveryCase := { recoveryCase with
      caseOutcome := .stopped
      version := recoveryCase.version + 1 }
    Tx.modify (Database.closeCase recoveryCase stoppedAt)
    addEvent
      { caseId
        eventType := "CASE_STOPPED"
        source := "operator"
        occurredAt := stoppedAt
        sourceEventId := some ("stop:" ++ caseId ++ ":" ++ toString recoveryCase.version) }
    pure recoveryCase

/-- `escalate_case`, with the ids that are drawn for its rows. -/
def escalateCase (merchantId caseId reason actionId policyId : String)
    (escalatedAt utcNow : Instant) : Work RecoveryCase := do
  let found ← Tx.query (getCase merchantId caseId)
  let recoveryCase ← Tx.expect found caseNotFound
  if recoveryCase.caseOutcome = .escalated then pure recoveryCase
  else do
    Tx.require (decide (recoveryCase.caseOutcome = .open)) alreadyTerminal
    let recoveryCase := { recoveryCase with
      caseOutcome := .escalated
      version := recoveryCase.version + 1 }
    addActionWithPolicy
      { id := actionId
        caseId
        actionType := .escalateToHuman
        paymentSurfaceType := none
        status := .succeeded
        idempotencyKey := "case:" ++ caseId ++ ":escalation:" ++ toString recoveryCase.version
        scheduledFor := none
        externalReference := none
        customerUrl := none
        completedAt := some escalatedAt
        createdAt := utcNow }
      { id := policyId
        caseId
        actionId := some actionId
        disposition := .allow
        decisionCode := "OPERATOR_ESCALATION"
        reasonCodes := ["OPERATOR_ESCALATION"]
        reasons := [reason]
        policyVersion := "operator.v1"
        delayUntil := none
        createdAt := utcNow }
    Tx.modify (Database.closeCase recoveryCase escalatedAt)
    addEvent
      { caseId
        eventType := "CASE_ESCALATED"
        source := "operator"
        occurredAt := escalatedAt
        sourceEventId := some ("escalation:" ++ actionId) }
    pure recoveryCase

/-- The outcome that a safety disposition closes a case with. -/
def terminalOutcome : ContactDisposition → Option CaseOutcome
  | .dispute => some .disputed
  | .optedOut => some .stopped
  | .wrongPerson => some .stopped
  | .alreadyPaid => some .escalated
  | _ => none

/-- The customer of an opt-out, with its time. -/
def noteOptOut (recoveryCase : RecoveryCase) (disposition : ContactDisposition)
    (recordedAt : Instant) : Work Unit :=
  if disposition = .optedOut then do
    let found ← Tx.query fun db : Database =>
      db.customers.find? fun c => c.id = recoveryCase.customerId
    let customer ← Tx.expect found (.runtime "recovery case has a missing customer")
    Tx.modify (Database.putCustomer { customer with optedOutAt := some recordedAt })
  else pure ()

/-- `record_safety_disposition`. -/
def recordSafetyDisposition (merchantId caseId : String) (disposition : ContactDisposition)
    (recordedAt : Instant) : Work RecoveryCase := do
  let targetOutcome ← Tx.expect (terminalOutcome disposition)
    (.conflict "This contact disposition is not a safety terminal.")
  let found ← Tx.query (getCase merchantId caseId)
  let recoveryCase ← Tx.expect found caseNotFound
  if recoveryCase.caseOutcome ≠ .open then do
    Tx.require (decide (recoveryCase.caseOutcome = targetOutcome) &&
      decide (recoveryCase.contactDisposition = disposition)) alreadyTerminal
    pure recoveryCase
  else do
    let recoveryCase := { recoveryCase with
      contactDisposition := disposition
      caseOutcome := targetOutcome
      version := recoveryCase.version + 1 }
    noteOptOut recoveryCase disposition recordedAt
    Tx.modify (Database.closeCase recoveryCase recordedAt)
    addEvent
      { caseId
        eventType := "SAFETY_" ++ disposition.value
        source := "operator"
        occurredAt := recordedAt
        sourceEventId := some ("safety:" ++ caseId ++ ":" ++ disposition.value) }
    pure recoveryCase

/-! ## The mock provider -/

/-- `find_revenue_recognition`. -/
def findRevenueRecognition (merchantId provider providerEventId : String) (db : Database) :
    Option RevenueRecognitionRecord :=
  db.recognitions.find? fun r =>
    r.merchantId = merchantId ∧ r.provider = provider ∧ r.providerEventId = providerEventId

/-- `add_invoice_collection`, which never collects beyond the invoice. -/
def addInvoiceCollection (invoiceId : String) (amount : ℤ) : Work Unit := do
  let found ← Tx.query fun db : Database => db.invoices.find? fun i => i.id = invoiceId
  let invoice ← Tx.expect found (.runtime "recovery case has no persisted invoice")
  let paid := min invoice.amountPaise (invoice.amountPaidPaise + amount)
  Tx.modify (Database.putInvoice { invoice with
    amountPaidPaise := paid
    invoiceState := if paid = invoice.amountPaise then "paid" else invoice.invoiceState })

/-- `recognize_revenue_once`: a recognition that the database refuses is none. -/
def recognizeRevenueOnce (r : RevenueRecognitionRecord) : Work Bool := do
  let inserted ← Tx.query fun db : Database => (db.insertRecognition r).isSome
  Tx.modify fun db => (db.insertRecognition r).getD db
  pure inserted

/-- A call of `apply_mock_payment_success`. -/
structure MockSuccess where
  merchantId : String
  caseId : String
  providerEventId : String
  amountPaise : Option ℤ
  recognizedAt : Instant
  subscriptionReactivated : Bool

structure PaymentSuccessResult where
  recoveryCase : RecoveryCase
  newlyRecognized : Bool
  recognizedAmountPaise : ℤ

section
variable (sha256 : String → String) (request : MockSuccess)

def mockAttempt (recoveryCase : RecoveryCase) (invoiceId : String) (amount : ℤ) :
    PaymentAttempt where
  id := "pay_mock_" ++ String.ofList ((sha256 request.providerEventId).toList.take 24)
  merchantId := request.merchantId
  invoiceId := invoiceId
  subscriptionId := recoveryCase.subscriptionId
  providerPaymentId := some ("mock_" ++ String.ofList ((sha256 request.providerEventId).toList.take 32))
  amountPaise := amount
  currency := "INR"
  paymentState := .captured
  method := some "mock"
  errorCode := none
  errorSource := none
  errorStep := none
  errorReason := none
  occurredAt := request.recognizedAt

def mockRecognition (amount : ℤ) (paymentAttemptId : String) : RevenueRecognitionRecord where
  caseId := request.caseId
  merchantId := request.merchantId
  paymentAttemptId := some paymentAttemptId
  provider := "mock"
  providerEventId := request.providerEventId
  amountPaise := amount
  attribution := .simulated
  arrearsCollected := true
  subscriptionReactivated := request.subscriptionReactivated
  recognizedAt := request.recognizedAt

/-- The case after the mock provider's success. -/
def mockPaid (recoveryCase : RecoveryCase) (amount : ℤ) : RecoveryCase :=
  let collected := recoveryCase.arrearsCollectedPaise + amount
  let recovered := decide (recoveryCase.amountAtRiskPaise ≤ collected)
  { recoveryCase with
    arrearsCollectedPaise := collected
    revenueAttribution := .simulated
    caseRecovered := recovered
    paymentState := .captured
    subscriptionReactivated := request.subscriptionReactivated
    caseOutcome := if recovered = true then .recovered else .partiallyRecovered
    recoveredAt := some request.recognizedAt
    version := recoveryCase.version + 1 }

/-- `apply_mock_payment_success`. -/
def applyMockPaymentSuccess : Work PaymentSuccessResult := do
  let found ← Tx.query (getCase request.merchantId request.caseId)
  let recoveryCase ← Tx.expect found caseNotFound
  let existing ← Tx.query
    (findRevenueRecognition request.merchantId "mock" request.providerEventId)
  match existing with
  | some r => pure ⟨recoveryCase, false, r.amountPaise⟩
  | none => do
    let remaining := recoveryCase.amountAtRiskPaise - recoveryCase.arrearsCollectedPaise
    Tx.require (decide (0 < remaining))
      (.alreadyRecovered "This recovery case has already collected its arrears.")
    let amount := request.amountPaise.getD remaining
    Tx.require (decide (0 < amount) && decide (amount ≤ remaining))
      (.conflict "Mock success amount must be positive and no greater than remaining arrears.")
    let invoiceId ← Tx.expect recoveryCase.failedInvoiceId
      (.conflict "Mock success requires a correlated failed invoice.")
    let payment := mockAttempt sha256 request recoveryCase invoiceId amount
    Tx.attempt (Database.insertPayment payment) (.runtime "IntegrityError")
    addInvoiceCollection invoiceId amount
    let newlyRecognized ← recognizeRevenueOnce (mockRecognition request amount payment.id)
    if newlyRecognized then do
      let paid := mockPaid request recoveryCase amount
      Tx.modify (Database.closeCase paid request.recognizedAt)
      addEvent
        { caseId := request.caseId
          eventType := "PAYMENT_CAPTURED"
          source := "mock-payment-provider"
          occurredAt := request.recognizedAt
          sourceEventId := some request.providerEventId }
      pure ⟨paid, true, amount⟩
    else pure ⟨recoveryCase, false, amount⟩

end

/-- `apply_late_failure_event`. -/
def applyLateFailureEvent (merchantId caseId providerEventId : String) (occurredAt : Instant) :
    Work Bool := do
  let found ← Tx.query (getCase merchantId caseId)
  let recoveryCase ← Tx.expect found caseNotFound
  let event : RecoveryEventRecord :=
    { caseId
      eventType := "PAYMENT_FAILED"
      source := "mock-payment-provider"
      occurredAt
      sourceEventId := some providerEventId }
  let inserted ← Tx.query fun db : Database => (db.insertEvent event).isSome
  addEvent event
  Tx.modifyIf (inserted && decide (recoveryCase.paymentState ≠ .captured)) (Database.putCase
    { recoveryCase with paymentState := .failed, version := recoveryCase.version + 1 })
  pure inserted

end RecoveryOS.Cases
