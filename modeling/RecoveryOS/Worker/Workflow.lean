import RecoveryOS.Lib.Resume
import RecoveryOS.Worker.Contracts

/-!
# The recovery case workflow

`RecoveryCaseWorkflow` as code that stops at its awaits: a requested activity, or a wait for a
signal with a timeout. Between two awaits nothing else runs, so the reply to an await carries all
that happened meanwhile: the time, the signals that were enqueued, and the result. An activity that
failed after its last retry raises, and nothing in `run` catches it.

`history` records what the run did, in order: the activities it requested, the signals it took out
of the queue and the calls to `_finish`.
-/

namespace RecoveryOS.Worker

open Resume

/-- An activity with its argument. -/
inductive Activity where
  | normalizeFailure (command : NormalizeFailureInput)
  | diagnoseFailure (command : DiagnosisInput)
  | scoreRecovery (command : ScoreInput)
  | evaluatePolicy (command : PolicyInput)
  | executeRecoveryAction (command : ExecuteActionInput)
  | reconcileCase (command : ReconciliationInput)
  | recordAuditEvent (command : AuditInput)
  | cancelRecoveryAction (command : CancelActionInput)
  | startA2AAuthorization (command : StartA2AAuthorizationInput)
  | pollA2AMandate (command : PollA2AMandateInput)
  | sendA2APaymentReceipt (command : SendA2APaymentReceiptInput)

def Activity.Result : Activity → Type
  | .normalizeFailure _ => NormalizedFailure
  | .diagnoseFailure _ => DiagnosisResult
  | .scoreRecovery _ => ScoreResult
  | .evaluatePolicy _ => PolicyResult
  | .executeRecoveryAction _ => ActionExecutionResult
  | .reconcileCase _ => ReconciliationResult
  | .recordAuditEvent _ => AuditResult
  | .cancelRecoveryAction _ => CancelActionResult
  | .startA2AAuthorization _ => A2AAuthorizationResult
  | .pollA2AMandate _ => A2AMandatePollResult
  | .sendA2APaymentReceipt _ => A2APaymentReceiptResult

/-- What the workflow awaits: an activity, or `wait_condition` with its timeout. -/
inductive Await where
  | activity (a : Activity)
  | waitCondition (timeout : ℤ)

/-- What happened during an await: the time it ended, the signals sent meanwhile, the result. -/
structure Resumption (β : Type) where
  now : Instant
  arrivals : List QueuedSignal
  result : β

def Await.Reply : Await → Type
  | .activity a => Resumption (Option a.Result)
  | .waitCondition _ => Resumption Unit

inductive Phase where
  | initializing
  | diagnosing
  | scoring
  | policy
  | policyDelay
  | awaitingApproval
  | awaitingCustomerAuthorization
  | awaitingRecovery
  | outreachSuppressed
  | executingAction
  | reconciliationRequired
  | terminal (outcome : CaseOutcome)
  deriving DecidableEq, Repr

/-- One entry of a run's history. A drained signal is recorded with the action and the A2A task
known at that moment; the deadline check of the approval wait with what it found. -/
inductive Entry where
  | requested (a : Activity)
  | drained (sig : QueuedSignal) (action a2aTaskId : Option String)
  | approvalChecked (terminal past : Bool) (outcome : Option CaseOutcome)
      (deadlineOutcome : CaseOutcome)
  | finished (outcome : CaseOutcome) (reason : String)

/-- `recovery_workflow_id`. -/
def recoveryWorkflowId (caseId : String) : String := "recovery-case:" ++ caseId

structure Workflow where
  caseId : String := ""
  phase : Phase := .initializing
  terminal : Bool := false
  outcome : Option CaseOutcome := none
  diagnosis : Option String := none
  policyDisposition : Option String := none
  action : Option String := none
  actionStatus : Option String := none
  providerReference : Option String := none
  paymentState : String := "FAILED"
  subscriptionState : String := "UNKNOWN"
  contactDisposition : ContactDisposition := .notContacted
  approvalRequired : Bool := false
  approvalReceived : Option Bool := none
  outreachSuppressed : Bool := false
  a2aState : Option String := none
  a2aTaskId : Option String := none
  nextA2aPollAt : Option Instant := none
  mandateReceived : Bool := false
  a2aMandateId : Option String := none
  a2aReceiptSent : Bool := false
  deadline : Option Instant := none
  signals : List QueuedSignal := []
  seenSignalIds : List String := []
  processedSignalCount : ℕ := 0
  duplicateSignalCount : ℕ := 0
  arrearsCollectedPaise : ℤ := 0
  subscriptionReactivated : Bool := false
  input : Option RecoveryWorkflowInput := none
  now : Instant
  history : List Entry := []

namespace Workflow

/-- `_enqueue`: a signal id is queued once, later deliveries only counted. -/
def enqueue (s : Workflow) (sig : QueuedSignal) : Workflow :=
  if sig.signalId ∈ s.seenSignalIds then
    { s with duplicateSignalCount := s.duplicateSignalCount + 1 }
  else
    { s with
      seenSignalIds := s.seenSignalIds ++ [sig.signalId]
      signals := s.signals ++ [sig] }

/-- The state an await leaves the workflow in: later, with the signals sent meanwhile queued. -/
def resume (s : Workflow) (now : Instant) (arrivals : List QueuedSignal) : Workflow :=
  arrivals.foldl enqueue { s with now }

def record (s : Workflow) (e : Entry) : Workflow :=
  { s with history := s.history ++ [e] }

/-- The first signal leaves the queue. -/
def take (s : Workflow) (sig : QueuedSignal) (rest : List QueuedSignal) : Workflow :=
  { s with
    signals := rest
    processedSignalCount := s.processedSignalCount + 1
    history := s.history ++ [.drained sig s.action s.a2aTaskId] }

/-- `_finish`. -/
def finish (s : Workflow) (outcome : CaseOutcome) (reason : String) : Workflow :=
  { s with
    outcome := some outcome
    phase := .terminal outcome
    terminal := true
    paymentState := if outcome = .recovered then "CAPTURED" else s.paymentState
    history := s.history ++ [.finished outcome reason] }

/-- `_deadline_outcome`. -/
def deadlineOutcome (s : Workflow) : CaseOutcome :=
  if s.outreachSuppressed then .stopped else .expired

/-- `self._deadline is not None and workflow.now() >= self._deadline`. -/
def pastDeadline (s : Workflow) : Bool :=
  match s.deadline with
  | none => false
  | some d => decide (d ≤ s.now)

/-- `_apply_reconciliation`. -/
def applyReconciliation (s : Workflow) (r : ReconciliationResult) : Workflow :=
  if r.authoritative then
    { s with
      paymentState := r.paymentState
      subscriptionState := r.subscriptionState
      arrearsCollectedPaise := r.arrearsCollectedPaise
      subscriptionReactivated := r.subscriptionReactivated }
  else s

/-- `_result`. -/
def result (s : Workflow) : RecoveryWorkflowResult where
  caseId := s.caseId
  outcome := s.outcome.getD .stopped
  paymentState := s.paymentState
  subscriptionState := s.subscriptionState
  caseRecovered := decide (s.outcome = some .recovered)
  arrearsCollectedPaise := s.arrearsCollectedPaise
  subscriptionReactivated := s.subscriptionReactivated
  contactDisposition := s.contactDisposition
  processedSignalCount := s.processedSignalCount
  duplicateSignalCount := s.duplicateSignalCount

end Workflow

/-- The library functions `run` relies on: `datetime.fromisoformat` with the offset check of
`_parse_instant` (`none` where either raises), and `str.upper`. -/
structure Host where
  parseInstant : String → Option Instant
  upper : String → String

abbrev Wf := Code Await Await.Reply Workflow

/-- `_activity`: request it, and resume with its result; a failed activity raises. -/
def activity (a : Activity) : Wf a.Result := fun s =>
  .await (s.record (.requested a)) (.activity a) fun x =>
    match x.result with
    | some r => .done ((s.record (.requested a)).resume x.now x.arrivals) r
    | none => .failed ((s.record (.requested a)).resume x.now x.arrivals)

/-- `wait_condition` on a queued signal; a timeout is suppressed. -/
def waitCondition (timeout : ℤ) : Wf Unit := fun s =>
  .await s (.waitCondition timeout) fun x => .done (s.resume x.now x.arrivals) ()

def finish (outcome : CaseOutcome) (reason : String) : Wf Unit :=
  Code.modify (·.finish outcome reason)

/-- `_require_input`. -/
def requireInput : Wf RecoveryWorkflowInput := do
  match (← Code.read).input with
  | some command => pure command
  | none => Code.fail

def audit (eventType correlationId : String) (details : List (String × Json)) : Wf Unit := do
  let s ← Code.read
  let _ ← activity (.recordAuditEvent
    { caseId := s.caseId, eventType, correlationId, details })
  pure ()

/-- `_cancel_active_action`. -/
def cancelActiveAction (reason : String) : Wf Unit := do
  let s ← Code.read
  if s.actionStatus ∈ [some "CANCELLED", some "FAILED", some "REJECTED"] then
    pure ()
  else if s.actionStatus = none ∧ reason ≠ "AUTHORITATIVE_PAYMENT_SUCCESS" then
    pure ()
  else
    let result ← activity (.cancelRecoveryAction
      { caseId := s.caseId, providerReference := s.providerReference, reason,
        idempotencyKey := s.caseId ++ ":cancel:action-1" })
    if result.cancelled then
      Code.modify ({ · with actionStatus := some "CANCELLED" })
    else
      pure ()

/-- `_suppress_outreach`. -/
def suppressOutreach (signalId disposition : String) : Wf Unit := do
  Code.modify ({ · with outreachSuppressed := true })
  cancelActiveAction disposition
  audit "SUPPRESSION_PERSIST_REQUESTED" signalId [("contact_disposition", .str disposition)]
  -- not terminal: the workflow stays open for an authoritative late payment
  Code.modify ({ · with outcome := some .stopped, phase := .outreachSuppressed })

/-- `_handle_approval`. -/
def handleApproval (sig : ApprovalSignal) : Wf Unit := do
  let s ← Code.read
  if s.approvalRequired = false ∨ s.approvalReceived ≠ none then
    audit "APPROVAL_IGNORED" sig.signalId [("reason", .str "NOT_AWAITED")]
  else
    Code.modify ({ · with approvalReceived := some sig.approved })
    audit "APPROVAL_RECORDED" sig.signalId
      [("approved", .bool sig.approved), ("reviewer_id", .str sig.reviewerId),
        ("reason", .ofOption sig.reason)]

/-- `_send_a2a_receipt_if_applicable`. -/
def sendA2aReceiptIfApplicable (r : ReconciliationResult) : Wf Unit := do
  let s ← Code.read
  match s.a2aReceiptSent, s.a2aTaskId, s.a2aMandateId with
  | false, some taskId, some mandateId =>
    let command ← requireInput
    match r.providerReference with
    | none => pure ()
    | some reference =>
      if r.paymentState ≠ "CAPTURED" ∨ r.authoritative = false ∨ r.caseRecovered = false
          ∨ r.arrearsCollectedPaise ≠ command.amountAtRiskPaise then
        pure ()
      else
        let receipt ← activity (.sendA2APaymentReceipt
          { remoteTaskId := taskId, mandateId, merchantId := command.merchantId,
            caseId := command.caseId, exactAmountPaise := command.amountAtRiskPaise,
            currency := command.currency, providerReference := reference, observedAt := s.now,
            idempotencyKey := taskId ++ ":" ++ mandateId ++ ":recovery.receipt.v2",
            recoveryActionId := command.recoveryActionId,
            failedInvoiceId := command.failedInvoiceId })
        if receipt.delivered = true ∧ receipt.taskState = "COMPLETED" then
          Code.modify ({ · with a2aReceiptSent := true, a2aState := some "COMPLETED" })
          audit "A2A_PAYMENT_RECEIPT_DELIVERED" mandateId
            [("remote_task_id", .str receipt.remoteTaskId),
              ("task_state", .str receipt.taskState), ("provider_reference", .str reference)]
        else
          audit "A2A_PAYMENT_RECEIPT_FAILED" mandateId
            [("remote_task_id", .str receipt.remoteTaskId),
              ("task_state", .str receipt.taskState), ("provider_reference", .str reference)]
  | _, _, _ => pure ()

/-- The tail the two recovering handlers share: receipt, cancellation, then the outcome. -/
def recoverIfAuthoritative (r : ReconciliationResult) (reason : String) : Wf Unit :=
  if r.caseRecovered = true ∧ r.authoritative = true then do
    sendA2aReceiptIfApplicable r
    cancelActiveAction "AUTHORITATIVE_PAYMENT_SUCCESS"
    finish .recovered reason
  else
    pure ()

/-- `_handle_payment`. -/
def handlePayment (sig : PaymentEventSignal) : Wf Unit := do
  let command ← requireInput
  let r ← activity (.reconcileCase
    { caseId := command.caseId, merchantId := command.merchantId,
      failedInvoiceId := command.failedInvoiceId, failedPaymentId := command.failedPaymentId,
      triggerEventId := sig.providerEventId, paymentStateHint := some sig.paymentState,
      amountPaiseHint := some sig.amountPaise, authoritativeHint := sig.authoritative })
  Code.modify (·.applyReconciliation r)
  audit "PAYMENT_RECONCILED" sig.signalId
    [("payment_state", .str r.paymentState), ("authoritative", .bool r.authoritative),
      ("case_recovered", .bool r.caseRecovered)]
  recoverIfAuthoritative r "PAYMENT_CAPTURED"

/-- The disposition a customer intent maps to, with its text. -/
def intentDisposition (intent : String) : ContactDisposition × String :=
  match intent with
  | "OPT_OUT" => (.optedOut, "OPTED_OUT")
  | "WRONG_PERSON" => (.wrongPerson, "WRONG_PERSON")
  | "DISPUTE" => (.dispute, "DISPUTE")
  | "ALREADY_PAID" => (.alreadyPaid, "ALREADY_PAID")
  | "PROMISE_TO_PAY" => (.promiseToPay, "PROMISE_TO_PAY")
  | _ => (.engaged, "ENGAGED")

/-- `_handle_customer_intent`. -/
def handleCustomerIntent (host : Host) (sig : CustomerIntentSignal) : Wf Unit := do
  let intent := host.upper sig.intent
  let (disposition, text) := intentDisposition intent
  Code.modify ({ · with contactDisposition := disposition })
  audit "CUSTOMER_INTENT_RECORDED" sig.signalId
    [("intent", .str intent), ("confidence", (sig.confidence.map Json.num).getD .null)]
  if intent ∈ ["OPT_OUT", "WRONG_PERSON"] then
    suppressOutreach sig.signalId text
  else if intent = "DISPUTE" then
    cancelActiveAction "CUSTOMER_DISPUTE"
    finish .disputed "CUSTOMER_DISPUTE"
  else if intent = "ALREADY_PAID" then
    let command ← requireInput
    let r ← activity (.reconcileCase
      { caseId := command.caseId, merchantId := command.merchantId,
        failedInvoiceId := command.failedInvoiceId, failedPaymentId := command.failedPaymentId,
        triggerEventId := sig.signalId })
    Code.modify (·.applyReconciliation r)
    recoverIfAuthoritative r "ALREADY_PAID_RECONCILED"
  else
    pure ()

/-- `_handle_opt_out`. -/
def handleOptOut (sig : OptOutSignal) : Wf Unit := do
  Code.modify ({ · with contactDisposition := .optedOut })
  audit "OUTREACH_SUPPRESSED" sig.signalId
    [("source", .str sig.source), ("reason", .ofOption sig.reason)]
  suppressOutreach sig.signalId "OPTED_OUT"

/-- `_handle_cancellation`. -/
def handleCancellation (sig : CancellationSignal) : Wf Unit := do
  audit "RECOVERY_CANCELLED" sig.signalId
    [("reason", .str sig.reason), ("requested_by", .str sig.requestedBy)]
  cancelActiveAction sig.reason
  finish .stopped "CANCELLED"

/-- `_handle_operator_escalation`. -/
def handleOperatorEscalation (sig : OperatorEscalationSignal) : Wf Unit := do
  audit "RECOVERY_ESCALATED" sig.signalId
    [("reason", .str sig.reason), ("requested_by", .str sig.requestedBy)]
  cancelActiveAction "OPERATOR_ESCALATION"
  finish .escalated "OPERATOR_ESCALATION"

/-- `_handle_a2a_update`. -/
def handleA2aUpdate (sig : A2AUpdateSignal) : Wf Unit := do
  let s ← Code.read
  if s.a2aTaskId = none ∨ s.a2aTaskId ≠ some sig.remoteTaskId then
    audit "A2A_UPDATE_IGNORED" sig.signalId [("reason", .str "TASK_ID_MISMATCH")]
  else
    Code.modify ({ · with a2aState := some sig.state })
    audit "A2A_TASK_UPDATED" sig.signalId
      [("remote_task_id", .str sig.remoteTaskId), ("state", .str sig.state)]
    -- the signal is only a wake-up hint: the poll fetches the task itself
    Code.modify fun s => { s with nextA2aPollAt := some s.now }

/-- `_handle_mandate`. -/
def handleMandate (sig : MandateSignal) : Wf Unit := do
  audit "MANDATE_SIGNAL_IGNORED" sig.signalId
    [("mandate_id", .str sig.mandateId), ("reason", .str "ACTIVITY_VERIFICATION_REQUIRED")]
  Code.modify fun s =>
    if s.a2aTaskId = none then s else { s with nextA2aPollAt := some s.now }

def handle (host : Host) : QueuedSignal → Wf Unit
  | .approval sig => handleApproval sig
  | .paymentEvent sig => handlePayment sig
  | .customerIntent sig => handleCustomerIntent host sig
  | .optOut sig => handleOptOut sig
  | .cancellation sig => handleCancellation sig
  | .operatorEscalation sig => handleOperatorEscalation sig
  | .a2aUpdate sig => handleA2aUpdate sig
  | .mandate sig => handleMandate sig

/-- One turn of the drain: take the first signal out of the queue and handle it. -/
def drainOne (host : Host) : Wf Unit := do
  match (← Code.read).signals with
  | [] => pure ()
  | sig :: rest =>
    Code.modify (·.take sig rest)
    handle host sig

/-- `_drain_signals`. -/
def drainSignals (host : Host) (rounds : ℕ) : Wf Unit :=
  Code.repeatWhile (fun s => !s.signals.isEmpty && !s.terminal) (drainOne host) rounds

/-- `_wait_for_signal_or_deadline`. -/
def waitForSignalOrDeadline : Wf Unit := do
  let s ← Code.read
  match s.deadline with
  | none => pure ()
  | some deadline =>
    let wakeAt := match s.nextA2aPollAt with
      | none => deadline
      | some poll => min deadline poll
    if wakeAt - s.now ≤ 0 then pure () else waitCondition (wakeAt - s.now)

/-- What the three deadline checks do when the deadline has passed. -/
def expire : Wf Unit := do
  cancelActiveAction "RECOVERY_DEADLINE_EXPIRED"
  Code.modify fun s => s.finish s.deadlineOutcome "DEADLINE_EXPIRED"

/-- The deadline check of the approval wait; it does not look at `_terminal`. -/
def checkApprovalDeadline : Wf Unit := do
  Code.modify fun s =>
    s.record (.approvalChecked s.terminal s.pastDeadline s.outcome s.deadlineOutcome)
  let s ← Code.read
  if s.pastDeadline then expire else pure ()

/-- `_wait_for_approval_or_terminal`. -/
def waitForApprovalOrTerminal (host : Host) (rounds : ℕ) : Wf Unit :=
  Code.repeatWhile (fun s => s.approvalReceived.isNone && !s.terminal) (do
    waitForSignalOrDeadline
    drainSignals host rounds
    checkApprovalDeadline) rounds

/-- `_wait_until`. -/
def waitUntil (host : Host) (target : Instant) (rounds : ℕ) : Wf Unit := do
  Code.loop (fun s => !s.terminal && decide (s.now < target)) (do
    let s ← Code.read
    let timeout := min target (s.deadline.getD target) - s.now
    if timeout ≤ 0 then
      pure true
    else do
      waitCondition timeout
      drainSignals host rounds
      pure false) rounds
  let s ← Code.read
  if s.pastDeadline = true ∧ s.terminal = false then expire else pure ()

/-- `_expected_payment_surface_reference`; an empty text counts as absent. -/
def expectedPaymentSurfaceReference (command : RecoveryWorkflowInput) : Option String :=
  let truthy : Option String → Option String := fun o => o.filter (· ≠ "")
  match truthy command.paymentSurfaceReference with
  | some reference => some reference
  | none =>
    if command.paymentSurfaceType = some "SUBSCRIPTION_INVOICE_LINK" then
      match truthy command.providerInvoiceId with
      | some id => some id
      | none => command.failedInvoiceId
    else if command.paymentSurfaceType = some "SUBSCRIPTION_CARD_UPDATE" then
      some command.subscriptionId
    else
      none

/-- `_A2A_POLL_INTERVAL`, in microseconds. -/
def a2aPollInterval : ℤ := 5000000

/-- `_start_a2a_authorization`. -/
def startA2aAuthorization : Wf Unit := do
  let command ← requireInput
  match command.paymentSurfaceType, expectedPaymentSurfaceReference command with
  | some surfaceType, some surfaceReference =>
    match command.recoveryActionId, command.failedInvoiceId with
    | some actionId, some invoiceId =>
      let result ← activity (.startA2AAuthorization
        { caseId := command.caseId, merchantId := command.merchantId,
          customerId := command.customerId, exactAmountPaise := command.amountAtRiskPaise,
          currency := command.currency, paymentSurfaceType := surfaceType,
          paymentSurfaceReference := surfaceReference,
          recoveryDeadline := command.recoveryDeadline,
          idempotencyKey :=
            command.caseId ++ ":SEND_TO_CUSTOMER_AGENT:" ++ actionId ++ ":v2",
          recoveryActionId := some actionId, failedInvoiceId := some invoiceId,
          providerInvoiceId := command.providerInvoiceId })
      Code.modify fun s =>
        { s with
          action := some "SEND_TO_CUSTOMER_AGENT"
          actionStatus := some result.state
          providerReference := some result.remoteTaskId
          a2aTaskId := some result.remoteTaskId
          a2aState := some result.state
          nextA2aPollAt :=
            some (if result.state = "WORKING" then s.now else s.now + a2aPollInterval)
          phase := .awaitingCustomerAuthorization }
      audit "A2A_AUTHORIZATION_STARTED" "a2a-start"
        ([("remote_task_id", .str result.remoteTaskId), ("state", .str result.state)]
          ++ (result.approvalPath.map fun p => ("approval_path", Json.str p)).toList)
    | _, _ =>
      audit "A2A_AUTHORIZATION_REJECTED" "a2a-start"
        [("reason_code", .str "DURABLE_ACTION_SCOPE_REQUIRED")]
      Code.modify ({ · with actionStatus := some "REJECTED" })
      finish .escalated "DURABLE_ACTION_SCOPE_REQUIRED"
  | _, _ =>
    audit "A2A_AUTHORIZATION_REJECTED" "a2a-start"
      [("reason_code", .str "EXACT_PAYMENT_SURFACE_REQUIRED")]
    Code.modify ({ · with actionStatus := some "REJECTED" })
    finish .escalated "EXACT_PAYMENT_SURFACE_REQUIRED"

/-- `_execute_action`. -/
def executeAction (policy : PolicyResult) (mandate : Option Json) : Wf Unit :=
  if policy.action = "SEND_TO_CUSTOMER_AGENT" ∧ mandate.isNone = true then
    startA2aAuthorization
  else do
    let command ← requireInput
    Code.modify ({ · with phase := .executingAction, actionStatus := some "EXECUTING" })
    let result ← activity (.executeRecoveryAction
      { caseId := command.caseId, merchantId := command.merchantId,
        customerId := command.customerId, subscriptionId := command.subscriptionId,
        failedInvoiceId := command.failedInvoiceId, amountPaise := command.amountAtRiskPaise,
        currency := command.currency, action := policy.action,
        paymentSurfaceType := policy.paymentSurfaceType,
        recoveryDeadline := command.recoveryDeadline,
        idempotencyKey := command.caseId ++ ":" ++ policy.action ++ ":1", mandate,
        providerSubscriptionId := command.providerSubscriptionId,
        providerInvoiceId := command.providerInvoiceId,
        recoveryActionId := command.recoveryActionId })
    Code.modify ({ · with
      action := some policy.action
      actionStatus := some result.status
      providerReference := result.providerReference })
    audit "ACTION_SUBMITTED" "action-1"
      [("action", .str policy.action), ("status", .str result.status),
        ("provider", .str result.provider), ("reason_code", .ofOption result.reasonCode)]
    if result.status ∈ ["FAILED", "REJECTED"] then
      finish .escalated "PROVIDER_REJECTED"
    else if result.status = "UNCERTAIN" then
      Code.modify ({ · with phase := .reconciliationRequired })
    else
      pure ()

/-- `_poll_a2a_if_due`. -/
def pollA2aIfDue : Wf Unit := do
  let s ← Code.read
  match s.a2aTaskId, s.nextA2aPollAt with
  | some taskId, some pollAt =>
    if s.now < pollAt then
      pure ()
    else
      let command ← requireInput
      match command.paymentSurfaceType, expectedPaymentSurfaceReference command with
      | some surfaceType, some surfaceReference =>
        match command.recoveryActionId, command.failedInvoiceId with
        | some actionId, some invoiceId =>
          let result ← activity (.pollA2AMandate
            { remoteTaskId := taskId, caseId := command.caseId,
              merchantId := command.merchantId, customerId := command.customerId,
              exactAmountPaise := command.amountAtRiskPaise, currency := command.currency,
              paymentSurfaceType := surfaceType,
              paymentSurfaceReference := surfaceReference,
              recoveryDeadline := command.recoveryDeadline,
              recoveryActionId := some actionId, failedInvoiceId := some invoiceId,
              providerInvoiceId := command.providerInvoiceId })
          Code.modify ({ · with a2aState := some result.taskState })
          if result.verificationStatus = "PENDING" then
            Code.modify fun s => { s with nextA2aPollAt := some (s.now + a2aPollInterval) }
          else
            Code.modify ({ · with nextA2aPollAt := none })
            let accepted := decide (result.verificationStatus = "VERIFIED")
              && result.mandateId.isSome && result.verifiedArtifact.isSome
            audit "MANDATE_VERIFICATION_COMPLETED"
              ((result.mandateId.filter (· ≠ "")).getD ("a2a:" ++ taskId))
              [("accepted", .bool accepted), ("reason_code", .ofOption result.reasonCode),
                ("task_state", .str result.taskState)]
            if accepted = false then
              Code.modify ({ · with actionStatus := some "REJECTED" })
              finish .escalated
                ((result.reasonCode.filter (· ≠ "")).getD "MANDATE_REJECTED")
            else
              Code.modify ({ · with mandateReceived := true, a2aMandateId := result.mandateId })
              executeAction
                { disposition := "ALLOW", decisionCode := "VERIFIED_MANDATE",
                  action := "OPEN_CUSTOMER_PAYMENT_SURFACE",
                  paymentSurfaceType := some surfaceType }
                result.verifiedArtifact
        | _, _ =>
          Code.modify ({ · with nextA2aPollAt := none, actionStatus := some "REJECTED" })
          finish .escalated "DURABLE_ACTION_SCOPE_REQUIRED"
      | _, _ =>
        Code.modify ({ · with nextA2aPollAt := none, actionStatus := some "REJECTED" })
        finish .escalated "EXACT_PAYMENT_SURFACE_REQUIRED"
  | _, _ => pure ()

/-- The `while not self._terminal` loop of `run`. -/
def mainLoop (host : Host) (rounds : ℕ) : Wf Unit :=
  Code.loop (fun s => !s.terminal) (do
    drainSignals host rounds
    let s ← Code.read
    if s.terminal then
      pure true
    else if s.pastDeadline then do
      expire
      pure true
    else do
      pollA2aIfDue
      let s ← Code.read
      if s.terminal then
        pure true
      else do
        waitForSignalOrDeadline
        drainSignals host rounds
        pure false) rounds

/-- The action of a decision that may be acted on. -/
def beginAction (policy : PolicyResult) : Wf Unit :=
  if policy.action ∉ ["WAIT_FOR_GATEWAY_RETRY", "STOP"] then
    executeAction policy none
  else if policy.action = "STOP" then
    finish .stopped "POLICY_STOP"
  else
    Code.modify ({ · with actionStatus := some "SCHEDULED" })

/-- The rest of `run` once the action was begun. -/
def awaitRecovery (host : Host) (rounds : ℕ) : Wf RecoveryWorkflowResult := do
  let s ← Code.read
  if s.terminal then
    pure s.result
  else do
    Code.modify fun s =>
      if s.actionStatus = some "UNCERTAIN" then s
      else if s.a2aTaskId.isSome then { s with phase := .awaitingCustomerAuthorization }
      else { s with phase := .awaitingRecovery }
    mainLoop host rounds
    return (← Code.read).result

/-- The wait a policy decision asks for before its action: a delay, an approval, or none. It
answers whether the action may follow. -/
def awaitPolicy (host : Host) (rounds : ℕ) (policy : PolicyResult) : Wf Bool := do
  if policy.disposition = "DELAY" ∧ policy.delayUntil.isSome = true then
    match policy.delayUntil.bind host.parseInstant with
    | none =>
      Code.modify ({ · with phase := .policyDelay })
      Code.fail
    | some target =>
      Code.modify ({ · with phase := .policyDelay })
      waitUntil host target rounds
      return !(← Code.read).terminal
  else if policy.disposition = "REQUIRE_MANUAL_APPROVAL" then
    Code.modify ({ · with approvalRequired := true, phase := .awaitingApproval })
    waitForApprovalOrTerminal host rounds
    let s ← Code.read
    if s.terminal then
      pure false
    else if s.approvalReceived ≠ some true then do
      finish .stopped "APPROVAL_REJECTED"
      pure false
    else
      pure true
  else
    pure true

/-- `run` up to the policy decision. -/
def decidePolicy (host : Host) (workflowId : String) (command : RecoveryWorkflowInput) :
    Wf PolicyResult := do
  if workflowId ≠ "recovery-case:" ++ command.caseId then
    Code.fail
  else if command.amountAtRiskPaise < 0 then
    Code.fail
  else
    Code.modify ({ · with caseId := command.caseId })
    match host.parseInstant command.recoveryDeadline with
    | none => Code.fail
    | some deadline =>
      Code.modify ({ · with deadline := some deadline, input := some command })
      let normalized ← activity (.normalizeFailure
        { caseId := command.caseId, merchantId := command.merchantId,
          subscriptionId := command.subscriptionId, failedInvoiceId := command.failedInvoiceId,
          failedPaymentId := command.failedPaymentId, event := command.failureEvent })
      Code.modify ({ · with
        paymentState := normalized.paymentState
        subscriptionState := normalized.subscriptionState
        phase := .diagnosing })
      let diagnosis ← activity (.diagnoseFailure
        { caseId := command.caseId, failure := normalized })
      Code.modify ({ · with diagnosis := some diagnosis.diagnosis, phase := .scoring })
      let _ ← activity (.scoreRecovery
        { caseId := command.caseId, amountAtRiskPaise := command.amountAtRiskPaise,
          diagnosis := diagnosis.diagnosis, candidateAction := command.candidateAction })
      Code.modify ({ · with phase := .policy })
      activity (.evaluatePolicy
        { caseId := command.caseId, merchantId := command.merchantId,
          amountAtRiskPaise := command.amountAtRiskPaise, diagnosis := diagnosis.diagnosis,
          candidateAction := command.candidateAction,
          paymentSurfaceType := command.paymentSurfaceType,
          recoveryDeadline := command.recoveryDeadline })

/-- The decision becomes the workflow's, and is audited. -/
def adoptPolicy (policy : PolicyResult) : Wf Unit := do
  Code.modify ({ · with
    policyDisposition := some policy.disposition, action := some policy.action })
  audit "POLICY_DECIDED" "initial-policy"
    [("disposition", .str policy.disposition), ("decision_code", .str policy.decisionCode),
      ("action", .str policy.action),
      ("reason_codes", .arr (policy.reasonCodes.map Json.str))]

/-- `run`. -/
def run (host : Host) (rounds : ℕ) (workflowId : String) (command : RecoveryWorkflowInput) :
    Wf RecoveryWorkflowResult := do
  let policy ← decidePolicy host workflowId command
  adoptPolicy policy
  if policy.disposition = "BLOCK" then do
    finish .stopped "BLOCKED_BY_POLICY"
    return (← Code.read).result
  else if (← awaitPolicy host rounds policy) then do
    beginAction policy
    awaitRecovery host rounds
  else
    return (← Code.read).result

/-- A workflow at its start: the signals already delivered are queued before `run` begins. -/
def start (now : Instant) (arrivals : List QueuedSignal) : Workflow :=
  ({ now } : Workflow).resume now arrivals

/-! ## A case to try the workflow on -/

/-- The result of each activity when all goes well: the policy is `policy`, and reconciliation
finds the payment captured. -/
def wellResult (policy : PolicyResult) : (a : Activity) → a.Result
  | .normalizeFailure command =>
    { caseId := command.caseId, providerEventId := command.event.eventId,
      paymentState := "FAILED", subscriptionState := "PENDING", reasonCode := none,
      authoritative := true, occurredAt := command.event.occurredAt }
  | .diagnoseFailure _ => { diagnosis := "INSUFFICIENT_FUNDS", confidence := 1 }
  | .scoreRecovery command =>
    { modelName := "baseline", modelVersion := "1", recoveryProbability := 1,
      expectedRecoveredPaise := command.amountAtRiskPaise,
      expectedUtilityPaise := command.amountAtRiskPaise }
  | .evaluatePolicy _ => policy
  | .executeRecoveryAction _ =>
    { status := "SUCCEEDED", provider := "mock", providerReference := some "surface_1" }
  | .reconcileCase _ =>
    { paymentState := "CAPTURED", subscriptionState := "ACTIVE", authoritative := true,
      caseRecovered := true, arrearsCollectedPaise := 49900, subscriptionReactivated := true,
      providerReference := some "pay_1" }
  | .recordAuditEvent _ => { auditEventId := "audit_1", recorded := true }
  | .cancelRecoveryAction _ => { cancelled := true }
  | .startA2AAuthorization _ => { remoteTaskId := "task_1", state := "WORKING" }
  | .pollA2AMandate command =>
    { remoteTaskId := command.remoteTaskId, taskState := "COMPLETED",
      verificationStatus := "VERIFIED", mandateId := some "mandate_1",
      verifiedArtifact := some .null }
  | .sendA2APaymentReceipt command =>
    { remoteTaskId := command.remoteTaskId, taskState := "COMPLETED", delivered := true }

/-- All goes well; the `i`-th await ends at `clock i`, with the signals `sent i` delivered. -/
def wellEnv (policy : PolicyResult) (clock : ℕ → Instant) (sent : ℕ → List QueuedSignal) :
    ℕ → (r : Await) → r.Reply
  | i, .activity a => { now := clock i, arrivals := sent i, result := some (wellResult policy a) }
  | i, .waitCondition _ => { now := clock i, arrivals := sent i, result := () }

/-- A case whose deadline is ten seconds after the epoch. -/
def sampleInput : RecoveryWorkflowInput where
  caseId := "case_1"
  merchantId := "merchant_1"
  customerId := "customer_1"
  subscriptionId := "sub_1"
  failedInvoiceId := some "inv_1"
  failedPaymentId := some "pay_0"
  amountAtRiskPaise := 49900
  currency := "INR"
  recoveryDeadline := "1970-01-01T00:00:10Z"
  failureEvent :=
    { eventId := "evt_0", eventType := "payment.failed", occurredAt := "1970-01-01T00:00:00Z" }
  recoveryActionId := some "action_1"

/-- `_parse_instant` on the two instants that the samples use. -/
def sampleHost : Host where
  parseInstant text :=
    if text = "1970-01-01T00:00:10Z" then some 10000000
    else if text = "1970-01-01T00:00:05Z" then some 5000000
    else none
  upper := String.toUpper

end RecoveryOS.Worker
