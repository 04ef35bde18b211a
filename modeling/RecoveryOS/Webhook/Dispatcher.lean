import RecoveryOS.Lib.Calendar
import RecoveryOS.Webhook.Pollers
import RecoveryOS.Worker.Workflow

/-!
# The handoff to the workflow

`TemporalRazorpaySignalDispatcher` of `worker/app/outbox.py`: the signal of an outbox message starts the
workflow of its case, or is delivered to the one that runs. The server keeps the executions of every
workflow id and lets one of them be open at a time; a call to it may be carried out although its
caller sees an error.

The dispatcher reads the tables through the session of its poller, which may go on showing rows as the
poller has read them before.
-/

namespace RecoveryOS.Webhook

open Store Worker

/-! ## The server -/

/-- How a call to the server ends for its caller: with an answer, or with an error, after or without
being carried out. -/
inductive Fate where
  | answered
  | lost
  | unreached
  deriving DecidableEq

structure Execution where
  input : RecoveryWorkflowInput
  mailbox : List QueuedSignal := []
  isOpen : Bool := true

/-- The executions under every workflow id, the latest first. -/
abbrev Temporal : Type := String → List Execution

inductive DispatchError where
  | runtime (message : String)
  | rpc
  deriving DecidableEq

def Temporal.running (t : Temporal) (workflowId : String) : Bool :=
  (t workflowId).head?.any (·.isOpen)

/-- The answer to a call that is carried out, as far as it arrives. -/
def Fate.reply {α : Type} (fate : Fate) (answer : α) : Except DispatchError α :=
  if fate = .answered then .ok answer else .error .rpc

/-- `start_workflow`: whether it was started, and not there already. -/
def startWorkflow (fate : Fate) (workflowId : String) (input : RecoveryWorkflowInput)
    (t : Temporal) : Except DispatchError Bool × Temporal :=
  if fate = .unreached then (.error .rpc, t)
  else if t.running workflowId then (fate.reply false, t)
  else (fate.reply true, Function.update t workflowId ({ input } :: t workflowId))

/-- The signal in the mailbox of the latest execution, if that is open. -/
def post (sig : QueuedSignal) : List Execution → Option (List Execution)
  | [] => none
  | run :: rest =>
    if run.isOpen then some ({ run with mailbox := run.mailbox ++ [sig] } :: rest) else none

/-- `handle.signal`, to the latest execution. -/
def signalWorkflow (fate : Fate) (workflowId : String) (sig : QueuedSignal) (t : Temporal) :
    Except DispatchError Unit × Temporal :=
  if fate = .unreached then (.error .rpc, t)
  else match post sig (t workflowId) with
    | none => (.error .rpc, t)
    | some runs => (fate.reply (), Function.update t workflowId runs)

/-- The latest execution comes to its end. -/
def closeWorkflow (workflowId : String) (t : Temporal) : Temporal :=
  Function.update t workflowId ((t workflowId).modifyHead ({ · with isOpen := false }))

/-! ## The start input -/

/-- `_CANONICAL_REASON_BY_DIAGNOSIS`. -/
def canonicalReason : Diagnosis → Option String
  | .authenticationRequired => some "BAD_REQUEST_PAYMENT_AUTHENTICATION_FAILED"
  | .insufficientFunds => some "BAD_REQUEST_PAYMENT_CARD_INSUFFICIENT_BALANCE"
  | .instrumentInvalid => some "BAD_REQUEST_PAYMENT_CARD_EXPIRED"
  | .transientRetryable => some "GATEWAY_ERROR"
  | .merchantError => some "MERCHANT_CONFIGURATION_ERROR"
  | .riskOrComplianceBlock => some "RISK_CHECK_FAILED"
  | .unknown => none

section
variable (session : Database) (signal : RazorpayDownstreamSignal)

/-- The text of an effect, or the error if it is none. -/
def effectText (name message : String) : Except DispatchError (Option String) :=
  match Json.get signal.effects name with
  | .str id => .ok (some id)
  | _ => .error (.runtime message)

/-- The durable action that the signal starts the workflow with. -/
def actionId : Except DispatchError (Option String) :=
  if signal.eventType = "payment.failed" then
    effectText signal "recommended_action_id"
      "Razorpay failure signal has no durable recommended action"
  else if signal.normalizedEvent.paymentState = .captured then
    effectText signal "reconciliation_action_id"
      "Razorpay success signal has no reconciliation-only authorization"
  else .ok none

/-- The action and its policy, both of the case. -/
def durableAction (id caseId : String) : Option RecoveryActionRecord :=
  session.actions.find? fun a => decide (a.id = id ∧ a.caseId = caseId) &&
    session.policies.any fun p => decide (p.actionId = some a.id ∧ p.caseId = caseId)

/-- The candidate action and its payment surface. -/
def candidate (recoveryCase : RecoveryCase) :
    Option String → Except DispatchError (String × Option String)
  | some id =>
    match durableAction session id recoveryCase.id with
    | none => .error
        (.runtime "Razorpay failure signal references no durable action and policy")
    | some action =>
      if signal.eventType ≠ "payment.failed" ∧
          (action.actionType ≠ .waitForGatewayRetry ∨ action.paymentSurfaceType ≠ none) then
        .error (.runtime "Razorpay success authorization is not reconciliation-only")
      else .ok (action.actionType.value,
        if action.actionType = .sendToCustomerAgent then some "SUBSCRIPTION_INVOICE_LINK"
        else action.paymentSurfaceType.map (·.value))
  | none =>
    if signal.eventType ≠ "payment.failed" then .ok ("WAIT_FOR_GATEWAY_RETRY", none)
    else .ok ("OPEN_CUSTOMER_PAYMENT_SURFACE", some "SUBSCRIPTION_INVOICE_LINK")

/-- The failed invoice and the subscription that the workflow is about. -/
def trustedScope (recoveryCase : RecoveryCase) : Except DispatchError (Invoice × Subscription) :=
  let invoice := (truthy recoveryCase.failedInvoiceId).bind fun id =>
    session.invoices.find? fun i => i.id = id
  let subscription := session.subscriptions.find? fun s =>
    s.id = recoveryCase.subscriptionId
  match invoice, subscription with
  | none, _ =>
    .error (.runtime "Razorpay recovery workflow requires a trusted failed invoice")
  | some _, none =>
    .error (.runtime "Razorpay recovery workflow requires a trusted subscription")
  | some invoice, some subscription =>
    if subscription.merchantId ≠ recoveryCase.merchantId then
      .error (.runtime "Razorpay recovery workflow requires a trusted subscription")
    else if invoice.subscriptionId ≠ subscription.id then
      .error (.runtime "Razorpay recovery workflow invoice scope is inconsistent")
    else .ok (invoice, subscription)

/-- The failure event that the workflow starts with. -/
def failureEvent (recoveryCase : RecoveryCase) : ProviderEvent where
  eventId := signal.providerEventId
  eventType := signal.eventType
  occurredAt := Calendar.isoformat signal.normalizedEvent.occurredAt
  payload :=
    let payment := (truthy recoveryCase.failedPaymentId).bind fun id =>
      session.payments.find? fun p => p.id = id
    [("payment_state", .str "FAILED"),
      ("subscription_state", .str (if recoveryCase.subscriptionState = .active then
        SubscriptionState.pending.value else recoveryCase.subscriptionState.value)),
      ("reason_code", .ofOption (canonicalReason recoveryCase.diagnosis)),
      ("authoritative", .bool false),
      ("provider_payment_id", .ofOption (payment.bind (·.providerPaymentId)))]

/-- `_workflow_input`. -/
def workflowInput (recoveryCase : RecoveryCase) : Except DispatchError RecoveryWorkflowInput := do
  let (invoice, subscription) ← trustedScope session recoveryCase
  let actionId ← actionId signal
  let (candidateAction, paymentSurfaceType) ← candidate session signal recoveryCase actionId
  pure
    { caseId := recoveryCase.id
      merchantId := recoveryCase.merchantId
      customerId := recoveryCase.customerId
      subscriptionId := recoveryCase.subscriptionId
      failedInvoiceId := recoveryCase.failedInvoiceId
      failedPaymentId := recoveryCase.failedPaymentId
      amountAtRiskPaise := recoveryCase.amountAtRiskPaise
      currency := invoice.currency
      recoveryDeadline := Calendar.isoformat recoveryCase.recoveryDeadline
      failureEvent := failureEvent session signal recoveryCase
      candidateAction, paymentSurfaceType
      providerSubscriptionId := some subscription.providerSubscriptionId
      providerInvoiceId := some invoice.providerInvoiceId
      recoveryActionId := actionId }

end

/-! ## The dispatcher -/

/-- Whether the effects ask for the event to be told to the workflow. -/
def dispatchNeeded (signal : RazorpayDownstreamSignal) : Bool :=
  if signal.eventType ≠ "payment.failed" then
    match Json.get signal.effects "dispatch_required", Json.get signal.effects "newly_recognized" with
    | .bool false, _ => false
    | .null, .bool false => false
    | _, _ => true
  else match Json.get signal.effects "state_applied" with
    | .bool false => false
    | _ => true

/-- The signal of `_signal_payment`. -/
def paymentSignal (signal : RazorpayDownstreamSignal) : PaymentEventSignal where
  signalId := signal.idempotencyKey
  providerEventId := signal.providerEventId
  paymentState := signal.normalizedEvent.paymentState.value
  amountPaise := signal.normalizedEvent.amountPaise.getD 0
  authoritative := decide (signal.eventType ≠ "payment.failed")

/-- What a call of the dispatcher meets: the tables as its session shows them, the fates of its calls
to the server, and whether the workflow ends between them. -/
structure Link where
  session : Database
  start : Fate
  ends : Bool
  signal : Fate

/-- The case of the signal, if it is known as one of the merchant. -/
def knownCase (session : Database) (signal : RazorpayDownstreamSignal) (caseId : String) :
    Except DispatchError RecoveryCase :=
  match session.cases.find? fun c => c.id = caseId with
  | none => .error (.runtime "Razorpay signal references an unknown merchant recovery case")
  | some recoveryCase =>
    if recoveryCase.merchantId ≠ signal.merchantId then
      .error (.runtime "Razorpay signal references an unknown merchant recovery case")
    else .ok recoveryCase

/-- The workflow is started, or gets the signal. -/
def handOver (link : Link) (workflowId : String) (input : RecoveryWorkflowInput)
    (signal : RazorpayDownstreamSignal) (t : Temporal) : Except DispatchError Unit × Temporal :=
  match startWorkflow link.start workflowId input t with
  | (.error e, t) => (.error e, t)
  | (.ok started, t) =>
    if signal.eventType = "payment.failed" ∧ started = true then (.ok (), t)
    else signalWorkflow link.signal workflowId (.paymentEvent (paymentSignal signal))
      (if link.ends then closeWorkflow workflowId t else t)

/-- The dispatcher's call. -/
def tell (link : Link) (signal : RazorpayDownstreamSignal) (t : Temporal) :
    Except DispatchError Unit × Temporal :=
  match signal.caseId with
  | none => (.ok (), t)
  | some caseId =>
    match knownCase link.session signal caseId with
    | .error e => (.error e, t)
    | .ok recoveryCase =>
      if dispatchNeeded signal = false then (.ok (), t)
      else match workflowInput link.session signal recoveryCase with
        | .error e => (.error e, t)
        | .ok input => handOver link (recoveryWorkflowId recoveryCase.id) input signal t

end RecoveryOS.Webhook
