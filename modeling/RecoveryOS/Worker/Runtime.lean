import RecoveryOS.Store.Entities
import RecoveryOS.Worker.Contracts

/-!
# The production activities

`runtime.py`: what `ProductionRecoveryActivityServices` does to the database and when it calls a
provider. An execution first claims its action in a transaction of its own, under row locks; what
the claim answers decides whether a provider is called at all. The call itself is not part of a
transaction, and its result is persisted in a later one.

Two claims lead to the same call. The plain one looks at the action and its policy decision; the one
backed by a mandate compares the signed data with the command, the consumed nonce and the rows.
-/

namespace RecoveryOS.Worker

open Store

inductive PaymentProvider where
  | mock
  | razorpay
  deriving DecidableEq

/-- How the worker is deployed, with the parsing and the packages it uses. -/
structure Runtime where
  provider : PaymentProvider
  pkgs : A2A.Packages
  parseInstant : String → Option Instant

/-- `OpenPaymentSurfaceRequest`, validated. -/
structure OpenPaymentSurfaceRequest where
  idempotencyKey : String
  caseId : String
  merchantId : String
  customerId : String
  subscriptionId : String
  failedInvoiceId : String
  surfaceType : PaymentSurfaceType
  exactAmountPaise : ℤ
  currency : String
  recoveryDeadline : Instant
  expiresAt : Option Instant
  referenceId : Option String
  notes : List (String × String)
  amount_pos : 0 < exactAmountPaise
  currency_code : currency.length = 3 ∧ currency.toList.all Char.isUpper = true

structure PaymentSurfaceResult where
  provider : String
  providerReference : String
  customerUrl : String
  deriving DecidableEq

/-! ## Answers -/

def rejected (code : String) : ActionExecutionResult :=
  { status := "REJECTED", provider := "none", reasonCode := some code }

def uncertain (provider : String) (reference : Option String) (code : String) :
    ActionExecutionResult :=
  { status := "UNCERTAIN", provider, providerReference := reference, reasonCode := some code }

def alreadyExecuted (action : RecoveryActionRecord) : ActionExecutionResult :=
  { status := "SUCCEEDED"
    provider := "persisted"
    providerReference := action.externalReference
    customerUrl := action.customerUrl
    reasonCode := some "ALREADY_EXECUTED" }

def succeeded (result : PaymentSurfaceResult) (code : Option String) : ActionExecutionResult :=
  { status := "SUCCEEDED"
    provider := result.provider
    providerReference := some result.providerReference
    customerUrl := some result.customerUrl
    reasonCode := code }

/-- What a claim returns: the action it claimed, an answer, or an exception. -/
inductive PaymentActionClaim where
  | claimed (action : RecoveryActionRecord) (reconcileBeforeSubmission : Bool)
  | answered (result : ActionExecutionResult)
  | raised

/-! ## Policy -/

/-- `_effective_delay`. -/
def effectiveDelay (action : RecoveryActionRecord) (policy : PolicyDecisionRecord) :
    Option Instant :=
  match action.scheduledFor, policy.delayUntil with
  | some s, some d => some (max s d)
  | some s, none => some s
  | none, d => d

/-- The due time is past. -/
def due (action : RecoveryActionRecord) (policy : PolicyDecisionRecord) (now : Instant) : Bool :=
  (effectiveDelay action policy).all fun t => decide (t ≤ now)

/-- The actions that satisfy a condition, each with each decision about it. -/
def withPolicies (p : RecoveryActionRecord → Bool) (db : Database) :
    List (RecoveryActionRecord × PolicyDecisionRecord) :=
  (db.actions.filter p).flatMap fun a =>
    (db.policies.filter fun d => d.actionId = some a.id).map fun d => (a, d)

/-- `order_by(created_at.desc())` on the actions. -/
def latestFirst (a b : RecoveryActionRecord × PolicyDecisionRecord) : Bool :=
  decide (b.1.createdAt ≤ a.1.createdAt)

/-! ## The plain claim -/

/-- The latest action that opens the surface, with its decision. -/
def surfaceRow (command : ExecuteActionInput) (surface : PaymentSurfaceType) (db : Database) :
    Option (RecoveryActionRecord × PolicyDecisionRecord) :=
  Table.first latestFirst (withPolicies (fun a =>
    decide (a.caseId = command.caseId) &&
    (db.cases.any fun c => decide (c.id = a.caseId) &&
      decide (c.merchantId = command.merchantId)) &&
    decide (a.actionType = .openCustomerPaymentSurface) &&
    decide (a.paymentSurfaceType = some surface)) db)

/-- The statuses from which a decision lets an action be claimed. -/
def claimableStatuses : PolicyDisposition → List ActionStatus
  | .allow => [.proposed, .scheduled]
  | .delay => [.scheduled]
  | .requireManualApproval => [.scheduled]
  | .block => []

def executing (action : RecoveryActionRecord) : RecoveryActionRecord :=
  { action with status := .executing }

/-- The part of `_claim_payment_action` after the locked read. The `UPDATE` repeats the status and
the schedule that were read. -/
def claimSurfaceAction (inFlight : List String) (surface : PaymentSurfaceType) (now : Instant)
    (action : RecoveryActionRecord) (policy : PolicyDecisionRecord) (db : Database) :
    PaymentActionClaim × Database :=
  let unresolved := fun reference : Option String =>
    PaymentActionClaim.answered
      (uncertain "unknown" reference "SUBMISSION_RECONCILIATION_REQUIRED")
  if action.status = .succeeded then (.answered (alreadyExecuted action), db)
  else if action.status = .executing then
    if action.id ∈ inFlight then (unresolved action.externalReference, db)
    else if surface = .standardPaymentLink then (.claimed action true, db)
    else (unresolved action.externalReference, db)
  else if policy.disposition = .block then (.answered (rejected "POLICY_BLOCKED"), db)
  else if action.status = .cancelled then (.answered (rejected "ACTION_CANCELLED"), db)
  else if action.status ∉ claimableStatuses policy.disposition then
    (.answered (rejected "ACTION_NOT_AUTHORIZED"), db)
  else if due action policy now = false then (.answered (rejected "ACTION_NOT_DUE"), db)
  else if db.actions.any fun a => decide (a.id = action.id) && decide (a.status = action.status) &&
      a.scheduledFor.all fun t => decide (t ≤ now) then
    (.claimed (executing action) false, db.putAction (executing action))
  else
    match db.actions.find? fun a => a.id = action.id with
    | none => (unresolved none, db)
    | some current =>
      if current.status = .succeeded then (.answered (alreadyExecuted current), db)
      else if current.status = .executing ∧ current.id ∉ inFlight ∧
          surface = .standardPaymentLink then (.claimed current true, db)
      else (unresolved current.externalReference, db)

/-! ## The claim backed by a mandate -/

/-- The scope that the signed data, the command, the consumed nonce and the rows have to share. -/
structure MandateScope where
  recoveryActionId : Option String
  failedInvoiceId : Option String
  caseId : String
  merchantId : String
  customerId : Option String
  exactAmountPaise : Option ℤ
  currency : Option String
  paymentSurfaceType : Option String
  paymentSurfaceReference : Option String
  deriving DecidableEq

def commandScope (command : ExecuteActionInput) (surface : PaymentSurfaceType) :
    MandateScope where
  recoveryActionId := command.recoveryActionId
  failedInvoiceId := command.failedInvoiceId
  caseId := command.caseId
  merchantId := command.merchantId
  customerId := some command.customerId
  exactAmountPaise := some command.amountPaise
  currency := some command.currency
  paymentSurfaceType := some surface.value
  paymentSurfaceReference := (truthy command.providerInvoiceId).or command.failedInvoiceId

def signedScope (data : A2A.RecoveryMandateData) : MandateScope where
  recoveryActionId := some data.recoveryActionId
  failedInvoiceId := some data.failedInvoiceId
  caseId := data.caseId
  merchantId := data.merchantId
  customerId := some data.customerId
  exactAmountPaise := some data.exactAmountPaise
  currency := some data.currency
  paymentSurfaceType := some data.paymentSurfaceType
  paymentSurfaceReference := some data.paymentSurfaceReference

def persistedScope (authorization : A2A.A2AMandateNonceConsumption) : MandateScope where
  recoveryActionId := authorization.recoveryActionId
  failedInvoiceId := authorization.failedInvoiceId
  caseId := authorization.caseId
  merchantId := authorization.merchantId
  customerId := authorization.customerId
  exactAmountPaise := authorization.exactAmountPaise
  currency := authorization.currency
  paymentSurfaceType := authorization.paymentSurfaceType
  paymentSurfaceReference := authorization.paymentSurfaceReference

def currentScope (action : RecoveryActionRecord) (invoice : Invoice) (recoveryCase : RecoveryCase)
    (surface : PaymentSurfaceType) : MandateScope where
  recoveryActionId := some action.id
  failedInvoiceId := some invoice.id
  caseId := recoveryCase.id
  merchantId := recoveryCase.merchantId
  customerId := some recoveryCase.customerId
  exactAmountPaise := some recoveryCase.amountAtRiskPaise
  currency := some invoice.currency
  paymentSurfaceType := some surface.value
  paymentSurfaceReference := some invoice.providerInvoiceId

/-- The rows that the claim joins. -/
structure MandateRow where
  action : RecoveryActionRecord
  policy : PolicyDecisionRecord
  recoveryCase : RecoveryCase
  invoice : Invoice
  authorization : A2A.A2AMandateNonceConsumption

def mandateRows (actionId caseId mandateId claimId : String) (db : Database) : List MandateRow :=
  (withPolicies (fun a => decide (a.id = actionId) && decide (a.caseId = caseId)) db).flatMap
    fun row => if row.2.caseId = caseId then
      (db.cases.filter fun c => c.id = row.1.caseId).flatMap fun c =>
        (db.invoices.filter fun i => c.failedInvoiceId = some i.id).flatMap fun i =>
          (db.nonces.filter fun n => n.recoveryActionId = some row.1.id ∧
            n.mandateId = mandateId ∧ n.claimId = some claimId).map fun n =>
            ⟨row.1, row.2, c, i, n⟩
    else []

/-- What the claim finds unsafe before it parses the command's deadline. -/
def MandateRow.mismatched (row : MandateRow) (data : A2A.RecoveryMandateData)
    (surface : PaymentSurfaceType) (now : Instant) : Bool :=
  decide (persistedScope row.authorization ≠ signedScope data) ||
    decide (currentScope row.action row.invoice row.recoveryCase surface ≠ signedScope data) ||
    decide (row.authorization.taskId ≠ some data.taskId) ||
    decide (row.authorization.signerKeyId ≠ data.signerKeyId) ||
    decide (row.authorization.authorizedAction ≠ some "OPEN_EXACT_PAYMENT_SURFACE") ||
    decide (row.authorization.issuedAt ≠ some data.issuedAt.instant) ||
    decide (row.authorization.expiresAt ≠ data.expiresAt.instant) ||
    decide (data.expiresAt.instant ≤ now) ||
    decide (row.recoveryCase.recoveryDeadline < data.expiresAt.instant)

/-- What it finds unsafe after that. -/
def MandateRow.stale (row : MandateRow) (data : A2A.RecoveryMandateData) : Bool :=
  decide (row.invoice.amountPaise - row.invoice.amountPaidPaise ≠ data.exactAmountPaise) ||
    decide (row.recoveryCase.caseOutcome ≠ .open) ||
    decide (row.recoveryCase.paymentState = .captured) ||
    row.recoveryCase.caseRecovered ||
    decide (row.action.actionType ≠ .sendToCustomerAgent) ||
    decide (row.policy.disposition ≠ .allow ∧ row.policy.disposition ≠ .delay)

def setAuthorization (actionId : String)
    (f : A2A.A2AMandateNonceConsumption → A2A.A2AMandateNonceConsumption) (db : Database) :
    Database :=
  { db with nonces := db.nonces.map fun n => if n.recoveryActionId = some actionId then f n else n }

/-- The writes of a granted claim. -/
def claimAuthorization (action : RecoveryActionRecord) (now : Instant) (db : Database) : Database :=
  setAuthorization action.id
    (fun n => { n with executionStatus := .executing, executionClaimedAt := some now })
    (db.putAction (executing action))

/-- The part of `_claim_a2a_payment_action` after the rows were found safe. -/
def claimAuthorizedAction (row : MandateRow) (surface : PaymentSurfaceType) (now : Instant)
    (db : Database) : PaymentActionClaim × Database :=
  let action := row.action
  let status := row.authorization.executionStatus
  if action.status = .succeeded then (.answered (alreadyExecuted action), db)
  else if action.status = .cancelled then (.answered (rejected "ACTION_CANCELLED"), db)
  else if status = .executing ∨ status = .uncertain then
    if surface = .standardPaymentLink then (.claimed action true, db)
    else (.answered (uncertain "unknown" action.externalReference
      "SUBMISSION_RECONCILIATION_REQUIRED"), db)
  else if status = .succeeded then (.answered (alreadyExecuted action), db)
  else if status ≠ .authorized then
    (.answered (rejected "A2A_AUTHORIZATION_NOT_EXECUTABLE"), db)
  else if action.status ≠ .proposed ∧ action.status ≠ .scheduled then
    (.answered (rejected "ACTION_NOT_AUTHORIZED"), db)
  else if due action row.policy now = false then (.answered (rejected "ACTION_NOT_DUE"), db)
  else (.claimed (executing action) false, claimAuthorization action now db)

section
variable (rt : Runtime) (command : ExecuteActionInput)

/-- `SignedMandate.model_validate(command.mandate)`. -/
def validateMandate (mandate : Json) : Option A2A.SignedMandate :=
  match mandate with
  | .obj fields => rt.pkgs.modelValidate fields
  | _ => none

/-- `_claim_a2a_payment_action`. -/
def claimA2aPaymentAction (mandate : Json) (surface : PaymentSurfaceType) (now : Instant)
    (db : Database) : PaymentActionClaim × Database :=
  match command.recoveryActionId, command.failedInvoiceId with
  | some actionId, some _ =>
    match validateMandate rt mandate with
    | none => (.answered (rejected "A2A_MANDATE_MALFORMED"), db)
    | some signed =>
      let data := signed.data
      let unsafeScope := PaymentActionClaim.answered
        (rejected "A2A_AUTHORIZATION_STALE_OR_MISMATCHED")
      if signedScope data ≠ commandScope command surface then
        (.answered (rejected "A2A_MANDATE_COMMAND_SCOPE_MISMATCH"), db)
      else
        match (mandateRows actionId command.caseId data.mandateId
            (rt.pkgs.sha256 (A2A.canonicalJson rt.pkgs data)) db).head? with
        | none => (.answered (rejected "A2A_VERIFIED_AUTHORIZATION_NOT_FOUND"), db)
        | some row =>
          if row.mismatched data surface now then (unsafeScope, db)
          else
            match rt.parseInstant command.recoveryDeadline with
            | none => (.raised, db)
            | some deadline =>
              if deadline ≠ row.recoveryCase.recoveryDeadline ∨ row.stale data = true then
                (unsafeScope, db)
              else claimAuthorizedAction row surface now db
  | _, _ => (.answered (rejected "A2A_DURABLE_SCOPE_MISSING"), db)

/-- `_claim_payment_action`, with the submissions that this process has in flight. -/
def claimPaymentAction (inFlight : List String) (now : Instant) (db : Database) :
    PaymentActionClaim × Database :=
  match command.paymentSurfaceType with
  | none => (.answered (rejected "PAYMENT_SURFACE_SCOPE_MISSING"), db)
  | some text =>
    match PaymentSurfaceType.ofValue text, command.mandate with
    | none, _ => (.raised, db)
    | some surface, some mandate => claimA2aPaymentAction rt command mandate surface now db
    | some surface, none =>
      match surfaceRow command surface db with
      | none => (.answered (rejected "PERSISTED_POLICY_NOT_FOUND"), db)
      | some (action, policy) => claimSurfaceAction inFlight surface now action policy db

/-! ## Execution -/

/-- `_standard_payment_link_reference`. -/
def standardPaymentLinkReference (idempotencyKey : String) : String :=
  "rec_" ++ String.ofList ((rt.pkgs.sha256 idempotencyKey).toList.take 32)

/-- The provider's ids of the subscription and the invoice; the mock is content with ours. -/
def providerScope : Option (String × String) :=
  match rt.provider with
  | .mock => do
    let invoiceId ← (truthy command.providerInvoiceId).or command.failedInvoiceId
    some ((truthy command.providerSubscriptionId).getD command.subscriptionId, invoiceId)
  | .razorpay => do
    let subscriptionId ← command.providerSubscriptionId
    let invoiceId ← command.providerInvoiceId
    some (subscriptionId, invoiceId)

/-- The request for the action's surface; `none` if it does not validate. -/
def openRequest (action : RecoveryActionRecord) (surface : PaymentSurfaceType) (deadline : Instant)
    (subscriptionId invoiceId : String) : Option OpenPaymentSurfaceRequest :=
  let link := decide (surface = .standardPaymentLink)
  if h : 0 < command.amountPaise ∧
      (command.currency.length = 3 ∧ command.currency.toList.all Char.isUpper = true) then
    some
      { idempotencyKey := action.idempotencyKey
        caseId := command.caseId
        merchantId := command.merchantId
        customerId := command.customerId
        subscriptionId
        failedInvoiceId := invoiceId
        surfaceType := surface
        exactAmountPaise := command.amountPaise
        currency := command.currency
        recoveryDeadline := deadline
        expiresAt := if link then some deadline else none
        referenceId :=
          if link then some (standardPaymentLinkReference rt action.idempotencyKey) else none
        notes := if link then
            [("case_id", command.caseId), ("invoice_id", invoiceId),
              ("subscription_id", subscriptionId)]
          else []
        amount_pos := h.1
        currency_code := h.2 }
  else none

/-- What an execution does next: it is over, calls the provider, or reconciles a submission. -/
inductive Execution where
  | answered (result : ActionExecutionResult)
  | raised
  | submit (actionId : String) (request : OpenPaymentSurfaceRequest)
  | reconcile (actionId : String) (request : OpenPaymentSurfaceRequest)

/-- The part of `execute_recovery_action` between the claim and the first call of the provider. -/
def afterClaim (surface : PaymentSurfaceType) (subscriptionId invoiceId : String) :
    PaymentActionClaim → Execution
  | .answered result => .answered result
  | .raised => .raised
  | .claimed action reconcileFirst =>
    match (rt.parseInstant command.recoveryDeadline).bind fun deadline =>
      openRequest rt command action surface deadline subscriptionId invoiceId with
    | none => .raised
    | some request =>
      if reconcileFirst then
        if surface = .standardPaymentLink then .reconcile action.id request
        else .answered (uncertain "unknown" action.externalReference
          "SUBMISSION_RECONCILIATION_REQUIRED")
      else .submit action.id request

/-- `execute_recovery_action` up to its first call of a payment provider. -/
def executePaymentSurface (inFlight : List String) (now : Instant) (db : Database) :
    Execution × Database :=
  match command.failedInvoiceId, command.paymentSurfaceType with
  | some _, some text =>
    match PaymentSurfaceType.ofValue text with
    | none => (.raised, db)
    | some surface =>
      match providerScope rt command with
      | none => (.answered (rejected "PAYMENT_PROVIDER_SCOPE_MISSING"), db)
      | some (subscriptionId, invoiceId) =>
        let (claim, db') := claimPaymentAction rt command inFlight now db
        (afterClaim rt command surface subscriptionId invoiceId claim, db')
  | _, _ => (.answered (rejected "PAYMENT_SURFACE_SCOPE_MISSING"), db)

end

end RecoveryOS.Worker
