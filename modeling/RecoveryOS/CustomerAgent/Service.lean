import RecoveryOS.CustomerAgent.Models
import RecoveryOS.Lib.Clients

/-!
# The agent's service and its task store

`service.py` over `store.py`. An operation of the service stops at every call to the store, and to
the clock and the random sources, so that other operations can come in between. The store answers
one call at a time: `create_once` under an idempotency key, and `save` only if the task has the
revision that was read.
-/

namespace RecoveryOS.CustomerAgent

open Resume
open RecoveryOS.A2A (DateTime)

inductive Call where
  | now
  | uuid4
  | tokenUrlsafe
  | createOnce (idempotencyKey : String) (task : TaskRecord)
  | get (taskId : String)
  | save (task : TaskRecord) (expectedRevision : ℕ)

/-- The exceptions; `lookup` stands for an index or a key that is missing. -/
inductive Raised where
  | notFound
  | conflict (message : String)
  | authorization (message : String)
  | idempotencyConflict
  | validation
  | lookup
  deriving DecidableEq

def Call.Reply : Call → Type
  | .now => Instant
  | .uuid4 => String
  | .tokenUrlsafe => String
  | .createOnce _ _ => Except Raised TaskRecord
  | .get _ => Option TaskRecord
  | .save _ _ => Bool

/-- An operation; its state is the exception that ended it. -/
abbrev Op := Code Call Call.Reply (Option Raised)

def raise {α : Type} (e : Raised) : Op α := fun _ => .failed (some e)

/-- `datetime.now(UTC)`. -/
def now : Op DateTime := do
  let instant : Instant ← Code.ask Call.now
  pure { instant, offset := 0 }

def uuid4 : Op String := Code.ask Call.uuid4

def tokenUrlsafe : Op String := Code.ask Call.tokenUrlsafe

def storeGet (taskId : String) : Op (Option TaskRecord) := Code.ask (Call.get taskId)

def storeSave (task : TaskRecord) (expectedRevision : ℕ) : Op Bool :=
  Code.ask (Call.save task expectedRevision)

def storeCreateOnce (idempotencyKey : String) (task : TaskRecord) :
    Op (Except Raised TaskRecord) :=
  Code.ask (Call.createOnce idempotencyKey task)

/-- `value[name]`, if that is there. -/
def Json.item? : Json → String → Option Json
  | .obj fields, name => (fields.find? fun f => f.1 = name).map (·.2)
  | _, _ => none

/-- `value[0]`, if that is there. -/
def Json.first? : Json → Option Json
  | .arr (value :: _) => some value
  | _ => none

def Json.isText (text : String) : Json → Bool
  | .str s => decide (s = text)
  | _ => false

/-- The truth value of a JSON value. -/
def Json.truthy : Json → Bool
  | .null => false
  | .bool b => b
  | .int n => decide (n ≠ 0)
  | .num q => decide (q ≠ 0)
  | .str s => decide (s ≠ "")
  | .arr l => !l.isEmpty
  | .obj l => !l.isEmpty

/-- `get_task`. -/
def getTask (taskId : String) : Op TaskRecord := do
  match (← storeGet taskId) with
  | some task => pure task
  | none => raise .notFound

/-- `_agent_message`. -/
def agentMessage (task : TaskRecord) (data : List (String × Json)) : Op Json := do
  let id ← uuid4
  pure (.obj [("messageId", .str ("msg_" ++ id)), ("role", .str "ROLE_AGENT"),
    ("taskId", .str task.id), ("contextId", .str task.contextId),
    ("parts", .arr [.obj [("data", .obj data)]])])

variable (pkgs : Packages)

/-- The status of a task, with the message that goes with it. -/
def statusOf (state : TaskState) (timestamp : DateTime) (message : Json) : Json :=
  .obj [("state", .str state.text), ("timestamp", .str (pkgs.isoformat timestamp)),
    ("message", message)]

/-- `_create_authorization_task`. -/
def createAuthorizationTask (message : Message) (request : RecoveryRequestData) :
    Op TaskRecord := do
  let time ← now
  if request.expiresAt.instant ≤ time.instant then
    raise (.conflict "recovery request has expired")
  else
    let taskId := "task_" ++ (← uuid4)
    let contextId := (message.contextId.filter (· ≠ "")).getD ("ctx_" ++ request.caseId)
    let messageId ← uuid4
    let task : TaskRecord :=
      { id := taskId, contextId, state := .authRequired
        status := statusOf pkgs .authRequired time (.obj
          [("messageId", .str ("msg_" ++ messageId)), ("role", .str "ROLE_AGENT"),
            ("taskId", .str taskId), ("contextId", .str contextId),
            ("parts", .arr [.obj [("data", .obj
              [("protocol_version", .str "recovery.authorization-required.v1"),
                ("approval_path", .str ("/a2a/" ++ taskId)),
                ("case_id", .str request.caseId)])]])])
        request, history := [message.modelDump], createdAt := time, updatedAt := time }
    match (← storeCreateOnce request.idempotencyKey task) with
    | .ok stored => pure stored
    | .error e => raise e

/-- `_authorized_task`. -/
def authorizedTask (taskId : String) (approvalToken : Option String) : Op TaskRecord := do
  let task ← getTask taskId
  match pkgs.approvalToken task with
  | none => pure task
  | some expected =>
    if approvalToken.getD "" ≠ expected then
      raise (.authorization "invalid customer approval capability")
    else
      let time ← now
      if task.request.expiresAt.instant ≤ time.instant then
        raise (.authorization "customer approval capability has expired")
      else
        pure task

/-- One attempt of `cancel_task`; `none` if the task was changed meanwhile. -/
def tryCancel (taskId reason : String) : Op (Option TaskRecord) := do
  let task ← getTask taskId
  if task.state = .completed ∨ task.state = .canceled then
    pure (some task)
  else
    let time ← now
    let message ← agentMessage task
      [("protocol_version", .str "recovery.canceled.v1"), ("reason", .str reason)]
    let canceled : TaskRecord :=
      { task with
        state := .canceled, status := statusOf pkgs .canceled time message, updatedAt := time }
    if (← storeSave canceled task.revision) then
      pure (some { canceled with revision := task.revision + 1 })
    else
      pure none

/-- `cancel_task`: the attempts that are left. -/
def cancelAttempts (taskId reason : String) : ℕ → Op TaskRecord
  | 0 => raise (.conflict "task changed concurrently; retry cancellation")
  | n + 1 => do
    match (← tryCancel pkgs taskId reason) with
    | some task => pure task
    | none => cancelAttempts taskId reason n

/-- `cancel_task`. -/
def cancelTask (taskId reason : String) : Op TaskRecord := cancelAttempts pkgs taskId reason 3

/-- `_save_once`, with the task as it is returned after it. -/
def saveOnce (task : TaskRecord) (expectedRevision : ℕ) : Op TaskRecord := do
  if (← storeSave task expectedRevision) then
    pure { task with revision := expectedRevision + 1 }
  else
    raise (.conflict "task changed concurrently; retry request")

/-- `_mandate_artifact`. -/
def mandateArtifact (signed : SignedMandate) : Json :=
  .obj [("artifactId", .str signed.data.mandateId),
    ("name", .str "Exact payment-surface authorization"),
    ("description",
      .str "Single-use customer authorization; this artifact does not execute payment."),
    ("parts", .arr [.obj [("data", signed.modelDump pkgs)]])]

def receiptArtifact (id : String) (signed : SignedRecoveryReceipt) : Json :=
  .obj [("artifactId", .str ("receipt_" ++ id)), ("name", .str "Recovery payment receipt"),
    ("parts", .arr [.obj [("data", signed.modelDump pkgs)]])]

/-- The mandate of a task that is approved; `mandateTtl` is in microseconds. -/
def mandateOf (mandateTtl : ℤ) (task : TaskRecord) (time : DateTime) (mandateId nonce : String) :
    RecoveryMandateData :=
  let request := task.request
  let limit : DateTime := { time with instant := time.instant + mandateTtl }
  { mandateId := "mandate_" ++ mandateId, nonce, signerKeyId := pkgs.signerKeyId,
    taskId := task.id, merchantId := request.merchantId, caseId := request.caseId,
    customerId := request.customerId, recoveryActionId := request.recoveryActionId,
    failedInvoiceId := request.failedInvoiceId, exactAmountPaise := request.exactAmountPaise,
    currency := request.currency, paymentSurfaceType := request.paymentSurfaceType,
    paymentSurfaceReference := request.paymentSurfaceReference, issuedAt := time,
    expiresAt := if limit.instant < request.expiresAt.instant then limit else request.expiresAt }

/-- `decide`. -/
def decide (mandateTtl : ℤ) (taskId : String) (decision : ApprovalDecision)
    (approvalToken : Option String) : Op TaskRecord := do
  let task ← authorizedTask pkgs taskId approvalToken
  let request := task.request
  if task.state ≠ .authRequired then
    raise (.conflict "authorization has already been decided")
  else if (decision.merchantId, decision.caseId, decision.exactAmountPaise,
        decision.paymentSurfaceReference)
      ≠ (request.merchantId, request.caseId, request.exactAmountPaise,
        request.paymentSurfaceReference) then
    raise (.conflict "approval scope does not match the recovery request")
  else
    let time ← now
    if request.expiresAt.instant ≤ time.instant then
      raise (.conflict "recovery request has expired")
    else if decision.decision = .reject then
      let message ← agentMessage task
        [("protocol_version", .str "recovery.authorization-declined.v1")]
      saveOnce
        { task with
          state := .canceled, status := statusOf pkgs .canceled time message, updatedAt := time }
        task.revision
    else
      let mandate := mandateOf pkgs mandateTtl task time (← uuid4) (← tokenUrlsafe)
      if mandate.valid = false then
        raise .validation
      else
        match signMandate pkgs mandate with
        | none => raise .validation
        | some signed =>
          let message ← agentMessage task
            [("protocol_version", .str "recovery.authorization-granted.v1"),
              ("mandate_id", .str mandate.mandateId),
              ("notice",
                .str "Authorization recorded; RecoveryOS must verify it before use.")]
          saveOnce
            { task with
              state := .working, artifacts := [mandateArtifact pkgs signed]
              status := statusOf pkgs .working time message, updatedAt := time }
            task.revision

/-- `_is_duplicate_message`; `none` where it raises. -/
def isDuplicateMessage (task : TaskRecord) (message : Message) : Option Bool :=
  match task.history.find? fun item =>
      ((Json.item? item "messageId").map (Json.isText message.messageId)).getD false with
  | none => some false
  | some item => if pkgs.sameDict item message.modelDump then some true else none

/-- The data of the mandate in the first artifact. -/
def mandateData (task : TaskRecord) : Option Json := do
  let artifact ← task.artifacts.head?
  let part ← Json.first? (← Json.item? artifact "parts")
  Json.item? (← Json.item? part "data") "data"

/-- The eight fields of a receipt that must be those of the task and its mandate. -/
def receiptMatches (task : TaskRecord) (mandateId recoveryActionId failedInvoiceId : Json)
    (receipt : RecoveryReceiptData) : Bool :=
  Json.isText receipt.mandateId mandateId
  && Json.isText receipt.recoveryActionId recoveryActionId
  && Json.isText receipt.failedInvoiceId failedInvoiceId
  && (receipt.taskId, receipt.merchantId, receipt.caseId, receipt.exactAmountPaise,
      receipt.currency) ==
    (task.id, task.request.merchantId, task.request.caseId, task.request.exactAmountPaise,
      task.request.currency)

def duplicateOr (task : TaskRecord) (message : Message) (other : Op TaskRecord) :
    Op TaskRecord :=
  match isDuplicateMessage pkgs task message with
  | none => raise (.conflict "messageId was reused with different receipt data")
  | some true => pure task
  | some false => other

/-- `_complete_with_receipt`. -/
def completeWithReceipt (message : Message) (signed : SignedRecoveryReceipt)
    (receipt : RecoveryReceiptData) : Op TaskRecord := do
  let taskId := (message.taskId.filter (· ≠ "")).getD receipt.taskId
  let task ← getTask taskId
  duplicateOr pkgs task message do
    if task.state ≠ .working then
      raise (.conflict "task is not awaiting a payment receipt")
    else if message.messageId ≠ receipt.receiptId then
      raise (.conflict "receipt ID does not match the A2A message ID")
    else
      match mandateData task with
      | none => raise .lookup
      | some data =>
        match Json.item? data "mandate_id", Json.item? data "recovery_action_id",
            Json.item? data "failed_invoice_id" with
        | some mandateId, some recoveryActionId, some failedInvoiceId =>
          if receiptMatches task mandateId recoveryActionId failedInvoiceId receipt = false then
            raise (.conflict "receipt scope does not match the signed mandate")
          else
            let time ← now
            let id ← uuid4
            let reply ← agentMessage task
              [("protocol_version", .str "recovery.completed.v1"),
                ("payment_state", .str "CAPTURED"),
                ("provider_reference", .str receipt.providerReference)]
            let completed : TaskRecord :=
              { task with
                state := .completed
                artifacts := task.artifacts ++ [receiptArtifact pkgs id signed]
                history := task.history ++ [message.modelDump]
                status := statusOf pkgs .completed time reply, updatedAt := time }
            if (← storeSave completed task.revision) then
              pure { completed with revision := task.revision + 1 }
            else
              let latest ← getTask taskId
              duplicateOr pkgs latest message
                (raise (.conflict "task changed concurrently; retry receipt"))
        | _, _, _ => raise .lookup

/-- `send_message`. -/
def sendMessage (message : Message) : Op TaskRecord :=
  let part := message.parts.head message.nonempty
  let version := Json.get part "protocol_version"
  let protocolVersion := if Json.truthy version then version else Json.get part "protocolVersion"
  let nestedProtocol := Json.get (Json.get part "data").asObject "protocol_version"
  if Json.isText "recovery.request.v2" protocolVersion then
    match pkgs.validateRequest part with
    | none => raise .validation
    | some request => createAuthorizationTask pkgs message request
  else if Json.isText "recovery.receipt.v2" protocolVersion
      || Json.isText "recovery.receipt.v2" nestedProtocol then
    match pkgs.validateReceipt part with
    | none => raise .validation
    | some signed =>
      match verifyReceipt pkgs signed with
      | .error reason => raise (.conflict reason)
      | .ok receipt => completeWithReceipt pkgs message signed receipt
  else
    raise (.conflict "unsupported recovery DataPart protocol_version")

/-! ## The store -/

/-- `InMemoryTaskStore`. -/
structure Store where
  tasks : String → Option TaskRecord := fun _ => none
  idempotency : String → Option String := fun _ => none

namespace Store

def put (w : Store) (task : TaskRecord) : Store :=
  { w with tasks := Function.update w.tasks task.id (some task) }

/-- `create_once`. -/
def createOnce (w : Store) (idempotencyKey : String) (task : TaskRecord) :
    Store × Except Raised TaskRecord :=
  match (w.idempotency idempotencyKey).filter (· ≠ "") with
  | some existingId =>
    match w.tasks existingId with
    | none => (w, .error .lookup)
    | some existing =>
      if existing.request.canonical pkgs ≠ task.request.canonical pkgs then
        (w, .error .idempotencyConflict)
      else
        (w, .ok existing)
  | none =>
    let stored := { task with revision := 1 }
    ({ w.put stored with
        idempotency := Function.update w.idempotency idempotencyKey (some task.id) },
      .ok stored)

/-- `save`. -/
def save (w : Store) (task : TaskRecord) (expectedRevision : ℕ) : Store × Bool :=
  match w.tasks task.id with
  | none => (w, false)
  | some current =>
    if current.revision ≠ expectedRevision then (w, false)
    else (w.put { task with revision := expectedRevision + 1 }, true)

/-- How the store answers a call. The clock and the random sources may say anything, but that the
id of a new task is not yet the id of another. -/
def Answer (w : Store) : (c : Call) → c.Reply → Store → Prop
  | .now, _, w' => w' = w
  | .uuid4, _, w' => w' = w
  | .tokenUrlsafe, _, w' => w' = w
  | .createOnce key task, x, w' => w.tasks task.id = none ∧ (w', x) = w.createOnce pkgs key task
  | .get taskId, x, w' => x = w.tasks taskId ∧ w' = w
  | .save task expected, x, w' => (w', x) = w.save task expected

end Store

/-- The operations that clients may start. -/
inductive Starts (mandateTtl : ℤ) :
    Proc Call Call.Reply (Option Raised) TaskRecord → Prop
  | sendMessage (message : Message) : Starts mandateTtl (sendMessage pkgs message none)
  | decide (taskId : String) (decision : ApprovalDecision) (approvalToken : Option String) :
      Starts mandateTtl (decide pkgs mandateTtl taskId decision approvalToken none)
  | cancelTask (taskId reason : String) : Starts mandateTtl (cancelTask pkgs taskId reason none)
  | getTask (taskId : String) : Starts mandateTtl (getTask taskId none)

/-- The store with the operations in progress. -/
abbrev Agent := System Call Call.Reply (Option Raised) TaskRecord Store

def Agent.Step (mandateTtl : ℤ) : Agent → Agent → Prop :=
  System.Step (Store.Answer pkgs) (Starts pkgs mandateTtl)

end RecoveryOS.CustomerAgent
