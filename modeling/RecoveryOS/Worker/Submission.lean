import RecoveryOS.Worker.Runtime

/-!
# Results, voice calls and cancellation

The rest of `runtime.py`: how the result of a provider call is persisted, how a submission whose
fate is unknown is reconciled, the claim of a voice action, and the cancellation of a case's actions
with the standalone links among them.

A reconciliation and a cleanup hold row locks while they talk to the provider, so each is one step
on the database here; the replies are arguments.
-/

namespace RecoveryOS.Worker

open Store

/-! ## After the call -/

/-- The action with the surface that was opened for it. -/
def surfaced (action : RecoveryActionRecord) (result : PaymentSurfaceResult) (now : Instant) :
    RecoveryActionRecord :=
  { action with
    status := .succeeded
    externalReference := some result.providerReference
    customerUrl := some result.customerUrl
    completedAt := some now }

/-- The writes of a surface that was opened, with the authorization it was opened under. -/
def recordSurface (action : RecoveryActionRecord) (result : PaymentSurfaceResult) (now : Instant)
    (db : Database) : Database :=
  setAuthorization action.id
    (fun n => { n with executionStatus := .succeeded, executedAt := some now })
    (db.putAction (surfaced action result now))

/-- `session.get(RecoveryActionRecord, action_id)`. -/
def getAction (actionId : String) (db : Database) : Option RecoveryActionRecord :=
  db.actions.find? fun a => a.id = actionId

/-- `_persist_payment_surface`. -/
def persistPaymentSurface (actionId : String) (result : PaymentSurfaceResult) (now : Instant)
    (db : Database) : ActionExecutionResult × Database :=
  let reference := some result.providerReference
  match getAction actionId db with
  | none => (uncertain result.provider reference "ACTION_RECORD_MISSING_AFTER_SUBMISSION", db)
  | some persisted =>
    if persisted.status = .cancelled then
      ({ status := "REJECTED"
         provider := result.provider
         providerReference := reference
         reasonCode := some "ACTION_CANCELLED_AFTER_SUBMISSION" }, db)
    else if persisted.status = .succeeded then (alreadyExecuted persisted, db)
    else (succeeded result none, recordSurface persisted result now db)

/-- The provider's reply to a lookup by reference. -/
inductive LinkLookup where
  | raised
  | absent
  | found (result : PaymentSurfaceResult)

/-- How far a reconciliation gets: it is answered at once, or it asks the provider. -/
def reconcileCheck (rt : Runtime) (actionId : String) (db : Database) :
    Except ActionExecutionResult RecoveryActionRecord :=
  if rt.provider = .mock then
    .error (uncertain "unknown" none "PAYMENT_LINK_RECONCILIATION_UNSUPPORTED")
  else
    match getAction actionId db with
    | none => .error (uncertain "unknown" none "ACTION_RECORD_MISSING_DURING_RECONCILIATION")
    | some persisted =>
      if persisted.status = .succeeded then .error (alreadyExecuted persisted)
      else if persisted.status = .cancelled then .error (rejected "ACTION_CANCELLED")
      else if persisted.status ≠ .executing then
        .error (uncertain "unknown" none "ACTION_STATE_CHANGED_DURING_RECONCILIATION")
      else .ok persisted

/-- `_reconcile_or_resume_standard_payment_link`, with the replies to the lookup and, where that
finds nothing, to the resubmission; the flag says that there was one. -/
def reconcileStandardPaymentLink (rt : Runtime) (actionId : String) (lookup : LinkLookup)
    (resubmission : Option PaymentSurfaceResult) (now : Instant) (db : Database) :
    (ActionExecutionResult × Bool) × Database :=
  match reconcileCheck rt actionId db with
  | .error answer => ((answer, false), db)
  | .ok persisted =>
    match lookup with
    | .raised =>
      ((uncertain "razorpay" none "PAYMENT_LINK_RECONCILIATION_UNRESOLVED", false), db)
    | .found result =>
      ((succeeded result (some "SUBMISSION_RECONCILED"), false),
        recordSurface persisted result now db)
    | .absent =>
      match resubmission with
      | none =>
        ((uncertain "razorpay" none "CONFIRMED_ABSENT_RESUBMISSION_UNCERTAIN", true), db)
      | some result =>
        ((succeeded result (some "CONFIRMED_ABSENT_RESUBMITTED"), true),
          recordSurface persisted result now db)

/-! ## Voice -/

inductive VoiceActionClaim where
  | claimed (action : RecoveryActionRecord)
  | answered (result : ActionExecutionResult)

/-- The latest voice action in the command's scope, with its decision. -/
def voiceRow (command : ExecuteActionInput) (db : Database) :
    Option (RecoveryActionRecord × PolicyDecisionRecord) :=
  Table.first latestFirst (withPolicies (fun a =>
    decide (a.caseId = command.caseId) &&
    (db.cases.any fun c => decide (c.id = a.caseId) &&
      decide (c.merchantId = command.merchantId) && decide (c.customerId = command.customerId) &&
      decide (c.subscriptionId = command.subscriptionId) &&
      decide (c.amountAtRiskPaise = command.amountPaise)) &&
    decide (a.actionType = .startVoice)) db)

/-- An operator's approval of the action is among the events of the case. -/
def approvalRecorded (caseId actionId : String) (db : Database) : Bool :=
  db.events.any fun e => decide (e.caseId = caseId) && decide (e.eventType = "ACTION_APPROVED") &&
    decide (e.source = "operator") && decide (e.sourceEventId = some ("approval:" ++ actionId))

/-- `_claim_voice_action`. -/
def claimVoiceAction (command : ExecuteActionInput) (providerReady : Bool) (db : Database) :
    VoiceActionClaim × Database :=
  match voiceRow command db with
  | none => (.answered (rejected "VOICE_PERSISTED_POLICY_NOT_FOUND"), db)
  | some (action, policy) =>
    if policy.disposition ≠ .requireManualApproval then
      (.answered (rejected "VOICE_MANUAL_APPROVAL_POLICY_REQUIRED"), db)
    else if approvalRecorded command.caseId action.id db = false then
      (.answered (rejected "VOICE_OPERATOR_APPROVAL_NOT_PERSISTED"), db)
    else if action.status = .succeeded then
      (.answered { alreadyExecuted action with customerUrl := none }, db)
    else if action.status = .cancelled then (.answered (rejected "ACTION_CANCELLED"), db)
    else if action.status = .executing then
      if providerReady then (.claimed action, db)
      else (.answered (uncertain "unknown" action.externalReference
        "VOICE_SUBMISSION_RECONCILIATION_REQUIRED"), db)
    else if action.status ≠ .scheduled then
      (.answered (rejected "VOICE_ACTION_NOT_MANUALLY_APPROVED"), db)
    else if providerReady = false then (.answered (rejected "VOICE_PROVIDER_NOT_READY"), db)
    else (.claimed action, db.putAction (executing action))

/-- The action after its call was submitted under `reference`, or refused. -/
def finalized (action : RecoveryActionRecord) (reference : Option String) (now : Instant) :
    RecoveryActionRecord :=
  { action with
    status := if reference.isSome then .succeeded else .cancelled
    externalReference := reference
    completedAt := some now }

/-- `_finalize_voice_action`. -/
def finalizeVoiceAction (actionId : String) (reference : Option String) (now : Instant)
    (db : Database) : Database :=
  match getAction actionId db with
  | none => db
  | some action =>
    if action.status = .succeeded then db
    else db.putAction (finalized action reference now)

/-! ## Cancellation -/

def cancelled (action : RecoveryActionRecord) (now : Instant) : RecoveryActionRecord :=
  { action with status := .cancelled, completedAt := some now }

inductive LinkRevocation where
  | raised
  | cancelled
  | alreadyInactive
  | paymentPresent
  | other

/-- The standalone links of a case that may exist at the provider. -/
def openLinks (caseId : String) (db : Database) : List RecoveryActionRecord :=
  db.actions.filter fun a => decide (a.caseId = caseId) &&
    decide (a.paymentSurfaceType = some .standardPaymentLink) &&
    (decide (a.status = .executing) || decide (a.status = .succeeded))

/-- What the provider says about one link, looked up by the reference of its key if no id of it is
recorded. -/
structure LinkReplies where
  lookup : RecoveryActionRecord → LinkLookup
  revoke : String → LinkRevocation

/-- The row of a link with the provider's id; `none` if the lookup found that there is no link. -/
def locate (replies : LinkReplies) (action : RecoveryActionRecord) :
    Except String (Option (RecoveryActionRecord × String)) :=
  match action.externalReference with
  | some reference => .ok (some (action, reference))
  | none =>
    match replies.lookup action with
    | .raised => .error "PAYMENT_LINK_CLEANUP_RECONCILIATION_UNRESOLVED"
    | .absent => .ok none
    | .found result => .ok (some
        ({ action with
            status := .succeeded
            externalReference := some result.providerReference
            customerUrl := some result.customerUrl }, result.providerReference))

/-- What the cleanup writes for one link, and whether it is paid. -/
def cleanupLink (replies : LinkReplies) (now : Instant) (action : RecoveryActionRecord) :
    Except String (RecoveryActionRecord × Bool) := do
  match ← locate replies action with
  | none => .ok (cancelled action now, false)
  | some (located, reference) =>
    match replies.revoke reference with
    | .raised => .error "PAYMENT_LINK_CLEANUP_UNRESOLVED"
    | .paymentPresent => .ok (located, true)
    | .other => .error "PAYMENT_LINK_CLEANUP_STATUS_UNRESOLVED"
    | .cancelled | .alreadyInactive => .ok (cancelled located now, false)

/-- `_cleanup_standard_payment_links`; what fails rolls the transaction back. -/
def cleanupStandardPaymentLinks (rt : Runtime) (replies : LinkReplies) (caseId : String)
    (now : Instant) (db : Database) : (Bool × Option String) × Database :=
  match openLinks caseId db with
  | [] => ((true, none), db)
  | links =>
    match rt.provider with
    | .mock => ((true, some "PAYMENT_LINK_MOCK_CANCELLED"),
        (links.map (cancelled · now)).foldl (fun db a => db.putAction a) db)
    | .razorpay =>
      match links.mapM (cleanupLink replies now) with
      | .error reason => ((false, some reason), db)
      | .ok written =>
        ((true, some (if written.any (·.2) then
            "PAYMENT_LINK_PAYMENT_PRESENT_RECONCILIATION_REQUIRED" else "PAYMENT_LINK_REVOKED")),
          (written.map (·.1)).foldl (fun db a => db.putAction a) db)

/-- The end of `cancel_recovery_action`: everything else that is open is cancelled. -/
def cancelOtherActions (caseId : String) (now : Instant) (db : Database) : Database :=
  { db with
    actions := db.actions.map fun a =>
      if a.caseId = caseId ∧
          a.status ∈ [ActionStatus.proposed, .awaitingApproval, .scheduled, .executing] ∧
          a.paymentSurfaceType ≠ some .standardPaymentLink then cancelled a now
      else a }

/-- What the voice service reports about the call it was to stop. -/
structure VoiceCancellationResult where
  status : String
  reasonCode : Option String := none

/-- The answer of `cancel_recovery_action` once the call is dealt with. -/
def cancellationAnswer (cleanup : Bool × Option String) (voiceReason : Option String)
    (anyAction : Bool) : CancelActionResult :=
  if cleanup.1 then
    { cancelled := true
      reasonCode := (voiceReason.or cleanup.2).or
        (some (if anyAction then "CANCELLED" else "NO_ACTIVE_ACTION")) }
  else
    { cancelled := false
      reasonCode := cleanup.2.or (some "PAYMENT_LINK_CLEANUP_UNRESOLVED") }

/-- `cancel_recovery_action`, with the report of the voice service, which is `none` if it raises. -/
def cancelRecoveryAction (rt : Runtime) (replies : LinkReplies)
    (voice : Option VoiceCancellationResult) (command : CancelActionInput) (now : Instant)
    (db : Database) : Option CancelActionResult × Database :=
  let (cleanup, cleaned) := cleanupStandardPaymentLinks rt replies command.caseId now db
  let anyAction := cleaned.actions.any fun a => decide (a.caseId = command.caseId) &&
    decide (a.status ∈ [ActionStatus.proposed, .awaitingApproval, .scheduled, .executing,
      .succeeded])
  let db' := cancelOtherActions command.caseId now cleaned
  if command.reason = "AUTHORITATIVE_PAYMENT_SUCCESS" then
    match voice with
    | none => (none, db')
    | some result =>
      let voiceReason := (truthy result.reasonCode).getD ("VOICE_" ++ result.status)
      if result.status = "UNCERTAIN" then
        (some { cancelled := false, reasonCode := some voiceReason }, db')
      else (some (cancellationAnswer cleanup (some voiceReason) anyAction), db')
  else (some (cancellationAnswer cleanup none anyAction), db')

/-- `record_audit_event`: an event that is there already is left alone. -/
def recordAuditEvent (command : AuditInput) (now : Instant) (db : Database) : Database :=
  (db.insertEvent
    { caseId := command.caseId
      eventType := command.eventType
      source := "temporal-workflow"
      occurredAt := now
      sourceEventId :=
        some ("temporal:" ++ command.eventType ++ ":" ++ command.correlationId) }).getD db

end RecoveryOS.Worker
