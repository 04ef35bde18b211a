import RecoveryOS.Lib.Clients
import RecoveryOS.Safety.Policy
import RecoveryOS.Voice.Service

/-!
# Starting and cancelling a call

`start` and `cancel_for_authoritative_payment` of `voice/service.py` over `SqlVoiceRepository`. Each
stops at every statement it sends to the database and at every call of the provider, so that others
can come in between. What runs under a unique index or a row lock up to its commit is one step: the
insertion of a reservation, and the claim of a cancellation.

`save_attempt` reads the attempt by its id before it inserts one. It updates the row that it finds,
and its caller takes that for a reservation as well.
-/

namespace RecoveryOS.Voice

open Resume Store

structure VoiceSubject where
  merchantId : String
  caseId : String
  customerId : String
  destinationToken : String
  consentVerifiedAt : Option Instant
  optedOutAt : Option Instant
  timezone : String
  killSwitch : Bool
  quietHoursStart : Option ℤ
  quietHoursEnd : Option ℤ

/-! ## The gate -/

structure VoiceSafetyContext where
  localTime : ℤ
  quietHoursStart : Option ℤ
  quietHoursEnd : Option ℤ
  realCallsEnabled : Bool
  operatorAuthorized : Bool
  killSwitch : Bool
  destinationAllowlisted : Bool
  consentVerifiedAt : Option Instant
  optedOutAt : Option Instant
  activeCalls : ℕ
  callsToday : ℕ
  maxDurationSeconds : ℤ

/-- `_inside_quiet_hours`. -/
def insideQuietHours (value start stop : ℤ) : Bool :=
  if start = stop then true
  else if start < stop then decide (start ≤ value ∧ value < stop)
  else decide (start ≤ value ∨ value < stop)

/-- `evaluate_voice_safety`: the first check that blocks. -/
def evaluateVoiceSafety (context : VoiceSafetyContext) : Bool × String :=
  match [(!context.realCallsEnabled, "REAL_CALLS_DISABLED"),
    (!context.operatorAuthorized, "OPERATOR_AUTH_REQUIRED"),
    (context.killSwitch, "VOICE_KILL_SWITCH"),
    (!context.destinationAllowlisted, "DESTINATION_NOT_ALLOWLISTED"),
    (context.consentVerifiedAt.isNone, "CONSENT_NOT_VERIFIED"),
    (context.optedOutAt.isSome, "CUSTOMER_SUPPRESSED"),
    (decide (1 ≤ context.activeCalls), "CONCURRENT_CALL_LIMIT"),
    (decide (10 ≤ context.callsToday), "DAILY_CALL_LIMIT"),
    (decide (180 < context.maxDurationSeconds), "DURATION_LIMIT"),
    ((context.quietHoursStart.bind fun start => context.quietHoursEnd.map fun stop =>
      insideQuietHours context.localTime start stop).getD false, "QUIET_HOURS")].find? (·.1) with
  | some (_, code) => (false, code)
  | none => (true, "VOICE_CONTACT_ALLOWED")

/-! ## Requests and results -/

structure VoiceContactRequest where
  idempotencyKey : String
  caseId : String
  customerId : String
  destinationToken : String
  consentVerifiedAt : Option Instant
  maxDurationSeconds : ℤ

structure VoiceContactResult where
  provider : String
  contactAttemptId : String
  providerCallId : Option String := none
  status : VoiceStatus
  reasonCode : Option String := none

inductive VoiceCancellationStatus where
  | noActiveCall
  | cancelled
  | uncertain
  | alreadyRequested
  deriving DecidableEq

structure VoiceCancellationResult where
  status : VoiceCancellationStatus
  cancellationKey : String
  attemptId : Option String := none
  providerSubmissionPerformed : Bool := false
  reasonCode : Option String := none

/-- What an operation returns. -/
inductive Outcome where
  | contact (result : VoiceContactResult)
  | cancellation (result : VoiceCancellationResult)
  | elsewhere

/-- What became of the claim of a cancellation. -/
inductive Claim where
  | noActive
  | integrityError
  | claimed (attempt : VoiceContactAttemptRecord)

/-- The statements and the provider's calls. `sessionGet` is the read of `save_attempt`; a
cancellation is listed with the key it is submitted for. `elsewhere` is any other writer. -/
inductive Call where
  | getByIdempotency (idempotencyKey : String)
  | loadSubject (caseId : String)
  | activeCount
  | callsToday (now : Instant)
  | sessionGet (attemptId : String)
  | insertAttempt (attempt : VoiceContactAttemptRecord)
  | updateAttempt (loaded attempt : VoiceContactAttemptRecord)
  | startContact (request : VoiceContactRequest)
  | paymentCancellationReceipt (cancellationKey : String)
  | claimActive (caseId cancellationKey : String)
  | getAttempt (attemptId : String)
  | cancelContact (contactAttemptId cancellationKey : String)
  | finalize (attemptId cancellationKey : String) (confirmed : Bool)
  | elsewhere

/-- The replies. `loadSubject` may raise, `insertAttempt` says whether the row is in, and a write or a
call of the provider whether it went through. -/
def Call.Reply : Call → Type
  | .getByIdempotency _ => Option VoiceContactAttemptRecord
  | .loadSubject _ => Option (Option VoiceSubject)
  | .activeCount => ℕ
  | .callsToday _ => ℕ
  | .sessionGet _ => Option VoiceContactAttemptRecord
  | .insertAttempt _ => Bool
  | .updateAttempt _ _ => Bool
  | .startContact _ => Option VoiceContactResult
  | .paymentCancellationReceipt _ => Option VoiceWebhookReceiptRecord
  | .claimActive _ _ => Claim
  | .getAttempt _ => Option VoiceContactAttemptRecord
  | .cancelContact _ _ => Bool
  | .finalize _ _ _ => Bool
  | .elsewhere => Unit

/-- An operation; one that raises fails. -/
abbrev Op := Code Call Call.Reply Unit

def raise {α : Type} : Op α := fun s => .failed s

/-! ## The operations -/

/-- `VoiceContactService` with its provider, and what it parses with. -/
structure VoiceContactService where
  realCallsEnabled : Bool
  operatorToken : String
  allowlistedDestinations : List String
  disabled : Bool
  zoneInfo : String → Option Safety.Zone
  parseTime : String → Option ℤ

structure StartArguments where
  caseId : String
  idempotencyKey : String
  suppliedOperatorToken : Option String
  operatorSessionAuthorized : Bool := false
  maxDurationSeconds : ℤ
  now : Instant

/-- `_replay_result`. -/
def replayResult (existing : VoiceContactAttemptRecord) : VoiceContactResult :=
  let (status, reason) :=
    if existing.status = .reserved ∨ existing.uncertainSubmission = true then
      (VoiceStatus.uncertain, "RESERVATION_RECONCILIATION_REQUIRED")
    else if existing.status = .rejected then (.rejected, "IDEMPOTENT_REPLAY")
    else (.submitted, "IDEMPOTENT_REPLAY")
  { provider := existing.provider, contactAttemptId := existing.id
    providerCallId := existing.providerCallId, status, reasonCode := some reason }

/-- `save_attempt` in a reservation, up to its commit; whether the attempt is reserved. A write that
the database refuses, be it an insertion or an update, reserves nothing. -/
def saveReservation (attempt : VoiceContactAttemptRecord) : Op Bool := do
  let record : Option VoiceContactAttemptRecord ← Code.ask (Call.sessionGet attempt.id)
  match record with
  | none =>
    let subject : Option (Option VoiceSubject) ← Code.ask (Call.loadSubject attempt.caseId)
    match subject with
    | some (some subject) =>
      if subject.consentVerifiedAt.isNone then raise else Code.ask (Call.insertAttempt attempt)
    | _ => raise
  | some loaded => Code.ask (Call.updateAttempt loaded attempt)

/-- `reserve_attempt`: the attempt that has the key, and whether it was claimed. -/
def reserveAttempt (attempt : VoiceContactAttemptRecord) :
    Op (VoiceContactAttemptRecord × Bool) := do
  let existing : Option VoiceContactAttemptRecord ←
    Code.ask (Call.getByIdempotency attempt.idempotencyKey)
  match existing with
  | some existing => pure (existing, false)
  | none =>
    if (← saveReservation attempt) then
      pure (attempt, true)
    else
      let existing : Option VoiceContactAttemptRecord ←
        Code.ask (Call.getByIdempotency attempt.idempotencyKey)
      match existing with
      | some existing => pure (existing, false)
      | none => raise

/-- `save_attempt` after the call: the row is the one of the reservation, which the session holds. -/
def saveAttempt (reserved attempt : VoiceContactAttemptRecord) : Op Unit := do
  let saved : Bool ← Code.ask (Call.updateAttempt reserved attempt)
  if saved then pure () else raise

/-- The call of the provider, once the attempt is reserved. -/
def submit (args : StartArguments) (subject : VoiceSubject) (reserved : VoiceContactAttemptRecord) :
    Op VoiceContactResult := do
  let reply : Option VoiceContactResult ← Code.ask (Call.startContact
    { idempotencyKey := args.idempotencyKey, caseId := args.caseId
      customerId := subject.customerId, destinationToken := subject.destinationToken
      consentVerifiedAt := subject.consentVerifiedAt
      maxDurationSeconds := args.maxDurationSeconds })
  match reply with
  | none =>
    saveAttempt reserved { reserved with status := .uncertain, uncertainSubmission := true }
    pure { provider := reserved.provider, contactAttemptId := reserved.id, status := .uncertain
           reasonCode := some "VOICE_SUBMISSION_UNCERTAIN_RECONCILE_REQUIRED" }
  | some result =>
    saveAttempt reserved
      { reserved with
        status := result.status, providerCallId := result.providerCallId
        uncertainSubmission := decide (result.status = .uncertain) }
    pure result

variable (service : VoiceContactService)

/-- The context of the gate for a subject. -/
def safetyContext (args : StartArguments) (subject : VoiceSubject) (zone : Safety.Zone)
    (active today : ℕ) : VoiceSafetyContext where
  localTime := zone.wall args.now % Safety.day
  quietHoursStart := subject.quietHoursStart
  quietHoursEnd := subject.quietHoursEnd
  realCallsEnabled := service.realCallsEnabled
  operatorAuthorized := decide (service.operatorToken ≠ "") &&
    (args.operatorSessionAuthorized ||
      decide (args.suppliedOperatorToken = some service.operatorToken))
  killSwitch := subject.killSwitch
  destinationAllowlisted := decide (subject.destinationToken ∈ service.allowlistedDestinations)
  consentVerifiedAt := subject.consentVerifiedAt
  optedOutAt := subject.optedOutAt
  activeCalls := active
  callsToday := today
  maxDurationSeconds := args.maxDurationSeconds

def rejected (args : StartArguments) (reasonCode : String) : VoiceContactResult :=
  { provider := "voice", contactAttemptId := args.idempotencyKey, status := .rejected
    reasonCode := some reasonCode }

/-- The attempt that `start` reserves. -/
def reservation (args : StartArguments) (subject : VoiceSubject) : VoiceContactAttemptRecord where
  id := args.idempotencyKey
  merchantId := subject.merchantId
  caseId := subject.caseId
  customerId := subject.customerId
  idempotencyKey := args.idempotencyKey
  provider := "twilio"
  status := .reserved
  createdAt := args.now

/-- `start` from the gate on. -/
def reserveAndSubmit (args : StartArguments) (subject : VoiceSubject) (zone : Safety.Zone) :
    Op VoiceContactResult := do
  let active : ℕ ← Code.ask Call.activeCount
  let today : ℕ ← Code.ask (Call.callsToday args.now)
  let decision := evaluateVoiceSafety (safetyContext service args subject zone active today)
  if decision.1 = false then
    pure (rejected args decision.2)
  else
    let (attempt, claimed) ← reserveAttempt (reservation args subject)
    if claimed then
      submit args subject (reservation args subject)
    else
      pure (replayResult attempt)

/-- `start`. -/
def start (args : StartArguments) : Op VoiceContactResult := do
  let existing : Option VoiceContactAttemptRecord ←
    Code.ask (Call.getByIdempotency args.idempotencyKey)
  match existing with
  | some existing => pure (replayResult existing)
  | none =>
    let subject : Option (Option VoiceSubject) ← Code.ask (Call.loadSubject args.caseId)
    match subject with
    | none => raise
    | some none => pure (rejected args "VOICE_SUBJECT_NOT_FOUND")
    | some (some subject) =>
      match service.zoneInfo subject.timezone with
      | none => raise
      | some zone => reserveAndSubmit service args subject zone

/-- The attempt of a receipt. -/
def receiptAttempt (receipt : Option VoiceWebhookReceiptRecord) :
    Op (Option VoiceContactAttemptRecord) :=
  match truthy (receipt.bind (·.attemptId)) with
  | some id => Code.ask (Call.getAttempt id)
  | none => pure none

/-- `claim_payment_cancellation`: the attempt, and whether the cancellation is the caller's. -/
def claimPaymentCancellation (caseId cancellationKey : String) :
    Op (Option VoiceContactAttemptRecord × Bool) := do
  let existing : Option VoiceWebhookReceiptRecord ←
    Code.ask (Call.paymentCancellationReceipt cancellationKey)
  match existing with
  | some receipt => pure (← receiptAttempt (some receipt), false)
  | none =>
    let claim : Claim ← Code.ask (Call.claimActive caseId cancellationKey)
    match claim with
    | .noActive => pure (none, false)
    | .integrityError =>
      let existing : Option VoiceWebhookReceiptRecord ←
        Code.ask (Call.paymentCancellationReceipt cancellationKey)
      pure (← receiptAttempt existing, false)
    | .claimed attempt => pure (some attempt, true)

/-- `finalize_payment_cancellation`. -/
def finalizePaymentCancellation (attemptId cancellationKey : String) (confirmed : Bool) :
    Op Unit := do
  let finalized : Bool ← Code.ask (Call.finalize attemptId cancellationKey confirmed)
  if finalized then pure () else raise

/-- `cancel_for_authoritative_payment`. -/
def cancelForAuthoritativePayment (caseId cancellationKey : String) :
    Op VoiceCancellationResult := do
  let (attempt, claimed) ← claimPaymentCancellation caseId cancellationKey
  match attempt with
  | none =>
    pure { status := .noActiveCall, cancellationKey, reasonCode := some "VOICE_NO_ACTIVE_CALL" }
  | some attempt =>
    if claimed = false then
      pure { status := .alreadyRequested, cancellationKey, attemptId := some attempt.id
             reasonCode := some "VOICE_CANCELLATION_ALREADY_REQUESTED" }
    else if service.disabled = true ∧ attempt.provider ≠ "mock" then
      finalizePaymentCancellation attempt.id cancellationKey false
      pure { status := .uncertain, cancellationKey, attemptId := some attempt.id
             reasonCode := some "VOICE_CANCELLATION_PROVIDER_NOT_CONFIGURED" }
    else
      let cancelled : Bool ← Code.ask (Call.cancelContact attempt.id cancellationKey)
      finalizePaymentCancellation attempt.id cancellationKey cancelled
      if cancelled then
        pure { status := .cancelled, cancellationKey, attemptId := some attempt.id
               providerSubmissionPerformed := true }
      else
        pure { status := .uncertain, cancellationKey, attemptId := some attempt.id
               providerSubmissionPerformed := true
               reasonCode := some "VOICE_CANCELLATION_UNCERTAIN_RECONCILE_REQUIRED" }

/-! ## The database -/

section
variable (db : Database)

/-- `get_by_idempotency`. -/
def getByIdempotency (idempotencyKey : String) : Option VoiceContactAttemptRecord :=
  db.voiceAttempts.find? fun a => a.idempotencyKey = idempotencyKey

/-- `_parse_time`; `none` where it raises. -/
def parseTime : Option String → Option (Option ℤ)
  | none => some none
  | some text => (service.parseTime text).map some

/-- `load_subject`; `none` where it raises. -/
def loadSubject (caseId : String) : Option (Option VoiceSubject) :=
  let row : Option (RecoveryCase × Customer × Merchant) := do
    let recoveryCase ← db.cases.find? fun c => c.id = caseId
    let customer ← db.customers.find? fun c => c.id = recoveryCase.customerId
    let merchant ← db.merchants.find? fun m => m.id = recoveryCase.merchantId
    let _ ← db.subscriptions.find? fun s => s.id = recoveryCase.subscriptionId
    some (recoveryCase, customer, merchant)
  match row with
  | none => some none
  | some (recoveryCase, customer, merchant) => do
    let setting := db.settings.find? fun s => s.merchantId = merchant.id
    let quietHoursStart ← parseTime service ((setting.map (·.quietHoursStart)).getD (some "20:00"))
    let quietHoursEnd ← parseTime service ((setting.map (·.quietHoursEnd)).getD (some "09:00"))
    some (some
      { merchantId := recoveryCase.merchantId, caseId := recoveryCase.id
        customerId := customer.id
        destinationToken := customer.phoneToken.getD ""
        consentVerifiedAt := customer.voiceConsentAt, optedOutAt := customer.optedOutAt
        timezone := merchant.timezone
        killSwitch := (setting.map (·.recoveryKillSwitch)).getD false
        quietHoursStart, quietHoursEnd })

def activeCount : ℕ := db.voiceAttempts.countP fun a => Database.activeVoice a.status

/-- `calls_today`: the attempts of the day of `now`. -/
def callsToday (now : Instant) : ℕ :=
  let dayStart := now - now % Safety.day
  db.voiceAttempts.countP fun a => decide (dayStart ≤ a.createdAt ∧ a.createdAt < dayStart + Safety.day)

/-- A column is written if the session's value of it is changed. -/
def assign {α : Type} [DecidableEq α] (loaded new current : α) : α :=
  if new = loaded then current else new

/-- The row that an update of `save_attempt` leaves. -/
def overwrite (loaded attempt r : VoiceContactAttemptRecord) : VoiceContactAttemptRecord :=
  { r with
    providerCallId := assign loaded.providerCallId attempt.providerCallId r.providerCallId
    status := assign loaded.status attempt.status r.status
    disposition := assign loaded.disposition attempt.disposition r.disposition
    transcript := assign loaded.transcript attempt.transcript r.transcript
    detectedIntent := assign loaded.detectedIntent attempt.detectedIntent r.detectedIntent
    confidenceBasisPoints := assign loaded.confidenceBasisPoints attempt.confidenceBasisPoints
      r.confidenceBasisPoints
    durationSeconds := assign loaded.durationSeconds attempt.durationSeconds r.durationSeconds
    disclosureDeliveredAt := assign loaded.disclosureDeliveredAt attempt.disclosureDeliveredAt
      r.disclosureDeliveredAt
    uncertainSubmission := assign loaded.uncertainSubmission attempt.uncertainSubmission
      r.uncertainSubmission }

/-- The update of `save_attempt`. -/
def updateAttempt (loaded attempt : VoiceContactAttemptRecord) : Database :=
  { db with
    voiceAttempts := db.voiceAttempts.map fun r =>
      if r.id = attempt.id then overwrite loaded attempt r else r }

/-- `_PAYMENT_CANCELLATION_RECEIPT_PROVIDER`. -/
def paymentCancellationReceiptProvider : String := "recoveryos-payment"

/-- `_payment_cancellation_receipt`. -/
def paymentCancellationReceipt (cancellationKey : String) : Option VoiceWebhookReceiptRecord :=
  db.voiceReceipts.find? fun r => r.provider = paymentCancellationReceiptProvider
    ∧ r.providerEventId = cancellationKey

/-- The active call of a case, the newest first. -/
def activeAttempt (caseId : String) : Option VoiceContactAttemptRecord :=
  Table.first (fun a b => decide (b.createdAt < a.createdAt ∨
      b.createdAt = a.createdAt ∧ b.id ≤ a.id))
    (db.voiceAttempts.filter fun a => a.caseId = caseId ∧ Database.activeVoice a.status = true)

/-- `claim_payment_cancellation` from the row lock to the commit. -/
def claimActive (caseId cancellationKey : String) : Claim × Database :=
  match activeAttempt db caseId with
  | none => (.noActive, db)
  | some record =>
    match db.insertVoiceReceipt
        ⟨paymentCancellationReceiptProvider, cancellationKey, some record.id⟩ with
    | none => (.integrityError, db)
    | some claimed =>
      let pending :=
        { record with status := .cancelPending, disposition := some "PAYMENT_RECOVERED" }
      (.claimed pending, claimed.putVoiceAttempt pending)

/-- `finalize_payment_cancellation`; `none` where it raises. -/
def finalize (attemptId cancellationKey : String) (confirmed : Bool) : Option Database :=
  match getAttempt attemptId db, paymentCancellationReceipt db cancellationKey with
  | some record, some receipt =>
    if receipt.attemptId ≠ some attemptId then none
    else some (db.putVoiceAttempt
      { record with
        status := if confirmed then .canceled else .cancelUncertain
        disposition := some "PAYMENT_RECOVERED", uncertainSubmission := !confirmed })
  | _, _ => none

/-- The writes of other components: no attempt is added, removed or given another key, and no
receipt is removed. -/
def Elsewhere (db db' : Database) : Prop :=
  db'.voiceAttempts.map (fun a => (a.id, a.idempotencyKey)) =
    db.voiceAttempts.map (fun a => (a.id, a.idempotencyKey)) ∧
  db.voiceReceipts ⊆ db'.voiceReceipts

/-- How the database and the provider answer. A write may fail and then leaves everything as it was;
the provider may say anything. -/
def Answer (db : Database) : (c : Call) → c.Reply → Database → Prop
  | .getByIdempotency key, x, db' => x = getByIdempotency db key ∧ db' = db
  | .loadSubject caseId, x, db' => x = loadSubject service db caseId ∧ db' = db
  | .activeCount, n, db' => n = activeCount db ∧ db' = db
  | .callsToday now, n, db' => n = callsToday db now ∧ db' = db
  | .sessionGet id, x, db' => x = getAttempt id db ∧ db' = db
  | .insertAttempt attempt, ok, db' =>
    (ok = true ∧ db.insertVoiceAttempt attempt = some db') ∨
      (ok = false ∧ db.insertVoiceAttempt attempt = none ∧ db' = db)
  | .updateAttempt loaded attempt, ok, db' =>
    (ok = true ∧ db' = updateAttempt db loaded attempt) ∨ (ok = false ∧ db' = db)
  | .startContact _, _, db' => db' = db
  | .paymentCancellationReceipt key, x, db' => x = paymentCancellationReceipt db key ∧ db' = db
  | .claimActive caseId key, x, db' => (x, db') = claimActive db caseId key
  | .getAttempt id, x, db' => x = getAttempt id db ∧ db' = db
  | .cancelContact _ _, _, db' => db' = db
  | .finalize id key confirmed, ok, db' =>
    (ok = true ∧ finalize db id key confirmed = some db') ∨
      (ok = false ∧ finalize db id key confirmed = none ∧ db' = db)
  | .elsewhere, _, db' => Elsewhere db db'

end

/-- The operations that may be started. -/
inductive Starts : Proc Call Call.Reply Unit Outcome → Prop
  | start (args : StartArguments) :
      Starts ((do pure (.contact (← start service args)) : Op Outcome) ())
  | cancel (caseId cancellationKey : String) :
      Starts ((do
        pure (.cancellation (← cancelForAuthoritativePayment service caseId cancellationKey)) :
          Op Outcome) ())
  | elsewhere : Starts ((do let _ : Unit ← Code.ask Call.elsewhere; pure .elsewhere : Op Outcome) ())

/-- The database with the operations in progress; one that crashed is never answered again. -/
abbrev Platform := System Call Call.Reply Unit Outcome Database

def Platform.Step : Platform → Platform → Prop := System.Step (Answer service) (Starts service)

end RecoveryOS.Voice
