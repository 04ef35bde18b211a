import RecoveryOS.Decision.Engine
import RecoveryOS.Webhook.Evidence

/-!
# Voice contacts

`voice/service.py` and `voice/repository.py` with the intents and the gate of
`integrations/voice/safety.py`: the callbacks of a call, of which an opt-out suppresses the
customer, and the gate that a call has to pass before it is submitted.
-/

namespace RecoveryOS.Voice

open Store

/-! ## Intents -/

inductive VoiceIntent where
  | optOut
  | dispute
  | wrongPerson
  | alreadyPaid
  | callback
  | promiseToPay
  | needPaymentHelp
  | unknown
  deriving DecidableEq, Repr

namespace VoiceIntent

def value : VoiceIntent → String
  | .optOut => "OPT_OUT"
  | .dispute => "DISPUTE"
  | .wrongPerson => "WRONG_PERSON"
  | .alreadyPaid => "ALREADY_PAID"
  | .callback => "CALLBACK"
  | .promiseToPay => "PROMISE_TO_PAY"
  | .needPaymentHelp => "NEED_PAYMENT_HELP"
  | .unknown => "UNKNOWN"

/-- `VoiceIntent(text.strip().upper())`. -/
def ofText (s : String) : Option VoiceIntent :=
  let text := String.ofList ((Webhook.strip s.toList).flatMap Webhook.upper)
  [optOut, dispute, wrongPerson, alreadyPaid, callback, promiseToPay, needPaymentHelp,
    unknown].find? fun i => i.value = text

/-- The intents that end a call. -/
def safetyOverride (i : VoiceIntent) : Bool := i ∈ [optOut, dispute, wrongPerson, alreadyPaid]

end VoiceIntent

/-- The phrases of an intent; an earlier intent wins. -/
def intentPatterns : List (VoiceIntent × List String) :=
  [(.optOut, ["stop calling", "do not call", "don't call", "opt out", "call mat"]),
    (.dispute, ["dispute", "fraud", "not my charge", "galat charge", "scam"]),
    (.wrongPerson, ["wrong person", "wrong number", "main woh nahi", "yeh unka number nahi"]),
    (.alreadyPaid, ["already paid", "payment kar diya", "paid already", "ho gaya"]),
    (.callback, ["call back", "later", "baad mein", "abhi busy"]),
    (.promiseToPay, ["will pay", "pay tomorrow", "kal pay", "kar dunga"]),
    (.needPaymentHelp, ["payment link", "card update", "help me pay", "kaise pay"])]

/-- `str.casefold`, exact for the letters whose folding has ASCII letters; every other letter stays
outside ASCII, as it does in the source. -/
def casefold (c : Char) : List Char :=
  match c.toNat with
  | 0xdf | 0x1e9e => ['s', 's']
  | 0x130 => ['i', Char.ofNat 0x307]
  | 0x149 => [Char.ofNat 0x2bc, 'n']
  | 0x17f => ['s']
  | 0x1f0 => ['j', Char.ofNat 0x30c]
  | 0x1e96 => ['h', Char.ofNat 0x331]
  | 0x1e97 => ['t', Char.ofNat 0x308]
  | 0x1e98 => ['w', Char.ofNat 0x30a]
  | 0x1e99 => ['y', Char.ofNat 0x30a]
  | 0x1e9a => ['a', Char.ofNat 0x2be]
  | 0x212a => ['k']
  | 0xfb00 => ['f', 'f']
  | 0xfb01 => ['f', 'i']
  | 0xfb02 => ['f', 'l']
  | 0xfb03 => ['f', 'f', 'i']
  | 0xfb04 => ['f', 'f', 'l']
  | 0xfb05 | 0xfb06 => ['s', 't']
  | _ => [c.toLower]

/-- `re.sub(r"\s+", " ", text)`; the flag says whether the last character was a space. -/
def collapse : Bool → List Char → List Char
  | _, [] => []
  | spaced, c :: rest =>
    if Webhook.isSpace c then if spaced then collapse true rest else ' ' :: collapse true rest
    else c :: collapse false rest

/-- `detect_voice_intent`. -/
def detectVoiceIntent (transcript : String) : VoiceIntent :=
  let normalized := Webhook.strip (collapse false (transcript.toList.flatMap casefold))
  ((intentPatterns.find? fun p => p.2.any fun phrase =>
    decide (phrase.toList <:+: normalized)).map (·.1)).getD .unknown

/-! ## Callbacks -/

def VoiceStatus.terminal (s : VoiceStatus) : Bool :=
  s ∈ [VoiceStatus.busy, .canceled, .completed, .failed, .noAnswer, .rejected, .cancelPending,
    .cancelUncertain]

def VoiceStatus.rank : VoiceStatus → ℤ
  | .reserved | .uncertain => 0
  | .submitted => 1
  | .ringing => 2
  | .inProgress => 3
  | _ => -1

/-- `can_advance_voice_status`. -/
def canAdvanceVoiceStatus (current candidate : VoiceStatus) : Bool :=
  if current = candidate then true
  else if VoiceStatus.terminal current then false
  else if VoiceStatus.terminal candidate then true
  else decide (VoiceStatus.rank current ≤ VoiceStatus.rank candidate)

/-- The changes that a callback brings; an absent one leaves the column alone. -/
structure Changes where
  status : Option VoiceStatus := none
  disposition : Option String := none
  providerCallId : Option String := none
  transcript : Option String := none
  detectedIntent : Option String := none
  confidenceBasisPoints : Option (Option ℤ) := none
  durationSeconds : Option ℤ := none
  disclosureDeliveredAt : Option (Option Instant) := none

/-- The columns after a callback: a status that cannot advance keeps the disposition too. -/
def Changes.apply (ch : Changes) (r : VoiceContactAttemptRecord) : VoiceContactAttemptRecord :=
  let advance := ch.status.all (canAdvanceVoiceStatus r.status)
  { r with
    status := if advance then ch.status.getD r.status else r.status
    disposition := if advance then ch.disposition.or r.disposition else r.disposition
    providerCallId := ch.providerCallId.or r.providerCallId
    transcript := ch.transcript.or r.transcript
    detectedIntent := ch.detectedIntent.or r.detectedIntent
    confidenceBasisPoints := ch.confidenceBasisPoints.getD r.confidenceBasisPoints
    durationSeconds := ch.durationSeconds.or r.durationSeconds
    disclosureDeliveredAt := ch.disclosureDeliveredAt.getD r.disclosureDeliveredAt }

def getAttempt (attemptId : String) (db : Database) : Option VoiceContactAttemptRecord :=
  db.voiceAttempts.find? fun a => a.id = attemptId

/-- `apply_callback`: the attempt, whether the callback is a duplicate, and the open transaction. -/
def applyCallback (provider eventId attemptId : String) (changes : Changes) (db : Database) :
    (Option VoiceContactAttemptRecord × Bool) × Database :=
  match db.insertVoiceReceipt ⟨provider, eventId, some attemptId⟩ with
  | none => ((getAttempt attemptId db, true), db)
  | some received =>
    match getAttempt attemptId received with
    | none => ((none, false), received)
    | some attempt =>
      let attempt := changes.apply attempt
      ((some attempt, false), received.putVoiceAttempt attempt)

/-- What the first suppression of a customer writes. -/
def markOptedOut (attempt : VoiceContactAttemptRecord) (now : Instant) (db : Database) : Database :=
  { db with
    customers := db.customers.map fun c =>
      if c.id = attempt.customerId then { c with optedOutAt := some now } else c
    cases := db.cases.map fun c =>
      if c.id = attempt.caseId then { c with contactDisposition := .optedOut } else c }

/-- `suppress`: whether the suppression is new. -/
def suppress (attempt : VoiceContactAttemptRecord) (reasonCode : String) (now : Instant)
    (db : Database) : Bool × Database :=
  match db.insertVoiceSuppression
      ⟨attempt.merchantId, attempt.customerId, some attempt.id, reasonCode⟩ with
  | none => (false, db)
  | some suppressed => (true, markOptedOut attempt now suppressed)

/-- A callback, as it reaches the service: what the classifiers make of it is in `intent`. -/
inductive Callback where
  | transcript (transcript : String) (confidenceBasisPoints : ℤ)
  | liveIntent (intent : String) (confidenceBasisPoints : Option ℤ)
  | postCall (transcript intentTranscript : String) (providerIntent : Option String)
      (confidenceBasisPoints : Option ℤ) (durationSeconds : ℤ) (disclosureDelivered : Bool)
      (occurredAt : Instant)
  | twilioStatus (status : VoiceStatus) (durationSeconds : Option ℤ)
      (providerCallId : Option String)

def clampConfidence (n : ℤ) : ℤ := max 0 (min 10000 n)

def clampDuration (n : ℤ) : ℤ := min (max n 0) 180

/-- The analyzed intent of a post-call webhook; none is `UNKNOWN`. -/
def analyzedIntent : Option String → Option VoiceIntent
  | none => some .unknown
  | some s => if s = "" then some .unknown
    else if Webhook.strip s.toList = [] then none else VoiceIntent.ofText s

/-- The intent that a callback is taken to express; `none` if the service refuses it. -/
def Callback.intent : Callback → Option VoiceIntent
  | .transcript spoken _ => some (detectVoiceIntent spoken)
  | .liveIntent intent _ => VoiceIntent.ofText intent
  | .postCall _ intentTranscript providerIntent _ _ _ _ =>
    (analyzedIntent providerIntent).map fun analyzed =>
      let safety := detectVoiceIntent intentTranscript
      if safety.safetyOverride then safety else analyzed
  | .twilioStatus _ _ _ => some .unknown

def Callback.provider : Callback → String
  | .transcript _ _ => "browser"
  | .liveIntent _ _ => "elevenlabs-tool"
  | .postCall _ _ _ _ _ _ _ => "elevenlabs"
  | .twilioStatus _ _ _ => "twilio"

/-- The changes of `apply_transcript`, `apply_live_intent`, `apply_elevenlabs_post_call` and
`apply_twilio_status`. -/
def Callback.changes (intent : VoiceIntent) : Callback → Changes
  | .transcript spoken confidence =>
    { transcript := some spoken
      detectedIntent := some intent.value
      confidenceBasisPoints := some (some confidence)
      disposition := some intent.value }
  | .liveIntent _ confidence =>
    { detectedIntent := some intent.value
      disposition := some intent.value
      confidenceBasisPoints := confidence.map fun n => some (clampConfidence n) }
  | .postCall spoken _ providerIntent confidence duration delivered occurredAt =>
    let supplied := providerIntent.any fun s => decide (Webhook.strip s.toList ≠ [])
    { status := some .completed
      transcript := some spoken
      detectedIntent := some intent.value
      confidenceBasisPoints := some
        (if supplied = true ∧ analyzedIntent providerIntent = some intent then
          confidence.map clampConfidence else none)
      durationSeconds := some (clampDuration duration)
      disposition := some intent.value
      disclosureDeliveredAt := some (if delivered then some occurredAt else none) }
  | .twilioStatus status duration providerCallId =>
    { status := some status
      durationSeconds := duration.map clampDuration
      disposition := if VoiceStatus.terminal status then some
        (match status with
          | .busy => "BUSY"
          | .canceled => "CANCELED"
          | .completed => "COMPLETED"
          | .failed => "FAILED"
          | .noAnswer => "NO_ANSWER"
          | .rejected => "REJECTED"
          | .cancelPending => "CANCEL_PENDING"
          | _ => "CANCEL_UNCERTAIN") else none
      providerCallId := truthy providerCallId }

/-- Whether a callback asks for suppression: an opt-out through one of the three channels. -/
def Callback.optsOut (callback : Callback) : Bool := decide (callback.intent = some .optOut)

/-- A request with a callback. A transcript's opt-out also cancels the call, and what that raises
rolls back what `suppress` has not committed. -/
def receive (callback : Callback) (eventId attemptId : String) (now : Instant)
    (cancelSucceeds : Bool) (db : Database) : Database :=
  match callback.intent with
  | none => db
  | some intent =>
    match applyCallback callback.provider eventId attemptId (callback.changes intent) db with
    | ((some attempt, false), applied) =>
      if callback.optsOut then
        let (created, suppressed) := suppress attempt "VOICE_OPT_OUT" now applied
        match callback with
        | .transcript _ _ => if created || cancelSucceeds then suppressed else db
        | _ => suppressed
      else applied
    | (_, applied) => applied

end RecoveryOS.Voice
