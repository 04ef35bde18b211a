import RecoveryOS.Voice.Submission

/-!
# The writers of an attempt

Everything that writes an attempt, statement by statement: `start`, the callbacks of the call,
`cancel_for_authoritative_payment` and `reconcile_payment_cancellation`. The operations of `Contact`
are taken over as they are (`lift`), with the unique indexes that an update can break.

`save_attempt` gets the row through the session. The session keeps no object that nobody refers to,
so after the reservation it may still have the object or read the row again (`refresh`); either way
what is written are the columns whose value is not the one that was loaded. `apply_callback` reads
the row and then writes it in the same way, with no lock in between.
-/

namespace RecoveryOS.Voice

open Resume Store

/-! ## The statements -/

/-- What became of the writes of a callback. -/
inductive Written where
  | applied
  | duplicate
  | secondActive
  | providerCallTaken
  deriving DecidableEq

inductive Statement where
  | contact (call : Call)
  | refresh (held : VoiceContactAttemptRecord)
  | writeCallback (provider eventId : String) (changes : Changes)
      (loaded : VoiceContactAttemptRecord)
  | fetchContact (contactAttemptId : String)

def Statement.Reply : Statement → Type
  | .contact call => call.Reply
  | .refresh _ => VoiceContactAttemptRecord
  | .writeCallback _ _ _ _ => Written
  | .fetchContact _ => Option String

/-- What an operation ends with. -/
inductive Ended where
  | contact (result : VoiceContactResult)
  | cancellation (result : VoiceCancellationResult)
  | acknowledged (duplicate : Bool)
  | elsewhere

abbrev Routine := Code Statement Statement.Reply Unit

/-! ## The operations -/

/-- An operation of `Contact`; an update gets its row through the session. -/
def lift {α : Type} : Proc Call Call.Reply Unit α → Proc Statement Statement.Reply Unit α
  | .done s a => .done s a
  | .failed s => .failed s
  | .spent s => .spent s
  | .await s (.updateAttempt loaded attempt) k =>
    .await s (.refresh loaded) fun held =>
      .await s (.contact (.updateAttempt held attempt)) fun x => lift (k x)
  | .await s call k => .await s (.contact call) fun x => lift (k x)

def Op.routine {α : Type} (op : Op α) : Routine α := fun s => lift (op s)

/-- `apply_callback` for a callback of the service, up to the commit of the request, and whether it
is answered as a duplicate. So is the callback of an attempt that is not there, whose receipt has
nothing to refer to. The suppression and the cancellation that an opt-out asks for write no
attempt. -/
def handleCallback (callback : Callback) (eventId attemptId : String) : Routine Bool :=
  match callback.intent with
  | none => fun s => .failed s
  | some intent => do
    let record : Option VoiceContactAttemptRecord ←
      Code.ask (Statement.contact (.getAttempt attemptId))
    match record with
    | none => pure true
    | some loaded =>
      let written : Written ← Code.ask
        (Statement.writeCallback callback.provider eventId (callback.changes intent) loaded)
      match written with
      | .applied => pure false
      | .duplicate => pure true
      | .secondActive => fun s => .failed s
      | .providerCallTaken => fun s => .failed s

/-- `get_payment_cancellation`. -/
def getPaymentCancellation (cancellationKey : String) : Op (Option VoiceContactAttemptRecord) := do
  let receipt : Option VoiceWebhookReceiptRecord ←
    Code.ask (Call.paymentCancellationReceipt cancellationKey)
  receiptAttempt receipt

/-- `snapshot.status.upper().replace("-", "_") in VOICE_TERMINAL_STATUSES`. -/
def terminalSnapshot (status : String) : Bool :=
  let text := (status.toList.flatMap Webhook.upper).map fun c => if c = '-' then '_' else c
  String.ofList text ∈ ["BUSY", "CANCELED", "COMPLETED", "FAILED", "NO_ANSWER", "REJECTED",
    "CANCEL_PENDING", "CANCEL_UNCERTAIN"]

/-- `reconcile_payment_cancellation`. -/
def reconcilePaymentCancellation (cancellationKey : String) : Routine VoiceCancellationResult := do
  let attempt : Option VoiceContactAttemptRecord ← (getPaymentCancellation cancellationKey).routine
  match attempt with
  | none =>
    pure { status := .noActiveCall, cancellationKey
           reasonCode := some "VOICE_CANCELLATION_NOT_FOUND" }
  | some attempt =>
    if attempt.status = .canceled then
      pure { status := .cancelled, cancellationKey, attemptId := some attempt.id
             reasonCode := some "VOICE_CANCELLATION_ALREADY_CONFIRMED" }
    else
      let snapshot : Option String ← Code.ask (Statement.fetchContact attempt.id)
      match snapshot with
      | none =>
        pure { status := .uncertain, cancellationKey, attemptId := some attempt.id
               reasonCode := some "VOICE_CANCELLATION_RECONCILIATION_FAILED" }
      | some status =>
        if terminalSnapshot status = false then
          pure { status := .uncertain, cancellationKey, attemptId := some attempt.id
                 reasonCode := some "VOICE_CANCELLATION_NOT_YET_CONFIRMED" }
        else
          (finalizePaymentCancellation attempt.id cancellationKey true).routine
          pure { status := .cancelled, cancellationKey, attemptId := some attempt.id
                 reasonCode := some "VOICE_CANCELLATION_RECONCILED" }

/-- `normalize_voice_status`. -/
def normalizeVoiceStatus (value : String) : Option VoiceStatus :=
  let text := ((Webhook.strip value.toList).flatMap Webhook.upper).map fun c =>
    if c = ' ' then '_' else c
  ([("ANSWERED", VoiceStatus.inProgress), ("BUSY", .busy), ("CANCELED", .canceled),
    ("CANCELLED", .canceled), ("COMPLETED", .completed), ("FAILED", .failed),
    ("IN-PROGRESS", .inProgress), ("IN_PROGRESS", .inProgress), ("INITIATED", .submitted),
    ("NO-ANSWER", .noAnswer), ("NO_ANSWER", .noAnswer), ("QUEUED", .submitted),
    ("RINGING", .ringing), ("SUBMITTED", .submitted)].find? fun p => p.1 = String.ofList text).map
    (·.2)

/-- The status of a Twilio callback comes from its text. -/
def Callback.Normalized : Callback → Prop
  | .twilioStatus status _ _ => ∃ value, normalizeVoiceStatus value = some status
  | _ => True

/-! ## The database -/

def callIds (db : Database) : List String := db.voiceAttempts.filterMap (·.providerCallId)

/-- The unique indexes that an update of an attempt can break. -/
def Indexed (db : Database) : Prop := activeCount db ≤ 1 ∧ (callIds db).Nodup

instance (db : Database) : Decidable (Indexed db) := instDecidableAnd

/-- The writes of `apply_callback` with the row as it was read. -/
def writeCallback (db : Database) (provider eventId : String) (changes : Changes)
    (loaded : VoiceContactAttemptRecord) : Written × Database :=
  match db.insertVoiceReceipt ⟨provider, eventId, some loaded.id⟩ with
  | none => (.duplicate, db)
  | some received =>
    let written := updateAttempt received loaded (changes.apply loaded)
    if 1 < activeCount written then (.secondActive, db)
    else if (callIds written).Nodup then (.applied, written)
    else (.providerCallTaken, db)

variable (service : VoiceContactService)

/-- How the statements are answered. Other components write no attempt and no receipt. -/
def Serve (db : Database) : (r : Statement) → r.Reply → Database → Prop
  | .contact (.updateAttempt loaded attempt), ok, db' =>
    (ok = true ∧ Indexed (updateAttempt db loaded attempt) ∧ db' = updateAttempt db loaded attempt) ∨
      (ok = false ∧ ¬ Indexed (updateAttempt db loaded attempt) ∧ db' = db)
  | .contact .elsewhere, _, db' =>
    db'.voiceAttempts = db.voiceAttempts ∧ db'.voiceReceipts = db.voiceReceipts
  | .contact call, x, db' => Answer service db call x db'
  | .refresh held, x, db' => (x = held ∨ getAttempt held.id db = some x) ∧ db' = db
  | .writeCallback provider eventId changes loaded, x, db' =>
    (x, db') = writeCallback db provider eventId changes loaded
  | .fetchContact _, _, db' => db' = db

def startRoutine (args : StartArguments) : Proc Statement Statement.Reply Unit Ended :=
  (do pure (.contact (← (start service args).routine)) : Routine Ended) ()

def callbackRoutine (callback : Callback) (eventId attemptId : String) :
    Proc Statement Statement.Reply Unit Ended :=
  (do pure (.acknowledged (← handleCallback callback eventId attemptId)) : Routine Ended) ()

/-- The operations that may be started. -/
inductive Begins : Proc Statement Statement.Reply Unit Ended → Prop
  | start (args : StartArguments) : Begins (startRoutine service args)
  | callback (callback : Callback) (hc : callback.Normalized) (eventId attemptId : String) :
      Begins (callbackRoutine callback eventId attemptId)
  | cancel (caseId cancellationKey : String) :
      Begins ((do
        pure (.cancellation
          (← (cancelForAuthoritativePayment service caseId cancellationKey).routine)) :
          Routine Ended) ())
  | reconcile (cancellationKey : String) :
      Begins ((do pure (.cancellation (← reconcilePaymentCancellation cancellationKey)) :
        Routine Ended) ())
  | elsewhere :
      Begins ((do
        let _ : Unit ← Code.ask (Statement.contact .elsewhere)
        pure .elsewhere : Routine Ended) ())

/-- The database with all its writers. -/
abbrev Traffic := System Statement Statement.Reply Unit Ended Database

def Traffic.Step : Traffic → Traffic → Prop := System.Step (Serve service) (Begins service)

/-! ## What an operation sends -/

/-- Nothing is recorded yet. -/
structure Blank (attempt : VoiceContactAttemptRecord) : Prop where
  transcript : attempt.transcript = none
  detectedIntent : attempt.detectedIntent = none
  disclosure : attempt.disclosureDeliveredAt = none

/-- A start saves attempts with nothing recorded, and reserves them without a call. -/
def Call.WellFormed : Call → Prop
  | .insertAttempt attempt => attempt.providerCallId = none
  | .updateAttempt _ attempt => Blank attempt
  | _ => True

/-- A callback brings no receipt of a cancellation. -/
def Statement.WellFormed : Statement → Prop
  | .contact call => call.WellFormed
  | .writeCallback provider _ _ _ => provider ≠ paymentCancellationReceiptProvider
  | _ => True

def Call.counts : Call → Bool
  | .activeCount => true
  | _ => false

def Statement.counts : Statement → Bool
  | .contact call => call.counts
  | _ => false

/-- What is sent outside the gate. -/
def Call.Plain (c : Call) : Prop := c.WellFormed ∧ c.counts = false

def Statement.Plain (r : Statement) : Prop := r.WellFormed ∧ r.counts = false

section Asks
variable {α β : Type} {P : Call → Prop} {c d : Op α}

/-- Every request of an operation meets a condition. -/
abbrev Op.Asks (P : Call → Prop) (op : Op α) : Prop := Proc.Asks P (op ())

lemma asks_bind {c : Op β} {f : β → Op α} (hc : c.Asks P) (hf : ∀ b, (f b).Asks P) :
    Op.Asks P (c >>= f) :=
  Proc.Asks.bind (fun _ b => hf b) hc

lemma asks_ask {r : Call} (hr : P r) : Op.Asks P (Code.ask r : Op r.Reply) :=
  ⟨hr, fun _ => trivial⟩

lemma asks_pure (a : α) : Op.Asks P (pure a : Op α) := trivial

lemma asks_raise : Op.Asks P (raise : Op α) := trivial

lemma asks_ite {p : Prop} [Decidable p] (hc : c.Asks P) (hd : d.Asks P) :
    Op.Asks P (if p then c else d) := by
  split_ifs
  · exact hc
  · exact hd

lemma saveReservation_asks {attempt : VoiceContactAttemptRecord} (ha : Blank attempt)
    (hcall : attempt.providerCallId = none) : (saveReservation attempt).Asks Call.Plain := by
  refine asks_bind (asks_ask ⟨trivial, rfl⟩) fun record => ?_
  match record with
  | none =>
    refine asks_bind (asks_ask ⟨trivial, rfl⟩) fun subject => ?_
    match subject with
    | none => exact asks_raise
    | some none => exact asks_raise
    | some (some subject) => exact asks_ite asks_raise (asks_ask ⟨hcall, rfl⟩)
  | some loaded => exact asks_ask ⟨ha, rfl⟩

lemma reserveAttempt_asks {attempt : VoiceContactAttemptRecord} (ha : Blank attempt)
    (hcall : attempt.providerCallId = none) : (reserveAttempt attempt).Asks Call.Plain := by
  refine asks_bind (asks_ask ⟨trivial, rfl⟩) fun existing => ?_
  match existing with
  | some existing => exact asks_pure _
  | none =>
    refine asks_bind (saveReservation_asks ha hcall) fun saved => asks_ite (asks_pure _) ?_
    refine asks_bind (asks_ask ⟨trivial, rfl⟩) fun found => ?_
    match found with
    | some existing => exact asks_pure _
    | none => exact asks_raise

lemma saveAttempt_asks (reserved : VoiceContactAttemptRecord) {attempt : VoiceContactAttemptRecord}
    (ha : Blank attempt) : (saveAttempt reserved attempt).Asks Call.Plain :=
  asks_bind (asks_ask ⟨ha, rfl⟩) fun _ => asks_ite (asks_pure _) asks_raise

lemma submit_asks (args : StartArguments) (subject : VoiceSubject)
    {reserved : VoiceContactAttemptRecord} (hr : Blank reserved) :
    (submit args subject reserved).Asks Call.Plain := by
  refine asks_bind (asks_ask ⟨trivial, rfl⟩) fun reply => ?_
  match reply with
  | none =>
    exact asks_bind (saveAttempt_asks _ ⟨hr.transcript, hr.detectedIntent, hr.disclosure⟩)
      fun _ => asks_pure _
  | some result =>
    exact asks_bind (saveAttempt_asks _ ⟨hr.transcript, hr.detectedIntent, hr.disclosure⟩)
      fun _ => asks_pure _

/-- `start` past the gate. -/
def reserveThenSubmit (args : StartArguments) (subject : VoiceSubject) : Op VoiceContactResult := do
  let (attempt, claimed) ← reserveAttempt (reservation args subject)
  if claimed then submit args subject (reservation args subject)
  else pure (replayResult attempt)

lemma reserveThenSubmit_asks (args : StartArguments) (subject : VoiceSubject) :
    (reserveThenSubmit args subject).Asks Call.Plain := by
  refine asks_bind (reserveAttempt_asks ⟨rfl, rfl, rfl⟩ rfl) ?_
  rintro ⟨attempt, claimed⟩
  exact asks_ite (submit_asks args subject ⟨rfl, rfl, rfl⟩) (asks_pure _)

theorem start_asks (service : VoiceContactService) (args : StartArguments) :
    (start service args).Asks Call.WellFormed := by
  refine asks_bind (asks_ask trivial) fun existing => ?_
  match existing with
  | some existing => exact asks_pure _
  | none =>
    refine asks_bind (asks_ask trivial) fun subject => ?_
    match subject with
    | none => exact asks_raise
    | some none => exact asks_pure _
    | some (some subject) =>
      dsimp only
      cases service.zoneInfo subject.timezone with
      | none => exact asks_raise
      | some zone =>
        refine asks_bind (asks_ask trivial) fun active => asks_bind (asks_ask trivial) fun today => ?_
        exact asks_ite (asks_pure _)
          ((reserveThenSubmit_asks args subject).mono fun _ hr => hr.1)

lemma receiptAttempt_asks (receipt : Option VoiceWebhookReceiptRecord) :
    (receiptAttempt receipt).Asks Call.Plain := by
  unfold receiptAttempt
  cases truthy (receipt.bind (·.attemptId)) with
  | none => exact asks_pure _
  | some id => exact asks_ask ⟨trivial, rfl⟩

lemma finalizePaymentCancellation_asks (attemptId key : String) (confirmed : Bool) :
    (finalizePaymentCancellation attemptId key confirmed).Asks Call.Plain :=
  asks_bind (asks_ask ⟨trivial, rfl⟩) fun _ => asks_ite (asks_pure _) asks_raise

lemma claimPaymentCancellation_asks (caseId key : String) :
    (claimPaymentCancellation caseId key).Asks Call.Plain := by
  refine asks_bind (asks_ask ⟨trivial, rfl⟩) fun existing => ?_
  match existing with
  | some receipt => exact asks_bind (receiptAttempt_asks _) fun _ => asks_pure _
  | none =>
    refine asks_bind (asks_ask ⟨trivial, rfl⟩) fun claim => ?_
    match claim with
    | .noActive => exact asks_pure _
    | .integrityError =>
      exact asks_bind (asks_ask ⟨trivial, rfl⟩) fun _ =>
        asks_bind (receiptAttempt_asks _) fun _ => asks_pure _
    | .claimed attempt => exact asks_pure _

theorem cancelForAuthoritativePayment_asks (service : VoiceContactService) (caseId key : String) :
    (cancelForAuthoritativePayment service caseId key).Asks Call.Plain := by
  refine asks_bind (claimPaymentCancellation_asks caseId key) ?_
  rintro ⟨attempt, claimed⟩
  match attempt with
  | none => exact asks_pure _
  | some attempt =>
    refine asks_ite (asks_pure _) (asks_ite ?_ ?_)
    · exact asks_bind (finalizePaymentCancellation_asks _ _ _) fun _ => asks_pure _
    · refine asks_bind (asks_ask ⟨trivial, rfl⟩) fun cancelled => ?_
      exact asks_bind (finalizePaymentCancellation_asks _ _ _) fun _ =>
        asks_ite (asks_pure _) (asks_pure _)

end Asks

section Routines
variable {α β : Type} {P : Statement → Prop}

abbrev Routine.Asks (P : Statement → Prop) (c : Routine α) : Prop := Proc.Asks P (c ())

lemma Routine.asks_bind {c : Routine β} {f : β → Routine α} (hc : c.Asks P)
    (hf : ∀ b, (f b).Asks P) : Routine.Asks P (c >>= f) :=
  Proc.Asks.bind (fun _ b => hf b) hc

lemma Routine.asks_ask {r : Statement} (hr : P r) :
    Routine.Asks P (Code.ask r : Routine r.Reply) := ⟨hr, fun _ => trivial⟩

lemma Routine.asks_ite {p : Prop} [Decidable p] {c d : Routine α} (hc : c.Asks P)
    (hd : d.Asks P) : Routine.Asks P (if p then c else d) := by
  split_ifs
  · exact hc
  · exact hd

lemma lift_asks {Q : Call → Prop} (hQ : ∀ call, Q call → P (.contact call))
    (hrefresh : ∀ loaded attempt, Q (.updateAttempt loaded attempt) →
      P (.refresh loaded) ∧ ∀ held, P (.contact (.updateAttempt held attempt))) :
    ∀ {p : Proc Call Call.Reply Unit α}, p.Asks Q → (lift p).Asks P
  | .done _ _, _ => trivial
  | .failed _, _ => trivial
  | .spent _, _ => trivial
  | .await _ call k, hp => by
    have hk : ∀ x, (lift (k x)).Asks P := fun x => lift_asks hQ hrefresh (hp.2 x)
    cases call with
    | updateAttempt loaded attempt =>
      obtain ⟨hr, hu⟩ := hrefresh loaded attempt hp.1
      exact ⟨hr, fun held => ⟨hu held, hk⟩⟩
    | _ => exact ⟨hQ _ hp.1, hk⟩

lemma Op.Asks.plain {op : Op α} (h : op.Asks Call.Plain) : op.routine.Asks Statement.Plain :=
  lift_asks (fun _ hc => hc) (fun _ _ hu => ⟨⟨trivial, rfl⟩, fun _ => ⟨hu.1, rfl⟩⟩) h

lemma Op.Asks.wellFormed {op : Op α} (h : op.Asks Call.WellFormed) :
    op.routine.Asks Statement.WellFormed :=
  lift_asks (fun _ hc => hc) (fun _ _ hu => ⟨trivial, fun _ => hu⟩) h

lemma handleCallback_asks (callback : Callback) (eventId attemptId : String) :
    (handleCallback callback eventId attemptId).Asks Statement.Plain := by
  have hprovider : callback.provider ≠ paymentCancellationReceiptProvider := by
    cases callback <;> simp [Callback.provider, paymentCancellationReceiptProvider]
  unfold handleCallback
  cases callback.intent with
  | none => trivial
  | some intent =>
    refine Routine.asks_bind (Routine.asks_ask ⟨trivial, rfl⟩) fun record => ?_
    match record with
    | none => trivial
    | some loaded =>
      refine Routine.asks_bind (Routine.asks_ask ⟨hprovider, rfl⟩) fun written => ?_
      cases written <;> trivial

lemma reconcilePaymentCancellation_asks (key : String) :
    (reconcilePaymentCancellation key).Asks Statement.Plain := by
  have hget : (getPaymentCancellation key).Asks Call.Plain :=
    Voice.asks_bind (Voice.asks_ask ⟨trivial, rfl⟩) receiptAttempt_asks
  refine Routine.asks_bind hget.plain fun attempt => ?_
  match attempt with
  | none => trivial
  | some attempt =>
    refine Routine.asks_ite trivial ?_
    refine Routine.asks_bind (Routine.asks_ask ⟨trivial, rfl⟩) fun snapshot => ?_
    match snapshot with
    | none => trivial
    | some status =>
      refine Routine.asks_ite trivial ?_
      exact Routine.asks_bind (finalizePaymentCancellation_asks _ _ _).plain fun _ => trivial

/-- Only a start goes through the gate. -/
theorem Begins.cases_plain {service : VoiceContactService}
    {p : Proc Statement Statement.Reply Unit Ended} (hp : Begins service p) :
    (∃ args, p = startRoutine service args) ∨ p.Asks Statement.Plain := by
  cases hp with
  | start args => exact .inl ⟨args, rfl⟩
  | callback callback _ eventId attemptId =>
    exact .inr (Routine.asks_bind (handleCallback_asks callback eventId attemptId) fun _ => trivial)
  | cancel caseId key =>
    exact .inr (Routine.asks_bind (cancelForAuthoritativePayment_asks service caseId key).plain
      fun _ => trivial)
  | reconcile key =>
    exact .inr (Routine.asks_bind (reconcilePaymentCancellation_asks key) fun _ => trivial)
  | elsewhere => exact .inr ⟨⟨trivial, rfl⟩, fun _ => trivial⟩

def statements : Contract Statement Statement.Reply Unit where
  rely _ _ := True
  guarantee _ r := r.WellFormed
  fails _ := True

theorem Begins.sends {service : VoiceContactService}
    {p : Proc Statement Statement.Reply Unit Ended} (hp : Begins service p) :
    p.Keeps statements (fun _ _ => True) [] := by
  refine Proc.Asks.keeps (fun _ _ hr => hr) (fun _ => trivial) ?_
  rcases hp.cases_plain with ⟨args, rfl⟩ | h
  · exact Routine.asks_bind (start_asks service args).wellFormed fun _ => trivial
  · exact h.mono fun _ hr => hr.1

end Routines

/-! ## Schedules -/

/-- The answers of the database, with the provider of `respond`; a session that needs its row reads
it again. -/
def serve (db : Database) : (r : Statement) → r.Reply × Database
  | .contact (.updateAttempt loaded attempt) =>
    if Indexed (updateAttempt db loaded attempt) then
      ((true : Bool), updateAttempt db loaded attempt) else ((false : Bool), db)
  | .contact call => respond service db call
  | .refresh held => ((getAttempt held.id db).getD held, db)
  | .writeCallback provider eventId changes loaded =>
    writeCallback db provider eventId changes loaded
  | .fetchContact _ => (some "completed", db)

lemma serve_serves (db : Database) (r : Statement) :
    Serve service db r (serve service db r).1 (serve service db r).2 := by
  cases r with
  | contact call =>
    have ha : Answer service db call (respond service db call).1 (respond service db call).2 :=
      respond_answer db call
    cases call with
    | updateAttempt loaded attempt =>
      by_cases hi : Indexed (updateAttempt db loaded attempt)
      · rw [serve, if_pos hi]
        exact .inl ⟨rfl, hi, rfl⟩
      · rw [serve, if_neg hi]
        exact .inr ⟨rfl, hi, rfl⟩
    | elsewhere => exact ⟨rfl, rfl⟩
    | _ => exact ha
  | refresh held =>
    cases hg : getAttempt held.id db with
    | none => exact ⟨.inl (by rw [serve, hg]; rfl), rfl⟩
    | some row => exact ⟨.inr (by rw [serve, hg]; rfl), rfl⟩
  | writeCallback provider eventId changes loaded => rfl
  | fetchContact id => rfl

/-- The `i`-th operation gets a turn. -/
def Traffic.turn (S : Traffic) (i : ℕ) : Traffic :=
  match S.clients[i]? with
  | some (.await _ r k, h) =>
    let reply := serve service S.shared r
    ⟨reply.2, S.clients.set i (k reply.1, h ++ [⟨r, reply.1⟩])⟩
  | _ => S

def Traffic.play (S : Traffic) (turns : List ℕ) : Traffic := turns.foldl (Traffic.turn service) S

/-- Whether every statement that is answered meets a condition. -/
def Traffic.meets (P : Database → Statement → Bool) : Traffic → List ℕ → Bool
  | _, [] => true
  | S, i :: turns =>
    (match S.clients[i]? with
      | some (.await _ r _, _) => P S.shared r
      | _ => true) && Traffic.meets P (Traffic.turn service S i) turns

variable {service}

/-- A schedule is a run in which the condition is met throughout. -/
lemma Traffic.play_steps {Q : Database → Statement → Prop} {P : Database → Statement → Bool}
    (hP : ∀ db r, P db r = true → Q db r) : ∀ (turns : List ℕ) (S : Traffic),
    Traffic.meets service P S turns = true →
    Relation.ReflTransGen
      (System.Step (fun db r x db' => Serve service db r x db' ∧ Q db r) (Begins service))
      S (Traffic.play service S turns)
  | [], _, _ => .refl
  | i :: turns, S, hm => by
    obtain ⟨hi, hrest⟩ := Bool.and_eq_true_iff.mp hm
    refine .trans ?_ (play_steps hP turns (Traffic.turn service S i) hrest)
    unfold Traffic.turn
    split
    · next s r k h hc =>
      rw [hc] at hi
      exact .single (.answer hc ⟨serve_serves service S.shared r, hP _ _ hi⟩)
    · exact .refl

/-- Whatever the condition, it is a run of the operations. -/
lemma Traffic.runs_of_meeting {Q : Database → Statement → Prop} {S S' : Traffic}
    (h : Relation.ReflTransGen
      (System.Step (fun db r x db' => Serve service db r x db' ∧ Q db r) (Begins service)) S S') :
    Relation.ReflTransGen (Traffic.Step service) S S' := by
  refine Relation.ReflTransGen.mono (fun S S' hstep => ?_) _ _ h
  cases hstep with
  | start hp => exact .start hp
  | answer hi ha => exact .answer hi ha.1

lemma Traffic.meets_true : ∀ (turns : List ℕ) (S : Traffic),
    Traffic.meets service (fun _ _ => true) S turns = true
  | [], _ => rfl
  | i :: turns, S => by
    rw [Traffic.meets, meets_true turns, Bool.and_true]
    split <;> rfl

lemma Traffic.play_runs (turns : List ℕ) (S : Traffic) :
    Relation.ReflTransGen (Traffic.Step service) S (Traffic.play service S turns) :=
  Traffic.runs_of_meeting (Traffic.play_steps (Q := fun _ _ => True) (fun _ _ _ => trivial) turns S
    (Traffic.meets_true turns S))

/-- Twilio says that the call rings. -/
def ringing : Callback := .twilioStatus .ringing none (some "CA1")

lemma ringing_normalized : ringing.Normalized := ⟨"ringing", by decide +kernel⟩

end RecoveryOS.Voice
