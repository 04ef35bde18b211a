import RecoveryOS.CustomerAgent.Polling

/-!
# The receipt that completes a task

`receipts.py` and `send_payment_receipt` of the client, with the activity around it: a receipt for a
mandate is signed, sent to the agent as a message, and the answer is read as a task that must be
completed. The activity may be repeated when its answer was lost. The first delivery that no other
operation comes in between completes the task, and whatever the agent is asked after that, every
repetition is answered with the same task.

`ReceiptPairing` is what the two services rely on, the other way round than in `Pairing`.
-/

namespace RecoveryOS.A2A

open CustomerAgent (Scalar Part dumps b64urlEncode)

/-- `RecoveryReceiptData`: a validated one. -/
structure RecoveryReceiptData where
  receiptId : String
  signerKeyId : String
  taskId : String
  mandateId : String
  merchantId : String
  caseId : String
  recoveryActionId : String
  failedInvoiceId : String
  exactAmountPaise : ℤ
  currency : String
  providerReference : String
  observedAt : DateTime
  named : ∀ text ∈ [receiptId, signerKeyId, taskId, mandateId, merchantId, caseId,
    recoveryActionId, failedInvoiceId, providerReference], text ≠ ""
  positive : 0 < exactAmountPaise
  currencyCode : currency.length = 3 ∧ ∀ c ∈ currency.toList, c.isUpper = true

structure SignedRecoveryReceipt where
  data : RecoveryReceiptData
  signature : String

section
variable (pkgs : Packages)

def RecoveryReceiptData.modelDump (d : RecoveryReceiptData) : List (String × Scalar) :=
  [("protocol_version", .text "recovery.receipt.v2"), ("receipt_id", .text d.receiptId),
    ("signer_key_id", .text d.signerKeyId), ("task_id", .text d.taskId),
    ("mandate_id", .text d.mandateId), ("merchant_id", .text d.merchantId),
    ("case_id", .text d.caseId), ("recovery_action_id", .text d.recoveryActionId),
    ("failed_invoice_id", .text d.failedInvoiceId),
    ("exact_amount_paise", .int d.exactAmountPaise), ("currency", .text d.currency),
    ("provider_reference", .text d.providerReference), ("payment_state", .text "CAPTURED"),
    ("observed_at", .text (pkgs.isoformat d.observedAt))]

def canonicalReceiptJson (d : RecoveryReceiptData) : String := dumps (d.modelDump pkgs)

/-- The envelope in `mode="json"`. -/
def SignedRecoveryReceipt.modelDump (r : SignedRecoveryReceipt) : List (String × Part) :=
  [("algorithm", .scalar (.text "Ed25519")), ("data", .model (r.data.modelDump pkgs)),
    ("signature", .scalar (.text r.signature))]

/-- The key id with the private key's `sign`. -/
structure RecoveryReceiptSigner where
  signerKeyId : String
  privateSign : String → List UInt8

/-- `RecoveryReceiptSigner.sign`; it refuses data that name another key. -/
def RecoveryReceiptSigner.sign (signer : RecoveryReceiptSigner) (d : RecoveryReceiptData) :
    Option SignedRecoveryReceipt :=
  if d.signerKeyId = signer.signerKeyId then
    some { data := d, signature := b64urlEncode (signer.privateSign (canonicalReceiptJson pkgs d)) }
  else none

end

end RecoveryOS.A2A

namespace RecoveryOS.CustomerAgent

open Resume RecoveryOS.Json
open RecoveryOS.A2A (DateTime RecoveryReceiptSigner requireText requireInt requireLiteral forbidExtra)
open RecoveryOS.Worker (SendA2APaymentReceiptInput A2APaymentReceiptResult)

/-! ## The client -/

/-- The receipt for a command; `none` if it does not validate. -/
def receiptFor (signer : RecoveryReceiptSigner) (command : SendA2APaymentReceiptInput)
    (recoveryActionId failedInvoiceId : String) : Option A2A.RecoveryReceiptData :=
  if h : (∀ text ∈ [command.idempotencyKey, signer.signerKeyId, command.remoteTaskId,
        command.mandateId, command.merchantId, command.caseId, recoveryActionId, failedInvoiceId,
        command.providerReference], text ≠ "") ∧ 0 < command.exactAmountPaise ∧
      (command.currency.length = 3 ∧ ∀ c ∈ command.currency.toList, c.isUpper = true) then
    some
      { receiptId := command.idempotencyKey, signerKeyId := signer.signerKeyId
        taskId := command.remoteTaskId, mandateId := command.mandateId
        merchantId := command.merchantId, caseId := command.caseId, recoveryActionId
        failedInvoiceId, exactAmountPaise := command.exactAmountPaise
        currency := command.currency, providerReference := command.providerReference
        observedAt := ⟨command.observedAt, 0⟩, named := h.1, positive := h.2.1
        currencyCode := h.2.2 }
  else none

section
variable (rt : Worker.Runtime)

/-- The message of a signed receipt. -/
def receiptEnvelope (command : SendA2APaymentReceiptInput) (signed : A2A.SignedRecoveryReceipt) :
    Message where
  messageId := command.idempotencyKey
  role := .user
  parts := [(signed.modelDump rt.pkgs).map fun f => (f.1, f.2.json)]
  taskId := some command.remoteTaskId
  contextId := none
  nonempty := by simp

/-- What `send_payment_receipt` sends; `none` if it raises before. -/
def paymentReceipt (signer : RecoveryReceiptSigner) (command : SendA2APaymentReceiptInput) :
    Option Message := do
  let recoveryActionId ← command.recoveryActionId
  let failedInvoiceId ← command.failedInvoiceId
  let receipt ← receiptFor signer command recoveryActionId failedInvoiceId
  let signed ← signer.sign rt.pkgs receipt
  pure (receiptEnvelope rt command signed)

end

/-- What the activity makes of the task that it is answered with. -/
def receiptResult (command : SendA2APaymentReceiptInput) (task : CustomerAgentTask) :
    Except ClientError A2APaymentReceiptResult :=
  if task.remoteTaskId ≠ command.remoteTaskId then
    .error (.protocol "payment receipt response task ID does not match")
  else if task.state ≠ .completed then
    .error (.protocol "customer task did not complete after payment receipt")
  else
    .ok { remoteTaskId := task.remoteTaskId, taskState := task.state.value
          delivered := Decidable.decide (task.state = .completed) }

lemma receiptResult_completed {command : SendA2APaymentReceiptInput} {task : CustomerAgentTask}
    (hid : task.remoteTaskId = command.remoteTaskId) (hs : task.state = .completed) :
    receiptResult command task =
      .ok { remoteTaskId := command.remoteTaskId, taskState := "COMPLETED", delivered := true } := by
  rw [receiptResult, if_neg (not_not.mpr hid), if_neg (not_not.mpr hs), hs, hid]
  rfl

/-! ## The agent's validation -/

def RecoveryReceiptData.fieldNames : List String :=
  ["protocol_version", "receipt_id", "signer_key_id", "task_id", "mandate_id", "merchant_id",
    "case_id", "recovery_action_id", "failed_invoice_id", "exact_amount_paise", "currency",
    "provider_reference", "payment_state", "observed_at"]

/-- What the constructor of `RecoveryReceiptData` checks. -/
def RecoveryReceiptData.valid (d : RecoveryReceiptData) : Bool :=
  [d.receiptId, d.signerKeyId, d.taskId, d.mandateId, d.merchantId, d.caseId, d.recoveryActionId,
    d.failedInvoiceId, d.providerReference].all (· ≠ "")
  && Decidable.decide (0 < d.exactAmountPaise) && currencyCode d.currency

section
variable (parseTime : String → Option DateTime)

/-- `RecoveryReceiptData`, with nothing converted. -/
def RecoveryReceiptData.validate (fields : List (String × Json)) : Option RecoveryReceiptData := do
  forbidExtra fields fieldNames
  requireLiteral fields "protocol_version" "recovery.receipt.v2"
  let receiptId ← requireText fields "receipt_id"
  let signerKeyId ← requireText fields "signer_key_id"
  let taskId ← requireText fields "task_id"
  let mandateId ← requireText fields "mandate_id"
  let merchantId ← requireText fields "merchant_id"
  let caseId ← requireText fields "case_id"
  let recoveryActionId ← requireText fields "recovery_action_id"
  let failedInvoiceId ← requireText fields "failed_invoice_id"
  let exactAmountPaise ← requireInt fields "exact_amount_paise"
  let currency ← requireText fields "currency"
  let providerReference ← requireText fields "provider_reference"
  requireLiteral fields "payment_state" "CAPTURED"
  let observedAt ← (requireText fields "observed_at").bind parseTime
  let data : RecoveryReceiptData :=
    { receiptId, signerKeyId, taskId, mandateId, merchantId, caseId, recoveryActionId,
      failedInvoiceId, exactAmountPaise, currency, providerReference, observedAt }
  if data.valid then some data else none

/-- `SignedRecoveryReceipt`. -/
def SignedRecoveryReceipt.validate (fields : List (String × Json)) :
    Option SignedRecoveryReceipt := do
  forbidExtra fields ["algorithm", "data", "signature"]
  requireLiteral fields "algorithm" "Ed25519"
  let data ←
    match Json.get fields "data" with
    | .obj inner => RecoveryReceiptData.validate parseTime inner
    | _ => none
  let signature ← requireText fields "signature"
  if signature = "" then none else some { data, signature }

end

/-- What the agent and RecoveryOS rely on for receipts. -/
structure ReceiptPairing (agent : Packages) (api : A2A.Packages) (signer : RecoveryReceiptSigner)
    where
  parseTime : String → Option DateTime
  parseTime_isoformat : ∀ time, parseTime (api.isoformat time) = some time
  /-- Both services write timestamps with pydantic. -/
  isoformat_eq : api.isoformat = agent.jsonTime
  /-- What the declarations of a model admit, pydantic takes as it is. -/
  validateReceipt : ∀ fields r, SignedRecoveryReceipt.validate parseTime fields = some r →
    agent.validateReceipt fields = some r
  /-- The public key, which the agent has pinned. -/
  key : agent.Key
  pinned : (agent.pinnedKeys.find? fun k => k.1 = signer.signerKeyId) =
    some (signer.signerKeyId, key)
  verify_sign : ∀ text, agent.verify key (b64urlEncode (signer.privateSign text)) text = true
  sign_nonempty : ∀ text, b64urlEncode (signer.privateSign text) ≠ ""

/-! ## The message as the agent reads it -/

/-- The receipt as the agent's model has it. -/
def receivedReceipt (d : A2A.RecoveryReceiptData) : RecoveryReceiptData where
  receiptId := d.receiptId
  signerKeyId := d.signerKeyId
  taskId := d.taskId
  mandateId := d.mandateId
  merchantId := d.merchantId
  caseId := d.caseId
  recoveryActionId := d.recoveryActionId
  failedInvoiceId := d.failedInvoiceId
  exactAmountPaise := d.exactAmountPaise
  currency := d.currency
  providerReference := d.providerReference
  observedAt := d.observedAt

lemma receivedReceipt_valid (d : A2A.RecoveryReceiptData) : (receivedReceipt d).valid = true := by
  have hnamed := d.named
  have hcode : currencyCode d.currency = true := by
    rw [currencyCode, Bool.and_eq_true, beq_iff_eq, List.all_eq_true]
    exact d.currencyCode
  simp only [RecoveryReceiptData.valid, receivedReceipt, Bool.and_eq_true, hcode, and_true]
  refine ⟨?_, decide_eq_true d.positive⟩
  simpa using hnamed

/-- The receipt says what its command does. -/
structure ReceiptOf (command : SendA2APaymentReceiptInput) (d : A2A.RecoveryReceiptData) : Prop where
  receiptId : d.receiptId = command.idempotencyKey
  taskId : d.taskId = command.remoteTaskId
  mandateId : d.mandateId = command.mandateId
  merchantId : d.merchantId = command.merchantId
  caseId : d.caseId = command.caseId
  recoveryActionId : command.recoveryActionId = some d.recoveryActionId
  failedInvoiceId : command.failedInvoiceId = some d.failedInvoiceId
  exactAmountPaise : d.exactAmountPaise = command.exactAmountPaise
  currency : d.currency = command.currency

lemma receiptOf_of_receiptFor {signer : RecoveryReceiptSigner}
    {command : SendA2APaymentReceiptInput} {recoveryActionId failedInvoiceId : String}
    {d : A2A.RecoveryReceiptData} (haction : command.recoveryActionId = some recoveryActionId)
    (hinvoice : command.failedInvoiceId = some failedInvoiceId)
    (hd : receiptFor signer command recoveryActionId failedInvoiceId = some d) :
    ReceiptOf command d := by
  unfold receiptFor at hd
  split_ifs at hd
  obtain rfl := Option.some.inj hd
  exact ⟨rfl, rfl, rfl, rfl, rfl, haction, hinvoice, rfl, rfl⟩

section
variable {agent : Packages} {rt : Worker.Runtime} {signer : RecoveryReceiptSigner}
  (pair : ReceiptPairing agent rt.pkgs signer)
include pair

lemma ReceiptPairing.modelDump_received (d : A2A.RecoveryReceiptData) :
    d.modelDump rt.pkgs = (receivedReceipt d).modelDump agent := by
  rw [A2A.RecoveryReceiptData.modelDump, pair.isoformat_eq]
  rfl

/-- What the client dumps, the agent reads. -/
lemma ReceiptPairing.validate_modelDump (r : A2A.SignedRecoveryReceipt)
    (hs : r.signature ≠ "") :
    SignedRecoveryReceipt.validate pair.parseTime
      ((r.modelDump rt.pkgs).map fun f => (f.1, f.2.json)) =
        some ⟨receivedReceipt r.data, r.signature⟩ := by
  have hdata : RecoveryReceiptData.validate pair.parseTime
      ((r.data.modelDump rt.pkgs).map fun f => (f.1, f.2.json)) = some (receivedReceipt r.data) := by
    have hvalid := receivedReceipt_valid r.data
    simp [RecoveryReceiptData.validate, A2A.RecoveryReceiptData.modelDump, forbidExtra,
      requireLiteral, requireText, requireInt, Json.get, RecoveryReceiptData.fieldNames, Scalar.json,
      pair.parseTime_isoformat]
    exact ⟨hvalid, rfl⟩
  have hget : Json.get ((r.modelDump rt.pkgs).map fun f => (f.1, f.2.json)) "data" =
      .obj ((r.data.modelDump rt.pkgs).map fun f => (f.1, f.2.json)) := rfl
  have hextra : forbidExtra ((r.modelDump rt.pkgs).map fun f => (f.1, f.2.json))
      ["algorithm", "data", "signature"] = some () := by
    simp [forbidExtra, A2A.SignedRecoveryReceipt.modelDump]
  have hliteral : requireLiteral ((r.modelDump rt.pkgs).map fun f => (f.1, f.2.json)) "algorithm"
      "Ed25519" = some () := rfl
  have htext : requireText ((r.modelDump rt.pkgs).map fun f => (f.1, f.2.json)) "signature" =
      some r.signature := rfl
  simp only [SignedRecoveryReceipt.validate, hget, hextra, hliteral, htext, hdata, if_neg hs,
    Option.bind_eq_bind, Option.bind_some]

/-- The agent trusts a message of the client. -/
theorem ReceiptPairing.trusted {command : SendA2APaymentReceiptInput} {m : Message}
    (hm : paymentReceipt rt signer command = some m) :
    ∃ d signature, Trusted agent m ⟨receivedReceipt d, signature⟩ ∧ ReceiptOf command d ∧
      m.messageId = command.idempotencyKey ∧ m.taskId = some command.remoteTaskId := by
  unfold paymentReceipt at hm
  obtain ⟨recoveryActionId, haction, hm⟩ := Option.bind_eq_some_iff.mp hm
  obtain ⟨failedInvoiceId, hinvoice, hm⟩ := Option.bind_eq_some_iff.mp hm
  obtain ⟨d, hd, hm⟩ := Option.bind_eq_some_iff.mp hm
  obtain ⟨signed, hsigned, hm⟩ := Option.bind_eq_some_iff.mp hm
  obtain rfl := Option.some.inj hm
  unfold RecoveryReceiptSigner.sign at hsigned
  split_ifs at hsigned with hkey
  obtain rfl := Option.some.inj hsigned
  refine ⟨d, b64urlEncode (signer.privateSign (A2A.canonicalReceiptJson rt.pkgs d)), ⟨?_, ?_, ?_⟩,
    receiptOf_of_receiptFor haction hinvoice hd, rfl, rfl⟩
  · refine ⟨?_, ?_⟩
    · show ¬ Json.isText "recovery.request.v2" .null = true
      decide
    · show (Json.isText "recovery.receipt.v2" .null
        || Json.isText "recovery.receipt.v2" (.str "recovery.receipt.v2")) = true
      decide
  · exact pair.validateReceipt _ _ (pair.validate_modelDump _ (pair.sign_nonempty _))
  · have hcanonical : (receivedReceipt d).canonicalJson agent =
        A2A.canonicalReceiptJson rt.pkgs d := by
      rw [A2A.canonicalReceiptJson, pair.modelDump_received]
      rfl
    have hpinned : (agent.pinnedKeys.find? fun k => k.1 = (receivedReceipt d).signerKeyId) =
        some (signer.signerKeyId, pair.key) := by
      show (agent.pinnedKeys.find? fun k => k.1 = d.signerKeyId) = _
      rw [hkey]
      exact pair.pinned
    rw [verifyReceipt, hpinned]
    simp only [hcanonical, pair.verify_sign, if_true]

end

/-! ## An undisturbed delivery -/

section
variable {pkgs : Packages} {w w' : Store}
  {cs : List (Proc Call Call.Reply (Option Raised) TaskRecord × Log)} {s : Option Raised} {c : Call}
  {k : c.Reply → Proc Call Call.Reply (Option Raised) TaskRecord} {h : Log} {x : c.Reply}
  {time : Instant} {text : String}

/-- The operation that was started last gets a turn. -/
lemma Agent.play_turn (turns : List (Instant × String))
    (hx : w.respond pkgs time text c = some (w', x)) :
    Agent.play pkgs ⟨w, cs ++ [(.await s c k, h)]⟩ ((time, text) :: turns) =
      Agent.play pkgs ⟨w', cs ++ [(k x, h ++ [⟨c, x⟩])]⟩ turns := by
  have hlast : (cs ++ [(Proc.await s c k, h)]).length - 1 = cs.length := by simp
  have hget : (cs ++ [(Proc.await s c k, h)])[cs.length]? = some (.await s c k, h) := by simp
  have hturn : Agent.turn pkgs ⟨w, cs ++ [(.await s c k, h)]⟩ cs.length time text =
      ⟨w', cs ++ [(k x, h ++ [⟨c, x⟩])]⟩ := by
    simp only [Agent.turn, hget, hx]
    simp
  show Agent.play pkgs (Agent.turn pkgs _ ((cs ++ [(Proc.await s c k, h)]).length - 1) time text)
    turns = _
  rw [hlast, hturn]

end

section
variable {pkgs : Packages} {t : TaskRecord} {m : Message} {signed : SignedRecoveryReceipt}
  {d : RecoveryMandateData}

/-- The task as it is completed. -/
def completedTask (pkgs : Packages) (t : TaskRecord) (m : Message) (signed : SignedRecoveryReceipt)
    (time : Instant) (id replyId : String) : TaskRecord :=
  { t with
    state := .completed
    artifacts := t.artifacts ++ [receiptArtifact pkgs id signed]
    history := t.history ++ [m.modelDump]
    status := statusOf pkgs .completed ⟨time, 0⟩ (replyTo t
      [("protocol_version", .str "recovery.completed.v1"), ("payment_state", .str "CAPTURED"),
        ("provider_reference", .str signed.data.providerReference)] replyId)
    updatedAt := ⟨time, 0⟩
    revision := t.revision + 1 }

lemma receiptMatches_of_matches (hd : Mandated pkgs t d) {r : RecoveryReceiptData}
    (hm : Matches d r) : receiptMatches t (.str d.mandateId) (.str d.recoveryActionId)
      (.str d.failedInvoiceId) r = true := by
  simp only [receiptMatches, Bool.and_eq_true, Json.isText_iff, beq_iff_eq, Prod.mk.injEq]
  exact ⟨⟨⟨hm.mandateId.symm, hm.recoveryActionId.symm⟩, hm.failedInvoiceId.symm⟩,
    hm.taskId.trans hd.taskId, hm.merchantId.trans hd.merchantId, hm.caseId.trans hd.caseId,
    hm.exactAmountPaise.trans hd.exactAmountPaise, hm.currency.trans hd.currency⟩

/-- A receipt for a task that is worked on completes it, if nothing comes in between. -/
lemma Agent.play_completes (hs : t.state = .working) (hd : Mandated pkgs t d)
    (ha : t.artifacts = [signedArtifact pkgs d]) (hm : Matches d signed.data)
    (hid : m.messageId = signed.data.receiptId) (hdup : isDuplicateMessage pkgs t m = some false)
    {w : Store} (hw : w.tasks (m.address signed) = some t) (hw' : w.tasks t.id = some t)
    (cs : List (Proc Call Call.Reply (Option Raised) TaskRecord × Log))
    (first second third fourth fifth : Instant × String) :
    ∃ h, Agent.play pkgs ⟨w, cs ++ [(completeWithReceipt pkgs m signed signed.data none, [])]⟩
        [first, second, third, fourth, fifth] =
      ⟨w.put (completedTask pkgs t m signed second.1 third.2 fourth.2),
        cs ++ [(.done none (completedTask pkgs t m signed second.1 third.2 fourth.2), h)]⟩ := by
  have hmatch := receiptMatches_of_matches hd hm
  have hsave : w.save { completedTask pkgs t m signed second.1 third.2 fourth.2 with
      revision := t.revision } t.revision =
      (w.put (completedTask pkgs t m signed second.1 third.2 fourth.2), true) := by
    have hw₂ : w.tasks { completedTask pkgs t m signed second.1 third.2 fourth.2 with
      revision := t.revision }.id = some t := hw'
    rw [Store.save, hw₂]
    exact if_neg (not_not.mpr rfl)
  refine ⟨[⟨.get (m.address signed), some t⟩, ⟨.now, second.1⟩, ⟨.uuid4, third.2⟩,
    ⟨.uuid4, fourth.2⟩, ⟨.save { completedTask pkgs t m signed second.1 third.2 fourth.2 with
      revision := t.revision } t.revision, true⟩], ?_⟩
  have hget : w.respond pkgs first.1 first.2 (.get (m.address signed)) = some (w, some t) := by
    rw [← hw]
    rfl
  refine (Agent.play_turn _ hget).trans ?_
  show Agent.play pkgs ⟨w, cs ++ [(duplicateOr pkgs t m _ none, _)]⟩ _ = _
  rw [duplicateOr, hdup]
  dsimp only
  rw [if_neg (not_not.mpr hs), if_neg (not_not.mpr hid), mandateData_eq ha]
  show Agent.play pkgs ⟨w, cs ++ [((if receiptMatches t (.str d.mandateId)
    (.str d.recoveryActionId) (.str d.failedInvoiceId) signed.data = false then _ else _ :
      Op TaskRecord) none, _)]⟩ _ = _
  rw [if_neg (by simp [hmatch])]
  refine (Agent.play_turn _ rfl).trans ?_
  refine (Agent.play_turn _ rfl).trans ?_
  refine (Agent.play_turn _ rfl).trans ?_
  refine (Agent.play_turn _ (c := .save _ _) (congrArg some hsave)).trans ?_
  rfl

end

/-! ## Delivery and repetition -/

/-- The command is for the mandate. -/
structure Pays (command : SendA2APaymentReceiptInput) (d : RecoveryMandateData) : Prop where
  taskId : command.remoteTaskId = d.taskId
  mandateId : command.mandateId = d.mandateId
  merchantId : command.merchantId = d.merchantId
  caseId : command.caseId = d.caseId
  recoveryActionId : command.recoveryActionId = some d.recoveryActionId
  failedInvoiceId : command.failedInvoiceId = some d.failedInvoiceId
  exactAmountPaise : command.exactAmountPaise = d.exactAmountPaise
  currency : command.currency = d.currency

lemma ReceiptOf.matches {command : SendA2APaymentReceiptInput} {d : RecoveryMandateData}
    {r : A2A.RecoveryReceiptData} (hr : ReceiptOf command r) (hc : Pays command d) :
    Matches d (receivedReceipt r) :=
  { taskId := hr.taskId.trans hc.taskId
    mandateId := hr.mandateId.trans hc.mandateId
    merchantId := hr.merchantId.trans hc.merchantId
    caseId := hr.caseId.trans hc.caseId
    recoveryActionId := Option.some.inj (hr.recoveryActionId.symm.trans hc.recoveryActionId)
    failedInvoiceId := Option.some.inj (hr.failedInvoiceId.symm.trans hc.failedInvoiceId)
    exactAmountPaise := hr.exactAmountPaise.trans hc.exactAmountPaise
    currency := hr.currency.trans hc.currency }

lemma duplicate_none {pkgs : Packages} {t : TaskRecord} {m m₀ : Message}
    (hh : t.history = [m₀.modelDump]) (hne : m₀.messageId ≠ m.messageId) :
    isDuplicateMessage pkgs t m = some false := by
  have hfind : t.history.find? (fun item =>
      ((Json.item? item "messageId").map (Json.isText m.messageId)).getD false) = none := by
    rw [hh, List.find?_cons_of_neg, List.find?_nil]
    show ¬ Json.isText m.messageId (.str m₀.messageId) = true
    rwa [Json.isText_iff]
  unfold isDuplicateMessage
  rw [hfind]

/-- The state after a message was sent and got five turns, with what the clock and the random sources
said. -/
def Agent.exchange (agent : Packages) (S : Agent) (m : Message) (turns : Fin 5 → Instant × String) :
    Agent :=
  Agent.play agent ⟨S.shared, S.clients ++ [(sendMessage agent m none, [])]⟩
    [turns 0, turns 1, turns 2, turns 3, turns 4]

lemma Agent.exchange_steps (agent : Packages) (mandateTtl : ℤ) (S : Agent) (m : Message)
    (turns : Fin 5 → Instant × String) :
    Relation.ReflTransGen (Agent.Step agent mandateTtl) S (S.exchange agent m turns) :=
  .trans (.single (.start (.sendMessage m))) (Agent.play_steps agent mandateTtl _ _)

lemma Trusted.sends {pkgs : Packages} {m : Message} {signed : SignedRecoveryReceipt}
    (h : Trusted pkgs m signed) :
    sendMessage pkgs m = completeWithReceipt pkgs m signed signed.data := by
  rcases sendMessage_cases pkgs m with hreq | ⟨signed', ht, he⟩ | ⟨hno, -⟩
  · exact absurd hreq h.isReceipt.1
  · rw [he, h.unique ht]
  · exact absurd h (hno signed)

lemma address_eq {m : Message} {signed : SignedRecoveryReceipt} {taskId : String}
    (hm : m.taskId = some taskId) (hs : signed.data.taskId = taskId) :
    m.address signed = taskId := by
  rw [Message.address, hm, hs, Option.filter]
  split_ifs
  · rfl
  · rfl

/-- A completed task stays as it is, and answers the message that has completed it. -/
lemma repeated_delivery {agent : Packages} (hp : agent.sameDict = same) {mandateTtl : ℤ}
    {S S' : Agent}
    (hS : System.Sound (historyContract agent) (KeptRecords agent) (Told agent) (fun _ _ => True) S)
    {id : String} {t : TaskRecord} (ht : S.shared.tasks id = some t) (hs : t.state = .completed)
    {m₀ m : Message} (hhist : t.history = [m₀.modelDump, m.modelDump])
    {signed : SignedRecoveryReceipt} (htrust : Trusted agent m signed)
    (haddr : m.address signed = t.id)
    (hS' : Relation.ReflTransGen (Agent.Step agent mandateTtl) S S') :
    S'.shared.tasks id = some t ∧
      ∀ i p h, S.clients.length ≤ i → S'.clients[i]? = some (p, h) →
        Proc.Follows (sendMessage agent m none) h p → h ≠ [] → ∃ s, p = .done s t := by
  have hdisc := history_discipline hp mandateTtl
  obtain ⟨-, hchanges⟩ := hdisc.run hS hS'
  have hid : t.id = id := (hS.inv.1.task ht).1
  obtain ⟨m', signed', hacc⟩ := (hS.inv.2 id t ht).recorded.accepted hs
  obtain ⟨m₁, -, -, hhist'⟩ := hacc.history
  -- the message that completed the task is this one
  have hsame : m'.modelDump = m.modelDump := by
    rw [hhist] at hhist'
    exact (List.cons.inj (List.cons.inj hhist').2).1.symm
  have hmid : m.messageId = m'.messageId := by
    have he : Json.str m'.messageId = .str m.messageId :=
      congrArg (fun j : Json => Json.get j.asObject "messageId") hsame
    exact (Json.str.inj he).symm
  refine ⟨frozen_run hchanges ht hs, fun i p h hi hp' hf hne => ?_⟩
  have hget : ∀ e ∈ h, ∀ x, e = ⟨.get t.id, x⟩ → x = some t := by
    refine (System.since_run (P := fun e => ∀ x, e = ⟨.get t.id, x⟩ → x = some t)
      (fun S₁ hS₁ q x w' hanswer y he => ?_) hS').2 i p h hi hp'
    obtain ⟨-, hchanges₁⟩ := hdisc.run hS hS₁
    cases he
    rw [hid] at hanswer
    exact hanswer.1.trans (frozen_run hchanges₁ ht hs)
  refine (later_delivery hacc htrust.isReceipt.1 (fun signed'' ht'' => ?_) hf
    (fun x hx => hget _ hx x rfl) hmid).2 ?_ ⟨_, htrust⟩ hne
  · rw [htrust.unique ht'']
    exact haddr
  · rw [hp, hsame]
    exact same_refl _

section
variable {agent : Packages} {rt : Worker.Runtime} {signer : RecoveryReceiptSigner}
  (pair : ReceiptPairing agent rt.pkgs signer)
include pair

/-- A task that a customer has approved, in any state that the agent reaches: the receipt for its
mandate completes it when no other operation comes in between, and the activity reports that it was
delivered. However the agent is used after that, the task stays as it is, and when the activity is
repeated with the same command, an answer to it is that task again. -/
theorem receipt_handshake (hp : agent.sameDict = same) {reading : Reading}
    (hr : reading.Reads agent) {mandateTtl : ℤ} {S : Agent}
    (hS : Relation.ReflTransGen (Agent.Step agent mandateTtl) ⟨{}, []⟩ S) {id : String}
    {t : TaskRecord} (ht : S.shared.tasks id = some t) (hs : t.state = .working)
    (quote : String → String) (clock : DateTime) :
    ∃ d, t.artifacts = [signedArtifact agent d] ∧ Mandated agent t d ∧
      ∀ command m, Pays command d → paymentReceipt rt signer command = some m →
        (∀ m₀ : Message, t.history = [m₀.modelDump] → m₀.messageId ≠ m.messageId) →
        ∀ turns, ∃ t', t'.state = .completed ∧
          (S.exchange agent m turns).shared.tasks id = some t' ∧
          (∃ h, (S.exchange agent m turns).clients = S.clients ++ [(.done none t', h)]) ∧
          ((mapTask reading clock (publicTask agent quote t')).bind (receiptResult command) =
            .ok { remoteTaskId := id, taskState := "COMPLETED", delivered := true }) ∧
          ∀ S', Relation.ReflTransGen (Agent.Step agent mandateTtl) (S.exchange agent m turns) S' →
            S'.shared.tasks id = some t' ∧
            ∀ i p h, S.clients.length < i → S'.clients[i]? = some (p, h) →
              Proc.Follows (sendMessage agent m none) h p → h ≠ [] → ∃ s, p = .done s t' := by
  have hdisc := history_discipline hp mandateTtl
  obtain ⟨hsound, -⟩ := hdisc.run
    (.nil ⟨⟨fun h => (by cases h), fun h => (by cases h)⟩, fun id t h => (by cases h)⟩) hS
  have hid : t.id = id := (hsound.inv.1.task ht).1
  have htraced := hsound.inv.2 id t ht
  obtain ⟨d, ha, hd, -⟩ := htraced.presented.mandate hs
  obtain ⟨m₀, -, hhist⟩ := htraced.recorded.request (by simp [hs])
  refine ⟨d, ha, hd, fun command m hc hm hfresh turns => ?_⟩
  obtain ⟨r, signature, htrust, hof, hmid, htid⟩ := pair.trusted hm
  have haddr : m.address ⟨receivedReceipt r, signature⟩ = t.id := by
    rw [← hd.taskId, ← hc.taskId]
    exact address_eq htid hof.taskId
  have hplay := Agent.play_completes (d := d) hs hd ha (hof.matches hc)
    (hmid.trans hof.receiptId.symm) (duplicate_none hhist (hfresh m₀ hhist))
    (w := S.shared) (by rw [haddr, hid]; exact ht) (by rw [hid]; exact ht) S.clients
    (turns 0) (turns 1) (turns 2) (turns 3) (turns 4)
  rw [← htrust.sends] at hplay
  obtain ⟨h, hplay⟩ := hplay
  have hstate : S.exchange agent m turns = _ := hplay
  have ht' : (S.exchange agent m turns).shared.tasks id = some (completedTask agent t m
      ⟨receivedReceipt r, signature⟩ (turns 1).1 (turns 2).2 (turns 3).2) := by
    rw [hstate, ← hid]
    exact Function.update_self _ _ _
  obtain ⟨hsound', -⟩ := hdisc.run hsound (Agent.exchange_steps agent mandateTtl S m turns)
  have htraced' := hsound'.inv.2 id _ ht'
  refine ⟨_, rfl, ht', ⟨h, by rw [hstate]⟩, ?_, fun S' hS' => ?_⟩
  · obtain ⟨updatedAt, hmap⟩ := mapTask_publicTask hr (hsound'.inv.1.task ht').2
      htraced'.presented quote clock
    have hremote : command.remoteTaskId = id := hc.taskId.trans (hd.taskId.trans hid)
    rw [hmap, ← hremote]
    exact receiptResult_completed (hid.trans hremote.symm) rfl
  · have hhist' : (completedTask agent t m ⟨receivedReceipt r, signature⟩ (turns 1).1 (turns 2).2
        (turns 3).2).history = [m₀.modelDump, m.modelDump] := by
      rw [completedTask, hhist]
      rfl
    obtain ⟨hstays, hlater⟩ := repeated_delivery hp hsound' ht' rfl hhist' htrust haddr hS'
    refine ⟨hstays, fun i p h hi => hlater i p h ?_⟩
    rw [hstate, List.length_append]
    exact hi

end

/-! ## A receipt for the mandate of the sample -/

/-- The platform's key: a signature is never empty. -/
def sampleReceiptSigner : RecoveryReceiptSigner where
  signerKeyId := "platform_1"
  privateSign text := 1 :: text.toList.map fun c => UInt8.ofNat c.toNat

/-- `polledAgent`, which has pinned that key. -/
def receiptAgent : Packages :=
  { polledAgent with
    validateReceipt := SignedRecoveryReceipt.validate sampleParseTime
    Key := Unit
    pinnedKeys := [("platform_1", ())]
    verify := fun _ signature text =>
      signature == b64urlEncode (sampleReceiptSigner.privateSign text) }

def receiptAgentPairing : Pairing receiptAgent pollingRuntime.pkgs where
  parseTime := sampleParseTime
  parseTime_jsonTime := sampleParseTime_sampleIsoformat
  jsonTime_plain := sampleIsoformat_plain
  isoformat_eq := pollingRuntime_isoformat
  modelValidate := pollingRuntime_modelValidate
  privateSign := samplePrivateSign
  publicKey := A2A.sampleKey
  sign_eq := polledAgent_sign
  decode_eq := pollingRuntime_decode
  verify_sign := pollingRuntime_verify

lemma sampleReceiptSigner_nonempty (text : String) :
    b64urlEncode (sampleReceiptSigner.privateSign text) ≠ "" := by
  intro h
  have hread := b64urlDecode_b64urlEncode (sampleReceiptSigner.privateSign text)
  rw [h] at hread
  have hnil : b64urlDecode "" = some [] := by decide
  rw [hnil] at hread
  cases hread

lemma receiptAgent_validateReceipt : ∀ fields r,
    SignedRecoveryReceipt.validate sampleParseTime fields = some r →
      receiptAgent.validateReceipt fields = some r :=
  fun _ _ h => h

lemma receiptAgent_pinned :
    (receiptAgent.pinnedKeys.find? fun k => k.1 = sampleReceiptSigner.signerKeyId) =
      some (sampleReceiptSigner.signerKeyId, ()) := rfl

lemma receiptAgent_verify : ∀ text,
    receiptAgent.verify () (b64urlEncode (sampleReceiptSigner.privateSign text)) text = true :=
  fun _ => beq_self_eq_true _

def sampleReceiptPairing : ReceiptPairing receiptAgent pollingRuntime.pkgs sampleReceiptSigner where
  parseTime := sampleParseTime
  parseTime_isoformat := sampleParseTime_sampleIsoformat
  isoformat_eq := pollingRuntime_isoformat
  validateReceipt := receiptAgent_validateReceipt
  key := ()
  pinned := receiptAgent_pinned
  verify_sign := receiptAgent_verify
  sign_nonempty := sampleReceiptSigner_nonempty

lemma grantedAgent_record : ((grantedAgent receiptAgent).shared.tasks "task_1").map
    (fun t => (t.state, t.artifacts, t.history)) =
      some (.working, [signedArtifact receiptAgent approvedData], [sampleRequest.modelDump]) := by
  rfl

def sampleReceiptCommand : SendA2APaymentReceiptInput where
  remoteTaskId := "task_1"
  mandateId := "mandate_1"
  merchantId := "merchant_1"
  caseId := "case_1"
  exactAmountPaise := 49900
  currency := "INR"
  providerReference := "pay_1"
  observedAt := 0
  idempotencyKey := "receipt_1"
  recoveryActionId := some "action_1"
  failedInvoiceId := some "inv_1"

lemma sampleReceiptCommand_sent :
    ∃ m, paymentReceipt pollingRuntime sampleReceiptSigner sampleReceiptCommand = some m ∧
      m.messageId = "receipt_1" := by
  have hdata : (receiptFor sampleReceiptSigner sampleReceiptCommand "action_1" "inv_1").isSome =
      true := by
    decide
  obtain ⟨r, hr⟩ := Option.isSome_iff_exists.mp hdata
  have hkey : r.signerKeyId = sampleReceiptSigner.signerKeyId := by
    unfold receiptFor at hr
    split_ifs at hr
    exact (congrArg A2A.RecoveryReceiptData.signerKeyId (Option.some.inj hr)).symm
  refine ⟨receiptEnvelope pollingRuntime sampleReceiptCommand ⟨r, b64urlEncode
    (sampleReceiptSigner.privateSign (A2A.canonicalReceiptJson pollingRuntime.pkgs r))⟩, ?_, rfl⟩
  have haction : sampleReceiptCommand.recoveryActionId = some "action_1" := rfl
  have hinvoice : sampleReceiptCommand.failedInvoiceId = some "inv_1" := rfl
  simp only [paymentReceipt, haction, hinvoice, Option.bind_eq_bind, Option.bind_some, hr,
    RecoveryReceiptSigner.sign, if_pos hkey]
  rfl

/-- The receipt is delivered, and delivered again. -/
theorem receipt_handshake_sample : ∃ m t,
    paymentReceipt pollingRuntime sampleReceiptSigner sampleReceiptCommand = some m ∧
    ((grantedAgent receiptAgent).exchange receiptAgent m fun _ => (0, "7")).shared.tasks "task_1" =
      some t ∧ t.state = .completed ∧
    (mapTask sampleReading ⟨0, 0⟩ (publicTask receiptAgent id t)).bind
        (receiptResult sampleReceiptCommand) =
      .ok { remoteTaskId := "task_1", taskState := "COMPLETED", delivered := true } := by
  obtain ⟨t, ht, he⟩ := Option.map_eq_some_iff.mp grantedAgent_record
  obtain ⟨hs, ha, hh⟩ : t.state = .working ∧ t.artifacts = [signedArtifact receiptAgent approvedData]
      ∧ t.history = [sampleRequest.modelDump] := by simpa using he
  obtain ⟨m, hm, hid⟩ := sampleReceiptCommand_sent
  obtain ⟨d, ha', -, hdeliver⟩ := receipt_handshake sampleReceiptPairing rfl
    (sampleReading_reads rfl) (grantedAgent_steps _) ht hs id ⟨0, 0⟩
  obtain rfl : approvedData = d := receiptAgentPairing.signedArtifact_injective
    (List.singleton_injective (ha.symm.trans ha'))
  have hfresh : ∀ m₀ : Message, t.history = [m₀.modelDump] → m₀.messageId ≠ m.messageId := by
    intro m₀ hh₀ hne
    have hdump : m₀.modelDump = sampleRequest.modelDump :=
      List.singleton_injective (hh₀.symm.trans hh)
    have he : Json.str m₀.messageId = .str "message_1" :=
      congrArg (fun j : Json => Json.get j.asObject "messageId") hdump
    exact absurd (((Json.str.inj he).symm.trans hne).trans hid) (by decide)
  obtain ⟨t', hs', ht', -, hresult, -⟩ := hdeliver sampleReceiptCommand m
    ⟨rfl, rfl, rfl, rfl, rfl, rfl, rfl, rfl⟩ hm hfresh fun _ => (0, "7")
  exact ⟨m, t', hm, ht', hs', hresult⟩

end RecoveryOS.CustomerAgent
