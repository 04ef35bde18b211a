import RecoveryOS.CustomerAgent.Client
import RecoveryOS.CustomerAgent.Receipts
import RecoveryOS.CustomerAgent.Signing

/-!
# Polling for a mandate

`poll_and_verify_mandate` of `a2a_runtime.py`. However the operations at the agent are interleaved, a
poll finds the mandate verified exactly if the task is in its approved state, for the very scope that
is polled for and in time, and the nonce store holds this mandate already or can take it; and the same
poll finds it verified again. Every other poll leaves the nonce store as it is.
-/

namespace RecoveryOS.A2A

/-! ## What the verifier needs of the nonce store -/

/-- The claim is stored. -/
def Held (rows : List A2AMandateNonceConsumption) (c : MandateNonceClaim) : Prop :=
  ∃ row ∈ rows, row.toClaimColumns = c.columns

/-- No row has a key of the claim. -/
def Free (rows : List A2AMandateNonceConsumption) (c : MandateNonceClaim) : Prop :=
  ∀ row ∈ rows, row.collides c.columns = false

section
variable {pkgs : Packages} {v : Verifier pkgs} {rows : List A2AMandateNonceConsumption}
  {p : Presentation} {c : Checked} {claim : MandateNonceClaim}

lemma any_collides_iff : (rows.any fun row => row.collides claim.columns) = true ↔
    ¬ Free rows claim := by
  simp only [Free, List.any_eq_true, not_forall, Bool.not_eq_false, exists_prop]

lemma Held.not_free (h : Held rows claim) : ¬ Free rows claim := by
  obtain ⟨row, hrow, hcol⟩ := h
  intro hfree
  have hself := hfree row hrow
  rw [hcol] at hself
  simp [ClaimColumns.collides] at hself

lemma existingOutcome_of_held (h : Held rows claim) :
    existingOutcome rows claim = .alreadyClaimed := by
  obtain ⟨row, hrow, hcol⟩ := h
  have hself : row.collides claim.columns = true := by
    rw [hcol]
    simp [ClaimColumns.collides]
  rw [existingOutcome, if_pos]
  exact List.any_eq_true.mpr ⟨row, List.mem_filter.mpr ⟨hrow, hself⟩, decide_eq_true hcol⟩

lemma existingOutcome_of_not_held (h : ¬ Held rows claim) :
    existingOutcome rows claim = .conflict := by
  rw [existingOutcome, if_neg]
  intro hany
  obtain ⟨row, hrow, hcol⟩ := List.any_eq_true.mp hany
  exact h ⟨row, List.mem_of_mem_filter hrow, of_decide_eq_true hcol⟩

lemma consume_of_held (h : Held rows claim) (allowNew : Bool) :
    consume rows claim allowNew = (.alreadyClaimed, rows) := by
  have hinsert : insertClaim rows claim = none := if_pos (any_collides_iff.mpr h.not_free)
  simp only [consume, hinsert, ite_self, existingOutcome_of_held h]

/-- A call that passes the checks succeeds if its claim is stored, or can still be. -/
theorem verifyAndConsume_succeeds (hc : v.check p = .ok c)
    (h : Held rows (c.claim pkgs) ∨ c.expired = false ∧ Free rows (c.claim pkgs)) :
    ∃ rows', v.verifyAndConsume rows p = (.ok
        { data := c.signed.data, verifiedAt := c.observedAt
          claimId := pkgs.sha256 (canonicalJson pkgs c.signed.data) }, rows') ∧
      Held rows' (c.claim pkgs) ∧ (Held rows (c.claim pkgs) → rows' = rows) := by
  rcases h with h | ⟨hexpired, hfree⟩
  · refine ⟨rows, ?_, h, fun _ => rfl⟩
    simp only [Verifier.verifyAndConsume, hc, consume_of_held h]
    rw [conclude, if_neg (by decide), if_neg (by simp)]
  · have hinsert : insertClaim rows (c.claim pkgs) = some (rows ++ [(c.claim pkgs).row]) :=
      if_neg fun hany => any_collides_iff.mp hany hfree
    refine ⟨rows ++ [(c.claim pkgs).row], ?_, ⟨(c.claim pkgs).row, by simp, rfl⟩,
      fun hheld => absurd hfree hheld.not_free⟩
    simp only [Verifier.verifyAndConsume, hc, hexpired, consume, Bool.not_false, if_true, hinsert]
    rw [conclude, if_neg (by decide), if_neg (by simp [hexpired])]

/-- Otherwise it is rejected, and nothing is stored. -/
theorem verifyAndConsume_rejects (rows : List A2AMandateNonceConsumption) (hc : v.check p = .ok c)
    (h : ¬ (Held rows (c.claim pkgs) ∨ c.expired = false ∧ Free rows (c.claim pkgs))) :
    ∃ e, v.verifyAndConsume rows p = (.error (.rejected e), rows) := by
  obtain ⟨hheld, hfree⟩ := not_or.mp h
  have hinsert : (if (!c.expired) = true then insertClaim rows (c.claim pkgs) else none) = none := by
    cases hx : c.expired with
    | true => rfl
    | false => exact if_pos (any_collides_iff.mpr fun hf => hfree ⟨hx, hf⟩)
  simp only [Verifier.verifyAndConsume, hc, consume, hinsert, existingOutcome_of_not_held hheld]
  rw [conclude, if_pos rfl]
  split_ifs
  · exact ⟨_, rfl⟩
  · exact ⟨_, rfl⟩

end

end RecoveryOS.A2A

namespace RecoveryOS.CustomerAgent

open Resume RecoveryOS.Json
open RecoveryOS.A2A (DateTime Verifier A2AMandateNonceConsumption Held Free)
open RecoveryOS.Worker (PollA2AMandateInput A2AMandatePollResult)

/-! ## Polling -/

section
variable (rt : Worker.Runtime) (v : Verifier rt.pkgs)

/-- `_rejected`. -/
def rejectedPoll (command : PollA2AMandateInput) (taskState reasonCode : String) :
    A2AMandatePollResult where
  remoteTaskId := command.remoteTaskId
  taskState
  verificationStatus := "REJECTED"
  reasonCode := some reasonCode

def verifiedPoll (task : CustomerAgentTask) (signed : A2A.SignedMandate) (mandateId : String) :
    A2AMandatePollResult where
  remoteTaskId := task.remoteTaskId
  taskState := task.state.value
  verificationStatus := "VERIFIED"
  mandateId := some mandateId
  verifiedArtifact := some (.obj ((signed.modelDump rt.pkgs).map fun f => (f.1, f.2.json)))

/-- The scope that is expected, for the action and the invoice of a command. -/
def expectedScope (command : PollA2AMandateInput) (recoveryActionId failedInvoiceId : String) :
    A2A.ExpectedMandateScope where
  taskId := command.remoteTaskId
  merchantId := command.merchantId
  caseId := command.caseId
  customerId := command.customerId
  recoveryActionId
  failedInvoiceId
  exactAmountPaise := command.exactAmountPaise
  currency := command.currency
  paymentSurfaceType := command.paymentSurfaceType
  paymentSurfaceReference := command.paymentSurfaceReference

/-- A poll for a mandate that is valid, up to the answer of the verifier. -/
def verifyMandate (now : Instant) (command : PollA2AMandateInput) (task : CustomerAgentTask)
    (signed : A2A.SignedMandate) (scope : A2A.ExpectedMandateScope)
    (rows : List A2AMandateNonceConsumption) :
    Except ClientError A2AMandatePollResult × List A2AMandateNonceConsumption :=
  let answer := v.verifyAndConsume rows ⟨.signed signed, scope, some now⟩
  match answer.1 with
  | .ok verified => (.ok (verifiedPoll rt task signed verified.data.mandateId), answer.2)
  | .error (.rejected e) => (.ok (rejectedPoll command task.state.value e.code), answer.2)
  | .error (.valueError _) => (.error .value, answer.2)

/-- `poll_and_verify_mandate`, from what `get_task` has answered; with the nonce store. -/
def pollAndVerifyMandate (now : Instant) (command : PollA2AMandateInput)
    (task : CustomerAgentTask) (rows : List A2AMandateNonceConsumption) :
    Except ClientError A2AMandatePollResult × List A2AMandateNonceConsumption :=
  let state := task.state.value
  if task.remoteTaskId ≠ command.remoteTaskId then
    (.ok (rejectedPoll command state "A2A_TASK_ID_MISMATCH"), rows)
  else if task.state = .submitted ∨ task.state = .authRequired then
    (.ok { remoteTaskId := task.remoteTaskId, taskState := state
           verificationStatus := "PENDING" }, rows)
  else if task.state = .failed ∨ task.state = .canceled ∨ task.state = .completed then
    (.ok (rejectedPoll command state ("A2A_TASK_" ++ state)), rows)
  else
    match task.artifact with
    | none => (.ok (rejectedPoll command state "MISSING_MANDATE_ARTIFACT"), rows)
    | some artifact =>
      match command.recoveryActionId, command.failedInvoiceId with
      | some recoveryActionId, some failedInvoiceId =>
        match Worker.validateMandate rt (.obj artifact) with
        | none => (.ok (rejectedPoll command state "MALFORMED_MANDATE"), rows)
        | some signed =>
          match rt.parseInstant command.recoveryDeadline with
          | none => (.error .value, rows)
          | some deadline =>
            if deadline < signed.data.expiresAt.instant then
              (.ok (rejectedPoll command state "EXPIRES_AFTER_RECOVERY_DEADLINE"), rows)
            else
              verifyMandate rt v now command task signed
                (expectedScope command recoveryActionId failedInvoiceId) rows
      | _, _ => (.ok (rejectedPoll command state "DURABLE_ACTION_SCOPE_REQUIRED"), rows)

end

/-! ## What a poll finds -/

section
variable {agent : Packages} {rt : Worker.Runtime} (pair : Pairing agent rt.pkgs)
  {v : Verifier rt.pkgs} {t : TaskRecord}

/-- What the verifier is asked about a mandate of the agent. -/
def RecoveryMandateData.envelope (agent : Packages) (d : RecoveryMandateData) (h : d.valid = true) :
    A2A.SignedMandate where
  data := d.received h
  signature := agent.sign (d.canonicalJson agent)

/-- The client has read the task as it is stored. -/
structure Shows (task : CustomerAgentTask) (t : TaskRecord) : Prop where
  taskId : task.remoteTaskId = t.id
  state : task.state = t.state.remote
  artifact : task.artifact = shownMandate t

variable (agent) in
/-- What a poll needs to find the mandate of these data verified. -/
structure Verifiable (v : Verifier rt.pkgs) (t : TaskRecord) (d : RecoveryMandateData)
    (h : d.valid = true) (now : Instant) (command : PollA2AMandateInput)
    (rows : List A2AMandateNonceConsumption) : Prop where
  approved : t.state = .working
  mandate : t.artifacts = [signedArtifact agent d]
  taskId : command.remoteTaskId = t.id
  scope : ∃ recoveryActionId failedInvoiceId, command.recoveryActionId = some recoveryActionId ∧
    command.failedInvoiceId = some failedInvoiceId ∧
    expectedScope command recoveryActionId failedInvoiceId = d.scope
  bounded : ∃ deadline, rt.parseInstant command.recoveryDeadline = some deadline ∧
    d.expiresAt.instant ≤ deadline
  issued : d.issuedAt.instant ≤ now + v.maxClockSkew
  claimable : Held rows (A2A.nonceClaim rt.pkgs (d.received h) now) ∨
    now < d.expiresAt.instant ∧ Free rows (A2A.nonceClaim rt.pkgs (d.received h) now)

include pair

/-- The checks of a mandate that the agent has signed. -/
lemma Pairing.check_envelope {d : RecoveryMandateData} (h : d.valid = true)
    (hkey : v.keys d.signerKeyId = some pair.publicKey) (scope : A2A.ExpectedMandateScope)
    (now : Instant) :
    v.check ⟨.signed (d.envelope agent h), scope, some now⟩ =
      if now + v.maxClockSkew < d.issuedAt.instant then
        .error (.rejected ⟨"NOT_YET_VALID", "mandate issue time is in the future"⟩)
      else if A2A.scopeMismatches (d.received h) scope ≠ [] then
        .error (.rejected ⟨"SCOPE_MISMATCH", "mandate does not match expected "
          ++ ", ".intercalate (A2A.scopeMismatches (d.received h) scope)⟩)
      else
        .ok { signed := d.envelope agent h, observedAt := now
              expired := Decidable.decide (d.expiresAt.instant ≤ now) } := by
  have hparse : (A2A.Envelope.signed (d.envelope agent h)).parse rt.pkgs =
      some (d.envelope agent h) := rfl
  have hdecode : rt.pkgs.decode (d.envelope agent h).signature =
      some (pair.privateSign (d.canonicalJson agent)) := by
    show rt.pkgs.decode (agent.sign (d.canonicalJson agent)) = _
    rw [pair.decode_eq, pair.sign_eq]
    exact b64urlDecode_b64urlEncode _
  have hverify : rt.pkgs.verify pair.publicKey (pair.privateSign (d.canonicalJson agent))
      (A2A.canonicalJson rt.pkgs (d.envelope agent h).data) = true := by
    show rt.pkgs.verify _ _ (A2A.canonicalJson rt.pkgs (d.received h)) = true
    rw [pair.canonicalJson_received]
    exact pair.verify_sign _
  have hkey' : v.keys (d.envelope agent h).data.signerKeyId = some pair.publicKey := hkey
  simp only [Verifier.check, hparse, hkey', hdecode, hverify, Bool.true_eq_false, if_false]
  rfl

/-- The artifact that the client reads is the mandate. -/
lemma Pairing.validate_shown {d : RecoveryMandateData} (h : d.valid = true)
    (ha : t.artifacts = [signedArtifact agent d]) :
    ∃ artifact, shownMandate t = some artifact ∧
      Worker.validateMandate rt (.obj artifact) = some (d.envelope agent h) := by
  have hdump : ((d.envelope agent h).modelDump rt.pkgs).map (fun f => (f.1, f.2.json)) =
      ((⟨d, agent.sign (d.canonicalJson agent)⟩ : SignedMandate).parts agent).map
        fun f => (f.1, f.2.json) := by
    have hdata : (d.envelope agent h).data.modelDump rt.pkgs = d.modelDump agent :=
      pair.modelDump_received d h
    rw [A2A.SignedMandate.modelDump, hdata]
    rfl
  refine ⟨((d.envelope agent h).modelDump rt.pkgs).map fun f => (f.1, f.2.json), ?_, ?_⟩
  · rw [hdump, shownMandate, ha]
    rfl
  · exact pair.modelValidate _ _
      (A2A.SignedMandate.validate_modelDump pair.api_parseTime (d.envelope agent h))

/-- An artifact shows all the data of its mandate. -/
lemma Pairing.signedArtifact_injective : Function.Injective (signedArtifact agent) := by
  have htime : Function.Injective agent.jsonTime := by
    intro time time' h
    have hread := congrArg pair.parseTime h
    rw [pair.parseTime_jsonTime, pair.parseTime_jsonTime] at hread
    exact Option.some.inj hread
  rintro ⟨mandateId, nonce, signerKeyId, taskId, merchantId, caseId, customerId, actionId,
    invoiceId, amount, currency, surfaceType, surfaceReference, issuedAt, expiresAt⟩
    ⟨mandateId', nonce', signerKeyId', taskId', merchantId', caseId', customerId', actionId',
    invoiceId', amount', currency', surfaceType', surfaceReference', issuedAt', expiresAt'⟩ h
  simp [signedArtifact, mandateArtifact, SignedMandate.modelDump, object,
    RecoveryMandateData.modelDump, Scalar.json, htime.eq_iff] at h
  simp only [RecoveryMandateData.mk.injEq]
  tauto

/-- A poll for a mandate that was shown, up to the verifier's answer. -/
lemma Pairing.poll_shown (v : Verifier rt.pkgs) {d : RecoveryMandateData} (h : d.valid = true)
    {command : PollA2AMandateInput} {task : CustomerAgentTask} {recoveryActionId failedInvoiceId : String}
    {deadline : Instant} (hs : t.state = .working) (ha : t.artifacts = [signedArtifact agent d])
    (htask : Shows task t) (hid : command.remoteTaskId = t.id)
    (haction : command.recoveryActionId = some recoveryActionId)
    (hinvoice : command.failedInvoiceId = some failedInvoiceId)
    (hdeadline : rt.parseInstant command.recoveryDeadline = some deadline)
    (hbounded : d.expiresAt.instant ≤ deadline) (now : Instant)
    (rows : List A2AMandateNonceConsumption) :
    pollAndVerifyMandate rt v now command task rows =
      verifyMandate rt v now command task (d.envelope agent h)
        (expectedScope command recoveryActionId failedInvoiceId) rows := by
  obtain ⟨artifact, hshown, hvalid⟩ := pair.validate_shown h ha
  have hworking : task.state = .working := by
    rw [htask.state, hs]
    rfl
  rw [pollAndVerifyMandate, if_neg (not_not.mpr (htask.taskId.trans hid.symm)),
    if_neg (by simp [hworking]), if_neg (by simp [hworking]), htask.artifact, hshown, haction,
    hinvoice]
  simp only [hvalid, hdeadline]
  exact if_neg (not_lt.mpr hbounded)

/-- The verifier's answer in the scope of the data, as the poll reports it. -/
lemma Pairing.verifyMandate_verified {d : RecoveryMandateData} (h : d.valid = true)
    (hkey : v.keys d.signerKeyId = some pair.publicKey) {now : Instant}
    (command : PollA2AMandateInput) (task : CustomerAgentTask)
    {rows : List A2AMandateNonceConsumption} (hissued : d.issuedAt.instant ≤ now + v.maxClockSkew)
    (hclaim : Held rows (A2A.nonceClaim rt.pkgs (d.received h) now) ∨
      now < d.expiresAt.instant ∧ Free rows (A2A.nonceClaim rt.pkgs (d.received h) now)) :
    ∃ rows', verifyMandate rt v now command task (d.envelope agent h) d.scope rows =
        (.ok (verifiedPoll rt task (d.envelope agent h) d.mandateId), rows') ∧
      Held rows' (A2A.nonceClaim rt.pkgs (d.received h) now) ∧
      (Held rows (A2A.nonceClaim rt.pkgs (d.received h) now) → rows' = rows) := by
  have hcheck := pair.check_envelope h hkey d.scope now
  have hscope : A2A.scopeMismatches (d.received h) d.scope = [] :=
    A2A.scopeMismatches_eq_nil.mpr rfl
  rw [if_neg (not_lt.mpr hissued), if_neg (not_not.mpr hscope)] at hcheck
  obtain ⟨rows', hv, hheld, hsame⟩ := A2A.verifyAndConsume_succeeds hcheck
    (hclaim.imp_right fun hfree => ⟨decide_eq_false (not_le.mpr hfree.1), hfree.2⟩)
  refine ⟨rows', ?_, hheld, hsame⟩
  rw [verifyMandate, hv]
  rfl

lemma Pairing.verifyMandate_rejected {d : RecoveryMandateData} (h : d.valid = true)
    (hkey : v.keys d.signerKeyId = some pair.publicKey) {now : Instant}
    (command : PollA2AMandateInput) (task : CustomerAgentTask)
    {rows : List A2AMandateNonceConsumption} {scope : A2A.ExpectedMandateScope}
    (hnot : ¬ (scope = d.scope ∧ d.issuedAt.instant ≤ now + v.maxClockSkew ∧
      (Held rows (A2A.nonceClaim rt.pkgs (d.received h) now) ∨
        now < d.expiresAt.instant ∧ Free rows (A2A.nonceClaim rt.pkgs (d.received h) now)))) :
    ∃ code, verifyMandate rt v now command task (d.envelope agent h) scope rows =
      (.ok (rejectedPoll command task.state.value code), rows) := by
  have hcheck := pair.check_envelope h hkey scope now
  split_ifs at hcheck with hissued hscope
  · refine ⟨"NOT_YET_VALID", ?_⟩
    rw [verifyMandate, Verifier.verifyAndConsume, hcheck]
  · refine ⟨"SCOPE_MISMATCH", ?_⟩
    rw [verifyMandate, Verifier.verifyAndConsume, hcheck]
  · have hs : d.scope = scope := A2A.scopeMismatches_eq_nil.mp (not_not.mp hscope)
    obtain ⟨e, he⟩ := A2A.verifyAndConsume_rejects rows hcheck fun hclaim => hnot
      ⟨hs.symm, not_lt.mp hissued, hclaim.imp_right fun hfree =>
        ⟨not_le.mp (of_decide_eq_false hfree.1), hfree.2⟩⟩
    exact ⟨e.code, by rw [verifyMandate, he]⟩

end

/-- A result that hands on no mandate. -/
def Unverified (result : A2AMandatePollResult) : Prop :=
  result.verificationStatus ≠ "VERIFIED" ∧ result.mandateId = none ∧ result.verifiedArtifact = none

lemma unverified_rejectedPoll (command : PollA2AMandateInput) (taskState code : String) :
    Unverified (rejectedPoll command taskState code) := by
  refine ⟨?_, rfl, rfl⟩
  show "REJECTED" ≠ "VERIFIED"
  decide

section
variable {agent : Packages} {rt : Worker.Runtime} (pair : Pairing agent rt.pkgs)
  {v : Verifier rt.pkgs} {t : TaskRecord} {task : CustomerAgentTask} {now : Instant}
  {command : PollA2AMandateInput} {rows : List A2AMandateNonceConsumption}
include pair

lemma Pairing.poll_verified (hp : Presented agent t) (htask : Shows task t)
    (hkey : v.keys agent.signerKeyId = some pair.publicKey) {d : RecoveryMandateData}
    (h : d.valid = true) (hd : Verifiable agent v t d h now command rows) :
    ∃ rows', pollAndVerifyMandate rt v now command task rows =
        (.ok (verifiedPoll rt task (d.envelope agent h) d.mandateId), rows') ∧
      Held rows' (A2A.nonceClaim rt.pkgs (d.received h) now) ∧
      ∀ later, d.issuedAt.instant ≤ later + v.maxClockSkew →
        pollAndVerifyMandate rt v later command task rows' =
          (.ok (verifiedPoll rt task (d.envelope agent h) d.mandateId), rows') := by
  obtain ⟨recoveryActionId, failedInvoiceId, haction, hinvoice, hscope⟩ := hd.scope
  obtain ⟨deadline, hdeadline, hbounded⟩ := hd.bounded
  obtain ⟨d', ha, hm, -⟩ := hp.mandate hd.approved
  obtain rfl : d = d' :=
    pair.signedArtifact_injective (List.singleton_injective (hd.mandate.symm.trans ha))
  have hpoll := pair.poll_shown v h hd.approved ha htask hd.taskId haction hinvoice hdeadline
    hbounded
  obtain ⟨rows', hfirst, hheld, -⟩ := pair.verifyMandate_verified h (hm.signer ▸ hkey) command task
    hd.issued hd.claimable
  refine ⟨rows', by rw [hpoll, hscope, hfirst], hheld, fun later hissued => ?_⟩
  obtain ⟨rows'', hsecond, -, hsame⟩ := pair.verifyMandate_verified h (hm.signer ▸ hkey) command
    task hissued (.inl hheld)
  rw [hpoll, hscope, hsecond, hsame hheld]

lemma Pairing.poll_unverified (hp : Presented agent t) (htask : Shows task t)
    (hkey : v.keys agent.signerKeyId = some pair.publicKey)
    (hnone : ∀ d (h : d.valid = true), ¬ Verifiable agent v t d h now command rows) :
    (pollAndVerifyMandate rt v now command task rows).2 = rows ∧
      ∀ result, (pollAndVerifyMandate rt v now command task rows).1 = .ok result →
        Unverified result := by
  have hrejected : ∀ code result,
      (.ok (rejectedPoll command task.state.value code) : Except ClientError A2AMandatePollResult) =
        .ok result → Unverified result := by
    rintro code result he
    exact Except.ok.inj he ▸ unverified_rejectedPoll command _ code
  unfold pollAndVerifyMandate
  dsimp only
  split_ifs with hid hpending hover
  · exact ⟨rfl, hrejected _⟩
  · refine ⟨rfl, ?_⟩
    rintro _ ⟨⟩
    exact ⟨by simp, rfl, rfl⟩
  · exact ⟨rfl, hrejected _⟩
  · have hs : t.state = .working := by
      rw [htask.state] at hpending hover
      cases hst : t.state <;> simp [hst, TaskState.remote] at hpending hover ⊢
    obtain ⟨d, ha, hm, h⟩ := hp.mandate hs
    obtain ⟨artifact, hshown, hvalid⟩ := pair.validate_shown h ha
    rw [htask.artifact, hshown]
    cases haction : command.recoveryActionId with
    | none => exact ⟨rfl, hrejected _⟩
    | some recoveryActionId =>
    cases hinvoice : command.failedInvoiceId with
    | none => exact ⟨rfl, hrejected _⟩
    | some failedInvoiceId =>
    simp only [hvalid]
    cases hdeadline : rt.parseInstant command.recoveryDeadline with
    | none => exact ⟨rfl, by rintro _ ⟨⟩⟩
    | some deadline =>
    dsimp only
    split_ifs with hbounded
    · exact ⟨rfl, hrejected _⟩
    · have hnot : ¬ (expectedScope command recoveryActionId failedInvoiceId = d.scope ∧
          d.issuedAt.instant ≤ now + v.maxClockSkew ∧
          (Held rows (A2A.nonceClaim rt.pkgs (d.received h) now) ∨ now < d.expiresAt.instant ∧
            Free rows (A2A.nonceClaim rt.pkgs (d.received h) now))) := fun hall =>
        hnone d h
          { approved := hs, mandate := ha, taskId := (not_not.mp hid).symm.trans htask.taskId
            scope := ⟨_, _, haction, hinvoice, hall.1⟩
            bounded := ⟨deadline, hdeadline, not_lt.mp hbounded⟩
            issued := hall.2.1, claimable := hall.2.2 }
      obtain ⟨code, he⟩ := pair.verifyMandate_rejected h (hm.signer ▸ hkey) command task hnot
      rw [he]
      exact ⟨rfl, hrejected _⟩

end

section
variable {agent : Packages} {rt : Worker.Runtime} (pair : Pairing agent rt.pkgs)
  {v : Verifier rt.pkgs} {t : TaskRecord} {reading : Reading}

/-- In every state that the agent reaches, whatever is asked of it by any number of clients: a poll
for a stored task finds it verified exactly if the task is in its approved state, its mandate is for
the task and the scope that are polled for, does not outlast the recovery deadline and is not issued
too far ahead, and the nonce store holds it or can take it before it expires. The mandate is then held,
and a poll that reads the same task again finds the same, and changes nothing. Every other poll leaves
the nonce store as it is and hands on no mandate. -/
theorem poll_verdict (hp : agent.sameDict = same) (hr : reading.Reads agent) {mandateTtl : ℤ}
    {S : Agent} (hS : Relation.ReflTransGen (Agent.Step agent mandateTtl) ⟨{}, []⟩ S) {id : String}
    (ht : S.shared.tasks id = some t) (hkey : v.keys agent.signerKeyId = some pair.publicKey)
    (quote : String → String) (clock : DateTime) (now : Instant) (command : PollA2AMandateInput)
    (rows : List A2AMandateNonceConsumption) :
    ∃ task, mapTask reading clock (publicTask agent quote t) = .ok task ∧
      (∀ d (h : d.valid = true), Verifiable agent v t d h now command rows →
        ∃ rows', pollAndVerifyMandate rt v now command task rows =
            (.ok (verifiedPoll rt task (d.envelope agent h) d.mandateId), rows') ∧
          Held rows' (A2A.nonceClaim rt.pkgs (d.received h) now) ∧
          ∀ later, d.issuedAt.instant ≤ later + v.maxClockSkew →
            pollAndVerifyMandate rt v later command task rows' =
              (.ok (verifiedPoll rt task (d.envelope agent h) d.mandateId), rows')) ∧
      ((∀ d (h : d.valid = true), ¬ Verifiable agent v t d h now command rows) →
        (pollAndVerifyMandate rt v now command task rows).2 = rows ∧
        ∀ result, (pollAndVerifyMandate rt v now command task rows).1 = .ok result →
          Unverified result) := by
  obtain ⟨hsound, -⟩ := (history_discipline hp mandateTtl).run
    (.nil ⟨⟨fun h => (by cases h), fun h => (by cases h)⟩, fun id t h => (by cases h)⟩) hS
  have hw : WellFormed agent t := (hsound.inv.1.task ht).2
  have hpres : Presented agent t := (hsound.inv.2 id t ht).presented
  obtain ⟨updatedAt, hmap⟩ := mapTask_publicTask hr hw hpres quote clock
  exact ⟨_, hmap, fun d h hd => pair.poll_verified hpres ⟨rfl, rfl, rfl⟩ hkey h hd,
    pair.poll_unverified hpres ⟨rfl, rfl, rfl⟩ hkey⟩

end

/-! ## A mandate that is approved and polled for -/

section
open RecoveryOS.A2A (sampleIsoformat sampleKey)

/-- The agent of `pairedAgent`, which is asked for the scope of `approvedData`. -/
def polledAgent : Packages :=
  withEquality { pairedAgent with
    validateRequest := fun _ => some
      { idempotencyKey := "key_1", caseId := "case_1", merchantId := "merchant_1",
        customerId := "customer_1", recoveryActionId := "action_1", failedInvoiceId := "inv_1",
        exactAmountPaise := 49900, currency := "INR",
        paymentSurfaceType := "SUBSCRIPTION_INVOICE_LINK", paymentSurfaceReference := "inv_1",
        expiresAt := ⟨10000000, 0⟩
        context :=
          { merchantDisplayName := "Shop", planName := "Plan", failureExplanation := "Declined",
            invoiceState := "OPEN", paymentState := "FAILED", subscriptionState := "PENDING",
            providerSubscriptionState := "pending", preferredLanguage := "en", invoiceDueAt := none,
            recoveryDeadline := ⟨10000000, 0⟩ } } }

def pollingRuntime : Worker.Runtime :=
  { pairedRuntime with
    parseInstant := fun text => if text = "1970-01-01T00:00:10Z" then some 10000000 else none }

lemma pollingRuntime_isoformat : pollingRuntime.pkgs.isoformat = sampleIsoformat := rfl

lemma pollingRuntime_modelValidate : ∀ fields m,
    A2A.SignedMandate.validate sampleParseTime fields = some m →
      pollingRuntime.pkgs.modelValidate fields = some m :=
  fun _ _ h => h

lemma polledAgent_sign : ∀ text, polledAgent.sign text = b64urlEncode (samplePrivateSign text) :=
  fun _ => rfl

lemma pollingRuntime_decode : pollingRuntime.pkgs.decode = b64urlDecode := rfl

lemma pollingRuntime_verify : ∀ text,
    pollingRuntime.pkgs.verify sampleKey (samplePrivateSign text) text = true :=
  fun _ => decide_eq_true ⟨rfl, rfl⟩

def polledPairing : Pairing polledAgent pollingRuntime.pkgs where
  parseTime := sampleParseTime
  parseTime_jsonTime := sampleParseTime_sampleIsoformat
  jsonTime_plain := sampleIsoformat_plain
  isoformat_eq := pollingRuntime_isoformat
  modelValidate := pollingRuntime_modelValidate
  privateSign := samplePrivateSign
  publicKey := sampleKey
  sign_eq := polledAgent_sign
  decode_eq := pollingRuntime_decode
  verify_sign := pollingRuntime_verify

def sampleReading : Reading where
  repr _ := ""
  parseTime := sampleParseTime

lemma sampleReading_reads {agent : Packages} (h : agent.isoformat = sampleIsoformat) :
    sampleReading.Reads agent := by
  refine ⟨fun time => ⟨time, ?_⟩, fun time he => ?_⟩
  · rw [h]
    exact sampleParseTime_sampleIsoformat time
  · rw [h] at he
    have htime : some time = some ⟨0, 0⟩ := by
      rw [← sampleParseTime_sampleIsoformat time]
      exact congrArg sampleParseTime he
    obtain rfl := Option.some.inj htime
    exact absurd he (by decide)

/-- The customer was asked, and has approved. -/
def grantedAgent (pkgs : Packages) : Agent :=
  let asked := Agent.play pkgs ⟨{}, [(sendMessage pkgs sampleRequest none, [])]⟩
    [(0, ""), (0, "1"), (0, "2"), (0, "")]
  Agent.play pkgs
    ⟨asked.shared, asked.clients ++ [(decide pkgs 10000000 "task_1"
      { decision := .approve, merchantId := "merchant_1", caseId := "case_1",
        exactAmountPaise := 49900, paymentSurfaceReference := "inv_1" } none none, [])]⟩
    [(0, ""), (0, ""), (0, "1"), (0, "nonce_1"), (0, "5"), (0, "")]

lemma grantedAgent_steps (pkgs : Packages) :
    Relation.ReflTransGen (Agent.Step pkgs 10000000) ⟨{}, []⟩ (grantedAgent pkgs) :=
  .trans (.single (.start (.sendMessage sampleRequest)))
    (.trans (Agent.play_steps pkgs 10000000 _ _)
      (.trans (.single (.start (.decide _ _ _))) (Agent.play_steps pkgs 10000000 _ _)))

lemma grantedAgent_task : ((grantedAgent polledAgent).shared.tasks "task_1").map
    (fun t => (t.state, t.artifacts, t.id)) =
      some (.working, [signedArtifact polledAgent approvedData], "task_1") := by
  rfl

def samplePoll : PollA2AMandateInput where
  remoteTaskId := "task_1"
  caseId := "case_1"
  merchantId := "merchant_1"
  customerId := "customer_1"
  exactAmountPaise := 49900
  currency := "INR"
  paymentSurfaceType := "SUBSCRIPTION_INVOICE_LINK"
  paymentSurfaceReference := "inv_1"
  recoveryDeadline := "1970-01-01T00:00:10Z"
  recoveryActionId := some "action_1"
  failedInvoiceId := some "inv_1"

/-- The mandate is verified when it is first polled for, and again after it has expired. -/
theorem poll_verdict_sample :
    ∃ t task rows, (grantedAgent polledAgent).shared.tasks "task_1" = some t ∧
      mapTask sampleReading ⟨0, 0⟩ (publicTask polledAgent id t) = .ok task ∧
      pollAndVerifyMandate pollingRuntime pairedVerifier 5 samplePoll task [] =
        (.ok (verifiedPoll pollingRuntime task
          (approvedData.envelope polledAgent approvedData_valid) "mandate_1"), rows) ∧
      pollAndVerifyMandate pollingRuntime pairedVerifier 20000000 samplePoll task rows =
        (.ok (verifiedPoll pollingRuntime task
          (approvedData.envelope polledAgent approvedData_valid) "mandate_1"), rows) := by
  obtain ⟨t, ht, he⟩ := Option.map_eq_some_iff.mp grantedAgent_task
  obtain ⟨hs, ha, hid⟩ : t.state = .working ∧ t.artifacts = [signedArtifact polledAgent approvedData]
      ∧ t.id = "task_1" := by simpa using he
  obtain ⟨task, hmap, hverified, -⟩ := poll_verdict polledPairing (v := pairedVerifier) rfl
    (sampleReading_reads rfl) (grantedAgent_steps _) ht rfl id ⟨0, 0⟩ 5 samplePoll []
  obtain ⟨rows, hfirst, -, hlater⟩ := hverified approvedData approvedData_valid
    { approved := hs, mandate := ha, taskId := hid.symm
      scope := ⟨_, _, rfl, rfl, rfl⟩
      bounded := ⟨10000000, rfl, by decide⟩
      issued := by decide
      claimable := .inr ⟨by decide, fun row hrow => by cases hrow⟩ }
  exact ⟨t, task, rows, ht, hmap, hfirst, hlater 20000000 (by decide)⟩

end

end RecoveryOS.CustomerAgent
