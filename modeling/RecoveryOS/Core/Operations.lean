import RecoveryOS.Cases.Service
import RecoveryOS.Core.Rows
import RecoveryOS.Voice.Service

/-!
# The effects of the other operations

The operator's commands, the voice callbacks and the worker's activities evolve the database, an
approval and a delayed recommendation apart; those two are described by what they write
(`commitApproval_spec`, `persistRecommendation_spec`).
-/

namespace RecoveryOS.Core

open Store

variable {db₀ : Database}

/-! ## The operator's commands -/

section
open Cases

variable {merchantId caseId : String} {W : Scope}

lemma addEvent_evolves {e : RecoveryEventRecord} :
    Tx.Ensures (EvolvesOf W db₀) (addEvent e) fun _ => EvolvesOf W db₀ := by
  refine .modify fun db h => ?_
  cases he : db.insertEvent e with
  | none => exact h
  | some db' => exact h.effect (.event e he)

lemma getCaseAggregate_readOnly : Tx.ReadOnly (getCaseAggregate merchantId caseId) := by
  rw [Tx.readOnly_iff]
  intro db
  refine .query_bind fun _ => .expect_bind fun _ _ => .query_bind fun _ => .expect_bind fun _ _ =>
    .query_bind fun _ => .expect_bind fun _ _ => .query_bind fun _ => .query_bind fun _ => .pure ?_
  exact fun _ h => h.1.1.1.1.1

lemma decisionPoint_readOnly {service : Service} {request : RecommendRequest} {c : RecoveryCase} :
    Tx.ReadOnly (decisionPoint service request c) := by
  rw [Tx.readOnly_iff]
  intro db
  refine .query_bind fun _ => .expect_bind fun _ _ => .query_bind fun _ => .expect_bind fun _ _ =>
    .call_bind fun _ _ => ?_
  split_ifs
  · exact .pure fun _ h => h.1.1
  · exact .throw

lemma rejectAction_evolves {actionId : String} {held : Option RecoveryActionRecord}
    {rejectedAt : Instant} :
    Tx.Ensures (EvolvesOf W db₀) (rejectAction merchantId caseId actionId held rejectedAt)
      fun _ => EvolvesOf W db₀ := by
  refine .bind (getCaseAggregate_readOnly.ensures fun _ h _ => h) fun _ =>
    .query_bind fun found => .expect_bind fun row hfound => ?_
  dsimp only
  split_ifs
  · exact .pure fun _ h => h.1
  · refine .require_bind fun _ => .bind (Q := fun _ => EvolvesOf W db₀) (.modify ?_) fun _ =>
      .bind addEvent_evolves fun _ => .pure fun _ h => h
    rintro db ⟨h, hf⟩
    rw [hfound] at hf
    exact h.effect (.moved (List.mem_of_find?_eq_some hf)
      ⟨rfl, rfl, rfl, rfl, rfl, .inr (.inl rfl)⟩)

lemma stopCase_evolves (hw : W.contact) {stoppedAt : Instant} :
    Tx.Ensures (EvolvesOf W db₀) (stopCase merchantId caseId stoppedAt) fun _ => EvolvesOf W db₀ := by
  refine .query_bind fun found => .expect_bind fun c hfound => ?_
  split_ifs
  · exact .pure fun _ h => h.1
  · refine .require_bind fun hopen => .bind (Q := fun _ => EvolvesOf W db₀) (.modify ?_) fun _ =>
      .bind addEvent_evolves fun _ => .pure fun _ h => h
    rintro db ⟨h, hf⟩
    rw [hfound] at hf
    exact h.effect (.closed stoppedAt (List.mem_of_find?_eq_some hf)
      ⟨⟨rfl, rfl, rfl, rfl, rfl, rfl, rfl, rfl, by simp, id⟩, of_decide_eq_true hopen, rfl, rfl, rfl,
        by simp, .inl rfl⟩ hw)

lemma escalateCase_evolves (hw : W.contact) {reason actionId policyId : String}
    {escalatedAt utcNow : Instant} :
    Tx.Ensures (EvolvesOf W db₀)
      (escalateCase merchantId caseId reason actionId policyId escalatedAt utcNow)
      fun _ => EvolvesOf W db₀ := by
  refine .query_bind fun found => .expect_bind fun c hfound => ?_
  split_ifs
  · exact .pure fun _ h => h.1
  · refine .require_bind fun hopen => .bind (Q := fun _ db => EvolvesOf W db₀ db ∧ c ∈ db.cases)
      (.attempt ?_) fun _ => .bind (Q := fun _ => EvolvesOf W db₀) (.modify ?_) fun _ =>
      .bind addEvent_evolves fun _ => .pure fun _ h => h
    · rintro db ⟨h, hf⟩ db' hdb'
      rw [hfound] at hf
      have hcontrol : ¬ Safety.isContact .escalateToHuman = true := by decide
      refine ⟨h.effect (.added hdb' ⟨rfl, fun hc => absurd hc hcontrol,
        fun hc => absurd hc hcontrol⟩), ?_⟩
      rw [(insertActionWithPolicy_tables hdb').2.2.2]
      exact List.mem_of_find?_eq_some hf
    · rintro db ⟨h, hc⟩
      exact h.effect (.closed escalatedAt hc
        ⟨⟨rfl, rfl, rfl, rfl, rfl, rfl, rfl, rfl, by simp, id⟩, of_decide_eq_true hopen, rfl, rfl, rfl,
        by simp, .inl rfl⟩ hw)

/-- A disposition that closes a case suppresses contacts. -/
lemma suppresses_of_terminalOutcome {d : ContactDisposition} {o : CaseOutcome}
    (h : terminalOutcome d = some o) : (Safety.suppressionReason d).isSome = true := by
  cases d <;> first | rfl | cases h

lemma ne_recovered_of_terminalOutcome {d : ContactDisposition} {o : CaseOutcome}
    (h : terminalOutcome d = some o) : o ≠ .recovered := by
  rintro rfl
  cases d <;> cases h

lemma noteOptOut_evolves {c : RecoveryCase} {disposition : ContactDisposition} {t : Instant}
    {rows : List RecoveryCase} :
    Tx.Ensures (fun db => EvolvesOf W db₀ db ∧ db.cases = rows) (noteOptOut c disposition t)
      fun _ db => EvolvesOf W db₀ db ∧ db.cases = rows := by
  unfold noteOptOut
  split_ifs
  · refine .query_bind fun _ => .expect_bind fun _ _ => .modify ?_
    rintro db ⟨⟨h, rfl⟩, -⟩
    exact ⟨h.other ⟨rfl, rfl, rfl, rfl, rfl, rfl, rfl, rfl, Table.map_key_put, rfl⟩, rfl⟩
  · exact .pure fun _ h => h

lemma recordSafetyDisposition_evolves (hw : W.contact) {disposition : ContactDisposition}
    {recordedAt : Instant} :
    Tx.Ensures (EvolvesOf W db₀) (recordSafetyDisposition merchantId caseId disposition recordedAt)
      fun _ => EvolvesOf W db₀ := by
  refine .expect_bind fun target htarget => .query_bind fun found => .expect_bind fun c hfound => ?_
  split_ifs with hopen
  · exact .require_bind fun _ => .pure fun _ h => h.1
  · intro db ⟨h, hf⟩
    rw [hfound] at hf
    have hmem := List.mem_of_find?_eq_some hf
    refine Tx.Ensures.bind (R := fun _ => EvolvesOf W db₀) noteOptOut_evolves
      (fun _ => .bind (Q := fun _ => EvolvesOf W db₀) (.modify ?_) fun _ =>
        .bind addEvent_evolves fun _ => .pure fun _ h => h) db ⟨h, rfl⟩
    rintro t ⟨ht, hcases⟩
    rw [← hcases] at hmem
    refine ht.effect (.closed recordedAt hmem ⟨⟨rfl, rfl, rfl, rfl, rfl, rfl, rfl, rfl, by simp, id⟩,
      not_not.mp hopen, rfl, rfl, rfl, ?_, .inr (suppresses_of_terminalOutcome htarget)⟩ hw)
    exact ne_recovered_of_terminalOutcome htarget

/-! ### The mock provider -/

lemma addInvoiceCollection_spec {invoiceId : String} {amount : ℤ} {db : Database} :
    Tx.Ensures (· = db) (addInvoiceCollection invoiceId amount) fun _ t => ∃ i i',
      i ∈ db.invoices ∧ i.id = invoiceId ∧ t = db.putInvoice i' ∧ i'.id = i.id ∧
      i'.merchantId = i.merchantId ∧ i'.providerInvoiceId = i.providerInvoiceId ∧
      i'.amountPaise = i.amountPaise ∧
      i'.amountPaidPaise = min i.amountPaise (i.amountPaidPaise + amount) := by
  refine .query_bind fun found => .expect_bind fun i hfound => .modify ?_
  rintro t ⟨rfl, hf⟩
  rw [hfound] at hf
  have hid : i.id = invoiceId := by simpa using List.find?_some hf
  refine ⟨i, _, List.mem_of_find?_eq_some hf, hid, rfl, ?_⟩
  exact ⟨rfl, rfl, rfl, rfl, rfl⟩

/-- The case of a mock success is captured by its amount. -/
lemma mockPaid_captured {request : MockSuccess} {c : RecoveryCase} {amount : ℤ} :
    CapturedCase c (mockPaid request c amount) amount :=
  { id := rfl
    merchantId := rfl
    customerId := rfl
    subscriptionId := rfl
    failedInvoiceId := rfl
    atRisk := rfl
    openedAt := rfl
    recoveryDeadline := rfl
    version := by simp [mockPaid]
    attributed := fun _ => by simp [mockPaid]
    disposition := rfl
    collected := rfl
    recovered := decide_eq_true_iff
    outcome := fun h => if_pos h
    outcomeOnly := fun h ho => by
      simp only [mockPaid] at h ho
      rw [if_neg (by rw [h]; simp)] at ho
      cases ho
    openOnly := fun ho => by
      simp only [mockPaid] at ho
      split_ifs at ho
    captured := rfl
    attribution := fun _ => by simp [mockPaid] }

lemma insertRecognition_putInvoice {r : RevenueRecognitionRecord} {i : Invoice} {db : Database} :
    (db.putInvoice i).insertRecognition r = (db.insertRecognition r).map (·.putInvoice i) := by
  unfold Database.insertRecognition Database.putInvoice
  rw [Option.map_map]
  rfl

/-- The database accepts a recognition that stands for nothing yet. -/
lemma insertRecognition_isSome {r : RevenueRecognitionRecord} {db : Database}
    (hamount : 0 < r.amountPaise) (hattribution : r.attribution ≠ .none)
    (hcase : ∃ c ∈ db.cases, c.id = r.caseId)
    (hpayment : ∀ id, r.paymentAttemptId = some id → ∃ p ∈ db.payments, p.id = id)
    (hnew : ∀ s ∈ db.recognitions, s.merchantId = r.merchantId → s.provider = r.provider →
      s.providerEventId ≠ r.providerEventId) : ∃ db', db.insertRecognition r = some db' := by
  unfold Database.insertRecognition Table.insert
  rw [if_pos]
  · exact ⟨_, rfl⟩
  · simp only [Bool.and_eq_true, decide_eq_true_eq, List.any_eq_true, List.all_eq_true,
      Bool.not_eq_true', Bool.and_eq_false_iff, decide_eq_false_iff_not]
    refine ⟨⟨⟨⟨hamount, hattribution⟩, ?_⟩, ?_⟩, fun s hs => ?_⟩
    · obtain ⟨c, hc, hid⟩ := hcase
      exact ⟨c, hc, hid⟩
    · cases hp : r.paymentAttemptId with
      | none => rfl
      | some id =>
        obtain ⟨p, hpm, hid⟩ := hpayment id hp
        simpa [List.any_eq_true] using ⟨p, hpm, hid⟩
    · have := hnew s hs
      tauto

/-- Closing after a settlement is closing. -/
lemma closeCase_eq_swept {c : RecoveryCase} {t : Instant} {db : Database} :
    EvolvesOf W (db.settle c t) (db.closeCase c t) := by
  unfold Database.settle
  split_ifs
  · exact .refl _
  · show EvolvesOf W (db.putCase c) _
    refine EffectOf.evolves (.swept _ fun a _ => ?_)
    split_ifs
    · exact .cancelled a t
    · exact .refl a

/-- A mock success is a payment that is recognized at once. -/
theorem applyMockPaymentSuccess_evolves {sha256 : String → String} {request : MockSuccess}
    {db : Database} (hk : ∀ r ∈ db.recognitions, ∀ id, r.paymentAttemptId = some id →
      ∃ p ∈ db.payments, p.id = id) :
    Tx.Ensures (· = db) (applyMockPaymentSuccess sha256 request) fun _ => EvolvesOf W db := by
  refine .query_bind fun found => .expect_bind fun c hfound => .query_bind fun existing => ?_
  cases existing with
  | some r =>
    refine .pure ?_
    rintro t ⟨⟨rfl, -⟩, -⟩
    exact .refl t
  | none =>
    dsimp only
    refine .require_bind fun _ => .require_bind fun hamount => .expect_bind fun invoiceId hinvoice => ?_
    simp only [Bool.and_eq_true, decide_eq_true_eq] at hamount
    set amount := request.amountPaise.getD (c.amountAtRiskPaise - c.arrearsCollectedPaise)
    set payment := mockAttempt sha256 request c invoiceId amount
    rintro t ⟨⟨rfl, hf⟩, hnone⟩
    have hc : c ∈ t.cases ∧ c.id = request.caseId ∧ c.merchantId = request.merchantId := by
      rw [hfound] at hf
      have hsome := List.find?_some hf
      simp only [decide_eq_true_eq] at hsome
      exact ⟨List.mem_of_find?_eq_some hf, hsome⟩
    have hnew : ∀ s ∈ t.recognitions, s.merchantId = request.merchantId → s.provider = "mock" →
        s.providerEventId ≠ request.providerEventId := by
      intro s hs hm hp he
      have := List.find?_eq_none.mp hnone s hs
      simp [hm, hp, he] at this
    refine Tx.Ensures.bind (P := (· = t)) (Q := fun _ t₁ => t.insertPayment payment = some t₁)
      (.attempt ?_) (fun _ => ?_) t rfl
    · rintro _ rfl t₁ ht₁
      exact ht₁
    intro t₁ ht₁
    have hev : EvolvesOf W t t₁ := (EffectOf.payment _ ht₁).evolves
    obtain ⟨rows, hrows, rfl⟩ := Option.map_eq_some_iff.mp ht₁
    obtain ⟨-, hfresh, rfl⟩ := Table.insert_eq_some hrows
    simp only [Bool.or_eq_false_iff, decide_eq_false_iff_not] at hfresh
    have hpayment : payment ∈ t.payments ++ [payment] := List.mem_append_right _ List.mem_cons_self
    -- nothing refers to the new attempt yet
    have hfirst : ∀ s ∈ t.recognitions, s.paymentAttemptId ≠ some payment.id := by
      intro s hs he
      obtain ⟨p, hp, hid⟩ := hk s hs _ he
      exact (hfresh p hp).1 hid
    refine Tx.Ensures.bind (P := (· = { t with payments := t.payments ++ [payment] }))
      addInvoiceCollection_spec (fun _ => ?_) _ rfl
    rintro _ ⟨i, i', hi, hid, rfl, hid', hm', hp', hdue, hpaid⟩
    obtain ⟨t₂, ht₂⟩ : ∃ t₂, Database.insertRecognition (mockRecognition request amount payment.id)
        { t with payments := t.payments ++ [payment] } = some t₂ := by
      refine insertRecognition_isSome hamount.1 (by simp [mockRecognition]) ⟨c, hc.1, hc.2.1⟩ ?_ hnew
      intro id hid
      obtain rfl := Option.some.inj hid
      exact ⟨payment, hpayment, rfl⟩
    have hinsert : (Database.putInvoice i' { t with payments := t.payments ++ [payment] }
        ).insertRecognition (mockRecognition request amount payment.id) =
        some (t₂.putInvoice i') := by
      rw [insertRecognition_putInvoice, ht₂]
      rfl
    refine Tx.Ensures.bind
      (P := (· = Database.putInvoice i' { t with payments := t.payments ++ [payment] }))
      (Q := fun b s => b = true ∧ s = t₂.putInvoice i') ?_ (fun b => ?_) _ rfl
    · refine .query_bind fun b => .bind (.modify (Q := fun _ s => b = true ∧ s = t₂.putInvoice i')
        ?_) fun _ => .pure fun _ h => h
      rintro _ ⟨rfl, hb⟩
      rw [hinsert] at hb ⊢
      exact ⟨hb.symm, rfl⟩
    · rintro _ ⟨rfl, rfl⟩
      rw [if_pos rfl]
      refine Tx.Ensures.bind (P := (· = t₂.putInvoice i')) (R := fun _ => EvolvesOf W t)
        (.modify (Q := fun _ => EvolvesOf W t) ?_)
        (fun _ => .bind addEvent_evolves fun _ => .pure fun _ h => h) _ rfl
      rintro _ rfl
      refine (hev.effect (.recognized (c := c) (i := i) request.recognizedAt ht₂ ?_)).trans
        closeCase_eq_swept
      exact
        { mem := hc.1
          caseId := hc.2.1.symm
          merchantId := hc.2.2.symm
          first := ⟨payment, rfl, fun s hs _ _ => hfirst s hs⟩
          attempt := ⟨payment, hpayment, rfl, hinvoice⟩
          origin := fun h => absurd h (by simp [mockRecognition])
          invoice := hi
          withinInvoice := fun h => absurd h (by simp [mockRecognition])
          withinCase := hamount.2
          invoiceId := hid'
          invoiceMerchantId := hm'
          providerInvoiceId := hp'
          due := hdue
          paid := hpaid
          captured := mockPaid_captured }

lemma applyLateFailureEvent_evolves {providerEventId : String} {occurredAt : Instant}
    {db : Database} :
    Tx.Ensures (· = db) (applyLateFailureEvent merchantId caseId providerEventId occurredAt)
      fun _ => EvolvesOf W db := by
  refine .query_bind fun found => .expect_bind fun c hfound => .query_bind fun inserted => ?_
  rintro t ⟨⟨rfl, hf⟩, -⟩
  rw [hfound] at hf
  refine Tx.Ensures.bind (P := (· = t)) (Q := fun _ s => EvolvesOf W t s ∧ c ∈ s.cases)
    (R := fun _ => EvolvesOf W t) ?_ (fun _ => .bind (Q := fun _ => EvolvesOf W t) (.modify ?_) fun _ => .pure fun _ h => h) t rfl
  · refine .modify fun s hs => ?_
    subst hs
    cases he : Database.insertEvent _ s with
    | none => exact ⟨.refl s, List.mem_of_find?_eq_some hf⟩
    | some t' =>
      refine ⟨(EffectOf.event _ he).evolves, ?_⟩
      obtain ⟨_, -, rfl⟩ := Option.map_eq_some_iff.mp he
      exact List.mem_of_find?_eq_some hf
  · rintro s ⟨h, hc⟩
    split_ifs with hcond
    · simp only [Bool.and_eq_true, decide_eq_true_eq] at hcond
      exact h.effect (.noted hc ⟨⟨rfl, rfl, rfl, rfl, rfl, rfl, rfl, rfl, by simp, id⟩, rfl, rfl, rfl, rfl,
        fun hcap => absurd hcap hcond.2, fun hcap => by cases hcap⟩)
    · exact h

/-! ### The two writes that do not look -/

/-- What a delayed recommendation writes: nothing, or its action with the decision. -/
lemma persistRecommendation_spec (pending : PendingRecommendation) (db : Database) :
    Tx.Ensures (· = db) (persistRecommendation pending) fun _ db' => db' = db ∨
      ∃ db₁, db.insertActionWithPolicy
        (recommendedAction pending.request pending.action pending.surface pending.decision)
        (recommendedPolicy pending.request pending.decision) = some db₁ ∧ Evolves db₁ db' := by
  refine .query_bind fun existing => ?_
  cases existing with
  | some action =>
    exact .query_bind fun _ => .expect_bind fun _ _ => .pure fun _ h => .inl h.1.1
  | none =>
    refine .bind (Q := fun _ db₁ => db.insertActionWithPolicy
        (recommendedAction pending.request pending.action pending.surface pending.decision)
        (recommendedPolicy pending.request pending.decision) = some db₁) (.attempt ?_) fun _ => ?_
    · rintro _ ⟨rfl, -⟩ db₁ h₁
      exact h₁
    · intro db₁ h₁
      exact Tx.Ensures.bind addEvent_evolves (fun _ => .pure fun t ht => .inr ⟨db₁, h₁, ht⟩) db₁
        (Evolves.refl db₁)

/-- The row that an approval leaves, and the event it adds if none has its key. -/
def approved (row : RecoveryActionRecord) (pending : PendingApproval) : RecoveryActionRecord :=
  { row with
    status := .scheduled
    completedAt := if (pending.held.getD row).completedAt.isSome then none else row.completedAt }

/-- What an approval writes over the row that is there. -/
lemma commitApproval_spec (pending : PendingApproval) (completedAt : Instant) (db : Database) :
    Tx.Ensures (· = db) (commitApproval pending completedAt) fun _ db' =>
      ∃ row, getAction pending.caseId pending.actionId db = some row ∧
        (pending.held.getD row).status = .awaitingApproval ∧
        db' = ((db.putAction (approved row pending)).insertEvent
          (approvalEvent row completedAt)).getD (db.putAction (approved row pending)) := by
  refine .query_bind fun found => .expect_bind fun row hfound => .require_bind fun hstatus =>
    .require_bind fun _ => .bind (Q := fun _ t => t = db.putAction (approved row pending) ∧
      getAction pending.caseId pending.actionId db = some row) (.modify ?_) fun _ =>
    .bind (.modify (Q := fun _ t => ∃ row, getAction pending.caseId pending.actionId db = some row ∧
      (pending.held.getD row).status = .awaitingApproval ∧
      t = ((db.putAction (approved row pending)).insertEvent
        (approvalEvent row completedAt)).getD (db.putAction (approved row pending))) ?_)
    fun _ => .pure fun _ h => h
  · rintro _ ⟨rfl, hf⟩
    exact ⟨rfl, hf.trans hfound⟩
  · rintro _ ⟨rfl, hf⟩
    exact ⟨row, hf, of_decide_eq_true hstatus, rfl⟩

end

/-! ## Voice callbacks -/

section
open Voice

lemma applyCallback_evolves {provider eventId attemptId : String} {changes : Changes}
    {db : Database} : Evolves db (applyCallback provider eventId attemptId changes db).2 := by
  unfold applyCallback
  split
  · exact Evolves.refl db
  · next received hreceived =>
    have h : Evolves db received := by
      obtain ⟨_, -, rfl⟩ := Option.map_eq_some_iff.mp hreceived
      exact (Evolves.refl db).other ⟨rfl, rfl, rfl, rfl, rfl, rfl, rfl, rfl, rfl, rfl⟩
    split
    · exact h
    · exact h.other ⟨rfl, rfl, rfl, rfl, rfl, rfl, rfl, rfl, rfl, rfl⟩

lemma suppress_evolves {attempt : VoiceContactAttemptRecord} {reasonCode : String} {now : Instant}
    {db : Database} : Evolves db (suppress attempt reasonCode now db).2 := by
  unfold suppress
  split
  · exact Evolves.refl db
  · next suppressed hsuppressed =>
    obtain ⟨rows, -, rfl⟩ := Option.map_eq_some_iff.mp hsuppressed
    have h : Evolves db { db with voiceSuppressions := rows } :=
      (Evolves.refl db).other ⟨rfl, rfl, rfl, rfl, rfl, rfl, rfl, rfl, rfl, rfl⟩
    have hids : (markOptedOut attempt now { db with voiceSuppressions := rows }).customers.map (·.id)
        = db.customers.map (·.id) := by
      simp only [markOptedOut, List.map_map]
      refine List.map_congr_left fun c _ => ?_
      simp only [Function.comp]
      split_ifs <;> rfl
    exact (h.effect (.marked attempt.caseId trivial)).other
      ⟨rfl, rfl, rfl, rfl, rfl, rfl, rfl, rfl, hids, rfl⟩

/-- A callback evolves the database. -/
theorem receive_evolves {callback : Callback} {eventId attemptId : String} {now : Instant}
    {cancelSucceeds : Bool} {db : Database} :
    Evolves db (receive callback eventId attemptId now cancelSucceeds db) := by
  unfold receive
  split
  · exact Evolves.refl db
  · next intent _ =>
    have happlied : Evolves db (applyCallback callback.provider eventId attemptId
      (callback.changes intent) db).2 := applyCallback_evolves
    split
    · next attempt applied heq =>
      rw [heq] at happlied
      have hs : Evolves db (suppress attempt "VOICE_OPT_OUT" now applied).2 :=
        happlied.trans suppress_evolves
      split
      · dsimp only
        split
        · split
          · exact hs
          · exact Evolves.refl db
        · exact hs
      · exact happlied
    · next heq =>
      rw [heq] at happlied
      exact happlied

end

/-! ## The worker's activities -/

section
open Worker

lemma claimable_live {d : PolicyDisposition} {s : ActionStatus} (h : s ∈ claimableStatuses d) :
    s = .proposed ∨ s = .scheduled := by
  cases d <;> simp_all [claimableStatuses]

lemma mem_of_withPolicies {p : RecoveryActionRecord → Bool} {db : Database}
    {row : RecoveryActionRecord × PolicyDecisionRecord} (h : row ∈ withPolicies p db) :
    row.1 ∈ db.actions ∧ p row.1 = true ∧ row.2 ∈ db.policies ∧ row.2.actionId = some row.1.id := by
  obtain ⟨a, ha, hrow⟩ := List.mem_flatMap.mp h
  obtain ⟨d, hd, rfl⟩ := List.mem_map.mp hrow
  have ha := List.mem_filter.mp ha
  have hd := List.mem_filter.mp hd
  exact ⟨ha.1, ha.2, hd.1, of_decide_eq_true hd.2⟩

/-- What a claim does: it writes nothing, or it moves the action it claims to `EXECUTING`. -/
lemma claimSurfaceAction_evolves {inFlight : List String} {surface : PaymentSurfaceType}
    {now : Instant} {action : RecoveryActionRecord} {policy : PolicyDecisionRecord} {db : Database}
    (ha : action ∈ db.actions) :
    Evolves db (claimSurfaceAction inFlight surface now action policy db).2 := by
  unfold claimSurfaceAction
  dsimp only
  split_ifs with h1 h2 h3 h4 h5 h6 h7 h8 h9
  all_goals try exact Evolves.refl db
  · exact (EffectOf.moved ha (.executing (claimable_live h7))).evolves
  · split
    · exact Evolves.refl db
    · split_ifs <;> exact Evolves.refl db

lemma mem_of_mandateRows {actionId caseId mandateId claimId : String} {db : Database}
    {row : MandateRow} (h : row ∈ mandateRows actionId caseId mandateId claimId db) :
    row.action ∈ db.actions ∧ row.policy ∈ db.policies ∧ row.recoveryCase ∈ db.cases ∧
      row.invoice ∈ db.invoices ∧ row.authorization ∈ db.nonces ∧
      row.action.id = actionId ∧ row.action.caseId = caseId ∧
      row.policy.actionId = some row.action.id ∧ row.recoveryCase.id = row.action.caseId ∧
      row.recoveryCase.failedInvoiceId = some row.invoice.id ∧
      row.authorization.recoveryActionId = some row.action.id ∧
      row.authorization.mandateId = mandateId ∧ row.authorization.claimId = some claimId := by
  obtain ⟨⟨a, p⟩, hap, h⟩ := List.mem_flatMap.mp h
  obtain ⟨ha, hcond, hp, hpa⟩ := mem_of_withPolicies hap
  simp only [Bool.and_eq_true, decide_eq_true_eq] at hcond
  split_ifs at h
  · obtain ⟨c, hc, h⟩ := List.mem_flatMap.mp h
    obtain ⟨i, hi, h⟩ := List.mem_flatMap.mp h
    obtain ⟨n, hn, rfl⟩ := List.mem_map.mp h
    have hc := List.mem_filter.mp hc
    have hi := List.mem_filter.mp hi
    have hn := List.mem_filter.mp hn
    have hn2 := of_decide_eq_true hn.2
    exact ⟨ha, hp, hc.1, hi.1, hn.1, hcond.1, hcond.2, hpa, of_decide_eq_true hc.2,
      of_decide_eq_true hi.2, hn2.1, hn2.2.1, hn2.2.2⟩
  · cases h

lemma claimAuthorizedAction_evolves {row : MandateRow} {surface : PaymentSurfaceType}
    {now : Instant} {db : Database} (ha : row.action ∈ db.actions) :
    Evolves db (claimAuthorizedAction row surface now db).2 := by
  unfold claimAuthorizedAction
  dsimp only
  split_ifs with h1 h2 h3 h4 h5 h6 h7 h8
  all_goals try exact Evolves.refl db
  have hlive : row.action.status = .proposed ∨ row.action.status = .scheduled := by tauto
  exact (EffectOf.moved ha (.executing hlive)).evolves.trans
    (evolves_setAuthorization fun _ => ⟨rfl, .inr (.inl rfl)⟩)

lemma claimA2aPaymentAction_evolves {rt : Runtime} {command : ExecuteActionInput} {mandate : Json}
    {surface : PaymentSurfaceType} {now : Instant} {db : Database} :
    Evolves db (claimA2aPaymentAction rt command mandate surface now db).2 := by
  unfold claimA2aPaymentAction
  split
  · split
    · exact Evolves.refl db
    · dsimp only
      split
      · exact Evolves.refl db
      · split
        · exact Evolves.refl db
        · next row hrow =>
          have hmem := mem_of_mandateRows (List.mem_of_head? hrow)
          split
          · exact Evolves.refl db
          · split
            · exact Evolves.refl db
            · split
              · exact Evolves.refl db
              · exact claimAuthorizedAction_evolves hmem.1
  · exact Evolves.refl db

lemma claimPaymentAction_evolves {rt : Runtime} {command : ExecuteActionInput}
    {inFlight : List String} {now : Instant} {db : Database} :
    Evolves db (claimPaymentAction rt command inFlight now db).2 := by
  unfold claimPaymentAction
  split
  · exact Evolves.refl db
  · split
    · exact Evolves.refl db
    · exact claimA2aPaymentAction_evolves
    · split
      · exact Evolves.refl db
      · next action policy hrow =>
        exact claimSurfaceAction_evolves (mem_of_withPolicies (Table.mem_of_first hrow)).1

theorem executePaymentSurface_evolves {rt : Runtime} {command : ExecuteActionInput}
    {inFlight : List String} {now : Instant} {db : Database} :
    Evolves db (executePaymentSurface rt command inFlight now db).2 := by
  unfold executePaymentSurface
  split
  · split
    · exact Evolves.refl db
    · split
      · exact Evolves.refl db
      · exact claimPaymentAction_evolves
  · exact Evolves.refl db

theorem claimVoiceAction_evolves {command : ExecuteActionInput} {ready : Bool} {db : Database} :
    Evolves db (claimVoiceAction command ready db).2 := by
  unfold claimVoiceAction
  split
  · exact Evolves.refl db
  · next action policy hrow =>
    have ha := (mem_of_withPolicies (Table.mem_of_first hrow)).1
    split_ifs with h1 h2 h3 h4 h5 h6 h7 h8
    all_goals try exact Evolves.refl db
    exact (EffectOf.moved ha (.executing (.inr (not_not.mp h7)))).evolves

theorem finalizeVoiceAction_evolves {actionId : String} {reference : Option String} {now : Instant}
    {db : Database} : Evolves db (finalizeVoiceAction actionId reference now db) := by
  unfold finalizeVoiceAction
  split
  · exact Evolves.refl db
  · next action hfound =>
    split_ifs with h
    · exact Evolves.refl db
    · exact (EffectOf.moved (List.mem_of_find?_eq_some hfound) (.finalized action reference now)).evolves

theorem persistPaymentSurface_evolves {actionId : String} {result : PaymentSurfaceResult}
    {now : Instant} {db : Database} :
    Evolves db (persistPaymentSurface actionId result now db).2 := by
  unfold persistPaymentSurface
  dsimp only
  split
  · exact Evolves.refl db
  · next action hfound =>
    split_ifs
    · exact Evolves.refl db
    · exact Evolves.refl db
    · exact evolves_recordSurface (List.mem_of_find?_eq_some hfound) result now

/-- A reconciliation that goes on has found its action executing. -/
lemma reconcileCheck_spec {rt : Runtime} {actionId : String} {db : Database}
    {action : RecoveryActionRecord} (h : reconcileCheck rt actionId db = .ok action) :
    rt.provider ≠ .mock ∧ getAction actionId db = some action ∧ action.status = .executing := by
  unfold reconcileCheck at h
  split_ifs at h with hmock
  split at h
  · cases h
  · next persisted hfound =>
    split_ifs at h with h1 h2 h3
    obtain rfl := Except.ok.inj h
    exact ⟨hmock, hfound, not_not.mp h3⟩

theorem reconcileStandardPaymentLink_evolves {rt : Runtime} {actionId : String}
    {lookup : LinkLookup} {resubmission : Option PaymentSurfaceResult} {now : Instant}
    {db : Database} :
    Evolves db (reconcileStandardPaymentLink rt actionId lookup resubmission now db).2 := by
  unfold reconcileStandardPaymentLink
  split
  · exact Evolves.refl db
  · next action hcheck =>
    have ha := List.mem_of_find?_eq_some (reconcileCheck_spec hcheck).2.1
    split
    · exact Evolves.refl db
    · exact evolves_recordSurface ha _ now
    · split
      · exact Evolves.refl db
      · exact evolves_recordSurface ha _ now

/-- A cleanup moves a link to where the provider says it is. -/
lemma cleanupLink_move {replies : LinkReplies} {now : Instant} {action : RecoveryActionRecord}
    {written : RecoveryActionRecord × Bool} (h : cleanupLink replies now action = .ok written) :
    Move action written.1 := by
  unfold cleanupLink at h
  simp only [bind, Except.bind] at h
  split at h
  · cases h
  · next located hlocated =>
    have hmove : ∀ a reference, located = some (a, reference) → Move action a := by
      intro a reference hsome
      subst hsome
      unfold locate at hlocated
      split at hlocated
      · obtain ⟨rfl, -⟩ : action = a ∧ _ := by simpa using hlocated
        exact ⟨rfl, rfl, rfl, rfl, rfl, .inl rfl⟩
      · split at hlocated
        · cases hlocated
        · cases hlocated
        · simp only [Except.ok.injEq, Option.some.injEq, Prod.mk.injEq] at hlocated
          obtain ⟨rfl, -⟩ := hlocated
          exact ⟨rfl, rfl, rfl, rfl, rfl, .inr (.inr (.inl rfl))⟩
    split at h
    · obtain rfl := Except.ok.inj h
      exact .cancelled action now
    · next a reference =>
      have hm := hmove a reference rfl
      have hcancel : Move action (cancelled a now) :=
        ⟨hm.id, hm.caseId, hm.actionType, hm.paymentSurfaceType, hm.idempotencyKey,
          .inr (.inl rfl)⟩
      split at h
      · cases h
      · obtain rfl := Except.ok.inj h
        exact hm
      · cases h
      · obtain rfl := Except.ok.inj h
        exact hcancel
      · obtain rfl := Except.ok.inj h
        exact hcancel

/-- Writing back rows that each move a row of the table, under keys that differ. -/
lemma foldl_putAction_evolves {rows : List RecoveryActionRecord} :
    ∀ {db : Database}, (∀ r ∈ rows, ∃ a ∈ db.actions, Move a r) → (rows.map (·.id)).Nodup →
      Evolves db (rows.foldl (fun db a => db.putAction a) db) := by
  induction rows with
  | nil => exact fun _ _ => Evolves.refl _
  | cons r rows ih =>
    intro db hrows hnodup
    obtain ⟨a, ha, hm⟩ := hrows r List.mem_cons_self
    rw [List.map_cons, List.nodup_cons] at hnodup
    refine (EffectOf.moved ha hm).evolves.trans (ih (fun s hs => ?_) hnodup.2)
    obtain ⟨b, hb, hmb⟩ := hrows s (List.mem_cons_of_mem _ hs)
    refine ⟨b, Table.mem_put_of_ne hb fun he => hnodup.1 ?_, hmb⟩
    rw [← he, ← hmb.id]
    exact List.mem_map_of_mem hs

theorem cleanupStandardPaymentLinks_evolves {rt : Runtime} {replies : LinkReplies}
    {caseId : String} {now : Instant} {db : Database} (hk : Table.Keyed (·.id) db.actions) :
    Evolves db (cleanupStandardPaymentLinks rt replies caseId now db).2 := by
  have hlinks : ∀ a ∈ openLinks caseId db, a ∈ db.actions := fun a ha => (List.mem_filter.mp ha).1
  have hnodup : ((openLinks caseId db).map (·.id)).Nodup :=
    hk.sublist (List.filter_sublist.map _)
  unfold cleanupStandardPaymentLinks
  split
  · exact Evolves.refl db
  · split
    · refine foldl_putAction_evolves ?_ ?_
      · intro r hr
        obtain ⟨a, ha, rfl⟩ := List.mem_map.mp hr
        exact ⟨a, hlinks a ha, .cancelled a now⟩
      · rw [List.map_map]
        exact hnodup
    · split
      · exact Evolves.refl db
      · next written hwritten =>
        refine foldl_putAction_evolves ?_ ?_
        · intro r hr
          obtain ⟨w, hw, rfl⟩ := List.mem_map.mp hr
          obtain ⟨a, ha, hclean⟩ := Collected.exists_of_mem hwritten w hw
          exact ⟨a, hlinks a ha, cleanupLink_move hclean⟩
        · have hids : written.map (fun w => w.1.id) = (openLinks caseId db).map (·.id) :=
            Collected.map_eq (fun a w h => (cleanupLink_move h).id) hwritten
          rw [List.map_map]
          exact hids ▸ hnodup

theorem cancelOtherActions_evolves {caseId : String} {now : Instant} {db : Database} :
    Evolves db (cancelOtherActions caseId now db) := by
  refine EffectOf.evolves (.swept _ fun a _ => ?_)
  split_ifs
  · exact .cancelled a now
  · exact ⟨rfl, rfl, rfl, rfl, rfl, .inl rfl⟩

theorem recordAuditEvent_evolves {command : AuditInput} {now : Instant} {db : Database} :
    Evolves db (recordAuditEvent command now db) := by
  unfold recordAuditEvent
  cases he : db.insertEvent
    { caseId := command.caseId
      eventType := command.eventType
      source := "temporal-workflow"
      occurredAt := now
      sourceEventId :=
        some ("temporal:" ++ command.eventType ++ ":" ++ command.correlationId) } with
  | none => exact Evolves.refl db
  | some db' => exact (EffectOf.event _ he).evolves

end

end RecoveryOS.Core
