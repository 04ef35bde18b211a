import RecoveryOS.Webhook.Frame

/-!
# What an applied event leaves behind

After an event is applied, the case that it names has an audit event for it, and a capture that asks
for dispatch has a recognition under its event id. These traces are what a second application of the
event finds.
-/

namespace RecoveryOS.Webhook

open Store Table RecoveryOS.Core

section
variable {platform : Platform} {call : Call} {payload : RazorpayOutboxPayload}

/-- The case has an audit event for the event. -/
def Audited (payload : RazorpayOutboxPayload) (caseId : String) (db : Database) : Prop :=
  ∃ e ∈ db.events, e.caseId = caseId ∧ e.sourceEventId = some payload.event.providerEventId

/-- The event's capture is recognized. -/
def Recognized (payload : RazorpayOutboxPayload) (db : Database) : Prop :=
  ∃ r ∈ db.recognitions, r.merchantId = payload.merchantId ∧ r.provider = "razorpay" ∧
    r.providerEventId = payload.event.providerEventId

/-- The case and its invoice are in the tables, and the event names them. -/
def Named (payload : RazorpayOutboxPayload) (c : RecoveryCase) (db : Database) : Prop :=
  c ∈ db.cases ∧ ∃ i ∈ db.invoices, Names payload c i

/-- An audit event is there after it is added. -/
lemma addAuditEvent_audited {P : Database → Prop} {c : RecoveryCase}
    (hP : ∀ t rows, P t → P { t with events := rows }) :
    Tx.Ensures P (addAuditEvent c payload.event) fun _ t => P t ∧ Audited payload c.id t := by
  refine .query_bind fun existing => ?_
  split_ifs with hexists
  · refine .pure fun t h => ⟨h.1, ?_⟩
    have hany := h.2.trans hexists
    simp only [List.any_eq_true, Bool.and_eq_true, decide_eq_true_eq] at hany
    exact hany
  · refine .attempt fun t h t' ho => ?_
    obtain ⟨rows, hrows, rfl⟩ := Option.map_eq_some_iff.mp ho
    obtain ⟨-, -, rfl⟩ := insert_eq_some hrows
    exact ⟨hP t _ h.1, _, List.mem_append_right _ List.mem_cons_self, rfl, rfl⟩

/-- What a correlation found, as far as applying the event goes. -/
def Found (payload : RazorpayOutboxPayload) (correlation : Correlation) (db : Database) : Prop :=
  (∀ c, correlation.recoveryCase = some c → c ∈ db.cases) ∧ Correlated payload correlation db ∧
    IsCorrelated payload correlation.recoveryCase correlation.invoice db

lemma correlate_found :
    Tx.Ensures (fun _ => True) (correlate platform call payload) (Found payload) := by
  intro db _ correlation t ht
  obtain ⟨h, hc, hi⟩ := correlate_holds (W := .any) db (EvolvesOf.refl db) correlation t ht
  exact ⟨h.2, hc, hi⟩

/-- An invoice without a correlated case has none. -/
lemma correlate_open :
    Tx.Ensures (fun _ => True) (correlate platform call payload) fun correlation t =>
      ∀ i, correlation.invoice = some i → correlation.recoveryCase = none → ∀ x ∈ t.cases,
        x.merchantId = payload.merchantId → x.failedInvoiceId ≠ some i.id := by
  refine .skip fun named => .skip fun invoice => .skip fun subscription => .require_bind fun _ => .require_bind fun _ => .require_bind fun _ =>
    .query_bind fun found => .pure ?_
  rintro t ⟨-, hfound⟩ i hi hnone x hx hm hf
  replace hi : invoice = some i := hi
  replace hnone : found = none := hnone
  subst hi hnone
  cases named with
  | some c => cases hfound
  | none =>
    have := List.find?_eq_none.mp hfound x hx
    simp [hm, hf] at this

/-- An event whose invoice is there, or that names none, writes nothing when it is correlated. -/
lemma correlate_known {db : Database} (hknown : ∀ x, truthy payload.event.invoiceId = some x →
      ∃ i ∈ db.invoices, i.merchantId = payload.merchantId ∧ i.providerInvoiceId = x) :
    Tx.Ensures (· = db) (correlate platform call payload) fun _ t => t = db := by
  refine .bind (correlateCase_readOnly.ensures (Q := fun _ => (· = db)) fun _ h _ => h) fun named =>
    .bind (Q := fun _ => (· = db)) ?_ fun invoice =>
    .bind (correlateSubscription_readOnly.ensures (Q := fun _ => (· = db)) fun _ h _ => h)
      fun subscription => .require_bind fun _ => .require_bind fun _ => .require_bind fun _ =>
    .query_bind fun _ => .pure fun _ h => h.1
  unfold correlateInvoice
  split
  · next x hx =>
    obtain ⟨i, hi, hm, hp⟩ := hknown _ hx
    refine .query_bind fun found => ?_
    cases found with
    | some invoice => exact .pure fun _ h => h.1
    | none =>
      rintro _ ⟨rfl, hnone⟩
      have := List.find?_eq_none.mp hnone i hi
      simp [hm, hp] at this
  · exact .query fun _ h => h
  · exact .pure fun _ h => h

/-! ## A failed payment -/

lemma failedCase_named {correlation : Correlation} {invoice : Invoice} {subscription : Subscription}
    {payment : PaymentAttempt} {stateApplied : Bool} (hinvoice : correlation.invoice = some invoice) :
    Tx.Ensures (Found payload correlation)
      (failedCase platform payload correlation invoice subscription payment stateApplied)
      (Named payload) := by
  unfold failedCase
  split
  · next hnone =>
    -- a case is opened for the invoice that the event names
    refine .query_bind fun found => .expect_bind fun customer _ => .require_bind fun _ =>
      .call_bind fun diagnosis _ => .bind (Q := fun _ => Named payload
        (caseForFailure platform payload invoice subscription customer payment diagnosis))
        (.attempt ?_) fun _ => .pure fun _ h => h
    rintro t ⟨⟨-, -, hcorrelated⟩, -⟩ t' ht'
    obtain ⟨hmem, hm, hname, hcase⟩ := hcorrelated invoice hinvoice
    obtain ⟨rows, hrows, rfl⟩ := Option.map_eq_some_iff.mp ht'
    obtain ⟨-, -, rfl⟩ := insert_eq_some hrows
    refine ⟨List.mem_append_right _ List.mem_cons_self, invoice, hmem, rfl, hm, rfl, hname, ?_⟩
    intro hn
    have := hcase hn
    rw [hnone] at this
    cases this
  · next c hc =>
    split_ifs
    · refine .bind (Q := fun _ => Named payload { c with
        paymentState := .failed, failedPaymentId := some payment.id, version := c.version + 1 })
        (.modify ?_) fun _ => .pure fun _ h => h
      rintro t ⟨hmem, hcorrelated, -⟩
      obtain ⟨hn, hi⟩ := hcorrelated c invoice hc hinvoice
      exact ⟨mem_put_self (hmem c hc) rfl, invoice, hi, hn.merchantId, hn.invoiceMerchantId,
        hn.failedInvoiceId, hn.invoice, hn.case⟩
    · refine .pure ?_
      rintro t ⟨hmem, hcorrelated, -⟩
      obtain ⟨hn, hi⟩ := hcorrelated c invoice hc hinvoice
      exact ⟨hmem c hc, invoice, hi, hn⟩

/-- A failure is applied to the case that its event names, with an audit event. -/
lemma applyPaymentFailed_applied {correlation : Correlation} :
    Tx.Ensures (Found payload correlation) (applyPaymentFailed platform payload correlation)
      fun r t => ∃ c, r.2 = some c ∧ Named payload c t ∧ Audited payload c.id t := by
  refine .expect_bind fun invoice hinvoice => .expect_bind fun subscription _ =>
    .expect_bind fun _ _ => .expect_bind fun _ _ => .expect_bind fun _ _ => .require_bind fun _ => ?_
  refine .bind (Q := fun _ => Found payload correlation)
    (failedAttempt_keeps fun _ _ h => h) fun attempt => .bind (failedCase_named hinvoice) fun c =>
    .bind (addAuditEvent_audited fun _ _ h => h) fun _ => .pure ?_
  exact fun t h => ⟨c, rfl, h⟩

/-! ## A capture -/

/-- What settling leaves: the recognition, if the event is to be dispatched. -/
lemma settleCase_recognized {c : RecoveryCase} {invoice : Invoice} {payment : PaymentAttempt}
    {snapshot : PaymentSnapshot} {outcome : PaymentRecoveryOutcome}
    {existing : Option RevenueRecognitionRecord} :
    Tx.Ensures (fun t => (c ∈ t.cases ∧ invoice ∈ t.invoices) ∧
        existingRecognition payload payment t = existing)
      (settleCase payload c invoice payment snapshot outcome existing)
      fun settled t => (∃ x ∈ t.cases, x.id = settled.id) ∧
        (∃ i ∈ t.invoices, SameInvoice invoice i) ∧ SameCase c settled ∧
        (existing.all (fun r => decide (r.providerEventId = payload.event.providerEventId)) = true →
          Recognized payload t) := by
  cases existing with
  | none =>
    refine .require_bind fun _ => .bind (Q := fun _ t => (c ∈ t.cases ∧ invoice ∈ t.invoices) ∧
      Recognized payload t) (.attempt ?_) fun _ =>
      .bind (Q := fun _ t => (c ∈ t.cases ∧ ∃ i ∈ t.invoices, SameInvoice invoice i) ∧
        Recognized payload t) (.modify ?_) fun _ => .pure ?_
    · rintro t ⟨h, -⟩ t' ht'
      obtain ⟨rows, hrows, rfl⟩ := Option.map_eq_some_iff.mp ht'
      obtain ⟨-, -, rfl⟩ := insert_eq_some hrows
      exact ⟨h, _, List.mem_append_right _ List.mem_cons_self, rfl, rfl, rfl⟩
    · rintro t ⟨⟨hc, hi⟩, hr⟩
      exact ⟨⟨hc, _, mem_put_self hi rfl, rfl, rfl, rfl⟩, hr⟩
    · rintro t ⟨⟨hc, hi⟩, hr⟩
      exact ⟨⟨c, hc, rfl⟩, hi, ⟨rfl, rfl, rfl, rfl, rfl, rfl, rfl, rfl, by simp, fun _ => by simp⟩,
        fun _ => hr⟩
  | some r =>
    refine .pure ?_
    rintro t ⟨⟨hc, hi⟩, hfound⟩
    have hr := List.find?_some hfound
    simp only [decide_eq_true_eq] at hr
    have hsame : SameCase c (if secondaryCaseChange c snapshot outcome then
        { c with version := c.version + 1 } else c) := by
      split_ifs
      · exact ⟨rfl, rfl, rfl, rfl, rfl, rfl, rfl, rfl, by simp, id⟩
      · exact ⟨rfl, rfl, rfl, rfl, rfl, rfl, rfl, rfl, le_rfl, id⟩
    refine ⟨⟨c, hc, hsame.id.symm⟩, ⟨invoice, hi, rfl, rfl, rfl⟩, hsame, fun he => ?_⟩
    exact ⟨r, List.mem_of_find?_eq_some hfound, hr.1, hr.2.1, of_decide_eq_true he⟩

/-- What an event leaves on the case that it names. -/
structure Applied (payload : RazorpayOutboxPayload) (effects : List (String × Json))
    (c : RecoveryCase) (db : Database) : Prop where
  named : Named payload c db
  audited : Audited payload c.id db
  recognized : payload.event.eventType ≠ "payment.failed" → dispatchRequired effects = true →
    Recognized payload db

lemma applyCaptured_applied {correlation : Correlation} :
    Tx.Ensures (Found payload correlation) (applyCaptured platform call payload correlation)
      fun r t => ∃ c, r.2 = some c ∧ Applied payload r.1 c t := by
  refine .expect_bind fun c hcase => .expect_bind fun invoice hinvoice =>
    .expect_bind fun subscription _ => .call_bind fun snapshot _ => .call_bind fun outcome _ =>
    .require_bind fun _ => .require_bind fun _ => .require_bind fun _ => .expect_bind fun id _ => ?_
  refine .bind (Q := fun _ t => Names payload c invoice ∧ c ∈ t.cases ∧ invoice ∈ t.invoices) ?_
    fun payment => .query_bind fun existing => ?_
  · refine (capturedAttempt_keeps (P := fun t => Names payload c invoice ∧ c ∈ t.cases ∧
      invoice ∈ t.invoices) fun _ _ h => h).strengthen ?_
    rintro t ⟨hmem, hcorrelated, -⟩
    obtain ⟨hn, hi⟩ := hcorrelated c invoice hcase hinvoice
    exact ⟨hn, hmem c hcase, hi⟩
  refine .bind (Q := fun settled t => Names payload c invoice ∧
    (∃ x ∈ t.cases, x.id = settled.id) ∧ (∃ i ∈ t.invoices, SameInvoice invoice i) ∧
    SameCase c settled ∧ (existing.all (fun r => decide
      (r.providerEventId = payload.event.providerEventId)) = true → Recognized payload t))
    ?_ fun settled => ?_
  · rintro t ⟨⟨hn, hmem, hi⟩, hexisting⟩ settled t' ht'
    exact ⟨hn, settleCase_recognized t ⟨⟨hmem, hi⟩, hexisting⟩ settled t' ht'⟩
  -- the case that is written back has the identity of the one in the table
  set final := capturedCase settled payload.event snapshot outcome
  refine .bind (Q := fun _ t => Named payload final t ∧ (existing.all (fun r => decide
    (r.providerEventId = payload.event.providerEventId)) = true → Recognized payload t))
    (.modify ?_) fun _ =>
    .bind (.modifyIf (Q := fun _ t => Named payload final t ∧ (existing.all (fun r => decide
      (r.providerEventId = payload.event.providerEventId)) = true → Recognized payload t))
      (fun _ h => h) fun _ h => h) fun _ =>
    .bind (addAuditEvent_audited fun _ _ h => h) fun _ => .pure ?_
  · rintro t ⟨hn, ⟨x, hx, hid⟩, ⟨i, hi, hsi⟩, hsame, hr⟩
    have hfinal : SameCase c final :=
      hsame.trans ⟨rfl, rfl, rfl, rfl, rfl, rfl, rfl, rfl, le_rfl, fun h => h⟩
    refine ⟨⟨?_, i, ?_, hn.kept hfinal hsi⟩, fun he => ?_⟩
    · rw [cases_settle]
      exact mem_put_self hx hid
    · unfold Database.settle
      split_ifs <;> exact hi
    · have hrec := hr he
      unfold Database.settle
      split_ifs <;> exact hrec
  · rintro t ⟨⟨hn, hr⟩, ha⟩
    exact ⟨final, rfl, hn, ha, fun _ hd => hr hd⟩

/-- A failure or a capture that is applied leaves its traces. -/
theorem applyMessage_applied
    (hevent : payload.event.eventType = "payment.failed" ∨ payload.event.paymentState = .captured) :
    Tx.Ensures (fun _ => True) (applyMessage platform call payload)
      fun r t => ∃ c, r.2.2 = some c ∧ Applied payload r.2.1 c t := by
  refine .bind (lockInbox_readOnly.ensures (Q := fun _ _ => True) fun _ h _ => h) fun inbox =>
    .bind correlate_found fun correlation =>
    .bind (Q := fun r t => ∃ c, r.2 = some c ∧ Applied payload r.1 c t) ?_ fun r => .pure fun _ h => h
  dsimp only [applyEvent]
  split_ifs with hfailed hcaptured
  · refine applyPaymentFailed_applied.weaken ?_
    rintro r t ⟨c, hc, hn, ha⟩
    exact ⟨c, hc, hn, ha, fun hne => absurd hfailed hne⟩
  · exact applyCaptured_applied
  · exact absurd hevent (by simp [hfailed, hcaptured])
  · exact .throw

/-! ## The authorization -/

/-- What issuing an action does. -/
lemma insertActionWithPolicy_fresh {db t : Database} {a : RecoveryActionRecord}
    {p : PolicyDecisionRecord} (h : db.insertActionWithPolicy a p = some t) :
    (∀ x ∈ db.actions, x.id ≠ a.id ∧ x.idempotencyKey ≠ a.idempotencyKey) ∧
      t.actions = db.actions ++ [a] ∧ t.policies = db.policies ++ [p] := by
  obtain ⟨db₁, ha, hp⟩ := Option.bind_eq_some_iff.mp h
  obtain ⟨rows, hrows, rfl⟩ := Option.map_eq_some_iff.mp ha
  obtain ⟨rows', hrows', rfl⟩ := Option.map_eq_some_iff.mp hp
  obtain ⟨-, hnew, rfl⟩ := insert_eq_some hrows
  obtain ⟨-, -, rfl⟩ := insert_eq_some hrows'
  refine ⟨fun x hx => ?_, rfl, rfl⟩
  simpa [Bool.or_eq_false_iff] using hnew x hx

/-- The initial recommendation is the one that is there, or a new one. -/
lemma ensureInitialRecommendation_spec {merchantId : String} {c : RecoveryCase} {db : Database} :
    Tx.Ensures (· = db) (ensureInitialRecommendation platform call merchantId c) fun a t =>
      (t = db ∧ existingRecommendation c.id db = some a ∧ a.caseId = c.id) ∨
      ∃ p db₁ e, db.insertActionWithPolicy a p = some db₁ ∧ db₁.insertEvent e = some t ∧
        a.caseId = c.id ∧ a.idempotencyKey = initialRecommendationKey c.id ∧ p.caseId = c.id ∧
        p.actionId = some a.id := by
  refine .query_bind fun existing => ?_
  cases existing with
  | some action =>
    refine .require_bind fun hcase => .query_bind fun _ => .require_bind fun _ => .pure ?_
    rintro t ⟨⟨rfl, hex⟩, -⟩
    exact .inl ⟨rfl, hex, of_decide_eq_true hcase⟩
  | none =>
    rintro _ ⟨rfl, -⟩
    rename_i db
    refine Tx.Ensures.bind (P := (· = db)) rankedDecision_spec (fun ranked => ?_) db rfl
    dsimp only
    refine .attempt_bind (.attempt_bind (.pure ?_))
    rintro t ⟨db₁, ⟨_, ⟨rfl, -⟩, h₁⟩, ht⟩
    exact .inr ⟨_, db₁, _, h₁, ht, rfl, rfl, rfl, rfl⟩

/-- The authorization of a reconciliation is the one that is there, scheduled again, or a new
one. -/
lemma ensureReconciliationAuthorization_spec {c : RecoveryCase} {db : Database} :
    Tx.Ensures (· = db) (ensureReconciliationAuthorization platform call c) fun a t =>
      (∃ a₀ ∈ db.actions, a₀.idempotencyKey = reconciliationKey c.id ∧ a₀.caseId = c.id ∧
        a = { a₀ with status := .scheduled, scheduledFor := none, completedAt := none } ∧
        t = db.putAction a) ∨
      ((∀ x ∈ db.actions, x.idempotencyKey ≠ reconciliationKey c.id) ∧
        ∃ p, db.insertActionWithPolicy a p = some t ∧ a.caseId = c.id ∧
        a.idempotencyKey = reconciliationKey c.id ∧ p.caseId = c.id ∧ p.actionId = some a.id) := by
  refine .query_bind fun existing => ?_
  cases existing with
  | some action =>
    refine .query_bind fun policies => .require_bind fun hok => ?_
    dsimp only
    refine .bind (.modify ?_) fun _ => .pure fun _ h => h
    rintro t ⟨⟨rfl, hf⟩, -⟩
    have hkey : action.idempotencyKey = reconciliationKey c.id := by simpa using List.find?_some hf
    simp only [Bool.and_eq_true, decide_eq_true_eq] at hok
    exact .inl ⟨action, List.mem_of_find?_eq_some hf, hkey, hok.1.1.1, rfl, rfl⟩
  | none =>
    refine .query_bind fun evaluatedAt => ?_
    dsimp only
    refine .bind (.attempt ?_) fun _ => .pure fun _ h => h
    rintro t ⟨⟨rfl, hf⟩, -⟩ t' ht'
    refine .inr ⟨fun x hx hkey => ?_, _, ht', rfl, rfl, rfl, rfl⟩
    have := List.find?_eq_none.mp hf x hx
    simp [hkey] at this

/-! ## The action that the effects name -/

/-- The names under which the effects carry an action. -/
def actionNames : List String := ["recommended_action_id", "reconciliation_action_id"]

/-- The effects of an event, as long as nothing is authorized. -/
def Unnamed (effects : List (String × Json)) : Prop :=
  ∀ name ∈ actionNames, Json.get effects name = .null

lemma Json.get_append {fields more : List (String × Json)} {name : String}
    (h : Json.get fields name = .null) {id : String}
    (hget : Json.get (fields ++ more) name = .str id) : Json.get more name = .str id := by
  unfold Json.get at h hget ⊢
  rw [List.find?_append] at hget
  cases hf : fields.find? fun f => f.1 = name with
  | none =>
    rw [hf] at hget
    exact hget
  | some field =>
    rw [hf] at h hget
    exact absurd (h.symm.trans hget) (by simp)

lemma applyMessage_unnamed :
    Tx.Ensures (fun _ => True) (applyMessage platform call payload) fun r _ => Unnamed r.2.1 := by
  refine .skip fun inbox => .skip fun correlation =>
    .bind (Q := fun r _ => Unnamed r.1) ?_ fun r => .pure fun _ h => h
  dsimp only [applyEvent]
  split_ifs
  · refine .skip fun _ => .skip fun _ => .skip fun _ => .skip fun _ => .skip fun _ =>
      .skip fun _ => .skip fun ⟨_, _⟩ => .skip fun _ => .skip fun _ => .pure fun _ _ => ?_
    simp [Unnamed, actionNames, Json.get]
  · refine .skip fun _ => .skip fun _ => .skip fun _ => .skip fun _ => .skip fun _ =>
      .skip fun _ => .skip fun _ => .skip fun _ => .skip fun _ => .skip fun _ => .skip fun _ =>
      .skip fun _ => .skip fun _ => .skip fun _ => .skip fun _ => .pure fun _ _ => ?_
    simp [Unnamed, actionNames, Json.get]
  · refine .skip fun _ => .skip fun _ => .skip fun _ => .skip fun _ => .skip fun _ =>
      .pure fun _ _ => ?_
    simp [Unnamed, actionNames, Json.get]
  · exact .throw

/-- What an authorization adds to the effects names its action, and no other. -/
lemma get_authorization {key name actionId id : String} {kind surface : Json}
    (hname : name ∈ actionNames) (hkey : key ∈ actionNames)
    (h : Json.get [(key, .str actionId), ("recommended_action_type", kind),
      ("recommended_payment_surface_type", surface)] name = .str id) : actionId = id := by
  simp only [actionNames, List.mem_cons, List.not_mem_nil, or_false] at hname hkey
  rcases hname with rfl | rfl <;> rcases hkey with rfl | rfl <;> simp_all [Json.get]

/-- An action that the effects name is one that was authorized: a row of the case. -/
lemma authorize_names {effects : List (String × Json)} {recoveryCase : Option RecoveryCase}
    {db : Database} (hnone : Unnamed effects) :
    Tx.Ensures (· = db) (authorize platform call payload effects recoveryCase) fun more t =>
      ∀ name ∈ actionNames, ∀ id, Json.get (more.getD effects) name = .str id → more.isSome = true ∧
        ∃ a ∈ t.actions, a.id = id ∧ recoveryCase.map (·.id) = some a.caseId := by
  unfold authorize
  split_ifs
  · refine .expect_bind fun c hc => .bind ensureInitialRecommendation_spec fun a => .pure ?_
    subst hc
    rintro t hspec name hname id hget
    have hid := get_authorization hname (by simp [actionNames])
      (Json.get_append (hnone name hname) hget)
    have hcase : a.caseId = c.id := by
      rcases hspec with ⟨-, -, h⟩ | ⟨_, _, _, -, -, h, -⟩ <;> exact h
    refine ⟨rfl, a, ?_, hid, congrArg _ hcase.symm⟩
    rcases hspec with ⟨rfl, hex, -⟩ | ⟨p, db₁, e, hins, hev, -⟩
    · exact (List.mem_filter.mp (mem_of_first hex)).1
    · obtain ⟨_, -, rfl⟩ := Option.map_eq_some_iff.mp hev
      show a ∈ db₁.actions
      rw [(insertActionWithPolicy_fresh hins).2.1]
      exact List.mem_append_right _ List.mem_cons_self
  · refine .expect_bind fun c hc => .bind ensureReconciliationAuthorization_spec fun a => .pure ?_
    subst hc
    rintro t hspec name hname id hget
    have hid := get_authorization hname (by simp [actionNames])
      (Json.get_append (hnone name hname) hget)
    refine ⟨rfl, a, ?_, hid, ?_⟩
    · rcases hspec with ⟨a₀, ha₀, -, -, rfl, rfl⟩ | ⟨-, p, hins, -⟩
      · exact mem_put_self ha₀ rfl
      · rw [(insertActionWithPolicy_fresh hins).2.1]
        exact List.mem_append_right _ List.mem_cons_self
    · rcases hspec with ⟨a₀, -, -, hcase, rfl, -⟩ | ⟨-, p, -, hcase, -⟩ <;>
        exact congrArg _ hcase.symm
  · refine .pure fun t _ name hname id hget => ?_
    exact absurd ((hnone name hname).symm.trans hget) (by simp)

end

end RecoveryOS.Webhook
