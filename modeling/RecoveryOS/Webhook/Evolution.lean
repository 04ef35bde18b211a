import RecoveryOS.Core.Effects
import RecoveryOS.Webhook.Processor

/-!
# The processor's effects

A call of `process_next` evolves the database by effects (`processNext_evolves`), whatever the
provider answers and whichever commits fail. The case that an event is applied to is one of the
table's throughout, so a recommendation is decided on the row as it stands.
-/

namespace RecoveryOS.Webhook

open Store Table RecoveryOS.Core

section
variable {platform : Platform} {call : Call} {payload : RazorpayOutboxPayload} {db₀ : Database}
  {rows : List RecoveryCase} {W : Scope}

/-! ## Correlation -/

lemma lockInbox_readOnly : Tx.ReadOnly (lockInbox payload) := by
  rw [Tx.readOnly_iff]
  intro db
  refine .query_bind fun found => .expect_bind fun inbox _ => .require_bind fun _ => .pure ?_
  exact fun t ht => ht.1

/-- An insertion leaves the tables of the other rows alone. -/
lemma cases_of_insert {db db' : Database} {α : Type} {o : Option α} {f : α → Database}
    (h : o.map f = some db') (hf : ∀ a, (f a).cases = db.cases) : db'.cases = db.cases := by
  obtain ⟨a, -, rfl⟩ := Option.map_eq_some_iff.mp h
  exact hf a

/-- The merchant's invoice with an id of the provider. -/
def IsInvoice (payload : RazorpayOutboxPayload) (id : String) (i : Invoice) (db : Database) : Prop :=
  i ∈ db.invoices ∧ i.merchantId = payload.merchantId ∧ i.providerInvoiceId = id

lemma isInvoice_of_find {db : Database} {id : String} {i : Invoice}
    (h : findInvoice payload.merchantId id db = some i) : IsInvoice payload id i db := by
  have hi := List.find?_some h
  simp only [decide_eq_true_eq] at hi
  exact ⟨List.mem_of_find?_eq_some h, hi⟩

lemma hydrateWebhookInvoice_evolves {id : String} :
    Tx.Ensures (fun db => EvolvesOf W db₀ db ∧ db.cases = rows)
      (hydrateWebhookInvoice platform call payload id)
      fun i db => (EvolvesOf W db₀ db ∧ db.cases = rows) ∧ IsInvoice payload id i db := by
  refine .expect_bind fun fetch _ => .call_bind fun snapshot _ => .require_bind fun htrust =>
    .require_bind fun _ => .query_bind fun found => .expect_bind fun subscription _ =>
    .require_bind fun _ => .query_bind fun existing => ?_
  simp only [Bool.and_eq_true, decide_eq_true_eq] at htrust
  obtain rfl := htrust.2
  cases existing with
  | some invoice =>
    exact .require_bind fun _ => .pure fun db hdb => ⟨hdb.1.1, isInvoice_of_find hdb.2⟩
  | none =>
    refine .bind (Q := fun _ db => (EvolvesOf W db₀ db ∧ db.cases = rows) ∧
      IsInvoice payload snapshot.invoiceId
        (hydratedInvoice platform payload.merchantId subscription snapshot) db) (.attempt ?_) fun _ =>
      .bind (.modifyIf ?_ fun _ h => h) fun _ => .pure fun _ h => h
    · rintro db ⟨⟨⟨h, rfl⟩, -⟩, -⟩ db' hdb'
      refine ⟨⟨h.effect (.invoice _ hdb'), cases_of_insert hdb' fun _ => rfl⟩, ?_, rfl, rfl⟩
      obtain ⟨invoices, hinvoices, rfl⟩ := Option.map_eq_some_iff.mp hdb'
      obtain ⟨-, -, rfl⟩ := insert_eq_some hinvoices
      exact List.mem_append_right _ List.mem_cons_self
    · rintro db ⟨⟨h, rfl⟩, hi⟩
      exact ⟨⟨h.other ⟨rfl, rfl, rfl, rfl, rfl, rfl, rfl, rfl, rfl, map_key_put⟩, rfl⟩, hi⟩

/-- The invoice of a correlation: the one that the event names, or else that of the case which the
event names. -/
def IsCorrelated (payload : RazorpayOutboxPayload) (named : Option RecoveryCase)
    (o : Option Invoice) (db : Database) : Prop :=
  ∀ i, o = some i → i ∈ db.invoices ∧ i.merchantId = payload.merchantId ∧
    (∀ x, truthy payload.event.invoiceId = some x → i.providerInvoiceId = x) ∧
    (truthy payload.event.invoiceId = none → named.isSome = true)

lemma correlateInvoice_evolves {named : Option RecoveryCase} :
    Tx.Ensures (fun db => EvolvesOf W db₀ db ∧ db.cases = rows)
      (correlateInvoice platform call payload named)
      fun o db => (EvolvesOf W db₀ db ∧ db.cases = rows) ∧ IsCorrelated payload named o db := by
  unfold correlateInvoice
  split
  · next id hid =>
    -- the event names the invoice
    have hnamed : ∀ {i db}, IsInvoice payload id i db → IsCorrelated payload named (some i) db := by
      rintro i db ⟨hmem, hm, hp⟩ x hx
      obtain rfl := Option.some.inj hx
      refine ⟨hmem, hm, fun y hy => ?_, fun hnone => ?_⟩
      · rw [hid] at hy
        rw [hp, Option.some.inj hy]
      · rw [hid] at hnone
        cases hnone
    refine .query_bind fun found => ?_
    cases found with
    | some invoice => exact .pure fun _ h => ⟨h.1, hnamed (isInvoice_of_find h.2)⟩
    | none =>
      refine .bind (hydrateWebhookInvoice_evolves.strengthen fun _ h => h.1) fun _ => ?_
      exact .pure fun _ h => ⟨h.1, hnamed h.2⟩
  · next id hid hcase =>
    refine .query fun db h => ⟨h, fun i hi => ?_⟩
    have hfound := List.find?_some hi
    simp only [decide_eq_true_eq] at hfound
    refine ⟨List.mem_of_find?_eq_some hi, hfound.2, fun x hx => ?_, fun _ => ?_⟩
    · rw [hid] at hx
      cases hx
    · obtain ⟨c, hc, -⟩ := Option.bind_eq_some_iff.mp hcase
      rw [hc]
      rfl
  · exact .pure fun _ h => ⟨h, fun i hi => by cases hi⟩

lemma correlateSubscription_readOnly {recoveryCase : Option RecoveryCase}
    {invoice : Option Invoice} :
    Tx.ReadOnly (correlateSubscription payload recoveryCase invoice) := by
  rw [Tx.readOnly_iff]
  intro db
  unfold correlateSubscription
  split
  · exact .query_bind fun found => .expect_bind fun s _ => .pure fun _ h => h.1
  · exact .query fun _ h => h
  · exact .query fun _ h => h
  · exact .pure fun _ h => h

lemma mem_of_fallbackCase {merchantId : String} {recoveryCase : Option RecoveryCase}
    {invoice : Option Invoice} {subscription : Option Subscription} {db : Database}
    {c : RecoveryCase} (hc : ∀ c, recoveryCase = some c → c ∈ db.cases)
    (h : fallbackCase merchantId recoveryCase invoice subscription db = some c) : c ∈ db.cases := by
  unfold fallbackCase at h
  split at h
  · exact hc c h
  · exact List.mem_of_find?_eq_some h
  · exact (List.mem_filter.mp (mem_of_first h)).1
  · cases h

/-- The database has evolved, and the case at hand is in it. -/
def Holds (W : Scope) (db₀ : Database) (recoveryCase : Option RecoveryCase)
    (db : Database) : Prop :=
  EvolvesOf W db₀ db ∧ ∀ c, recoveryCase = some c → c ∈ db.cases

lemma Holds.congr {db db' : Database} {recoveryCase : Option RecoveryCase}
    (h : Holds W db₀ recoveryCase db) (he : EvolvesOf W db₀ db') (hc : db'.cases = db.cases) :
    Holds W db₀ recoveryCase db' :=
  ⟨he, by rw [hc]; exact h.2⟩

/-- The case and the invoice of a correlation are those that the event names. -/
def Correlated (payload : RazorpayOutboxPayload) (correlation : Correlation) (db : Database) : Prop :=
  ∀ c i, correlation.recoveryCase = some c → correlation.invoice = some i →
    Names payload c i ∧ i ∈ db.invoices

/-- The case that the event names. -/
lemma correlateCase_spec {db : Database} :
    Tx.Ensures (· = db) (correlateCase payload) fun found db' => db' = db ∧
      ∀ c, found = some c → c ∈ db.cases ∧ c.merchantId = payload.merchantId ∧
        truthy payload.event.caseId = some c.id := by
  unfold correlateCase
  split
  · exact .pure fun _ h => ⟨h, fun c hc => by cases hc⟩
  · next id hid =>
    refine .query_bind fun found => .expect_bind fun c hc => .pure ?_
    rintro db' ⟨rfl, hf⟩
    refine ⟨rfl, fun c' hc' => ?_⟩
    obtain rfl := Option.some.inj hc'
    rw [hc] at hf
    have hfound := List.find?_some hf
    simp only [decide_eq_true_eq] at hfound
    refine ⟨List.mem_of_find?_eq_some hf, hfound.2, ?_⟩
    rw [hid, hfound.1]

lemma names_of_correlate {named : Option RecoveryCase} {invoice : Option Invoice}
    {subscription : Option Subscription} {db : Database} {c : RecoveryCase} {i : Invoice}
    (hnamed : ∀ c, named = some c → c.merchantId = payload.merchantId ∧
      truthy payload.event.caseId = some c.id)
    (hinvoice : IsCorrelated payload named invoice db)
    (hagree : agree named invoice (fun c i => decide (c.failedInvoiceId = some i.id)) = true)
    (hc : fallbackCase payload.merchantId named invoice subscription db = some c)
    (hi : invoice = some i) : Names payload c i := by
  obtain ⟨hmem, hm, hname, hcase⟩ := hinvoice i hi
  subst hi
  cases named with
  | some c₀ =>
    obtain rfl : c₀ = c := Option.some.inj hc
    obtain ⟨hcm, hcid⟩ := hnamed c₀ rfl
    exact ⟨hcm, hm, of_decide_eq_true hagree, hname, fun _ => hcid⟩
  | none =>
    have hfound := List.find?_some hc
    simp only [decide_eq_true_eq] at hfound
    refine ⟨hfound.1, hm, hfound.2, hname, fun hnone => ?_⟩
    have := hcase hnone
    cases this

lemma correlate_holds :
    Tx.Ensures (EvolvesOf W db₀) (correlate platform call payload) fun correlation db =>
      Holds W db₀ correlation.recoveryCase db ∧ Correlated payload correlation db ∧
        IsCorrelated payload correlation.recoveryCase correlation.invoice db := by
  -- the table of cases stays as the first query saw it
  intro db hdb
  refine Tx.Ensures.bind (P := (· = db)) correlateCase_spec (fun named => ?_) db rfl
  refine .bind (Q := fun invoice db' => ((EvolvesOf W db₀ db' ∧ db'.cases = db.cases) ∧
    IsCorrelated payload named invoice db') ∧ ∀ c, named = some c → c ∈ db.cases ∧
      c.merchantId = payload.merchantId ∧ truthy payload.event.caseId = some c.id) ?_ fun invoice => ?_
  · rintro db' ⟨rfl, hf⟩ i t ht
    exact ⟨correlateInvoice_evolves _ ⟨hdb, rfl⟩ i t ht, hf⟩
  · refine .bind (correlateSubscription_readOnly.ensures fun _ h _ => h) fun subscription =>
      .require_bind fun _ => .require_bind fun hagree => .require_bind fun _ =>
      .query_bind fun correlated => .pure ?_
    rintro db' ⟨⟨⟨⟨h, hcases⟩, hinvoice⟩, hf⟩, hq⟩
    refine ⟨⟨h, fun c hc => mem_of_fallbackCase (fun c hc => ?_) (hq.trans hc)⟩, ?_, ?_⟩
    · rw [hcases]
      exact (hf c hc).1
    · intro c i hc hi
      exact ⟨names_of_correlate (fun c hc => (hf c hc).2) hinvoice hagree (hq.trans hc) hi,
        (hinvoice i hi).1⟩
    · intro i hi
      obtain ⟨hmem, hm, hname, hnone⟩ := hinvoice i hi
      refine ⟨hmem, hm, hname, fun hn => ?_⟩
      obtain ⟨c, rfl⟩ := Option.isSome_iff_exists.mp (hnone hn)
      rw [← hq]
      rfl

lemma addAuditEvent_holds {recoveryCase : RecoveryCase} {event : NormalizedRazorpayEvent}
    {held : Option RecoveryCase} :
    Tx.Ensures (Holds W db₀ held) (addAuditEvent recoveryCase event) fun _ => Holds W db₀ held := by
  refine .query_bind fun existing => ?_
  split_ifs
  · exact .pure fun _ h => h.1
  · refine .attempt ?_
    rintro db ⟨h, -⟩ db' hdb'
    exact h.congr (h.1.effect (.event _ hdb')) (cases_of_insert hdb' fun _ => rfl)

/-! ## A failed payment -/

lemma failedAttempt_evolves {invoice : Invoice} {subscription : Subscription}
    {id currency : String} {amount : ℤ} :
    Tx.Ensures (fun db => EvolvesOf W db₀ db ∧ db.cases = rows)
      (failedAttempt platform payload invoice subscription id amount currency)
      fun _ db => EvolvesOf W db₀ db ∧ db.cases = rows := by
  refine .query_bind fun found => ?_
  cases found with
  | none =>
    refine .call_bind fun _ _ => .call_bind fun _ _ => .call_bind fun _ _ => .call_bind fun _ _ =>
      .call_bind fun _ _ => .bind (.attempt ?_) fun _ => .pure fun _ h => h
    rintro db ⟨⟨h, rfl⟩, -⟩ db' hdb'
    exact ⟨h.effect (.payment _ hdb'), cases_of_insert hdb' fun _ => rfl⟩
  | some payment =>
    refine .require_bind fun _ => ?_
    split_ifs with hstale
    · refine .call_bind fun _ _ => .call_bind fun _ _ => .call_bind fun _ _ =>
        .call_bind fun _ _ => .bind (.modify ?_) fun _ => .pure fun _ h => h
      rintro db ⟨⟨h, rfl⟩, hf⟩
      refine ⟨h.effect (.attempt (List.mem_of_find?_eq_some hf) ⟨rfl, rfl, rfl, rfl, ?_⟩), rfl⟩
      exact fun hcap => absurd hcap hstale.1
    · exact .pure fun _ h => h.1

lemma createCaseForFailure_holds {invoice : Invoice} {subscription : Subscription}
    {payment : PaymentAttempt} :
    Tx.Ensures (EvolvesOf W db₀)
      (createCaseForFailure platform payload invoice subscription payment)
      fun c => Holds W db₀ (some c) := by
  refine .query_bind fun found => .expect_bind fun customer _ => .require_bind fun hrisk =>
    .call_bind fun diagnosis _ => .bind (Q := fun _ => Holds W db₀ (some
      (caseForFailure platform payload invoice subscription customer payment diagnosis)))
      (.attempt ?_) fun _ => .pure fun _ h => h
  rintro db ⟨h, -⟩ db' hdb'
  refine ⟨h.effect (.opened hdb' ⟨rfl, rfl, rfl, of_decide_eq_true hrisk, rfl, ?_⟩), fun c hc => ?_⟩
  · simp [caseForFailure]
  · obtain rfl := Option.some.inj hc
    obtain ⟨rows, hrows, rfl⟩ := Option.map_eq_some_iff.mp hdb'
    obtain ⟨-, -, rfl⟩ := insert_eq_some hrows
    exact List.mem_append_right _ List.mem_cons_self

lemma failedCase_holds {correlation : Correlation} {invoice : Invoice} {subscription : Subscription}
    {payment : PaymentAttempt} {stateApplied : Bool} :
    Tx.Ensures (Holds W db₀ correlation.recoveryCase)
      (failedCase platform payload correlation invoice subscription payment stateApplied)
      fun c => Holds W db₀ (some c) := by
  unfold failedCase
  cases hcase : correlation.recoveryCase with
  | none => exact createCaseForFailure_holds.strengthen fun _ h => h.1
  | some c =>
    simp only
    split_ifs with happlied
    · refine .bind (Q := fun _ => Holds W db₀ (some { c with
        paymentState := .failed, failedPaymentId := some payment.id, version := c.version + 1 }))
        (.modify ?_) fun _ => .pure fun _ h => h
      rintro db ⟨h, hc⟩
      have hmem := hc c rfl
      refine ⟨h.effect (.noted hmem ⟨⟨rfl, rfl, rfl, rfl, rfl, rfl, rfl, rfl, by simp, id⟩, rfl, rfl, rfl,
        rfl, fun hcap => absurd hcap happlied.2, fun hcap => ?_⟩), ?_⟩
      · cases hcap
      · intro c' hc'
        obtain rfl := Option.some.inj hc'
        exact mem_put_self hmem rfl
    · exact .pure fun _ h => h

lemma applyPaymentFailed_holds {correlation : Correlation} :
    Tx.Ensures (Holds W db₀ correlation.recoveryCase)
      (applyPaymentFailed platform payload correlation) fun r => Holds W db₀ r.2 := by
  refine .expect_bind fun invoice _ => .expect_bind fun subscription _ => .expect_bind fun _ _ =>
    .expect_bind fun _ _ => .expect_bind fun _ _ => .require_bind fun _ => ?_
  refine .bind (Q := fun _ => Holds W db₀ correlation.recoveryCase)
    ?_ fun attempt => .bind failedCase_holds fun recoveryCase =>
      .bind addAuditEvent_holds fun _ => .pure fun _ h => h
  intro db h a db' he
  obtain ⟨h', hcases⟩ := failedAttempt_evolves db ⟨h.1, rfl⟩ a db' he
  exact h.congr h' hcases

/-! ## A capture -/

/-- The attempt is at the invoice, and in the table. -/
def IsAttempt (i : Invoice) (p : PaymentAttempt) (db : Database) : Prop :=
  p ∈ db.payments ∧ p.invoiceId = i.id

lemma capturedAttempt_evolves {invoice : Invoice} {subscription : Subscription}
    {snapshot : PaymentSnapshot} {id : String} {invoices : List Invoice} :
    Tx.Ensures (fun db => EvolvesOf W db₀ db ∧ db.cases = rows ∧ db.invoices = invoices)
      (capturedAttempt platform payload invoice subscription snapshot id)
      fun p db => (EvolvesOf W db₀ db ∧ db.cases = rows ∧ db.invoices = invoices) ∧
        IsAttempt invoice p db := by
  refine .query_bind fun found => ?_
  cases found with
  | none =>
    refine .call_bind fun method _ => ?_
    dsimp only
    refine .bind (.attempt ?_) fun _ => .pure fun _ h => h
    rintro db ⟨⟨h, rfl, rfl⟩, -⟩ db' hdb'
    have he := h.effect (.payment _ hdb')
    obtain ⟨payments, hpayments, rfl⟩ := Option.map_eq_some_iff.mp hdb'
    obtain ⟨-, -, rfl⟩ := insert_eq_some hpayments
    exact ⟨⟨he, rfl, rfl⟩, List.mem_append_right _ List.mem_cons_self, rfl⟩
  | some payment =>
    refine .require_bind fun hinvoice => ?_
    dsimp only
    refine .bind (.modify ?_) fun _ => .pure fun _ h => h
    rintro db ⟨⟨h, rfl, rfl⟩, hf⟩
    have hmem := List.mem_of_find?_eq_some hf
    exact ⟨⟨h.effect (.attempt hmem ⟨rfl, rfl, rfl, rfl, fun _ => rfl⟩), rfl, rfl⟩,
      mem_put_self hmem rfl, of_decide_eq_true hinvoice⟩

/-- Settling the case completes an effect: the totals of `settled` are those of a case in the
table, moved by what was recognized since. -/
def Settling (W : Scope) (db₀ : Database) (settled : RecoveryCase)
    (db : Database) : Prop :=
  (∃ c ∈ db.cases, c.id = settled.id) ∧
  ∀ c' t, SameCase settled c' → c'.contactDisposition = settled.contactDisposition →
    c'.arrearsCollectedPaise = settled.arrearsCollectedPaise →
    (c'.caseRecovered = true ↔ c'.amountAtRiskPaise ≤ c'.arrearsCollectedPaise) →
    (c'.caseRecovered = true → c'.caseOutcome = .recovered) →
    (c'.caseRecovered = false → c'.caseOutcome = .recovered →
      settled.caseOutcome = .recovered) →
    (c'.caseOutcome = .open → settled.caseOutcome = .open) → c'.paymentState = .captured →
    EvolvesOf W db₀ (db.settle c' t)

lemma cases_settle (c : RecoveryCase) (t : Instant) (db : Database) :
    (db.settle c t).cases = Table.put (·.id) db.cases c := by
  unfold Database.settle
  split_ifs <;> rfl

lemma Settling.settle {c : RecoveryCase} {db : Database} (h : Settling W db₀ c db)
    (event : NormalizedRazorpayEvent) (snapshot : PaymentSnapshot)
    (outcome : PaymentRecoveryOutcome) :
    Holds W db₀ (some (capturedCase c event snapshot outcome))
      (db.settle (capturedCase c event snapshot outcome) event.occurredAt) := by
  refine ⟨h.2 _ _ ⟨rfl, rfl, rfl, rfl, rfl, rfl, rfl, rfl, le_rfl, id⟩ rfl rfl decide_eq_true_iff
    (fun hrec => if_pos hrec) (fun hrec hout => ?_) (fun hopen => ?_) rfl, ?_⟩
  · -- a case that is not recovered keeps its outcome, or is recovered in part
    simp only [capturedCase] at hrec hout
    rw [if_neg (by rw [hrec]; simp)] at hout
    split_ifs at hout
    exact hout
  · simp only [capturedCase] at hopen
    split_ifs at hopen
    exact hopen
  · intro c' hc'
    obtain rfl := Option.some.inj hc'
    obtain ⟨x, hx, hxid⟩ := h.1
    rw [cases_settle]
    exact mem_put_self hx hxid

/-- A capture at the point where its payment is written. -/
structure Capturing (W : Scope) (db₀ : Database)
    (payload : RazorpayOutboxPayload) (c : RecoveryCase) (i : Invoice) (p : PaymentAttempt)
    (db : Database) : Prop where
  holds : Holds W db₀ (some c) db
  names : Names payload c i
  invoice : i ∈ db.invoices
  attempt : IsAttempt i p db

lemma recognize_settling (hW : W.event payload) {c : RecoveryCase} {invoice : Invoice}
    {payment : PaymentAttempt} {snapshot : PaymentSnapshot} {outcome : PaymentRecoveryOutcome} :
    Tx.Ensures
      (fun db => Capturing W db₀ payload c invoice payment db ∧
        existingRecognition payload payment db = none)
      (recognize payload c invoice payment snapshot outcome) (Settling W db₀) := by
  refine .require_bind fun hamount => ?_
  simp only [Bool.and_eq_true, decide_eq_true_eq] at hamount
  have hle := le_min_iff.mp hamount.2
  intro db ⟨⟨⟨h, hc⟩, hnames, hinvoice, hattempt⟩, hnone⟩
  -- no recognition of the payment stands
  have hfirst : ∀ s ∈ db.recognitions, s.merchantId = payload.merchantId →
      s.provider = "razorpay" → s.paymentAttemptId ≠ some payment.id := by
    intro s hs hm hv hp
    have := List.find?_eq_none.mp hnone s hs
    simp [hm, hv, hp] at this
  refine Tx.Ensures.bind (P := (· = db)) (.attempt (Q := fun _ t => ∃ db', db.insertRecognition
    { caseId := c.id, merchantId := payload.merchantId, paymentAttemptId := some payment.id
      provider := "razorpay", providerEventId := payload.event.providerEventId
      amountPaise := snapshot.amountPaise, attribution := .razorpayTestVerified
      arrearsCollected := true, subscriptionReactivated := outcome.subscriptionReactivated
      recognizedAt := payload.event.occurredAt } = some db' ∧ t = db') ?_)
    (fun _ => .bind (.modify (Q := fun _ t => Settling W db₀
      { c with
        arrearsCollectedPaise := c.arrearsCollectedPaise + snapshot.amountPaise
        revenueAttribution := .razorpayTestVerified
        version := c.version + 1 } t) ?_) fun _ => .pure fun t ht => ht) db rfl
  · rintro _ rfl t ht
    exact ⟨t, ht, rfl⟩
  · rintro t ⟨db', hdb', rfl⟩
    have hcases : t.cases = db.cases := cases_of_insert hdb' fun _ => rfl
    have hbump : SameCase c { c with
        arrearsCollectedPaise := c.arrearsCollectedPaise + snapshot.amountPaise
        revenueAttribution := .razorpayTestVerified
        version := c.version + 1 } :=
      ⟨rfl, rfl, rfl, rfl, rfl, rfl, rfl, rfl, by simp, fun _ => by simp⟩
    refine ⟨⟨c, ?_, rfl⟩, fun c' at_ hsame hdisp hcol hrec hout honly hopen hcap =>
      h.effect ?_⟩
    · show c ∈ t.cases
      rw [hcases]
      exact hc c rfl
    · exact .recognized at_ hdb'
        { mem := hc c rfl
          caseId := rfl
          merchantId := hnames.merchantId.symm
          first := ⟨payment, rfl, hfirst⟩
          attempt := ⟨payment, hattempt.1, rfl, by rw [hattempt.2]; exact hnames.failedInvoiceId⟩
          origin := fun _ => ⟨payload, hW, hnames, rfl⟩
          invoice := hinvoice
          withinInvoice := fun _ => hle.1
          withinCase := hle.2
          invoiceId := rfl
          invoiceMerchantId := rfl
          providerInvoiceId := rfl
          due := rfl
          paid := (min_eq_right (by show _ + snapshot.amountPaise ≤ _; omega)).symm
          captured :=
            { hbump.trans hsame with
              disposition := hdisp
              collected := hcol
              recovered := hrec
              outcome := hout
              outcomeOnly := honly
              openOnly := fun ho => hopen ho
              captured := hcap
              attribution := fun _ => hsame.attributed (by simp) } }

/-- A capture that finds its recognition changes no total. -/
lemma settleCase_standing (hW : W.event payload) {c : RecoveryCase} {invoice : Invoice}
    {payment : PaymentAttempt} {snapshot : PaymentSnapshot} {outcome : PaymentRecoveryOutcome}
    {r : RevenueRecognitionRecord} :
    Tx.Ensures
      (fun db => Capturing W db₀ payload c invoice payment db ∧
        existingRecognition payload payment db = some r)
      (settleCase payload c invoice payment snapshot outcome (some r)) (Settling W db₀) := by
  refine .pure ?_
  rintro db ⟨⟨⟨h, hc⟩, hnames, hinvoice, hattempt⟩, hfound⟩
  have hr := List.find?_some hfound
  simp only [decide_eq_true_eq] at hr
  have hstanding : Standing W.event db c := ⟨payload, invoice, payment, r, hW, hnames, hinvoice,
    hattempt.1, hattempt.2, List.mem_of_find?_eq_some hfound, hr.1, hr.2.1, hr.2.2⟩
  set settled := if secondaryCaseChange c snapshot outcome then
    { c with version := c.version + 1 } else c with hsettled
  have hsame : SameCase c settled := by
    rw [hsettled]
    split_ifs
    · exact ⟨rfl, rfl, rfl, rfl, rfl, rfl, rfl, rfl, by simp, id⟩
    · exact ⟨rfl, rfl, rfl, rfl, rfl, rfl, rfl, rfl, le_rfl, id⟩
  have hkept : settled.contactDisposition = c.contactDisposition ∧
      settled.arrearsCollectedPaise = c.arrearsCollectedPaise ∧
      settled.caseOutcome = c.caseOutcome := by
    rw [hsettled]
    split_ifs <;> exact ⟨rfl, rfl, rfl⟩
  refine ⟨⟨c, hc c rfl, hsame.id.symm⟩, fun c' at_ hs hdisp hcol hrec hout honly hopen hcap => ?_⟩
  refine h.effect (.captured at_ (hc c rfl)
    { hsame.trans hs with
      disposition := hdisp.trans hkept.1
      collected := ?_
      recovered := hrec
      outcome := hout
      outcomeOnly := fun hnot ho => hkept.2.2 ▸ honly hnot ho
      openOnly := fun ho => hkept.2.2 ▸ hopen ho
      captured := hcap
      attribution := fun hne => absurd rfl hne } hstanding)
  rw [hcol, add_zero, hkept.2.1]

lemma applyCaptured_holds (hW : W.event payload) {correlation : Correlation} :
    Tx.Ensures
      (fun db => Holds W db₀ correlation.recoveryCase db ∧ Correlated payload correlation db)
      (applyCaptured platform call payload correlation) fun r => Holds W db₀ r.2 := by
  refine .expect_bind fun c hcase => .expect_bind fun invoice hinvoice =>
    .expect_bind fun subscription _ => .call_bind fun snapshot _ => .call_bind fun outcome _ =>
    .require_bind fun _ => .require_bind fun _ => .require_bind fun _ => .expect_bind fun id _ => ?_
  refine .bind (Q := fun payment => Capturing W db₀ payload c invoice payment) ?_ fun payment =>
    .query_bind fun existing => .bind (Q := Settling W db₀) ?_ fun settled => ?_
  · rintro db ⟨h, hcorrelated⟩ a db' he
    obtain ⟨⟨h', hcases, hinvoices⟩, hattempt⟩ :=
      capturedAttempt_evolves db ⟨h.1, rfl, rfl⟩ a db' he
    obtain ⟨hnames, hmem⟩ := hcorrelated c invoice hcase hinvoice
    rw [hcase] at h
    exact ⟨h.congr h' hcases, hnames, hinvoices ▸ hmem, hattempt⟩
  · cases existing with
    | none => exact recognize_settling hW
    | some r => exact settleCase_standing hW
  · refine .bind (Q := fun _ =>
      Holds W db₀ (some (capturedCase settled payload.event snapshot outcome)))
      (.modify fun db h => h.settle _ _ _) fun _ =>
      .bind (Q := fun _ => Holds W db₀ (some (capturedCase settled payload.event snapshot outcome)))
        (.modifyIf (fun db h => ?_) fun _ h => h) fun _ =>
      .bind addAuditEvent_holds fun _ => .pure fun _ h => h
    exact h.congr (h.1.other ⟨rfl, rfl, rfl, rfl, rfl, rfl, rfl, rfl, rfl, map_key_put⟩) rfl

/-! ## A subscription's event -/

lemma newerProcessed_readOnly : Tx.ReadOnly (newerProcessedSubscriptionEventExists payload) := by
  rw [Tx.readOnly_iff]
  intro db
  unfold newerProcessedSubscriptionEventExists
  split
  · exact .pure fun _ h => h
  · exact .query_bind fun entries => .call fun _ _ _ h => h.1

lemma noteSubscriptionState_holds {event : NormalizedRazorpayEvent} {stale : Bool}
    {recoveryCase : Option RecoveryCase} :
    Tx.Ensures (Holds W db₀ recoveryCase) (noteSubscriptionState event stale recoveryCase)
      fun r => Holds W db₀ r := by
  cases recoveryCase with
  | none => exact .pure fun _ h => h
  | some c =>
    cases stale with
    | true =>
      exact .bind (Q := fun _ => Holds W db₀ (some c)) (.modify fun _ h => h) fun _ =>
        .bind addAuditEvent_holds fun _ => .pure fun _ h => h
    | false =>
      refine .bind (Q := fun _ => Holds W db₀ (some { c with
        subscriptionState := event.subscriptionState, version := c.version + 1 }))
        (.modify ?_) fun _ => .bind addAuditEvent_holds fun _ => .pure fun _ h => h
      rintro db ⟨h, hc⟩
      refine ⟨h.effect (.noted (hc c rfl) ⟨⟨rfl, rfl, rfl, rfl, rfl, rfl, rfl, rfl, by simp, id⟩, rfl, rfl,
        rfl, rfl, id, id⟩), ?_⟩
      intro c' hc'
      obtain rfl := Option.some.inj hc'
      exact mem_put_self (hc c rfl) rfl

lemma applySubscriptionOnly_holds {correlation : Correlation} :
    Tx.Ensures (Holds W db₀ correlation.recoveryCase)
      (applySubscriptionOnly payload correlation) fun r => Holds W db₀ r.2 := by
  refine .expect_bind fun subscription _ => .require_bind fun _ =>
    .bind (newerProcessed_readOnly.ensures fun _ h _ => h) fun stale =>
    .bind (.modifyIf (fun db h => ?_) fun _ h => h) fun _ =>
    .bind noteSubscriptionState_holds fun _ => .pure fun _ h => h
  exact h.congr (h.1.other ⟨rfl, rfl, rfl, rfl, rfl, rfl, rfl, rfl, rfl, map_key_put⟩) rfl

lemma applyEvent_holds (hW : W.event payload) {correlation : Correlation} :
    Tx.Ensures
      (fun db => Holds W db₀ correlation.recoveryCase db ∧ Correlated payload correlation db)
      (applyEvent platform call payload correlation) fun r => Holds W db₀ r.2 := by
  dsimp only [applyEvent]
  split_ifs
  · exact applyPaymentFailed_holds.strengthen fun _ h => h.1
  · exact applyCaptured_holds hW
  · exact applySubscriptionOnly_holds.strengthen fun _ h => h.1
  · exact .throw

lemma applyMessage_holds (hW : W.event payload) :
    Tx.Ensures (EvolvesOf W db₀) (applyMessage platform call payload)
      fun r => Holds W db₀ r.2.2 :=
  .bind (lockInbox_readOnly.ensures fun _ h _ => h) fun _ =>
    .bind correlate_holds fun _ =>
    .bind ((applyEvent_holds hW).strengthen fun _ h => ⟨h.1, h.2.1⟩) fun _ => .pure fun _ h => h

/-! ## Durable authorization -/

/-- A decision point is the case at hand under the merchant's policy. -/
lemma decisionPoint_spec {merchantId : String} {c : RecoveryCase} {db : Database} :
    Tx.Ensures (· = db) (decisionPoint platform call merchantId c) fun r t =>
      t = db ∧ r.1.recoveryCase = c := by
  refine .query_bind fun _ => .expect_bind fun _ _ => .query_bind fun _ => .expect_bind fun _ _ =>
    .call_bind fun _ _ => .query_bind fun _ => .expect_bind fun _ _ => ?_
  split_ifs
  · exact .pure fun _ h => ⟨h.1.1.1, rfl⟩
  · exact .throw

/-- The ranked decision is the policy's on the case at hand, and is no block. -/
lemma rankedDecision_spec {merchantId : String} {c : RecoveryCase} {db : Database} :
    Tx.Ensures (· = db) (rankedDecision platform call merchantId c) fun ranked t =>
      t = db ∧ ∃ (point : Decision.DecisionPoint) (d : Safety.SafetyDecision),
        point.recoveryCase = c ∧
        Safety.evaluateSafetyPolicy point.config (point.context ranked.candidate.actionType
          ranked.candidate.paymentSurfaceType ranked.candidate.surface_iff) = .ok d ∧
        ranked.policy = d.toContract ∧ d.disposition ≠ .block := by
  refine .bind decisionPoint_spec fun r => ?_
  obtain ⟨point, customer⟩ := r
  refine .call fun ranked hr t ht => ⟨ht.1, point, ?_⟩
  cases hd : Decision.decide call.scorer
      (point.rankingContext customer call.capabilities c.failedInvoiceId.isSome) point.config with
  | error e => simp [hd, raises] at hr
  | ok result =>
    obtain rfl : result = ranked := by simpa [hd, raises] using hr
    obtain ⟨d, he, hp, hb⟩ := Decision.decide_policy hd
    rw [Decision.rankingContext_forCandidate] at he
    exact ⟨d, ht.2, he, hp, hb⟩

/-- A contact that the policy lets pass is about a case that is open and unpaid. -/
lemma open_of_evaluate {point : Decision.DecisionPoint} {action : RecoveryActionType}
    {surface : Option PaymentSurfaceType}
    {hs : action = .openCustomerPaymentSurface ↔ surface.isSome = true} {d : Safety.SafetyDecision}
    (hc : Safety.isContact action = true)
    (he : Safety.evaluateSafetyPolicy point.config (point.context action surface hs) = .ok d)
    (hd : d.disposition ≠ .block) :
    point.recoveryCase.caseOutcome = .open ∧ point.recoveryCase.paymentState ≠ .captured := by
  have hg : ¬ (point.context action surface hs).Guarded point.config :=
    Safety.not_guarded_of_evaluate hc he hd
  simp only [Safety.SafetyPolicyContext.Guarded, Safety.Guarded, not_or] at hg
  exact ⟨not_not.mp hg.2.2.1, hg.2.2.2.1⟩

lemma ensureInitialRecommendation_evolves {merchantId : String} {c : RecoveryCase} :
    Tx.Ensures (Holds W db₀ (some c)) (ensureInitialRecommendation platform call merchantId c)
      fun _ => EvolvesOf W db₀ := by
  refine .query_bind fun existing => ?_
  cases existing with
  | some action =>
    exact .require_bind fun _ => .query_bind fun _ => .require_bind fun _ =>
      .pure fun _ h => h.1.1.1
  | none =>
    intro db ⟨h, _⟩
    refine Tx.Ensures.bind (P := (· = db)) rankedDecision_spec (fun ranked => ?_) db rfl
    refine .bind (Q := fun _ => EvolvesOf W db₀) (.attempt ?_) fun _ =>
      .bind (Q := fun _ => EvolvesOf W db₀) (.attempt fun _ he _ hdb' => he.effect (.event _ hdb'))
        fun _ => .pure fun _ he => he
    rintro t ⟨rfl, point, d, hpoint, he, hpol, hb⟩ db' hdb'
    refine h.1.effect (.added hdb' ⟨rfl, fun _ => rfl, fun hc _ => ?_⟩)
    obtain ⟨hopen, hcap⟩ := open_of_evaluate hc he hb
    rw [hpoint] at hopen hcap
    exact ⟨c, h.2 c rfl, rfl, hopen, hcap⟩

lemma ensureReconciliationAuthorization_evolves {c : RecoveryCase} :
    Tx.Ensures (EvolvesOf W db₀) (ensureReconciliationAuthorization platform call c)
      fun _ => EvolvesOf W db₀ := by
  refine .query_bind fun existing => ?_
  cases existing with
  | some action =>
    refine .query_bind fun policies => .require_bind fun hok => .bind (.modify ?_) fun _ =>
      .pure fun _ h => h
    rintro db ⟨⟨h, hf⟩, -⟩
    simp only [Bool.and_eq_true, decide_eq_true_eq] at hok
    exact h.effect (.moved (List.mem_of_find?_eq_some hf)
      ⟨rfl, rfl, rfl, rfl, rfl, .inr (.inr (.inr (.inr ⟨rfl, hok.1.1.2⟩)))⟩)
  | none =>
    refine .query_bind fun evaluatedAt => .bind (Q := fun _ => EvolvesOf W db₀) (.attempt ?_) fun _ =>
      .pure fun _ h => h
    rintro db ⟨⟨h, -⟩, -⟩ db' hdb'
    have hwait : ¬ Safety.isContact .waitForGatewayRetry = true := by decide
    exact h.effect (.added hdb' ⟨rfl, fun hc => absurd hc hwait, fun hc => absurd hc hwait⟩)

lemma authorize_evolves {effects : List (String × Json)} {recoveryCase : Option RecoveryCase} :
    Tx.Ensures (Holds W db₀ recoveryCase) (authorize platform call payload effects recoveryCase)
      fun _ => EvolvesOf W db₀ := by
  unfold authorize
  split_ifs
  · refine .expect_bind fun c hc => .bind (Q := fun _ => EvolvesOf W db₀) ?_ fun _ => .pure fun _ h => h
    rw [hc]
    exact ensureInitialRecommendation_evolves
  · exact .expect_bind fun _ _ => .bind
      (ensureReconciliationAuthorization_evolves.strengthen fun _ h => h.1) fun _ =>
      .pure fun _ h => h
  · exact .pure fun _ h => h.1

/-! ## `process_next` -/

lemma noteError_evolves {db : Database} (h : EvolvesOf W db₀ db)
    (payload : Option RazorpayOutboxPayload) (code : String) :
    EvolvesOf W db₀ (noteError payload code db) := by
  unfold noteError
  split
  · exact h
  · exact h.other ⟨rfl, rfl, rfl, rfl, rfl, rfl, rfl, rfl, rfl, rfl⟩

lemma recordFailure_evolves {db : Database} (h : EvolvesOf W db₀ db) (id : String)
    (payload : Option RazorpayOutboxPayload) (caseId : Option String) (code : String) :
    EvolvesOf W db₀ (recordFailure call id payload caseId code db).2 := by
  unfold recordFailure
  split
  · exact h
  · split_ifs
    · refine noteError_evolves ?_ _ _
      exact h.other ⟨rfl, rfl, rfl, rfl, rfl, rfl, rfl, rfl, rfl, rfl⟩
    · exact h

lemma dispatch_evolves {db committed : Database} (h : EvolvesOf W db₀ db)
    (hc : EvolvesOf W db₀ committed) (outbox : OutboxMessage) (inbox : WebhookInboxEntry)
    (effects : List (String × Json)) (caseId : Option String) :
    EvolvesOf W db₀ (dispatch call outbox payload inbox effects caseId db committed).2 := by
  dsimp only [dispatch]
  split_ifs
  · exact h.other ⟨rfl, rfl, rfl, rfl, rfl, rfl, rfl, rfl, rfl, rfl⟩
  · exact recordFailure_evolves hc _ _ _ _
  · exact recordFailure_evolves hc _ _ _ _

/-- One call evolves the database, by effects of the message that it takes up. -/
theorem processNext_evolvesOf (db : Database)
    (hW : ∀ m p, nextMessage call db = some m → m.payload = some p → W.event p) :
    EvolvesOf W db (processNext platform call db).2 := by
  have h : EvolvesOf W db db := .refl db
  unfold processNext
  split
  · exact h
  · next outbox hnext =>
    split
    · exact recordFailure_evolves h _ _ _ _
    · next payload hpayload =>
      split
      · exact recordFailure_evolves h _ _ _ _
      · next inbox effects recoveryCase applied happ =>
        have happlied := applyMessage_holds (hW outbox payload hnext hpayload) db h _ _ happ
        dsimp only
        split
        · exact recordFailure_evolves h _ _ _ _
        · next authorized hauth =>
          exact dispatch_evolves (authorize_evolves applied happlied _ _ hauth) h _ _ _ _
        · next effects authorized hauth =>
          have hevolves := authorize_evolves applied happlied _ _ hauth
          split_ifs
          · refine dispatch_evolves ?_ ?_ _ _ _ _
            · exact hevolves.other ⟨rfl, rfl, rfl, rfl, rfl, rfl, rfl, rfl, rfl, rfl⟩
            · exact hevolves.other ⟨rfl, rfl, rfl, rfl, rfl, rfl, rfl, rfl, rfl, rfl⟩
          · exact recordFailure_evolves h _ _ _ _

theorem processNext_evolves (db : Database) : Evolves db (processNext platform call db).2 :=
  processNext_evolvesOf db fun _ _ _ _ => trivial

end

end RecoveryOS.Webhook
