import RecoveryOS.Core.Commands
import RecoveryOS.Webhook.Ledger

/-!
# The life of a case

`RecoveryCaseState.validate_state` is never called on the rows of the table; it holds of them all
the same, as every operation that writes a case keeps it (`case_lifecycle`). The rule that is not
local to a row is that a captured payment has a collected amount: a capture may find that its
recognition stands already, and then collects nothing. That recognition is of the same event or of
the same payment, and from either of them one gets to the same case, so the amount was collected
there before (`Standing.collected`).
-/

namespace RecoveryOS.Core

open Store Table Webhook

/-! ## The rules -/

/-- `RecoveryCaseState.validate_state`; instants are in UTC. -/
def validateState (c : RecoveryCase) : Except String Unit :=
  if c.recoveryDeadline ≤ c.openedAt then .error "recovery_deadline must be after opened_at"
  else if c.caseRecovered = true ∧ c.arrearsCollectedPaise ≤ 0 then
    .error "a recovered case must have collected arrears"
  else if c.caseOutcome = .recovered ∧ c.caseRecovered = false then
    .error "RECOVERED outcome requires case_recovered=true"
  else if c.paymentState = .captured ∧ c.arrearsCollectedPaise = 0 then
    .error "CAPTURED payment requires a collected amount"
  else if 0 < c.arrearsCollectedPaise ∧ c.revenueAttribution = .none then
    .error "collected arrears require an attribution source"
  else .ok ()

/-- The rules, with what they follow from. -/
structure Valid (c : RecoveryCase) : Prop where
  window : c.openedAt < c.recoveryDeadline
  atRisk : 0 < c.amountAtRiskPaise
  outcome : c.caseOutcome = .recovered → c.caseRecovered = true
  captured : c.paymentState = .captured → 0 < c.arrearsCollectedPaise
  attributed : 0 < c.arrearsCollectedPaise → c.revenueAttribution ≠ .none

lemma Valid.validateState {c : RecoveryCase} (h : Valid c)
    (hrec : c.caseRecovered = true ↔ c.amountAtRiskPaise ≤ c.arrearsCollectedPaise) :
    validateState c = .ok () := by
  have hpos : ¬ (c.caseRecovered = true ∧ c.arrearsCollectedPaise ≤ 0) := by
    rintro ⟨hr, hle⟩
    have := hrec.mp hr
    have := h.atRisk
    omega
  have hout : ¬ (c.caseOutcome = .recovered ∧ c.caseRecovered = false) := by
    rintro ⟨ho, hr⟩
    rw [h.outcome ho] at hr
    cases hr
  have hcap : ¬ (c.paymentState = .captured ∧ c.arrearsCollectedPaise = 0) := by
    rintro ⟨hc, hz⟩
    have := h.captured hc
    omega
  have hattr : ¬ (0 < c.arrearsCollectedPaise ∧ c.revenueAttribution = .none) :=
    fun ⟨hp, hn⟩ => h.attributed hp hn
  unfold Core.validateState
  rw [if_neg (not_le.mpr h.window), if_neg hpos, if_neg hout, if_neg hcap, if_neg hattr]

lemma NewCase.valid {c : RecoveryCase} (h : NewCase c) (hw : c.openedAt < c.recoveryDeadline) :
    Valid c where
  window := hw
  atRisk := h.atRisk
  outcome := fun ho => by
    rw [h.isOpen] at ho
    cases ho
  captured := fun hc => absurd hc h.notCaptured
  attributed := fun hp => by
    rw [h.nothingCollected] at hp
    exact absurd hp (lt_irrefl 0)

/-! ## What stays -/

/-- What becomes of a case; `contact` is whether somebody else than the payments has a say. -/
structure Grown (contact : Prop) (c c' : RecoveryCase) : Prop extends SameCase c c' where
  collected : c.arrearsCollectedPaise ≤ c'.arrearsCollectedPaise
  captured : c.paymentState = .captured → c'.paymentState = .captured
  disposition : ¬ contact → c'.contactDisposition = c.contactDisposition

/-- No row goes, and none changes what it is about. -/
structure Kept (contact : Prop) (db db' : Database) : Prop where
  cases : ∀ c ∈ db.cases, ∃ c' ∈ db'.cases, Grown contact c c'
  payments : ∀ p ∈ db.payments, ∃ p' ∈ db'.payments, SameAttempt p p'
  invoices : ∀ i ∈ db.invoices, ∃ i' ∈ db'.invoices, SameInvoice i i'

section
variable {contact : Prop} {db db' db'' : Database} {c c' : RecoveryCase}

lemma Grown.refl (c : RecoveryCase) : Grown contact c c :=
  ⟨⟨rfl, rfl, rfl, rfl, rfl, rfl, rfl, rfl, le_rfl, id⟩, le_rfl, id, fun _ => rfl⟩

lemma Grown.trans {c'' : RecoveryCase} (h : Grown contact c c') (h' : Grown contact c' c'') :
    Grown contact c c'' :=
  ⟨h.toSameCase.trans h'.toSameCase, h.collected.trans h'.collected,
    fun hc => h'.captured (h.captured hc),
    fun hn => (h'.disposition hn).trans (h.disposition hn)⟩

lemma SameAttempt.refl (p : PaymentAttempt) : SameAttempt p p :=
  ⟨rfl, rfl, rfl, rfl, fun h => h⟩

lemma SameAttempt.trans {p p' p'' : PaymentAttempt} (h : SameAttempt p p')
    (h' : SameAttempt p' p'') : SameAttempt p p'' :=
  ⟨h'.id.trans h.id, h'.merchantId.trans h.merchantId, h'.invoiceId.trans h.invoiceId,
    h'.providerPaymentId.trans h.providerPaymentId, fun hc => h'.captured (h.captured hc)⟩

lemma SameInvoice.refl (i : Invoice) : SameInvoice i i := ⟨rfl, rfl, rfl⟩

lemma SameInvoice.trans {i i' i'' : Invoice} (h : SameInvoice i i') (h' : SameInvoice i' i'') :
    SameInvoice i i'' :=
  ⟨h'.id.trans h.id, h'.merchantId.trans h.merchantId,
    h'.providerInvoiceId.trans h.providerInvoiceId⟩

lemma kept_of_eq {α : Type} {R : α → α → Prop} (hR : ∀ a, R a a) {rows rows' : List α}
    (h : rows' = rows) : ∀ a ∈ rows, ∃ a' ∈ rows', R a a' := fun a ha => ⟨a, h ▸ ha, hR a⟩

lemma kept_of_append {α : Type} {R : α → α → Prop} (hR : ∀ a, R a a) {rows : List α} (r : α) :
    ∀ a ∈ rows, ∃ a' ∈ rows ++ [r], R a a' := fun a ha => ⟨a, List.mem_append_left _ ha, hR a⟩

/-- A row that is written back stands for the row it replaces. -/
lemma kept_of_put {α : Type} {key : α → String} {R : α → α → Prop} (hR : ∀ a, R a a)
    {rows : List α} (hk : Keyed key rows) {r r' : α} (hr : r ∈ rows) (hid : key r' = key r)
    (hrr : R r r') : ∀ a ∈ rows, ∃ a' ∈ Table.put key rows r', R a a' := by
  intro a ha
  by_cases h : key a = key r'
  · obtain rfl := hk.eq ha hr (h.trans hid)
    exact ⟨r', mem_put_self ha h, hrr⟩
  · exact ⟨a, mem_put_of_ne ha h, hR a⟩

lemma Kept.of_eq (hc : db'.cases = db.cases) (hp : db'.payments = db.payments)
    (hi : db'.invoices = db.invoices) : Kept contact db db' :=
  ⟨kept_of_eq .refl hc, kept_of_eq .refl hp, kept_of_eq .refl hi⟩

lemma Kept.trans (h : Kept contact db db') (h' : Kept contact db' db'') :
    Kept contact db db'' := by
  refine ⟨fun c hc => ?_, fun p hp => ?_, fun i hi => ?_⟩
  · obtain ⟨c', hc', hg⟩ := h.cases c hc
    obtain ⟨c'', hc'', hg'⟩ := h'.cases c' hc'
    exact ⟨c'', hc'', hg.trans hg'⟩
  · obtain ⟨p', hp', hs⟩ := h.payments p hp
    obtain ⟨p'', hp'', hs'⟩ := h'.payments p' hp'
    exact ⟨p'', hp'', hs.trans hs'⟩
  · obtain ⟨i', hi', hs⟩ := h.invoices i hi
    obtain ⟨i'', hi'', hs'⟩ := h'.invoices i' hi'
    exact ⟨i'', hi'', hs.trans hs'⟩

/-- A case is written back. -/
lemma Kept.putCase (hk : Keyed (·.id) db.cases) (hc : c ∈ db.cases) (hg : Grown contact c c')
    (hcases : db'.cases = Table.put (·.id) db.cases c') (hp : db'.payments = db.payments)
    (hi : ∀ i ∈ db.invoices, ∃ i' ∈ db'.invoices, SameInvoice i i') : Kept contact db db' := by
  refine ⟨?_, kept_of_eq .refl hp, hi⟩
  rw [hcases]
  exact kept_of_put .refl hk hc hg.id hg

/-- What a recognition does to the tables. -/
lemma insertRecognition_spec {r : RevenueRecognitionRecord} (h : db.insertRecognition r = some db') :
    0 < r.amountPaise ∧ db' = { db with recognitions := db.recognitions ++ [r] } := by
  obtain ⟨rows, hrows, rfl⟩ := Option.map_eq_some_iff.mp h
  obtain ⟨hcheck, -, rfl⟩ := insert_eq_some hrows
  simp only [Bool.and_eq_true, decide_eq_true_eq] at hcheck
  exact ⟨hcheck.1.1.1, rfl⟩

lemma settle_ledger (db : Database) (c : RecoveryCase) (t : Instant) :
    (db.settle c t).payments = db.payments ∧ (db.settle c t).invoices = db.invoices ∧
      (db.settle c t).recognitions = db.recognitions := by
  unfold Database.settle
  split_ifs <;> exact ⟨rfl, rfl, rfl⟩

variable {W : Scope}

/-- An effect loses no row. -/
theorem EffectOf.kept (h : EffectOf W db db') (hs : Sound db) : Kept W.contact db db' := by
  have hk := hs.constrained
  cases h with
  | other h => exact .of_eq h.cases h.payments h.invoices
  | event e h =>
    obtain ⟨_, -, rfl⟩ := Option.map_eq_some_iff.mp h
    exact .of_eq rfl rfl rfl
  | invoice i h =>
    obtain ⟨_, hrows, rfl⟩ := Option.map_eq_some_iff.mp h
    obtain ⟨-, -, rfl⟩ := insert_eq_some hrows
    exact ⟨kept_of_eq .refl rfl, kept_of_eq .refl rfl, kept_of_append .refl _⟩
  | payment p h =>
    obtain ⟨_, hrows, rfl⟩ := Option.map_eq_some_iff.mp h
    obtain ⟨-, -, rfl⟩ := insert_eq_some hrows
    exact ⟨kept_of_eq .refl rfl, kept_of_append .refl _, kept_of_eq .refl rfl⟩
  | attempt hp h =>
    exact ⟨kept_of_eq .refl rfl, kept_of_put .refl hk.payments_keyed hp h.id h,
      kept_of_eq .refl rfl⟩
  | opened h hc =>
    obtain ⟨_, hrows, rfl⟩ := Option.map_eq_some_iff.mp h
    obtain ⟨-, -, rfl⟩ := insert_eq_some hrows
    exact ⟨kept_of_append .refl _, kept_of_eq .refl rfl, kept_of_eq .refl rfl⟩
  | noted hc h =>
    exact .putCase hk.cases_keyed hc ⟨h.toSameCase, h.collected.ge, h.captured, fun _ => h.disposition⟩
      rfl rfl (kept_of_eq .refl rfl)
  | captured t hc h =>
    obtain ⟨hp, hi, -⟩ := settle_ledger db _ t
    refine .putCase hk.cases_keyed hc ⟨h.toSameCase, ?_, fun _ => h.captured, fun _ => h.disposition⟩
      (cases_settle _ t) hp (kept_of_eq .refl hi)
    rw [h.collected, add_zero]
  | recognized t hr h =>
    obtain ⟨hpos, rfl⟩ := insertRecognition_spec hr
    have hcap := h.captured
    refine .putCase hk.cases_keyed h.mem
      ⟨hcap.toSameCase, ?_, fun _ => hcap.captured, fun _ => hcap.disposition⟩ (cases_settle _ t)
      (settle_ledger _ _ t).1 ?_
    · rw [hcap.collected]
      omega
    · rw [(settle_ledger _ _ t).2.1]
      exact kept_of_put .refl hk.invoices_keyed h.invoice h.invoiceId
        ⟨h.invoiceId, h.invoiceMerchantId, h.providerInvoiceId⟩
  | marked caseId hw =>
    refine ⟨fun c hc => ⟨_, List.mem_map_of_mem hc, ?_⟩, kept_of_eq .refl rfl,
      kept_of_eq .refl rfl⟩
    split_ifs
    · exact ⟨⟨rfl, rfl, rfl, rfl, rfl, rfl, rfl, rfl, le_rfl, id⟩, le_rfl, id, fun hn => absurd hw hn⟩
    · exact .refl c
  | closed t hc h hw =>
    exact .putCase hk.cases_keyed hc
      ⟨h.toSameCase, h.collected.ge, fun hcap => h.payment.trans hcap, fun hn => absurd hw hn⟩
      rfl rfl (kept_of_eq .refl rfl)
  | added h hd =>
    obtain ⟨_, ha, hp⟩ := Option.bind_eq_some_iff.mp h
    obtain ⟨_, -, rfl⟩ := Option.map_eq_some_iff.mp ha
    obtain ⟨_, -, rfl⟩ := Option.map_eq_some_iff.mp hp
    exact .of_eq rfl rfl rfl
  | moved ha h => exact .of_eq rfl rfl rfl
  | swept f h => exact .of_eq rfl rfl rfl
  | stamped f h => exact .of_eq rfl rfl rfl
  | consumed c h => exact .of_eq rfl rfl rfl

/-! ## The invariant -/

/-- A recognition is of a payment of its case's invoice, and one of the provider of an event that
names the case. -/
structure Anchored (W : RazorpayOutboxPayload → Prop) (db : Database) (c : RecoveryCase)
    (r : RevenueRecognitionRecord) : Prop where
  mem : c ∈ db.cases
  caseId : r.caseId = c.id
  merchantId : r.merchantId = c.merchantId
  attempt : ∃ p ∈ db.payments, r.paymentAttemptId = some p.id ∧ c.failedInvoiceId = some p.invoiceId
  origin : r.provider = "razorpay" → ∃ payload, W payload ∧
    r.providerEventId = payload.event.providerEventId ∧ ∃ i ∈ db.invoices, Names payload c i

structure Lawful (W : RazorpayOutboxPayload → Prop) (db : Database) : Prop where
  sound : Sound db
  invoice_unique : Keyed (fun i => (i.merchantId, i.providerInvoiceId)) db.invoices
  case_unique : ∀ c ∈ db.cases, ∀ c' ∈ db.cases, c.merchantId = c'.merchantId →
    c.failedInvoiceId.isSome = true → c.failedInvoiceId = c'.failedInvoiceId → c = c'
  anchored : ∀ r ∈ db.recognitions, ∃ c, Anchored W db c r
  positive : ∀ r ∈ db.recognitions, 0 < r.amountPaise
  valid : ∀ c ∈ db.cases, Valid c

variable {P : RazorpayOutboxPayload → Prop}

lemma Anchored.kept {r : RevenueRecognitionRecord} (h : Anchored P db c r)
    (hk : Kept contact db db') : ∃ c', Anchored P db' c' r := by
  obtain ⟨c', hc', hg⟩ := hk.cases c h.mem
  refine ⟨c', hc', h.caseId.trans hg.id.symm, h.merchantId.trans hg.merchantId.symm, ?_,
    fun hp => ?_⟩
  · obtain ⟨p, hp, hr, hf⟩ := h.attempt
    obtain ⟨p', hp', hs⟩ := hk.payments p hp
    exact ⟨p', hp', by rw [hs.id, hr], by rw [hg.failedInvoiceId, hs.invoiceId, hf]⟩
  · obtain ⟨payload, hW, he, i, hi, hn⟩ := h.origin hp
    obtain ⟨i', hi', hs⟩ := hk.invoices i hi
    exact ⟨payload, hW, he, i', hi', hn.kept hg.toSameCase hs⟩

lemma Lawful.mono {Q : RazorpayOutboxPayload → Prop} (h : Lawful P db) (hPQ : ∀ p, P p → Q p) :
    Lawful Q db := by
  refine { h with anchored := fun r hr => ?_ }
  obtain ⟨c, ha⟩ := h.anchored r hr
  refine ⟨c, { ha with origin := fun hp => ?_ }⟩
  obtain ⟨payload, hW, hrest⟩ := ha.origin hp
  exact ⟨payload, hPQ payload hW, hrest⟩

/-- Only the tables of the money matter. -/
lemma Lawful.congr (h : Lawful P db) (hl : SameLedger db db') : Lawful P db' where
  sound := h.sound.congr hl.invoices hl.payments hl.cases hl.recognitions
  invoice_unique := by rw [hl.invoices]; exact h.invoice_unique
  case_unique := by rw [hl.cases]; exact h.case_unique
  anchored := fun r hr => by
    rw [hl.recognitions] at hr
    obtain ⟨c, ha⟩ := h.anchored r hr
    exact ha.kept (.of_eq hl.cases hl.payments hl.invoices : Kept True db db')
  positive := by rw [hl.recognitions]; exact h.positive
  valid := by rw [hl.cases]; exact h.valid

/-! ## A recognition that stands is of the same case -/

/-- An event names one case. -/
lemma Lawful.case_eq (h : Lawful P db) {payload : RazorpayOutboxPayload} {i i' : Invoice}
    (hc : c ∈ db.cases) (hc' : c' ∈ db.cases) (hi : i ∈ db.invoices) (hi' : i' ∈ db.invoices)
    (hn : Names payload c i) (hn' : Names payload c' i') : c = c' := by
  cases hinv : truthy payload.event.invoiceId with
  | none =>
    refine h.sound.constrained.cases_keyed.eq hc hc' ?_
    exact Option.some.inj ((hn.case hinv).symm.trans (hn'.case hinv))
  | some x =>
    have hii : i = i' := by
      refine h.invoice_unique.eq hi hi' ?_
      simp only [hn.invoiceMerchantId, hn'.invoiceMerchantId, hn.invoice x hinv, hn'.invoice x hinv]
    refine h.case_unique c hc c' hc' (hn.merchantId.trans hn'.merchantId.symm) ?_ ?_
    · rw [hn.failedInvoiceId]
      rfl
    · rw [hn.failedInvoiceId, hn'.failedInvoiceId, hii]

lemma Standing.caseId (hs : Standing P db c) (h : Lawful P db) (hc : c ∈ db.cases)
    (hP : ∀ p q, P p → P q → SameSource p q → p = q) :
    ∃ r ∈ db.recognitions, r.caseId = c.id := by
  obtain ⟨payload, i, p, r, hW, hn, hi, hp, hpi, hr, hm, hv, hfound⟩ := hs.found
  obtain ⟨c', ha⟩ := h.anchored r hr
  refine ⟨r, hr, ?_⟩
  rw [ha.caseId]
  rcases hfound with he | hpay
  · -- the event is the same, and names the case
    obtain ⟨payload', hW', he', i', hi', hn'⟩ := ha.origin hv
    have hsame : SameSource payload' payload :=
      ⟨hn'.merchantId.symm.trans (ha.merchantId.symm.trans hm), he'.symm.trans he⟩
    obtain rfl := hP payload' payload hW' hW hsame
    rw [h.case_eq ha.mem hc hi' hi hn' hn]
  · -- the payment is the same, and so is its invoice
    obtain ⟨p', hp', hrp, hf⟩ := ha.attempt
    have hpp : p = p' := by
      refine h.sound.constrained.payments_keyed.eq hp hp' ?_
      exact Option.some.inj (hpay.symm.trans hrp)
    have hinv : c'.failedInvoiceId = c.failedInvoiceId := by
      rw [hf, hn.failedInvoiceId, ← hpp, hpi]
    rw [h.case_unique c' ha.mem c hc ?_ (by rw [hf]; rfl) hinv]
    rw [← ha.merchantId, hm, hn.merchantId]

lemma recognized_pos {rows : List RevenueRecognitionRecord}
    (hpos : ∀ r ∈ rows, 0 < r.amountPaise) {r : RevenueRecognitionRecord} (hr : r ∈ rows) :
    0 < recognized rows r.caseId := by
  unfold recognized
  refine List.sum_pos _ ?_ ?_
  · intro x hx
    obtain ⟨s, hs, rfl⟩ := List.mem_map.mp hx
    exact hpos s (List.mem_filter.mp hs).1
  · intro hnil
    have hmem : r ∈ rows.filter fun s => s.caseId = r.caseId :=
      List.mem_filter.mpr ⟨hr, by simp⟩
    rw [List.map_eq_nil_iff.mp hnil] at hmem
    cases hmem

/-- Where a recognition stands, its amount was collected. -/
theorem Standing.collected (hs : Standing P db c) (h : Lawful P db) (hc : c ∈ db.cases)
    (hP : ∀ p q, P p → P q → SameSource p q → p = q) : 0 < c.arrearsCollectedPaise := by
  obtain ⟨r, hr, hrc⟩ := hs.caseId h hc hP
  rw [← h.sound.balanced.collected c hc, ← hrc]
  exact recognized_pos h.positive hr

/-! ## Effects -/

lemma invoice_unique_of_effect (h : EffectOf W db db') (hs : Sound db)
    (hu : Keyed (fun i => (i.merchantId, i.providerInvoiceId)) db.invoices) :
    Keyed (fun i => (i.merchantId, i.providerInvoiceId)) db'.invoices := by
  cases h with
  | other h => rw [h.invoices]; exact hu
  | invoice i h =>
    obtain ⟨_, hrows, rfl⟩ := Option.map_eq_some_iff.mp h
    obtain ⟨-, hclash, rfl⟩ := insert_eq_some hrows
    refine hu.append fun x hx he => ?_
    simp only [Prod.mk.injEq] at he
    have := hclash x hx
    simp [he.1, he.2] at this
  | recognized t hr h =>
    obtain ⟨-, rfl⟩ := insertRecognition_spec hr
    rw [(settle_ledger _ _ t).2.1]
    refine hu.map fun x hx => ?_
    split_ifs with hid
    · obtain rfl := hs.constrained.invoices_keyed.eq hx h.invoice (hid.trans h.invoiceId)
      rw [h.invoiceMerchantId, h.providerInvoiceId]
    · rfl
  | event e h => obtain ⟨_, -, rfl⟩ := Option.map_eq_some_iff.mp h; exact hu
  | payment p h => obtain ⟨_, -, rfl⟩ := Option.map_eq_some_iff.mp h; exact hu
  | opened h hc => obtain ⟨_, -, rfl⟩ := Option.map_eq_some_iff.mp h; exact hu
  | captured t hc h => rw [(settle_ledger _ _ t).2.1]; exact hu
  | added h hd =>
    obtain ⟨_, ha, hp⟩ := Option.bind_eq_some_iff.mp h
    obtain ⟨_, -, rfl⟩ := Option.map_eq_some_iff.mp ha
    obtain ⟨_, -, rfl⟩ := Option.map_eq_some_iff.mp hp
    exact hu
  | attempt hp h => exact hu
  | noted hc h => exact hu
  | marked caseId hw => exact hu
  | closed t hc h hw => exact hu
  | moved ha h => exact hu
  | swept f h => exact hu
  | stamped f h => exact hu
  | consumed c h => exact hu

lemma case_unique_of_effect (h : EffectOf W db db') (hL : Lawful P db) (hs' : Sound db') :
    ∀ c ∈ db'.cases, ∀ c' ∈ db'.cases, c.merchantId = c'.merchantId →
      c.failedInvoiceId.isSome = true → c.failedInvoiceId = c'.failedInvoiceId → c = c' := by
  intro x hx y hy hm hsome hf
  rcases h.cases with hmoved | ⟨c, -, hins⟩
  · obtain ⟨x₀, hx₀, hxm⟩ := hmoved.moved x hx
    obtain ⟨y₀, hy₀, hym⟩ := hmoved.moved y hy
    have hxs := hxm.same
    have hys := hym.same
    have hxy : x₀ = y₀ := by
      refine hL.case_unique x₀ hx₀ y₀ hy₀ ?_ ?_ ?_
      · rw [← hxs.merchantId, ← hys.merchantId, hm]
      · rw [← hxs.failedInvoiceId]
        exact hsome
      · rw [← hxs.failedInvoiceId, ← hys.failedInvoiceId, hf]
    refine hs'.constrained.cases_keyed.eq hx hy ?_
    rw [hxs.id, hys.id, hxy]
  · obtain ⟨hnew, -, hcases⟩ := insertCase_tables hins
    rw [hcases] at hx hy
    rcases List.mem_append.mp hx with hx | hx <;> rcases List.mem_append.mp hy with hy | hy
    · exact hL.case_unique x hx y hy hm hsome hf
    · rw [List.mem_singleton.mp hy] at hm hf
      exact absurd ⟨hm, hf ▸ hsome, hf⟩ (hnew x hx).2
    · rw [List.mem_singleton.mp hx] at hm hf hsome
      exact absurd ⟨hm.symm, hsome, hf.symm⟩ (hnew y hy).2
    · rw [List.mem_singleton.mp hx, List.mem_singleton.mp hy]

/-- What an effect does to the recognitions. -/
lemma EffectOf.recognitions (h : EffectOf W db db') : db'.recognitions = db.recognitions ∨
    ∃ r c c' i i' db₁ t, db.insertRecognition r = some db₁ ∧ Recognition W.event db r c c' i i' ∧
      db' = (db₁.putInvoice i').settle c' t := by
  cases h with
  | other h => exact .inl h.recognitions
  | recognized t hr h => exact .inr ⟨_, _, _, _, _, _, t, hr, h, rfl⟩
  | captured t hc h => exact .inl (settle_ledger _ _ t).2.2
  | event e h => obtain ⟨_, -, rfl⟩ := Option.map_eq_some_iff.mp h; exact .inl rfl
  | invoice i h => obtain ⟨_, -, rfl⟩ := Option.map_eq_some_iff.mp h; exact .inl rfl
  | payment p h => obtain ⟨_, -, rfl⟩ := Option.map_eq_some_iff.mp h; exact .inl rfl
  | opened h hc => obtain ⟨_, -, rfl⟩ := Option.map_eq_some_iff.mp h; exact .inl rfl
  | added h hd =>
    obtain ⟨_, ha, hp⟩ := Option.bind_eq_some_iff.mp h
    obtain ⟨_, -, rfl⟩ := Option.map_eq_some_iff.mp ha
    obtain ⟨_, -, rfl⟩ := Option.map_eq_some_iff.mp hp
    exact .inl rfl
  | attempt hp h => exact .inl rfl
  | noted hc h => exact .inl rfl
  | marked caseId hw => exact .inl rfl
  | closed t hc h hw => exact .inl rfl
  | moved ha h => exact .inl rfl
  | swept f h => exact .inl rfl
  | stamped f h => exact .inl rfl
  | consumed c h => exact .inl rfl

/-- A row that is recognized is anchored once its case is written. -/
lemma Recognition.anchored {r : RevenueRecognitionRecord} {i i' : Invoice}
    (h : Recognition P db r c c' i i') (hk : Kept contact db db') :
    ∃ c, Anchored P db' c r := by
  have ha : Anchored P db c r :=
    { mem := h.mem
      caseId := h.caseId
      merchantId := h.merchantId
      attempt := h.attempt
      origin := fun hp => by
        obtain ⟨payload, hW, hn, he⟩ := h.origin hp
        exact ⟨payload, hW, he, i, h.invoice, hn⟩ }
  exact ha.kept hk

lemma NotedCase.valid (h : NotedCase c c') (hv : Valid c) : Valid c' where
  window := by rw [h.openedAt, h.recoveryDeadline]; exact hv.window
  atRisk := by rw [h.atRisk]; exact hv.atRisk
  outcome := by rw [h.outcome, h.recovered]; exact hv.outcome
  captured := fun hc => by rw [h.collected]; exact hv.captured (h.capturedOnly hc)
  attributed := fun hp => h.attributed (hv.attributed (by rwa [h.collected] at hp))

lemma ClosedCase.valid (h : ClosedCase c c') (hv : Valid c) : Valid c' where
  window := by rw [h.openedAt, h.recoveryDeadline]; exact hv.window
  atRisk := by rw [h.atRisk]; exact hv.atRisk
  outcome := fun ho => absurd ho h.notRecovered
  captured := fun hc => by rw [h.collected]; exact hv.captured (h.payment ▸ hc)
  attributed := fun hp => h.attributed (hv.attributed (by rwa [h.collected] at hp))

/-- A capture after which something is collected leaves a valid case: one that is recovered only by
its outcome was so before. -/
lemma CapturedCase.valid {amount : ℤ} (h : CapturedCase c c' amount) (hv : Valid c)
    (hrec : c.caseRecovered = true → c.amountAtRiskPaise ≤ c.arrearsCollectedPaise)
    (hnonneg : 0 ≤ amount) (hpos : 0 < c.arrearsCollectedPaise + amount) : Valid c' where
  window := by rw [h.openedAt, h.recoveryDeadline]; exact hv.window
  atRisk := by rw [h.atRisk]; exact hv.atRisk
  outcome := fun ho => by
    by_contra hnot
    rw [Bool.not_eq_true] at hnot
    have hle := hrec (hv.outcome (h.outcomeOnly hnot ho))
    have : c'.caseRecovered = true := by
      rw [h.recovered, h.atRisk, h.collected]
      omega
    rw [hnot] at this
    cases this
  captured := fun _ => by rw [h.collected]; exact hpos
  attributed := fun hp => by
    by_cases ha : amount = 0
    · refine h.attributed (hv.attributed ?_)
      rw [h.collected, ha, add_zero] at hp
      exact hp
    · exact h.attribution ha

lemma valid_of_put {cases : List RecoveryCase} (hv : ∀ c ∈ cases, Valid c) (hc' : Valid c') :
    ∀ c ∈ Table.put (·.id) cases c', Valid c := by
  intro x hx
  rcases mem_put hx with rfl | ⟨hx, -⟩
  · exact hc'
  · exact hv x hx

lemma valid_of_effect (h : EffectOf W db db') (hL : Lawful W.event db)
    (hP : ∀ p q, W.event p → W.event q → SameSource p q → p = q) : ∀ c ∈ db'.cases, Valid c := by
  have hv := hL.valid
  have hrec : ∀ c ∈ db.cases, c.caseRecovered = true →
      c.amountAtRiskPaise ≤ c.arrearsCollectedPaise :=
    fun c hc => (hL.sound.balanced.recovered_iff c hc).mp
  cases h with
  | other h => rw [h.cases]; exact hv
  | opened h hc =>
    obtain ⟨-, hwindow, hcases⟩ := insertCase_tables h
    rw [hcases]
    intro x hx
    rcases List.mem_append.mp hx with hx | hx
    · exact hv x hx
    · rw [List.mem_singleton.mp hx]
      exact hc.valid hwindow
  | noted hc h => exact valid_of_put hv (h.valid (hv _ hc))
  | @captured c c' t hc h hs =>
    rw [cases_settle]
    refine valid_of_put hv (h.valid (hv c hc) (hrec c hc) le_rfl ?_)
    rw [add_zero]
    exact hs.collected hL hc hP
  | @recognized _ r c c' i i' t hr h =>
    obtain ⟨hpos, rfl⟩ := insertRecognition_spec hr
    have hge : 0 ≤ c.arrearsCollectedPaise := by
      rw [← hL.sound.balanced.collected c h.mem]
      refine List.sum_nonneg fun x hx => ?_
      obtain ⟨s, hs, rfl⟩ := List.mem_map.mp hx
      exact (hL.positive s (List.mem_filter.mp hs).1).le
    rw [cases_settle]
    refine valid_of_put hv (h.captured.valid (hv c h.mem) (hrec c h.mem) hpos.le ?_)
    omega
  | marked caseId hw =>
    intro x hx
    obtain ⟨c, hc, rfl⟩ := List.mem_map.mp hx
    have hc := hv c hc
    split_ifs
    · exact ⟨hc.window, hc.atRisk, hc.outcome, hc.captured, hc.attributed⟩
    · exact hc
  | closed t hc h hw => exact valid_of_put hv (h.valid (hv _ hc))
  | added h hd => rw [(insertActionWithPolicy_tables h).2.2.2]; exact hv
  | event e h => obtain ⟨_, -, rfl⟩ := Option.map_eq_some_iff.mp h; exact hv
  | invoice i h => obtain ⟨_, -, rfl⟩ := Option.map_eq_some_iff.mp h; exact hv
  | payment p h => obtain ⟨_, -, rfl⟩ := Option.map_eq_some_iff.mp h; exact hv
  | attempt hp h => exact hv
  | moved ha h => exact hv
  | swept f h => exact hv
  | stamped f h => exact hv
  | consumed c h => exact hv

theorem Lawful.effect (h : EffectOf W db db') (hL : Lawful W.event db)
    (hP : ∀ p q, W.event p → W.event q → SameSource p q → p = q) : Lawful W.event db' := by
  have hs' : Sound db' := hL.sound.effect h
  have hk := h.kept hL.sound
  refine ⟨hs', invoice_unique_of_effect h hL.sound hL.invoice_unique,
    case_unique_of_effect h hL hs', ?_, ?_, valid_of_effect h hL hP⟩
  · intro r hr
    rcases h.recognitions with hsame | ⟨r', c, c', i, i', db₁, t, hins, hrec, rfl⟩
    · rw [hsame] at hr
      obtain ⟨c, ha⟩ := hL.anchored r hr
      exact ha.kept hk
    · obtain ⟨-, rfl⟩ := insertRecognition_spec hins
      rw [(settle_ledger _ _ t).2.2] at hr
      rcases List.mem_append.mp hr with hr | hr
      · obtain ⟨c, ha⟩ := hL.anchored r hr
        exact ha.kept hk
      · rw [List.mem_singleton.mp hr]
        exact hrec.anchored hk
  · intro r hr
    rcases h.recognitions with hsame | ⟨r', c, c', i, i', db₁, t, hins, hrec, rfl⟩
    · rw [hsame] at hr
      exact hL.positive r hr
    · obtain ⟨hpos, rfl⟩ := insertRecognition_spec hins
      rw [(settle_ledger _ _ t).2.2] at hr
      rcases List.mem_append.mp hr with hr | hr
      · exact hL.positive r hr
      · rw [List.mem_singleton.mp hr]
        exact hpos

/-- What effects of received events keep. -/
theorem Lawful.evolves (hL : Lawful W.event db) (h : EvolvesOf W db db')
    (hP : ∀ p q, W.event p → W.event q → SameSource p q → p = q) :
    Lawful W.event db' ∧ Kept W.contact db db' := by
  refine h.induct (P := fun t => Lawful W.event t ∧ Kept W.contact db t) ?_
    ⟨hL, .of_eq rfl rfl rfl⟩
  rintro t t' he ⟨ht, hk⟩
  exact ⟨ht.effect he hP, hk.trans (he.kept ht.sound)⟩

end

/-! ## Runs -/

/-- A database that has no case yet, and its constraints. -/
structure Fresh (platform : Platform) (db : Database) : Prop where
  cases : db.cases = []
  recognitions : db.recognitions = []
  mail : Mail platform db
  invoices_keyed : Keyed (·.id) db.invoices
  invoice_unique : Keyed (fun i => (i.merchantId, i.providerInvoiceId)) db.invoices
  paid_le : ∀ i ∈ db.invoices, i.amountPaidPaise ≤ i.amountPaise
  payments_keyed : Keyed (·.id) db.payments
  payment_unique : ∀ p ∈ db.payments, ∀ q ∈ db.payments, SameProviderPayment p q → p = q

section
variable {platform : Platform} {db : Database} {ops : List CaseOp}

lemma Fresh.lawful (h : Fresh platform db) : Lawful (Sent db) db := by
  have hc : ∀ {Q : RecoveryCase → Prop}, ∀ c ∈ db.cases, Q c := by
    intro Q c hc
    rw [h.cases] at hc
    cases hc
  have hr : ∀ {Q : RevenueRecognitionRecord → Prop}, ∀ r ∈ db.recognitions, Q r := by
    intro Q r hr
    rw [h.recognitions] at hr
    cases hr
  refine ⟨⟨⟨?_, h.invoices_keyed, h.payments_keyed, h.payment_unique, hr, hr⟩, hc, hc, h.paid_le, ?_,
    ?_, hc, hc⟩, h.invoice_unique, hc, hr, hr, hc⟩
  · rw [h.cases]
    exact List.nodup_nil
  · rw [h.recognitions]
    exact .nil
  · rw [h.recognitions]
    exact .nil

/-- What an operation keeps. -/
lemma step_lawful (hmail : Mail platform db) (hL : Lawful (Sent db) db) (op : CaseOp) :
    Lawful (Sent (caseStep platform db op)) (caseStep platform db op) ∧
      Kept (¬ op.ofPayment) db (caseStep platform db op) := by
  have hstep := caseStep_stepped hmail hL.sound.constrained.recognition_payment op
  generalize caseStep platform db op = db' at hstep
  have hsent : ∀ p, Sent db p → Sent db' p := fun p hp => hstep.sent hp
  cases hstep with
  | received e m p hr =>
    have hl : SameLedger db db' := by
      rw [hr.tables]
      exact ⟨rfl, rfl, rfl, rfl⟩
    exact ⟨(hL.congr hl).mono hsent, .of_eq hl.cases hl.payments hl.invoices⟩
  | evolved id payload he ht hpub =>
    obtain ⟨hL', hk⟩ := hL.evolves he fun p q hp hq => hp.eq hmail hq
    exact ⟨hL'.mono hsent, hk⟩
  | wrote hl hm hev => exact ⟨(hL.congr hl).mono hsent, .of_eq hl.cases hl.payments hl.invoices⟩

lemma after_lawful (h : Fresh platform db) (ops : List CaseOp) (k : ℕ) :
    Mail platform (caseAfter platform db ops k) ∧
      Lawful (Sent (caseAfter platform db ops k)) (caseAfter platform db ops k) := by
  refine caseAfter_induct (P := fun t => Mail platform t ∧ Lawful (Sent t) t) ⟨h.mail, h.lawful⟩ ?_ k
  rintro op - t ⟨hmail, hL⟩
  exact ⟨(caseStep_stepped hmail hL.sound.constrained.recognition_payment op).mail hmail,
    (step_lawful hmail hL op).1⟩

lemma Grown.weaken {contact contact' : Prop} {c c' : RecoveryCase} (h : Grown contact c c')
    (hc : contact → contact') : Grown contact' c c' :=
  { h with disposition := fun hn => h.disposition fun hcontact => hn (hc hcontact) }

/-- The rows of a run stay to its end. -/
lemma after_kept (h : Fresh platform db) (ops : List CaseOp) {j k : ℕ} (hjk : j ≤ k) :
    Kept True (caseAfter platform db ops j) (caseAfter platform db ops k) := by
  induction k, hjk using Nat.le_induction with
  | base => exact .of_eq rfl rfl rfl
  | succ k hjk ih =>
    cases hop : ops[k]? with
    | none =>
      rw [caseAfter_succ_of_none platform hop]
      exact ih
    | some op =>
      obtain ⟨hmail, hL⟩ := after_lawful h ops k
      obtain ⟨-, hk⟩ := step_lawful hmail hL op
      rw [← caseAfter_succ platform hop] at hk
      refine ih.trans ⟨fun c hc => ?_, hk.payments, hk.invoices⟩
      obtain ⟨c', hc', hg⟩ := hk.cases c hc
      exact ⟨c', hc', hg.weaken fun _ => trivial⟩

/-- In every run every case is valid; a captured payment and a recovery stay, what is collected and
the version never fall, a captured attempt stays captured, and what is heard of payments leaves what
the customer said. -/
theorem case_lifecycle (h : Fresh platform db) (ops : List CaseOp) :
    (∀ k, Keyed (·.id) (caseAfter platform db ops k).cases ∧
      ∀ c ∈ (caseAfter platform db ops k).cases, validateState c = .ok ()) ∧
    (∀ j k, j ≤ k → ∀ c ∈ (caseAfter platform db ops j).cases,
      ∃ c' ∈ (caseAfter platform db ops k).cases, c'.id = c.id ∧
        (c.paymentState = .captured → c'.paymentState = .captured) ∧
        (c.caseRecovered = true → c'.caseRecovered = true) ∧
        (c.caseOutcome = .recovered → c'.caseOutcome = .recovered) ∧
        c.arrearsCollectedPaise ≤ c'.arrearsCollectedPaise ∧ c.version ≤ c'.version) ∧
    (∀ j k, j ≤ k → ∀ p ∈ (caseAfter platform db ops j).payments, p.paymentState = .captured →
      ∃ p' ∈ (caseAfter platform db ops k).payments, p'.id = p.id ∧ p'.paymentState = .captured) ∧
    (∀ k op, ops[k]? = some op → op.ofPayment → ∀ c ∈ (caseAfter platform db ops k).cases,
      ∃ c' ∈ (caseAfter platform db ops (k + 1)).cases, c'.id = c.id ∧
        c'.contactDisposition = c.contactDisposition) := by
  have hall := fun k => (after_lawful h ops k).2
  refine ⟨fun k => ⟨(hall k).sound.constrained.cases_keyed, fun c hc => ?_⟩, ?_, ?_, ?_⟩
  · exact ((hall k).valid c hc).validateState ((hall k).sound.balanced.recovered_iff c hc)
  · intro j k hjk c hc
    obtain ⟨c', hc', hg⟩ := (after_kept h ops hjk).cases c hc
    have hrec : c.caseRecovered = true → c'.caseRecovered = true := by
      rw [(hall j).sound.balanced.recovered_iff c hc, (hall k).sound.balanced.recovered_iff c' hc',
        hg.atRisk]
      exact fun hle => hle.trans hg.collected
    refine ⟨c', hc', hg.id, hg.captured, hrec, fun ho => ?_, hg.collected, hg.version⟩
    exact (hall k).sound.balanced.recovered_outcome c' hc' (hrec (((hall j).valid c hc).outcome ho))
  · intro j k hjk p hp hcap
    obtain ⟨p', hp', hs⟩ := (after_kept h ops hjk).payments p hp
    exact ⟨p', hp', hs.id, hs.captured hcap⟩
  · intro k op hop hpay c hc
    obtain ⟨hmail, hL⟩ := after_lawful h ops k
    obtain ⟨-, hk⟩ := step_lawful hmail hL op
    rw [← caseAfter_succ platform hop] at hk
    obtain ⟨c', hc', hg⟩ := hk.cases c hc
    exact ⟨c', hc', hg.id, hg.disposition (not_not.mpr hpay)⟩

end

/-- The body of a webhook about the capture of the sample's payment, a second later. -/
def capturedBody : List (String × Json) :=
  [("event", .str "payment.captured"), ("created_at", .int 2),
    ("payload", .obj [("payment", .obj [("entity", .obj [("id", .str "pay_1"),
      ("invoice_id", .str "inv_1"), ("amount", .int 50000), ("currency", .str "INR")])])])]

/-- A failure, its capture whose signal is lost, the capture again, and commands that come late. -/
def sampleOps : List CaseOp :=
  [.receive ⟨"inbox_1", "outbox_1", 1000000, 1000000⟩ "merchant_1" "evt_1" failedBody,
    .process (sampleCall 2000000 true),
    .receive ⟨"inbox_2", "outbox_2", 2000000, 2000000⟩ "merchant_1" "evt_2" capturedBody,
    .process (sampleCall 3000000 false), .process (sampleCall 400000000 true),
    .lateFailure "merchant_1" "case_rzp_3427be8787b2266361a016954392901e17b9144a" "late_1" 400000001,
    .stop "merchant_1" "case_rzp_3427be8787b2266361a016954392901e17b9144a" 400000002]

lemma sampleStore_fresh : Fresh samplePlatform sampleStore := by
  refine ⟨rfl, rfl, sampleStore_mail, ?_, ?_, ?_, ?_, ?_⟩
  all_goals simp [sampleStore, Keyed]

theorem sampleOps_lifecycle :
    (caseAfter samplePlatform sampleStore sampleOps 2).cases.map
      (fun c => (c.paymentState, c.arrearsCollectedPaise, c.version)) = [(.failed, 0, 1)] ∧
    (caseAfter samplePlatform sampleStore sampleOps 7).cases.map
      (fun c => (c.paymentState, c.arrearsCollectedPaise, c.caseRecovered)) =
        [(.captured, 50000, true)] ∧
    ∀ k, ∀ c ∈ (caseAfter samplePlatform sampleStore sampleOps k).cases,
      validateState c = .ok () :=
  ⟨by decide +kernel, by decide +kernel,
    fun k => ((case_lifecycle sampleStore_fresh sampleOps).1 k).2⟩

end RecoveryOS.Core
