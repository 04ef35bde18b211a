import RecoveryOS.Webhook.Evidence
import RecoveryOS.Worker.Recovering
import RecoveryOS.Worker.Runtime

/-!
# Reconciling a case

`reconcile_case` of the production activities. It reads four sources in turn: the recognitions that
the webhook processor wrote, the signed inbox, the hints of the signal, and a snapshot of the
provider. Its answer recovers a case on one of two grounds only: the case is recovered in the
database, with a recognition to show for it, or the provider's snapshot is of a capture of exactly
what is still owed (`reconcileCase_grounds`). So whatever signals a run receives, it returns a case
as recovered on such grounds or not at all.
-/

namespace RecoveryOS.Worker

open Store Webhook Resume

/-- `_unreconciled_case`. -/
def unreconciledCase : ReconciliationResult where
  paymentState := "UNKNOWN"
  subscriptionState := "UNKNOWN"
  authoritative := false
  caseRecovered := false
  arrearsCollectedPaise := 0
  subscriptionReactivated := false

/-- `MockRecoveryActivityServices.reconcile_case`, the fallback of a mock provider. -/
def mockReconcileCase (command : ReconciliationInput) : ReconciliationResult :=
  let recovered := command.authoritativeHint && decide (command.paymentStateHint = some "CAPTURED")
  { paymentState := if recovered then "CAPTURED" else
      (truthy command.paymentStateHint).getD "UNKNOWN"
    subscriptionState := if recovered then "ACTIVE" else "PENDING"
    authoritative := command.authoritativeHint
    caseRecovered := recovered
    arrearsCollectedPaise := if recovered then command.amountPaiseHint.getD 0 else 0
    subscriptionReactivated := recovered
    providerReference := some command.triggerEventId }

/-- The case with its failed invoice and its subscription. -/
structure ReconciliationScope where
  recoveryCase : RecoveryCase
  invoice : Invoice
  subscription : Subscription

/-- The rows that the command is about, if the database has them. -/
def reconciliationScope (command : ReconciliationInput) (db : Database) :
    Option ReconciliationScope := do
  let failedInvoiceId ← command.failedInvoiceId
  let recoveryCase ← db.cases.find? fun c => c.id = command.caseId ∧
    c.merchantId = command.merchantId ∧ c.failedInvoiceId = some failedInvoiceId
  let invoice ← db.invoices.find? fun i => i.id = failedInvoiceId ∧
    i.merchantId = command.merchantId ∧ i.subscriptionId = recoveryCase.subscriptionId
  let subscription ← db.subscriptions.find? fun s => s.id = recoveryCase.subscriptionId ∧
    s.merchantId = command.merchantId
  pure ⟨recoveryCase, invoice, subscription⟩

/-- A recognition of the case that Razorpay has verified, of a captured payment of the invoice. -/
structure VerifiedRecognition (merchantId : String) (c : RecoveryCase) (invoiceId : String)
    (r : RevenueRecognitionRecord) (p : PaymentAttempt) : Prop where
  caseId : r.caseId = c.id
  merchant : r.merchantId = merchantId
  provider : r.provider = "razorpay"
  attribution : r.attribution = .razorpayTestVerified
  collected : r.arrearsCollected = true
  payment : r.paymentAttemptId = some p.id
  invoice : p.invoiceId = invoiceId
  captured : p.paymentState = .captured

instance {merchantId : String} {c : RecoveryCase} {invoiceId : String}
    {r : RevenueRecognitionRecord} {p : PaymentAttempt} :
    Decidable (VerifiedRecognition merchantId c invoiceId r p) :=
  decidable_of_iff (r.caseId = c.id ∧ r.merchantId = merchantId ∧ r.provider = "razorpay" ∧
      r.attribution = .razorpayTestVerified ∧ r.arrearsCollected = true ∧
      r.paymentAttemptId = some p.id ∧ p.invoiceId = invoiceId ∧ p.paymentState = .captured)
    ⟨fun ⟨h₁, h₂, h₃, h₄, h₅, h₆, h₇, h₈⟩ => ⟨h₁, h₂, h₃, h₄, h₅, h₆, h₇, h₈⟩,
      fun ⟨h₁, h₂, h₃, h₄, h₅, h₆, h₇, h₈⟩ => ⟨h₁, h₂, h₃, h₄, h₅, h₆, h₇, h₈⟩⟩

/-- The recognitions that the query selects, each with its payment. A case that is not recovered
asks for the one of the triggering event. -/
def recognitionRows (command : ReconciliationInput) (scope : ReconciliationScope) (db : Database) :
    List (RevenueRecognitionRecord × PaymentAttempt) :=
  (db.recognitions.flatMap fun r => db.payments.map fun p => (r, p)).filter fun row =>
    decide (VerifiedRecognition command.merchantId scope.recoveryCase scope.invoice.id row.1 row.2) &&
      (scope.recoveryCase.caseRecovered || decide (row.1.providerEventId = command.triggerEventId))

/-- `order_by(recognized_at.desc()).limit(1)`. -/
def latestRecognition (command : ReconciliationInput) (scope : ReconciliationScope)
    (db : Database) : Option (RevenueRecognitionRecord × PaymentAttempt) :=
  Table.first (fun a b => decide (b.1.recognizedAt ≤ a.1.recognizedAt))
    (recognitionRows command scope db)

def recognizedResult (command : ReconciliationInput) (c : RecoveryCase)
    (payment : PaymentAttempt) : ReconciliationResult where
  paymentState := c.paymentState.value
  subscriptionState := c.subscriptionState.value
  authoritative := true
  caseRecovered := c.caseRecovered
  arrearsCollectedPaise := c.arrearsCollectedPaise
  subscriptionReactivated := c.subscriptionReactivated
  providerReference := (truthy payment.providerPaymentId).or (some command.triggerEventId)

/-- The signed webhook that the trigger names. -/
def findTrigger (command : ReconciliationInput) (db : Database) : Option WebhookInboxEntry :=
  db.inbox.find? fun e => e.merchantId = command.merchantId ∧ e.provider = "razorpay" ∧
    e.providerEventId = command.triggerEventId

/-- A replacement link carries the notes of its case; for an invoice of the subscription they are
optional. -/
def scopeMatches (event : NormalizedRazorpayEvent) (scope : ReconciliationScope) : Bool :=
  let invoiceMatches := decide (event.invoiceId = some scope.invoice.providerInvoiceId)
  let subscriptionMatches := decide
    (event.subscriptionId ∈ [none, some scope.subscription.providerSubscriptionId])
  if event.eventType = "payment_link.paid" then
    decide (event.caseId = some scope.recoveryCase.id) && invoiceMatches && subscriptionMatches
  else
    decide (event.paymentState = .captured) && invoiceMatches && subscriptionMatches &&
      decide (event.caseId ∈ [none, some scope.recoveryCase.id])

/-- What the trigger comes to: the payment to ask the provider for, or nothing to go on. -/
inductive Trigger where
  | payment (id : Option String)
  | untrusted
  | raised

def readTrigger (command : ReconciliationInput) (scope : ReconciliationScope) (db : Database) :
    Trigger :=
  match findTrigger command db with
  | some inbox =>
    match normalizeWebhook inbox.providerEventId inbox.payload with
    | .error (.integration _ _) => .untrusted
    | .error (.other _) => .raised
    | .ok event =>
      if scopeMatches event scope = true ∧ event.paymentState = .captured ∧
          event.paymentId.isSome = true then
        .payment event.paymentId
      else .untrusted
  | none =>
    -- an asserted success without a durable signed webhook is never payment truth
    if command.authoritativeHint then .untrusted else .payment none

/-- What is still owed on the case. -/
def requiredArrears (c : RecoveryCase) : ℤ :=
  max (c.amountAtRiskPaise - c.arrearsCollectedPaise) 0

def snapshotRecovers (scope : ReconciliationScope) (paymentId : Option String)
    (snapshot : PaymentSnapshot) : Bool :=
  snapshot.authoritative && decide (snapshot.paymentState = .captured) &&
    decide (snapshot.invoiceId = some scope.invoice.providerInvoiceId) &&
    decide (snapshot.subscriptionId = some scope.subscription.providerSubscriptionId) &&
    decide (snapshot.currency = scope.invoice.currency) &&
    decide (snapshot.amountPaise = requiredArrears scope.recoveryCase) &&
    decide (0 < requiredArrears scope.recoveryCase) &&
    (paymentId.isNone || decide (snapshot.paymentId = paymentId))

def snapshotResult (scope : ReconciliationScope) (paymentId : Option String)
    (snapshot : PaymentSnapshot) : ReconciliationResult :=
  let recovered := snapshotRecovers scope paymentId snapshot
  { paymentState := snapshot.paymentState.value
    subscriptionState := snapshot.subscriptionState.value
    authoritative := snapshot.authoritative
    caseRecovered := recovered
    arrearsCollectedPaise := if recovered then
      scope.recoveryCase.arrearsCollectedPaise + snapshot.amountPaise else 0
    subscriptionReactivated := recovered && decide (snapshot.subscriptionState.value = "ACTIVE")
    providerReference := (truthy snapshot.paymentId).or snapshot.invoiceId }

/-- `fetch_payment_snapshot`, of a merchant's payment and invoice; `none` if it raises. -/
abbrev FetchSnapshot := String → Option String → String → Option PaymentSnapshot

/-- `reconcile_case`; `none` if it raises. -/
def reconcileCase (rt : Runtime) (fetch : FetchSnapshot) (command : ReconciliationInput)
    (db : Database) : Option ReconciliationResult :=
  if rt.provider = .mock then some (mockReconcileCase command)
  else
    match reconciliationScope command db with
    | none => some unreconciledCase
    | some scope =>
      match latestRecognition command scope db with
      | some (_, payment) => some (recognizedResult command scope.recoveryCase payment)
      | none =>
        match readTrigger command scope db with
        | .untrusted => some unreconciledCase
        | .raised => none
        | .payment paymentId =>
          (fetch command.merchantId paymentId scope.invoice.providerInvoiceId).map
            (snapshotResult scope paymentId)

/-! ## The grounds of a recovery -/

/-- The persisted case is recovered. -/
def PersistedRecovered (command : ReconciliationInput) (db : Database) : Prop :=
  ∃ c ∈ db.cases, c.id = command.caseId ∧ c.merchantId = command.merchantId ∧
    c.failedInvoiceId = command.failedInvoiceId ∧ c.caseRecovered = true

/-- The persisted case is recovered, and a verified recognition of a captured payment of its failed
invoice stands for it. -/
def RecognizedGrounds (command : ReconciliationInput) (db : Database) : Prop :=
  ∃ c ∈ db.cases, c.id = command.caseId ∧ c.merchantId = command.merchantId ∧
    c.failedInvoiceId = command.failedInvoiceId ∧ c.caseRecovered = true ∧
    ∃ r ∈ db.recognitions, ∃ p ∈ db.payments, ∃ invoiceId, c.failedInvoiceId = some invoiceId ∧
      VerifiedRecognition command.merchantId c invoiceId r p

/-- An authoritative snapshot of a capture: of the failed invoice, the subscription and the currency
of the case, and of exactly what is still owed. -/
def SnapshotGrounds (command : ReconciliationInput) (db : Database) (snapshot : PaymentSnapshot) :
    Prop :=
  ∃ c ∈ db.cases, c.id = command.caseId ∧ c.merchantId = command.merchantId ∧
    c.failedInvoiceId = command.failedInvoiceId ∧
    ∃ i ∈ db.invoices, c.failedInvoiceId = some i.id ∧ i.merchantId = command.merchantId ∧
    ∃ s ∈ db.subscriptions, s.id = c.subscriptionId ∧ s.merchantId = command.merchantId ∧
      snapshot.authoritative = true ∧ snapshot.paymentState = .captured ∧
      snapshot.invoiceId = some i.providerInvoiceId ∧
      snapshot.subscriptionId = some s.providerSubscriptionId ∧
      snapshot.currency = i.currency ∧
      0 < c.amountAtRiskPaise - c.arrearsCollectedPaise ∧
      snapshot.amountPaise = c.amountAtRiskPaise - c.arrearsCollectedPaise

/-- What a reconciliation that recovers the case has found: one of the two grounds, and if its
trigger only claims to be authoritative, that the case was recovered already. -/
structure Grounds (command : ReconciliationInput) (fetch : FetchSnapshot) (db : Database) :
    Prop where
  evidence : RecognizedGrounds command db ∨
    ∃ paymentId invoiceId snapshot, fetch command.merchantId paymentId invoiceId = some snapshot ∧
      SnapshotGrounds command db snapshot
  asserted : command.authoritativeHint = true → findTrigger command db = none →
    PersistedRecovered command db

section
variable {command : ReconciliationInput} {db : Database}

/-- The rows of a scope are those of the command. -/
structure InScope (command : ReconciliationInput) (db : Database) (scope : ReconciliationScope) :
    Prop where
  mem_cases : scope.recoveryCase ∈ db.cases
  caseId : scope.recoveryCase.id = command.caseId
  caseMerchant : scope.recoveryCase.merchantId = command.merchantId
  failedInvoice : scope.recoveryCase.failedInvoiceId = command.failedInvoiceId
  mem_invoices : scope.invoice ∈ db.invoices
  invoiceId : scope.recoveryCase.failedInvoiceId = some scope.invoice.id
  invoiceMerchant : scope.invoice.merchantId = command.merchantId
  mem_subscriptions : scope.subscription ∈ db.subscriptions
  subscriptionId : scope.subscription.id = scope.recoveryCase.subscriptionId
  subscriptionMerchant : scope.subscription.merchantId = command.merchantId

lemma inScope_of_reconciliationScope {scope : ReconciliationScope}
    (h : reconciliationScope command db = some scope) : InScope command db scope := by
  unfold reconciliationScope at h
  simp only [Option.bind_eq_bind, Option.bind_eq_some_iff] at h
  obtain ⟨id, hid, c, hc, i, hi, s, hs, he⟩ := h
  obtain rfl := Option.some.inj he
  have hcp := List.find?_some hc
  have hip := List.find?_some hi
  have hsp := List.find?_some hs
  simp only [decide_eq_true_eq] at hcp hip hsp
  exact
    { mem_cases := List.mem_of_find?_eq_some hc
      caseId := hcp.1
      caseMerchant := hcp.2.1
      failedInvoice := hcp.2.2.trans hid.symm
      mem_invoices := List.mem_of_find?_eq_some hi
      invoiceId := hcp.2.2.trans (congrArg some hip.1.symm)
      invoiceMerchant := hip.2.1
      mem_subscriptions := List.mem_of_find?_eq_some hs
      subscriptionId := hsp.1
      subscriptionMerchant := hsp.2 }

/-- What the query for recognitions finds. -/
lemma latestRecognition_spec {scope : ReconciliationScope} {r : RevenueRecognitionRecord}
    {p : PaymentAttempt} (h : latestRecognition command scope db = some (r, p)) :
    r ∈ db.recognitions ∧ p ∈ db.payments ∧
      VerifiedRecognition command.merchantId scope.recoveryCase scope.invoice.id r p := by
  have hm := Table.mem_of_first h
  obtain ⟨hmem, hp⟩ := List.mem_filter.mp hm
  obtain ⟨r', hr', hrow⟩ := List.mem_flatMap.mp hmem
  obtain ⟨p', hp', he⟩ := List.mem_map.mp hrow
  obtain ⟨rfl, rfl⟩ := Prod.mk.inj he
  rw [Bool.and_eq_true, decide_eq_true_eq] at hp
  exact ⟨hr', hp', hp.1⟩

lemma snapshotGrounds_of_recovers {scope : ReconciliationScope} {paymentId : Option String}
    {snapshot : PaymentSnapshot} (hs : InScope command db scope)
    (h : snapshotRecovers scope paymentId snapshot = true) :
    SnapshotGrounds command db snapshot := by
  simp only [snapshotRecovers, Bool.and_eq_true, decide_eq_true_eq] at h
  obtain ⟨⟨⟨⟨⟨⟨⟨hauth, hstate⟩, hinv⟩, hsub⟩, hcur⟩, hamount⟩, hpos⟩, -⟩ := h
  have hreq : requiredArrears scope.recoveryCase =
      scope.recoveryCase.amountAtRiskPaise - scope.recoveryCase.arrearsCollectedPaise := by
    unfold requiredArrears at hpos ⊢
    omega
  rw [hreq] at hamount hpos
  exact ⟨_, hs.mem_cases, hs.caseId, hs.caseMerchant, hs.failedInvoice, _, hs.mem_invoices,
    hs.invoiceId, hs.invoiceMerchant, _, hs.mem_subscriptions, hs.subscriptionId,
    hs.subscriptionMerchant, hauth, hstate, hinv, hsub, hcur, hpos, hamount⟩

/-- A reconciliation that recovers the case has its grounds. -/
theorem reconcileCase_grounds {rt : Runtime} (hrt : rt.provider ≠ .mock) {fetch : FetchSnapshot}
    {d : ReconciliationResult} (h : reconcileCase rt fetch command db = some d)
    (hrec : d.caseRecovered = true) : Grounds command fetch db := by
  unfold reconcileCase at h
  rw [if_neg hrt] at h
  cases hscope : reconciliationScope command db with
  | none =>
    simp only [hscope, Option.some.injEq] at h
    rw [← h] at hrec
    simp [unreconciledCase] at hrec
  | some scope =>
    have hin := inScope_of_reconciliationScope hscope
    simp only [hscope] at h
    cases hrow : latestRecognition command scope db with
    | some row =>
      obtain ⟨r, p⟩ := row
      obtain ⟨hr, hp, hv⟩ := latestRecognition_spec hrow
      simp only [hrow, Option.some.injEq] at h
      rw [← h] at hrec
      have hcase : scope.recoveryCase.caseRecovered = true := hrec
      refine ⟨.inl ?_, fun _ _ => ?_⟩
      · exact ⟨_, hin.mem_cases, hin.caseId, hin.caseMerchant, hin.failedInvoice, hcase, r, hr, p,
          hp, _, hin.invoiceId, hv⟩
      · exact ⟨_, hin.mem_cases, hin.caseId, hin.caseMerchant, hin.failedInvoice, hcase⟩
    | none =>
      simp only [hrow] at h
      cases htrigger : readTrigger command scope db with
      | untrusted =>
        simp only [htrigger, Option.some.injEq] at h
        rw [← h] at hrec
        simp [unreconciledCase] at hrec
      | raised => simp [htrigger] at h
      | payment paymentId =>
        simp only [htrigger, Option.map_eq_some_iff] at h
        obtain ⟨snapshot, hfetch, rfl⟩ := h
        refine ⟨.inr ⟨paymentId, _, snapshot, hfetch, snapshotGrounds_of_recovers hin hrec⟩, ?_⟩
        intro hint hnone
        simp [readTrigger, hnone, hint] at htrigger

end

end RecoveryOS.Worker
