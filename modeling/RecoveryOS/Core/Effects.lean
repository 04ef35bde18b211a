import RecoveryOS.Decision.Engine
import RecoveryOS.Worker.Submission

/-!
# What the code does to the database

Every transaction of the service is a sequence of effects, and an effect says all that its write can
do to the tables that the results are about. An operation is proved once to `Evolve` the database
this way; an invariant is then a fact about the constructors of `Effect`.

Two writes are not effects, since they do not look at the rows they change: an approval writes over
an action that it may have read long before, and a recommendation that was decided on a case some
time ago adds its action to what the case is now. Results treat these on their own.
-/

namespace RecoveryOS.Core

open Store

/-! ## Rows -/

/-- The statuses that a claim starts from or leaves behind. -/
def Live (s : ActionStatus) : Prop := s = .proposed ∨ s = .scheduled ∨ s = .executing

/-- The statuses of an action that is not finished. -/
def Unfinished (s : ActionStatus) : Prop := Live s ∨ s = .awaitingApproval

/-- What becomes of a row of the actions. -/
structure Move (a a' : RecoveryActionRecord) : Prop where
  id : a'.id = a.id
  caseId : a'.caseId = a.caseId
  actionType : a'.actionType = a.actionType
  paymentSurfaceType : a'.paymentSurfaceType = a.paymentSurfaceType
  idempotencyKey : a'.idempotencyKey = a.idempotencyKey
  status : a'.status = a.status ∨ a'.status = .cancelled ∨ a'.status = .succeeded ∨
    a'.status = .executing ∧ (a.status = .proposed ∨ a.status = .scheduled) ∨
    a'.status = .scheduled ∧ a.actionType = .waitForGatewayRetry

/-- Only a wait comes to life again. -/
lemma Move.live {a a' : RecoveryActionRecord} (h : Move a a') (hl : Live a'.status)
    (hw : a.actionType ≠ .waitForGatewayRetry) : Live a.status := by
  rcases h.status with hs | hs | hs | ⟨-, hs⟩ | ⟨-, hs⟩
  · rwa [hs] at hl
  · rw [hs] at hl
    simp [Live] at hl
  · rw [hs] at hl
    simp [Live] at hl
  · exact Or.imp_right .inl hs
  · exact absurd hs hw

lemma Move.cancelled (a : RecoveryActionRecord) (t : Instant) : Move a (Worker.cancelled a t) :=
  ⟨rfl, rfl, rfl, rfl, rfl, .inr (.inl rfl)⟩

lemma Move.executing {a : RecoveryActionRecord} (h : a.status = .proposed ∨ a.status = .scheduled) :
    Move a (Worker.executing a) :=
  ⟨rfl, rfl, rfl, rfl, rfl, .inr (.inr (.inr (.inl ⟨rfl, h⟩)))⟩

lemma Move.surfaced (a : RecoveryActionRecord) (r : Worker.PaymentSurfaceResult) (t : Instant) :
    Move a (Worker.surfaced a r t) :=
  ⟨rfl, rfl, rfl, rfl, rfl, .inr (.inr (.inl rfl))⟩

lemma Move.finalized (a : RecoveryActionRecord) (reference : Option String) (t : Instant) :
    Move a (Worker.finalized a reference t) := by
  refine ⟨rfl, rfl, rfl, rfl, rfl, ?_⟩
  unfold Worker.finalized
  dsimp only
  split_ifs
  · exact .inr (.inr (.inl rfl))
  · exact .inr (.inl rfl)

/-- The attempt is at the same payment, and stays captured. -/
structure SameAttempt (p p' : PaymentAttempt) : Prop where
  id : p'.id = p.id
  merchantId : p'.merchantId = p.merchantId
  invoiceId : p'.invoiceId = p.invoiceId
  providerPaymentId : p'.providerPaymentId = p.providerPaymentId
  captured : p.paymentState = .captured → p'.paymentState = .captured

structure NewCase (c : RecoveryCase) : Prop where
  isOpen : c.caseOutcome = .open
  notContacted : c.contactDisposition = .notContacted
  nothingCollected : c.arrearsCollectedPaise = 0
  atRisk : 0 < c.amountAtRiskPaise
  notRecovered : c.caseRecovered = false
  notCaptured : c.paymentState ≠ .captured

/-- What no write changes of a case, or only one way. -/
structure SameCase (c c' : RecoveryCase) : Prop where
  id : c'.id = c.id
  merchantId : c'.merchantId = c.merchantId
  customerId : c'.customerId = c.customerId
  subscriptionId : c'.subscriptionId = c.subscriptionId
  failedInvoiceId : c'.failedInvoiceId = c.failedInvoiceId
  atRisk : c'.amountAtRiskPaise = c.amountAtRiskPaise
  openedAt : c'.openedAt = c.openedAt
  recoveryDeadline : c'.recoveryDeadline = c.recoveryDeadline
  version : c.version ≤ c'.version
  attributed : c.revenueAttribution ≠ .none → c'.revenueAttribution ≠ .none

lemma SameCase.trans {c c' c'' : RecoveryCase} (h : SameCase c c') (h' : SameCase c' c'') :
    SameCase c c'' :=
  { id := h'.id.trans h.id
    merchantId := h'.merchantId.trans h.merchantId
    customerId := h'.customerId.trans h.customerId
    subscriptionId := h'.subscriptionId.trans h.subscriptionId
    failedInvoiceId := h'.failedInvoiceId.trans h.failedInvoiceId
    atRisk := h'.atRisk.trans h.atRisk
    openedAt := h'.openedAt.trans h.openedAt
    recoveryDeadline := h'.recoveryDeadline.trans h.recoveryDeadline
    version := h.version.trans h'.version
    attributed := fun ha => h'.attributed (h.attributed ha) }

/-- The state of the payment or of the subscription is noted. -/
structure NotedCase (c c' : RecoveryCase) : Prop extends SameCase c c' where
  outcome : c'.caseOutcome = c.caseOutcome
  disposition : c'.contactDisposition = c.contactDisposition
  collected : c'.arrearsCollectedPaise = c.arrearsCollectedPaise
  recovered : c'.caseRecovered = c.caseRecovered
  captured : c.paymentState = .captured → c'.paymentState = .captured
  capturedOnly : c'.paymentState = .captured → c.paymentState = .captured

/-- A capture of `amount` is noted. -/
structure CapturedCase (c c' : RecoveryCase) (amount : ℤ) : Prop extends SameCase c c' where
  disposition : c'.contactDisposition = c.contactDisposition
  collected : c'.arrearsCollectedPaise = c.arrearsCollectedPaise + amount
  recovered : c'.caseRecovered = true ↔ c'.amountAtRiskPaise ≤ c'.arrearsCollectedPaise
  outcome : c'.caseRecovered = true → c'.caseOutcome = .recovered
  outcomeOnly : c'.caseRecovered = false → c'.caseOutcome = .recovered → c.caseOutcome = .recovered
  openOnly : c'.caseOutcome = .open → c.caseOutcome = .open
  captured : c'.paymentState = .captured
  attribution : amount ≠ 0 → c'.revenueAttribution ≠ .none

/-- An open case is closed, perhaps with what the customer said. -/
structure ClosedCase (c c' : RecoveryCase) : Prop extends SameCase c c' where
  isOpen : c.caseOutcome = .open
  collected : c'.arrearsCollectedPaise = c.arrearsCollectedPaise
  recovered : c'.caseRecovered = c.caseRecovered
  payment : c'.paymentState = c.paymentState
  notRecovered : c'.caseOutcome ≠ .recovered
  disposition : c'.contactDisposition = c.contactDisposition ∨
    (Safety.suppressionReason c'.contactDisposition).isSome = true

/-- A new action has the status of its decision; one that may reach the customer is about a case
that was open and unpaid. -/
structure Decided (db : Database) (a : RecoveryActionRecord) (p : PolicyDecisionRecord) :
    Prop where
  actionId : p.actionId = some a.id
  status : Safety.isContact a.actionType = true → a.status = Decision.statusOf p.disposition
  case : Safety.isContact a.actionType = true → p.disposition ≠ .block →
    ∃ c ∈ db.cases, c.id = a.caseId ∧ c.caseOutcome = .open ∧ c.paymentState ≠ .captured

/-- A nonce is marked as claimed or executed. -/
structure Stamped (n n' : A2A.A2AMandateNonceConsumption) : Prop where
  columns : n'.toClaimColumns = n.toClaimColumns
  status : n'.executionStatus = n.executionStatus ∨ n'.executionStatus = .executing ∨
    n'.executionStatus = .succeeded

/-- The case that an event of the provider is about, and its invoice: the invoice is the one that
the event names, or the case is. -/
structure Names (payload : Webhook.RazorpayOutboxPayload) (c : RecoveryCase) (i : Invoice) :
    Prop where
  merchantId : c.merchantId = payload.merchantId
  invoiceMerchantId : i.merchantId = payload.merchantId
  failedInvoiceId : c.failedInvoiceId = some i.id
  invoice : ∀ x, truthy payload.event.invoiceId = some x → i.providerInvoiceId = x
  case : truthy payload.event.invoiceId = none → truthy payload.event.caseId = some c.id

/-- What no write changes of an invoice. -/
structure SameInvoice (i i' : Invoice) : Prop where
  id : i'.id = i.id
  merchantId : i'.merchantId = i.merchantId
  providerInvoiceId : i'.providerInvoiceId = i.providerInvoiceId

lemma Names.kept {payload : Webhook.RazorpayOutboxPayload} {c c' : RecoveryCase} {i i' : Invoice}
    (h : Names payload c i) (hc : SameCase c c') (hi : SameInvoice i i') : Names payload c' i' where
  merchantId := hc.merchantId.trans h.merchantId
  invoiceMerchantId := hi.merchantId.trans h.invoiceMerchantId
  failedInvoiceId := by rw [hc.failedInvoiceId, hi.id, h.failedInvoiceId]
  invoice := fun x hx => hi.providerInvoiceId.trans (h.invoice x hx)
  case := fun hn => by rw [hc.id, h.case hn]

section
variable (W : Webhook.RazorpayOutboxPayload → Prop)

/-- The recognition that a capture finds: of its event, or of its payment. -/
structure Standing (db : Database) (c : RecoveryCase) : Prop where
  found : ∃ payload i p r, W payload ∧ Names payload c i ∧ i ∈ db.invoices ∧ p ∈ db.payments ∧
    p.invoiceId = i.id ∧ r ∈ db.recognitions ∧ r.merchantId = payload.merchantId ∧
    r.provider = "razorpay" ∧
    (r.providerEventId = payload.event.providerEventId ∨ r.paymentAttemptId = some p.id)

/-- The money that a recognition moves. -/
structure Recognition (db : Database) (r : RevenueRecognitionRecord) (c c' : RecoveryCase)
    (i i' : Invoice) : Prop where
  mem : c ∈ db.cases
  caseId : r.caseId = c.id
  merchantId : r.merchantId = c.merchantId
  first : ∃ p : PaymentAttempt, r.paymentAttemptId = some p.id ∧
    ∀ s ∈ db.recognitions, s.merchantId = r.merchantId → s.provider = r.provider →
      s.paymentAttemptId ≠ some p.id
  attempt : ∃ p ∈ db.payments, r.paymentAttemptId = some p.id ∧
    c.failedInvoiceId = some p.invoiceId
  origin : r.provider = "razorpay" → ∃ payload, W payload ∧ Names payload c i ∧
    r.providerEventId = payload.event.providerEventId
  invoice : i ∈ db.invoices
  withinInvoice : r.provider = "razorpay" →
    r.amountPaise ≤ i.amountPaise - i.amountPaidPaise
  withinCase : r.amountPaise ≤ c.amountAtRiskPaise - c.arrearsCollectedPaise
  invoiceId : i'.id = i.id
  invoiceMerchantId : i'.merchantId = i.merchantId
  providerInvoiceId : i'.providerInvoiceId = i.providerInvoiceId
  due : i'.amountPaise = i.amountPaise
  paid : i'.amountPaidPaise = min i.amountPaise (i.amountPaidPaise + r.amountPaise)
  captured : CapturedCase c c' r.amountPaise

end

/-! ## Effects -/

/-- The tables that the results are about are as they were; of the customers and the subscriptions,
which ones there are. -/
structure SameTables (db db' : Database) : Prop where
  invoices : db'.invoices = db.invoices
  payments : db'.payments = db.payments
  cases : db'.cases = db.cases
  policies : db'.policies = db.policies
  actions : db'.actions = db.actions
  events : db'.events = db.events
  recognitions : db'.recognitions = db.recognitions
  nonces : db'.nonces = db.nonces
  customers : db'.customers.map (·.id) = db.customers.map (·.id)
  subscriptions : db'.subscriptions.map (·.id) = db.subscriptions.map (·.id)

/-- What the writes at hand come from: the events that captures are of, and whether the merchant or
the customer has a say. -/
structure Scope where
  event : Webhook.RazorpayOutboxPayload → Prop
  contact : Prop

def Scope.any : Scope := ⟨fun _ => True, True⟩

/-- What a write does. -/
inductive EffectOf (W : Scope) : Database → Database → Prop where
  | other {db db'} (h : SameTables db db') : EffectOf W db db'
  | event {db db'} (e) (h : db.insertEvent e = some db') : EffectOf W db db'
  | invoice {db db'} (i) (h : db.insertInvoice i = some db') : EffectOf W db db'
  | payment {db db'} (p) (h : db.insertPayment p = some db') : EffectOf W db db'
  | attempt {db p p'} (hp : p ∈ db.payments) (h : SameAttempt p p') :
      EffectOf W db (db.putPayment p')
  | opened {db db' c} (h : db.insertCase c = some db') (hc : NewCase c) : EffectOf W db db'
  | noted {db c c'} (hc : c ∈ db.cases) (h : NotedCase c c') : EffectOf W db (db.putCase c')
  | captured {db c c'} (t) (hc : c ∈ db.cases) (h : CapturedCase c c' 0) (hs : Standing W.event db c) :
      EffectOf W db (db.settle c' t)
  | recognized {db db' r c c' i i'} (t) (hr : db.insertRecognition r = some db')
      (h : Recognition W.event db r c c' i i') : EffectOf W db ((db'.putInvoice i').settle c' t)
  | marked {db} (caseId : String) (hw : W.contact) : EffectOf W db
      { db with cases := db.cases.map fun c =>
          if c.id = caseId then { c with contactDisposition := .optedOut } else c }
  | closed {db c c'} (t) (hc : c ∈ db.cases) (h : ClosedCase c c') (hw : W.contact) :
      EffectOf W db (db.closeCase c' t)
  | added {db db' a p} (h : db.insertActionWithPolicy a p = some db') (hd : Decided db a p) :
      EffectOf W db db'
  | moved {db a a'} (ha : a ∈ db.actions) (h : Move a a') : EffectOf W db (db.putAction a')
  | swept {db} (f) (h : ∀ a ∈ db.actions, Move a (f a)) :
      EffectOf W db { db with actions := db.actions.map f }
  | stamped {db} (f) (h : ∀ n ∈ db.nonces, Stamped n (f n)) :
      EffectOf W db { db with nonces := db.nonces.map f }
  | consumed {db rows} (c) (h : A2A.insertClaim db.nonces c = some rows) :
      EffectOf W db { db with nonces := rows }

/-- What a sequence of effects makes of a database. -/
def EvolvesOf (W : Scope) : Database → Database → Prop :=
  Relation.ReflTransGen (EffectOf W)

/-- Effects of any scope. -/
abbrev Effect : Database → Database → Prop := EffectOf .any

abbrev Evolves : Database → Database → Prop := EvolvesOf .any

section
variable {W : Scope} {db db' db'' : Database}

lemma EvolvesOf.refl (db : Database) : EvolvesOf W db db := Relation.ReflTransGen.refl

lemma EvolvesOf.trans (h : EvolvesOf W db db') (h' : EvolvesOf W db' db'') :
    EvolvesOf W db db'' := Relation.ReflTransGen.trans h h'

lemma EvolvesOf.effect (h : EvolvesOf W db db') (h' : EffectOf W db' db'') :
    EvolvesOf W db db'' := Relation.ReflTransGen.tail h h'

lemma EffectOf.evolves (h : EffectOf W db db') : EvolvesOf W db db' :=
  Relation.ReflTransGen.single h

/-- The rule by which an invariant of the effects holds all along. -/
theorem EvolvesOf.induct {P : Database → Prop}
    (hstep : ∀ {db db'}, EffectOf W db db' → P db → P db') (h : EvolvesOf W db db') (hP : P db) :
    P db' := by
  induction h with
  | refl => exact hP
  | tail _ he ih => exact hstep he ih

lemma Evolves.refl (db : Database) : Evolves db db := EvolvesOf.refl db

end

/-! ## The other tables -/

lemma EvolvesOf.other {W : Scope} {db db' db'' : Database}
    (h : EvolvesOf W db db') (h' : SameTables db' db'') : EvolvesOf W db db'' := h.effect (.other h')

lemma evolves_setAuthorization {db : Database} {actionId : String}
    {f : A2A.A2AMandateNonceConsumption → A2A.A2AMandateNonceConsumption}
    (h : ∀ n, Stamped n (f n)) : Evolves db (Worker.setAuthorization actionId f db) := by
  refine EffectOf.evolves (.stamped _ fun n _ => ?_)
  split_ifs
  · exact h n
  · exact ⟨rfl, .inl rfl⟩

lemma evolves_recordSurface {db : Database} {a : RecoveryActionRecord} (ha : a ∈ db.actions)
    (r : Worker.PaymentSurfaceResult) (t : Instant) :
    Evolves db (Worker.recordSurface a r t db) :=
  (EffectOf.moved ha (.surfaced a r t)).evolves.trans
    (evolves_setAuthorization fun _ => ⟨rfl, .inr (.inr rfl)⟩)

end RecoveryOS.Core
