import RecoveryOS.Core.Operations
import RecoveryOS.Webhook.Evolution

/-!
# The service as it runs

A `World` is the database with what is under way around it: recommendations and approvals that have
read and not yet written, executions that wait for a provider, and the provider's standalone links
with the creates that have not reached it. A step is one transaction of one component, or one thing
that happens outside, so a run is any interleaving of the components.

What was submitted is remembered with the database that its claim read.
-/

namespace RecoveryOS.Core

open Store Worker

structure Deployment where
  platform : Webhook.Platform
  runtime : Runtime
  verifier : A2A.Verifier runtime.pkgs

/-- A call of `open_customer_payment_surface`, with the claim it was made under. -/
structure Submission where
  worker : ℕ
  command : ExecuteActionInput
  actionId : String
  request : OpenPaymentSurfaceRequest
  claimed : Database
  claimedAt : Instant

/-- Where an execution waits: for the provider, to persist its result, or to reconcile. -/
inductive Stage where
  | awaiting
  | persisting (result : PaymentSurfaceResult)
  | reconciling

structure Pending where
  submission : Submission
  stage : Stage

/-- A standalone link at the provider; it is inactive once it is cancelled or expired. -/
structure Link where
  id : String
  reference : String
  active : Bool

/-- The provider's answer to a call, as the execution sees it. -/
inductive Reply where
  | result (r : PaymentSurfaceResult)
  | uncertain
  | failed

structure World where
  db : Database
  recommendations : List Cases.PendingRecommendation := []
  approvals : List Cases.PendingApproval := []
  pending : List Pending := []
  inFlight : List (ℕ × String) := []
  voiceCalls : List String := []
  verified : List (A2A.Presentation × A2A.Checked) := []
  submitted : List Submission := []
  wire : List Submission := []
  links : List Link := []

inductive Op where
  /-- A webhook is stored, or the processor is called. -/
  | deliver (entry : WebhookInboxEntry) (message : OutboxMessage)
  | process (call : Webhook.Call)
  /-- The operator's commands; a recommendation and an approval are two steps, and a rejection may
  hold any row, whatever its session has read. -/
  | recommend (service : Cases.Service) (request : Cases.RecommendRequest)
  | commitRecommendation (i : ℕ)
  | loadApproval (merchantId caseId actionId : String)
  | commitApproval (i : ℕ) (completedAt : Instant)
  | reject (merchantId caseId actionId : String) (held : Option RecoveryActionRecord)
      (rejectedAt : Instant)
  | stop (merchantId caseId : String) (stoppedAt : Instant)
  | escalate (merchantId caseId reason actionId policyId : String) (escalatedAt utcNow : Instant)
  | recordDisposition (merchantId caseId : String) (disposition : ContactDisposition)
      (recordedAt : Instant)
  /-- A voice attempt is written, or a callback about one arrives. -/
  | reserveVoice (attempt : VoiceContactAttemptRecord)
  | callback (callback : Voice.Callback) (eventId attemptId : String) (now : Instant)
      (cancelSucceeds : Bool)
  /-- A mandate is polled, verified and consumed. -/
  | poll (presentation : A2A.Presentation)
  /-- An execution is delivered to a worker, and goes on. -/
  | execute (worker : ℕ) (command : ExecuteActionInput) (voiceReady : Bool) (now : Instant)
  | reply (i : ℕ) (reply : Reply)
  | persist (i : ℕ) (now : Instant)
  | reconcile (i : ℕ) (lookup : LinkLookup) (resubmission : Option PaymentSurfaceResult)
      (now : Instant)
  | finishVoice (i : ℕ) (reference : Option String) (now : Instant)
  | crash (worker : ℕ)
  /-- A create reaches the provider or is lost or refused, and a link expires. -/
  | land (i : ℕ) (linkId : String)
  | lose (i : ℕ)
  | expire (linkId : String)
  /-- The two transactions of `cancel_recovery_action`, and the audit of the workflow. -/
  | cleanup (caseId : String) (replies : LinkReplies) (revoked : List String) (now : Instant)
  | cancelOthers (caseId : String) (now : Instant)
  | audit (command : AuditInput) (now : Instant)

/-- The database after a transaction; one that raises leaves it as it was. -/
def commit {ε α : Type} (tx : Tx ε Database α) (db : Database) : Database :=
  match tx db with
  | .ok (_, db') => db'
  | .error _ => db

namespace World

variable (d : Deployment) (w : World)

/-- The submissions that a worker's process has in flight. -/
def inFlightOf (worker : ℕ) : List String :=
  (w.inFlight.filter fun p => p.1 = worker).map (·.2)

/-- A call of the provider. -/
def submit (s : Submission) : World :=
  { w with
    submitted := w.submitted ++ [s]
    wire := if s.request.surfaceType = .standardPaymentLink then w.wire ++ [s] else w.wire }

/-- `execute_recovery_action` for a payment surface. -/
def executeSurface (worker : ℕ) (command : ExecuteActionInput) (now : Instant) : World :=
  let (next, db) := executePaymentSurface d.runtime command (w.inFlightOf worker) now w.db
  match next with
  | .submit actionId request =>
    let s : Submission := ⟨worker, command, actionId, request, w.db, now⟩
    { w.submit s with
      db
      pending := w.pending ++ [⟨s, .awaiting⟩]
      inFlight := w.inFlight ++ [(worker, actionId)] }
  | .reconcile actionId request =>
    { w with
      db
      pending := w.pending ++ [⟨⟨worker, command, actionId, request, w.db, now⟩, .reconciling⟩] }
  | _ => { w with db }

/-- `execute_recovery_action` for a call. -/
def executeVoice (command : ExecuteActionInput) (ready : Bool) : World :=
  match claimVoiceAction command ready w.db with
  | (.claimed action, db) => { w with db, voiceCalls := w.voiceCalls ++ [action.id] }
  | (.answered _, db) => { w with db }

/-- `execute_recovery_action`. -/
def execute (worker : ℕ) (command : ExecuteActionInput) (voiceReady : Bool) (now : Instant) :
    World :=
  if command.action = "START_VOICE" then w.executeVoice command voiceReady
  else if command.action = "OPEN_CUSTOMER_PAYMENT_SURFACE" then
    w.executeSurface d worker command now
  else w

/-- The execution is over. -/
def finish (i : ℕ) (s : Submission) : World :=
  { w with pending := w.pending.eraseIdx i, inFlight := w.inFlight.erase (s.worker, s.actionId) }

/-- The provider's answer reaches an execution. -/
def answer (i : ℕ) (s : Submission) : Reply → World
  | .result r =>
    { w with
      pending := w.pending.set i ⟨s, .persisting r⟩
      inFlight := w.inFlight.erase (s.worker, s.actionId) }
  | .uncertain =>
    if s.request.surfaceType = .standardPaymentLink then
      { w with pending := w.pending.set i ⟨s, .reconciling⟩ }
    else w.finish i s
  | .failed => w.finish i s

/-- A reconciliation; it resubmits where the lookup finds nothing. -/
def reconcile (i : ℕ) (s : Submission) (lookup : LinkLookup)
    (resubmission : Option PaymentSurfaceResult) (now : Instant) : World :=
  let ((_, resubmitted), db) :=
    reconcileStandardPaymentLink d.runtime s.actionId lookup resubmission now w.db
  let w' := { w.finish i s with db }
  if resubmitted then w'.submit s else w'

/-- A create reaches the provider, which makes a link for every create that it accepts. -/
def land (s : Submission) (linkId : String) : List Link :=
  match s.request.referenceId with
  | none => w.links
  | some reference => w.links ++ [⟨linkId, reference, true⟩]

def deactivate (ids : List String) : List Link :=
  w.links.map fun l => if l.id ∈ ids then { l with active := false } else l

/-- `poll_and_verify_mandate` from the verification on. -/
def poll (p : A2A.Presentation) : World :=
  match d.verifier.check p with
  | .error _ => w
  | .ok c =>
    match A2A.consume w.db.nonces (c.claim d.runtime.pkgs) (!c.expired) with
    | (.claimed, rows) =>
      { w with db := { w.db with nonces := rows }, verified := w.verified ++ [(p, c)] }
    | _ => w

/-- The load of an approval, which may find nothing to load. -/
def loadApproval (merchantId caseId actionId : String) : World :=
  match Cases.loadApproval merchantId caseId actionId w.db with
  | .ok (pending, _) => { w with approvals := w.approvals ++ [pending] }
  | .error _ => w

/-- The decision of a recommendation, which may be an action that is there already. -/
def recommend (service : Cases.Service) (request : Cases.RecommendRequest) : World :=
  match Cases.decideRecommendation service request w.db with
  | .ok (.inr pending, _) => { w with recommendations := w.recommendations ++ [pending] }
  | _ => w

/-- One step of a component, or of the world outside. -/
def step : Op → World
  | .deliver entry message =>
    { w with db := { w.db with
      inbox := w.db.inbox ++ [entry]
      outbox := w.db.outbox ++ [message] } }
  | .process call => { w with db := (Webhook.processNext d.platform call w.db).2 }
  | .recommend service request => w.recommend service request
  | .commitRecommendation i =>
    match w.recommendations[i]? with
    | none => w
    | some pending =>
      { w with
        db := commit (Cases.persistRecommendation pending) w.db
        recommendations := w.recommendations.eraseIdx i }
  | .loadApproval merchantId caseId actionId => w.loadApproval merchantId caseId actionId
  | .commitApproval i completedAt =>
    match w.approvals[i]? with
    | none => w
    | some pending =>
      { w with
        db := commit (Cases.commitApproval pending completedAt) w.db
        approvals := w.approvals.eraseIdx i }
  | .reject m c a held t => { w with db := commit (Cases.rejectAction m c a held t) w.db }
  | .stop m c t => { w with db := commit (Cases.stopCase m c t) w.db }
  | .escalate m c reason a p t t' =>
    { w with db := commit (Cases.escalateCase m c reason a p t t') w.db }
  | .recordDisposition m c disposition t =>
    { w with db := commit (Cases.recordSafetyDisposition m c disposition t) w.db }
  | .reserveVoice attempt => { w with db := (w.db.insertVoiceAttempt attempt).getD w.db }
  | .callback callback eventId attemptId now cancelSucceeds =>
    { w with db := Voice.receive callback eventId attemptId now cancelSucceeds w.db }
  | .poll p => w.poll d p
  | .execute worker command voiceReady now => w.execute d worker command voiceReady now
  | .reply i reply =>
    match w.pending[i]? with
    | some ⟨s, .awaiting⟩ => w.answer i s reply
    | _ => w
  | .persist i now =>
    match w.pending[i]? with
    | some ⟨s, .persisting r⟩ =>
      { w with
        db := (persistPaymentSurface s.actionId r now w.db).2
        pending := w.pending.eraseIdx i }
    | _ => w
  | .reconcile i lookup resubmission now =>
    match w.pending[i]? with
    | some ⟨s, .reconciling⟩ => w.reconcile d i s lookup resubmission now
    | _ => w
  | .finishVoice i reference now =>
    match w.voiceCalls[i]? with
    | none => w
    | some actionId =>
      { w with
        db := finalizeVoiceAction actionId reference now w.db
        voiceCalls := w.voiceCalls.eraseIdx i }
  | .crash worker =>
    { w with
      pending := w.pending.filter fun p => p.submission.worker ≠ worker
      inFlight := w.inFlight.filter fun p => p.1 ≠ worker }
  | .land i linkId =>
    match w.wire[i]? with
    | none => w
    | some s => { w with wire := w.wire.eraseIdx i, links := w.land s linkId }
  | .lose i => { w with wire := w.wire.eraseIdx i }
  | .expire linkId => { w with links := w.deactivate [linkId] }
  | .cleanup caseId replies revoked now =>
    { w with
      db := (cleanupStandardPaymentLinks d.runtime replies caseId now w.db).2
      links := w.deactivate revoked }
  | .cancelOthers caseId now => { w with db := cancelOtherActions caseId now w.db }
  | .audit command now => { w with db := recordAuditEvent command now w.db }

def run (ops : List Op) : World := ops.foldl (fun w op => w.step d op) w

/-- The world after the first `k` steps of a run. -/
def after (ops : List Op) (k : ℕ) : World := w.run d (ops.take k)

lemma after_succ {ops : List Op} {k : ℕ} {op : Op} (h : ops[k]? = some op) :
    w.after d ops (k + 1) = (w.after d ops k).step d op := by
  unfold after run
  rw [List.take_add_one, h]
  simp

lemma after_succ_cases (ops : List Op) (k : ℕ) : w.after d ops (k + 1) = w.after d ops k ∨
    ∃ op, w.after d ops (k + 1) = (w.after d ops k).step d op := by
  cases h : ops[k]? with
  | some op => exact .inr ⟨op, after_succ d w h⟩
  | none =>
    refine .inl ?_
    unfold after
    rw [List.take_add_one, h, Option.toList_none, List.append_nil]

/-- What holds at the start and is kept by every step of a run holds after every step. -/
theorem after_induct {d : Deployment} {w : World} {ops : List Op} {P : ℕ → World → Prop}
    (h₀ : P 0 w) (hstep : ∀ k op, ops[k]? = some op → P k (w.after d ops k) →
      P (k + 1) ((w.after d ops k).step d op)) :
    ∀ k ≤ ops.length, P k (w.after d ops k) := by
  intro k
  induction k with
  | zero => exact fun _ => h₀
  | succ k ih =>
    intro hk
    obtain ⟨op, hop⟩ : ∃ op, ops[k]? = some op := ⟨ops[k], List.getElem?_eq_getElem hk⟩
    rw [after_succ d w hop]
    exact hstep k op hop (ih (Nat.le_of_succ_le hk))

end World

/-! ## Every step but two evolves the database -/

/-- The steps that write without looking. -/
def Op.blind : Op → Prop
  | .commitRecommendation _ => True
  | .commitApproval _ _ => True
  | _ => False

lemma evolves_commit {ε α : Type} {tx : Tx ε Database α} {db : Database}
    (h : Tx.Ensures (Evolves db) tx fun _ => Evolves db) : Evolves db (commit tx db) := by
  unfold commit
  split
  · next a db' he => exact h db (Evolves.refl db) a db' he
  · exact Evolves.refl db

/-- What is known of a transaction from the state it started in. -/
lemma commit_cases {ε α : Type} {tx : Tx ε Database α} {db : Database} {Q : Database → Prop}
    (h : Tx.Ensures (· = db) tx fun _ => Q) : commit tx db = db ∨ Q (commit tx db) := by
  unfold commit
  split
  · next a db' he => exact .inr (h db rfl a db' he)
  · exact .inl rfl

lemma evolves_same {db db' : Database} (h : SameTables db db') : Evolves db db' :=
  (EffectOf.other h).evolves

section
variable {d : Deployment} {w : World}

lemma executeSurface_db {worker : ℕ} {command : ExecuteActionInput} {now : Instant} :
    (w.executeSurface d worker command now).db =
      (executePaymentSurface d.runtime command (w.inFlightOf worker) now w.db).2 := by
  unfold World.executeSurface
  dsimp only
  split <;> rfl

lemma execute_evolves {worker : ℕ} {command : ExecuteActionInput} {ready : Bool} {now : Instant} :
    Evolves w.db (w.execute d worker command ready now).db := by
  unfold World.execute
  split_ifs
  · have h : Evolves w.db (claimVoiceAction command ready w.db).2 := claimVoiceAction_evolves
    unfold World.executeVoice
    split
    · next heq => rw [heq] at h; exact h
    · next heq => rw [heq] at h; exact h
  · rw [executeSurface_db]
    exact executePaymentSurface_evolves
  · exact Evolves.refl _

lemma reconcile_db {i : ℕ} {s : Submission} {lookup : LinkLookup}
    {resubmission : Option PaymentSurfaceResult} {now : Instant} :
    (w.reconcile d i s lookup resubmission now).db =
      (reconcileStandardPaymentLink d.runtime s.actionId lookup resubmission now w.db).2 := by
  unfold World.reconcile
  dsimp only
  split_ifs <;> rfl

lemma answer_db {i : ℕ} {s : Submission} {reply : Reply} : (w.answer i s reply).db = w.db := by
  unfold World.answer
  split
  · rfl
  · split_ifs <;> rfl
  · rfl

lemma poll_evolves {p : A2A.Presentation} : Evolves w.db (w.poll d p).db := by
  unfold World.poll
  split
  · exact Evolves.refl _
  · next c _ =>
    split
    · next rows hrows =>
      unfold A2A.consume at hrows
      split at hrows
      · next rows' hinsert =>
        obtain ⟨-, rfl⟩ := Prod.mk.inj hrows
        split_ifs at hinsert
        exact (EffectOf.consumed _ hinsert).evolves
      · obtain ⟨-, rfl⟩ := Prod.mk.inj hrows
        exact Evolves.refl _
    · exact Evolves.refl _

/-- A step that looks evolves the database. -/
theorem step_evolves (hk : Keys w.db) {op : Op} (hop : ¬ op.blind) :
    Evolves w.db (w.step d op).db := by
  cases op with
  | deliver entry message => exact evolves_same ⟨rfl, rfl, rfl, rfl, rfl, rfl, rfl, rfl, rfl, rfl⟩
  | process call => exact Webhook.processNext_evolves w.db
  | recommend service request =>
    simp only [World.step, World.recommend]
    split <;> exact Evolves.refl _
  | commitRecommendation i => exact absurd trivial hop
  | loadApproval m c a =>
    simp only [World.step, World.loadApproval]
    split <;> exact Evolves.refl _
  | commitApproval i t => exact absurd trivial hop
  | reject m c a held t => exact evolves_commit rejectAction_evolves
  | stop m c t => exact evolves_commit (stopCase_evolves trivial)
  | escalate m c reason a p t t' => exact evolves_commit (escalateCase_evolves trivial)
  | recordDisposition m c disposition t => exact evolves_commit (recordSafetyDisposition_evolves trivial)
  | reserveVoice attempt =>
    simp only [World.step]
    cases h : w.db.insertVoiceAttempt attempt with
    | none => exact Evolves.refl _
    | some db' =>
      obtain ⟨_, -, rfl⟩ := Option.map_eq_some_iff.mp h
      exact evolves_same ⟨rfl, rfl, rfl, rfl, rfl, rfl, rfl, rfl, rfl, rfl⟩
  | callback callback eventId attemptId now cancelSucceeds => exact receive_evolves
  | poll p => exact poll_evolves
  | execute worker command ready now => exact execute_evolves
  | reply i reply =>
    simp only [World.step]
    split
    · rw [answer_db]
      exact Evolves.refl _
    · exact Evolves.refl _
  | persist i now =>
    simp only [World.step]
    split
    · exact persistPaymentSurface_evolves
    · exact Evolves.refl _
  | reconcile i lookup resubmission now =>
    simp only [World.step]
    split
    · rw [reconcile_db]
      exact reconcileStandardPaymentLink_evolves
    · exact Evolves.refl _
  | finishVoice i reference now =>
    simp only [World.step]
    split
    · exact Evolves.refl _
    · exact finalizeVoiceAction_evolves
  | crash worker => exact Evolves.refl _
  | land i linkId =>
    simp only [World.step]
    split <;> exact Evolves.refl _
  | lose i => exact Evolves.refl _
  | expire linkId => exact Evolves.refl _
  | cleanup caseId replies revoked now => exact cleanupStandardPaymentLinks_evolves hk.actions
  | cancelOthers caseId now => exact cancelOtherActions_evolves
  | audit command now => exact recordAuditEvent_evolves

end

/-! ## A merchant with one open case -/

/-- The recovery window ends an hour after the epoch. -/
def sampleDeadline : Instant := 3600000000

def sampleDeployment : Deployment where
  platform := Webhook.samplePlatform
  runtime :=
    { provider := .razorpay
      pkgs := A2A.samplePackages
      parseInstant := fun s => if s = "1970-01-01T01:00:00Z" then some sampleDeadline else none }
  verifier := A2A.sampleVerifier

def sampleCase (id : String) : RecoveryCase where
  id := id
  merchantId := "merchant_1"
  customerId := "customer_1"
  subscriptionId := "subscription_1"
  failedInvoiceId := some "inv_1"
  billingCycleKey := some "cycle_1"
  failedPaymentId := none
  caseOutcome := .open
  paymentState := .failed
  subscriptionState := .halted
  contactDisposition := .notContacted
  revenueAttribution := .none
  diagnosis := .unknown
  amountAtRiskPaise := 49900
  arrearsCollectedPaise := 0
  caseRecovered := false
  subscriptionReactivated := false
  openedAt := 0
  recoveryDeadline := sampleDeadline
  recoveredAt := none
  version := 1

/-- The merchant asks for approval from `above` on. -/
def sampleDatabase (above : Option ℤ) : Database where
  merchants := [⟨"merchant_1", "Asia/Kolkata"⟩]
  settings := [⟨"merchant_1", none, none, some 2, above, [], false⟩]
  customers := [⟨"customer_1", "merchant_1", some "tok_1", some 0, none, false, 0⟩]
  subscriptions := [⟨"subscription_1", "merchant_1", "customer_1", "sub_1", "INR", .halted, none⟩]
  invoices := [⟨"inv_1", "merchant_1", "subscription_1", "inv_1", "cycle_1", 49900, 0, "INR",
    "issued", none⟩]
  cases := [sampleCase "case_1"]

def sampleWorld (above : Option ℤ) : World := { db := sampleDatabase above }

/-- The operator recommends a surface for the case. -/
def sampleRecommend (surface : PaymentSurfaceType) : Op :=
  .recommend
    { zoneInfo := Webhook.samplePlatform.zoneInfo
      globalKillSwitch := false
      capabilities := ⟨true, false⟩
      scorer := fun _ => .ok ⟨0, 0, 0, Decision.zeroProbability_mem, Decision.zeroRecovered_nonneg⟩ }
    { merchantId := "merchant_1"
      caseId := "case_1"
      actionType := some .openCustomerPaymentSurface
      paymentSurfaceType := some surface
      evaluatedAt := 1000000
      actionId := "action_1"
      policyId := "policy_1"
      utcNow := 1000000 }

/-- The command to open a surface for the case. -/
def sampleCommand (surface : PaymentSurfaceType) : ExecuteActionInput where
  caseId := "case_1"
  merchantId := "merchant_1"
  customerId := "customer_1"
  subscriptionId := "subscription_1"
  failedInvoiceId := some "inv_1"
  amountPaise := 49900
  currency := "INR"
  action := "OPEN_CUSTOMER_PAYMENT_SURFACE"
  paymentSurfaceType := some surface.value
  recoveryDeadline := "1970-01-01T01:00:00Z"
  idempotencyKey := "case:case_1:execute"
  providerSubscriptionId := some "sub_1"
  providerInvoiceId := some "inv_1"

end RecoveryOS.Core
