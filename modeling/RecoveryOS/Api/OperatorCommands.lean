import RecoveryOS.Core.Interlude
import RecoveryOS.Worker.Workflow

/-!
# The delivery of operator commands

The routes of `api/router.py` by which an operator decides about a case, with the commander of
`workflows/commands.py`. A command is a transaction, and then a signal to the workflow of the case:
the transaction is committed before the signal is sent, and stays where the signal is lost.

The workflow service is what it answers to one delivery (`Line`). A call that fails may have reached
the workflow all the same.
-/

namespace RecoveryOS.Api

open Store Cases Worker

/-! ## The commander -/

inductive RpcStatusCode where
  | notFound
  | failedPrecondition
  | other
  deriving DecidableEq

/-- What a call of the Temporal client raises. -/
inductive ClientError where
  | rpc (status : RpcStatusCode)
  | other
  deriving DecidableEq

/-- The workflow service in one delivery: whether it describes the workflow as running, and what
comes of a signal. -/
structure Line where
  describe : Except ClientError Bool
  signal : Except ClientError Unit
  reached : Bool
  reached_of_ok : signal = .ok () → reached = true

structure WorkflowCommandDelivery where
  workflowId : String
  signalId : String
  status : String

/-- `WorkflowCommandUnavailableError`. -/
structure WorkflowCommandUnavailable where
  caseId : String
  workflowId : String
  signalId : String
  reason : String

/-- The signals that every workflow has received. -/
abbrev Mailboxes : Type := String → List QueuedSignal

def ClientError.reason : ClientError → String
  | .rpc .notFound => "WORKFLOW_NOT_FOUND"
  | .rpc .failedPrecondition => "WORKFLOW_CLOSED_DURING_DELIVERY"
  | .rpc .other => "TEMPORAL_RPC_FAILED"
  | .other => "DELIVERY_FAILED"

def post (workflowId : String) (sig : QueuedSignal) (boxes : Mailboxes) : Mailboxes :=
  Function.update boxes workflowId (boxes workflowId ++ [sig])

/-- `_deliver`. -/
def deliver (line : Line) (caseId : String) (sig : QueuedSignal) (boxes : Mailboxes) :
    Except WorkflowCommandUnavailable WorkflowCommandDelivery × Mailboxes :=
  let workflowId := recoveryWorkflowId caseId
  let unavailable := fun e : ClientError =>
    (⟨caseId, workflowId, sig.signalId, e.reason⟩ : WorkflowCommandUnavailable)
  match line.describe with
  | .error e => (.error (unavailable e), boxes)
  | .ok false => (.ok ⟨workflowId, sig.signalId, "ALREADY_TERMINAL"⟩, boxes)
  | .ok true =>
    let boxes := if line.reached then post workflowId sig boxes else boxes
    match line.signal with
    | .error e => (.error (unavailable e), boxes)
    | .ok () => (.ok ⟨workflowId, sig.signalId, "DELIVERED"⟩, boxes)

/-! ## The routes -/

inductive Command where
  | approve (actionId : String)
  | reject (actionId reason : String)
  | stop (reason : String)
  | escalate (reason : String)

/-- The signal of a command: `approval`, `stop` and `escalate` of the commander. -/
def Command.signal (caseId : String) : Command → QueuedSignal
  | .approve actionId => .approval
    { signalId := "operator:approve:" ++ actionId
      approved := true
      reviewerId := "merchant-operator"
      reason := none }
  | .reject actionId reason => .approval
    { signalId := "operator:reject:" ++ actionId
      approved := false
      reviewerId := "merchant-operator"
      reason := some reason }
  | .stop reason => .cancellation
    { signalId := "operator:stop:" ++ caseId
      reason
      requestedBy := "merchant-operator" }
  | .escalate reason => .operatorEscalation
    { signalId := "operator:escalate:" ++ caseId
      reason
      requestedBy := "merchant-operator" }

/-- `OperatorCommandRequest`, whose validator asks for an action exactly where it is named here. -/
inductive OperatorCommandRequest where
  | approve (actionId : String)
  | reject (actionId : String)
  | stop
  | escalateToHuman

def OperatorCommandRequest.command : OperatorCommandRequest → Command
  | .approve actionId => .approve actionId
  | .reject actionId => .reject actionId "Rejected by the merchant operator."
  | .stop => .stop "Stopped by the merchant operator."
  | .escalateToHuman => .escalate "Escalated by the merchant operator."

/-- Where a command comes from: the façade for all commands, the safety controls, or the endpoint of
the command itself, with the operator's own reason. -/
inductive Route where
  | facade (request : OperatorCommandRequest)
  | safetyControls
  | direct (command : Command)

def Route.command : Route → Command
  | .facade request => request.command
  | .safetyControls => .escalate "Escalated by the merchant operator from the safety controls."
  | .direct command => command

/-- The times of a request, and the ids that are drawn for it. -/
structure Stamp where
  occurredAt : Instant
  escalationId : String
  policyId : String
  utcNow : Instant

structure Attempt where
  merchantId : String
  caseId : String
  route : Route
  stamp : Stamp

/-- `get_action_for_command`. -/
def getActionForCommand (merchantId caseId actionId : String) : Cases.Work Unit := do
  let _ ← getCaseAggregate merchantId caseId
  let found ← Tx.query (getAction caseId actionId)
  let _ ← Tx.expect found actionNotFound
  pure ()

/-- The displayed action is the latest of its case. -/
def requireCurrent (merchantId caseId actionId : String) : Cases.Work Unit := do
  let aggregate ← getCaseAggregate merchantId caseId
  Tx.require (aggregate.latestAction.any fun a => a.id = actionId)
    (.conflict "The displayed recovery action is missing or no longer current.")

/-- `approve_action`. -/
def approveAction (merchantId caseId actionId : String) (completedAt : Instant) :
    Cases.Work RecoveryActionRecord := do
  let pending ← loadApproval merchantId caseId actionId
  commitApproval pending completedAt

section
variable (merchantId caseId : String)

/-- What a route looks at before the service is called. -/
def scope : Route → Cases.Work Unit
  | .facade (.approve actionId) => requireCurrent merchantId caseId actionId
  | .facade (.reject actionId) => requireCurrent merchantId caseId actionId
  | .facade .stop => pure ()
  | .facade .escalateToHuman => pure ()
  | .safetyControls => pure ()
  | .direct (.approve actionId) => getActionForCommand merchantId caseId actionId
  | .direct (.reject actionId _) => getActionForCommand merchantId caseId actionId
  | .direct (.stop _) => do
    let _ ← getCaseAggregate merchantId caseId
    pure ()
  | .direct (.escalate _) => do
    let _ ← getCaseAggregate merchantId caseId
    pure ()

/-- The transaction of a command. An attempt is one transaction here, so the action that the façade
holds is the row itself. -/
def transition (stamp : Stamp) : Command → Cases.Work Unit
  | .approve actionId => do
    let _ ← approveAction merchantId caseId actionId stamp.occurredAt
    pure ()
  | .reject actionId _ => do
    let _ ← rejectAction merchantId caseId actionId none stamp.occurredAt
    pure ()
  | .stop _ => do
    let _ ← stopCase merchantId caseId stamp.occurredAt
    pure ()
  | .escalate reason => do
    let _ ← escalateCase merchantId caseId reason stamp.escalationId stamp.policyId stamp.occurredAt
      stamp.utcNow
    pure ()

end

def persist (a : Attempt) : Cases.Work Unit := do
  scope a.merchantId a.caseId a.route
  transition a.merchantId a.caseId a.stamp a.route.command

inductive CommandError where
  | service (e : CaseError)
  | unavailable (e : WorkflowCommandUnavailable)

structure System where
  db : Database
  boxes : Mailboxes

/-- `execute_operator_command` and the other endpoints. -/
def execute (line : Line) (a : Attempt) (s : System) :
    Except CommandError WorkflowCommandDelivery × System :=
  match persist a s.db with
  | .error e => (.error (.service e), s)
  | .ok ((), db) =>
    let sent := deliver line a.caseId (a.route.command.signal a.caseId) s.boxes
    (sent.1.mapError .unavailable, { db, boxes := sent.2 })

/-! ## What the commands read -/

section
variable {m c actionId : String} {db db' : Database}

/-- A case that can be displayed: its customer and its subscription are there. -/
structure Readable (m c : String) (db : Database) (k : RecoveryCase) : Prop where
  found : getCase m c db = some k
  customer : (db.customers.find? fun x => x.id = k.customerId).isSome = true
  subscription : (db.subscriptions.find? fun x => x.id = k.subscriptionId).isSome = true

lemma getCaseAggregate_spec : Tx.Ensures (· = db) (getCaseAggregate m c) fun aggregate t =>
    t = db ∧ (∃ k, Readable m c db k) ∧ aggregate.latestAction = latestActionOf c db := by
  refine .query_bind fun _ => .expect_bind fun k hk => .query_bind fun _ => .expect_bind fun u hu =>
    .query_bind fun _ => .expect_bind fun s hs => .query_bind fun _ => .query_bind fun _ => .pure ?_
  rintro t ⟨⟨⟨⟨⟨rfl, hcase⟩, hcustomer⟩, hsubscription⟩, -⟩, hlatest⟩
  refine ⟨rfl, ⟨k, hcase.trans hk, ?_, ?_⟩, hlatest.symm⟩
  · rw [hcustomer, hu]
    rfl
  · rw [hsubscription, hs]
    rfl

lemma Readable.run {k : RecoveryCase} (h : Readable m c db k) : ∃ aggregate,
    getCaseAggregate m c db = .ok (aggregate, db) ∧
      aggregate.latestAction = latestActionOf c db := by
  obtain ⟨u, hu⟩ := Option.isSome_iff_exists.mp h.customer
  obtain ⟨s, hs⟩ := Option.isSome_iff_exists.mp h.subscription
  refine ⟨⟨k, u, s, (truthy k.failedInvoiceId).bind fun id => db.invoices.find? fun i => i.id = id,
    latestActionOf c db⟩, ?_, rfl⟩
  unfold getCaseAggregate
  rw [Tx.run_query, Tx.run_expect h.found, Tx.run_query, Tx.run_expect hu, Tx.run_query,
    Tx.run_expect hs]
  rfl

lemma require_ok {b : Bool} {e : CaseError} (h : b = true) : Tx.require b e db = .ok ((), db) := by
  rw [h]
  rfl

lemma Readable.requireCurrent {k : RecoveryCase} (h : Readable m c db k)
    (hlatest : (latestActionOf c db).map (·.id) = some actionId) :
    requireCurrent m c actionId db = .ok ((), db) := by
  obtain ⟨aggregate, hrun, heq⟩ := h.run
  unfold RecoveryOS.Api.requireCurrent
  rw [Tx.run_bind hrun, heq]
  cases hfirst : latestActionOf c db with
  | none =>
    rw [hfirst] at hlatest
    cases hlatest
  | some a =>
    rw [hfirst] at hlatest
    have hid : decide (a.id = actionId) = true := decide_eq_true (Option.some.inj hlatest)
    exact require_ok hid

lemma Readable.getActionForCommand {k : RecoveryCase} (h : Readable m c db k)
    (hfound : (getAction c actionId db).isSome = true) :
    getActionForCommand m c actionId db = .ok ((), db) := by
  obtain ⟨aggregate, hrun, -⟩ := h.run
  obtain ⟨a, ha⟩ := Option.isSome_iff_exists.mp hfound
  unfold RecoveryOS.Api.getActionForCommand
  rw [Tx.run_bind hrun, Tx.run_query, Tx.run_expect ha]
  rfl

lemma require_spec {b : Bool} {e : CaseError} :
    Tx.Ensures (· = db) (Tx.require b e) fun _ t => t = db ∧ b = true := by
  unfold Tx.require
  split_ifs with hb
  · exact .pure fun _ ht => ⟨ht, hb⟩
  · exact .throw

lemma requireCurrent_spec : Tx.Ensures (· = db) (requireCurrent m c actionId) fun _ t =>
    t = db ∧ (∃ k, Readable m c db k) ∧ (latestActionOf c db).map (·.id) = some actionId := by
  rintro _ rfl _ t ht
  obtain ⟨aggregate, s, hrun, hrest⟩ := Tx.bind_eq_ok ht
  obtain ⟨rfl, hreadable, hlatest⟩ := getCaseAggregate_spec _ rfl _ _ hrun
  obtain ⟨rfl, hany⟩ := require_spec _ rfl _ _ hrest
  refine ⟨rfl, hreadable, ?_⟩
  rw [← hlatest]
  cases hfirst : aggregate.latestAction with
  | none =>
    rw [hfirst] at hany
    cases hany
  | some a =>
    rw [hfirst] at hany
    exact congrArg some (of_decide_eq_true hany)

lemma getActionForCommand_spec : Tx.Ensures (· = db) (getActionForCommand m c actionId) fun _ t =>
    t = db ∧ (∃ k, Readable m c db k) ∧ (getAction c actionId db).isSome = true := by
  rintro _ rfl _ t ht
  obtain ⟨aggregate, s, hrun, hrest⟩ := Tx.bind_eq_ok ht
  obtain ⟨rfl, hreadable, -⟩ := getCaseAggregate_spec _ rfl _ _ hrun
  have hfound : Tx.Ensures (· = s) (do
      let found ← Tx.query (getAction c actionId)
      let _ ← Tx.expect found actionNotFound
      pure ()) fun _ t => t = s ∧ (getAction c actionId s).isSome = true := by
    refine .query_bind fun found => .expect_bind fun a ha => .pure ?_
    rintro t ⟨rfl, hf⟩
    rw [hf, ha]
    exact ⟨rfl, rfl⟩
  obtain ⟨rfl, hsome⟩ := hfound _ rfl _ _ hrest
  exact ⟨rfl, hreadable, hsome⟩

/-! ## What the commands need, and leave -/

/-- An event is no row of the other tables. -/
lemma addEvent_keeps {P : Database → Prop}
    (hP : ∀ db events, P db → P { db with events }) (e : RecoveryEventRecord) :
    Tx.Keeps P (addEvent e) := by
  refine .modify fun db h => ?_
  cases he : db.insertEvent e with
  | none => exact h
  | some db' =>
    obtain ⟨events, -, rfl⟩ := Option.map_eq_some_iff.mp he
    exact hP db events h

/-- The action is rejected, or can be. -/
def Rejectable (c actionId : String) (db : Database) : Prop :=
  ∃ a, Cases.getAction c actionId db = some a ∧
    (a.status = .cancelled ∨ a.status ∈ [ActionStatus.proposed, .awaitingApproval, .scheduled])

/-- No row of the action asks for an approval. -/
def Approved (actionId : String) (db : Database) : Prop :=
  (∃ a ∈ db.actions, a.id = actionId) ∧
    ∀ a ∈ db.actions, a.id = actionId → a.status ≠ .awaitingApproval

/-- The case is not open any more. -/
def Closed (m c : String) (db : Database) : Prop :=
  ∃ k, getCase m c db = some k ∧ k.caseOutcome ≠ .open

def HasOutcome (m c : String) (o : CaseOutcome) (db : Database) : Prop :=
  ∃ k, getCase m c db = some k ∧ k.caseOutcome = o

lemma Closed.closeCase {k k' : RecoveryCase} {t : Instant} (hk : getCase m c db = some k)
    (hid : k'.id = k.id) (hmerchant : k'.merchantId = k.merchantId) (ho : k'.caseOutcome ≠ .open) :
    Closed m c (db.closeCase k' t) := by
  have hfound : decide (k'.id = c ∧ k'.merchantId = m) = true := by
    have hsome := List.find?_some (p := fun x : RecoveryCase => x.id = c ∧ x.merchantId = m) hk
    rw [hid, hmerchant]
    exact hsome
  exact ⟨k', Table.find?_put hk hid hfound, ho⟩

lemma rejectAction_spec {t : Instant} :
    Tx.Ensures (· = db) (rejectAction m c actionId none t) fun _ _ => Rejectable c actionId db := by
  refine .bind getCaseAggregate_spec fun _ => .query_bind fun found => .expect_bind fun a ha => ?_
  dsimp only [Option.getD_none]
  split_ifs with hcancelled
  · refine .pure ?_
    rintro s ⟨⟨rfl, -⟩, hf⟩
    exact ⟨a, hf.trans ha, .inl hcancelled⟩
  · refine .require_bind fun hstatus => ?_
    rintro s ⟨⟨rfl, -⟩, hf⟩ _ _ -
    exact ⟨a, hf.trans ha, .inr (of_decide_eq_true hstatus)⟩

lemma Rejectable.run {t : Instant} {k : RecoveryCase} (h : Rejectable c actionId db)
    (hk : Readable m c db k) : ∃ r, rejectAction m c actionId none t db = .ok r := by
  obtain ⟨a, ha, hstatus⟩ := h
  obtain ⟨aggregate, hrun, -⟩ := hk.run
  unfold rejectAction
  rw [Tx.run_bind hrun, Tx.run_query, Tx.run_expect ha]
  dsimp only [Option.getD_none]
  split_ifs with hcancelled
  · exact ⟨_, rfl⟩
  · rw [Tx.run_require (decide_eq_true (hstatus.resolve_left hcancelled))]
    exact ⟨_, rfl⟩

/-- A case that is stopped is one that was stopped already, or one that was open. -/
lemma stopCase_spec {t : Instant} :
    Tx.Ensures (· = db) (stopCase m c t) fun _ db' => Closed m c db' ∧
      (HasOutcome m c .stopped db ∨ HasOutcome m c .open db) := by
  refine .query_bind fun found => .expect_bind fun k hk => ?_
  split_ifs with hstopped
  · refine .pure ?_
    rintro s ⟨rfl, hf⟩
    exact ⟨⟨k, hf.trans hk, by rw [hstopped]; decide⟩, .inl ⟨k, hf.trans hk, hstopped⟩⟩
  · refine .require_bind fun hopen => .bind (Q := fun _ db' => Closed m c db' ∧
      (HasOutcome m c .stopped db ∨ HasOutcome m c .open db)) (.modify ?_) fun _ =>
      .bind (addEvent_keeps (fun _ _ h => h) _) fun _ => .pure fun _ h => h
    rintro s ⟨rfl, hf⟩
    refine ⟨?_, .inr ⟨k, hf.trans hk, of_decide_eq_true hopen⟩⟩
    exact .closeCase (hf.trans hk) rfl rfl (by simp)

lemma escalateCase_spec {reason escalationId policyId : String} {t utcNow : Instant} :
    Tx.Ensures (· = db) (escalateCase m c reason escalationId policyId t utcNow) fun _ db' =>
      Closed m c db' ∧ (HasOutcome m c .escalated db ∨ HasOutcome m c .open db) := by
  refine .query_bind fun found => .expect_bind fun k hk => ?_
  split_ifs with hescalated
  · refine .pure ?_
    rintro s ⟨rfl, hf⟩
    exact ⟨⟨k, hf.trans hk, by rw [hescalated]; decide⟩, .inl ⟨k, hf.trans hk, hescalated⟩⟩
  · refine .require_bind fun hopen => .bind (Q := fun _ s => getCase m c s = some k ∧
      HasOutcome m c .open db) (.attempt ?_) fun _ => .bind (Q := fun _ db' => Closed m c db' ∧
      (HasOutcome m c .escalated db ∨ HasOutcome m c .open db)) (.modify ?_) fun _ =>
      .bind (addEvent_keeps (fun _ _ h => h) _) fun _ => .pure fun _ h => h
    · rintro s ⟨rfl, hf⟩ s' hs'
      obtain ⟨s₁, ha, hp⟩ := Option.bind_eq_some_iff.mp hs'
      obtain ⟨rows, -, rfl⟩ := Option.map_eq_some_iff.mp ha
      obtain ⟨rows', -, rfl⟩ := Option.map_eq_some_iff.mp hp
      exact ⟨hf.trans hk, k, hf.trans hk, of_decide_eq_true hopen⟩
    · rintro s ⟨hf, hwas⟩
      exact ⟨.closeCase hf rfl rfl (by simp), .inr hwas⟩

/-- An approval leaves its action scheduled, in every row. -/
lemma approveAction_spec {t : Instant} : Tx.Ensures (· = db) (approveAction m c actionId t)
    fun _ db' => Approved actionId db' := by
  rintro db₁ rfl _ db' hdb'
  obtain ⟨pending, s, hload, hcommit⟩ := Tx.bind_eq_ok hdb'
  have hpending : Tx.Ensures (· = db₁) (loadApproval m c actionId) fun p t => t = db₁ ∧
      p.caseId = c ∧ p.actionId = actionId :=
    .bind getCaseAggregate_spec fun _ => .pure fun _ h => ⟨h.1, rfl, rfl⟩
  obtain ⟨rfl, rfl, rfl⟩ := hpending _ rfl _ _ hload
  obtain ⟨row, hrow, -, hwritten⟩ := Core.commitApproval_spec pending t s _ rfl _ _ hcommit
  obtain ⟨hactions, -⟩ := Core.commitApproval_tables hwritten
  have hid : row.id = pending.actionId ∧ row.caseId = pending.caseId := by
    simpa using List.find?_some hrow
  have hmem : row ∈ s.actions := List.mem_of_find?_eq_some hrow
  unfold Approved
  rw [hactions]
  refine ⟨⟨_, Table.mem_put_self hmem rfl, hid.1⟩, fun a ha hid' => ?_⟩
  rcases Table.mem_put ha with rfl | ⟨-, hne⟩
  · show ActionStatus.scheduled ≠ .awaitingApproval
    decide
  · exact absurd (hid'.trans hid.1.symm) hne

/-- An action that asks for none is not approved again. -/
lemma Approved.refused {t : Instant} (h : Approved actionId db) (r : RecoveryActionRecord × Database) :
    approveAction m c actionId t db ≠ .ok r := by
  intro hr
  obtain ⟨pending, s, hload, hcommit⟩ := Tx.bind_eq_ok hr
  have hpending : Tx.Ensures (· = db) (loadApproval m c actionId) fun p t => t = db ∧
      p.caseId = c ∧ p.actionId = actionId ∧
        p.held = (latestActionOf c db).filter fun a => a.id = actionId :=
    .bind getCaseAggregate_spec fun _ => .pure fun _ h =>
      ⟨h.1, rfl, rfl, congrArg (Option.filter fun a => decide (a.id = actionId)) h.2.2⟩
  obtain ⟨rfl, rfl, rfl, hheld⟩ := hpending _ rfl _ _ hload
  obtain ⟨row, hrow, hstatus, -⟩ := Core.commitApproval_spec pending t s _ rfl _ _ hcommit
  have hid : row.id = pending.actionId ∧ row.caseId = pending.caseId := by
    simpa using List.find?_some hrow
  refine absurd hstatus ?_
  cases hlatest : pending.held with
  | none => exact h.2 row (List.mem_of_find?_eq_some hrow) hid.1
  | some a =>
    rw [hheld, Option.filter_eq_some_iff] at hlatest
    have hmem := Table.mem_of_first hlatest.1
    rw [List.mem_filter] at hmem
    exact h.2 a hmem.1 (of_decide_eq_true hlatest.2)

lemma HasOutcome.stopCase {t : Instant} (h : HasOutcome m c .stopped db) :
    ∃ r, stopCase m c t db = .ok r := by
  obtain ⟨k, hk, ho⟩ := h
  unfold Cases.stopCase
  rw [Tx.run_query, Tx.run_expect hk, if_pos ho]
  exact ⟨_, rfl⟩

lemma HasOutcome.escalateCase {reason escalationId policyId : String} {t utcNow : Instant}
    (h : HasOutcome m c .escalated db) :
    ∃ r, escalateCase m c reason escalationId policyId t utcNow db = .ok r := by
  obtain ⟨k, hk, ho⟩ := h
  unfold Cases.escalateCase
  rw [Tx.run_query, Tx.run_expect hk, if_pos ho]
  exact ⟨_, rfl⟩

end

/-! ## What is left of a command -/

section
variable {m c actionId : String} {db db' db₂ : Database}

lemma later_getCase (h : Core.Later db db') {k : RecoveryCase} (hk : getCase m c db = some k) :
    ∃ k', getCase m c db' = some k' ∧ Core.LaterCase k k' := by
  obtain ⟨k', hk', hlater⟩ := h.cases k (List.mem_of_find?_eq_some hk)
  have hsome : k.id = c ∧ k.merchantId = m := by simpa using List.find?_some hk
  refine ⟨k', ?_, hlater⟩
  cases hf : getCase m c db' with
  | none =>
    have := List.find?_eq_none.mp hf k' hk'
    simp [hlater.id, hlater.merchantId, hsome] at this
  | some x =>
    have hx : x.id = c ∧ x.merchantId = m := by simpa using List.find?_some hf
    rw [h.keys.cases.eq (List.mem_of_find?_eq_some hf) hk'
      (hx.1.trans (hlater.id.trans hsome.1).symm)]

/-- A row that was found by its id is still found. -/
lemma isSome_find?_of_ids {ρ : Type} (key : ρ → String) {rows rows' : List ρ} {id : String}
    (hids : rows'.map key = rows.map key)
    (h : (rows.find? fun x => key x = id).isSome = true) :
    (rows'.find? fun x => key x = id).isSome = true := by
  rw [List.find?_isSome] at h ⊢
  obtain ⟨x, hx, hid⟩ := h
  have hmem : key x ∈ rows'.map key := by
    rw [hids]
    exact List.mem_map_of_mem hx
  obtain ⟨y, hy, he⟩ := List.mem_map.mp hmem
  exact ⟨y, hy, by rw [he]; exact hid⟩

lemma Readable.later (h : Core.Later db db') (hk : ∃ k, Readable m c db k) :
    ∃ k, Readable m c db' k := by
  obtain ⟨k, hfound, hcustomer, hsubscription⟩ := hk
  obtain ⟨k', hk', hlater⟩ := later_getCase h hfound
  refine ⟨k', hk', ?_, ?_⟩
  · rw [hlater.customerId]
    exact isSome_find?_of_ids Customer.id h.customers hcustomer
  · rw [hlater.subscriptionId]
    exact isSome_find?_of_ids Subscription.id h.subscriptions hsubscription

lemma Closed.later (h : Core.Later db db') (hc : Closed m c db) : Closed m c db' := by
  obtain ⟨k, hk, ho⟩ := hc
  obtain ⟨k', hk', hlater⟩ := later_getCase h hk
  exact ⟨k', hk', fun hopen => ho (hlater.opened hopen)⟩

lemma Approved.later (h : Core.Later db db') (ha : Approved actionId db) : Approved actionId db' := by
  obtain ⟨⟨a, hmem, hid⟩, hnone⟩ := ha
  refine ⟨?_, fun a' ha' hid' hs => ?_⟩
  · obtain ⟨a', ha', hid'⟩ := h.actionIds a hmem
    exact ⟨a', ha', hid'.trans hid⟩
  · rcases h.awaiting a' ha' hs with ⟨b, hb, hbid, -, hbs⟩ | hnew
    · exact hnone b hb (hbid.trans hid') hbs
    · exact hnew a hmem (hid.trans hid'.symm)

/-- What a command leaves, whatever is committed after it. -/
def Settled (m c : String) (db : Database) : Command → Prop
  | .approve actionId => Approved actionId db
  | .reject _ _ => True
  | .stop _ => Closed m c db
  | .escalate _ => Closed m c db

lemma Settled.later {command : Command} (h : Core.Later db db') (hs : Settled m c db command) :
    Settled m c db' command := by
  cases command with
  | approve actionId => exact Approved.later h hs
  | reject actionId reason => trivial
  | stop reason => exact Closed.later h hs
  | escalate reason => exact Closed.later h hs

lemma transition_settled (stamp : Stamp) (command : Command) :
    Tx.Ensures (· = db) (transition m c stamp command) fun _ db' => Settled m c db' command := by
  cases command with
  | approve actionId => exact .bind approveAction_spec fun _ => .pure fun _ h => h
  | reject actionId reason => exact fun _ _ _ _ _ => trivial
  | stop reason => exact .bind stopCase_spec fun _ => .pure fun _ h => h.1
  | escalate reason => exact .bind escalateCase_spec fun _ => .pure fun _ h => h.1

lemma loadApproval_same : Tx.Ensures (· = db) (loadApproval m c actionId) fun _ t => t = db :=
  .bind getCaseAggregate_spec fun _ => .pure fun _ h => h.1

/-- A command is itself a transaction like any other. -/
lemma transition_later (hk : Core.Keys db) (stamp : Stamp) (command : Command) :
    Tx.Ensures (· = db) (transition m c stamp command) fun _ => Core.Later db := by
  have hevolves : ∀ {α : Type} {tx : Cases.Work α},
      Tx.Ensures (Core.Evolves db) tx (fun _ => Core.Evolves db) →
        Tx.Ensures (· = db) tx fun _ => Core.Later db := fun h =>
    (Core.ensures_of_evolves h).weaken fun _ _ he => Core.EvolvesOf.later he hk
  cases command with
  | approve actionId =>
    refine .bind (Q := fun _ => Core.Later db) (.bind loadApproval_same fun pending => ?_)
      fun _ => .pure fun _ h => h
    exact Core.commitApproval_later hk pending _
  | reject actionId reason =>
    exact .bind (hevolves Core.rejectAction_evolves) fun _ => .pure fun _ h => h
  | stop reason => exact .bind (hevolves (Core.stopCase_evolves trivial)) fun _ => .pure fun _ h => h
  | escalate reason =>
    exact .bind (hevolves (Core.escalateCase_evolves trivial)) fun _ => .pure fun _ h => h

/-! ## Retries -/

/-- What the scope of a route displays: some show the case before the service is called. -/
def Route.displays : Route → Prop
  | .facade (.approve _) => True
  | .facade (.reject _) => True
  | .direct _ => True
  | _ => False

/-- The façade takes an approval or a rejection for the latest action only, the endpoint of the
command for any action of the case. -/
def Route.Current (c : String) (db : Database) : Route → Prop
  | .facade (.approve actionId) => (latestActionOf c db).map (·.id) = some actionId
  | .facade (.reject actionId) => (latestActionOf c db).map (·.id) = some actionId
  | .direct (.approve actionId) => (Cases.getAction c actionId db).isSome = true
  | .direct (.reject actionId _) => (Cases.getAction c actionId db).isSome = true
  | _ => True

/-- What a route finds, so that the service is called. -/
structure Scoped (m c : String) (db : Database) (route : Route) : Prop where
  readable : route.displays → ∃ k, Readable m c db k
  current : route.Current c db

lemma display_spec : Tx.Ensures (· = db) (do
    let _ ← getCaseAggregate m c
    pure ()) fun _ t => t = db ∧ ∃ k, Readable m c db k :=
  .bind getCaseAggregate_spec fun _ => .pure fun _ h => ⟨h.1, h.2.1⟩

lemma scope_spec (route : Route) :
    Tx.Ensures (· = db) (scope m c route) fun _ t => t = db ∧ Scoped m c db route := by
  have hcurrent : ∀ actionId, Tx.Ensures (· = db) (requireCurrent m c actionId) fun _ t => t = db ∧
      (∃ k, Readable m c db k) ∧ (latestActionOf c db).map (·.id) = some actionId := fun _ =>
    requireCurrent_spec
  cases route with
  | facade request =>
    cases request with
    | approve actionId => exact (hcurrent _).weaken fun _ _ h => ⟨h.1, fun _ => h.2.1, h.2.2⟩
    | reject actionId => exact (hcurrent _).weaken fun _ _ h => ⟨h.1, fun _ => h.2.1, h.2.2⟩
    | stop => exact .pure fun _ h => ⟨h, fun hd => hd.elim, trivial⟩
    | escalateToHuman => exact .pure fun _ h => ⟨h, fun hd => hd.elim, trivial⟩
  | safetyControls => exact .pure fun _ h => ⟨h, fun hd => hd.elim, trivial⟩
  | direct command =>
    cases command with
    | approve actionId =>
      exact getActionForCommand_spec.weaken fun _ _ h => ⟨h.1, fun _ => h.2.1, h.2.2⟩
    | reject actionId reason =>
      exact getActionForCommand_spec.weaken fun _ _ h => ⟨h.1, fun _ => h.2.1, h.2.2⟩
    | stop reason => exact display_spec.weaken fun _ _ h => ⟨h.1, fun _ => h.2, trivial⟩
    | escalate reason => exact display_spec.weaken fun _ _ h => ⟨h.1, fun _ => h.2, trivial⟩

lemma Readable.display {k : RecoveryCase} (h : Readable m c db k) :
    (do
      let _ ← getCaseAggregate m c
      pure () : Cases.Work Unit) db = .ok ((), db) := by
  obtain ⟨aggregate, hrun, -⟩ := h.run
  rw [Tx.run_bind hrun]
  rfl

lemma Scoped.run {route : Route} (h : Scoped m c db route) : scope m c route db = .ok ((), db) := by
  obtain ⟨hreadable, hcurrent⟩ := h
  cases route with
  | facade request =>
    cases request with
    | approve actionId =>
      obtain ⟨k, hk⟩ := hreadable trivial
      exact hk.requireCurrent hcurrent
    | reject actionId =>
      obtain ⟨k, hk⟩ := hreadable trivial
      exact hk.requireCurrent hcurrent
    | stop => rfl
    | escalateToHuman => rfl
  | safetyControls => rfl
  | direct command =>
    obtain ⟨k, hk⟩ := hreadable trivial
    cases command with
    | approve actionId => exact hk.getActionForCommand hcurrent
    | reject actionId reason => exact hk.getActionForCommand hcurrent
    | stop reason => exact hk.display
    | escalate reason => exact hk.display

/-- What the retry of a command needs to find: the action where it can be rejected, and in the façade
still the latest of its case; the case as it was closed. Nothing makes up for a lost approval. -/
def Repeatable (m c : String) (db : Database) : Route → Prop
  | .facade (.approve _) => False
  | .facade (.reject actionId) => Rejectable c actionId db ∧
    (latestActionOf c db).map (·.id) = some actionId
  | .facade .stop => HasOutcome m c .stopped db
  | .facade .escalateToHuman => HasOutcome m c .escalated db
  | .safetyControls => HasOutcome m c .escalated db
  | .direct (.approve _) => False
  | .direct (.reject actionId _) => Rejectable c actionId db
  | .direct (.stop _) => HasOutcome m c .stopped db
  | .direct (.escalate _) => HasOutcome m c .escalated db

/-- What a command that is settled needs to be committed again. -/
def Admits (m c : String) (db : Database) : Command → Prop
  | .approve _ => False
  | .reject actionId _ => Rejectable c actionId db
  | .stop _ => HasOutcome m c .stopped db
  | .escalate _ => HasOutcome m c .escalated db

lemma repeatable_iff {route : Route} :
    Repeatable m c db route ↔ Admits m c db route.command ∧ route.Current c db := by
  cases route with
  | facade request =>
    cases request with
    | approve actionId => exact ⟨fun h => h.elim, fun h => h.1.elim⟩
    | reject actionId => exact Iff.rfl
    | stop => exact ⟨fun h => ⟨h, trivial⟩, fun h => h.1⟩
    | escalateToHuman => exact ⟨fun h => ⟨h, trivial⟩, fun h => h.1⟩
  | safetyControls => exact ⟨fun h => ⟨h, trivial⟩, fun h => h.1⟩
  | direct command =>
    cases command with
    | approve actionId => exact ⟨fun h => h.elim, fun h => h.1.elim⟩
    | reject actionId reason =>
      refine ⟨fun h => ⟨h, ?_⟩, fun h => h.1⟩
      obtain ⟨a, ha, -⟩ := h
      show (Cases.getAction c actionId db).isSome = true
      rw [ha]
      rfl
    | stop reason => exact ⟨fun h => ⟨h, trivial⟩, fun h => h.1⟩
    | escalate reason => exact ⟨fun h => ⟨h, trivial⟩, fun h => h.1⟩

/-- A case that is not open has the outcome, if it has that or is open. -/
lemma Closed.hasOutcome {o : CaseOutcome} (h : Closed m c db)
    (ho : HasOutcome m c o db ∨ HasOutcome m c .open db) : HasOutcome m c o db := by
  rcases ho with ho | ⟨k, hk, hopen⟩
  · exact ho
  · obtain ⟨k', hk', hne⟩ := h
    obtain rfl : k = k' := Option.some.inj (hk.symm.trans hk')
    exact absurd hopen hne

lemma transition_admits (stamp : Stamp) {command : Command} (hs : Settled m c db command) :
    Tx.Ensures (· = db) (transition m c stamp command) fun _ _ => Admits m c db command := by
  cases command with
  | approve actionId =>
    rintro s rfl _ t ht
    obtain ⟨action, s', happrove, -⟩ := Tx.bind_eq_ok ht
    exact Approved.refused hs _ happrove
  | reject actionId reason => exact .bind rejectAction_spec fun _ => .pure fun _ h => h
  | stop reason =>
    exact .bind stopCase_spec fun _ => .pure fun _ h => Closed.hasOutcome hs h.2
  | escalate reason =>
    exact .bind escalateCase_spec fun _ => .pure fun _ h => Closed.hasOutcome hs h.2

/-- Only a rejection displays the case itself. -/
lemma Admits.run {command : Command} (h : Admits m c db command) (stamp : Stamp)
    (hreadable : (∃ actionId reason, command = .reject actionId reason) → ∃ k, Readable m c db k) :
    ∃ t, transition m c stamp command db = .ok ((), t) := by
  have hpure : ∀ {α : Type} {tx : Cases.Work α}, (∃ r, tx db = .ok r) →
      ∃ t, (tx >>= fun _ => pure () : Cases.Work Unit) db = .ok ((), t) := by
    rintro α tx ⟨r, hr⟩
    exact ⟨r.2, by rw [Tx.run_bind hr]; rfl⟩
  cases command with
  | approve actionId => exact h.elim
  | reject actionId reason =>
    obtain ⟨k, hk⟩ := hreadable ⟨actionId, reason, rfl⟩
    exact hpure (Rejectable.run h hk)
  | stop reason => exact hpure (HasOutcome.stopCase h)
  | escalate reason => exact hpure (HasOutcome.escalateCase h)

lemma displays_of_reject {route : Route} {actionId reason : String}
    (h : route.command = .reject actionId reason) : route.displays := by
  cases route with
  | facade request =>
    cases request with
    | approve actionId => trivial
    | reject actionId => trivial
    | stop => cases h
    | escalateToHuman => cases h
  | safetyControls => cases h
  | direct command => trivial

lemma persist_later {a : Attempt} (hk : Core.Keys db) (h : persist a db = .ok ((), db')) :
    Core.Later db db' := by
  obtain ⟨⟨⟩, s, hscope, htransition⟩ := Tx.bind_eq_ok h
  obtain ⟨rfl, -⟩ := scope_spec a.route _ rfl _ _ hscope
  exact transition_later hk a.stamp a.route.command _ rfl _ _ htransition

/-- The transaction of a command that was committed can be committed once more, whatever was
committed in between, exactly where the case and its action still admit it. -/
theorem persist_again_iff {a : Attempt} (hk : Core.Keys db)
    (hfirst : persist a db = .ok ((), db')) (hlater : Core.Later db' db₂) (stamp : Stamp) :
    (∃ t, persist { a with stamp } db₂ = .ok ((), t)) ↔
      Repeatable a.merchantId a.caseId db₂ a.route := by
  have hsince : Core.Later db db₂ := (persist_later hk hfirst).trans hlater
  obtain ⟨⟨⟩, s, hscope, htransition⟩ := Tx.bind_eq_ok hfirst
  obtain ⟨rfl, hscoped⟩ := scope_spec a.route _ rfl _ _ hscope
  have hsettled : Settled a.merchantId a.caseId db₂ a.route.command :=
    (transition_settled a.stamp a.route.command _ rfl _ _ htransition).later hlater
  have hreadable : a.route.displays → ∃ k, Readable a.merchantId a.caseId db₂ k := fun hd =>
    Readable.later hsince (hscoped.readable hd)
  rw [repeatable_iff]
  constructor
  · rintro ⟨t, ht⟩
    obtain ⟨⟨⟩, s', hscope', htransition'⟩ := Tx.bind_eq_ok ht
    obtain ⟨rfl, hscoped'⟩ := scope_spec a.route _ rfl _ _ hscope'
    exact ⟨transition_admits stamp hsettled _ rfl _ _ htransition', hscoped'.current⟩
  · rintro ⟨hadmits, hcurrent⟩
    obtain ⟨t, ht⟩ := hadmits.run stamp fun hreject =>
      hreadable (displays_of_reject hreject.choose_spec.choose_spec)
    refine ⟨t, ?_⟩
    unfold persist
    rw [Tx.run_bind (Scoped.run ⟨hreadable, hcurrent⟩)]
    exact ht

end

section
variable {s s₁ s₂ : System} {line line' : Line}

/-- The workflow is running, and gets what it is sent. -/
structure Line.Works (line : Line) : Prop where
  describe : line.describe = .ok true
  signal : line.signal = .ok ()

/-- The command is accepted, and the workflow of the case gets its signal. -/
def Delivers (line : Line) (a : Attempt) (s : System) : Prop :=
  (∃ d, (execute line a s).1 = .ok d ∧ d.status = "DELIVERED") ∧
    (execute line a s).2.boxes =
      post (recoveryWorkflowId a.caseId) (a.route.command.signal a.caseId) s.boxes

lemma Line.Works.deliver (h : line.Works) (caseId : String) (sig : QueuedSignal) (boxes : Mailboxes) :
    deliver line caseId sig boxes = (.ok ⟨recoveryWorkflowId caseId, sig.signalId, "DELIVERED"⟩,
      post (recoveryWorkflowId caseId) sig boxes) := by
  have hreached := line.reached_of_ok h.signal
  simp only [RecoveryOS.Api.deliver, h.describe, h.signal, hreached, if_true]

lemma Line.Works.delivers_iff (h : line.Works) (a : Attempt) :
    Delivers line a s ↔ ∃ t, persist a s.db = .ok ((), t) := by
  unfold Delivers execute
  cases hp : persist a s.db with
  | error e =>
    constructor
    · rintro ⟨⟨d, hd, -⟩, -⟩
      cases hd
    · rintro ⟨t, ht⟩
      cases ht
  | ok r =>
    obtain ⟨⟨⟩, t⟩ := r
    simp only [h.deliver]
    exact ⟨fun _ => ⟨t, rfl⟩, fun _ => ⟨⟨_, rfl, rfl⟩, trivial⟩⟩

/-- A delivery fails after its transaction is committed. -/
lemma persist_of_unavailable {a : Attempt} {e : WorkflowCommandUnavailable}
    (h : execute line a s = (.error (.unavailable e), s₁)) : persist a s.db = .ok ((), s₁.db) := by
  unfold execute at h
  cases hp : persist a s.db with
  | error e' =>
    rw [hp] at h
    cases (Prod.mk.inj h).1
  | ok r =>
    obtain ⟨⟨⟩, t⟩ := r
    rw [hp] at h
    obtain ⟨-, rfl⟩ := Prod.mk.inj h
    rfl

/-- After a delivery has failed, and whatever was committed since, the same command delivers its
signal as soon as the workflow can be reached, exactly where the case and its action still admit it;
an approval never does. -/
theorem retry_delivers_iff {d : Core.Deployment} {a : Attempt} {e : WorkflowCommandUnavailable}
    (hk : Core.Keys s.db) (hfailed : execute line a s = (.error (.unavailable e), s₁))
    {w : Core.World} (hw : w.db = s₁.db) (others : List Core.Other)
    (hs₂ : s₂.db = (w.interlude d others).db) (stamp : Stamp) (hworks : line'.Works) :
    Delivers line' { a with stamp } s₂ ↔ Repeatable a.merchantId a.caseId s₂.db a.route := by
  have hfirst := persist_of_unavailable hfailed
  have hlater : Core.Later s₁.db s₂.db := by
    rw [hs₂, ← hw]
    exact Core.interlude_later d (hw ▸ (persist_later hk hfirst).keys) others
  rw [hworks.delivers_iff]
  exact persist_again_iff hk hfirst hlater stamp

def awaitingAction : RecoveryActionRecord where
  id := "action_1"
  caseId := "case_1"
  actionType := .openCustomerPaymentSurface
  paymentSurfaceType := some .subscriptionInvoiceLink
  status := .awaitingApproval
  idempotencyKey := "key_1"
  scheduledFor := none
  externalReference := none
  customerUrl := none
  completedAt := none
  createdAt := 0

def awaitingSystem : System where
  db := { Core.sampleDatabase (some 10000) with actions := [awaitingAction] }
  boxes _ := []

def lostLine : Line where
  describe := .ok true
  signal := .error (.rpc .other)
  reached := false
  reached_of_ok h := by cases h

def workingLine : Line where
  describe := .ok true
  signal := .ok ()
  reached := true
  reached_of_ok _ := rfl

def sampleAttempt (request : OperatorCommandRequest) (occurredAt : Instant) : Attempt where
  merchantId := "merchant_1"
  caseId := "case_1"
  route := .facade request
  stamp := ⟨occurredAt, "action_2", "policy_2", occurredAt⟩

lemma awaitingSystem_keys : Core.Keys awaitingSystem.db :=
  ⟨List.nodup_singleton _, List.nodup_singleton _⟩

lemma workingLine_works : workingLine.Works := ⟨rfl, rfl⟩

/-- A late failure of the payment is reported after the case was stopped, and the stop is delivered
all the same. -/
theorem retry_delivers_stop : ∃ s₁ s₂,
    (execute lostLine (sampleAttempt .stop 1) awaitingSystem).2 = s₁ ∧
      s₁.boxes (recoveryWorkflowId "case_1") = [] ∧
      s₂.db = (Core.World.interlude Core.sampleDeployment { db := s₁.db }
        [.desk (.lateFailure "merchant_1" "case_1" "evt_1" 2)]).db ∧
      Delivers workingLine (sampleAttempt .stop 3) s₂ := by
  obtain ⟨s₁, hfailed, hboxes, hdb⟩ : ∃ s₁,
      execute lostLine (sampleAttempt .stop 1) awaitingSystem =
        (.error (.unavailable ⟨"case_1", "recovery-case:case_1", "operator:stop:case_1",
          "TEMPORAL_RPC_FAILED"⟩), s₁) ∧ s₁.boxes (recoveryWorkflowId "case_1") = [] ∧
      HasOutcome "merchant_1" "case_1" .stopped (Core.World.interlude Core.sampleDeployment
        { db := s₁.db } [.desk (.lateFailure "merchant_1" "case_1" "evt_1" 2)]).db :=
    ⟨_, rfl, rfl, _, rfl, rfl⟩
  refine ⟨s₁, ⟨_, s₁.boxes⟩, congrArg Prod.snd hfailed, hboxes, rfl, ?_⟩
  exact (retry_delivers_iff awaitingSystem_keys hfailed (w := { db := s₁.db }) rfl _ rfl _
    workingLine_works).mpr hdb

theorem retry_counterexample : ∃ s₁,
    execute lostLine (sampleAttempt (.approve "action_1") 1) awaitingSystem =
      (.error (.unavailable ⟨"case_1", "recovery-case:case_1", "operator:approve:action_1",
        "TEMPORAL_RPC_FAILED"⟩), s₁) ∧
      s₁.boxes (recoveryWorkflowId "case_1") = [] ∧
      ¬ Delivers workingLine (sampleAttempt (.approve "action_1") 2) s₁ := by
  obtain ⟨s₁, hfailed, hboxes⟩ : ∃ s₁,
      execute lostLine (sampleAttempt (.approve "action_1") 1) awaitingSystem =
      (.error (.unavailable ⟨"case_1", "recovery-case:case_1", "operator:approve:action_1",
        "TEMPORAL_RPC_FAILED"⟩), s₁) ∧ s₁.boxes (recoveryWorkflowId "case_1") = [] :=
    ⟨_, rfl, rfl⟩
  refine ⟨s₁, hfailed, hboxes, fun h => ?_⟩
  have hfirst := persist_of_unavailable hfailed
  have hagain := persist_again_iff awaitingSystem_keys hfirst
    (.refl (persist_later awaitingSystem_keys hfirst).keys)
    (sampleAttempt (.approve "action_1") 2).stamp
  exact hagain.mp ((workingLine_works.delivers_iff _).mp h)

end

end RecoveryOS.Api
