import RecoveryOS.Core.Operations
import RecoveryOS.Webhook.Evolution

/-!
# Automatic recommendations

`recommend_action` without an action type, called any number of times for one case, and the initial
recommendation that the processing of `payment.failed` makes for it. A call of `recommend_action`
reads the latest action, looks for its own key, and writes, each in a statement of its own and
without a lock on the case; the processor looks for its own key, and holds its locks until it
commits. So the calls take turns as `step` says.

The source means a case to get one automatic recommendation, which all these calls return. That is
so where no call writes on an outdated read (`single_assignment`).
-/

namespace RecoveryOS.Core.Automatic

open Store Cases

/-! ## Calls in turns -/

/-- The end of `recommend_action`: the action and its decision are written. -/
def writeRecommendation (pending : PendingRecommendation) :
    Cases.Work (RecoveryActionRecord × PolicyDecisionRecord) := do
  let request := pending.request
  let row := recommendedAction request pending.action pending.surface pending.decision
  let policy := recommendedPolicy request pending.decision
  addActionWithPolicy row policy
  addEvent
    { caseId := request.caseId
      eventType := "ACTION_RECOMMENDED"
      source := "decision-engine"
      occurredAt := request.evaluatedAt
      sourceEventId := some ("recommendation:" ++ row.id) }
  pure (row, policy)

/-- What a call of `recommend_action` does next: return an action with its decision, look for the
key of its own recommendation, or write it. -/
inductive Stage where
  | replaying (action : RecoveryActionRecord)
  | decided (pending : PendingRecommendation)
  | unclaimed (pending : PendingRecommendation)

/-- How a call ended. What it raises before it has decided is no matter of other calls. -/
inductive Outcome where
  | returned (action : RecoveryActionRecord) (policy : PolicyDecisionRecord)
  | authorized (action : RecoveryActionRecord)
  | refused
  | failed

abbrev Call := Stage ⊕ Outcome

/-- The start of a call, up to its decision. -/
def load (service : Service) (request : RecommendRequest) (db : Database) : Call :=
  match decideRecommendation service request db with
  | .error _ => .inr .refused
  | .ok (.inl action, _) => .inl (.replaying action)
  | .ok (.inr pending, _) => .inl (.decided pending)

/-- The outcome of a statement that returns an action with its decision. -/
def ending (db : Database) :
    Except CaseError ((RecoveryActionRecord × PolicyDecisionRecord) × Database) → Call × Database
  | .ok ((action, policy), db') => (.inr (.returned action policy), db')
  | .error _ => (.inr .failed, db)

/-- The next statement of a call. -/
def advance (db : Database) : Stage → Call × Database
  | .replaying action => ending db (withPolicy action db)
  | .decided pending =>
    match db.actions.find? fun a => a.idempotencyKey =
        idempotencyKey pending.request.caseId pending.action pending.surface with
    | some action => (.inl (.replaying action), db)
    | none => (.inl (.unclaimed pending), db)
  | .unclaimed pending => ending db (writeRecommendation pending db)

/-- The processor's recommendation for a case. -/
def authorize (platform : Webhook.Platform) (call : Webhook.Call) (merchantId : String)
    (recoveryCase : RecoveryCase) (db : Database) : Call × Database :=
  match Webhook.ensureInitialRecommendation platform call merchantId recoveryCase db with
  | .ok (action, db') => (.inr (.authorized action), db')
  | .error _ =>
    -- raised by the decision itself, or after it
    match Webhook.existingRecommendation recoveryCase.id db,
      Webhook.rankedDecision platform call merchantId recoveryCase db with
    | none, .error _ => (.inr .refused, db)
    | _, _ => (.inr .failed, db)

structure State where
  db : Database
  calls : List Call := []

inductive Move where
  | load (service : Service) (request : RecommendRequest)
  | turn (i : ℕ)
  | process (platform : Webhook.Platform) (call : Webhook.Call) (merchantId : String)
      (recoveryCase : RecoveryCase)
  | elsewhere (db : Database)

def step (s : State) : Move → State
  | .load service request => { s with calls := s.calls ++ [load service request s.db] }
  | .turn i =>
    match s.calls[i]? with
    | some (.inl stage) => ⟨(advance s.db stage).2, s.calls.set i (advance s.db stage).1⟩
    | _ => s
  | .process platform call merchantId recoveryCase =>
    let r := authorize platform call merchantId recoveryCase s.db
    ⟨r.2, s.calls ++ [r.1]⟩
  | .elsewhere db => { s with db }

def run (s : State) (moves : List Move) : State := moves.foldl step s

lemma decideRecommendation_readOnly {service : Service} {request : RecommendRequest} :
    Tx.ReadOnly (decideRecommendation service request) := by
  rw [Tx.readOnly_iff]
  intro db
  refine .bind (Q := fun _ t => t = db) (getCaseAggregate_readOnly.ensures fun _ h _ => h)
    fun aggregate => ?_
  cases replayed request aggregate with
  | some action => exact .pure fun _ h => h
  | none =>
    exact .bind (Q := fun _ t => t = db) (decisionPoint_readOnly.ensures fun _ h _ => h) fun _ =>
      .call_bind fun _ _ => .pure fun _ h => h

/-- A call that nothing comes between is `recommend_action`. -/
theorem alone {service : Service} {request : RecommendRequest} {db db' : Database}
    {action : RecoveryActionRecord} {policy : PolicyDecisionRecord}
    (h : recommendAction service request db = .ok ((action, policy), db')) :
    run ⟨db, []⟩ [.load service request, .turn 0, .turn 0, .turn 0] =
      ⟨db', [.inr (.returned action policy)]⟩ := by
  obtain ⟨decided, db₁, hdecided, hrest⟩ := Tx.bind_eq_ok h
  obtain rfl := decideRecommendation_readOnly _ _ _ hdecided
  cases decided with
  | inl found =>
    have hload : load service request db₁ = .inl (.replaying found) := by
      simp only [load, hdecided]
    simp only at hrest
    simp [run, step, hload, advance, ending, hrest]
  | inr pending =>
    have hload : load service request db₁ = .inl (.decided pending) := by
      simp only [load, hdecided]
    obtain ⟨existing, db₂, hexisting, hrest⟩ := Tx.bind_eq_ok hrest
    obtain ⟨rfl, rfl⟩ : (db₁.actions.find? fun a => decide (a.idempotencyKey =
        idempotencyKey pending.request.caseId pending.action pending.surface)) = existing ∧
          db₁ = db₂ := by simpa [Tx.query] using hexisting
    cases hfind : db₁.actions.find? fun a => a.idempotencyKey =
        idempotencyKey pending.request.caseId pending.action pending.surface with
    | some found =>
      simp only [hfind] at hrest
      simp [run, step, hload, advance, ending, hfind, hrest]
    | none =>
      simp only [hfind] at hrest
      have hwrite : writeRecommendation pending db₁ = .ok ((action, policy), db') := hrest
      simp [run, step, hload, advance, ending, hfind, hwrite]

/-! ## One automatic recommendation -/

/-- The keys under which a case's automatic recommendations are written. -/
def AutomaticKey (caseId key : String) : Prop :=
  key = Webhook.initialRecommendationKey caseId ∨
    ∃ action surface, key = idempotencyKey caseId action surface

/-- The event of the initial recommendation. -/
def IsInitialEvent (caseId : String) (e : RecoveryEventRecord) : Prop :=
  e.caseId = caseId ∧ e.sourceEventId = some ("initial-recommendation:" ++ caseId)

section
variable (caseId : String)

/-- A database in which the case has no action yet. -/
structure Start (db : Database) : Prop where
  actions : ∀ a ∈ db.actions, a.caseId ≠ caseId ∧ ¬ AutomaticKey caseId a.idempotencyKey
  policies : ∀ p ∈ db.policies, ∀ id, p.actionId = some id → ∃ a ∈ db.actions, a.id = id
  events : ∀ e ∈ db.events, ¬ IsInitialEvent caseId e

/-- The moves of the calls for the case. The ids that are drawn are new, the digest of the
processor's key is that of no other key, and nothing else touches actions or decisions. -/
def Allowed (s : State) : Move → Prop
  | .load _ request => request.caseId = caseId ∧ request.actionType = none
  | .turn i => ∀ pending, s.calls[i]? = some (.inl (.unclaimed pending)) →
      (∀ a ∈ s.db.actions, a.id ≠ pending.request.actionId) ∧
        ∀ p ∈ s.db.policies, p.id ≠ pending.request.policyId
  | .process platform _ _ recoveryCase =>
    let key := Webhook.initialRecommendationKey caseId
    recoveryCase.id = caseId ∧
      (∀ a ∈ s.db.actions, a.id = "action_rzp_" ++ platform.digest 40 key →
        a.idempotencyKey = key) ∧
      ∀ p ∈ s.db.policies, p.id = "policy_rzp_" ++ platform.digest 40 key →
        ∃ a ∈ s.db.actions, a.idempotencyKey = key
  | .elsewhere db => db.actions = s.db.actions ∧ db.policies = s.db.policies ∧
      ∀ e ∈ db.events, IsInitialEvent caseId e → e ∈ s.db.events

/-- A write comes in time: the case has no action, or the processor finds its own. -/
def InTime (s : State) : Move → Prop
  | .turn i => ∀ pending, s.calls[i]? = some (.inl (.unclaimed pending)) →
      ∀ a ∈ s.db.actions, a.caseId ≠ caseId
  | .process _ _ _ _ => (∀ a ∈ s.db.actions, a.caseId ≠ caseId) ∨
      ∃ a ∈ s.db.actions, a.idempotencyKey = Webhook.initialRecommendationKey caseId
  | _ => True

/-- Every move of a run meets a condition on the state before it. -/
def Along (P : State → Move → Prop) (s : State) : List Move → Prop
  | [] => True
  | m :: moves => P s m ∧ Along P (step s m) moves

/-- The decisions that were taken about an action. -/
def decisionsOn (action : RecoveryActionRecord) (db : Database) : List PolicyDecisionRecord :=
  db.policies.filter fun p => p.actionId = some action.id

/-- The case has one automatic action at most, all calls return it with its one decision, and none
fails. -/
structure SingleAssignment (s : State) : Prop where
  one : ∀ a ∈ s.db.actions, ∀ b ∈ s.db.actions, a.caseId = caseId → b.caseId = caseId → a = b
  returned : ∀ a p, .inr (.returned a p) ∈ s.calls →
    a ∈ s.db.actions ∧ a.caseId = caseId ∧ decisionsOn a s.db = [p]
  authorized : ∀ a, .inr (.authorized a) ∈ s.calls →
    a ∈ s.db.actions ∧ a.caseId = caseId ∧ ∃ p, decisionsOn a s.db = [p]
  failed : .inr .failed ∉ s.calls

/-- What a call holds while the case has at most the one action. -/
def Sound (db : Database) : Call → Prop
  | .inl (.replaying a) => a ∈ db.actions ∧ a.caseId = caseId
  | .inl (.decided pending) | .inl (.unclaimed pending) =>
    pending.request.caseId = caseId ∧
      (pending.action = .openCustomerPaymentSurface ↔ pending.surface.isSome = true) ∧
      (pending.decision.disposition = .delay ↔ pending.decision.delayUntil.isSome = true)
  | .inr (.returned a p) => a ∈ db.actions ∧ a.caseId = caseId ∧ decisionsOn a db = [p]
  | .inr (.authorized a) => a ∈ db.actions ∧ a.caseId = caseId
  | .inr .refused => True
  | .inr .failed => False

/-- The rows while the case has at most the one action. -/
structure Rows (db : Database) : Prop where
  keys : ∀ a ∈ db.actions, AutomaticKey caseId a.idempotencyKey → a.caseId = caseId
  one : ∀ a ∈ db.actions, ∀ b ∈ db.actions, a.caseId = caseId → b.caseId = caseId → a = b
  policies : ∀ p ∈ db.policies, ∀ id, p.actionId = some id → ∃ a ∈ db.actions, a.id = id
  decided : ∀ a ∈ db.actions, a.caseId = caseId →
    ∃ p, decisionsOn a db = [p] ∧ p.caseId = caseId
  events : ∀ e ∈ db.events, IsInitialEvent caseId e →
    ∃ a ∈ db.actions, a.idempotencyKey = Webhook.initialRecommendationKey caseId

structure Inv (s : State) : Prop where
  rows : Rows caseId s.db
  calls : ∀ c ∈ s.calls, Sound caseId s.db c

end

section
variable {caseId : String} {db db' : Database} {s : State}

lemma Rows.of_start (h : Start caseId db) : Rows caseId db where
  keys := fun a ha hkey => absurd hkey (h.actions a ha).2
  one := fun a ha _ _ hcase _ => absurd hcase (h.actions a ha).1
  policies := h.policies
  decided := fun a ha hcase => absurd hcase (h.actions a ha).1
  events := fun e he hinit => absurd hinit (h.events e he)

/-- Rows that are as they were, but for events that are not the initial one. -/
lemma Rows.congr (h : Rows caseId db) (ha : db'.actions = db.actions)
    (hp : db'.policies = db.policies)
    (he : ∀ e ∈ db'.events, IsInitialEvent caseId e → e ∈ db.events) : Rows caseId db' where
  keys := by rw [ha]; exact h.keys
  one := by rw [ha]; exact h.one
  policies := by rw [ha, hp]; exact h.policies
  decided := by
    unfold decisionsOn
    rw [ha, hp]
    exact h.decided
  events := by
    rw [ha]
    exact fun e hmem hinit => h.events e (he e hmem hinit) hinit

lemma Sound.congr {c : Call} (h : Sound caseId db c) (ha : db'.actions = db.actions)
    (hp : db'.policies = db.policies) : Sound caseId db' c := by
  unfold Sound decisionsOn at h ⊢
  rw [ha, hp]
  exact h

/-- While the case has no action, a call holds none. -/
lemma Sound.of_none {c : Call} (h : Sound caseId db c)
    (hnone : ∀ a ∈ db.actions, a.caseId ≠ caseId) :
    Sound caseId db' c := by
  match c, h with
  | .inl (.replaying a), h => exact absurd h.2 (hnone a h.1)
  | .inl (.decided _), h => exact h
  | .inl (.unclaimed _), h => exact h
  | .inr (.returned a _), h => exact absurd h.2.1 (hnone a h.1)
  | .inr (.authorized a), h => exact absurd h.2 (hnone a h.1)
  | .inr .refused, _ => trivial

/-- The first action of the case, with its decision. -/
lemma Rows.add (h : Rows caseId db) (hnone : ∀ x ∈ db.actions, x.caseId ≠ caseId)
    {a : RecoveryActionRecord} {p : PolicyDecisionRecord}
    (ha : db'.actions = db.actions ++ [a]) (hp : db'.policies = db.policies ++ [p])
    (hcase : a.caseId = caseId) (hpa : p.actionId = some a.id) (hpc : p.caseId = caseId)
    (hnew : ∀ x ∈ db.actions, x.id ≠ a.id)
    (he : ∀ e ∈ db'.events, IsInitialEvent caseId e →
      e ∈ db.events ∨ a.idempotencyKey = Webhook.initialRecommendationKey caseId) :
    Rows caseId db' ∧ a ∈ db'.actions ∧ decisionsOn a db' = [p] := by
  have hmem : ∀ x ∈ db'.actions, x.caseId = caseId → x = a := by
    intro x hx hxc
    rw [ha, List.mem_append, List.mem_singleton] at hx
    exact hx.resolve_left fun hx => hnone x hx hxc
  have hdecisions : decisionsOn a db' = [p] := by
    unfold decisionsOn
    rw [hp, List.filter_append]
    have hold : (db.policies.filter fun q => q.actionId = some a.id) = [] := by
      rw [List.filter_eq_nil_iff]
      intro q hq hqa
      obtain ⟨x, hx, hid⟩ := h.policies q hq a.id (of_decide_eq_true hqa)
      exact hnew x hx hid
    rw [hold]
    simp [hpa]
  refine ⟨⟨?_, ?_, ?_, ?_, ?_⟩, by simp [ha], hdecisions⟩
  · intro x hx hkey
    rw [ha, List.mem_append, List.mem_singleton] at hx
    rcases hx with hx | rfl
    · exact h.keys x hx hkey
    · exact hcase
  · intro x hx y hy hxc hyc
    rw [hmem x hx hxc, hmem y hy hyc]
  · intro q hq id hid
    rw [hp, List.mem_append, List.mem_singleton] at hq
    rcases hq with hq | rfl
    · obtain ⟨x, hx, hxid⟩ := h.policies q hq id hid
      exact ⟨x, by simp [ha, hx], hxid⟩
    · exact ⟨a, by simp [ha], Option.some.inj (hpa.symm.trans hid)⟩
  · intro x hx hxc
    rw [hmem x hx hxc]
    exact ⟨p, hdecisions, hpc⟩
  · intro e hmem' hinit
    rcases he e hmem' hinit with hold | hkey
    · obtain ⟨x, hx, hxk⟩ := h.events e hold hinit
      exact ⟨x, by simp [ha, hx], hxk⟩
    · exact ⟨a, by simp [ha], hkey⟩

/-! ### Reading -/

lemma getPolicyForAction_eq {a : RecoveryActionRecord} {p : PolicyDecisionRecord}
    (h : decisionsOn a db = [p]) : getPolicyForAction a.id db = some p := by
  unfold getPolicyForAction
  unfold decisionsOn at h
  rw [h]
  rfl

lemma withPolicy_eq {a : RecoveryActionRecord} {p : PolicyDecisionRecord}
    (h : decisionsOn a db = [p]) : withPolicy a db = .ok ((a, p), db) := by
  unfold withPolicy
  rw [Tx.run_query, Tx.run_expect (getPolicyForAction_eq h)]
  rfl

lemma mem_of_latestActionOf {a : RecoveryActionRecord} (h : latestActionOf caseId db = some a) :
    a ∈ db.actions ∧ a.caseId = caseId := by
  have hmem := Table.mem_of_first h
  rw [List.mem_filter] at hmem
  exact ⟨hmem.1, of_decide_eq_true hmem.2⟩

lemma getCaseAggregate_latest {merchantId : String} :
    Tx.Ensures (· = db) (getCaseAggregate merchantId caseId) fun aggregate t =>
      t = db ∧ aggregate.latestAction = latestActionOf caseId db := by
  refine .query_bind fun _ => .expect_bind fun _ _ => .query_bind fun _ => .expect_bind fun _ _ =>
    .query_bind fun _ => .expect_bind fun _ _ => .query_bind fun _ => .query_bind fun _ => .pure ?_
  rintro t ⟨⟨⟨⟨⟨rfl, -⟩, -⟩, -⟩, -⟩, hlatest⟩
  exact ⟨rfl, hlatest.symm⟩

/-- What an automatic call does first: it finds the latest action, or decides. -/
lemma decideRecommendation_automatic {service : Service} {request : RecommendRequest}
    (hnone : request.actionType = none) :
    Tx.Ensures (· = db) (decideRecommendation service request) fun decided t => t = db ∧
      match decided with
      | .inl action => latestActionOf request.caseId db = some action
      | .inr pending => pending.request = request ∧
        (pending.action = .openCustomerPaymentSurface ↔ pending.surface.isSome = true) ∧
        (pending.decision.disposition = .delay ↔ pending.decision.delayUntil.isSome = true) := by
  refine .bind getCaseAggregate_latest fun aggregate => ?_
  cases hreplayed : replayed request aggregate with
  | some action =>
    refine .pure ?_
    rintro t ⟨rfl, hlatest⟩
    refine ⟨rfl, ?_⟩
    unfold replayed at hreplayed
    rw [hnone] at hreplayed
    exact hlatest.symm.trans hreplayed
  | none =>
    refine .bind (Q := fun _ t => t = db)
      (decisionPoint_readOnly.ensures fun _ h _ => h.1) fun point =>
      .call_bind fun chosen hchosen => ?_
    obtain ⟨action, surface, decision⟩ := chosen
    refine .pure fun t ht => ⟨ht, rfl, ?_⟩
    unfold chooseAction at hchosen
    simp only [hnone, bind, Except.bind] at hchosen
    split at hchosen
    · cases hchosen
    · next ranked hranked =>
      obtain ⟨rfl, rfl, rfl⟩ : ranked.candidate.actionType = action ∧
          ranked.candidate.paymentSurfaceType = surface ∧ ranked.policy = decision := by
        simpa using hchosen
      refine ⟨ranked.candidate.surface_iff, ?_⟩
      unfold Cases.raises at hranked
      split at hranked
      · next result hresult =>
        obtain rfl := Except.ok.inj hranked
        obtain ⟨d, -, hpolicy, -⟩ := Decision.decide_policy hresult
        rw [hpolicy]
        exact d.delay_iff
      · cases hranked

/-- What a call holds once it has decided. -/
lemma load_sound {service : Service} {request : RecommendRequest} (hcase : request.caseId = caseId)
    (hnone : request.actionType = none) : Sound caseId db (load service request db) := by
  unfold load
  split
  · trivial
  · next action t h =>
    obtain ⟨-, hlatest⟩ := decideRecommendation_automatic hnone db rfl _ _ h
    exact mem_of_latestActionOf (hcase ▸ hlatest)
  · next pending t h =>
    obtain ⟨-, hrequest, hsurface, hdelay⟩ := decideRecommendation_automatic hnone db rfl _ _ h
    exact ⟨hrequest ▸ hcase, hsurface, hdelay⟩

/-! ### Writing -/

/-- An action and its decision that nothing clashes with. -/
lemma insertActionWithPolicy_eq {a : RecoveryActionRecord} {p : PolicyDecisionRecord}
    (hsurface : a.actionType = .openCustomerPaymentSurface ↔ a.paymentSurfaceType.isSome = true)
    (hid : ∀ x ∈ db.actions, x.id ≠ a.id)
    (hkey : ∀ x ∈ db.actions, x.idempotencyKey ≠ a.idempotencyKey)
    (hdelay : p.disposition = .delay ↔ p.delayUntil.isSome = true)
    (hpid : ∀ q ∈ db.policies, q.id ≠ p.id) :
    db.insertActionWithPolicy a p =
      some { db with actions := db.actions ++ [a], policies := db.policies ++ [p] } := by
  have hcheck : (decide (a.actionType = .openCustomerPaymentSurface) ==
      a.paymentSurfaceType.isSome) = true := by
    rw [beq_iff_eq, Bool.eq_iff_iff, decide_eq_true_iff]
    exact hsurface
  have hcheck' : (decide (p.disposition = .delay) == p.delayUntil.isSome) = true := by
    rw [beq_iff_eq, Bool.eq_iff_iff, decide_eq_true_iff]
    exact hdelay
  have haction : db.insertAction a = some { db with actions := db.actions ++ [a] } := by
    unfold Database.insertAction
    rw [Table.insert_of_forall]
    · rfl
    · exact hcheck
    · exact fun x hx => by simp [hid x hx, hkey x hx]
  unfold Database.insertActionWithPolicy Database.insertPolicy
  rw [haction, Option.bind_some, Table.insert_of_forall]
  · rfl
  · exact hcheck'
  · exact fun x hx => by simp [hpid x hx]

/-- An event of `recommend_action` is not the initial one. -/
lemma mem_addEvent {e x : RecoveryEventRecord} (h : x ∈ ((db.insertEvent e).getD db).events) :
    x ∈ db.events ∨ x = e := by
  cases he : db.insertEvent e with
  | none =>
    rw [he] at h
    exact .inl h
  | some db₁ =>
    rw [he] at h
    obtain ⟨rows, hrows, rfl⟩ := Option.map_eq_some_iff.mp he
    obtain ⟨-, -, rfl⟩ := Table.insert_eq_some hrows
    exact (List.mem_append.mp h).imp_right List.mem_singleton.mp

lemma recommendation_ne_initial (x y : String) :
    "recommendation:" ++ x ≠ "initial-recommendation:" ++ y := by
  intro h
  have := congrArg (fun s => s.toList.head?) h
  simp at this

lemma addEvent_rows (e : RecoveryEventRecord) :
    ((db.insertEvent e).getD db).actions = db.actions ∧
      ((db.insertEvent e).getD db).policies = db.policies := by
  cases he : db.insertEvent e with
  | none => exact ⟨rfl, rfl⟩
  | some db₁ =>
    obtain ⟨rows, -, rfl⟩ := Option.map_eq_some_iff.mp he
    exact ⟨rfl, rfl⟩

/-- A recommendation that is written while the case has no action. -/
lemma writeRecommendation_ok (h : Rows caseId db) {pending : PendingRecommendation}
    (hsound : Sound caseId db (.inl (.unclaimed pending)))
    (hnone : ∀ a ∈ db.actions, a.caseId ≠ caseId)
    (hid : ∀ a ∈ db.actions, a.id ≠ pending.request.actionId)
    (hpid : ∀ p ∈ db.policies, p.id ≠ pending.request.policyId) :
    ∃ a p db', writeRecommendation pending db = .ok ((a, p), db') ∧ Rows caseId db' ∧
      a ∈ db'.actions ∧ a.caseId = caseId ∧ decisionsOn a db' = [p] := by
  obtain ⟨hcase, hsurface, hdelay⟩ := hsound
  set row := recommendedAction pending.request pending.action pending.surface pending.decision
    with hrow
  set policy := recommendedPolicy pending.request pending.decision with hpolicy
  have hkey : ∀ x ∈ db.actions, x.idempotencyKey ≠ row.idempotencyKey := by
    intro x hx hxk
    refine hnone x hx (h.keys x hx (.inr ⟨pending.action, pending.surface, ?_⟩))
    rw [hxk, ← hcase]
    rfl
  set db₁ := { db with actions := db.actions ++ [row], policies := db.policies ++ [policy] }
    with hdb₁
  have hinsert : db.insertActionWithPolicy row { policy with actionId := some row.id } = some db₁ :=
    insertActionWithPolicy_eq hsurface hid hkey hdelay hpid
  set event : RecoveryEventRecord :=
    { caseId := pending.request.caseId
      eventType := "ACTION_RECOMMENDED"
      source := "decision-engine"
      occurredAt := pending.request.evaluatedAt
      sourceEventId := some ("recommendation:" ++ row.id) } with hevent
  refine ⟨row, policy, (db₁.insertEvent event).getD db₁, ?_, ?_⟩
  · unfold writeRecommendation addActionWithPolicy addEvent
    rw [Tx.run_attempt hinsert, Tx.run_modify]
    rfl
  · obtain ⟨hactions, hpolicies⟩ := @addEvent_rows db₁ event
    have hevents : ∀ e ∈ ((db₁.insertEvent event).getD db₁).events, IsInitialEvent caseId e →
        e ∈ db.events ∨ row.idempotencyKey = Webhook.initialRecommendationKey caseId := by
      intro e he hinit
      rcases mem_addEvent he with hold | rfl
      · exact .inl hold
      · exact absurd (Option.some.inj hinit.2) (recommendation_ne_initial _ _)
    obtain ⟨hrows, hmem, hdecisions⟩ :=
      h.add hnone hactions hpolicies hcase rfl hcase hid hevents
    exact ⟨hrows, hmem, hcase, hdecisions⟩

lemma existingRecommendation_caseId (h : Rows caseId db) {a : RecoveryActionRecord}
    (ha : Webhook.existingRecommendation caseId db = some a) :
    a ∈ db.actions ∧ a.caseId = caseId := by
  have hmem := Table.mem_of_first ha
  rw [List.mem_filter] at hmem
  refine ⟨hmem.1, ?_⟩
  simp only [Bool.or_eq_true, Bool.and_eq_true, decide_eq_true_eq] at hmem
  rcases hmem.2 with hkey | hold
  · exact h.keys a hmem.1 (.inl hkey)
  · exact hold.1.1.1

lemma exists_existingRecommendation {a : RecoveryActionRecord} (ha : a ∈ db.actions)
    (hkey : a.idempotencyKey = Webhook.initialRecommendationKey caseId) :
    ∃ x, Webhook.existingRecommendation caseId db = some x := by
  rw [← Option.ne_none_iff_exists']
  intro hnone
  have hempty := Table.first_eq_none.mp hnone
  rw [List.filter_eq_nil_iff] at hempty
  exact hempty a ha (by simp [hkey])

/-- The processor finds its recommendation. -/
lemma ensureInitialRecommendation_found (h : Rows caseId db) (platform : Webhook.Platform)
    (call : Webhook.Call) (merchantId : String) {c : RecoveryCase} (hc : c.id = caseId)
    {a : RecoveryActionRecord} (ha : Webhook.existingRecommendation caseId db = some a) :
    Webhook.ensureInitialRecommendation platform call merchantId c db = .ok (a, db) := by
  obtain ⟨hmem, hcase⟩ := existingRecommendation_caseId h ha
  obtain ⟨p, hp, hpc⟩ := h.decided a hmem hcase
  have hone : Webhook.policiesOf c.id a.id db = [p] := by
    unfold Webhook.policiesOf
    unfold decisionsOn at hp
    have hsplit : (db.policies.filter fun p => p.caseId = c.id ∧ p.actionId = some a.id) =
        (db.policies.filter fun p => p.actionId = some a.id).filter fun p => p.caseId = c.id := by
      rw [List.filter_filter]
      simp only [Bool.decide_and]
    rw [hsplit, hp]
    simp [hpc, hc]
  unfold Webhook.ensureInitialRecommendation
  dsimp only
  rw [Tx.run_query, hc, ha]
  dsimp only
  rw [Tx.run_require (by simp [hcase]), Tx.run_query, Tx.run_require (by rw [← hc, hone]; rfl)]
  rfl

/-- The processor makes its recommendation for a case that has no action. -/
lemma ensureInitialRecommendation_new (h : Rows caseId db) {platform : Webhook.Platform}
    {call : Webhook.Call} {merchantId : String} {c : RecoveryCase} (hc : c.id = caseId)
    (hnone : ∀ a ∈ db.actions, a.caseId ≠ caseId)
    (hid : ∀ a ∈ db.actions, a.id ≠
      "action_rzp_" ++ platform.digest 40 (Webhook.initialRecommendationKey caseId))
    (hpid : ∀ p ∈ db.policies, p.id ≠
      "policy_rzp_" ++ platform.digest 40 (Webhook.initialRecommendationKey caseId))
    {ranked : Decision.RecoveryDecisionResult}
    (hranked : Webhook.rankedDecision platform call merchantId c db = .ok (ranked, db)) :
    ∃ a db', Webhook.ensureInitialRecommendation platform call merchantId c db = .ok (a, db') ∧
      Rows caseId db' ∧ a ∈ db'.actions ∧ a.caseId = caseId := by
  subst hc
  have hkeys : ∀ x ∈ db.actions, x.idempotencyKey ≠ Webhook.initialRecommendationKey c.id :=
    fun x hx hxk => hnone x hx (h.keys x hx (.inl hxk))
  have hexisting : Webhook.existingRecommendation c.id db = none := by
    by_contra hsome
    obtain ⟨a, ha⟩ := Option.ne_none_iff_exists'.mp hsome
    obtain ⟨hmem, hcase⟩ := existingRecommendation_caseId h ha
    exact hnone a hmem hcase
  have hdelay : ranked.policy.disposition = .delay ↔ ranked.policy.delayUntil.isSome = true := by
    obtain ⟨-, point, d, -, -, hpolicy, -⟩ := Webhook.rankedDecision_spec db rfl _ _ hranked
    rw [hpolicy]
    exact d.delay_iff
  have hevent : ∀ e db₁, IsInitialEvent c.id e → db₁.events = db.events →
      Database.insertEvent e db₁ = some { db₁ with events := db₁.events ++ [e] } := by
    intro e db₁ he hevents
    unfold Database.insertEvent
    rw [Table.insert_of_forall]
    · rfl
    · rfl
    · intro x hx
      have hnot : ¬ IsInitialEvent c.id x := by
        intro hinit
        rw [hevents] at hx
        obtain ⟨a, ha, hak⟩ := h.events x hx hinit
        exact hkeys a ha hak
      rw [Bool.eq_false_iff]
      intro hclash
      simp only [Bool.and_eq_true, decide_eq_true_eq] at hclash
      exact hnot ⟨hclash.1.1.trans he.1, hclash.2.trans he.2⟩
  unfold Webhook.ensureInitialRecommendation
  dsimp only
  rw [Tx.run_query, hexisting]
  dsimp only
  rw [Tx.run_bind hranked]
  rw [Tx.run_attempt (insertActionWithPolicy_eq ranked.candidate.surface_iff hid hkeys hdelay hpid)]
  rw [Tx.run_attempt (hevent _ _ ?_ ?_)]
  · refine ⟨_, _, rfl, And.imp_right (And.imp_right fun _ => rfl)
      (h.add hnone rfl rfl rfl rfl rfl hid fun _ _ _ => .inr rfl)⟩
  · exact ⟨rfl, rfl⟩
  · rfl

/-! ### Steps and runs -/

lemma Inv.append (h : Inv caseId s) {c : Call} (hc : Sound caseId s.db c) :
    Inv caseId { s with calls := s.calls ++ [c] } where
  rows := h.rows
  calls := fun x hx => (List.mem_append.mp hx).elim (h.calls x)
    fun hx => List.mem_singleton.mp hx ▸ hc

/-- A call's turn on a database that it leaves as it is. -/
lemma Inv.set (h : Inv caseId s) (i : ℕ) {c : Call} (hc : Sound caseId s.db c) :
    Inv caseId { s with calls := s.calls.set i c } where
  rows := h.rows
  calls := fun x hx => (List.mem_or_eq_of_mem_set hx).elim (h.calls x) fun hx => hx ▸ hc

/-- The first action of the case, which the calls before knew nothing of. -/
lemma Inv.written (h : Inv caseId s) (hnone : ∀ a ∈ s.db.actions, a.caseId ≠ caseId)
    (hrows : Rows caseId db') : Inv caseId { s with db := db' } where
  rows := hrows
  calls := fun x hx => (h.calls x hx).of_none hnone

lemma Inv.turn (h : Inv caseId s) {i : ℕ} (allowed : Allowed caseId s (.turn i))
    (inTime : InTime caseId s (.turn i)) : Inv caseId (step s (.turn i)) := by
  simp only [step]
  split
  · next stage hstage =>
    have hsound := h.calls _ (List.mem_of_getElem? hstage)
    cases stage with
    | replaying a =>
      obtain ⟨p, hp, -⟩ := h.rows.decided a hsound.1 hsound.2
      simp only [advance, withPolicy_eq hp, ending]
      exact h.set i ⟨hsound.1, hsound.2, hp⟩
    | decided pending =>
      cases ha : s.db.actions.find? fun a => a.idempotencyKey =
          idempotencyKey pending.request.caseId pending.action pending.surface with
      | some a =>
        have hmem := List.mem_of_find?_eq_some ha
        have hkey : a.idempotencyKey = idempotencyKey pending.request.caseId pending.action
            pending.surface := by simpa using List.find?_some ha
        simp only [advance, ha]
        refine h.set i ⟨hmem, h.rows.keys a hmem (.inr ⟨pending.action, pending.surface, ?_⟩)⟩
        rw [hkey, hsound.1]
      | none =>
        simp only [advance, ha]
        exact h.set i hsound
    | unclaimed pending =>
      have hnone := inTime pending hstage
      obtain ⟨hid, hpid⟩ := allowed pending hstage
      obtain ⟨a, p, db', hwrite, hrows, hmem, hcase, hdecisions⟩ :=
        writeRecommendation_ok h.rows hsound hnone hid hpid
      simp only [advance, hwrite, ending]
      exact (h.written hnone hrows).set i ⟨hmem, hcase, hdecisions⟩
  · exact h

lemma Inv.process (h : Inv caseId s) {platform : Webhook.Platform} {call : Webhook.Call}
    {merchantId : String} {c : RecoveryCase}
    (allowed : Allowed caseId s (.process platform call merchantId c))
    (inTime : InTime caseId s (.process platform call merchantId c)) :
    Inv caseId (step s (.process platform call merchantId c)) := by
  obtain ⟨hc, hdigest, hdigest'⟩ := allowed
  show Inv caseId ⟨(authorize platform call merchantId c s.db).2,
    s.calls ++ [(authorize platform call merchantId c s.db).1]⟩
  cases hexisting : Webhook.existingRecommendation caseId s.db with
  | some a =>
    have hfound := ensureInitialRecommendation_found h.rows platform call merchantId hc hexisting
    simp only [authorize, hfound]
    exact h.append (existingRecommendation_caseId h.rows hexisting)
  | none =>
    have hnone : ∀ a ∈ s.db.actions, a.caseId ≠ caseId := by
      refine inTime.resolve_right ?_
      rintro ⟨a, ha, hkey⟩
      obtain ⟨x, hx⟩ := exists_existingRecommendation ha hkey
      rw [hexisting] at hx
      cases hx
    have hkeys : ∀ a ∈ s.db.actions,
        a.idempotencyKey ≠ Webhook.initialRecommendationKey caseId :=
      fun a ha hkey => hnone a ha (h.rows.keys a ha (.inl hkey))
    cases hranked : Webhook.rankedDecision platform call merchantId c s.db with
    | error e =>
      have herror : Webhook.ensureInitialRecommendation platform call merchantId c s.db =
          .error e := by
        unfold Webhook.ensureInitialRecommendation
        dsimp only
        rw [Tx.run_query, hc, hexisting]
        exact Tx.run_bind_error hranked
      simp only [authorize, herror, hc, hexisting, hranked]
      exact h.append trivial
    | ok r =>
      obtain ⟨ranked, t⟩ := r
      obtain ⟨ht, -⟩ := Webhook.rankedDecision_spec _ rfl _ _ hranked
      rw [ht] at hranked
      obtain ⟨a, db', hensure, hrows, hmem, hcase⟩ :=
        ensureInitialRecommendation_new h.rows hc hnone
          (fun a ha hid => hkeys a ha (hdigest a ha hid))
          (fun p hp hid => by
            obtain ⟨a, ha, hkey⟩ := hdigest' p hp hid
            exact hkeys a ha hkey) hranked
      simp only [authorize, hensure]
      exact (h.written hnone hrows).append ⟨hmem, hcase⟩

/-- What every move that comes in time keeps. -/
theorem Inv.step (h : Inv caseId s) {m : Move} (allowed : Allowed caseId s m)
    (inTime : InTime caseId s m) : Inv caseId (step s m) := by
  cases m with
  | load service request => exact h.append (load_sound allowed.1 allowed.2)
  | turn i => exact h.turn allowed inTime
  | process platform call merchantId c => exact h.process allowed inTime
  | elsewhere db =>
    obtain ⟨ha, hp, he⟩ := allowed
    exact ⟨h.rows.congr ha hp he, fun c hc => (h.calls c hc).congr ha hp⟩

theorem Inv.run {moves : List Move} (h : Inv caseId s)
    (allowed : Along (Allowed caseId) s moves) (inTime : Along (InTime caseId) s moves) :
    Inv caseId (run s moves) := by
  induction moves generalizing s with
  | nil => exact h
  | cons m moves ih => exact ih (h.step allowed.1 inTime.1) allowed.2 inTime.2

lemma Inv.singleAssignment (h : Inv caseId s) : SingleAssignment caseId s where
  one := h.rows.one
  returned := fun a p hmem => h.calls _ hmem
  authorized := fun a hmem => by
    obtain ⟨ha, hcase⟩ := h.calls _ hmem
    obtain ⟨p, hp, -⟩ := h.rows.decided a ha hcase
    exact ⟨ha, hcase, p, hp⟩
  failed := fun hmem => h.calls _ hmem

/-- A case gets one automatic recommendation, which every call returns, as long as each write comes
in time. -/
theorem single_assignment {moves : List Move} (start : Start caseId db)
    (allowed : Along (Allowed caseId) ⟨db, []⟩ moves)
    (inTime : Along (InTime caseId) ⟨db, []⟩ moves) :
    SingleAssignment caseId (run ⟨db, []⟩ moves) := by
  have hinv : Inv caseId ⟨db, []⟩ := ⟨.of_start start, by simp⟩
  exact (hinv.run allowed inTime).singleAssignment

end

/-! ## Two calls for one case -/

def unactedId : String := "case_rzp_3427be8787b2266361a016954392901e17b9144a"

/-- A case without an action, of a merchant in Indian standard time. -/
def unactedCase : RecoveryCase :=
  { id := unactedId, merchantId := "merchant_1", customerId := "customer_1"
    subscriptionId := "subscription_1", failedInvoiceId := some "invoice_1"
    billingCycleKey := some "cycle_1", failedPaymentId := none
    caseOutcome := .open, paymentState := .failed, subscriptionState := .halted
    contactDisposition := .notContacted, revenueAttribution := .none
    diagnosis := .insufficientFunds, amountAtRiskPaise := 50000, arrearsCollectedPaise := 0
    caseRecovered := false, subscriptionReactivated := false, openedAt := 0
    recoveryDeadline := 12 * Safety.day, recoveredAt := none, version := 1 }

def unacted : Database where
  __ := Webhook.sampleStore
  cases := [unactedCase]

/-- A service whose scorer prefers one surface. -/
def preferring (surface : PaymentSurfaceType) : Service where
  zoneInfo := Webhook.samplePlatform.zoneInfo
  globalKillSwitch := false
  capabilities := ⟨true, false⟩
  scorer c := .ok
    ⟨0, 0, if c.paymentSurfaceType = some surface then 1 else 0, Decision.zeroProbability_mem,
      Decision.zeroRecovered_nonneg⟩

/-- A call without an action type, with the ids that it draws. -/
def automatic (n : String) : RecommendRequest where
  merchantId := "merchant_1"
  caseId := unactedId
  actionType := none
  paymentSurfaceType := none
  evaluatedAt := 10 * Safety.day
  actionId := "action_" ++ n
  policyId := "policy_" ++ n
  utcNow := 10 * Safety.day

/-- The processor, then two calls. -/
def inTurn : List Move :=
  [.process Webhook.samplePlatform (Webhook.sampleCall (10 * Safety.day) true) "merchant_1"
      unactedCase,
    .load (preferring .subscriptionInvoiceLink) (automatic "1"),
    .load (preferring .subscriptionCardUpdate) (automatic "2"), .turn 1, .turn 2]

/-- Two calls that both read before either writes. -/
def overlapping : List Move :=
  [.load (preferring .subscriptionInvoiceLink) (automatic "1"),
    .load (preferring .subscriptionCardUpdate) (automatic "2"), .turn 0, .turn 1, .turn 0, .turn 1]

lemma unacted_start : Start unactedId unacted :=
  ⟨by simp [unacted, Webhook.sampleStore], by simp [unacted, Webhook.sampleStore],
    by simp [unacted, Webhook.sampleStore]⟩

section
variable {caseId : String} {s : State} {i : ℕ}

lemma allowed_of_other {c : Call} (h : s.calls[i]? = some c)
    (hc : ∀ pending, c ≠ .inl (.unclaimed pending)) :
    Allowed caseId s (.turn i) ∧ InTime caseId s (.turn i) := by
  have hnever : ∀ pending, s.calls[i]? ≠ some (.inl (.unclaimed pending)) := by
    intro pending hp
    rw [h] at hp
    exact hc pending (Option.some.inj hp)
  exact ⟨fun pending hp => absurd hp (hnever pending), fun pending hp => absurd hp (hnever pending)⟩

lemma allowed_of_unclaimed {pending : PendingRecommendation}
    (h : s.calls[i]? = some (.inl (.unclaimed pending)))
    (hid : ∀ a ∈ s.db.actions, a.id ≠ pending.request.actionId)
    (hpid : ∀ p ∈ s.db.policies, p.id ≠ pending.request.policyId) :
    Allowed caseId s (.turn i) := by
  intro pending' h'
  rw [h] at h'
  obtain rfl : pending = pending' := by simpa using h'
  exact ⟨hid, hpid⟩

end

theorem inTurn_single : Start unactedId unacted ∧
    Along (Allowed unactedId) ⟨unacted, []⟩ inTurn ∧ Along (InTime unactedId) ⟨unacted, []⟩ inTurn ∧
      SingleAssignment unactedId (run ⟨unacted, []⟩ inTurn) := by
  have hallowed : Along (Allowed unactedId) ⟨unacted, []⟩ inTurn := by
    refine ⟨⟨rfl, by simp [unacted, Webhook.sampleStore], by simp [unacted, Webhook.sampleStore]⟩,
      ⟨rfl, rfl⟩, ⟨rfl, rfl⟩, (allowed_of_other rfl ?_).1, (allowed_of_other rfl ?_).1, trivial⟩
    · intro pending h
      cases h
    · intro pending h
      cases h
  have hinTime : Along (InTime unactedId) ⟨unacted, []⟩ inTurn := by
    refine ⟨.inl (by simp [unacted, Webhook.sampleStore]), trivial, trivial,
      (allowed_of_other rfl ?_).2, (allowed_of_other rfl ?_).2, trivial⟩
    · intro pending h
      cases h
    · intro pending h
      cases h
  exact ⟨unacted_start, hallowed, hinTime, single_assignment unacted_start hallowed hinTime⟩

/-- Two recommendations come of two calls that overlap. -/
theorem overlapping_calls : Start unactedId unacted ∧
    Along (Allowed unactedId) ⟨unacted, []⟩ overlapping ∧
      ¬ SingleAssignment unactedId (run ⟨unacted, []⟩ overlapping) := by
  refine ⟨unacted_start, ⟨⟨rfl, rfl⟩, ⟨rfl, rfl⟩, (allowed_of_other rfl ?_).1,
    (allowed_of_other rfl ?_).1, allowed_of_unclaimed rfl ?_ ?_, allowed_of_unclaimed rfl ?_ ?_,
    trivial⟩, ?_⟩
  · intro pending h
    cases h
  · intro pending h
    cases h
  · decide +kernel
  · decide +kernel
  · decide +kernel
  · decide +kernel
  · intro h
    have htwo : ∃ a b, (run ⟨unacted, []⟩ overlapping).db.actions = [a, b] ∧
        a.caseId = unactedId ∧ b.caseId = unactedId ∧ a.id = "action_1" ∧ b.id = "action_2" :=
      ⟨_, _, rfl, rfl, rfl, rfl, rfl⟩
    obtain ⟨a, b, hab, ha, hb, ha', hb'⟩ := htwo
    have heq := h.one a (by simp [hab]) b (by simp [hab]) ha hb
    rw [heq, hb'] at ha'
    exact absurd ha' (by decide)

end RecoveryOS.Core.Automatic
