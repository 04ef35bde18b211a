import RecoveryOS.Core.World
import RecoveryOS.Webhook.Ledger
import RecoveryOS.Worker.Reconciliation

/-!
# The workflow and the ledger

A workflow returns its case as recovered on the word of one reconciliation. If that read the case as
recovered from the database, the database agrees from then on: nothing takes a recovered case back,
and nothing more can be recognized for it, since all that was at risk is collected.

A reconciliation may also decide on a snapshot of the provider, for a customer who reports to have
paid. It writes nothing, and the ledger is left to a webhook that may come later or not at all.
-/

namespace RecoveryOS.Core

open Store Worker Webhook Resume

/-! ## A recovered case stays recovered -/

/-- What is recovered stays so, with the same arrears. -/
def StaysRecovered (db db' : Database) : Prop :=
  ∀ c ∈ db.cases, c.caseRecovered = true → ∃ c' ∈ db'.cases, c'.id = c.id ∧
    c'.caseRecovered = true ∧ c'.arrearsCollectedPaise = c.arrearsCollectedPaise

section
variable {db db' db'' : Database} {W : Scope}

lemma StaysRecovered.same (h : db'.cases = db.cases) : StaysRecovered db db' :=
  fun c hc hr => ⟨c, h ▸ hc, rfl, hr, rfl⟩

lemma StaysRecovered.trans (h : StaysRecovered db db') (h' : StaysRecovered db' db'') :
    StaysRecovered db db'' := by
  intro c hc hr
  obtain ⟨c', hc', hid, hr', hcol⟩ := h c hc hr
  obtain ⟨c'', hc'', hid', hr'', hcol'⟩ := h' c' hc' hr'
  exact ⟨c'', hc'', hid'.trans hid, hr'', hcol'.trans hcol⟩

/-- A case is written back: if it was recovered, it still is. -/
lemma StaysRecovered.put {c c' : RecoveryCase} (hk : Table.Keyed (·.id) db.cases)
    (hc : c ∈ db.cases) (hid : c'.id = c.id) (hcases : db'.cases = Table.put (·.id) db.cases c')
    (h : c.caseRecovered = true →
      c'.caseRecovered = true ∧ c'.arrearsCollectedPaise = c.arrearsCollectedPaise) :
    StaysRecovered db db' := by
  intro x hx hr
  rw [hcases]
  by_cases hxc : x.id = c.id
  · obtain rfl := hk.eq hx hc hxc
    exact ⟨c', Table.mem_put_self hx hid.symm, hid, h hr⟩
  · exact ⟨x, Table.mem_put_of_ne hx (by rw [hid]; exact hxc), rfl, hr, rfl⟩

/-- What a recognition may still collect: nothing, if the case is recovered. -/
lemma Recognition.not_recovered {r : RevenueRecognitionRecord} {c c' : RecoveryCase}
    {i i' : Invoice} (hs : Sound db) (hr : db.insertRecognition r = some db')
    (h : Recognition W.event db r c c' i i') : c.caseRecovered = false := by
  obtain ⟨rows, hrows, -⟩ := Option.map_eq_some_iff.mp hr
  obtain ⟨hcheck, -, -⟩ := Table.insert_eq_some hrows
  simp only [Bool.and_eq_true, decide_eq_true_eq] at hcheck
  have hpos := hcheck.1.1.1
  have hle := h.withinCase
  have hiff := hs.balanced.recovered_iff c h.mem
  by_contra hne
  rw [Bool.not_eq_false] at hne
  have := hiff.mp hne
  omega

theorem EffectOf.staysRecovered (h : EffectOf W db db') (hs : Sound db) : StaysRecovered db db' := by
  have hk := hs.constrained.cases_keyed
  cases h with
  | other h => exact .same h.cases
  | event e h =>
    obtain ⟨_, -, rfl⟩ := Option.map_eq_some_iff.mp h
    exact .same rfl
  | invoice i h =>
    obtain ⟨_, -, rfl⟩ := Option.map_eq_some_iff.mp h
    exact .same rfl
  | payment p h =>
    obtain ⟨_, -, rfl⟩ := Option.map_eq_some_iff.mp h
    exact .same rfl
  | attempt hp h => exact .same rfl
  | opened h hc =>
    obtain ⟨rows, hrows, rfl⟩ := Option.map_eq_some_iff.mp h
    obtain ⟨-, -, rfl⟩ := Table.insert_eq_some hrows
    exact fun c hc hr => ⟨c, List.mem_append_left _ hc, rfl, hr, rfl⟩
  | noted hc h => exact .put hk hc h.id rfl fun hr => ⟨h.recovered.trans hr, h.collected⟩
  | @captured c c' t hc h =>
    refine .put hk hc h.id (cases_settle _ t) fun hr => ?_
    have hcol : c'.arrearsCollectedPaise = c.arrearsCollectedPaise := by
      rw [h.collected, add_zero]
    refine ⟨h.recovered.mpr ?_, hcol⟩
    rw [hcol, h.atRisk]
    exact (hs.balanced.recovered_iff c hc).mp hr
  | recognized t hr h =>
    refine .put hk h.mem h.captured.id ?_ fun hrec => ?_
    · rw [cases_settle]
      exact congrArg (Table.put _ · _) (insertRecognition_tables hr).2.2
    · rw [h.not_recovered hs hr] at hrec
      cases hrec
  | marked caseId _ =>
    intro c hc hr
    refine ⟨_, List.mem_map_of_mem hc, ?_⟩
    split_ifs <;> exact ⟨rfl, hr, rfl⟩
  | closed t hc h _ => exact .put hk hc h.id rfl fun hr => ⟨h.recovered.trans hr, h.collected⟩
  | added h hd => exact .same (insertActionWithPolicy_tables h).2.2.2
  | moved ha h => exact .same rfl
  | swept f h => exact .same rfl
  | stamped f h => exact .same rfl
  | consumed c h => exact .same rfl

end

/-! ## Along a run -/

/-- The books are in order, and the keys are keys. -/
structure InOrder (db : Database) : Prop where
  keys : Keys db
  sound : Sound db

/-- A relation to what effects make of a database, if they leave it at all: it does not look at the
actions and the policies. -/
structure Led (R : Database → Database → Prop) : Prop where
  trans : ∀ {db db' db''}, R db db' → R db' db'' → R db db''
  same : ∀ {db db' : Database}, db'.cases = db.cases → db'.recognitions = db.recognitions → R db db'
  effect : ∀ {db db'}, Sound db → Effect db db' → R db db'

section
variable {d : Deployment} {w : World} {R : Database → Database → Prop} {db db' : Database}

lemma insertActionWithPolicy_recognitions {a : RecoveryActionRecord} {p : PolicyDecisionRecord}
    (h : db.insertActionWithPolicy a p = some db') : db'.recognitions = db.recognitions := by
  obtain ⟨db₁, ha, hp⟩ := Option.bind_eq_some_iff.mp h
  obtain ⟨rows, hrows, rfl⟩ := Option.map_eq_some_iff.mp ha
  obtain ⟨rows', hrows', rfl⟩ := Option.map_eq_some_iff.mp hp
  rfl

lemma Led.evolves (hR : Led R) (h : InOrder db) (he : Evolves db db') : InOrder db' ∧ R db db' := by
  refine ⟨⟨h.keys.evolves he, h.sound.evolves he⟩, ?_⟩
  have hboth : Sound db' ∧ R db db' := he.induct (P := fun t => Sound t ∧ R db t)
    (fun hstep ht => ⟨ht.1.effect hstep, hR.trans ht.2 (hR.effect ht.1 hstep)⟩)
    ⟨h.sound, hR.same rfl rfl⟩
  exact hboth.2

lemma Led.commitRecommendation (hR : Led R) {pending : Cases.PendingRecommendation}
    (h : InOrder db) : InOrder (commit (Cases.persistRecommendation pending) db) ∧
      R db (commit (Cases.persistRecommendation pending) db) := by
  rcases commit_cases (persistRecommendation_spec pending db) with he | he | ⟨db₁, hi, he⟩
  · rw [he]
    exact ⟨h, hR.same rfl rfl⟩
  · rw [he]
    exact ⟨h, hR.same rfl rfl⟩
  · have h₁ : InOrder db₁ := ⟨h.keys.insertActionWithPolicy hi, h.sound.insertActionWithPolicy hi⟩
    have hsame : R db db₁ :=
      hR.same (insertActionWithPolicy_tables hi).2.2.2 (insertActionWithPolicy_recognitions hi)
    obtain ⟨h₂, hrest⟩ := hR.evolves h₁ he
    exact ⟨h₂, hR.trans hsame hrest⟩

lemma Led.commitApproval (hR : Led R) {pending : Cases.PendingApproval} {t : Instant}
    (h : InOrder db) : InOrder (commit (Cases.commitApproval pending t) db) ∧
      R db (commit (Cases.commitApproval pending t) db) := by
  rcases commit_cases (commitApproval_spec pending t db) with he | ⟨row, -, -, he⟩
  · rw [he]
    exact ⟨h, hR.same rfl rfl⟩
  · have hput : InOrder (db.putAction (approved row pending)) :=
      ⟨⟨h.keys.cases, h.keys.actions.put _⟩, h.sound.congr rfl rfl rfl rfl⟩
    have hput' : R db (db.putAction (approved row pending)) := hR.same rfl rfl
    rw [he]
    cases hi : (db.putAction (approved row pending)).insertEvent (Cases.approvalEvent row t) with
    | none => exact ⟨hput, hput'⟩
    | some db₁ =>
      obtain ⟨h₁, hrest⟩ := hR.evolves hput (EffectOf.event _ hi).evolves
      exact ⟨h₁, hR.trans hput' hrest⟩

/-- Every step of the service leads along. -/
theorem Led.step (hR : Led R) (h : InOrder w.db) (op : Op) :
    InOrder (w.step d op).db ∧ R w.db (w.step d op).db := by
  by_cases hop : op.blind
  · cases op with
    | commitRecommendation i =>
      simp only [World.step]
      split
      · exact ⟨h, hR.same rfl rfl⟩
      · exact hR.commitRecommendation h
    | commitApproval i t =>
      simp only [World.step]
      split
      · exact ⟨h, hR.same rfl rfl⟩
      · exact hR.commitApproval h
    | _ => exact absurd hop id
  · exact hR.evolves h (step_evolves h.keys hop)

theorem Led.after (hR : Led R) (h : InOrder w.db) (ops : List Op) (j : ℕ) :
    ∀ m, InOrder (w.after d ops (j + m)).db ∧
      R (w.after d ops j).db (w.after d ops (j + m)).db := by
  have hall : ∀ k, InOrder (w.after d ops k).db := by
    intro k
    induction k with
    | zero => exact h
    | succ k ih =>
      rcases World.after_succ_cases d w ops k with he | ⟨op, he⟩
      · rw [he]
        exact ih
      · rw [he]
        exact (hR.step ih op).1
  intro m
  refine ⟨hall _, ?_⟩
  induction m with
  | zero => exact hR.same rfl rfl
  | succ m ih =>
    rcases World.after_succ_cases d w ops (j + m) with he | ⟨op, he⟩
    · rw [← Nat.add_assoc, he]
      exact ih
    · rw [← Nat.add_assoc, he]
      exact hR.trans ih (hR.step (hall (j + m)) op).2

/-- Nothing takes a recovered case back. -/
theorem staysRecovered_led : Led StaysRecovered where
  trans h h' := h.trans h'
  same h _ := .same h
  effect hs he := he.staysRecovered hs

end

/-! ## What a workflow returns -/

/-- The reconciliations of a run are those of the production activities: the one that ends await
`i` reads `db i` and asks the provider by `fetch i`. -/
def Reconciles (rt : Runtime) (env : ℕ → (r : Await) → r.Reply) (db : ℕ → Database)
    (fetch : ℕ → FetchSnapshot) : Prop :=
  ∀ i request (d : ReconciliationResult),
    (env i (.activity (.reconcileCase request))).result = some d →
      reconcileCase rt (fetch i) request (db i) = some d

/-- A run returns its case as recovered on the grounds of a reconciliation of that case only, which
replied that the case is recovered and said so with authority; and no reconciliation whose trigger
is asserted without a signed webhook replies so of a case that was not recovered already. -/
theorem recovered_on_grounds (rt : Runtime) (hrt : rt.provider ≠ .mock) (host : Host) (rounds : ℕ)
    (workflowId : String) (command : RecoveryWorkflowInput) (now : Instant)
    (arrivals : List QueuedSignal) (env : ℕ → (r : Await) → r.Reply) (db : ℕ → Database)
    (fetch : ℕ → FetchSnapshot) (henv : Reconciles rt env db fetch) (n : ℕ) (s : Workflow)
    (a : RecoveryWorkflowResult)
    (hn : (Worker.run host rounds workflowId command (start now arrivals)).follow env n = .done s a)
    (ha : a.outcome = .recovered) :
    (∃ i < n, ∃ t request k, ∃ d : ReconciliationResult,
      (Worker.run host rounds workflowId command (start now arrivals)).follow env i =
        .await t (.activity (.reconcileCase request)) k ∧
      (env i (.activity (.reconcileCase request))).result = some d ∧
      d.caseRecovered = true ∧ d.authoritative = true ∧
      a.arrearsCollectedPaise = d.arrearsCollectedPaise ∧
      request.caseId = command.caseId ∧ request.merchantId = command.merchantId ∧
      request.failedInvoiceId = command.failedInvoiceId ∧ Grounds request (fetch i) (db i)) ∧
    ∀ i request (d : ReconciliationResult),
      (env i (.activity (.reconcileCase request))).result = some d →
      request.authoritativeHint = true → findTrigger request (db i) = none →
      ¬ PersistedRecovered request (db i) → d.caseRecovered = false := by
  constructor
  · obtain ⟨i, hi, t, request, k, d, hk, hres, hrec, hauth, hscope, harrears⟩ := exists_decision hn ha
    exact ⟨i, hi, t, request, k, d, hk, hres, hrec, hauth, harrears, hscope.1, hscope.2.1,
      hscope.2.2, reconcileCase_grounds hrt (henv i request d hres) hrec⟩
  · intro i request d hres hhint hnone hnot
    rw [← Bool.not_eq_true]
    exact fun hrec => hnot ((reconcileCase_grounds hrt (henv i request d hres) hrec).asserted
      hhint hnone)

/-- The persisted case is what the workflow returned. -/
def LedgerAgrees (command : RecoveryWorkflowInput) (a : RecoveryWorkflowResult) (db : Database) :
    Prop :=
  ∃ c ∈ db.cases, c.id = command.caseId ∧ c.caseRecovered = true ∧ c.caseOutcome = .recovered ∧
    c.arrearsCollectedPaise = a.arrearsCollectedPaise

/-- A reconciliation of a case that is recovered in the database decides with its arrears. -/
lemma reconcileCase_of_persisted {rt : Runtime} (hrt : rt.provider ≠ .mock) {fetch : FetchSnapshot}
    {request : ReconciliationInput} {db : Database} {d : ReconciliationResult} (hs : Sound db)
    (h : reconcileCase rt fetch request db = some d) (hrec : d.caseRecovered = true)
    (hp : PersistedRecovered request db) : ∃ c ∈ db.cases, c.id = request.caseId ∧
      c.caseRecovered = true ∧ c.arrearsCollectedPaise = d.arrearsCollectedPaise := by
  obtain ⟨c, hc, hid, -, -, hcrec⟩ := hp
  unfold reconcileCase at h
  rw [if_neg hrt] at h
  cases hscope : reconciliationScope request db with
  | none =>
    simp only [hscope, Option.some.injEq] at h
    rw [← h] at hrec
    simp [unreconciledCase] at hrec
  | some scope =>
    have hin := inScope_of_reconciliationScope hscope
    have hsame : scope.recoveryCase = c :=
      hs.constrained.cases_keyed.eq hin.mem_cases hc (hin.caseId.trans hid.symm)
    simp only [hscope] at h
    cases hrow : latestRecognition request scope db with
    | some row =>
      simp only [hrow, Option.some.injEq] at h
      refine ⟨c, hc, hid, hcrec, ?_⟩
      rw [← h, ← hsame]
      rfl
    | none =>
      simp only [hrow] at h
      cases htrigger : readTrigger request scope db with
      | untrusted =>
        simp only [htrigger, Option.some.injEq] at h
        rw [← h] at hrec
        simp [unreconciledCase] at hrec
      | raised => simp [htrigger] at h
      | payment paymentId =>
        -- nothing is owed on the case, so no snapshot recovers it
        simp only [htrigger, Option.map_eq_some_iff] at h
        obtain ⟨snapshot, -, rfl⟩ := h
        have hr : snapshotRecovers scope paymentId snapshot = true := hrec
        simp only [snapshotRecovers, Bool.and_eq_true, decide_eq_true_eq, hsame] at hr
        have hpos := hr.1.2
        have hle := (hs.balanced.recovered_iff c hc).mp hcrec
        unfold requiredArrears at hpos
        omega

/-- If every deciding reconciliation of a run finds its case recovered in the database, then the
database agrees with what the workflow returns, from that moment on. -/
theorem ledger_agrees (d : Deployment) (hd : d.runtime.provider ≠ .mock) (w : World)
    (ops : List Op) (hk : Keys w.db) (hs : Sound w.db) (host : Host) (rounds : ℕ)
    (workflowId : String) (command : RecoveryWorkflowInput) (now : Instant)
    (arrivals : List QueuedSignal) (env : ℕ → (r : Await) → r.Reply) (moment : ℕ → ℕ)
    (fetch : ℕ → FetchSnapshot)
    (henv : Reconciles d.runtime env (fun i => (w.after d ops (moment i)).db) fetch)
    (hledger : ∀ i t request k,
      (Worker.run host rounds workflowId command (start now arrivals)).follow env i =
        .await t (.activity (.reconcileCase request)) k →
      Decides (.activity (.reconcileCase request)) (env i (.activity (.reconcileCase request))) →
      PersistedRecovered request (w.after d ops (moment i)).db)
    (n : ℕ) (s : Workflow) (a : RecoveryWorkflowResult)
    (hn : (Worker.run host rounds workflowId command (start now arrivals)).follow env n = .done s a)
    (ha : a.outcome = .recovered) (m : ℕ) (hm : ∀ i < n, moment i ≤ m) :
    LedgerAgrees command a (w.after d ops m).db := by
  obtain ⟨i, hi, t, request, k, r, hi', hres, hrec, hauth, hscope, harrears⟩ :=
    exists_decision hn ha
  have hdec : Decides (.activity (.reconcileCase request))
      (env i (.activity (.reconcileCase request))) := by
    rw [Decides, decision_reconcileCase.mpr ⟨hres, hrec, hauth⟩]
    rfl
  have horder : InOrder w.db := ⟨hk, hs⟩
  obtain ⟨c, hc, hid, hcrec, hcol⟩ := reconcileCase_of_persisted hd
    (staysRecovered_led.after horder ops 0 (moment i)).1.sound
    (by simpa using henv i request r hres) hrec
    (by simpa using hledger i t request k hi' hdec)
  obtain ⟨j, rfl⟩ := Nat.exists_eq_add_of_le (hm i hi)
  obtain ⟨horder', hstays⟩ := staysRecovered_led.after (d := d) horder ops (moment i) j
  obtain ⟨c', hc', hid', hcrec', hcol'⟩ := hstays c (by simpa using hc) hcrec
  refine ⟨c', hc', (hid'.trans hid).trans hscope.1, hcrec',
    horder'.sound.balanced.recovered_outcome c' hc' hcrec', ?_⟩
  rw [hcol', hcol, harrears]

/-! ## Two customers who paid -/

/-- The activities of a run on the database as it is, which allow nothing but to wait. -/
def productionResult (fetch : FetchSnapshot) (db : Database) : (a : Activity) → Option a.Result
  | .reconcileCase request => reconcileCase sampleDeployment.runtime fetch request db
  | a => some (wellResult
      { disposition := "ALLOW", decisionCode := "ALLOWED", action := "WAIT_FOR_GATEWAY_RETRY",
        paymentSurfaceType := none } a)

def productionEnv (fetch : FetchSnapshot) (db : Database) : ℕ → (r : Await) → r.Reply
  | _, .activity a => ⟨1000000, [], productionResult fetch db a⟩
  | _, .waitCondition _ => ⟨1000000, [], ()⟩

lemma productionEnv_reconciles (fetch : FetchSnapshot) (db : Database) :
    Reconciles sampleDeployment.runtime (productionEnv fetch db) (fun _ => db) fun _ => fetch :=
  fun _ _ _ h => h

/-- The provider has captured what is owed on the invoice. -/
def capturedSnapshot : FetchSnapshot := fun _ _ _ =>
  some
    { provider := "razorpay"
      paymentId := some "pay_1"
      invoiceId := some "inv_1"
      subscriptionId := some "sub_1"
      paymentState := .captured
      subscriptionState := .active
      amountPaise := 49900
      currency := "INR"
      authoritative := true
      amount_nonneg := by decide }

/-- The customer reports to have paid when the case is opened. -/
def alreadyPaid : Point :=
  Worker.run { sampleHost with upper := id } 9 "recovery-case:case_1" sampleInput (start 0
    [.customerIntent { signalId := "s1", intent := "ALREADY_PAID", confidence := none }])

/-- The webhook of the payment was processed before it is signalled. -/
def paidDatabase : Database :=
  { sampleDatabase none with
    invoices := [⟨"inv_1", "merchant_1", "subscription_1", "inv_1", "cycle_1", 49900, 49900, "INR",
      "paid", none⟩]
    payments := [⟨"attempt_1", "merchant_1", "inv_1", "subscription_1", some "pay_1", 49900, "INR",
      .captured, none, none, none, none, none, 500000⟩]
    cases := [{ sampleCase "case_1" with
      caseOutcome := .recovered
      paymentState := .captured
      revenueAttribution := .razorpayTestVerified
      arrearsCollectedPaise := 49900
      caseRecovered := true
      recoveredAt := some 500000
      version := 2 }]
    recognitions := [⟨"case_1", "merchant_1", some "attempt_1", "razorpay", "evt_1", 49900,
      .razorpayTestVerified, true, false, 500000⟩] }

theorem recovered_on_snapshot : ∃ i < 8, ∃ t request k, ∃ d : ReconciliationResult,
    alreadyPaid.follow (productionEnv capturedSnapshot (sampleDatabase none)) i =
      .await t (.activity (.reconcileCase request)) k ∧
    d.caseRecovered = true ∧ request.caseId = "case_1" ∧
    Grounds request capturedSnapshot (sampleDatabase none) := by
  obtain ⟨s, a, hn, ha⟩ : ∃ s a,
      alreadyPaid.follow (productionEnv capturedSnapshot (sampleDatabase none)) 8 = .done s a ∧
        a.outcome = .recovered := ⟨_, _, rfl, rfl⟩
  obtain ⟨⟨i, hi, t, request, k, d, hk, -, hrec, -, -, hcase, -, -, hgrounds⟩, -⟩ :=
    recovered_on_grounds sampleDeployment.runtime (by decide) _ _ _ sampleInput _ _ _
      (fun _ => sampleDatabase none) (fun _ => capturedSnapshot)
      (productionEnv_reconciles _ _) 8 s a hn ha
  exact ⟨i, hi, t, request, k, d, hk, hrec, hcase, hgrounds⟩

/-- The reconciliation that a point waits for. -/
def awaitedReconciliation : Point → Option ReconciliationInput
  | .await _ (.activity (.reconcileCase request)) _ => some request
  | _ => none

lemma paidDatabase_sound : Sound paidDatabase := by
  constructor
  · constructor <;> simp [paidDatabase, sampleDatabase, sampleCase, Table.Keyed]
  · constructor <;> simp [paidDatabase, sampleDatabase, sampleCase, recognized]

theorem signalled_payment_agrees : ∃ s a,
    samplePoint.follow (productionEnv (fun _ _ _ => none) paidDatabase) 8 = .done s a ∧
    a.outcome = .recovered ∧ LedgerAgrees sampleInput a paidDatabase := by
  obtain ⟨s, a, hn, ha⟩ : ∃ s a,
      samplePoint.follow (productionEnv (fun _ _ _ => none) paidDatabase) 8 = .done s a ∧
        a.outcome = .recovered := ⟨_, _, rfl, rfl⟩
  refine ⟨s, a, hn, ha, ledger_agrees sampleDeployment (by decide) { db := paidDatabase } []
    ⟨by simp [paidDatabase, sampleDatabase, Table.Keyed],
      by simp [paidDatabase, sampleDatabase, Table.Keyed]⟩
    paidDatabase_sound sampleHost 9 "recovery-case:case_1" sampleInput 0 [capturedSignal] _
    (fun _ => 0) (fun _ _ _ _ => none) (productionEnv_reconciles _ paidDatabase)
    (fun i t request k hi _ => ?_) 8 s a hn ha 0 fun _ _ => le_refl 0⟩
  have hawaited : awaitedReconciliation
      (samplePoint.follow (productionEnv (fun _ _ _ => none) paidDatabase) i) = some request := by
    have he : samplePoint.follow (productionEnv (fun _ _ _ => none) paidDatabase) i =
        .await t (.activity (.reconcileCase request)) k := hi
    rw [he]
    rfl
  rcases Nat.lt_or_ge i 8 with hlt | hge
  · -- only the sixth await is a reconciliation
    interval_cases i
    case _ => cases hawaited
    case _ => cases hawaited
    case _ => cases hawaited
    case _ => cases hawaited
    case _ => cases hawaited
    case _ =>
      obtain rfl := Option.some.inj hawaited
      exact ⟨_, List.mem_singleton_self _, rfl, rfl, rfl, rfl⟩
    case _ => cases hawaited
    case _ => cases hawaited
  · obtain ⟨j, rfl⟩ := Nat.exists_eq_add_of_le hge
    rw [Proc.follow_add] at hawaited
    cases j <;> cases hawaited

/-- The customer has paid and says so, and no webhook was processed: the workflow returns the case
as recovered, and the database has it as open. -/
theorem reported_payment_unrecorded :
    Reconciles sampleDeployment.runtime (productionEnv capturedSnapshot (sampleDatabase none))
      (fun _ => ((sampleWorld none).after sampleDeployment [] 0).db) (fun _ => capturedSnapshot) ∧
    ∃ s a, alreadyPaid.follow (productionEnv capturedSnapshot (sampleDatabase none)) 8 =
        .done s a ∧ a.outcome = .recovered ∧
      ¬ LedgerAgrees sampleInput a ((sampleWorld none).after sampleDeployment [] 0).db := by
  refine ⟨productionEnv_reconciles _ _, _, _, rfl, rfl, ?_⟩
  rintro ⟨c, hc, -, hrec, -⟩
  obtain rfl : c = sampleCase "case_1" := List.mem_singleton.mp hc
  cases hrec

end RecoveryOS.Core
