import RecoveryOS.Core.Agreement
import RecoveryOS.Core.Lifecycle
import RecoveryOS.Worker.Accounts

/-!
# The arrears that a workflow reports

`reconcile_case` answers in three shapes: with the persisted case, if a recognition of it stands
behind the trigger; with the persisted arrears and a capture of what is still owed, if the snapshot
of the provider recovers the case; and otherwise with what the snapshot says and no arrears at all.
The workflow takes over each of them. So a partial capture that was recognized is forgotten when a
later trigger falls back to a snapshot that does not recover the case.

Where no such reconciliation finds anything collected, or turns a captured payment into another
state (`NothingToLose`), the money that a workflow reports never shrinks, and it is what the
database has collected (`money_kept`).
-/

namespace RecoveryOS.Core

open Store Worker Webhook Resume

/-! ## What was collected stays collected -/

/-- Every recognition is of an amount, and its case is captured. -/
structure Booked (db : Database) : Prop where
  positive : ∀ r ∈ db.recognitions, 0 < r.amountPaise
  captured : ∀ r ∈ db.recognitions, ∀ c ∈ db.cases, c.id = r.caseId → c.paymentState = .captured

/-- The cases stay, with at least what was collected of them, and the books stay in shape. -/
structure Accrues (db db' : Database) : Prop where
  cases : ∀ c ∈ db.cases, ∃ c' ∈ db'.cases, c'.id = c.id ∧
    c.arrearsCollectedPaise ≤ c'.arrearsCollectedPaise
  booked : Booked db → Booked db'

section
variable {db db' : Database}

lemma CaseMove.stays_captured {c c' : RecoveryCase} (h : CaseMove c c')
    (hc : c.paymentState = .captured) : c'.paymentState = .captured := by
  cases h with
  | noted h => exact h.captured hc
  | captured amount h => exact h.captured
  | marked h => rw [h]; exact hc
  | closed h => exact h.payment.trans hc

/-- The case of a recognition that stands already. -/
lemma Booked.captured_effect {W : Scope} (hb : Booked db) (hs : Sound db) (h : EffectOf W db db')
    {r : RevenueRecognitionRecord} (hr : r ∈ db.recognitions) {c : RecoveryCase}
    (hc : c ∈ db'.cases) (hid : c.id = r.caseId) : c.paymentState = .captured := by
  rcases h.cases with hmoved | ⟨new, -, hins⟩
  · obtain ⟨c₀, hc₀, hm⟩ := hmoved.moved c hc
    exact hm.stays_captured (hb.captured r hr c₀ hc₀ (hm.same.id.symm.trans hid))
  · obtain ⟨hnew, -, hcases⟩ := insertCase_tables hins
    rw [hcases] at hc
    rcases List.mem_append.mp hc with hc | hc
    · exact hb.captured r hr c hc hid
    · -- a new case has no recognition yet
      obtain ⟨x, hx, hxr⟩ := hs.constrained.recognition_case r hr
      rw [List.mem_singleton.mp hc] at hid
      exact absurd (hxr.trans hid.symm) (hnew x hx).1

lemma Booked.effect {W : Scope} (hb : Booked db) (hs : Sound db) (h : EffectOf W db db') :
    Booked db' := by
  have hold : ∀ r ∈ db.recognitions, ∀ c ∈ db'.cases, c.id = r.caseId →
      c.paymentState = .captured := fun r hr c hc hid => hb.captured_effect hs h hr hc hid
  rcases h.recognitions with hsame | ⟨r, c, c', i, i', db₁, t, hins, hrec, rfl⟩
  · refine ⟨?_, ?_⟩
    · rw [hsame]
      exact hb.positive
    · rw [hsame]
      exact hold
  · obtain ⟨hpos, rfl⟩ := insertRecognition_spec hins
    refine ⟨fun s hsr => ?_, fun s hsr x hx hxs => ?_⟩
    · rw [(settle_ledger _ _ t).2.2] at hsr
      rcases List.mem_append.mp hsr with hsr | hsr
      · exact hb.positive s hsr
      · rw [List.mem_singleton.mp hsr]
        exact hpos
    · rw [(settle_ledger _ _ t).2.2] at hsr
      rcases List.mem_append.mp hsr with hsr | hsr
      · exact hold s hsr x hx hxs
      · rw [List.mem_singleton.mp hsr] at hxs
        rw [cases_settle] at hx
        rcases Table.mem_put hx with rfl | ⟨-, hne⟩
        · exact hrec.captured.captured
        · exact absurd (hxs.trans (hrec.caseId.trans hrec.captured.id.symm)) hne

theorem accrues_led : Led Accrues where
  trans h h' := by
    refine ⟨fun c hc => ?_, fun hb => h'.booked (h.booked hb)⟩
    obtain ⟨c', hc', hid, hle⟩ := h.cases c hc
    obtain ⟨c'', hc'', hid', hle'⟩ := h'.cases c' hc'
    exact ⟨c'', hc'', hid'.trans hid, hle.trans hle'⟩
  same hc hr := by
    refine ⟨fun c hc' => ⟨c, hc ▸ hc', rfl, le_rfl⟩, fun hb => ⟨?_, ?_⟩⟩
    · rw [hr]
      exact hb.positive
    · rw [hr, hc]
      exact hb.captured
  effect hs he := by
    refine ⟨fun c hc => ?_, fun hb => hb.effect hs he⟩
    obtain ⟨c', hc', hg⟩ := (EffectOf.kept he hs).cases c hc
    exact ⟨c', hc', hg.id, hg.collected⟩

lemma Booked.nonneg (hb : Booked db) (hs : Sound db) {c : RecoveryCase} (hc : c ∈ db.cases) :
    0 ≤ c.arrearsCollectedPaise := by
  rw [← hs.balanced.collected c hc]
  refine List.sum_nonneg fun x hx => ?_
  obtain ⟨r, hr, rfl⟩ := List.mem_map.mp hx
  exact (hb.positive r (List.mem_filter.mp hr).1).le

/-! ## What a reconciliation reports -/

/-- A reconciliation that falls back to a snapshot of the provider which is authoritative and does
not recover the case: nothing was collected of the case yet, and a payment that the workflow has as
captured is so in the snapshot. -/
def NothingToLose (fetch : FetchSnapshot) (request : ReconciliationInput) (db : Database)
    (s : Workflow) : Prop :=
  ∀ scope paymentId snapshot, reconciliationScope request db = some scope →
    latestRecognition request scope db = none →
    readTrigger request scope db = .payment paymentId →
    fetch request.merchantId paymentId scope.invoice.providerInvoiceId = some snapshot →
    snapshot.authoritative = true → snapshotRecovers scope paymentId snapshot = false →
    scope.recoveryCase.arrearsCollectedPaise = 0 ∧
      (s.paymentState = "CAPTURED" → snapshot.paymentState = .captured)

/-- The reconciliation recovers a case that the database does not have as recovered. -/
def NewlyRecovers (request : ReconciliationInput) (r : ReconciliationResult) (db : Database) :
    Prop :=
  r.caseRecovered = true ∧ ¬ PersistedRecovered request db

/-- What an authoritative reconciliation reports, next to the persisted case. -/
structure Reports (request : ReconciliationInput) (db : Database) (s : Workflow)
    (r : ReconciliationResult) (c : RecoveryCase) : Prop where
  mem : c ∈ db.cases
  caseId : c.id = request.caseId
  arrears : c.arrearsCollectedPaise ≤ r.arrearsCollectedPaise
  persisted : ¬ NewlyRecovers request r db → r.arrearsCollectedPaise = c.arrearsCollectedPaise
  captured : s.paymentState = "CAPTURED" → r.paymentState = "CAPTURED"

theorem reconcileCase_reports {rt : Runtime} (hrt : rt.provider ≠ .mock) {fetch : FetchSnapshot}
    {request : ReconciliationInput} {s : Workflow} {r : ReconciliationResult} (hs : Sound db)
    (hb : Booked db) (hn : NothingToLose fetch request db s)
    (h : reconcileCase rt fetch request db = some r) (hauth : r.authoritative = true) :
    ∃ c, Reports request db s r c := by
  unfold reconcileCase at h
  rw [if_neg hrt] at h
  cases hscope : reconciliationScope request db with
  | none =>
    simp only [hscope, Option.some.injEq] at h
    rw [← h] at hauth
    cases hauth
  | some scope =>
    have hin := inScope_of_reconciliationScope hscope
    refine ⟨scope.recoveryCase, ?_⟩
    simp only [hscope] at h
    cases hrow : latestRecognition request scope db with
    | some row =>
      obtain ⟨rec, payment⟩ := row
      obtain ⟨hrec, -, hv⟩ := latestRecognition_spec hrow
      have hcap := hb.captured rec hrec _ hin.mem_cases hv.caseId.symm
      simp only [hrow, Option.some.injEq] at h
      subst h
      refine ⟨hin.mem_cases, hin.caseId, le_rfl, fun _ => rfl, fun _ => ?_⟩
      show scope.recoveryCase.paymentState.value = "CAPTURED"
      rw [hcap]
      rfl
    | none =>
      simp only [hrow] at h
      cases htrigger : readTrigger request scope db with
      | untrusted =>
        simp only [htrigger, Option.some.injEq] at h
        rw [← h] at hauth
        cases hauth
      | raised => simp [htrigger] at h
      | payment paymentId =>
        simp only [htrigger, Option.map_eq_some_iff] at h
        obtain ⟨snapshot, hfetch, rfl⟩ := h
        have hsnapshot : snapshot.authoritative = true := hauth
        cases hrecovers : snapshotRecovers scope paymentId snapshot with
        | false =>
          obtain ⟨hzero, hcap⟩ :=
            hn scope paymentId snapshot hscope hrow htrigger hfetch hsnapshot hrecovers
          have harrears : (snapshotResult scope paymentId snapshot).arrearsCollectedPaise = 0 := by
            simp [snapshotResult, hrecovers]
          refine ⟨hin.mem_cases, hin.caseId, by rw [harrears, hzero], fun _ => ?_, fun hc => ?_⟩
          · rw [harrears, hzero]
          · show snapshot.paymentState.value = "CAPTURED"
            rw [hcap hc]
            rfl
        | true =>
          have hr := hrecovers
          simp only [snapshotRecovers, Bool.and_eq_true, decide_eq_true_eq] at hr
          obtain ⟨⟨⟨⟨⟨⟨⟨-, hstate⟩, -⟩, -⟩, -⟩, -⟩, hpos⟩, -⟩ := hr
          have harrears : (snapshotResult scope paymentId snapshot).arrearsCollectedPaise =
              scope.recoveryCase.arrearsCollectedPaise + snapshot.amountPaise := by
            simp [snapshotResult, hrecovers]
          refine ⟨hin.mem_cases, hin.caseId, ?_, fun hnew => absurd ⟨hrecovers, ?_⟩ hnew,
            fun _ => ?_⟩
          · have := snapshot.amount_nonneg
            rw [harrears]
            omega
          · show snapshot.paymentState.value = "CAPTURED"
            rw [hstate]
            rfl
          · -- a recovered case owes nothing, and no snapshot recovers it
            rintro ⟨c, hc, hid, -, -, hcrec⟩
            have hsame : scope.recoveryCase = c :=
              hs.constrained.cases_keyed.eq hin.mem_cases hc (hin.caseId.trans hid.symm)
            have hle := (hs.balanced.recovered_iff c hc).mp hcrec
            rw [hsame] at hpos
            unfold requiredArrears at hpos
            omega

end

/-! ## Along a run -/

/-- The money that a run reports never shrinks, a captured payment stays captured, and the arrears
are those persisted after each authoritative reconciliation that does not itself recover the case. -/
structure MoneyKept (p : Point) (env : ℕ → (r : Await) → r.Reply) (caseId : String)
    (db : ℕ → Database) : Prop where
  arrears : ∀ i j, i ≤ j → (p.follow env i).state.arrearsCollectedPaise ≤
    (p.follow env j).state.arrearsCollectedPaise
  captured : ∀ i j, i ≤ j → (p.follow env i).state.paymentState = "CAPTURED" →
    (p.follow env j).state.paymentState = "CAPTURED"
  persisted : ∀ i t request k (r : ReconciliationResult),
    p.follow env i = .await t (.activity (.reconcileCase request)) k →
    (env i (.activity (.reconcileCase request))).result = some r → r.authoritative = true →
    ¬ NewlyRecovers request r (db i) →
    ∃ c ∈ (db i).cases, c.id = caseId ∧
      (p.follow env (i + 1)).state.arrearsCollectedPaise = c.arrearsCollectedPaise

/-- A reconciliation of a run is of its own case, and none before it has recovered that case. -/
lemma reconciliation_awaited {host : Host} {rounds : ℕ} {workflowId : String}
    {command : RecoveryWorkflowInput} {now : Instant} {arrivals : List QueuedSignal}
    {env : ℕ → (r : Await) → r.Reply} {i : ℕ} {t : Workflow} {request : ReconciliationInput}
    {k : Await.Reply (.activity (.reconcileCase request)) → Point}
    (hi : (Worker.run host rounds workflowId command (start now arrivals)).follow env i =
      .await t (.activity (.reconcileCase request)) k) :
    request.caseId = command.caseId ∧ ∀ j < i, ∀ t' r' k',
      (Worker.run host rounds workflowId command (start now arrivals)).follow env j =
        .await t' r' k' → ¬ Decides r' (env j r') := by
  -- had the reconciliation decided, the run would have gone on to close its case
  let x : Await.Reply (.activity (.reconcileCase request)) :=
    ⟨now, [], some { unreconciledCase with caseRecovered := true, authoritative := true }⟩
  have hx : Decides (.activity (.reconcileCase request)) x := by
    rw [Decides, decision_reconcileCase.mpr ⟨rfl, rfl, rfl⟩]
    rfl
  obtain ⟨hends, hbefore⟩ := (run_watch host rounds workflowId command
    (start_underway command now arrivals)).undecided i env hi x hx
  let allowed : PolicyResult :=
    { disposition := "ALLOW", decisionCode := "ALLOWED", action := "STOP",
      paymentSurfaceType := none }
  obtain ⟨s, a, hclosed, -⟩ := hends.exists_end fun r => by
    cases r with
    | activity a => exact ⟨⟨now, [], some (wellResult allowed a)⟩, rfl⟩
    | waitCondition timeout => exact ⟨⟨now, [], ()⟩, trivial⟩
  exact ⟨hclosed.scope.1, hbefore⟩

/-- A run of a workflow next to the databases that its reconciliations read. -/
structure Alongside (rt : Runtime) (p : Point) (env : ℕ → (r : Await) → r.Reply) (caseId : String)
    (db : ℕ → Database) (fetch : ℕ → FetchSnapshot) : Prop where
  sound : ∀ i, Sound (db i)
  booked : ∀ i, Booked (db i)
  accrues : ∀ i, Accrues (db i) (db (i + 1))
  reconciles : Reconciles rt env db fetch
  moves : p.Moves Accounted
  nothing : (p.follow env 0).state.arrearsCollectedPaise = 0
  awaited : ∀ i t request k, p.follow env i = .await t (.activity (.reconcileCase request)) k →
    request.caseId = caseId ∧
      ∀ j < i, ∀ t' r' k', p.follow env j = .await t' r' k' → ¬ Decides r' (env j r')
  harmless : ∀ i t request k, p.follow env i = .await t (.activity (.reconcileCase request)) k →
    NothingToLose (fetch i) request (db i) t

namespace Alongside
variable {rt : Runtime} {p : Point} {env : ℕ → (r : Await) → r.Reply} {caseId : String}
  {db : ℕ → Database} {fetch : ℕ → FetchSnapshot} (h : Alongside rt p env caseId db fetch)
  (hrt : rt.provider ≠ .mock)
include h

/-- A reply reports what a reconciliation found, or leaves the money alone. -/
lemma reply_cases (i : ℕ) :
    (∃ t request k, ∃ r : ReconciliationResult,
      p.follow env i = .await t (.activity (.reconcileCase request)) k ∧
      (env i (.activity (.reconcileCase request))).result = some r ∧ r.authoritative = true) ∨
    ((p.follow env (i + 1)).state.arrearsCollectedPaise =
        (p.follow env i).state.arrearsCollectedPaise ∧
      ((p.follow env i).state.paymentState = "CAPTURED" →
        (p.follow env (i + 1)).state.paymentState = "CAPTURED")) := by
  by_cases hwait : ∃ t r k, p.follow env i = .await t r k
  · obtain ⟨t, r, k, hi⟩ := hwait
    have hacc := h.moves.reply hi
    cases hrep : reported r (env i r) with
    | none =>
      rw [hi]
      exact .inr (hacc.unreported hrep)
    | some d =>
      cases r with
      | waitCondition timeout => cases hrep
      | activity a =>
        cases a with
        | reconcileCase request =>
          obtain ⟨hres, hauth⟩ := reported_reconcileCase.mp hrep
          exact .inl ⟨t, request, k, d, hi, hres, hauth⟩
        | _ => cases hrep
  · rw [Proc.follow_stopped fun t r k hi => hwait ⟨t, r, k, hi⟩]
    exact .inr ⟨rfl, id⟩

include hrt

/-- What the workflow has after an authoritative reconciliation. -/
lemma reports {i : ℕ} {t : Workflow} {request : ReconciliationInput}
    {k : Await.Reply (.activity (.reconcileCase request)) → Point} {r : ReconciliationResult}
    (hi : p.follow env i = .await t (.activity (.reconcileCase request)) k)
    (hres : (env i (.activity (.reconcileCase request))).result = some r)
    (hauth : r.authoritative = true) :
    (∃ c, Reports request (db i) t r c) ∧
      (p.follow env (i + 1)).state.arrearsCollectedPaise = r.arrearsCollectedPaise ∧
      ((p.follow env (i + 1)).state.paymentState = r.paymentState ∨
        (p.follow env (i + 1)).state.paymentState = "CAPTURED") :=
  ⟨reconcileCase_reports hrt (h.sound i) (h.booked i) (h.harmless i t request k hi)
      (h.reconciles i request r hres) hauth,
    (h.moves.reply hi).reported r (reported_reconcileCase.mpr ⟨hres, hauth⟩)⟩

/-- Until a reconciliation recovers the case, the database has collected what the workflow has. -/
theorem covered (i : ℕ) :
    (∀ j < i, ∀ t r k, p.follow env j = .await t r k → ¬ Decides r (env j r)) →
    (p.follow env i).state.arrearsCollectedPaise = 0 ∨ ∃ c ∈ (db i).cases, c.id = caseId ∧
      (p.follow env i).state.arrearsCollectedPaise ≤ c.arrearsCollectedPaise := by
  induction i with
  | zero => exact fun _ => .inl h.nothing
  | succ i ih =>
    intro hno
    rcases h.reply_cases i with ⟨t, request, k, r, hi, hres, hauth⟩ | ⟨hsame, -⟩
    · obtain ⟨⟨c, hc⟩, harrears, -⟩ := h.reports hrt hi hres hauth
      have hrec : r.caseRecovered = false := by
        by_contra hne
        refine hno i (Nat.lt_succ_self i) t _ k hi ?_
        rw [Decides, decision_reconcileCase.mpr ⟨hres, Bool.of_not_eq_false hne, hauth⟩]
        rfl
      have hkept := hc.persisted fun hnew => by
        rw [hnew.1] at hrec
        cases hrec
      obtain ⟨c', hc', hid, hle⟩ := (h.accrues i).cases c hc.mem
      refine .inr ⟨c', hc', hid.trans (hc.caseId.trans (h.awaited i t request k hi).1), ?_⟩
      rw [harrears, hkept]
      exact hle
    · rw [hsame]
      rcases ih fun j hj => hno j (hj.trans (Nat.lt_succ_self i)) with hz | ⟨c, hc, hid, hle⟩
      · exact .inl hz
      · obtain ⟨c', hc', hid', hle'⟩ := (h.accrues i).cases c hc
        exact .inr ⟨c', hc', hid'.trans hid, hle.trans hle'⟩

/-- One reply takes no money back. -/
theorem step (i : ℕ) :
    (p.follow env i).state.arrearsCollectedPaise ≤
        (p.follow env (i + 1)).state.arrearsCollectedPaise ∧
      ((p.follow env i).state.paymentState = "CAPTURED" →
        (p.follow env (i + 1)).state.paymentState = "CAPTURED") := by
  rcases h.reply_cases i with ⟨t, request, k, r, hi, hres, hauth⟩ | ⟨hsame, hcap⟩
  · obtain ⟨⟨c, hc⟩, harrears, hpay⟩ := h.reports hrt hi hres hauth
    obtain ⟨hcase, hno⟩ := h.awaited i t request k hi
    refine ⟨?_, fun hs => ?_⟩
    · rw [harrears]
      refine le_trans ?_ hc.arrears
      rcases h.covered hrt i hno with hz | ⟨c', hc', hid, hle⟩
      · rw [hz]
        exact (h.booked i).nonneg (h.sound i) hc.mem
      · have hsame : c' = c :=
          (h.sound i).constrained.cases_keyed.eq hc' hc.mem (hid.trans (hc.caseId.trans hcase).symm)
        rw [← hsame]
        exact hle
    · rw [hi] at hs
      rcases hpay with hp | hp
      · rw [hp]
        exact hc.captured hs
      · exact hp
  · exact ⟨hsame.ge, hcap⟩

theorem moneyKept : MoneyKept p env caseId db where
  arrears i j hij := monotone_nat_of_le_succ (fun n => (h.step hrt n).1) hij
  captured i j hij hs := by
    induction j, hij using Nat.le_induction with
    | base => exact hs
    | succ j _ ih => exact (h.step hrt j).2 ih
  persisted i t request k r hi hres hauth hnew := by
    obtain ⟨⟨c, hc⟩, harrears, -⟩ := h.reports hrt hi hres hauth
    exact ⟨c, hc.mem, hc.caseId.trans (h.awaited i t request k hi).1,
      harrears.trans (hc.persisted hnew)⟩

end Alongside

/-- Where no reconciliation of a run falls back to a snapshot that would take money back, the money
that the workflow reports never shrinks, whatever the service does meanwhile. -/
theorem money_kept (d : Deployment) (hd : d.runtime.provider ≠ .mock) (w : World) (ops : List Op)
    (hk : Keys w.db) (hs : Sound w.db) (hb : Booked w.db) (host : Host) (rounds : ℕ)
    (workflowId : String) (command : RecoveryWorkflowInput) (now : Instant)
    (arrivals : List QueuedSignal) (env : ℕ → (r : Await) → r.Reply) (moment : ℕ → ℕ)
    (hm : Monotone moment) (fetch : ℕ → FetchSnapshot)
    (henv : Reconciles d.runtime env (fun i => (w.after d ops (moment i)).db) fetch)
    (hlose : ∀ i t request k,
      (Worker.run host rounds workflowId command (start now arrivals)).follow env i =
        .await t (.activity (.reconcileCase request)) k →
      NothingToLose (fetch i) request (w.after d ops (moment i)).db t) :
    MoneyKept (Worker.run host rounds workflowId command (start now arrivals)) env command.caseId
      fun i => (w.after d ops (moment i)).db := by
  have horder : InOrder w.db := ⟨hk, hs⟩
  have hafter : ∀ m, InOrder (w.after d ops m).db ∧ Accrues w.db (w.after d ops m).db := by
    intro m
    have h0 := accrues_led.after (d := d) horder ops 0 m
    rw [Nat.zero_add] at h0
    exact h0
  have hstart : (start now arrivals).paymentState = "FAILED" ∧
      (start now arrivals).arrearsCollectedPaise = 0 :=
    have hb := Bystander.resume ({ now } : Workflow) now arrivals
    ⟨hb.paymentState, hb.arrears⟩
  suffices h : Alongside d.runtime (Worker.run host rounds workflowId command (start now arrivals))
      env command.caseId (fun i => (w.after d ops (moment i)).db) fetch from h.moneyKept hd
  refine
    { sound := fun i => (hafter _).1.sound
      booked := fun i => (hafter _).2.booked hb
      accrues := fun i => ?_
      reconciles := henv
      moves := run_accounts host rounds workflowId command hstart.1
      nothing := ?_
      awaited := fun i t request k hi => reconciliation_awaited hi
      harmless := hlose }
  · obtain ⟨m, hm'⟩ := Nat.exists_eq_add_of_le (hm (Nat.le_succ i))
    have h1 := (accrues_led.after (d := d) horder ops (moment i) m).2
    rw [← hm'] at h1
    exact h1
  · rw [Proc.follow_zero, run_begins]
    exact hstart.2

/-! ## A customer who paid in full, and one who paid in part -/

/-- The webhook of a payment of 20000 paise was processed. -/
def partlyPaidDatabase : Database :=
  { paidDatabase with
    invoices := [⟨"inv_1", "merchant_1", "subscription_1", "inv_1", "cycle_1", 49900, 20000, "INR",
      "partially_paid", none⟩]
    payments := [⟨"attempt_1", "merchant_1", "inv_1", "subscription_1", some "pay_1", 20000, "INR",
      .captured, none, none, none, none, none, 500000⟩]
    cases := [{ sampleCase "case_1" with
      paymentState := .captured
      revenueAttribution := .razorpayTestVerified
      arrearsCollectedPaise := 20000
      version := 2 }]
    recognitions := [⟨"case_1", "merchant_1", some "attempt_1", "razorpay", "evt_1", 20000,
      .razorpayTestVerified, true, false, 500000⟩] }

lemma partialAmount_nonneg : (0 : ℤ) ≤ 20000 := by norm_num

/-- The provider knows of that payment, and of nothing else. -/
def partialSnapshot : FetchSnapshot := fun _ _ _ =>
  some
    { provider := "razorpay"
      paymentId := some "pay_1"
      invoiceId := some "inv_1"
      subscriptionId := some "sub_1"
      paymentState := .captured
      subscriptionState := .pending
      amountPaise := 20000
      currency := "INR"
      authoritative := true
      amount_nonneg := partialAmount_nonneg }

/-- The payment is signalled, and then the customer reports to have paid. -/
def partlyPaid : Point :=
  Worker.run { sampleHost with upper := id } 9 "recovery-case:case_1" sampleInput (start 0
    [capturedSignal,
      .customerIntent { signalId := "s2", intent := "ALREADY_PAID", confidence := none }])

lemma paidDatabase_keys : Keys paidDatabase :=
  ⟨by simp [paidDatabase, sampleDatabase, Table.Keyed],
    by simp [paidDatabase, sampleDatabase, Table.Keyed]⟩

theorem signalled_money_kept :
    MoneyKept samplePoint (productionEnv (fun _ _ _ => none) paidDatabase) "case_1"
      fun _ => paidDatabase :=
  money_kept sampleDeployment (by decide) { db := paidDatabase } [] paidDatabase_keys
    paidDatabase_sound ⟨by simp [paidDatabase], by simp [paidDatabase]⟩ sampleHost 9
    "recovery-case:case_1" sampleInput 0 [capturedSignal] _ (fun _ => 0) monotone_const
    (fun _ _ _ _ => none) (productionEnv_reconciles _ paidDatabase)
    fun _ _ _ _ _ _ _ _ _ _ _ hfetch => by cases hfetch

lemma partlyPaidDatabase_sound : Sound partlyPaidDatabase := by
  constructor
  · constructor <;> simp [partlyPaidDatabase, paidDatabase, sampleDatabase, sampleCase, Table.Keyed]
  · constructor <;> simp [partlyPaidDatabase, paidDatabase, sampleDatabase, sampleCase, recognized]

/-- The arrears of a payment in part are gone once the customer reports to have paid. -/
theorem reported_arrears_lost :
    Sound partlyPaidDatabase ∧ Booked partlyPaidDatabase ∧
    Reconciles sampleDeployment.runtime (productionEnv partialSnapshot partlyPaidDatabase)
      (fun _ => partlyPaidDatabase) (fun _ => partialSnapshot) ∧
    ¬ MoneyKept partlyPaid (productionEnv partialSnapshot partlyPaidDatabase) "case_1"
      fun _ => partlyPaidDatabase := by
  refine ⟨partlyPaidDatabase_sound, ⟨by simp [partlyPaidDatabase], by simp [partlyPaidDatabase]⟩,
    productionEnv_reconciles _ _, fun h => ?_⟩
  have hlost := h.arrears 6 9 (by omega)
  exact absurd hlost (by decide +kernel)

end RecoveryOS.Core
