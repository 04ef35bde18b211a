import RecoveryOS.Worker.Bystander

/-!
# The money that a workflow reports

The workflow takes its collected arrears and its payment state from the last authoritative
reconciliation, whatever that says, and from nowhere else: between two replies the arrears stay, and
a captured payment stays captured (`run_accounts`). The payment state is written in two more places,
by the first activity of a run and when a recovered case is finished.
-/

namespace RecoveryOS.Worker

open Resume

/-- The reconciliation that a reply carries, if it is authoritative. -/
def reported : (r : Await) → r.Reply → Option ReconciliationResult
  | .activity (.reconcileCase _), x =>
    Option.filter (fun r : ReconciliationResult => r.authoritative) x.result
  | _, _ => none

lemma reported_reconcileCase {request : ReconciliationInput}
    {x : Await.Reply (.activity (.reconcileCase request))} {d : ReconciliationResult} :
    reported (.activity (.reconcileCase request)) x = some d ↔
      x.result = some d ∧ d.authoritative = true := by
  have h : ∀ o : Option ReconciliationResult,
      o.filter (fun r => r.authoritative) = some d ↔ o = some d ∧ d.authoritative = true :=
    fun o => Option.filter_eq_some_iff
  exact h x.result

/-- The arrears stay, and so does the payment state unless it becomes captured. -/
structure Saved (s s' : Workflow) : Prop where
  arrears : s'.arrearsCollectedPaise = s.arrearsCollectedPaise
  paymentState : s'.paymentState = s.paymentState ∨ s'.paymentState = "CAPTURED"

/-- What a reply does to the money of the workflow. -/
structure Accounted (r : Await) (x : r.Reply) (s s' : Workflow) : Prop where
  reported : ∀ d ∈ reported r x, s'.arrearsCollectedPaise = d.arrearsCollectedPaise ∧
    (s'.paymentState = d.paymentState ∨ s'.paymentState = "CAPTURED")
  unreported : Worker.reported r x = none → s'.arrearsCollectedPaise = s.arrearsCollectedPaise ∧
    (s.paymentState = "CAPTURED" → s'.paymentState = "CAPTURED")

instance : Std.Refl Saved where
  refl _ := ⟨rfl, .inl rfl⟩

instance : IsTrans Workflow Saved where
  trans _ _ _ h h' := by
    refine ⟨h'.arrears.trans h.arrears, ?_⟩
    rcases h'.paymentState with hp | hp
    · rw [hp]
      exact h.paymentState
    · exact .inr hp

lemma Saved.captured {s s' : Workflow} (h : Saved s s') (hs : s.paymentState = "CAPTURED") :
    s'.paymentState = "CAPTURED" := by
  rcases h.paymentState with hp | hp
  · rw [hp, hs]
  · exact hp

lemma Bystander.saved {s s' : Workflow} (h : Bystander s s') : Saved s s' :=
  ⟨h.arrears, .inl h.paymentState⟩

lemma accounted_absorbs : Absorbs Accounted Saved := by
  intro r x s s' s'' h hq
  refine ⟨fun d hd => ?_, fun hn => ?_⟩
  · obtain ⟨ha, hp⟩ := h.reported d hd
    refine ⟨hq.arrears.trans ha, ?_⟩
    rcases hp with hp | hp
    · rw [← hp]
      exact hq.paymentState
    · exact .inr (hq.captured hp)
  · obtain ⟨ha, hp⟩ := h.unreported hn
    exact ⟨hq.arrears.trans ha, fun hs => hq.captured (hp hs)⟩

/-- Where nothing is reported, saved steps account for the money. -/
lemma Saved.accounted {r : Await} {x : r.Reply} {s s' : Workflow} (h : Saved s s')
    (hn : reported r x = none) : Accounted r x s s' := by
  refine ⟨fun d hd => ?_, fun _ => ⟨h.arrears, h.captured⟩⟩
  rw [hn] at hd
  cases hd

lemma reported_aside {r : Await} (h : r.aside) (x : r.Reply) : reported r x = none := by
  cases r with
  | waitCondition timeout => rfl
  | activity a =>
    cases a with
    | reconcileCase request => simp [Await.aside, Activity.reconciles] at h
    | _ => rfl

/-- Code that accounts for the money at every reply. -/
abbrev Accounting {α : Type} (c : Wf α) : Prop := Moving Saved Accounted c

section
variable {α β : Type} {c : Wf α} {f : α → Wf β}

lemma accounting_bind (hc : Accounting c) (hf : ∀ a, Accounting (f a)) : Accounting (c >>= f) :=
  .bind accounted_absorbs hc hf

lemma Idle.accounting (h : Idle c) : Accounting c := by
  refine h.moving (fun s s' hs => hs.saved) fun s r x t t' hr ht ht' => ?_
  have hsaved : Saved t t' :=
    ⟨ht'.arrears.trans ht.arrears.symm, .inl (ht'.paymentState.trans ht.paymentState.symm)⟩
  exact hsaved.accounted (reported_aside hr x)

/-- Code before which the fields of the money are not touched. -/
lemma accounting_modify {g : Workflow → Workflow}
    (ha : ∀ s, (g s).arrearsCollectedPaise = s.arrearsCollectedPaise)
    (hp : ∀ s, (g s).paymentState = s.paymentState) : Accounting (Code.modify g : Wf Unit) :=
  .modify fun s => ⟨ha s, .inl (hp s)⟩

end

/-! ## The handlers -/

/-- A reconciliation, whose result is taken over at once. -/
lemma reconcile_accounting {request : ReconciliationInput} {f : ReconciliationResult → Wf Unit}
    (hf : ∀ r, Accounting (f r)) :
    Accounting (activity (.reconcileCase request) >>= fun r =>
      Code.modify (·.applyReconciliation r) >>= fun _ => f r) := by
  refine ⟨fun s => ⟨rfl, .inl rfl⟩, fun s x => ?_⟩
  set t := (s.record (.requested (.reconcileCase request))).resume x.now x.arrivals with ht
  have hsaved : Saved (s.record (.requested (.reconcileCase request))) t :=
    (Bystander.resume _ x.now x.arrivals).saved
  have hnone : (∀ d : ReconciliationResult, x.result = some d → d.authoritative = false) →
      reported (.activity (.reconcileCase request)) x = none := by
    intro hall
    refine Option.eq_none_iff_forall_ne_some.mpr fun d hd => ?_
    obtain ⟨hres, hauth⟩ := reported_reconcileCase.mp hd
    rw [hall d hres] at hauth
    cases hauth
  cases hres : x.result with
  | none =>
    simp only [hres, Proc.bind, Proc.state, Proc.Moves, and_true]
    exact hsaved.accounted (hnone (by simp [hres]))
  | some d =>
    simp only [hres, Proc.bind, Code.bind_apply, Code.modify_apply, ← ht]
    refine ⟨accounted_absorbs _ _ _ _ _ ?_ ((hf d).silent (t.applyReconciliation d)),
      (hf d).moves _⟩
    cases hd : d.authoritative with
    | true =>
      have hsome := reported_reconcileCase.mpr ⟨hres, hd⟩
      refine ⟨fun d' hd' => ?_, fun hn => ?_⟩
      · obtain rfl : d = d' := Option.some.inj (hsome.symm.trans hd')
        simp [Workflow.applyReconciliation, hd]
      · rw [hsome] at hn
        cases hn
    | false =>
      have happly : t.applyReconciliation d = t := by simp [Workflow.applyReconciliation, hd]
      rw [happly]
      refine hsaved.accounted (hnone fun d' hd' => ?_)
      obtain rfl : d = d' := Option.some.inj (hres.symm.trans hd')
      exact hd

lemma recoverIfAuthoritative_accounting (r : ReconciliationResult) (reason : String) :
    Accounting (recoverIfAuthoritative r reason) := by
  unfold recoverIfAuthoritative
  split_ifs
  · refine accounting_bind (sendA2aReceiptIfApplicable_idle r).accounting fun _ => ?_
    refine accounting_bind (cancelActiveAction_idle _).accounting fun _ => ?_
    exact .modify fun s => ⟨rfl, .inr rfl⟩
  · exact .pure _

lemma handlePayment_accounting (sig : PaymentEventSignal) : Accounting (handlePayment sig) := by
  refine accounting_bind requireInput_idle.accounting fun command => ?_
  refine reconcile_accounting fun r => ?_
  exact accounting_bind (audit_idle _ _ _).accounting fun _ =>
    recoverIfAuthoritative_accounting r _

lemma suppressOutreach_accounting (signalId disposition : String) :
    Accounting (suppressOutreach signalId disposition) := by
  refine accounting_bind (accounting_modify (fun _ => rfl) fun _ => rfl) fun _ => ?_
  refine accounting_bind (cancelActiveAction_idle _).accounting fun _ => ?_
  refine accounting_bind (audit_idle _ _ _).accounting fun _ => ?_
  exact accounting_modify (fun _ => rfl) fun _ => rfl

lemma handleCustomerIntent_accounting (host : Host) (sig : CustomerIntentSignal) :
    Accounting (handleCustomerIntent host sig) := by
  refine accounting_bind (accounting_modify (fun _ => rfl) fun _ => rfl) fun _ => ?_
  refine accounting_bind (audit_idle _ _ _).accounting fun _ => ?_
  split_ifs
  · exact suppressOutreach_accounting _ _
  · exact accounting_bind (cancelActiveAction_idle _).accounting fun _ =>
      (finish_idle (by decide) _).accounting
  · refine accounting_bind requireInput_idle.accounting fun command => ?_
    exact reconcile_accounting fun r => recoverIfAuthoritative_accounting r _
  · exact .pure _

lemma handleOptOut_accounting (sig : OptOutSignal) : Accounting (handleOptOut sig) := by
  refine accounting_bind (accounting_modify (fun _ => rfl) fun _ => rfl) fun _ => ?_
  refine accounting_bind (audit_idle _ _ _).accounting fun _ => ?_
  exact suppressOutreach_accounting _ _

theorem handle_accounting (host : Host) : ∀ sig, Accounting (handle host sig)
  | .approval sig => (handleApproval_idle sig).accounting
  | .paymentEvent sig => handlePayment_accounting sig
  | .customerIntent sig => handleCustomerIntent_accounting host sig
  | .optOut sig => handleOptOut_accounting sig
  | .cancellation sig => (handleCancellation_idle sig).accounting
  | .operatorEscalation sig => (handleOperatorEscalation_idle sig).accounting
  | .a2aUpdate sig => (handleA2aUpdate_idle sig).accounting
  | .mandate sig => (handleMandate_idle sig).accounting

/-! ## The waits -/

lemma drainOne_accounting (host : Host) : Accounting (drainOne host) := by
  refine accounting_bind .read fun s => ?_
  split
  · exact .pure _
  · exact accounting_bind (accounting_modify (fun _ => rfl) fun _ => rfl) fun _ =>
      handle_accounting host _

lemma drainSignals_accounting (host : Host) (rounds : ℕ) :
    Accounting (drainSignals host rounds) :=
  .loop accounted_absorbs _ (accounting_bind (drainOne_accounting host) fun _ => .pure _) rounds

lemma waitForApprovalOrTerminal_accounting (host : Host) (rounds : ℕ) :
    Accounting (waitForApprovalOrTerminal host rounds) := by
  refine .loop accounted_absorbs _ (accounting_bind ?_ fun _ => .pure _) rounds
  refine accounting_bind waitForSignalOrDeadline_idle.accounting fun _ => ?_
  exact accounting_bind (drainSignals_accounting host rounds) fun _ =>
    checkApprovalDeadline_idle.accounting

lemma waitUntil_accounting (host : Host) (target : Instant) (rounds : ℕ) :
    Accounting (waitUntil host target rounds) := by
  refine accounting_bind (.loop accounted_absorbs _ (accounting_bind .read fun s => ?_) rounds)
    fun _ => accounting_bind .read fun s => ?_
  · dsimp only
    split_ifs
    · exact .pure _
    · refine accounting_bind (waitCondition_idle _).accounting fun _ => ?_
      exact accounting_bind (drainSignals_accounting host rounds) fun _ => .pure _
  · split_ifs
    · exact expire_idle.accounting
    · exact .pure _

lemma mainLoop_accounting (host : Host) (rounds : ℕ) : Accounting (mainLoop host rounds) := by
  refine .loop accounted_absorbs _ ?_ rounds
  refine accounting_bind (drainSignals_accounting host rounds) fun _ => ?_
  refine accounting_bind .read fun s => ?_
  split_ifs
  · exact .pure _
  · exact accounting_bind expire_idle.accounting fun _ => .pure _
  · refine accounting_bind pollA2aIfDue_idle.accounting fun _ => ?_
    refine accounting_bind .read fun t => ?_
    split_ifs
    · exact .pure _
    · refine accounting_bind waitForSignalOrDeadline_idle.accounting fun _ => ?_
      exact accounting_bind (drainSignals_accounting host rounds) fun _ => .pure _

lemma awaitPolicy_accounting (host : Host) (rounds : ℕ) (policy : PolicyResult) :
    Accounting (awaitPolicy host rounds policy) := by
  unfold awaitPolicy
  split_ifs
  · split
    · exact accounting_bind (accounting_modify (fun _ => rfl) fun _ => rfl) fun _ => .fail
    · refine accounting_bind (accounting_modify (fun _ => rfl) fun _ => rfl) fun _ => ?_
      exact accounting_bind (waitUntil_accounting host _ rounds) fun _ =>
        accounting_bind .read fun _ => .pure _
  · refine accounting_bind (accounting_modify (fun _ => rfl) fun _ => rfl) fun _ => ?_
    refine accounting_bind (waitForApprovalOrTerminal_accounting host rounds) fun _ => ?_
    refine accounting_bind .read fun s => ?_
    split_ifs
    · exact .pure _
    · exact accounting_bind (finish_idle (by decide) _).accounting fun _ => .pure _
    · exact .pure _
  · exact .pure _

lemma awaitRecovery_accounting (host : Host) (rounds : ℕ) :
    Accounting (awaitRecovery host rounds) := by
  refine accounting_bind .read fun s => ?_
  split_ifs
  · exact .pure _
  · refine accounting_bind (accounting_modify (fun s => ?_) fun s => ?_) fun _ => ?_
    · split_ifs <;> rfl
    · split_ifs <;> rfl
    · exact accounting_bind (mainLoop_accounting host rounds) fun _ =>
        accounting_bind .read fun _ => .pure _

/-! ## The run -/

/-- The first activity may report any payment state, but none was captured before. -/
lemma normalize_accounts {α : Type} {input : NormalizeFailureInput}
    {g : NormalizedFailure → Workflow → Workflow} {f : NormalizedFailure → Wf α} {s : Workflow} (hs : s.paymentState = "FAILED")
    (hg : ∀ n t, (g n t).arrearsCollectedPaise = t.arrearsCollectedPaise)
    (hf : ∀ n, Accounting (f n)) :
    ((activity (.normalizeFailure input) >>= fun n => Code.modify (g n) >>= fun _ => f n) s).Moves
      Accounted := by
  intro x
  set t := (s.record (.requested (.normalizeFailure input))).resume x.now x.arrivals with ht
  have hbystander : Bystander s t := trans_of Bystander (.record s rfl) (.resume _ x.now x.arrivals)
  have hfirst : ∀ t' : Workflow, t'.arrearsCollectedPaise = s.arrearsCollectedPaise →
      Accounted (.activity (.normalizeFailure input)) x
        (s.record (.requested (.normalizeFailure input))) t' := by
    intro t' ht'
    refine ⟨fun d hd => absurd hd (by simp [reported]), fun _ => ⟨ht', fun hc => ?_⟩⟩
    exact absurd (hs.symm.trans hc) (by decide)
  cases hres : x.result with
  | none =>
    simp only [hres, Proc.bind, Proc.state, Proc.Moves, and_true]
    exact hfirst t hbystander.arrears
  | some n =>
    simp only [hres, Proc.bind, Code.bind_apply, Code.modify_apply, ← ht]
    refine ⟨hfirst _ ?_, (hf n).moves _⟩
    exact ((hf n).silent _).arrears.trans ((hg n t).trans hbystander.arrears)

/-- `run` up to the decision, from a payment that failed. -/
lemma decidePolicy_accounts (host : Host) (workflowId : String) (command : RecoveryWorkflowInput)
    {s : Workflow} (hs : s.paymentState = "FAILED") :
    (decidePolicy host workflowId command s).Moves Accounted := by
  unfold decidePolicy
  split_ifs
  · trivial
  · trivial
  · simp only [Code.bind_apply, Code.modify_apply, Proc.bind]
    cases host.parseInstant command.recoveryDeadline with
    | none => trivial
    | some deadline =>
      refine normalize_accounts hs (fun _ _ => rfl) fun n => ?_
      refine accounting_bind (activity_idle rfl).accounting fun diagnosis => ?_
      refine accounting_bind (accounting_modify (fun _ => rfl) fun _ => rfl) fun _ => ?_
      refine accounting_bind (activity_idle rfl).accounting fun _ => ?_
      refine accounting_bind (accounting_modify (fun _ => rfl) fun _ => rfl) fun _ => ?_
      exact (activity_idle rfl).accounting

/-- Nothing is collected before the first request. -/
lemma run_begins (host : Host) (rounds : ℕ) (workflowId : String) (command : RecoveryWorkflowInput)
    (s : Workflow) : (run host rounds workflowId command s).state.arrearsCollectedPaise =
      s.arrearsCollectedPaise := by
  simp only [run, Code.bind_apply, decidePolicy]
  split_ifs
  · rfl
  · rfl
  · simp only [Code.bind_apply, Code.modify_apply, Proc.bind]
    cases host.parseInstant command.recoveryDeadline with
    | none => rfl
    | some deadline => rfl

/-- A run accounts for the money at every reply. -/
theorem run_accounts (host : Host) (rounds : ℕ) (workflowId : String)
    (command : RecoveryWorkflowInput) {s : Workflow} (hs : s.paymentState = "FAILED") :
    (run host rounds workflowId command s).Moves Accounted := by
  have hrest : ∀ policy, Accounting (do
      adoptPolicy policy
      if policy.disposition = "BLOCK" then do
        finish .stopped "BLOCKED_BY_POLICY"
        return (← Code.read).result
      else if (← awaitPolicy host rounds policy) then do
        beginAction policy
        awaitRecovery host rounds
      else
        return (← Code.read).result : Wf RecoveryWorkflowResult) := by
    intro policy
    refine accounting_bind (adoptPolicy_idle policy).accounting fun _ => ?_
    split_ifs
    · exact accounting_bind (finish_idle (by decide) _).accounting fun _ =>
        accounting_bind .read fun _ => .pure _
    · refine accounting_bind (awaitPolicy_accounting host rounds policy) fun go => ?_
      cases go with
      | true =>
        exact accounting_bind (beginAction_idle policy).accounting fun _ =>
          awaitRecovery_accounting host rounds
      | false => exact accounting_bind .read fun _ => .pure _
  exact ((decidePolicy_accounts host workflowId command hs).bind accounted_absorbs
    fun s policy => ⟨(hrest policy).silent s, (hrest policy).moves s⟩).2

end RecoveryOS.Worker
