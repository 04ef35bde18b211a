import RecoveryOS.Worker.Terminal

/-!
# The reply that recovers a case

A case is recovered by one reply only: a reconciliation that is authoritative and found the case
recovered (`decision`). Before such a reply nothing the workflow does makes its outcome `RECOVERED`.
After it the handler still audits, sends the receipt and cancels the active action, and only then
calls `_finish`: none of these is caught, so the first that fails takes the run down with it. If all
of them succeed the loops above the handler leave at once, and the run returns.
-/

namespace RecoveryOS.Worker

open Resume

/-- The reconciliation a reply carries, if it is one that recovers the case. -/
def decision : (r : Await) → r.Reply → Option ReconciliationResult
  | .activity (.reconcileCase _), x =>
    Option.filter (fun r : ReconciliationResult => r.caseRecovered && r.authoritative) x.result
  | _, _ => none

def Decides (r : Await) (x : r.Reply) : Prop := (decision r x).isSome = true

/-- The activity did not fail after its last retry; a wait cannot fail. -/
def Succeeds : (r : Await) → r.Reply → Prop
  | .activity _, x => x.result.isSome = true
  | .waitCondition _, _ => True

def Activity.reconciles : Activity → Bool
  | .reconcileCase _ => true
  | _ => false

/-- The workflow has no input yet or the one it was started with, and has not recovered its case. -/
structure Underway (command : RecoveryWorkflowInput) (s : Workflow) : Prop where
  outcome : s.outcome ≠ some .recovered
  input : s.input = none ∨ s.input = some command

/-- A reconciliation of the workflow's own case. -/
def Scoped (command : RecoveryWorkflowInput) : Await → Prop
  | .activity (.reconcileCase c) => c.caseId = command.caseId ∧
    c.merchantId = command.merchantId ∧ c.failedInvoiceId = command.failedInvoiceId
  | _ => True

/-- After the deciding reply and its handler: the case is finished as recovered, or the approval
wait has overwritten that, with the arrears the reply reported. -/
structure Closed (command : RecoveryWorkflowInput) (r : Await) (x : r.Reply) (s : Workflow) :
    Prop where
  scope : Scoped command r
  terminal : s.terminal = true
  outcome : s.outcome = some .recovered ∨ ∃ e ∈ s.history, e.overwrites = true
  arrears : ∀ d ∈ decision r x, s.arrearsCollectedPaise = d.arrearsCollectedPaise

variable {command : RecoveryWorkflowInput}

/-- What the activities of a recovering handler leave alone; the history only grows. -/
structure Carried (s s' : Workflow) : Prop where
  terminal : s'.terminal = s.terminal
  outcome : s'.outcome = s.outcome
  input : s'.input = s.input
  arrears : s'.arrearsCollectedPaise = s.arrearsCollectedPaise
  history : ∀ e ∈ s.history, e ∈ s'.history

instance : Std.Refl Carried where
  refl _ := ⟨rfl, rfl, rfl, rfl, fun _ h => h⟩

instance : IsTrans Workflow Carried where
  trans _ _ _ h h' :=
    { terminal := h'.terminal.trans h.terminal
      outcome := h'.outcome.trans h.outcome
      input := h'.input.trans h.input
      arrears := h'.arrears.trans h.arrears
      history := fun e he => h'.history e (h.history e he) }

lemma Carried.enqueue (s : Workflow) (sig : QueuedSignal) : Carried s (s.enqueue sig) := by
  unfold Workflow.enqueue
  split_ifs <;> exact ⟨rfl, rfl, rfl, rfl, fun _ h => h⟩

lemma Carried.resume (s : Workflow) (now : Instant) (arrivals : List QueuedSignal) :
    Carried s (s.resume now arrivals) := by
  have h : ∀ (l : List QueuedSignal) (t : Workflow), Carried t (l.foldl Workflow.enqueue t) := by
    intro l
    induction l with
    | nil => exact fun t => refl_of Carried t
    | cons sig l ih => exact fun t => trans_of Carried (Carried.enqueue t sig) (ih _)
  have hn : Carried s { s with now } := ⟨rfl, rfl, rfl, rfl, fun _ h => h⟩
  exact trans_of Carried hn (h arrivals { s with now })

lemma Carried.record (s : Workflow) (e : Entry) : Carried s (s.record e) :=
  ⟨rfl, rfl, rfl, rfl, fun _ h => List.mem_append_left _ h⟩

lemma Underway.carried {s s' : Workflow} (h : Underway command s) (hc : Carried s s') :
    Underway command s' := by
  refine ⟨?_, ?_⟩
  · rw [hc.outcome]
    exact h.outcome
  · rw [hc.input]
    exact h.input

lemma not_decides {a : Activity} (h : a.reconciles = false) (x : Await.Reply (.activity a)) :
    ¬ Decides (.activity a) x := by
  cases a with
  | reconcileCase command => simp [Activity.reconciles] at h
  | _ => simp [Decides, decision]

section Calm
variable {α β : Type} {c : Wf α} {f : α → Wf β}

/-- Code that asks for no reconciliation and does not recover the case. -/
def Calm (command : RecoveryWorkflowInput) (c : Wf α) : Prop :=
  ∀ s, Underway command s →
    (c s).Watch Decides Succeeds (fun s' _ => Underway command s') fun _ _ _ _ => False

/-- Code that leaves the case unrecovered unless a reply decides, and then closes it. -/
def Tracked (command : RecoveryWorkflowInput) (c : Wf α) : Prop :=
  ∀ s, Underway command s →
    (c s).Watch Decides Succeeds (fun s' _ => Underway command s') fun r x s' _ => Closed command r x s'

lemma Calm.tracked (h : Calm command c) : Tracked command c :=
  fun s hs => (h s hs).mono (fun _ _ h => h) fun _ _ _ _ h => h.elim

lemma Calm.bind (hc : Calm command c) (hf : ∀ a, Calm command (f a)) : Calm command (c >>= f) :=
  fun s hs => (hc s hs).bind (fun s' a hs' => hf a s' hs') fun _ _ _ _ h => h.elim

lemma Calm.bind_tracked (hc : Calm command c) (hf : ∀ a, Tracked command (f a)) : Tracked command (c >>= f) :=
  fun s hs => (hc s hs).bind (fun s' a hs' => hf a s' hs') fun _ _ _ _ h => h.elim

lemma Tracked.bind (hc : Tracked command c) (hf : ∀ a, Tracked command (f a))
    (hw : ∀ r x s a, Closed command r x s → (f a s).Ends Decides Succeeds fun s' _ => Closed command r x s') :
    Tracked command (c >>= f) :=
  fun s hs => (hc s hs).bind (fun s' a hs' => hf a s' hs') fun r x s' a h => hw r x s' a h

lemma Calm.pure (a : α) : Calm command (pure a : Wf α) := fun _ hs => hs

lemma Calm.read : Calm command (Code.read : Wf Workflow) := fun _ hs => hs

lemma Calm.fail : Calm command (Code.fail : Wf α) := fun _ _ => trivial

lemma Calm.modify {g : Workflow → Workflow} (h : ∀ s, Underway command s → Underway command (g s)) :
    Calm command (Code.modify g : Wf Unit) := h

/-- An update that leaves the outcome alone. -/
lemma Calm.update {g : Workflow → Workflow} (ho : ∀ s, (g s).outcome = s.outcome)
    (hi : ∀ s, (g s).input = s.input) : Calm command (Code.modify g : Wf Unit) := by
  refine .modify fun s hs => ⟨?_, ?_⟩
  · rw [ho s]
    exact hs.outcome
  · rw [hi s]
    exact hs.input

lemma Calm.finish {outcome : CaseOutcome} (h : outcome ≠ .recovered) (reason : String) :
    Calm command (finish outcome reason) :=
  .modify fun _ hs => ⟨by simpa [Workflow.finish] using h, hs.input⟩

end Calm

lemma activity_calm {a : Activity} (ha : a.reconciles = false) : Calm command (activity a) := by
  intro s hs x
  refine ⟨fun hx => absurd hx (not_decides ha x), fun _ => ?_⟩
  have hu : Underway command ((s.record (.requested a)).resume x.now x.arrivals) :=
    hs.carried (trans_of Carried (.record s _) (.resume _ _ _))
  cases hres : x.result with
  | none => simp only [hres, Proc.Watch]
  | some r => simpa only [hres, Proc.Watch] using hu

lemma waitCondition_calm (timeout : ℤ) : Calm command (waitCondition timeout) :=
  fun _ hs x => ⟨fun hx => absurd hx (by simp [Decides, decision]),
    fun _ => hs.carried (.resume _ x.now x.arrivals)⟩

lemma requireInput_calm : Calm command requireInput := by
  refine .bind .read fun s => ?_
  split
  · exact .pure _
  · exact .fail

lemma audit_calm (eventType correlationId : String) (details : List (String × Json)) :
    Calm command (audit eventType correlationId details) :=
  .bind .read fun _ => .bind (activity_calm rfl) fun _ => .pure _

lemma cancelActiveAction_calm (reason : String) : Calm command (cancelActiveAction reason) := by
  refine .bind .read fun s => ?_
  split_ifs
  · exact .pure _
  · exact .pure _
  · refine .bind (activity_calm rfl) fun result => ?_
    split_ifs
    · exact .update (fun _ => rfl) fun _ => rfl
    · exact .pure _

lemma suppressOutreach_calm (signalId disposition : String) :
    Calm command (suppressOutreach signalId disposition) := by
  refine .bind (.update (fun _ => rfl) fun _ => rfl) fun _ => ?_
  refine .bind (cancelActiveAction_calm _) fun _ => ?_
  refine .bind (audit_calm _ _ _) fun _ => ?_
  exact .modify fun _ hs => ⟨by simp, hs.input⟩

lemma expire_calm : Calm command expire := by
  refine .bind (cancelActiveAction_calm _) fun _ => .modify fun s hs => ⟨?_, hs.input⟩
  have hd : s.deadlineOutcome ≠ .recovered := by
    unfold Workflow.deadlineOutcome
    split_ifs <;> decide
  simpa [Workflow.finish] using hd

lemma waitForSignalOrDeadline_calm : Calm command waitForSignalOrDeadline := by
  refine .bind .read fun s => ?_
  split
  · exact .pure _
  · dsimp only
    split_ifs
    · exact .pure _
    · exact waitCondition_calm _

/-! ## Deciding and executing -/

lemma startA2aAuthorization_calm : Calm command startA2aAuthorization := by
  refine .bind requireInput_calm fun command => ?_
  split
  · split
    · refine .bind (activity_calm rfl) fun result => ?_
      exact .bind (.update (fun _ => rfl) fun _ => rfl) fun _ => audit_calm _ _ _
    · exact .bind (audit_calm _ _ _) fun _ => .bind (.update (fun _ => rfl) fun _ => rfl) fun _ =>
        .finish (by decide) _
  · exact .bind (audit_calm _ _ _) fun _ => .bind (.update (fun _ => rfl) fun _ => rfl) fun _ =>
      .finish (by decide) _

lemma executeAction_calm (policy : PolicyResult) (mandate : Option Json) :
    Calm command (executeAction policy mandate) := by
  unfold executeAction
  split_ifs
  · exact startA2aAuthorization_calm
  · refine .bind requireInput_calm fun command => ?_
    refine .bind (.update (fun _ => rfl) fun _ => rfl) fun _ => ?_
    refine .bind (activity_calm rfl) fun result => ?_
    refine .bind (.update (fun _ => rfl) fun _ => rfl) fun _ => ?_
    refine .bind (audit_calm _ _ _) fun _ => ?_
    split_ifs
    · exact .finish (by decide) _
    · exact .update (fun _ => rfl) fun _ => rfl
    · exact .pure _

lemma pollA2aIfDue_calm : Calm command pollA2aIfDue := by
  refine .bind .read fun s => ?_
  split
  · split_ifs
    · exact .pure _
    · refine .bind requireInput_calm fun command => ?_
      split
      · split
        · refine .bind (activity_calm rfl) fun result => ?_
          refine .bind (.update (fun _ => rfl) fun _ => rfl) fun _ => ?_
          split_ifs
          · exact .update (fun _ => rfl) fun _ => rfl
          · refine .bind (.update (fun _ => rfl) fun _ => rfl) fun _ => ?_
            refine .bind (audit_calm _ _ _) fun _ => ?_
            split_ifs
            · exact .bind (.update (fun _ => rfl) fun _ => rfl) fun _ => .finish (by decide) _
            · exact .bind (.update (fun _ => rfl) fun _ => rfl) fun _ => executeAction_calm _ _
        · exact .bind (.update (fun _ => rfl) fun _ => rfl) fun _ => .finish (by decide) _
      · exact .bind (.update (fun _ => rfl) fun _ => rfl) fun _ => .finish (by decide) _
  · exact .pure _

lemma beginAction_calm (policy : PolicyResult) : Calm command (beginAction policy) := by
  unfold beginAction
  split_ifs
  · exact .finish (by decide) _
  · exact .update (fun _ => rfl) fun _ => rfl
  · exact executeAction_calm policy none

lemma decidePolicy_calm (host : Host) (workflowId : String) (command : RecoveryWorkflowInput) :
    Calm command (decidePolicy host workflowId command) := by
  unfold decidePolicy
  split_ifs
  · exact .fail
  · exact .fail
  · refine .bind (.update (fun _ => rfl) fun _ => rfl) fun _ => ?_
    split
    · exact .fail
    · refine .bind (.modify fun s hs => ⟨hs.outcome, .inr rfl⟩) fun _ => ?_
      refine .bind (activity_calm rfl) fun normalized => ?_
      refine .bind (.update (fun _ => rfl) fun _ => rfl) fun _ => ?_
      refine .bind (activity_calm rfl) fun diagnosis => ?_
      refine .bind (.update (fun _ => rfl) fun _ => rfl) fun _ => ?_
      refine .bind (activity_calm rfl) fun _ => ?_
      exact .bind (.update (fun _ => rfl) fun _ => rfl) fun _ => activity_calm rfl

lemma adoptPolicy_calm (policy : PolicyResult) : Calm command (adoptPolicy policy) :=
  .bind (.update (fun _ => rfl) fun _ => rfl) fun _ => audit_calm _ _ _

/-! ## After the deciding reply -/

section Lasts
variable {α β : Type}

/-- Code that gets to its end if its activities succeed, and carries the state along. -/
def Lasts (c : Wf α) : Prop :=
  ∀ s, (c s).Ends Decides Succeeds fun s' _ => Carried s s'

/-- The same from a state that has its input. -/
def LastsWithInput (c : Wf α) : Prop :=
  ∀ s, s.input.isSome = true → (c s).Ends Decides Succeeds fun s' _ => Carried s s'

lemma Lasts.bind {c : Wf α} {f : α → Wf β} (hc : Lasts c) (hf : ∀ a, Lasts (f a)) :
    Lasts (c >>= f) := by
  intro s
  refine (hc s).bind fun s' a h => ?_
  exact (hf a s').mono fun t _ ht => trans_of Carried h ht

lemma Lasts.pure (a : α) : Lasts (pure a : Wf α) := fun s => refl_of Carried s

lemma Lasts.read : Lasts (Code.read : Wf Workflow) := fun s => refl_of Carried s

lemma Lasts.modify {g : Workflow → Workflow} (h : ∀ s, Carried s (g s)) :
    Lasts (Code.modify g : Wf Unit) := h

lemma Lasts.withInput {c : Wf α} (h : Lasts c) : LastsWithInput c := fun s _ => h s

lemma LastsWithInput.bind {c : Wf α} {f : α → Wf β} (hc : LastsWithInput c)
    (hf : ∀ a, LastsWithInput (f a)) : LastsWithInput (c >>= f) := by
  intro s hs
  refine (hc s hs).bind fun s' a h => ?_
  refine (hf a s' ?_).mono fun t _ ht => trans_of Carried h ht
  rw [h.input]
  exact hs

end Lasts

lemma activity_lasts {a : Activity} (ha : a.reconciles = false) : Lasts (activity a) := by
  intro s x
  refine ⟨not_decides ha x, fun hx => ?_, fun hx => ?_⟩
  · obtain ⟨r, hr⟩ := Option.isSome_iff_exists.mp hx
    simp only [hr, Proc.Ends]
    exact trans_of Carried (.record s _) (.resume _ _ _)
  · have hr : x.result = none := Option.not_isSome_iff_eq_none.mp hx
    exact ⟨(s.record (.requested a)).resume x.now x.arrivals, by simp only [hr]⟩

lemma audit_lasts (eventType correlationId : String) (details : List (String × Json)) :
    Lasts (audit eventType correlationId details) :=
  .bind .read fun _ => .bind (activity_lasts rfl) fun _ => .pure _

lemma cancelActiveAction_lasts (reason : String) : Lasts (cancelActiveAction reason) := by
  refine .bind .read fun s => ?_
  split_ifs
  · exact .pure _
  · exact .pure _
  · refine .bind (activity_lasts rfl) fun result => ?_
    split_ifs
    · exact .modify fun _ => ⟨rfl, rfl, rfl, rfl, fun _ h => h⟩
    · exact .pure _

lemma requireInput_apply {s : Workflow} {command : RecoveryWorkflowInput}
    (h : s.input = some command) : requireInput s = .done s command := by
  simp only [requireInput, Code.bind_apply, Code.read_apply, Proc.bind, h]
  rfl

lemma requireInput_lasts : LastsWithInput requireInput := by
  intro s hs
  obtain ⟨command, hc⟩ := Option.isSome_iff_exists.mp hs
  rw [requireInput_apply hc]
  exact refl_of Carried s

lemma sendA2aReceiptIfApplicable_lasts (r : ReconciliationResult) :
    LastsWithInput (sendA2aReceiptIfApplicable r) := by
  refine .bind Lasts.read.withInput fun s => ?_
  split
  · refine .bind requireInput_lasts fun command => Lasts.withInput ?_
    split
    · exact .pure _
    · split_ifs
      · exact .pure _
      · refine .bind (activity_lasts rfl) fun receipt => ?_
        split_ifs
        · exact .bind (.modify fun _ => ⟨rfl, rfl, rfl, rfl, fun _ h => h⟩) fun _ =>
            audit_lasts _ _ _
        · exact audit_lasts _ _ _
  · exact (Lasts.pure _).withInput

/-- The tail of a recovering handler finishes the case as recovered. -/
theorem recoverIfAuthoritative_ends {r : ReconciliationResult} (hr : r.caseRecovered = true)
    (ha : r.authoritative = true) (reason : String) (s : Workflow)
    (hs : s.input.isSome = true) :
    (recoverIfAuthoritative r reason s).Ends Decides Succeeds fun s' _ =>
      s'.terminal = true ∧ s'.outcome = some .recovered ∧
        s'.arrearsCollectedPaise = s.arrearsCollectedPaise := by
  unfold recoverIfAuthoritative
  rw [if_pos ⟨hr, ha⟩]
  refine (sendA2aReceiptIfApplicable_lasts r s hs).bind fun t _ ht => ?_
  refine (cancelActiveAction_lasts _ t).bind fun u _ hu => ?_
  exact ⟨rfl, rfl, hu.arrears.trans ht.arrears⟩

lemma decision_reconcileCase {request : ReconciliationInput}
    {x : Await.Reply (.activity (.reconcileCase request))} {d : ReconciliationResult} :
    decision (.activity (.reconcileCase request)) x = some d ↔
      x.result = some d ∧ d.caseRecovered = true ∧ d.authoritative = true := by
  have h : ∀ o : Option ReconciliationResult,
      o.filter (fun r => r.caseRecovered && r.authoritative) = some d ↔
        o = some d ∧ d.caseRecovered = true ∧ d.authoritative = true := by
    intro o
    rw [Option.filter_eq_some_iff, Bool.and_eq_true]
  exact h x.result

/-- A reconciliation, followed by code that closes the case if it decides and is calm if not. -/
theorem reconcile_watch {request : ReconciliationInput} {f : ReconciliationResult → Wf Unit}
    (hscope : Scoped command (.activity (.reconcileCase request)))
    (hd : ∀ d : ReconciliationResult, d.caseRecovered = true → d.authoritative = true →
      ∀ s : Workflow, s.input.isSome = true → (f d s).Ends Decides Succeeds fun s' _ =>
        s'.terminal = true ∧ s'.outcome = some .recovered ∧
          s'.arrearsCollectedPaise = d.arrearsCollectedPaise)
    (hn : ∀ d : ReconciliationResult, ¬ (d.caseRecovered = true ∧ d.authoritative = true) →
      Calm command (f d))
    {s : Workflow} (hs : Underway command s) (hi : s.input.isSome = true) :
    ((activity (.reconcileCase request) >>= f) s).Watch Decides Succeeds
      (fun s' _ => Underway command s') fun r x s' _ => Closed command r x s' := by
  intro x
  have hc := trans_of Carried (Carried.record s (.requested (.reconcileCase request)))
    (Carried.resume _ x.now x.arrivals)
  refine ⟨fun hx => ?_, fun hx => ?_⟩
  · obtain ⟨d, hdec⟩ := Option.isSome_iff_exists.mp hx
    obtain ⟨hres, hr, ha⟩ := decision_reconcileCase.mp hdec
    simp only [hres, Proc.bind]
    refine (hd d hr ha _ (by rw [hc.input]; exact hi)).mono fun t _ ht => ?_
    refine ⟨hscope, ht.1, .inl ht.2.1, fun d' hd' => ?_⟩
    obtain rfl : d = d' := Option.some.inj (hdec.symm.trans hd')
    exact ht.2.2
  · cases hres : x.result with
    | none => simp only [hres, Proc.bind, Proc.Watch]
    | some d =>
      simp only [hres, Proc.bind]
      refine (hn d (fun h => hx ?_)).tracked _ (hs.carried hc)
      rw [Decides, decision_reconcileCase.mpr ⟨hres, h⟩]
      rfl

lemma recoverIfAuthoritative_calm {r : ReconciliationResult}
    (h : ¬ (r.caseRecovered = true ∧ r.authoritative = true)) (reason : String) :
    Calm command (recoverIfAuthoritative r reason) := by
  unfold recoverIfAuthoritative
  rw [if_neg h]
  exact .pure _

lemma applyReconciliation_arrears {s : Workflow} {r : ReconciliationResult}
    (h : r.authoritative = true) :
    (s.applyReconciliation r).arrearsCollectedPaise = r.arrearsCollectedPaise := by
  simp [Workflow.applyReconciliation, h]

lemma applyReconciliation_input (s : Workflow) (r : ReconciliationResult) :
    (s.applyReconciliation r).input = s.input := by
  unfold Workflow.applyReconciliation
  split_ifs <;> rfl

lemma applyReconciliation_calm (r : ReconciliationResult) :
    Calm command (Code.modify (·.applyReconciliation r) : Wf Unit) := by
  refine .update (fun s => ?_) fun s => applyReconciliation_input s r
  unfold Workflow.applyReconciliation
  split_ifs <;> rfl

/-- `requireInput` fails, or hands over the input of the workflow. -/
lemma requireInput_watch {f : RecoveryWorkflowInput → Wf Unit}
    (hf : ∀ s, Underway command s → s.input.isSome = true →
      (f command s).Watch Decides Succeeds (fun s' _ => Underway command s')
        fun r x s' _ => Closed command r x s') :
    Tracked command (requireInput >>= f) := by
  intro s hs
  cases hi : s.input with
  | none =>
    have he : requireInput s = .failed s := by
      simp only [requireInput, Code.bind_apply, Code.read_apply, Proc.bind, hi]
      rfl
    simp only [Code.bind_apply, he, Proc.bind, Proc.Watch]
  | some found =>
    have he : found = command := by simpa [hi] using hs.input
    simp only [Code.bind_apply, requireInput_apply hi, Proc.bind, he]
    exact hf s hs (by rw [hi]; rfl)

/-! ## The handlers -/

lemma handlePayment_tracked (sig : PaymentEventSignal) : Tracked command (handlePayment sig) := by
  refine requireInput_watch fun s hs hi => reconcile_watch ⟨rfl, rfl, rfl⟩
    (fun d hr ha t ht => ?_) (fun d hd => ?_) hs hi
  · have hin : (t.applyReconciliation d).input.isSome = true := by
      rw [applyReconciliation_input]
      exact ht
    refine (audit_lasts _ _ _ (t.applyReconciliation d)).bind fun u _ hu => ?_
    refine (recoverIfAuthoritative_ends hr ha _ u (by rw [hu.input]; exact hin)).mono
      fun v _ hv => ⟨hv.1, hv.2.1, ?_⟩
    rw [hv.2.2, hu.arrears, applyReconciliation_arrears ha]
  · exact .bind (applyReconciliation_calm d) fun _ => .bind (audit_calm _ _ _) fun _ =>
      recoverIfAuthoritative_calm hd _

lemma handleCustomerIntent_tracked (host : Host) (sig : CustomerIntentSignal) :
    Tracked command (handleCustomerIntent host sig) := by
  refine Calm.bind_tracked (.update (fun _ => rfl) fun _ => rfl) fun _ => ?_
  refine Calm.bind_tracked (audit_calm _ _ _) fun _ => ?_
  split_ifs
  · exact (suppressOutreach_calm _ _).tracked
  · exact (Calm.bind (cancelActiveAction_calm _) fun _ => .finish (by decide) _).tracked
  · refine requireInput_watch fun s hs hi => reconcile_watch ⟨rfl, rfl, rfl⟩
      (fun d hr ha t ht => ?_) (fun d hd => ?_) hs hi
    · have hin : (t.applyReconciliation d).input.isSome = true := by
        rw [applyReconciliation_input]
        exact ht
      refine (recoverIfAuthoritative_ends hr ha _ _ hin).mono fun v _ hv => ⟨hv.1, hv.2.1, ?_⟩
      rw [hv.2.2, applyReconciliation_arrears ha]
    · exact .bind (applyReconciliation_calm d) fun _ => recoverIfAuthoritative_calm hd _
  · exact (Calm.pure _).tracked

lemma handleApproval_calm (sig : ApprovalSignal) : Calm command (handleApproval sig) := by
  refine .bind .read fun s => ?_
  split_ifs
  · exact audit_calm _ _ _
  · exact .bind (.update (fun _ => rfl) fun _ => rfl) fun _ => audit_calm _ _ _

lemma handleA2aUpdate_calm (sig : A2AUpdateSignal) : Calm command (handleA2aUpdate sig) := by
  refine .bind .read fun s => ?_
  split_ifs
  · exact audit_calm _ _ _
  · exact .bind (.update (fun _ => rfl) fun _ => rfl) fun _ => .bind (audit_calm _ _ _) fun _ =>
      .update (fun _ => rfl) fun _ => rfl

lemma handleMandate_calm (sig : MandateSignal) : Calm command (handleMandate sig) := by
  refine .bind (audit_calm _ _ _) fun _ => .update (fun s => ?_) fun s => ?_
  · split_ifs <;> rfl
  · split_ifs <;> rfl

lemma handleOptOut_calm (sig : OptOutSignal) : Calm command (handleOptOut sig) :=
  .bind (.update (fun _ => rfl) fun _ => rfl) fun _ => .bind (audit_calm _ _ _) fun _ =>
    suppressOutreach_calm _ _

theorem handle_tracked (host : Host) : ∀ sig, Tracked command (handle host sig)
  | .approval sig => (handleApproval_calm sig).tracked
  | .paymentEvent sig => handlePayment_tracked sig
  | .customerIntent sig => handleCustomerIntent_tracked host sig
  | .optOut sig => (handleOptOut_calm sig).tracked
  | .cancellation _ =>
    (Calm.bind (audit_calm _ _ _) fun _ => .bind (cancelActiveAction_calm _) fun _ =>
      .finish (by decide) _).tracked
  | .operatorEscalation _ =>
    (Calm.bind (audit_calm _ _ _) fun _ => .bind (cancelActiveAction_calm _) fun _ =>
      .finish (by decide) _).tracked
  | .a2aUpdate sig => (handleA2aUpdate_calm sig).tracked
  | .mandate sig => (handleMandate_calm sig).tracked

/-! ## The loops above the handlers -/

lemma drainOne_tracked (host : Host) : Tracked command (drainOne host) := by
  intro s hs
  simp only [drainOne, Code.bind_apply, Code.read_apply, Proc.bind]
  cases s.signals with
  | nil => exact hs
  | cons sig rest => exact handle_tracked host sig (s.take sig rest) ⟨hs.outcome, hs.input⟩

theorem drainSignals_tracked (host : Host) (rounds : ℕ) : Tracked command (drainSignals host rounds) := by
  intro s hs
  refine Code.loop_watch (fun r x t ht => by simp [ht.terminal]) (fun t ht _ => ?_) rounds s hs
  exact Tracked.bind (drainOne_tracked host) (fun _ => (Calm.pure _).tracked)
    (fun _ _ _ _ h => h) t ht

lemma Closed.carried {r : Await} {x : r.Reply} {s s' : Workflow} (h : Closed command r x s)
    (hc : Carried s s') : Closed command r x s' where
  scope := h.scope
  terminal := hc.terminal.trans h.terminal
  outcome := by
    rcases h.outcome with ho | ⟨e, he, hov⟩
    · exact .inl (hc.outcome.trans ho)
    · exact .inr ⟨e, hc.history e he, hov⟩
  arrears d hd := hc.arrears.trans (h.arrears d hd)

/-- The deadline check of the approval wait on a case that is closed already: it leaves it so, or
overwrites its outcome and has recorded that. -/
theorem checkApprovalDeadline_ends {r : Await} {x : r.Reply} {s : Workflow} (h : Closed command r x s) :
    (checkApprovalDeadline s).Ends Decides Succeeds fun s' _ => Closed command r x s' := by
  set e : Entry := .approvalChecked s.terminal s.pastDeadline s.outcome s.deadlineOutcome with he
  have hk : Closed command r x (s.record e) := h.carried (.record s e)
  show Proc.Ends _ _ _ ((if (s.record e).pastDeadline then expire else pure ()) (s.record e))
  split_ifs with hp
  · have hov : ∃ e' ∈ (s.record e).history, e'.overwrites = true := by
      rcases h.outcome with ho | ⟨e', he', hov⟩
      · refine ⟨e, List.mem_append_right _ (List.mem_singleton_self e), ?_⟩
        have hp' : s.pastDeadline = true := hp
        have hd : CaseOutcome.recovered ≠ s.deadlineOutcome := by
          unfold Workflow.deadlineOutcome
          split_ifs <;> decide
        simp [he, Entry.overwrites, h.terminal, hp', ho, hd]
      · exact ⟨e', List.mem_append_left _ he', hov⟩
    refine (cancelActiveAction_lasts _ (s.record e)).bind fun t _ ht => ?_
    obtain ⟨e', he', hov'⟩ := hov
    refine ⟨h.scope, rfl, .inr ⟨e', List.mem_append_left _ (ht.history e' he'), hov'⟩,
      fun d hd => ?_⟩
    exact ht.arrears.trans (hk.arrears d hd)
  · exact hk

lemma checkApprovalDeadline_calm : Calm command checkApprovalDeadline := by
  refine .bind (.update (fun _ => rfl) fun _ => rfl) fun _ => .bind .read fun s => ?_
  split_ifs
  · exact expire_calm
  · exact .pure _

lemma waitForApprovalOrTerminal_tracked (host : Host) (rounds : ℕ) :
    Tracked command (waitForApprovalOrTerminal host rounds) := by
  intro s hs
  refine Code.loop_watch (fun r x t ht => by simp [ht.terminal]) (fun t ht _ => ?_) rounds s hs
  refine Tracked.bind (Calm.bind_tracked waitForSignalOrDeadline_calm fun _ => ?_)
    (fun _ => (Calm.pure _).tracked) (fun _ _ _ _ h => h) t ht
  exact Tracked.bind (drainSignals_tracked host rounds)
    (fun _ => checkApprovalDeadline_calm.tracked) fun r x s a h => checkApprovalDeadline_ends h

lemma waitUntil_tracked (host : Host) (target : Instant) (rounds : ℕ) :
    Tracked command (waitUntil host target rounds) := by
  refine Tracked.bind (c := Code.loop _ _ rounds) (fun s hs => ?_) (fun _ => ?_)
    fun r x s _ h => ?_
  · refine Code.loop_watch (fun r x t ht => by simp [ht.terminal]) (fun t ht _ => ?_) rounds s hs
    refine Calm.bind_tracked .read (fun u => ?_) t ht
    dsimp only
    split_ifs
    · exact (Calm.pure _).tracked
    · exact Calm.bind_tracked (waitCondition_calm _) fun _ => Tracked.bind
        (drainSignals_tracked host rounds) (fun _ => (Calm.pure _).tracked) fun _ _ _ _ h => h
  · refine Calm.tracked (.bind .read fun s => ?_)
    split_ifs
    · exact expire_calm
    · exact .pure _
  · have hn : ¬ (s.pastDeadline = true ∧ s.terminal = false) := by simp [h.terminal]
    simp only [Code.bind_apply, Code.read_apply, Proc.bind, if_neg hn]
    exact h

/-- The wait of a decision: a case that was closed during it does not go on to its action. -/
theorem awaitPolicy_watch (host : Host) (rounds : ℕ) (policy : PolicyResult) {s : Workflow}
    (hs : Underway command s) : (awaitPolicy host rounds policy s).Watch Decides Succeeds
      (fun s' _ => Underway command s') fun r x s' go => Closed command r x s' ∧ go = false := by
  unfold awaitPolicy
  split_ifs
  · cases policy.delayUntil.bind host.parseInstant with
    | none => trivial
    | some target =>
      refine Code.modify_then_watch (Proc.Watch.bind (fun t _ ht => ?_) (fun r x t _ ht => ?_)
        (waitUntil_tracked host target rounds { s with phase := .policyDelay } ⟨hs.outcome, hs.input⟩))
      · exact ht
      · exact ⟨ht, by simp [ht.terminal]⟩
  · refine Code.modify_then_watch (Proc.Watch.bind (fun t _ ht => ?_) (fun r x t _ ht => ?_)
      (waitForApprovalOrTerminal_tracked host rounds
        { s with approvalRequired := true, phase := .awaitingApproval } ⟨hs.outcome, hs.input⟩))
    · simp only [Code.bind_apply, Code.read_apply, Proc.bind]
      split_ifs
      · exact ht
      · exact Calm.finish (by decide) _ t ht
      · exact ht
    · simp only [Code.bind_apply, Code.read_apply, Proc.bind, if_pos ht.terminal]
      exact ⟨ht, rfl⟩
  · exact hs

lemma mainLoop_tracked (host : Host) (rounds : ℕ) : Tracked command (mainLoop host rounds) := by
  intro s hs
  refine Code.loop_watch (fun r x t ht => by simp [ht.terminal]) (fun t ht _ => ?_) rounds s hs
  refine Tracked.bind (drainSignals_tracked host rounds) (fun _ => ?_) (fun r x u _ h => ?_) t ht
  · refine Calm.bind_tracked .read fun u => ?_
    split_ifs
    · exact (Calm.pure _).tracked
    · exact (Calm.bind expire_calm fun _ => .pure _).tracked
    · refine Calm.bind_tracked pollA2aIfDue_calm fun _ => Calm.bind_tracked .read fun v => ?_
      split_ifs
      · exact (Calm.pure _).tracked
      · exact Calm.bind_tracked waitForSignalOrDeadline_calm fun _ => Tracked.bind
          (drainSignals_tracked host rounds) (fun _ => (Calm.pure _).tracked) fun _ _ _ _ h => h
  · simp only [Code.bind_apply, Code.read_apply, Proc.bind, if_pos h.terminal]
    exact h

lemma awaitRecovery_watch (host : Host) (rounds : ℕ) {s : Workflow} (hs : Underway command s) :
    (awaitRecovery host rounds s).Watch Decides Succeeds
      (fun s' a => Underway command s' ∧ a = s'.result)
      fun r x s' a => Closed command r x s' ∧ a = s'.result := by
  simp only [awaitRecovery, Code.bind_apply, Code.read_apply, Proc.bind]
  split_ifs
  · exact ⟨hs, rfl⟩
  · have hloop : Tracked command (mainLoop host rounds) := mainLoop_tracked host rounds
    refine Code.modify_then_watch (Proc.Watch.bind (fun t _ ht => ?_) (fun r x t _ ht => ?_)
      (hloop _ ?_))
    · exact ⟨ht, rfl⟩
    · exact ⟨ht, rfl⟩
    · split_ifs <;> exact ⟨hs.outcome, hs.input⟩

theorem run_watch (host : Host) (rounds : ℕ) (workflowId : String)
    (command : RecoveryWorkflowInput) {s : Workflow} (hs : Underway command s) :
    (run host rounds workflowId command s).Watch Decides Succeeds
      (fun s' a => Underway command s' ∧ a = s'.result)
      fun r x s' a => Closed command r x s' ∧ a = s'.result := by
  refine (decidePolicy_calm host workflowId command s hs).bind (fun t policy ht => ?_)
    fun _ _ _ _ h => h.elim
  refine (adoptPolicy_calm policy t ht).bind (fun u _ hu => ?_) fun _ _ _ _ h => h.elim
  split_ifs
  · exact ⟨⟨by simp [Workflow.finish], hu.input⟩, rfl⟩
  · refine (awaitPolicy_watch host rounds policy hu).bind (fun v go hv => ?_)
      fun r x v go hv => ?_
    · cases go with
      | true =>
        exact (beginAction_calm policy v hv).bind
          (fun w _ hw => awaitRecovery_watch host rounds hw) fun _ _ _ _ h => h.elim
      | false => exact ⟨hv, rfl⟩
    · rw [hv.2]
      exact ⟨hv.1, rfl⟩

lemma start_underway (command : RecoveryWorkflowInput) (now : Instant)
    (arrivals : List QueuedSignal) : Underway command (start now arrivals) := by
  have h : Underway command ({ now } : Workflow) := ⟨by simp, .inl rfl⟩
  exact h.carried (.resume _ now arrivals)

/-- A run that returns its case as recovered has had a deciding reconciliation of that case, and
returns the arrears which that reported. -/
theorem exists_decision {host : Host} {rounds : ℕ} {workflowId : String} {now : Instant}
    {arrivals : List QueuedSignal} {env : ℕ → (r : Await) → r.Reply} {n : ℕ} {s : Workflow}
    {a : RecoveryWorkflowResult}
    (hn : (run host rounds workflowId command (start now arrivals)).follow env n = .done s a)
    (ha : a.outcome = .recovered) :
    ∃ i < n, ∃ t request k, ∃ d : ReconciliationResult,
      (run host rounds workflowId command (start now arrivals)).follow env i =
        .await t (.activity (.reconcileCase request)) k ∧
      (env i (.activity (.reconcileCase request))).result = some d ∧
      d.caseRecovered = true ∧ d.authoritative = true ∧
      Scoped command (.activity (.reconcileCase request)) ∧
      a.arrearsCollectedPaise = d.arrearsCollectedPaise := by
  have hw := run_watch host rounds workflowId command (start_underway command now arrivals)
  generalize run host rounds workflowId command (start now arrivals) = p at hn hw
  have hP : ¬ (Underway command s ∧ a = s.result) := by
    rintro ⟨hs, rfl⟩
    refine hs.outcome ?_
    cases ho : s.outcome with
    | none => simp [Workflow.result, ho] at ha
    | some o => simpa [Workflow.result, ho] using ha
  obtain ⟨i, hi, t, r, k, hk, hT⟩ := hw.replied n env hn hP
  have hclosed : Closed command r (env i r) s ∧ a = s.result := by
    obtain ⟨m, rfl⟩ := Nat.exists_eq_add_of_lt hi
    rw [Nat.add_right_comm, Proc.follow_reply hk] at hn
    exact (hw.ends i env hk hT).done m _ hn
  cases r with
  | waitCondition timeout => simp [Decides, decision] at hT
  | activity b =>
    by_cases hb : b.reconciles = false
    · exact absurd hT (not_decides hb _)
    · cases b with
      | reconcileCase request =>
        obtain ⟨d, hd⟩ := Option.isSome_iff_exists.mp hT
        obtain ⟨hres, hrec, hauth⟩ := decision_reconcileCase.mp hd
        refine ⟨i, hi, t, request, k, d, hk, hres, hrec, hauth, hclosed.1.scope, ?_⟩
        rw [hclosed.2]
        exact hclosed.1.arrears d hd
      | _ => exact absurd rfl hb

/-! ## What becomes of a recovered case -/

/-- Once a reconciliation has decided, the run returns the case as recovered. -/
def RecoverySurvives (p : Point) (env : ℕ → (r : Await) → r.Reply) : Prop :=
  ∀ i s r k, p.follow env i = .await s r k → Decides r (env i r) →
    ∃ m s' a, p.follow env m = .done s' a ∧ a.outcome = .recovered

/-- No activity that is requested after a deciding reconciliation fails after its last retry. -/
def LaterActivitiesSucceed (p : Point) (env : ℕ → (r : Await) → r.Reply) : Prop :=
  ∀ i s r k, p.follow env i = .await s r k → Decides r (env i r) →
    ∀ j > i, ∀ s' r' k', p.follow env j = .await s' r' k' → Succeeds r' (env j r')

/-- Where nothing fails after the deciding reconciliation, and the approval wait does not overwrite
the outcome, the run returns the case as recovered. -/
theorem recovery_survives (host : Host) (rounds : ℕ) (workflowId : String)
    (command : RecoveryWorkflowInput) (now : Instant) (arrivals : List QueuedSignal)
    (env : ℕ → (r : Await) → r.Reply)
    (hok : LaterActivitiesSucceed (run host rounds workflowId command (start now arrivals)) env)
    (hn : ∀ n, NeverOverwrites
      ((run host rounds workflowId command (start now arrivals)).follow env n).state.history) :
    RecoverySurvives (run host rounds workflowId command (start now arrivals)) env := by
  have hw := run_watch host rounds workflowId command (start_underway command now arrivals)
  generalize run host rounds workflowId command (start now arrivals) = p at hok hn hw
  intro i s r k hi hd
  have hstep := Proc.follow_reply hi
  obtain ⟨m, t, a, hm, hc, rfl⟩ := (hw.ends i env hi hd).follow (fun n => env (i + 1 + n))
    fun j s' r' k' hj => hok i s r k hi hd (i + 1 + j) (by omega) s' r' k' (by rw [hstep, hj])
  refine ⟨i + 1 + m, t, t.result, by rw [hstep, hm], ?_⟩
  have hnever : NeverOverwrites t.history := by
    have := hn (i + 1 + m)
    rwa [hstep, hm] at this
  rcases hc.outcome with ho | ⟨e, he, hov⟩
  · simp [Workflow.result, ho]
  · rw [hnever e he] at hov
    exact absurd hov (by simp)

/-- Every activity answers well, reconciliation with a decision, except at the awaits that fail. -/
def failingWhen (fails : ℕ → Bool) : ℕ → (r : Await) → r.Reply
  | i, .activity a =>
    { now := 1000000, arrivals := []
      result :=
        if fails i then none
        else some (wellResult
          { disposition := "ALLOW", decisionCode := "ALLOWED",
            action := "WAIT_FOR_GATEWAY_RETRY", paymentSurfaceType := none } a) }
  | _, .waitCondition _ => { now := 1000000, arrivals := [], result := () }

def capturedSignal : QueuedSignal :=
  .paymentEvent
    { signalId := "s1", providerEventId := "evt_1", paymentState := "CAPTURED",
      amountPaise := 49900, authoritative := true }

/-- The run of a case for which a payment event is waiting when it is opened. Its awaits are four
activities and an audit, the reconciliation, its audit and the cancellation. -/
def samplePoint : Point :=
  run sampleHost 9 "recovery-case:case_1" sampleInput (start 0 [capturedSignal])

/-- After its eight awaits that run stays where it is. -/
lemma samplePoint_follow {fails : ℕ → Bool}
    (h : ∀ s r k, samplePoint.follow (failingWhen fails) 8 ≠ .await s r k) {n : ℕ} (hn : 8 ≤ n) :
    samplePoint.follow (failingWhen fails) n = samplePoint.follow (failingWhen fails) 8 := by
  obtain ⟨j, rfl⟩ := Nat.exists_eq_add_of_le hn
  rw [Proc.follow_add]
  cases hp : samplePoint.follow (failingWhen fails) 8 with
  | await s r k => exact absurd hp (h s r k)
  | done s a => cases j <;> rfl
  | failed s => cases j <;> rfl
  | spent s => cases j <;> rfl

theorem recovery_survives_well : RecoverySurvives samplePoint (failingWhen fun _ => false) := by
  refine recovery_survives _ _ _ _ _ _ _ (fun i s r k _ _ j _ s' r' k' _ => ?_) fun n => ?_
  · cases r' with
    | activity a => rfl
    | waitCondition timeout => trivial
  · have hn : ∀ m < 9, NeverOverwrites
        (samplePoint.follow (failingWhen fun _ => false) m).state.history := by
      unfold NeverOverwrites
      decide
    show NeverOverwrites (samplePoint.follow (failingWhen fun _ => false) n).state.history
    rcases Nat.lt_or_ge n 8 with h | h
    · exact hn n (by omega)
    · rw [samplePoint_follow (fun s r k he => by cases he) h]
      exact hn 8 (by omega)

/-- The cancellation fails after the reconciliation has decided: the run fails with it. -/
theorem failed_cancellation_loses_recovery :
    ¬ RecoverySurvives samplePoint (failingWhen (· == 7)) := by
  intro h
  have hlive : ∀ m < 8, ∃ s r k,
      samplePoint.follow (failingWhen (· == 7)) m = .await s r k := by
    intro m hm
    interval_cases m <;> exact ⟨_, _, _, rfl⟩
  have hfailed : ∃ s, samplePoint.follow (failingWhen (· == 7)) 8 = .failed s := ⟨_, rfl⟩
  obtain ⟨m, s', a, hm, -⟩ := h 5 _ _ _ rfl (by rfl)
  rcases Nat.lt_or_ge m 8 with hlt | hge
  · obtain ⟨s, r, k, hs⟩ := hlive m hlt
    rw [hs] at hm
    cases hm
  · obtain ⟨s, hs⟩ := hfailed
    rw [samplePoint_follow (fun s r k he => by cases he) hge, hs] at hm
    cases hm

end RecoveryOS.Worker
