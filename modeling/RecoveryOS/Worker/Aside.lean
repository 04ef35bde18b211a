import RecoveryOS.Worker.Steps

/-!
# What a step leaves aside

The approval, the decision, the input, the deadline and the mandate of a run are each written in one
place only. `Plain ok` is for the steps in between: they keep all but the mandate, queue the signals
that arrive and take none out, and request only activities in `ok`; `Aside ok` are those that keep the
mandate as well. An approval is the only signal whose handler does anything else, and the poll the
only step that is plain but accepts a mandate. No step but the expiry ends a case for its deadline.
-/

namespace RecoveryOS.Worker

open Resume

/-- The activities that a handler may request along the way. -/
def Activity.incidental : Activity → Bool
  | .recordAuditEvent _ => true
  | .cancelRecoveryAction _ => true
  | .reconcileCase _ => true
  | _ => false

/-- The requests by which an action is executed. -/
def Activity.executes : Activity → Bool
  | .executeRecoveryAction _ => true
  | .startA2AAuthorization _ => true
  | _ => false

/-- The signals whose handler reconciles the case. -/
def QueuedSignal.reconciles (host : Host) : QueuedSignal → Bool
  | .paymentEvent _ => true
  | .customerIntent sig => decide (host.upper sig.intent = "ALREADY_PAID")
  | _ => false

/-- The ways to finish a case other than that its deadline has passed. -/
def onTime (outcome : CaseOutcome) (reason : String) : Prop :=
  outcome ≠ .expired ∧ (outcome = .stopped → reason ≠ "DEADLINE_EXPIRED")

structure Plain (ok : Activity → Bool) (s s' : Workflow) : Prop where
  terminal : s'.terminal = s.terminal
  approvalRequired : s'.approvalRequired = s.approvalRequired
  approvalReceived : s'.approvalReceived = s.approvalReceived
  policyDisposition : s'.policyDisposition = s.policyDisposition
  input : s'.input = s.input
  deadline : s'.deadline = s.deadline
  queue : ∃ new : List QueuedSignal, s'.signals = s.signals ++ new ∧
    s'.seenSignalIds = s.seenSignalIds ++ new.map QueuedSignal.signalId
  history : ∃ l : List Activity, s'.history = s.history ++ l.map .requested ∧
    ∀ a ∈ l, ok a = true

structure Aside (ok : Activity → Bool) (s s' : Workflow) : Prop extends Plain ok s s' where
  a2aMandateId : s'.a2aMandateId = s.a2aMandateId

section
variable {ok : Activity → Bool}

instance : Std.Refl (Plain ok) where
  refl s := ⟨rfl, rfl, rfl, rfl, rfl, rfl, ⟨[], by simp⟩, [], by simp, by simp⟩

instance : IsTrans Workflow (Plain ok) where
  trans a b c h h' := by
    obtain ⟨l, hl, hq⟩ := h.history
    obtain ⟨l', hl', hq'⟩ := h'.history
    obtain ⟨new, hnew, hseen⟩ := h.queue
    obtain ⟨new', hnew', hseen'⟩ := h'.queue
    refine ⟨h'.terminal.trans h.terminal, h'.approvalRequired.trans h.approvalRequired,
      h'.approvalReceived.trans h.approvalReceived,
      h'.policyDisposition.trans h.policyDisposition, h'.input.trans h.input,
      h'.deadline.trans h.deadline, ⟨new ++ new', ?_, ?_⟩, l ++ l', ?_, ?_⟩
    · rw [hnew', hnew, List.append_assoc]
    · rw [hseen', hseen, List.append_assoc, List.map_append]
    · rw [hl', hl, List.append_assoc, List.map_append]
    · intro a ha
      rcases List.mem_append.mp ha with ha | ha
      · exact hq a ha
      · exact hq' a ha

lemma Plain.mono {ok' : Activity → Bool} (hok : ∀ a, ok a = true → ok' a = true)
    {s s' : Workflow} (h : Plain ok s s') : Plain ok' s s' := by
  obtain ⟨l, hl, hq⟩ := h.history
  exact ⟨h.terminal, h.approvalRequired, h.approvalReceived, h.policyDisposition, h.input,
    h.deadline, h.queue, l, hl, fun a ha => hok a (hq a ha)⟩

lemma Aside.mono {ok' : Activity → Bool} (hok : ∀ a, ok a = true → ok' a = true)
    {s s' : Workflow} (h : Aside ok s s') : Aside ok' s s' :=
  ⟨h.toPlain.mono hok, h.a2aMandateId⟩

instance : Std.Refl (Aside ok) where
  refl s := ⟨refl_of (Plain ok) s, rfl⟩

instance : IsTrans Workflow (Aside ok) where
  trans _ _ _ h h' :=
    ⟨trans_of (Plain ok) h.toPlain h'.toPlain, h'.a2aMandateId.trans h.a2aMandateId⟩

lemma plain_of_aside {α : Type} {c : Wf α} (h : Within (Aside ok) c) : Within (Plain ok) c :=
  fun s => (h s).mono (fun _ h => h.toPlain) fun _ _ h => h.toPlain

/-- An update of fields that `Plain` does not look at. -/
lemma Plain.of_eq {s s' : Workflow} (h₁ : s'.terminal = s.terminal)
    (h₂ : s'.approvalRequired = s.approvalRequired) (h₃ : s'.approvalReceived = s.approvalReceived)
    (h₄ : s'.policyDisposition = s.policyDisposition) (h₅ : s'.input = s.input)
    (h₆ : s'.deadline = s.deadline) (h₇ : s'.signals = s.signals)
    (h₈ : s'.seenSignalIds = s.seenSignalIds) (h₉ : s'.history = s.history) : Plain ok s s' :=
  ⟨h₁, h₂, h₃, h₄, h₅, h₆, ⟨[], by simpa using h₇, by simpa using h₈⟩, [], by simpa using h₉,
    by simp⟩

lemma Aside.of_eq {s s' : Workflow} (h₁ : s'.terminal = s.terminal)
    (h₂ : s'.approvalRequired = s.approvalRequired) (h₃ : s'.approvalReceived = s.approvalReceived)
    (h₄ : s'.policyDisposition = s.policyDisposition) (h₅ : s'.input = s.input)
    (h₆ : s'.deadline = s.deadline) (h₇ : s'.signals = s.signals)
    (h₈ : s'.seenSignalIds = s.seenSignalIds) (h₉ : s'.history = s.history)
    (h₁₀ : s'.a2aMandateId = s.a2aMandateId) : Aside ok s s' :=
  ⟨.of_eq h₁ h₂ h₃ h₄ h₅ h₆ h₇ h₈ h₉, h₁₀⟩

lemma Aside.resume (s : Workflow) (now : Instant) (arrivals : List QueuedSignal) :
    Aside ok s (s.resume now arrivals) := by
  have henqueue : ∀ (t : Workflow) sig, Aside ok t (t.enqueue sig) := by
    intro t sig
    unfold Workflow.enqueue
    split_ifs
    · exact .of_eq rfl rfl rfl rfl rfl rfl rfl rfl rfl rfl
    · exact ⟨⟨rfl, rfl, rfl, rfl, rfl, rfl, ⟨[sig], rfl, rfl⟩, [], by simp, by simp⟩, rfl⟩
  have h : ∀ (l : List QueuedSignal) (t : Workflow), Aside ok t (l.foldl Workflow.enqueue t) := by
    intro l
    induction l with
    | nil => exact fun t => refl_of (Aside ok) t
    | cons sig l ih => exact fun t => trans_of (Aside ok) (henqueue t sig) (ih _)
  have hn : Aside ok s { s with now } := .of_eq rfl rfl rfl rfl rfl rfl rfl rfl rfl rfl
  exact trans_of (Aside ok) hn (h arrivals { s with now })

lemma Aside.request (s : Workflow) {a : Activity} (ha : ok a = true) :
    Aside ok s (s.record (.requested a)) :=
  ⟨⟨rfl, rfl, rfl, rfl, rfl, rfl, ⟨[], by simp [Workflow.record]⟩, [a], rfl, by simpa using ha⟩, rfl⟩

/-! ## The primitive steps -/

/-- Once an activity is requested, it is only waited for. -/
lemma activity_requested (a : Activity) (s : Workflow) :
    (activity a s).Meets (Aside ok (s.record (.requested a))) fun s' _ =>
      Aside ok (s.record (.requested a)) s' := by
  refine ⟨refl_of (Aside ok) _, fun x => ?_⟩
  have hx : Aside ok (s.record (.requested a)) ((s.record (.requested a)).resume x.now x.arrivals) :=
    .resume _ _ _
  cases hres : x.result with
  | none => simpa only [hres, Proc.Meets] using hx
  | some r => simpa only [hres, Proc.Meets] using hx

lemma activity_aside {a : Activity} (ha : ok a = true) : Within (Aside ok) (activity a) := by
  intro s
  have hr : Aside ok s (s.record (.requested a)) := .request s ha
  exact (activity_requested a s).mono (fun _ h => trans_of (Aside ok) hr h)
    fun _ _ h => trans_of (Aside ok) hr h

lemma audit_requested (eventType correlationId : String) (details : List (String × Json))
    (s : Workflow) :
    (audit eventType correlationId details s).Meets
      (Aside ok (s.record (.requested (.recordAuditEvent
        { caseId := s.caseId, eventType, correlationId, details })))) fun s' _ =>
      Aside ok (s.record (.requested (.recordAuditEvent
        { caseId := s.caseId, eventType, correlationId, details }))) s' := by
  simp only [audit, Code.bind_apply, Code.read_apply, Proc.bind]
  exact Proc.Meets.bind (fun _ _ h => h) (activity_requested _ s)

lemma waitCondition_aside (timeout : ℤ) : Within (Aside ok) (waitCondition timeout) :=
  fun s => ⟨refl_of (Aside ok) s, fun x => Aside.resume s x.now x.arrivals⟩

lemma requireInput_aside : Within (Aside ok) requireInput := by
  refine .bind .read fun s => ?_
  split
  · exact .pure _
  · exact .fail

lemma modify_aside {f : Workflow → Workflow} (h : ∀ s, Aside ok s (f s)) :
    Within (Aside ok) (Code.modify f : Wf Unit) := .modify h

lemma applyReconciliation_aside (s : Workflow) (r : ReconciliationResult) :
    Aside ok s (s.applyReconciliation r) := by
  unfold Workflow.applyReconciliation
  split_ifs
  · exact .of_eq rfl rfl rfl rfl rfl rfl rfl rfl rfl rfl
  · exact refl_of (Aside ok) s

variable (hok : ∀ a : Activity, a.incidental = true → ok a = true)
include hok

lemma audit_aside (eventType correlationId : String) (details : List (String × Json)) :
    Within (Aside ok) (audit eventType correlationId details) :=
  .bind .read fun _ => .bind (activity_aside (hok _ rfl)) fun _ => .pure _

lemma cancelActiveAction_aside (reason : String) :
    Within (Aside ok) (cancelActiveAction reason) := by
  refine .bind .read fun s => ?_
  split_ifs
  · exact .pure _
  · exact .pure _
  · refine .bind (activity_aside (hok _ rfl)) fun result => ?_
    split_ifs
    · exact .modify fun _ => .of_eq rfl rfl rfl rfl rfl rfl rfl rfl rfl rfl
    · exact .pure _

/-! ## The handlers -/

lemma suppressOutreach_aside (signalId disposition : String) :
    Within (Aside ok) (suppressOutreach signalId disposition) := by
  refine .bind (modify_aside fun _ => .of_eq rfl rfl rfl rfl rfl rfl rfl rfl rfl rfl) fun _ => ?_
  refine .bind (cancelActiveAction_aside hok _) fun _ => ?_
  refine .bind (audit_aside hok _ _ _) fun _ => ?_
  exact modify_aside fun _ => .of_eq rfl rfl rfl rfl rfl rfl rfl rfl rfl rfl

lemma handleA2aUpdate_aside (sig : A2AUpdateSignal) :
    Within (Aside ok) (handleA2aUpdate sig) := by
  refine .bind .read fun s => ?_
  split_ifs
  · exact audit_aside hok _ _ _
  · refine .bind (modify_aside fun _ => .of_eq rfl rfl rfl rfl rfl rfl rfl rfl rfl rfl) fun _ => ?_
    refine .bind (audit_aside hok _ _ _) fun _ => ?_
    exact modify_aside fun _ => .of_eq rfl rfl rfl rfl rfl rfl rfl rfl rfl rfl

lemma handleMandate_aside (sig : MandateSignal) : Within (Aside ok) (handleMandate sig) := by
  refine .bind (audit_aside hok _ _ _) fun _ => modify_aside fun _ => ?_
  split_ifs
  · exact refl_of (Aside ok) _
  · exact .of_eq rfl rfl rfl rfl rfl rfl rfl rfl rfl rfl

lemma sendA2aReceiptIfApplicable_aside
    (hreceipt : ∀ command, ok (.sendA2APaymentReceipt command) = true) (r : ReconciliationResult) :
    Within (Aside ok) (sendA2aReceiptIfApplicable r) := by
  refine .bind .read fun s => ?_
  split
  · refine .bind requireInput_aside fun command => ?_
    split
    · exact .pure _
    · split_ifs
      · exact .pure _
      · refine .bind (activity_aside (hreceipt _)) fun receipt => ?_
        split_ifs
        · exact .bind (modify_aside fun _ => .of_eq rfl rfl rfl rfl rfl rfl rfl rfl rfl rfl) fun _ =>
            audit_aside hok _ _ _
        · exact audit_aside hok _ _ _
  · exact .pure _

/-- Every signal but an approval is handled aside, up to a `_finish` at the end. Only a signal that
has the case reconciled may bring a receipt. -/
theorem handle_aside (host : Host) (sig : QueuedSignal)
    (hreceipt : sig.reconciles host = true → ∀ command, ok (.sendA2APaymentReceipt command) = true)
    (hsig : ∀ a, sig ≠ .approval a) :
    Leads (Aside ok) (SettlesIn onTime (Aside ok)) (handle host sig) := by
  have hrecover : sig.reconciles host = true → ∀ r reason,
      Leads (Aside ok) (SettlesIn onTime (Aside ok)) (recoverIfAuthoritative r reason) := by
    intro hsig r reason
    unfold recoverIfAuthoritative
    split_ifs
    · exact settlesIn_bind (sendA2aReceiptIfApplicable_aside hok (hreceipt hsig) r) fun _ =>
        settlesIn_bind (cancelActiveAction_aside hok _) fun _ => finish_settlesIn (by simp [onTime])
    · exact settlesIn_of_within (.pure _)
  cases sig with
  | approval a => exact absurd rfl (hsig a)
  | paymentEvent sig =>
    refine settlesIn_bind requireInput_aside fun command => ?_
    refine settlesIn_bind (activity_aside (hok _ rfl)) fun r => ?_
    refine settlesIn_bind (modify_aside fun s => applyReconciliation_aside s r) fun _ => ?_
    exact settlesIn_bind (audit_aside hok _ _ _) fun _ => hrecover rfl r _
  | customerIntent sig =>
    refine settlesIn_bind (modify_aside fun _ => .of_eq rfl rfl rfl rfl rfl rfl rfl rfl rfl rfl) fun _ => ?_
    refine settlesIn_bind (audit_aside hok _ _ _) fun _ => ?_
    split_ifs with _ _ hpaid
    · exact settlesIn_of_within (suppressOutreach_aside hok _ _)
    · exact settlesIn_bind (cancelActiveAction_aside hok _) fun _ => finish_settlesIn (by simp [onTime])
    · refine settlesIn_bind requireInput_aside fun command => ?_
      refine settlesIn_bind (activity_aside (hok _ rfl)) fun r => ?_
      exact settlesIn_bind (modify_aside fun s => applyReconciliation_aside s r) fun _ =>
        hrecover (decide_eq_true hpaid) r _
    · exact settlesIn_of_within (.pure _)
  | optOut sig =>
    refine settlesIn_of_within (.bind (modify_aside fun _ => ?_) fun _ =>
      .bind (audit_aside hok _ _ _) fun _ => suppressOutreach_aside hok _ _)
    exact .of_eq rfl rfl rfl rfl rfl rfl rfl rfl rfl rfl
  | cancellation sig =>
    exact settlesIn_bind (audit_aside hok _ _ _) fun _ =>
      settlesIn_bind (cancelActiveAction_aside hok _) fun _ => finish_settlesIn (by simp [onTime])
  | operatorEscalation sig =>
    exact settlesIn_bind (audit_aside hok _ _ _) fun _ =>
      settlesIn_bind (cancelActiveAction_aside hok _) fun _ => finish_settlesIn (by simp [onTime])
  | a2aUpdate sig => exact settlesIn_of_within (handleA2aUpdate_aside hok sig)
  | mandate sig => exact settlesIn_of_within (handleMandate_aside hok sig)

/-- Expiring a case is aside, up to its `_finish`. -/
lemma expire_aside : Leads (Aside ok) (Settles (Aside ok)) expire :=
  settles_bind (cancelActiveAction_aside hok _) fun _ =>
    .modify fun s => .inr ⟨s, _, _, refl_of (Aside ok) s, rfl⟩

end

/-! ## Executing and polling -/

/-- Any request at all. -/
abbrev anyActivity : Activity → Bool := fun _ => true

lemma any_of_incidental : ∀ a : Activity, a.incidental = true → anyActivity a = true :=
  fun _ _ => rfl

theorem executeAction_aside {ok : Activity → Bool}
    (hok : ∀ a : Activity, a.incidental = true → ok a = true)
    (hexec : ∀ a : Activity, a.executes = true → ok a = true) (policy : PolicyResult)
    (mandate : Option Json) :
    Leads (Aside ok) (SettlesIn onTime (Aside ok)) (executeAction policy mandate) := by
  have hm : ∀ {f : Workflow → Workflow}, (∀ s, Aside ok s (f s)) →
      Within (Aside ok) (Code.modify f : Wf Unit) := modify_aside
  unfold executeAction
  split_ifs
  · refine settlesIn_bind requireInput_aside fun command => ?_
    split
    · split
      · refine settlesIn_bind (activity_aside (hexec _ rfl)) fun result => ?_
        refine settlesIn_bind (hm fun _ => .of_eq rfl rfl rfl rfl rfl rfl rfl rfl rfl rfl) fun _ => ?_
        exact settlesIn_of_within (audit_aside hok _ _ _)
      · refine settlesIn_bind (audit_aside hok _ _ _) fun _ => ?_
        exact settlesIn_bind (hm fun _ => .of_eq rfl rfl rfl rfl rfl rfl rfl rfl rfl rfl) fun _ =>
          finish_settlesIn (by simp [onTime])
    · refine settlesIn_bind (audit_aside hok _ _ _) fun _ => ?_
      exact settlesIn_bind (hm fun _ => .of_eq rfl rfl rfl rfl rfl rfl rfl rfl rfl rfl) fun _ =>
        finish_settlesIn (by simp [onTime])
  · refine settlesIn_bind requireInput_aside fun command => ?_
    refine settlesIn_bind (hm fun _ => .of_eq rfl rfl rfl rfl rfl rfl rfl rfl rfl rfl) fun _ => ?_
    refine settlesIn_bind (activity_aside (hexec _ rfl)) fun result => ?_
    refine settlesIn_bind (hm fun _ => .of_eq rfl rfl rfl rfl rfl rfl rfl rfl rfl rfl) fun _ => ?_
    refine settlesIn_bind (audit_aside hok _ _ _) fun _ => ?_
    split_ifs
    · exact finish_settlesIn (by simp [onTime])
    · exact settlesIn_of_within (hm fun _ => .of_eq rfl rfl rfl rfl rfl rfl rfl rfl rfl rfl)
    · exact settlesIn_of_within (.pure _)

/-- What `run` does with its action, whatever the decision was. -/
lemma beginAction_aside {ok : Activity → Bool}
    (hok : ∀ a : Activity, a.incidental = true → ok a = true)
    (hexec : ∀ a : Activity, a.executes = true → ok a = true) (policy : PolicyResult) :
    Leads (Aside ok) (SettlesIn onTime (Aside ok)) (beginAction policy) := by
  unfold beginAction
  split_ifs
  · exact finish_settlesIn (by simp [onTime])
  · exact settlesIn_of_within (.modify fun _ => .of_eq rfl rfl rfl rfl rfl rfl rfl rfl rfl rfl)
  · exact executeAction_aside hok hexec policy none

lemma plain_settles {ok : Activity → Bool} {α : Type} {c : Wf α}
    (h : Leads (Aside ok) (Settles (Aside ok)) c) : Leads (Plain ok) (Settles (Plain ok)) c :=
  fun s => (h s).mono (fun _ h => h.toPlain) fun _ _ h => h.mono fun _ _ h => h.toPlain

lemma plain_settlesIn {ok : Activity → Bool} {F : CaseOutcome → String → Prop} {α : Type}
    {c : Wf α} (h : Leads (Aside ok) (SettlesIn F (Aside ok)) c) :
    Leads (Plain ok) (SettlesIn F (Plain ok)) c :=
  fun s => (h s).mono (fun _ h => h.toPlain) fun _ _ h => h.mono fun _ _ h => h.toPlain

theorem pollA2aIfDue_plain :
    Leads (Plain anyActivity) (SettlesIn onTime (Plain anyActivity)) pollA2aIfDue := by
  have hm : ∀ {f : Workflow → Workflow}, (∀ s, Plain anyActivity s (f s)) →
      Within (Plain anyActivity) (Code.modify f : Wf Unit) := .modify
  have hreject : ∀ reason, Leads (Plain anyActivity) (SettlesIn onTime (Plain anyActivity)) (do
      Code.modify ({ · with nextA2aPollAt := none, actionStatus := some "REJECTED" })
      finish .escalated reason) := fun reason =>
    settlesIn_bind (hm fun _ => .of_eq rfl rfl rfl rfl rfl rfl rfl rfl rfl) fun _ =>
      finish_settlesIn (by simp [onTime])
  refine settlesIn_bind .read fun s => ?_
  split
  · split_ifs
    · exact settlesIn_of_within (.pure _)
    · refine settlesIn_bind (plain_of_aside requireInput_aside) fun command => ?_
      split
      · split
        · refine settlesIn_bind (plain_of_aside (activity_aside rfl)) fun result => ?_
          refine settlesIn_bind (hm fun _ => .of_eq rfl rfl rfl rfl rfl rfl rfl rfl rfl) fun _ => ?_
          split_ifs
          · exact settlesIn_of_within (hm fun _ => .of_eq rfl rfl rfl rfl rfl rfl rfl rfl rfl)
          · refine settlesIn_bind (hm fun _ => .of_eq rfl rfl rfl rfl rfl rfl rfl rfl rfl) fun _ => ?_
            refine settlesIn_bind (plain_of_aside (audit_aside (fun _ _ => rfl) _ _ _)) fun _ => ?_
            split_ifs
            · exact settlesIn_bind (hm fun _ => .of_eq rfl rfl rfl rfl rfl rfl rfl rfl rfl) fun _ =>
                finish_settlesIn (by simp [onTime])
            · exact settlesIn_bind (hm fun _ => .of_eq rfl rfl rfl rfl rfl rfl rfl rfl rfl) fun _ =>
                plain_settlesIn (executeAction_aside any_of_incidental (fun _ _ => rfl) _ _)
        · exact hreject _
      · exact hreject _
  · exact settlesIn_of_within (.pure _)

/-! ## Before the waits -/

/-- The activities that lead to a decision. -/
def Activity.assesses : Activity → Bool
  | .normalizeFailure _ => true
  | .diagnoseFailure _ => true
  | .scoreRecovery _ => true
  | .evaluatePolicy _ => true
  | _ => false

/-- What `run` keeps up to its decision: `I` before it has its input, and `J` after. -/
structure Preliminary (command : RecoveryWorkflowInput) (I J : Workflow → Prop) : Prop where
  caseId : ∀ {s}, I s → I { s with caseId := command.caseId }
  input : ∀ {s} deadline, I s → J { s with deadline := some deadline, input := some command }
  aside : ∀ {s s'}, J s → Aside Activity.assesses s s' → J s'

theorem Preliminary.decidePolicy {I J : Workflow → Prop} {command : RecoveryWorkflowInput}
    (hI : Preliminary command I J) (host : Host) (workflowId : String) {s : Workflow} (h : I s) :
    (decidePolicy host workflowId command s).Meets (fun t => I t ∨ J t) fun s' _ => J s' := by
  have hact : ∀ {a : Activity} {t : Workflow}, a.assesses = true → J t →
      (activity a t).Meets (fun u => I u ∨ J u) fun s' _ => J s' := fun {a t} ha ht =>
    (activity_aside ha t).mono (fun _ hq => .inr (hI.aside ht hq)) fun _ _ hq => hI.aside ht hq
  unfold Worker.decidePolicy
  split_ifs
  · exact .inl h
  · exact .inl h
  · refine Code.modify_then ?_
    cases host.parseInstant command.recoveryDeadline with
    | none => exact .inl (hI.caseId h)
    | some deadline =>
      refine Code.modify_then (Proc.Meets.bind (fun t₂ normalized h₂ => ?_)
        (hact rfl (hI.input deadline (hI.caseId h))))
      refine Code.modify_then (Proc.Meets.bind (fun t₃ diagnosis h₃ => ?_)
        (hact rfl (hI.aside h₂ (.of_eq rfl rfl rfl rfl rfl rfl rfl rfl rfl rfl))))
      refine Code.modify_then (Proc.Meets.bind (fun t₄ _ h₄ => ?_)
        (hact rfl (hI.aside h₃ (.of_eq rfl rfl rfl rfl rfl rfl rfl rfl rfl rfl))))
      exact Code.modify_then
        (hact rfl (hI.aside h₄ (.of_eq rfl rfl rfl rfl rfl rfl rfl rfl rfl rfl)))

/-- A decision that is adopted is audited, and nothing else happens. -/
lemma adoptPolicy_aside {ok : Activity → Bool}
    (hok : ∀ a : Activity, a.incidental = true → ok a = true) (policy : PolicyResult)
    (s : Workflow) :
    (adoptPolicy policy s).Meets
      (Aside ok { s with
        policyDisposition := some policy.disposition, action := some policy.action }) fun s' _ =>
      Aside ok { s with
        policyDisposition := some policy.disposition, action := some policy.action } s' :=
  audit_aside hok _ _ _ _

/-! ## What no step changes -/

/-- The decision stays once it is adopted. -/
def SameDecision (s s' : Workflow) : Prop := s'.policyDisposition = s.policyDisposition

lemma Settles.sameDecision {ok : Activity → Bool} {s s' : Workflow} :
    Settles (Plain ok) s s' → SameDecision s s'
  | .inl h => h.policyDisposition
  | .inr ⟨_, _, _, h, he⟩ => he ▸ h.policyDisposition

lemma handleApproval_sameDecision (sig : ApprovalSignal) (s : Workflow) :
    (handleApproval sig s).Meets (SameDecision s) fun s' _ => SameDecision s s' := by
  have haudit : ∀ e c d (t : Workflow), SameDecision s t →
      (audit e c d t).Meets (SameDecision s) fun s' _ => SameDecision s s' := fun e c d t ht =>
    (audit_aside any_of_incidental e c d t).mono
      (fun _ hq => hq.policyDisposition.trans ht) fun _ _ hq => hq.policyDisposition.trans ht
  simp only [handleApproval, Code.bind_apply, Code.read_apply, Proc.bind]
  split_ifs
  · exact haudit _ _ _ s rfl
  · exact Code.modify_then (haudit _ _ _ _ rfl)

/-- A case whose decision is `d`. -/
theorem decision_durable (host : Host) (d : Option String) :
    Durable host fun s => s.policyDisposition = d where
  wait {s} timeout h := by
    have hw : (waitCondition timeout s).Meets (Aside anyActivity s) fun s' _ =>
      Aside anyActivity s s' := waitCondition_aside timeout s
    exact hw.mono (fun _ hq => hq.policyDisposition.trans h) fun _ _ hq =>
      hq.policyDisposition.trans h
  drainOne {s} h _ := by
    simp only [drainOne, Code.bind_apply, Code.read_apply, Proc.bind]
    cases s.signals with
    | nil => exact h
    | cons sig rest =>
      by_cases happroval : ∃ a, sig = .approval a
      · obtain ⟨a, rfl⟩ := happroval
        exact Code.modify_then ((handleApproval_sameDecision a _).mono (fun _ hq => hq.trans h)
          fun _ _ hq => hq.trans h)
      · have hother : ∀ a, sig ≠ .approval a := fun a he => happroval ⟨a, he⟩
        exact Code.modify_then ((plain_settles (settles_of_in
          (handle_aside any_of_incidental host sig (fun _ _ => rfl) hother)) _).mono (fun _ hq => hq.policyDisposition.trans h)
            fun _ _ hq => hq.sameDecision.trans h)
  expire h := (plain_settles (expire_aside any_of_incidental) _).mono
    (fun _ hq => hq.policyDisposition.trans h) fun _ _ hq => hq.sameDecision.trans h
  approvalChecked _ _ _ _ h := h

end RecoveryOS.Worker
