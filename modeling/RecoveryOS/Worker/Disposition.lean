import RecoveryOS.Worker.Bystander
import RecoveryOS.Worker.Suppression
import RecoveryOS.Worker.Terminal

/-!
# The disposition of a customer who opted out

`_suppress_outreach` sets its flag for good, but the disposition that goes with it is the field that
every customer intent writes. A customer who opts out and then says anything else is reported as
engaged, as disputing or as having paid, with the outreach still suppressed.

`Unanswered` says that no such signal of a run is drained after a suppressing one, and
`suppression_reported` that the run then reports the opt-out, or the wrong person, for as long as
its outreach is suppressed.
-/

namespace RecoveryOS.Worker

open Resume History

/-- A customer intent other than to opt out or to be the wrong person. -/
def Entry.answers (host : Host) : Entry → Bool
  | .drained (.customerIntent sig) _ _ => !suppressing host (.customerIntent sig)
  | _ => false

/-- No other intent of the customer is drained after a suppressing signal. -/
def Unanswered (host : Host) : List Entry → Prop :=
  Causal fun l e => e.answers host = true → ∀ e' ∈ l, e'.suppresses host = false

instance (host : Host) (h : List Entry) : Decidable (Unanswered host h) :=
  inferInstanceAs (Decidable (Causal
    (fun l e => e.answers host = true → ∀ e' ∈ l, e'.suppresses host = false) h))

/-- The dispositions that suppression stands for. -/
def ofSuppression : ContactDisposition → Bool
  | .optedOut => true
  | .wrongPerson => true
  | _ => false

/-- While outreach is suppressed, the disposition says so, and a result reports that disposition. -/
structure SuppressionReported (p : Proc Await Await.Reply Workflow RecoveryWorkflowResult) :
    Prop where
  recorded : p.state.outreachSuppressed = true →
    p.state.contactDisposition = .optedOut ∨ p.state.contactDisposition = .wrongPerson
  reported : p.state.outreachSuppressed = true → ∀ s a, p = .done s a →
    a.contactDisposition = .optedOut ∨ a.contactDisposition = .wrongPerson

section
variable {host : Host} {s s' : Workflow}

/-- A suppressing signal was drained. -/
def Suppressed (host : Host) (s : Workflow) : Prop :=
  ∃ e ∈ s.history, e.suppresses host = true

/-- What holds at every point of a run. -/
structure Sticky (host : Host) (s : Workflow) : Prop where
  grounds : s.outreachSuppressed = true → Suppressed host s
  disposition : Unanswered host s.history → s.outreachSuppressed = true →
    ofSuppression s.contactDisposition = true

/-- While a suppressing signal is handled. -/
structure OptingOut (host : Host) (s : Workflow) : Prop where
  grounds : Suppressed host s
  disposition : ofSuppression s.contactDisposition = true

/-- While another intent is handled: the flag is not set, or the run is not unanswered. -/
structure Answering (host : Host) (s : Workflow) : Prop where
  grounds : s.outreachSuppressed = true → Suppressed host s
  flag : Unanswered host s.history → s.outreachSuppressed = false

lemma Suppressed.apart (h : Suppressed host s) (ha : Apart s s') : Suppressed host s' := by
  obtain ⟨e, he, hs⟩ := h
  obtain ⟨l, hl, -⟩ := ha.history
  exact ⟨e, hl ▸ List.mem_append_left l he, hs⟩

lemma Unanswered.apart (h : Unanswered host s'.history) (ha : Apart s s') :
    Unanswered host s.history := by
  obtain ⟨l, hl, -⟩ := ha.history
  rw [hl] at h
  exact Causal.left h

lemma OptingOut.sticky (h : OptingOut host s) : Sticky host s :=
  ⟨fun _ => h.grounds, fun _ _ => h.disposition⟩

lemma Answering.sticky (h : Answering host s) : Sticky host s := by
  refine ⟨h.grounds, fun hu hs => ?_⟩
  rw [h.flag hu] at hs
  exact absurd hs (by simp)

lemma Sticky.apart (h : Sticky host s) (ha : Apart s s') : Sticky host s' where
  grounds hs := (h.grounds (ha.outreachSuppressed ▸ hs)).apart ha
  disposition hu hs := by
    rw [ha.contactDisposition]
    exact h.disposition (hu.apart ha) (ha.outreachSuppressed ▸ hs)

lemma OptingOut.apart (h : OptingOut host s) (ha : Apart s s') : OptingOut host s' :=
  ⟨h.grounds.apart ha, ha.contactDisposition ▸ h.disposition⟩

lemma Answering.apart (h : Answering host s) (ha : Apart s s') : Answering host s' where
  grounds hs := (h.grounds (ha.outreachSuppressed ▸ hs)).apart ha
  flag hu := ha.outreachSuppressed.trans (h.flag (hu.apart ha))

lemma Sticky.meets {α : Type} {c : Wf α} (h : Sticky host s) (hc : Within Apart c) :
    (c s).Meets (Sticky host) fun s' _ => Sticky host s' :=
  (hc s).mono (fun _ ha => h.apart ha) fun _ _ ha => h.apart ha

lemma OptingOut.meets {α : Type} {c : Wf α} (h : OptingOut host s) (hc : Within Apart c) :
    (c s).Meets (OptingOut host) fun s' _ => OptingOut host s' :=
  (hc s).mono (fun _ ha => h.apart ha) fun _ _ ha => h.apart ha

lemma Answering.meets {α : Type} {c : Wf α} (h : Answering host s) (hc : Within Apart c) :
    (c s).Meets (Answering host) fun s' _ => Answering host s' :=
  (hc s).mono (fun _ ha => h.apart ha) fun _ _ ha => h.apart ha

/-- Taking a signal that says nothing about the customer. -/
lemma Sticky.take (h : Sticky host s) (sig : QueuedSignal) (rest : List QueuedSignal) :
    Sticky host (s.take sig rest) where
  grounds hs := by
    obtain ⟨e, he, hes⟩ := h.grounds hs
    exact ⟨e, List.mem_append_left _ he, hes⟩
  disposition hu hs := h.disposition (Causal.left hu) hs

/-- Another intent is allowed only where nothing was suppressed, and there the flag is not set. -/
lemma Sticky.answering (h : Sticky host s) {sig : CustomerIntentSignal}
    (hsig : suppressing host (.customerIntent sig) = false) (rest : List QueuedSignal) :
    Answering host (s.take (.customerIntent sig) rest) where
  grounds := (h.take _ rest).grounds
  flag hu := by
    have hnone := (causal_snoc.mp hu).2 (by simp [Entry.answers, hsig])
    by_contra hflag
    obtain ⟨e, he, hes⟩ := h.grounds (Bool.of_not_eq_false hflag)
    rw [hnone e he] at hes
    exact absurd hes (by simp)

lemma suppressed_take {sig : QueuedSignal} (h : suppressing host sig = true) (s : Workflow)
    (rest : List QueuedSignal) : Suppressed host (s.take sig rest) :=
  ⟨.drained sig s.action s.a2aTaskId, by simp [Workflow.take], h⟩

/-! ## The handlers -/

/-- Suppressing outreach, with the disposition written already. -/
lemma suppressOutreach_optingOut (signalId disposition : String) (h : OptingOut host s) :
    (suppressOutreach signalId disposition s).Meets (OptingOut host)
      fun s' _ => OptingOut host s' := by
  have hflag : OptingOut host { s with outreachSuppressed := true } := ⟨h.grounds, h.disposition⟩
  refine Code.modify_then (hflag.meets ?_)
  refine .bind (cancelActiveAction_idle _).apart fun _ => ?_
  refine .bind (audit_idle _ _ _).apart fun _ => ?_
  exact .modify fun _ => .of_eq rfl rfl rfl

lemma handleOptOut_optingOut (sig : OptOutSignal) (h : Suppressed host s) :
    (handleOptOut sig s).Meets (OptingOut host) fun s' _ => OptingOut host s' := by
  have hd : OptingOut host { s with contactDisposition := .optedOut } := ⟨h, rfl⟩
  refine Code.modify_then (Proc.Meets.bind (fun t _ ht => ?_)
    (hd.meets (audit_idle _ _ _).apart))
  exact suppressOutreach_optingOut _ _ ht

lemma ofSuppression_intent {intent : String} (h : intent ∈ ["OPT_OUT", "WRONG_PERSON"]) :
    ofSuppression (intentDisposition intent).1 = true := by
  simp only [List.mem_cons, List.not_mem_nil, or_false] at h
  rcases h with rfl | rfl
  · rfl
  · rfl

lemma handleCustomerIntent_optingOut (sig : CustomerIntentSignal)
    (hsig : suppressing host (.customerIntent sig) = true) (h : Suppressed host s) :
    (handleCustomerIntent host sig s).Meets (OptingOut host) fun s' _ => OptingOut host s' := by
  have hintent : host.upper sig.intent ∈ ["OPT_OUT", "WRONG_PERSON"] := by
    simpa only [suppressing, decide_eq_true_eq] using hsig
  have hd : OptingOut host
      { s with contactDisposition := (intentDisposition (host.upper sig.intent)).1 } :=
    ⟨h, ofSuppression_intent hintent⟩
  refine Code.modify_then (Proc.Meets.bind (fun t _ ht => ?_)
    (hd.meets (audit_idle _ _ _).apart))
  rw [if_pos hintent]
  exact suppressOutreach_optingOut _ _ ht

/-- Any other intent writes the disposition, and leaves the flag alone. -/
lemma handleCustomerIntent_answering (sig : CustomerIntentSignal)
    (hsig : suppressing host (.customerIntent sig) = false) (h : Answering host s) :
    (handleCustomerIntent host sig s).Meets (Answering host) fun s' _ => Answering host s' := by
  have hintent : host.upper sig.intent ∉ ["OPT_OUT", "WRONG_PERSON"] := by
    simpa only [suppressing, decide_eq_false_iff_not] using hsig
  have hd : Answering host
      { s with contactDisposition := (intentDisposition (host.upper sig.intent)).1 } :=
    ⟨h.grounds, h.flag⟩
  refine Code.modify_then
    (hd.meets (.bind (audit_idle _ _ _).apart fun _ => ?_))
  rw [if_neg hintent]
  split_ifs
  · exact .bind (cancelActiveAction_idle _).apart fun _ => (finish_idle (by decide) _).apart
  · refine .bind requireInput_idle.apart fun command => ?_
    refine .bind (activity_apart _) fun r => ?_
    refine .bind (.modify fun s => applyReconciliation_apart s r) fun _ => ?_
    exact recoverIfAuthoritative_apart r _
  · exact .pure _

theorem handle_sticky (h : Sticky host s) (sig : QueuedSignal) (rest : List QueuedSignal) :
    (handle host sig (s.take sig rest)).Meets (Sticky host) fun s' _ => Sticky host s' := by
  have ht : Sticky host (s.take sig rest) := h.take sig rest
  cases sig with
  | customerIntent sig =>
    cases hsig : suppressing host (.customerIntent sig) with
    | true =>
      exact (handleCustomerIntent_optingOut sig hsig (suppressed_take hsig s rest)).mono
        (fun _ ho => ho.sticky) fun _ _ ho => ho.sticky
    | false =>
      exact (handleCustomerIntent_answering sig hsig (h.answering hsig rest)).mono
        (fun _ ha => ha.sticky) fun _ _ ha => ha.sticky
  | optOut sig =>
    exact (handleOptOut_optingOut sig (suppressed_take rfl s rest)).mono
      (fun _ ho => ho.sticky) fun _ _ ho => ho.sticky
  | paymentEvent sig => exact ht.meets (handlePayment_apart sig)
  | approval sig => exact ht.meets (handleApproval_idle sig).apart
  | cancellation sig => exact ht.meets (handleCancellation_idle sig).apart
  | operatorEscalation sig =>
    exact ht.meets (handleOperatorEscalation_idle sig).apart
  | a2aUpdate sig => exact ht.meets (handleA2aUpdate_idle sig).apart
  | mandate sig => exact ht.meets (handleMandate_idle sig).apart

/-! ## The run -/

theorem sticky_durable (host : Host) : Durable host (Sticky host) where
  wait timeout h := h.meets (waitCondition_idle timeout).apart
  drainOne {s} h _ := by
    simp only [drainOne, Code.bind_apply, Code.read_apply, Proc.bind]
    cases s.signals with
    | nil => exact h
    | cons sig rest => exact Code.modify_then (handle_sticky h sig rest)
  expire h := h.meets expire_idle.apart
  approvalChecked _ _ _ _ h := h.apart (Bystander.record _ rfl).toApart

theorem run_sticky (host : Host) (rounds : ℕ) (workflowId : String)
    (command : RecoveryWorkflowInput) (h : Sticky host s) :
    (run host rounds workflowId command s).Meets (Sticky host) fun s' _ => Sticky host s' := by
  have hdurable := sticky_durable host
  have hphase : ∀ {t : Workflow} phase, Sticky host t → Sticky host { t with phase } :=
    fun _ ht => ht.apart (.of_eq rfl rfl rfl)
  refine Proc.Meets.bind (fun t policy ht => ?_)
    (h.meets (decidePolicy_apart host workflowId command))
  refine Proc.Meets.bind (fun u _ hu => ?_)
    (ht.meets (adoptPolicy_idle policy).apart)
  split_ifs
  · exact hu.apart (.finish u _ _)
  · have hwait := hdurable.enduring.awaitPolicy (h := []) rounds policy hu
      (fun phase => hphase phase hu) (hu.apart (.of_eq rfl rfl rfl)) (fun _ _ _ => hphase _ hu)
      fun hv => hv.apart (.finish _ _ _)
    refine Proc.Meets.bind (fun v go hv => ?_)
      (Proc.tells_iff_meets.mp (hwait.mono (fun _ _ hv => hv) fun _ _ _ hv => hv.1))
    cases go with
    | false => exact hv
    | true =>
      refine Proc.Meets.bind (fun w _ hw => ?_)
        (hv.meets (beginAction_idle policy).apart)
      refine Proc.tells_iff_meets (h := []) |>.mp (hdurable.enduring.awaitRecovery
        (fun phase hw => hphase phase hw) (fun hw _ => ?_) rounds hw)
      exact Proc.tells_iff_meets.mpr (hw.meets pollA2aIfDue_idle.apart)

lemma start_sticky (host : Host) (now : Instant) (arrivals : List QueuedSignal) :
    Sticky host (start now arrivals) := by
  have h : Sticky host ({ now } : Workflow) := ⟨fun h => by simp at h, fun _ h => by simp at h⟩
  exact h.apart (Bystander.resume _ now arrivals).toApart

end

lemma ofSuppression_iff {d : ContactDisposition} :
    ofSuppression d = true ↔ d = .optedOut ∨ d = .wrongPerson := by
  cases d <;> simp [ofSuppression]

/-- In a run that drains no other intent of the customer after a suppressing signal, a suppressed
case is recorded and reported as opted out or as the wrong person. -/
theorem suppression_reported (host : Host) (rounds : ℕ) (workflowId : String)
    (command : RecoveryWorkflowInput) (now : Instant) (arrivals : List QueuedSignal)
    (env : ℕ → (r : Await) → r.Reply) (n : ℕ)
    (hu : Unanswered host
      ((run host rounds workflowId command (start now arrivals)).follow env n).state.history) :
    SuppressionReported
      ((run host rounds workflowId command (start now arrivals)).follow env n) := by
  have hsticky := run_sticky host rounds workflowId command (start_sticky host now arrivals)
  have hm := hsticky.follow n env
  have hr := (run_meets host rounds workflowId command (start_live now arrivals)).follow n env
  generalize (run host rounds workflowId command (start now arrivals)).follow env n = p at hm hr hu
  have hrecorded : p.state.outreachSuppressed = true →
      p.state.contactDisposition = .optedOut ∨ p.state.contactDisposition = .wrongPerson :=
    fun hs => ofSuppression_iff.mp ((hm.state fun _ _ h => h).disposition hu hs)
  refine ⟨hrecorded, fun hs s a hp => ?_⟩
  subst hp
  rw [hr.2]
  exact hrecorded hs

/-- The customer opts out once the payment surface is open, and sends `intent` during the next
await. -/
def answeredRun (intent : String) (n : ℕ) :
    Proc Await Await.Reply Workflow RecoveryWorkflowResult :=
  (run { sampleHost with upper := id } 9 "recovery-case:case_1" sampleInput (start 0 [])).follow
    (wellEnv (openSurface "ALLOW" none) (fun k => 1000000 * k) fun k =>
      if k = 6 then [.optOut { signalId := "s1", source := "voice" }]
      else if k = 7 then
        [.customerIntent { signalId := "s2", intent, confidence := none }]
      else []) n

/-- A wrong person who has opted out. -/
theorem wrong_person_reported :
    (answeredRun "WRONG_PERSON" 12).state.outreachSuppressed = true ∧
      SuppressionReported (answeredRun "WRONG_PERSON" 12) :=
  ⟨by decide +kernel, suppression_reported _ _ _ _ _ _ _ _ (by decide +kernel)⟩

/-- A customer who opts out and then promises to pay: the case ends with outreach suppressed, and
is reported as a promise to pay. -/
theorem promise_after_opt_out :
    (answeredRun "PROMISE_TO_PAY" 11).state.contactDisposition = .promiseToPay ∧
      ¬ SuppressionReported (answeredRun "PROMISE_TO_PAY" 11) := by
  have hd : (answeredRun "PROMISE_TO_PAY" 11).state.contactDisposition = .promiseToPay := by
    decide +kernel
  refine ⟨hd, fun h => ?_⟩
  rcases h.recorded (by decide +kernel) with ho | ho
  · exact absurd (hd.symm.trans ho) (by decide)
  · exact absurd (hd.symm.trans ho) (by decide)

end RecoveryOS.Worker
