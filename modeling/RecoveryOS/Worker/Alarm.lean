import RecoveryOS.Worker.Mailbox

/-!
# No busy loop

Within one turn of the workflow the clock stands still, so a round of a loop that neither takes a
signal, nor requests an activity, nor waits, would be followed by the same round again. Every round
of the main loop and of the two waits does one of these things or leaves the loop (`Advances`), from
every state that the loop can begin a round in: the deadline is known there, and the alarm is set
only while the A2A task is known. An alarm in the past is turned off by the next round, which polls
unless it leaves the loop.
-/

namespace RecoveryOS.Worker

open Resume

/-! ## What a round begins with -/

/-- The round takes a signal, requests an activity, waits with a timeout that is positive, or leaves
the loop, be it by an exception. Only the bound on its drains stops it otherwise, after as many
signals. -/
def Advances (rounds : ℕ) (condition : Workflow → Bool) (s : Workflow) :
    Proc Await Await.Reply Workflow Bool → Prop
  | .await _ r _ => r.timely
  | .failed _ => True
  | .done s' leaves => leaves = true ∨ condition s' = false
    ∨ s.processedSignalCount < s'.processedSignalCount
  | .spent s' => s.processedSignalCount + rounds ≤ s'.processedSignalCount

/-- The first node is an activity or an exception, with the alarm and the clock as they were. -/
def Begins (s : Workflow) {α : Type} : Proc Await Await.Reply Workflow α → Prop
  | .await t (.activity _) _ => t.nextA2aPollAt = s.nextA2aPollAt ∧ t.now = s.now
  | .failed t => t.nextA2aPollAt = s.nextA2aPollAt ∧ t.now = s.now
  | _ => False

section
variable {α β : Type} {s : Workflow} {p : Proc Await Await.Reply Workflow α}
  {f : Workflow → α → Proc Await Await.Reply Workflow β}

lemma Begins.bind (h : Begins s p) : Begins s (p.bind f) := by
  cases p with
  | done t a => exact h.elim
  | failed t => exact h
  | spent t => exact h.elim
  | await t r k =>
    cases r with
    | activity a => exact h
    | waitCondition timeout => exact h.elim

lemma Begins.advances {rounds : ℕ} {condition : Workflow → Bool}
    {p : Proc Await Await.Reply Workflow Bool} (h : Begins s p) :
    Advances rounds condition s p := by
  cases p with
  | done t a => exact h.elim
  | failed t => trivial
  | spent t => exact h.elim
  | await t r k =>
    cases r with
    | activity a => trivial
    | waitCondition timeout => exact h.elim

lemma Begins.kept (h : Begins s p) :
    p.state.nextA2aPollAt = s.nextA2aPollAt ∧ p.state.now = s.now := by
  cases p with
  | done t a => exact h.elim
  | failed t => exact h
  | spent t => exact h.elim
  | await t r k =>
    cases r with
    | activity a => exact h
    | waitCondition timeout => exact h.elim

end

lemma requireInput_cases (s : Workflow) :
    requireInput s = .failed s ∨ ∃ command, requireInput s = .done s command := by
  cases hinput : s.input with
  | none =>
    left
    simp only [requireInput, Code.bind_apply, Code.read_apply, Proc.bind, hinput]
    rfl
  | some command =>
    right
    refine ⟨command, ?_⟩
    simp only [requireInput, Code.bind_apply, Code.read_apply, Proc.bind, hinput]
    rfl

/-- Every handler begins with an activity, except that one may find no input. -/
lemma handle_begins (host : Host) (sig : QueuedSignal) (s : Workflow) :
    Begins s (handle host sig s) := by
  cases sig with
  | approval sig =>
    simp only [handle, handleApproval, Code.bind_apply, Code.read_apply, Proc.bind]
    split_ifs
    · exact ⟨rfl, rfl⟩
    · exact ⟨rfl, rfl⟩
  | paymentEvent sig =>
    simp only [handle, handlePayment, Code.bind_apply]
    rcases requireInput_cases s with hinput | ⟨command, hinput⟩
    · rw [hinput]
      exact ⟨rfl, rfl⟩
    · rw [hinput]
      exact ⟨rfl, rfl⟩
  | customerIntent sig => exact ⟨rfl, rfl⟩
  | optOut sig => exact ⟨rfl, rfl⟩
  | cancellation sig => exact ⟨rfl, rfl⟩
  | operatorEscalation sig => exact ⟨rfl, rfl⟩
  | a2aUpdate sig =>
    simp only [handle, handleA2aUpdate, Code.bind_apply, Code.read_apply, Proc.bind]
    split_ifs
    · exact ⟨rfl, rfl⟩
    · exact ⟨rfl, rfl⟩
  | mandate sig => exact ⟨rfl, rfl⟩

/-- A drain does nothing, or is out of rounds at once, or begins to handle a signal. -/
lemma drainSignals_cases (host : Host) (rounds : ℕ) (s : Workflow) :
    drainSignals host rounds s = .done s () ∨
    (rounds = 0 ∧ drainSignals host rounds s = .spent s) ∨
    Begins s (drainSignals host rounds s) := by
  by_cases hc : (!s.signals.isEmpty && !s.terminal) = true
  · right
    cases rounds with
    | zero =>
      left
      refine ⟨rfl, ?_⟩
      simp only [drainSignals, Code.repeatWhile, Code.loop, if_pos hc]
    | succ n =>
      right
      simp only [drainSignals, Code.repeatWhile, Code.loop, if_pos hc]
      refine Begins.bind ?_
      cases hs : s.signals with
      | nil => simp [hs] at hc
      | cons sig rest =>
        have hhandle := handle_begins host sig (s.take sig rest)
        have hdrain : drainOne host s = handle host sig (s.take sig rest) := by
          simp only [drainOne, Code.bind_apply, Code.read_apply, Proc.bind, hs]
          rfl
        rw [Code.bind_apply, hdrain]
        exact Begins.bind hhandle
  · left
    cases rounds with
    | zero => simp only [drainSignals, Code.repeatWhile, Code.loop, if_neg hc]
    | succ n => simp only [drainSignals, Code.repeatWhile, Code.loop, if_neg hc]

/-- What follows a drain advances the loop if the drain does. -/
lemma drainSignals_advances {host : Host} {rounds : ℕ} {s : Workflow}
    {condition : Workflow → Bool} {f : Unit → Wf Bool}
    (h : drainSignals host rounds s = .done s () → Advances rounds condition s (f () s)) :
    Advances rounds condition s ((drainSignals host rounds >>= f) s) := by
  rw [Code.bind_apply]
  rcases drainSignals_cases host rounds s with hdone | ⟨rfl, hspent⟩ | hbegins
  · rw [hdone]
    exact h hdone
  · rw [hspent]
    exact le_refl _
  · exact hbegins.bind.advances

/-! ## The alarm -/

/-- The alarm is set only while the A2A task is known. -/
def Alarmed (s : Workflow) : Prop := s.nextA2aPollAt.isSome = true → s.a2aTaskId.isSome = true

/-- The deadline is known as well. -/
structure Watch (s : Workflow) : Prop where
  alarm : Alarmed s
  deadline : s.deadline.isSome = true

section
variable {s s' : Workflow}

lemma Alarmed.orderly (h : Alarmed s) (ho : Orderly s s') : Alarmed s' := by
  intro ha
  rcases ho.alarm ha with ha | ht
  · exact ho.task (h ha)
  · exact ht

lemma Alarmed.resume (h : Alarmed s) (now : Instant) (arrivals : List QueuedSignal) :
    Alarmed (s.resume now arrivals) := by
  obtain ⟨q, seen, d, he⟩ := resume_eq s now arrivals
  rw [he]
  exact h

lemma Watch.orderly (h : Watch s) (ho : Orderly s s') : Watch s' :=
  ⟨h.alarm.orderly ho, ho.deadline h.deadline⟩

lemma Watch.resume (h : Watch s) (now : Instant) (arrivals : List QueuedSignal) :
    Watch (s.resume now arrivals) := by
  refine ⟨h.alarm.resume now arrivals, ?_⟩
  obtain ⟨q, seen, d, he⟩ := resume_eq s now arrivals
  rw [he]
  exact h.deadline

/-- Tended code keeps the watch. -/
lemma TendedFrom.watch {α : Type} {c : Wf α} (hc : TendedFrom c s) (h : Watch s) :
    (c s).Meets Watch fun s' _ => Watch s' :=
  hc.2.meets (fun r x _ _ hs ha => (hs.resume (r.endedAt x) (r.arrivals x)).orderly ha.orderly)
    (h.orderly hc.1)

/-- An open case whose deadline is still to come waits, unless the poll is due. -/
lemma waitForSignalOrDeadline_waits (h : Watch s) (hpast : s.pastDeadline = false)
    (hdue : ∀ t, s.nextA2aPollAt = some t → s.now < t) :
    ∃ timeout k, 0 < timeout ∧
      waitForSignalOrDeadline s = .await s (.waitCondition timeout) k := by
  obtain ⟨deadline, hdeadline⟩ := Option.isSome_iff_exists.mp h.deadline
  have hlater : s.now < deadline := by
    simpa [Workflow.pastDeadline, hdeadline] using hpast
  simp only [waitForSignalOrDeadline, Code.bind_apply, Code.read_apply, Proc.bind, hdeadline]
  cases hpoll : s.nextA2aPollAt with
  | none =>
    have hpositive : ¬ deadline - s.now ≤ 0 := not_le.mpr (sub_pos.mpr hlater)
    simp only [if_neg hpositive]
    exact ⟨_, _, not_le.mp hpositive, rfl⟩
  | some t =>
    have hpositive : ¬ min deadline t - s.now ≤ 0 :=
      not_le.mpr (sub_pos.mpr (lt_min hlater (hdue t hpoll)))
    simp only [if_neg hpositive]
    exact ⟨_, _, not_le.mp hpositive, rfl⟩

end

/-- The poll is due: its task is known, and its time has come. -/
def PollDue (s : Workflow) : Prop :=
  s.a2aTaskId.isSome = true ∧ ∃ t, s.nextA2aPollAt = some t ∧ t ≤ s.now

/-- The alarm is off, or set for later. -/
def Rested (s : Workflow) : Prop := ∀ t, s.nextA2aPollAt = some t → s.now < t

/-- The next request is the poll, and its result turns off the alarm or sets it for later. -/
def Polls {α : Type} : Proc Await Await.Reply Workflow α → Prop
  | .await _ (.activity (.pollA2AMandate _)) k => ∀ x, x.result.isSome = true → Rested (k x).state
  | _ => False

/-- A poll that is not due is no step at all. -/
lemma pollA2aIfDue_of_not_due {s : Workflow} (h : ¬ PollDue s) : pollA2aIfDue s = .done s () := by
  simp only [pollA2aIfDue, Code.bind_apply, Code.read_apply, Proc.bind]
  cases htask : s.a2aTaskId with
  | none => rfl
  | some taskId =>
    cases hpoll : s.nextA2aPollAt with
    | none => rfl
    | some t =>
      have hearly : s.now < t := by
        by_contra hlate
        exact h ⟨by rw [htask]; rfl, t, hpoll, not_lt.mp hlate⟩
      simp only [if_pos hearly]
      rfl

/-- A poll that is due is requested, unless the case is finished or the run fails instead. -/
lemma pollA2aIfDue_of_due {s : Workflow} (h : PollDue s) :
    Polls (pollA2aIfDue s) ∨ (∃ t, pollA2aIfDue s = .failed t) ∨
      ∃ t, pollA2aIfDue s = .done t () ∧ t.terminal = true := by
  obtain ⟨htask, t, hpoll, hlate⟩ := h
  obtain ⟨taskId, htask⟩ := Option.isSome_iff_exists.mp htask
  simp only [pollA2aIfDue, Code.bind_apply, Code.read_apply, Proc.bind, htask, hpoll,
    if_neg (not_lt.mpr hlate)]
  rcases requireInput_cases s with hinput | ⟨command, hinput⟩
  · rw [hinput]
    exact .inr (.inl ⟨s, rfl⟩)
  · rw [hinput]
    simp only [Proc.bind]
    cases command.paymentSurfaceType with
    | none => exact .inr (.inr ⟨_, rfl, rfl⟩)
    | some surfaceType =>
      cases expectedPaymentSurfaceReference command with
      | none => exact .inr (.inr ⟨_, rfl, rfl⟩)
      | some surfaceReference =>
        cases command.recoveryActionId with
        | none => exact .inr (.inr ⟨_, rfl, rfl⟩)
        | some actionId =>
          cases command.failedInvoiceId with
          | none => exact .inr (.inr ⟨_, rfl, rfl⟩)
          | some invoiceId =>
            left
            intro x hx
            obtain ⟨result, hres⟩ := Option.isSome_iff_exists.mp hx
            simp only [hres, Proc.bind, Code.bind_apply, Code.modify_apply]
            by_cases hpending : result.verificationStatus = "PENDING"
            · simp only [if_pos hpending]
              intro t ht
              obtain rfl : _ + a2aPollInterval = t := Option.some.inj ht
              exact lt_add_of_pos_right _ (by decide)
            · simp only [if_neg hpending]
              intro t ht
              have hoff : (none : Option Instant) = some t := ht
              cases hoff

lemma Polls.bind {α β : Type} {p : Proc Await Await.Reply Workflow α}
    {f : Workflow → α → Proc Await Await.Reply Workflow β} (h : Polls p)
    (hf : ∀ s a, Rested s → Rested (f s a).state) : Polls (p.bind f) := by
  cases p with
  | done s a => exact h.elim
  | failed s => exact h.elim
  | spent s => exact h.elim
  | await s r k =>
    cases r with
    | waitCondition timeout => exact h.elim
    | activity a =>
      cases a with
      | pollA2AMandate command =>
        intro x hx
        have hrested := h x hx
        show Rested ((k x).bind f).state
        cases hk : k x with
        | done t b =>
          rw [hk] at hrested
          exact hf t b hrested
        | failed t => rwa [hk] at hrested
        | spent t => rwa [hk] at hrested
        | await t r' k' => rwa [hk] at hrested
      | _ => exact h.elim

/-! ## Each round advances -/

section
variable {host : Host} {rounds : ℕ} {s : Workflow}

theorem delayRound_advances (target : Instant) :
    Advances rounds (delayCondition target) s (delayRound host target rounds s) := by
  simp only [delayRound, Code.bind_apply, Code.read_apply, Proc.bind]
  split_ifs with htimeout
  · exact .inl rfl
  · exact not_le.mp htimeout

theorem approvalRound_advances (h : Watch s) (hoff : s.nextA2aPollAt = none) :
    Advances rounds approvalCondition s (approvalRound host rounds s) := by
  cases hpast : s.pastDeadline with
  | false =>
    obtain ⟨timeout, k, hpositive, hwait⟩ := waitForSignalOrDeadline_waits h hpast
      fun t ht => absurd (hoff.symm.trans ht) (by simp)
    simp only [approvalRound, Code.bind_apply, hwait, Proc.bind]
    exact hpositive
  | true =>
    obtain ⟨deadline, hdeadline⟩ := Option.isSome_iff_exists.mp h.deadline
    have hlate : deadline - s.now ≤ 0 := by
      have hreached : deadline ≤ s.now := by simpa [Workflow.pastDeadline, hdeadline] using hpast
      exact sub_nonpos.mpr hreached
    have hwait : waitForSignalOrDeadline s = .done s () := by
      simp only [waitForSignalOrDeadline, Code.bind_apply, Code.read_apply, Proc.bind, hdeadline,
        hoff, if_pos hlate]
      rfl
    have hround : approvalRound host rounds s = (drainSignals host rounds >>= fun _ =>
        checkApprovalDeadline >>= fun _ => pure false) s := by
      simp only [approvalRound, Code.bind_apply, hwait, Proc.bind, Proc.bind_assoc]
    rw [hround]
    refine drainSignals_advances fun _ => ?_
    -- the deadline is past, so the case is expired, and with it the wait is over
    simp only [checkApprovalDeadline, Code.bind_apply, Code.modify_apply, Code.read_apply, Proc.bind]
    have hpast' : (s.record (.approvalChecked s.terminal s.pastDeadline s.outcome
        s.deadlineOutcome)).pastDeadline = true := hpast
    rw [if_pos hpast']
    simp only [expire, Code.bind_apply, Proc.bind_assoc, cancelActiveAction, Code.read_apply,
      Proc.bind]
    split_ifs
    · exact .inr (.inl (by simp [approvalCondition, Workflow.finish]))
    · exact .inr (.inl (by simp [approvalCondition, Workflow.finish]))
    · trivial

theorem mainRound_advances (h : Watch s) (hopen : mainCondition s = true) :
    Advances rounds mainCondition s (mainRound host rounds s) := by
  have hlive : ¬ s.terminal = true := by simpa [mainCondition] using hopen
  refine drainSignals_advances fun hdrained => ?_
  simp only [Code.bind_apply, Code.read_apply, Proc.bind, if_neg hlive]
  cases hpast : s.pastDeadline with
  | true =>
    simp only [if_true, Code.bind_apply, expire, cancelActiveAction, Proc.bind_assoc,
      Code.read_apply, Proc.bind]
    split_ifs
    · exact .inl rfl
    · exact .inl rfl
    · trivial
  | false =>
    rw [if_neg Bool.false_ne_true, Code.bind_apply]
    by_cases hdue : PollDue s
    · rcases pollA2aIfDue_of_due hdue with hpoll | ⟨t, ht⟩ | ⟨t, ht, hterminal⟩
      · cases hp : pollA2aIfDue s with
        | done t a => exact absurd hpoll (by rw [hp]; exact id)
        | failed t => trivial
        | spent t => exact absurd hpoll (by rw [hp]; exact id)
        | await t r k =>
          rw [hp] at hpoll
          cases r with
          | activity a => trivial
          | waitCondition timeout => exact hpoll.elim
      · rw [ht]
        trivial
      · rw [ht]
        simp only [Proc.bind, Code.bind_apply, Code.read_apply, if_pos hterminal]
        exact .inl rfl
    · rw [pollA2aIfDue_of_not_due hdue]
      simp only [Proc.bind, Code.bind_apply, Code.read_apply, if_neg hlive]
      obtain ⟨timeout, k, hpositive, hwait⟩ := waitForSignalOrDeadline_waits h hpast fun t ht => by
        by_contra hlate
        exact hdue ⟨h.alarm (by rw [ht]; rfl), t, ht, not_lt.mp hlate⟩
      rw [hwait]
      exact hpositive

end

/-! ## A poll that is due -/

/-- Time does not go back while the workflow awaits something. -/
def onward (s : Workflow) (r : Await) (x : r.Reply) : Prop := s.now ≤ r.endedAt x

lemma PollDue.of_books {s s' : Workflow} (h : PollDue s) (hb : s'.books = s.books) : PollDue s' := by
  simp only [Workflow.books, Prod.mk.injEq] at hb
  obtain ⟨-, -, -, -, -, -, htask, halarm, -, hnow⟩ := hb
  rwa [PollDue, htask, halarm, hnow]

lemma PollDue.resume {s : Workflow} (h : PollDue s) {now : Instant} (hnow : s.now ≤ now)
    (arrivals : List QueuedSignal) : PollDue (s.resume now arrivals) := by
  obtain ⟨htask, t, hpoll, hlate⟩ := h
  obtain ⟨q, seen, d, he⟩ := resume_eq s now arrivals
  rw [he]
  exact ⟨htask, t, hpoll, hlate.trans hnow⟩

/-- Code that leaves a due poll due. -/
def Patient {α : Type} (c : Wf α) : Prop :=
  ∀ s, PollDue s → (c s).Comes onward (fun _ => False) fun s' _ => PollDue s'

lemma patient_bind {α β : Type} {c : Wf α} {f : α → Wf β} (hc : Patient c)
    (hf : ∀ a, Patient (f a)) : Patient (c >>= f) :=
  fun s hs => (hc s hs).andThen fun t a ht => hf a t ht

theorem Routine.patient {α : Type} {c : Wf α} (h : Routine c) : Patient c := by
  induction h with
  | pure a => exact fun s hs => hs
  | read => exact fun s hs => hs
  | fail => exact fun s hs => trivial
  | bind hc hf ihc ihf => exact patient_bind ihc ihf
  | activity a =>
    intro s hs
    refine .inr fun x hx => ?_
    have hdue : PollDue ((s.record (.requested a)).resume x.now x.arrivals) :=
      PollDue.resume (s := s.record (.requested a)) hs hx _
    cases hres : x.result with
    | none =>
      simp only [hres]
      trivial
    | some r =>
      simp only [hres]
      exact hdue
  | modify hg => exact fun s hs => hs.of_books (hg s)
  | finish outcome reason => exact fun s hs => hs

/-- The handlers that set the alarm set it for now. -/
lemma handleA2aUpdate_patient (sig : A2AUpdateSignal) : Patient (handleA2aUpdate sig) := by
  refine patient_bind Routine.read.patient fun s => ?_
  split_ifs
  · exact (audit_routine _ _ _).patient
  · refine patient_bind (Routine.modify fun _ => rfl).patient fun _ => ?_
    refine patient_bind (audit_routine _ _ _).patient fun _ => ?_
    exact fun t ht => ⟨ht.1, t.now, rfl, le_refl _⟩

lemma handleMandate_patient (sig : MandateSignal) : Patient (handleMandate sig) := by
  refine patient_bind (audit_routine _ _ _).patient fun _ => fun t ht => ?_
  show PollDue (if t.a2aTaskId = none then t else { t with nextA2aPollAt := some t.now })
  split_ifs
  · exact ht
  · exact ⟨ht.1, t.now, rfl, le_refl _⟩

lemma handle_patient (host : Host) : ∀ sig, Patient (handle host sig)
  | .approval sig => (handleApproval_routine sig).patient
  | .paymentEvent sig => (handlePayment_routine sig).patient
  | .customerIntent sig => (handleCustomerIntent_routine host sig).patient
  | .optOut sig => (handleOptOut_routine sig).patient
  | .cancellation sig => (handleCancellation_routine sig).patient
  | .operatorEscalation sig => (handleOperatorEscalation_routine sig).patient
  | .a2aUpdate sig => handleA2aUpdate_patient sig
  | .mandate sig => handleMandate_patient sig

lemma drainOne_patient (host : Host) : Patient (drainOne host) := by
  intro s hs
  simp only [drainOne, Code.bind_apply, Code.read_apply, Proc.bind]
  cases s.signals with
  | nil => exact hs
  | cons sig rest => exact handle_patient host sig (s.take sig rest) hs

lemma drainSignals_patient (host : Host) (rounds : ℕ) : Patient (drainSignals host rounds) :=
  fun s hs => Code.loop_comes (fun t ht _ =>
    patient_bind (drainOne_patient host) (fun _ => (Routine.pure false).patient) t ht) rounds s hs

/-- What is left of a round after the poll keeps the alarm up to its next await. -/
lemma rest_rested (host : Host) (rounds : ℕ) {s : Workflow} (h : Rested s) :
    Rested ((do
      let s ← Code.read
      if s.terminal then
        pure true
      else do
        waitForSignalOrDeadline
        drainSignals host rounds
        pure false : Wf Bool) s).state := by
  have hdrain : Rested ((drainSignals host rounds >>= fun _ => (pure false : Wf Bool)) s).state := by
    rw [Code.bind_apply]
    rcases drainSignals_cases host rounds s with hdone | ⟨-, hspent⟩ | hbegins
    · rwa [hdone]
    · rwa [hspent]
    · obtain ⟨halarm, hnow⟩ := (hbegins.bind (f := fun s' _ => .done s' false)).kept
      intro t ht
      have hlater := h t (halarm.symm.trans ht)
      exact hnow ▸ hlater
  simp only [Code.bind_apply, Code.read_apply, Proc.bind]
  split_ifs
  · exact h
  · rw [Code.bind_apply]
    simp only [waitForSignalOrDeadline, Code.bind_apply, Code.read_apply, Proc.bind]
    cases s.deadline with
    | none => exact hdrain
    | some deadline =>
      dsimp only
      split_ifs
      · exact hdrain
      · exact h

/-- A round that is begun when the poll is due polls, unless it leaves the loop before. -/
theorem mainRound_polls {host : Host} {rounds : ℕ} {s : Workflow} (h : PollDue s) :
    (mainRound host rounds s).Comes onward Polls fun _ leaves => leaves = true := by
  refine (drainSignals_patient host rounds s h).andThen fun t _ ht => ?_
  simp only [Code.bind_apply, Code.read_apply, Proc.bind]
  split_ifs with hterminal hpast
  · rfl
  · rw [Code.bind_apply]
    refine (expire_routine.patient t ht).andThen fun u _ _ => ?_
    exact (rfl : true = true)
  · rw [Code.bind_apply]
    rcases pollA2aIfDue_of_due ht with hpoll | ⟨u, hu⟩ | ⟨u, hu, hfinished⟩
    · have hpolls := hpoll.bind (f := fun u a => (do
          let s ← Code.read
          if s.terminal then
            pure true
          else do
            waitForSignalOrDeadline
            drainSignals host rounds
            pure false : Wf Bool) u) fun u _ hu => rest_rested host rounds hu
      cases hp : pollA2aIfDue t with
      | done u a => exact absurd hpoll (by rw [hp]; exact id)
      | failed u => trivial
      | spent u => trivial
      | await u r k =>
        rw [hp] at hpolls
        exact .inl hpolls
    · rw [hu]
      trivial
    · rw [hu]
      simp only [Proc.bind, Code.bind_apply, Code.read_apply, if_pos hfinished]
      rfl

/-! ## The states that a round begins in -/

section
variable (host : Host) (rounds : ℕ) (workflowId : String) (command : RecoveryWorkflowInput)
  (now : Instant) (arrivals : List QueuedSignal)

/-- A state that a run of the workflow can begin a round of its loop in. -/
def MainHead (s : Workflow) : Prop :=
  ∃ s₀, (reachMainLoop host rounds workflowId command (start now arrivals)).CanEnd s₀ true ∧
    Code.Head mainCondition (mainRound host rounds) s₀ s

/-- The same of the wait for an approval. -/
def ApprovalHead (s : Workflow) : Prop :=
  ∃ s₀ policy, (reachDecision host workflowId command (start now arrivals)).CanEnd s₀ policy ∧
    policy.disposition = "REQUIRE_MANUAL_APPROVAL" ∧
    Code.Head approvalCondition (approvalRound host rounds)
      { s₀ with approvalRequired := true, phase := .awaitingApproval } s

/-- The same of the delay until `target`. -/
def DelayHead (target : Instant) (s : Workflow) : Prop :=
  ∃ s₀ policy, (reachDecision host workflowId command (start now arrivals)).CanEnd s₀ policy ∧
    policy.disposition = "DELAY" ∧ policy.delayUntil.bind host.parseInstant = some target ∧
    Code.Head (delayCondition target) (delayRound host target rounds)
      { s₀ with phase := .policyDelay } s

end

section
variable {host : Host} {rounds : ℕ} {workflowId : String} {command : RecoveryWorkflowInput}
  {now : Instant} {arrivals : List QueuedSignal} {s : Workflow}

lemma start_eq (now : Instant) (arrivals : List QueuedSignal) :
    (start now arrivals).nextA2aPollAt = none ∧ (start now arrivals).a2aTaskId = none := by
  obtain ⟨q, seen, d, he⟩ := resume_eq { now } now arrivals
  rw [start, he]
  exact ⟨rfl, rfl⟩

/-- Without an alarm, the decision is reached with the deadline known. -/
lemma decidePolicy_watch (h : s.nextA2aPollAt = none) :
    (decidePolicy host workflowId command s).Meets (fun _ => True) fun s' _ => Watch s' := by
  unfold decidePolicy
  split_ifs
  · trivial
  · trivial
  · refine Code.modify_then ?_
    cases host.parseInstant command.recoveryDeadline with
    | none => trivial
    | some deadline =>
      refine Code.modify_then ?_
      have hwatch : Watch { s with
          caseId := command.caseId, deadline := some deadline, input := some command } :=
        ⟨fun ha => absurd ha (by simp [h]), rfl⟩
      refine (TendedFrom.watch (Tended.from (Routine.tended ?_) _) hwatch).mono
        (fun _ _ => trivial) fun _ _ hs => hs
      refine .bind (.activity _) fun normalized => .bind (.modify fun _ => rfl) fun _ => ?_
      refine .bind (.activity _) fun diagnosis => .bind (.modify fun _ => rfl) fun _ => ?_
      exact .bind (.activity _) fun _ => .bind (.modify fun _ => rfl) fun _ => .activity _

/-- The decision is reached with the deadline known and without an A2A task. -/
lemma reachDecision_watch :
    (reachDecision host workflowId command (start now arrivals)).Meets (fun _ => True)
      fun s' _ => Watch s' ∧ s'.a2aTaskId = none := by
  obtain ⟨hoff, htask⟩ := start_eq now arrivals
  refine Proc.Meets.bind (fun t policy ht => ?_) (((decidePolicy_watch hoff).and
    (decidePolicy_silent host workflowId command _)).mono (fun _ _ => trivial) fun _ _ hs => hs)
  have hadopt := ((adoptPolicy_tended policy).from t).watch ht.1
  refine Proc.Meets.bind (fun u _ hu => ?_) ((hadopt.and (adoptPolicy_meets policy t)).mono
    (fun _ _ => trivial) fun _ _ hs => hs)
  exact ⟨hu.1, hu.2.1.a2aTaskId.trans (ht.2.a2aTaskId.trans htask)⟩

lemma reachMainLoop_watch :
    (reachMainLoop host rounds workflowId command (start now arrivals)).Meets (fun _ => True)
      fun s' _ => Watch s' := by
  refine Proc.Meets.bind (fun t policy ht => ?_) reachDecision_watch
  exact (((enterMainLoop_tended host rounds policy).from t).watch ht.1).mono
    (fun _ _ => trivial) fun _ _ hs => hs

lemma MainHead.watch (h : MainHead host rounds workflowId command now arrivals s) : Watch s := by
  obtain ⟨s₀, hreach, hhead⟩ := h
  exact hhead.keeps (reachMainLoop_watch.canEnd hreach) fun t ht _ =>
    ((mainRound_tended host rounds).from t).watch ht

/-- The waits do not begin an A2A task. -/
lemma untasked_stable : Stable fun s => s.a2aTaskId = none where
  quiet h hq := hq.a2aTaskId.trans h
  take _ _ h := h
  finish _ _ h := h
  approvalChecked _ _ _ _ h := h

lemma approvalRound_untasked (h : s.a2aTaskId = none) (hopen : s.terminal = false) :
    (approvalRound host rounds s).Meets (fun s => s.a2aTaskId = none)
      fun s' _ => s'.a2aTaskId = none := by
  have hkeep := (untasked_stable.durable host).enduring
  refine (Proc.tells_iff_meets (h := [])).mp (Proc.Tells.bind (fun _ _ _ ht => ht) ?_)
  refine Proc.Tells.bind (fun h₁ t₁ _ ht₁ => ?_) (hkeep.waitForSignalOrDeadline h hopen)
  refine Proc.Tells.bind (fun h₂ t₂ _ ht₂ => ?_) (hkeep.drainSignals rounds ht₁)
  refine Code.modify_then_tells ?_
  simp only [Code.bind_apply, Code.read_apply, Proc.bind]
  split_ifs
  · exact hkeep.expire ht₂.1
  · exact ht₂.1

lemma ApprovalHead.watch (h : ApprovalHead host rounds workflowId command now arrivals s) :
    Watch s ∧ s.nextA2aPollAt = none := by
  obtain ⟨s₀, policy, hreach, -, hhead⟩ := h
  obtain ⟨hwatch₀, htask₀⟩ := reachDecision_watch.canEnd hreach
  have hwatch : Watch s := by
    exact hhead.keeps (P := Watch) ⟨hwatch₀.alarm, hwatch₀.deadline⟩ fun t ht _ =>
      ((approvalRound_tended host rounds).from t).watch ht
  have htask : s.a2aTaskId = none := by
    refine hhead.keeps (I := fun t : Workflow => t.a2aTaskId = none)
      (P := fun t => t.a2aTaskId = none) htask₀ fun t ht hc => ?_
    simp only [approvalCondition, Bool.and_eq_true, Bool.not_eq_true'] at hc
    exact approvalRound_untasked ht hc.2
  refine ⟨hwatch, ?_⟩
  by_contra hset
  have hknown := hwatch.alarm (Option.isSome_iff_ne_none.mpr hset)
  rw [htask] at hknown
  cases hknown

end

lemma start_alarmed (now : Instant) (arrivals : List QueuedSignal) :
    Alarmed (start now arrivals) := by
  intro ha
  rw [(start_eq now arrivals).1] at ha
  cases ha

/-- In every run the alarm is set only while the A2A task is known, and no wait has a timeout that
is not positive. Every round of each loop advances, from every state that the loop can begin a round
in; and a round of the main loop that begins with the alarm in the past polls, or leaves the loop
before it. -/
theorem no_busy_loop (host : Host) (rounds : ℕ) (workflowId : String)
    (command : RecoveryWorkflowInput) (now : Instant) (arrivals : List QueuedSignal) :
    (∀ env n,
      Alarmed ((run host rounds workflowId command (start now arrivals)).follow env n).state) ∧
    (run host rounds workflowId command (start now arrivals)).Asks Await.timely ∧
    (∀ s, MainHead host rounds workflowId command now arrivals s → mainCondition s = true →
      Advances rounds mainCondition s (mainRound host rounds s)) ∧
    (∀ s, ApprovalHead host rounds workflowId command now arrivals s →
      Advances rounds approvalCondition s (approvalRound host rounds s)) ∧
    (∀ target s, DelayHead host rounds workflowId command now arrivals target s →
      Advances rounds (delayCondition target) s (delayRound host target rounds s)) ∧
    ∀ s t, MainHead host rounds workflowId command now arrivals s → s.nextA2aPollAt = some t →
      t ≤ s.now →
      (mainRound host rounds s).Comes onward Polls fun _ leaves => leaves = true := by
  obtain ⟨horderly, hmoves⟩ :=
    (run_tended host rounds workflowId command).from (start now arrivals)
  refine ⟨fun env n => ?_, ?_, fun s hs hopen => mainRound_advances hs.watch hopen,
    fun s hs => approvalRound_advances hs.watch.1 hs.watch.2,
    fun target s _ => delayRound_advances target, fun s t hs hset hlate => ?_⟩
  · have hbegin : Alarmed (run host rounds workflowId command (start now arrivals)).state :=
      (start_alarmed now arrivals).orderly horderly
    exact ((hmoves.meets (fun r x _ _ hs ha => (hs.resume _ _).orderly ha.orderly) hbegin).follow
      n env).state fun _ _ hs => hs
  · exact hmoves.asks fun _ _ _ _ ha => ha.timely
  · exact mainRound_polls ⟨hs.watch.alarm (by rw [hset]; rfl), t, hset, hlate⟩

end RecoveryOS.Worker
