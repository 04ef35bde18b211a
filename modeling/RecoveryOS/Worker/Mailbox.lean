import RecoveryOS.Lib.Moves
import RecoveryOS.Worker.Rounds
import RecoveryOS.Worker.Steps

/-!
# The mailbox of a workflow

Signals are enqueued only while `run` awaits something, and taken out of the queue only by a drain.
So what was ever queued is what was handled, in order, and then what is queued still: between two
awaits this sequence stays (`Orderly`), and an await adds to it the signals that arrived meanwhile
whose ids are new.

The same walk through `run` keeps watch on its alarm: the time of the next poll is set only where
the A2A task is known, the deadline stays once it is known, and no wait has a timeout that is not
positive.

Most of the code does nothing to either: it is `Routine`, built from activities, `_finish` and updates
of other fields. The drains, the waits and the places that set the alarm are looked at one by one.
-/

namespace RecoveryOS.Worker

open Resume

/-- The signals that were taken out of the queue, in order. -/
def handled (history : List Entry) : List QueuedSignal :=
  history.filterMap fun e => match e with
    | .drained sig _ _ => some sig
    | _ => none

/-- The time an await ended. -/
def Await.endedAt : (r : Await) → r.Reply → Instant
  | .activity _, x => x.now
  | .waitCondition _, x => x.now

/-- The signals that were sent during an await. -/
def Await.arrivals : (r : Await) → r.Reply → List QueuedSignal
  | .activity _, x => x.arrivals
  | .waitCondition _, x => x.arrivals

instance : ∀ r : Await, Nonempty r.Reply
  | .activity _ => ⟨{ now := 0, arrivals := [], result := none }⟩
  | .waitCondition _ => ⟨{ now := 0, arrivals := [], result := () }⟩

/-- An activity, or a wait with a timeout that is positive. -/
def Await.timely : Await → Prop
  | .activity _ => True
  | .waitCondition timeout => 0 < timeout

namespace Workflow

/-- All that was ever queued. -/
def queued (s : Workflow) : List QueuedSignal := handled s.history ++ s.signals

/-- The fields of the mailbox and of the alarm. -/
def books (s : Workflow) : List QueuedSignal × List String × ℕ × ℕ × Bool × List QueuedSignal ×
    Option String × Option Instant × Option Instant × Instant :=
  (s.signals, s.seenSignalIds, s.processedSignalCount, s.duplicateSignalCount, s.terminal,
    handled s.history, s.a2aTaskId, s.nextA2aPollAt, s.deadline, s.now)

end Workflow

/-- What steps between two awaits do to the mailbox and to the alarm. -/
structure Orderly (s s' : Workflow) : Prop where
  queued : s'.queued = s.queued
  seen : s'.seenSignalIds = s.seenSignalIds
  duplicates : s'.duplicateSignalCount = s.duplicateSignalCount
  processed : s'.processedSignalCount + (handled s.history).length
    = s.processedSignalCount + (handled s'.history).length
  terminal : s.terminal = true → s'.terminal = true
  closed : s.terminal = true → handled s'.history = handled s.history
  task : s.a2aTaskId.isSome = true → s'.a2aTaskId.isSome = true
  alarm : s'.nextA2aPollAt.isSome = true → s.nextA2aPollAt.isSome = true ∨ s'.a2aTaskId.isSome = true
  deadline : s.deadline.isSome = true → s'.deadline.isSome = true

/-- A reply queues the signals that arrived, and what follows it up to the next await is orderly. -/
structure Answered (r : Await) (x : r.Reply) (s s' : Workflow) : Prop where
  timely : r.timely
  orderly : Orderly (s.resume (r.endedAt x) (r.arrivals x)) s'

instance : Std.Refl Orderly where
  refl _ := ⟨rfl, rfl, rfl, rfl, id, fun _ => rfl, id, .inl, id⟩

instance : IsTrans Workflow Orderly where
  trans _ _ _ h h' := by
    refine ⟨h'.queued.trans h.queued, h'.seen.trans h.seen, h'.duplicates.trans h.duplicates, ?_,
      fun ht => h'.terminal (h.terminal ht), fun ht => (h'.closed (h.terminal ht)).trans (h.closed ht),
      fun ht => h'.task (h.task ht), fun ha => ?_, fun hd => h'.deadline (h.deadline hd)⟩
    · have h₁ := h.processed
      have h₂ := h'.processed
      omega
    · rcases h'.alarm ha with ha | ha
      · rcases h.alarm ha with ha | ha
        · exact .inl ha
        · exact .inr (h'.task ha)
      · exact .inr ha

lemma answered_absorbs : Absorbs Answered Orderly :=
  fun _ _ _ _ _ h hq => ⟨h.timely, trans_of Orderly h.orderly hq⟩

/-- An update of other fields. -/
lemma Orderly.of_books {s s' : Workflow} (h : s'.books = s.books) : Orderly s s' := by
  simp only [Workflow.books, Prod.mk.injEq] at h
  obtain ⟨hsignals, hseen, hprocessed, hduplicates, hterminal, hhandled, htask, halarm,
    hdeadline, -⟩ := h
  refine ⟨?_, hseen, hduplicates, ?_, fun ht => hterminal.trans ht, fun _ => hhandled,
    fun ht => ?_, fun ha => ?_, fun hd => ?_⟩
  · rw [Workflow.queued, Workflow.queued, hsignals, hhandled]
  · rw [hprocessed, hhandled]
  · rwa [htask]
  · rw [halarm] at ha
    exact .inl ha
  · rwa [hdeadline]

lemma handled_append (h h' : List Entry) : handled (h ++ h') = handled h ++ handled h' :=
  List.filterMap_append

lemma Orderly.record (s : Workflow) {e : Entry} (he : handled [e] = []) :
    Orderly s (s.record e) := by
  refine .of_books ?_
  simp [Workflow.books, Workflow.record, handled_append, he]

/-- A signal is taken out of the queue while the case is open. -/
lemma Orderly.take {s : Workflow} {sig : QueuedSignal} {rest : List QueuedSignal}
    (hs : s.signals = sig :: rest) (hopen : s.terminal = false) : Orderly s (s.take sig rest) := by
  have hhandled : handled (s.take sig rest).history = handled s.history ++ [sig] := by
    rw [Workflow.take, handled_append]
    rfl
  refine ⟨?_, rfl, rfl, ?_, fun ht => ?_, fun ht => ?_, id, .inl, id⟩
  · rw [Workflow.queued, hhandled, Workflow.queued, hs, List.append_assoc]
    rfl
  · rw [hhandled, List.length_append, List.length_singleton]
    show s.processedSignalCount + 1 + _ = _
    omega
  · exact ht
  · rw [hopen] at ht
    cases ht

lemma Orderly.finish (s : Workflow) (outcome : CaseOutcome) (reason : String) :
    Orderly s (s.finish outcome reason) := by
  have hhandled : handled (s.finish outcome reason).history = handled s.history := by
    rw [Workflow.finish, handled_append]
    exact List.append_nil _
  refine ⟨?_, rfl, rfl, ?_, fun _ => rfl, fun _ => hhandled, id, .inl, id⟩
  · rw [Workflow.queued, hhandled]
    rfl
  · rw [hhandled]
    rfl

/-- An await changes the clock, the queue and what is counted with it, and nothing else. -/
lemma resume_eq (s : Workflow) (now : Instant) (arrivals : List QueuedSignal) :
    ∃ signals seenSignalIds duplicateSignalCount, s.resume now arrivals =
      { s with now, signals, seenSignalIds, duplicateSignalCount } := by
  have key : ∀ (l : List QueuedSignal) (t : Workflow), ∃ signals seenSignalIds
      duplicateSignalCount, l.foldl Workflow.enqueue t =
        { t with signals, seenSignalIds, duplicateSignalCount } := by
    intro l
    induction l with
    | nil => exact fun t => ⟨t.signals, t.seenSignalIds, t.duplicateSignalCount, rfl⟩
    | cons sig l ih =>
      intro t
      obtain ⟨q, seen, d, he⟩ := ih (t.enqueue sig)
      refine ⟨q, seen, d, ?_⟩
      rw [List.foldl_cons, he]
      unfold Workflow.enqueue
      split_ifs <;> rfl
  exact key arrivals { s with now }

/-! ## Routine code -/

/-- Code that awaits activities only, and leaves the mailbox and the alarm alone. -/
inductive Routine : {α : Type} → Wf α → Prop
  | pure {α : Type} (a : α) : Routine (pure a : Wf α)
  | read : Routine Code.read
  | fail {α : Type} : Routine (Code.fail : Wf α)
  | bind {α β : Type} {c : Wf α} {f : α → Wf β} (hc : Routine c) (hf : ∀ a, Routine (f a)) :
    Routine (c >>= f)
  | activity (a : Activity) : Routine (activity a)
  | modify {g : Workflow → Workflow} (h : ∀ s, (g s).books = s.books) :
    Routine (Code.modify g : Wf Unit)
  | finish (outcome : CaseOutcome) (reason : String) : Routine (finish outcome reason)

lemma requireInput_routine : Routine requireInput := by
  refine .bind .read fun s => ?_
  split
  · exact .pure _
  · exact .fail

lemma audit_routine (eventType correlationId : String) (details : List (String × Json)) :
    Routine (audit eventType correlationId details) :=
  .bind .read fun _ => .bind (.activity _) fun _ => .pure _

lemma cancelActiveAction_routine (reason : String) : Routine (cancelActiveAction reason) := by
  refine .bind .read fun s => ?_
  split_ifs
  · exact .pure _
  · exact .pure _
  · refine .bind (.activity _) fun result => ?_
    split_ifs
    · exact .modify fun _ => rfl
    · exact .pure _

lemma expire_routine : Routine expire := by
  refine .bind (cancelActiveAction_routine _) fun _ => ?_
  exact .bind .read fun s => .finish _ _

lemma suppressOutreach_routine (signalId disposition : String) :
    Routine (suppressOutreach signalId disposition) := by
  refine .bind (.modify fun _ => rfl) fun _ => ?_
  refine .bind (cancelActiveAction_routine _) fun _ => ?_
  exact .bind (audit_routine _ _ _) fun _ => .modify fun _ => rfl

lemma handleApproval_routine (sig : ApprovalSignal) : Routine (handleApproval sig) := by
  refine .bind .read fun s => ?_
  split_ifs
  · exact audit_routine _ _ _
  · exact .bind (.modify fun _ => rfl) fun _ => audit_routine _ _ _

lemma sendA2aReceiptIfApplicable_routine (r : ReconciliationResult) :
    Routine (sendA2aReceiptIfApplicable r) := by
  refine .bind .read fun s => ?_
  split
  · refine .bind requireInput_routine fun command => ?_
    split
    · exact .pure _
    · split_ifs
      · exact .pure _
      · refine .bind (.activity _) fun receipt => ?_
        split_ifs
        · exact .bind (.modify fun _ => rfl) fun _ => audit_routine _ _ _
        · exact audit_routine _ _ _
  · exact .pure _

lemma applyReconciliation_routine (r : ReconciliationResult) :
    Routine (Code.modify (·.applyReconciliation r) : Wf Unit) := by
  refine .modify fun s => ?_
  unfold Workflow.applyReconciliation
  split_ifs <;> rfl

lemma recoverIfAuthoritative_routine (r : ReconciliationResult) (reason : String) :
    Routine (recoverIfAuthoritative r reason) := by
  unfold recoverIfAuthoritative
  split_ifs
  · exact .bind (sendA2aReceiptIfApplicable_routine r) fun _ =>
      .bind (cancelActiveAction_routine _) fun _ => .finish _ _
  · exact .pure _

lemma handlePayment_routine (sig : PaymentEventSignal) : Routine (handlePayment sig) := by
  refine .bind requireInput_routine fun command => ?_
  refine .bind (.activity _) fun r => ?_
  refine .bind (applyReconciliation_routine r) fun _ => ?_
  exact .bind (audit_routine _ _ _) fun _ => recoverIfAuthoritative_routine r _

lemma handleCustomerIntent_routine (host : Host) (sig : CustomerIntentSignal) :
    Routine (handleCustomerIntent host sig) := by
  refine .bind (.modify fun _ => rfl) fun _ => ?_
  refine .bind (audit_routine _ _ _) fun _ => ?_
  split_ifs
  · exact suppressOutreach_routine _ _
  · exact .bind (cancelActiveAction_routine _) fun _ => .finish _ _
  · refine .bind requireInput_routine fun command => ?_
    refine .bind (.activity _) fun r => ?_
    exact .bind (applyReconciliation_routine r) fun _ => recoverIfAuthoritative_routine r _
  · exact .pure _

lemma handleOptOut_routine (sig : OptOutSignal) : Routine (handleOptOut sig) :=
  .bind (.modify fun _ => rfl) fun _ =>
    .bind (audit_routine _ _ _) fun _ => suppressOutreach_routine _ _

lemma handleCancellation_routine (sig : CancellationSignal) : Routine (handleCancellation sig) :=
  .bind (audit_routine _ _ _) fun _ =>
    .bind (cancelActiveAction_routine _) fun _ => .finish _ _

lemma handleOperatorEscalation_routine (sig : OperatorEscalationSignal) :
    Routine (handleOperatorEscalation sig) :=
  .bind (audit_routine _ _ _) fun _ =>
    .bind (cancelActiveAction_routine _) fun _ => .finish _ _

/-- An action that does not start an A2A authorization. -/
lemma executeAction_routine {policy : PolicyResult} {mandate : Option Json}
    (h : ¬ (policy.action = "SEND_TO_CUSTOMER_AGENT" ∧ mandate.isNone = true)) :
    Routine (executeAction policy mandate) := by
  unfold executeAction
  rw [if_neg h]
  refine .bind requireInput_routine fun command => ?_
  refine .bind (.modify fun _ => rfl) fun _ => ?_
  refine .bind (.activity _) fun result => ?_
  refine .bind (.modify fun _ => rfl) fun _ => ?_
  refine .bind (audit_routine _ _ _) fun _ => ?_
  split_ifs
  · exact .finish _ _
  · exact .modify fun _ => rfl
  · exact .pure _

/-! ## Tended code -/

/-- Code that is orderly up to each await, and whose awaits are timely. -/
abbrev Tended {α : Type} (c : Wf α) : Prop := Moving Orderly Answered c

/-- The same of one state that the code may begin in. -/
def TendedFrom {α : Type} (c : Wf α) (s : Workflow) : Prop :=
  Orderly s (c s).state ∧ (c s).Moves Answered

section
variable {α β : Type} {c : Wf α} {f : α → Wf β}

lemma tended_bind (hc : Tended c) (hf : ∀ a, Tended (f a)) : Tended (c >>= f) :=
  .bind answered_absorbs hc hf

lemma Tended.from (h : Tended c) (s : Workflow) : TendedFrom c s := ⟨h.silent s, h.moves s⟩

lemma tended_of_from (h : ∀ s, TendedFrom c s) : Tended c := ⟨fun s => (h s).1, fun s => (h s).2⟩

/-- A sequence from one state, by the states that its first part ends in. -/
lemma tendedFrom_bind {s : Workflow} {I : Workflow → Prop} {P : Workflow → α → Prop}
    (hc : TendedFrom c s) (hp : (c s).Meets I P) (hf : ∀ t a, P t a → TendedFrom (f a) t) :
    TendedFrom (c >>= f) s := by
  obtain ⟨hq, hm⟩ := Proc.Moves.bind_meets answered_absorbs hf hp hc.2
  exact ⟨trans_of Orderly hc.1 hq, hm⟩

end

lemma activity_tended (a : Activity) : Tended (activity a) := by
  refine ⟨fun s => Orderly.record s rfl, fun s x => ?_⟩
  have hx : Answered (.activity a) x (s.record (.requested a))
      ((s.record (.requested a)).resume x.now x.arrivals) := ⟨trivial, refl_of Orderly _⟩
  cases hres : x.result with
  | none =>
    simp only [hres]
    exact ⟨hx, trivial⟩
  | some r =>
    simp only [hres]
    exact ⟨hx, trivial⟩

lemma waitCondition_tended {timeout : ℤ} (h : 0 < timeout) : Tended (waitCondition timeout) :=
  ⟨fun s => refl_of Orderly s, fun _ _ => ⟨⟨h, refl_of Orderly _⟩, trivial⟩⟩

theorem Routine.tended {α : Type} {c : Wf α} (h : Routine c) : Tended c := by
  induction h with
  | pure a => exact .pure a
  | read => exact .read
  | fail => exact .fail
  | bind hc hf ihc ihf => exact tended_bind ihc ihf
  | activity a => exact activity_tended a
  | modify hg => exact .modify fun s => .of_books (hg s)
  | finish outcome reason => exact .modify fun s => .finish s outcome reason

/-- An update of other fields. -/
lemma update_tended {g : Workflow → Workflow} (h : ∀ s, (g s).books = s.books) :
    Tended (Code.modify g : Wf Unit) :=
  .modify fun s => .of_books (h s)

/-! ## The handlers -/

/-- The alarm may be set where the task is known. -/
lemma alarm_tendedFrom {s : Workflow} {g : Workflow → Workflow} (h : s.a2aTaskId.isSome = true)
    (hg : (g s).books = ({ s with nextA2aPollAt := (g s).nextA2aPollAt } : Workflow).books) :
    TendedFrom (Code.modify g : Wf Unit) s := by
  have hset : Orderly s { s with nextA2aPollAt := (g s).nextA2aPollAt } :=
    ⟨rfl, rfl, rfl, rfl, id, fun _ => rfl, id, fun _ => .inr h, id⟩
  exact ⟨trans_of Orderly hset (.of_books hg), trivial⟩

lemma handleA2aUpdate_tended (sig : A2AUpdateSignal) : Tended (handleA2aUpdate sig) := by
  refine tended_of_from fun s => ?_
  by_cases hs : s.a2aTaskId = none ∨ s.a2aTaskId ≠ some sig.remoteTaskId
  · have haudit := (audit_routine "A2A_UPDATE_IGNORED" sig.signalId
      [("reason", .str "TASK_ID_MISMATCH")]).tended.from s
    simpa only [TendedFrom, handleA2aUpdate, Code.bind_apply, Code.read_apply, Proc.bind, if_pos hs]
      using haudit
  · have htask : s.a2aTaskId.isSome = true := by
      rw [not_or] at hs
      exact Option.isSome_iff_ne_none.mpr hs.1
    -- the task stays known while the audit is awaited
    have htail : TendedFrom (audit "A2A_TASK_UPDATED" sig.signalId
        [("remote_task_id", .str sig.remoteTaskId), ("state", .str sig.state)] >>= fun _ =>
        Code.modify fun s => { s with nextA2aPollAt := some s.now })
        { s with a2aState := some sig.state } := by
      refine tendedFrom_bind ((audit_routine _ _ _).tended.from _) (audit_quiet _ _ _ _) fun t _ ht => ?_
      refine alarm_tendedFrom ?_ rfl
      rw [ht.a2aTaskId]
      exact htask
    have hstate : Orderly s { s with a2aState := some sig.state } := .of_books rfl
    refine ⟨?_, ?_⟩
    · simp only [handleA2aUpdate, Code.bind_apply, Code.read_apply, Proc.bind, if_neg hs]
      exact trans_of Orderly hstate htail.1
    · simp only [handleA2aUpdate, Code.bind_apply, Code.read_apply, Proc.bind, if_neg hs]
      exact htail.2

lemma handleMandate_tended (sig : MandateSignal) : Tended (handleMandate sig) := by
  refine tended_bind (audit_routine _ _ _).tended fun _ => tended_of_from fun s => ?_
  by_cases hs : s.a2aTaskId = none
  · refine ⟨.of_books ?_, trivial⟩
    simp [Proc.state, hs]
  · refine alarm_tendedFrom (Option.isSome_iff_ne_none.mpr hs) ?_
    simp only [hs, if_false]

theorem handle_tended (host : Host) : ∀ sig, Tended (handle host sig)
  | .approval sig => (handleApproval_routine sig).tended
  | .paymentEvent sig => (handlePayment_routine sig).tended
  | .customerIntent sig => (handleCustomerIntent_routine host sig).tended
  | .optOut sig => (handleOptOut_routine sig).tended
  | .cancellation sig => (handleCancellation_routine sig).tended
  | .operatorEscalation sig => (handleOperatorEscalation_routine sig).tended
  | .a2aUpdate sig => handleA2aUpdate_tended sig
  | .mandate sig => handleMandate_tended sig

/-! ## The waits -/

/-- An open case takes a signal out of the queue. -/
lemma drainOne_tendedFrom (host : Host) {s : Workflow} (hopen : s.terminal = false) :
    TendedFrom (drainOne host) s := by
  simp only [TendedFrom, drainOne, Code.bind_apply, Code.read_apply, Proc.bind]
  cases hs : s.signals with
  | nil => exact ⟨refl_of Orderly s, trivial⟩
  | cons sig rest =>
    have hhandle := (handle_tended host sig).from (s.take sig rest)
    exact ⟨trans_of Orderly (.take hs hopen) hhandle.1, hhandle.2⟩

lemma drainSignals_tended (host : Host) (rounds : ℕ) : Tended (drainSignals host rounds) := by
  refine tended_of_from fun s => Code.loop_moves answered_absorbs (fun t ht => ?_) rounds s
  rw [Bool.and_eq_true, Bool.not_eq_true', Bool.not_eq_true'] at ht
  exact tendedFrom_bind (drainOne_tendedFrom host ht.2) (Proc.meets_true _) fun u _ _ =>
    ⟨refl_of Orderly u, trivial⟩

lemma waitForSignalOrDeadline_tended : Tended waitForSignalOrDeadline := by
  refine tended_bind .read fun s => ?_
  split
  · exact .pure _
  · dsimp only
    split_ifs with h
    · exact .pure _
    · exact waitCondition_tended (not_le.mp h)

lemma checkApprovalDeadline_tended : Tended checkApprovalDeadline := by
  refine tended_bind (.modify fun s => .record s rfl) fun _ => tended_bind .read fun s => ?_
  split_ifs
  · exact expire_routine.tended
  · exact .pure _

lemma approvalRound_tended (host : Host) (rounds : ℕ) : Tended (approvalRound host rounds) := by
  refine tended_bind (tended_bind waitForSignalOrDeadline_tended fun _ => ?_) fun _ => .pure _
  exact tended_bind (drainSignals_tended host rounds) fun _ => checkApprovalDeadline_tended

lemma waitForApprovalOrTerminal_tended (host : Host) (rounds : ℕ) :
    Tended (waitForApprovalOrTerminal host rounds) :=
  .loop answered_absorbs _ (approvalRound_tended host rounds) rounds

lemma delayRound_tended (host : Host) (target : Instant) (rounds : ℕ) :
    Tended (delayRound host target rounds) := by
  refine tended_bind .read fun s => ?_
  dsimp only
  split_ifs with h
  · exact .pure _
  · refine tended_bind (waitCondition_tended (not_le.mp h)) fun _ => ?_
    exact tended_bind (drainSignals_tended host rounds) fun _ => .pure _

lemma waitUntil_tended (host : Host) (target : Instant) (rounds : ℕ) :
    Tended (waitUntil host target rounds) := by
  rw [waitUntil_rounds]
  refine tended_bind (.loop answered_absorbs _ (delayRound_tended host target rounds) rounds)
    fun _ => tended_bind .read fun s => ?_
  split_ifs
  · exact expire_routine.tended
  · exact .pure _

lemma awaitPolicy_tended (host : Host) (rounds : ℕ) (policy : PolicyResult) :
    Tended (awaitPolicy host rounds policy) := by
  unfold awaitPolicy
  split_ifs
  · split
    · exact tended_bind (update_tended fun _ => rfl) fun _ => .fail
    · refine tended_bind (update_tended fun _ => rfl) fun _ => ?_
      exact tended_bind (waitUntil_tended host _ rounds) fun _ => tended_bind .read fun _ => .pure _
  · refine tended_bind (update_tended fun _ => rfl) fun _ => ?_
    refine tended_bind (waitForApprovalOrTerminal_tended host rounds) fun _ => ?_
    refine tended_bind .read fun s => ?_
    split_ifs
    · exact .pure _
    · exact tended_bind (Routine.finish _ _).tended fun _ => .pure _
    · exact .pure _
  · exact .pure _

/-! ## Executing and polling -/

lemma startA2aAuthorization_tended : Tended startA2aAuthorization := by
  have hreject : ∀ reason, Routine (do
      audit "A2A_AUTHORIZATION_REJECTED" "a2a-start" [("reason_code", .str reason)]
      Code.modify ({ · with actionStatus := some "REJECTED" })
      finish .escalated reason : Wf Unit) := fun reason =>
    .bind (audit_routine _ _ _) fun _ => .bind (.modify fun _ => rfl) fun _ => .finish _ _
  refine tended_bind requireInput_routine.tended fun command => ?_
  split
  · split
    · refine tended_bind (activity_tended _) fun result => ?_
      refine tended_bind (.modify fun s => ?_) fun _ => (audit_routine _ _ _).tended
      exact ⟨rfl, rfl, rfl, rfl, id, fun _ => rfl, fun _ => rfl, fun _ => .inr rfl, id⟩
    · exact (hreject _).tended
  · exact (hreject _).tended

lemma executeAction_tended (policy : PolicyResult) (mandate : Option Json) :
    Tended (executeAction policy mandate) := by
  by_cases h : policy.action = "SEND_TO_CUSTOMER_AGENT" ∧ mandate.isNone = true
  · rw [executeAction, if_pos h]
    exact startA2aAuthorization_tended
  · exact (executeAction_routine h).tended

lemma beginAction_tended (policy : PolicyResult) : Tended (beginAction policy) := by
  unfold beginAction
  split_ifs
  · exact (Routine.finish _ _).tended
  · exact update_tended fun _ => rfl
  · exact executeAction_tended policy none

/-- The alarm is turned off. -/
lemma rest_tended {g : Workflow → Workflow}
    (h : ∀ s, (g s).books = ({ s with nextA2aPollAt := none } : Workflow).books) :
    Tended (Code.modify g : Wf Unit) := by
  refine .modify fun s => ?_
  have hrest : Orderly s { s with nextA2aPollAt := none } :=
    ⟨rfl, rfl, rfl, rfl, id, fun _ => rfl, id, fun h => absurd h (by simp), id⟩
  exact trans_of Orderly hrest (.of_books (h s))

lemma pollA2aIfDue_tended : Tended pollA2aIfDue := by
  have hescalate : ∀ reason, Tended (do
      Code.modify ({ · with nextA2aPollAt := none, actionStatus := some "REJECTED" })
      finish .escalated reason : Wf Unit) := fun reason =>
    tended_bind (rest_tended fun _ => rfl) fun _ => (Routine.finish _ _).tended
  refine tended_of_from fun s => ?_
  refine tendedFrom_bind (I := fun _ => True) (P := fun t a => t = s ∧ a = s)
    (Tended.from .read s) ⟨rfl, rfl⟩ fun t a ht => ?_
  obtain ⟨rfl, rfl⟩ := ht
  split
  · rename_i taskId pollAt htask hpoll
    split_ifs
    · exact Tended.from (.pure _) _
    · refine tendedFrom_bind (requireInput_routine.tended.from _) (requireInput_steady _)
        fun u command hu => ?_
      split
      · split
        · refine tendedFrom_bind ((activity_tended _).from _) (activity_steady rfl _)
            fun v result hv => ?_
          refine tendedFrom_bind (I := fun _ => True) (P := fun w _ => w.a2aTaskId = v.a2aTaskId)
            ⟨.of_books rfl, trivial⟩ rfl fun w _ hw => ?_
          split_ifs
          · refine alarm_tendedFrom ?_ rfl
            rw [hw, hv.a2aTaskId, hu.a2aTaskId, htask]
            rfl
          · refine (tended_bind (rest_tended fun _ => rfl) fun _ => ?_).from w
            refine tended_bind (audit_routine _ _ _).tended fun _ => ?_
            split_ifs
            · exact tended_bind (update_tended fun _ => rfl) fun _ =>
                (Routine.finish _ _).tended
            · exact tended_bind (update_tended fun _ => rfl) fun _ => executeAction_tended _ _
        · exact (hescalate _).from _
      · exact (hescalate _).from _
  · exact Tended.from (.pure _) _

lemma mainRound_tended (host : Host) (rounds : ℕ) : Tended (mainRound host rounds) := by
  refine tended_bind (drainSignals_tended host rounds) fun _ => ?_
  refine tended_bind .read fun s => ?_
  split_ifs
  · exact .pure _
  · exact tended_bind expire_routine.tended fun _ => .pure _
  · refine tended_bind pollA2aIfDue_tended fun _ => ?_
    refine tended_bind .read fun t => ?_
    split_ifs
    · exact .pure _
    · refine tended_bind waitForSignalOrDeadline_tended fun _ => ?_
      exact tended_bind (drainSignals_tended host rounds) fun _ => .pure _

/-! ## The run -/

lemma decidePolicy_tended (host : Host) (workflowId : String) (command : RecoveryWorkflowInput) :
    Tended (decidePolicy host workflowId command) := by
  unfold decidePolicy
  split_ifs
  · exact .fail
  · exact .fail
  · refine tended_bind (update_tended fun _ => rfl) fun _ => ?_
    split
    · exact .fail
    · refine tended_bind (.modify fun s => ?_) fun _ => ?_
      · exact ⟨rfl, rfl, rfl, rfl, id, fun _ => rfl, id, .inl, fun _ => rfl⟩
      · refine Routine.tended (.bind (.activity _) fun normalized => ?_)
        refine .bind (.modify fun _ => rfl) fun _ => ?_
        refine .bind (.activity _) fun diagnosis => ?_
        refine .bind (.modify fun _ => rfl) fun _ => ?_
        refine .bind (.activity _) fun _ => ?_
        exact .bind (.modify fun _ => rfl) fun _ => .activity _

lemma adoptPolicy_tended (policy : PolicyResult) : Tended (adoptPolicy policy) :=
  tended_bind (update_tended fun _ => rfl) fun _ => (audit_routine _ _ _).tended

lemma reachDecision_tended (host : Host) (workflowId : String) (command : RecoveryWorkflowInput) :
    Tended (reachDecision host workflowId command) :=
  tended_bind (decidePolicy_tended host workflowId command) fun policy =>
    tended_bind (adoptPolicy_tended policy) fun _ => .pure _

lemma enterMainLoop_tended (host : Host) (rounds : ℕ) (policy : PolicyResult) :
    Tended (enterMainLoop host rounds policy) := by
  unfold enterMainLoop
  split_ifs
  · exact tended_bind (Routine.finish _ _).tended fun _ => .pure _
  · refine tended_bind (awaitPolicy_tended host rounds policy) fun go => ?_
    split_ifs
    · refine tended_bind (beginAction_tended policy) fun _ => tended_bind .read fun s => ?_
      split_ifs
      · exact .pure _
      · refine tended_bind (update_tended fun t => ?_) fun _ => .pure _
        split_ifs <;> rfl
    · exact .pure _

lemma reachMainLoop_tended (host : Host) (rounds : ℕ) (workflowId : String)
    (command : RecoveryWorkflowInput) : Tended (reachMainLoop host rounds workflowId command) :=
  tended_bind (reachDecision_tended host workflowId command) fun policy =>
    enterMainLoop_tended host rounds policy

theorem run_tended (host : Host) (rounds : ℕ) (workflowId : String)
    (command : RecoveryWorkflowInput) : Tended (run host rounds workflowId command) := by
  rw [run_rounds]
  refine tended_bind (reachMainLoop_tended host rounds workflowId command) fun enters => ?_
  cases enters with
  | true =>
    refine tended_bind ?_ fun _ => tended_bind .read fun _ => .pure _
    exact .loop answered_absorbs _ (mainRound_tended host rounds) rounds
  | false => exact tended_bind .read fun _ => .pure _

end RecoveryOS.Worker
