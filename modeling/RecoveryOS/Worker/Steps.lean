import RecoveryOS.Worker.Workflow

/-!
# What the steps of the workflow can do

Every step of a signal handler is `Quiet`: it leaves the terminal flag, the action and the A2A task
alone and requests no outreach. A handler ends quietly or with one call to `_finish` as its very
last step (`Settles`). The steps that execute an action are `Running`, and `Silent` where the action
does not reach the customer. The run-level results are proved from these facts and never look into
a handler.
-/

namespace RecoveryOS.Worker

open Resume

/-- The actions that reach the customer. -/
def customerFacing (action : String) : Bool :=
  action ∈ ["OPEN_CUSTOMER_PAYMENT_SURFACE", "START_VOICE", "SEND_TO_CUSTOMER_AGENT"]

/-- A requested activity that reaches the customer. -/
def Activity.outreach : Activity → Bool
  | .startA2AAuthorization _ => true
  | .executeRecoveryAction command => customerFacing command.action
  | _ => false

/-- What the steps between two drains do: they only request activities. -/
structure Running (s s' : Workflow) : Prop where
  terminal : s'.terminal = s.terminal
  history : ∃ l : List Activity, s'.history = s.history ++ l.map .requested

/-- Steps that request no outreach and keep the A2A task. -/
structure Silent (s s' : Workflow) : Prop where
  terminal : s'.terminal = s.terminal
  a2aTaskId : s'.a2aTaskId = s.a2aTaskId
  history : ∃ l : List Activity, s'.history = s.history ++ l.map .requested ∧
    ∀ a ∈ l, a.outreach = false

/-- What a handler may do before it finishes the case: silent, with the action untouched. -/
structure Quiet (s s' : Workflow) : Prop extends Silent s s' where
  action : s'.action = s.action

/-- Quiet, with the outcome and the suppression flag untouched as well. -/
structure Steady (s s' : Workflow) : Prop extends Quiet s s' where
  outcome : s'.outcome = s.outcome
  outreachSuppressed : s'.outreachSuppressed = s.outreachSuppressed

/-- How code ends that stays inside `R`: there, or by a `_finish` as its last step. -/
def Settles (R : Workflow → Workflow → Prop) (s s' : Workflow) : Prop :=
  R s s' ∨ ∃ t outcome reason, R s t ∧ s' = t.finish outcome reason

instance : Std.Refl Running where
  refl _ := ⟨rfl, [], by simp⟩

instance : IsTrans Workflow Running where
  trans a b c h h' := by
    obtain ⟨l, hl⟩ := h.history
    obtain ⟨l', hl'⟩ := h'.history
    refine ⟨h'.terminal.trans h.terminal, l ++ l', ?_⟩
    rw [hl', hl, List.append_assoc, List.map_append]

lemma Silent.running {s s' : Workflow} (h : Silent s s') : Running s s' := by
  obtain ⟨l, hl, -⟩ := h.history
  exact ⟨h.terminal, l, hl⟩

instance : Std.Refl Silent where
  refl _ := ⟨rfl, rfl, [], by simp, by simp⟩

instance : IsTrans Workflow Silent where
  trans a b c h h' := by
    obtain ⟨l, hl, hq⟩ := h.history
    obtain ⟨l', hl', hq'⟩ := h'.history
    refine ⟨h'.terminal.trans h.terminal, h'.a2aTaskId.trans h.a2aTaskId, l ++ l', ?_, ?_⟩
    · rw [hl', hl, List.append_assoc, List.map_append]
    · intro a ha
      rcases List.mem_append.mp ha with ha | ha
      · exact hq a ha
      · exact hq' a ha

instance : Std.Refl Quiet where
  refl s := ⟨refl_of Silent s, rfl⟩

instance : IsTrans Workflow Quiet where
  trans _ _ _ h h' := ⟨trans_of Silent h.toSilent h'.toSilent, h'.action.trans h.action⟩

instance : Std.Refl Steady where
  refl s := ⟨refl_of Quiet s, rfl, rfl⟩

instance : IsTrans Workflow Steady where
  trans _ _ _ h h' := ⟨trans_of Quiet h.toQuiet h'.toQuiet, h'.outcome.trans h.outcome,
    h'.outreachSuppressed.trans h.outreachSuppressed⟩

section Settles
variable {R : Workflow → Workflow → Prop} {α β : Type}

lemma settles_of_within {c : Wf α} (h : Within R c) : Leads R (Settles R) c :=
  h.mono fun _ _ => .inl

lemma finish_settles [Std.Refl R] (outcome : CaseOutcome) (reason : String) :
    Leads R (Settles R) (finish outcome reason) :=
  .modify fun s => .inr ⟨s, outcome, reason, refl_of R s, rfl⟩

/-- A part that stays inside `R`, before one that settles. -/
lemma settles_bind [IsTrans Workflow R] {c : Wf α} {f : α → Wf β} (hc : Within R c)
    (hf : ∀ a, Leads R (Settles R) (f a)) : Leads R (Settles R) (c >>= f) := by
  refine .bind (fun {s s' s''} h h' => ?_) hc hf
  rcases h' with h' | ⟨t, o, r, ht, hc⟩
  · exact .inl (trans_of R h h')
  · exact .inr ⟨t, o, r, trans_of R h ht, hc⟩

lemma Settles.mono {R' : Workflow → Workflow → Prop} (hR : ∀ s s', R s s' → R' s s')
    {s s' : Workflow} : Settles R s s' → Settles R' s s'
  | .inl h => .inl (hR s s' h)
  | .inr ⟨t, o, r, ht, h⟩ => .inr ⟨t, o, r, hR s t ht, h⟩

/-- `Settles`, with an outcome and a reason in `F`. -/
def SettlesIn (F : CaseOutcome → String → Prop) (R : Workflow → Workflow → Prop)
    (s s' : Workflow) : Prop :=
  R s s' ∨ ∃ t outcome reason, R s t ∧ s' = t.finish outcome reason ∧ F outcome reason

variable {F : CaseOutcome → String → Prop}

lemma settlesIn_of_within {c : Wf α} (h : Within R c) : Leads R (SettlesIn F R) c :=
  h.mono fun _ _ => .inl

lemma finish_settlesIn [Std.Refl R] {outcome : CaseOutcome} {reason : String}
    (h : F outcome reason) : Leads R (SettlesIn F R) (finish outcome reason) :=
  .modify fun s => .inr ⟨s, outcome, reason, refl_of R s, rfl, h⟩

lemma settlesIn_bind [IsTrans Workflow R] {c : Wf α} {f : α → Wf β} (hc : Within R c)
    (hf : ∀ a, Leads R (SettlesIn F R) (f a)) : Leads R (SettlesIn F R) (c >>= f) := by
  refine .bind (fun {s s' s''} h h' => ?_) hc hf
  rcases h' with h' | ⟨t, o, r, ht, hc⟩
  · exact .inl (trans_of R h h')
  · exact .inr ⟨t, o, r, trans_of R h ht, hc⟩

lemma SettlesIn.mono {R' : Workflow → Workflow → Prop} (hR : ∀ s s', R s s' → R' s s')
    {s s' : Workflow} : SettlesIn F R s s' → SettlesIn F R' s s'
  | .inl h => .inl (hR s s' h)
  | .inr ⟨t, o, r, ht, h⟩ => .inr ⟨t, o, r, hR s t ht, h⟩

lemma settles_of_in {c : Wf α} (h : Leads R (SettlesIn F R) c) : Leads R (Settles R) c := by
  refine h.mono fun s s' hs => ?_
  rcases hs with hs | ⟨t, o, r, ht, he, -⟩
  · exact .inl hs
  · exact .inr ⟨t, o, r, ht, he⟩

end Settles

/-- An update of fields that no relation here looks at. -/
lemma Steady.of_eq {s s' : Workflow} (ht : s'.terminal = s.terminal) (ha : s'.action = s.action)
    (ha2 : s'.a2aTaskId = s.a2aTaskId) (hh : s'.history = s.history)
    (ho : s'.outcome = s.outcome) (hs : s'.outreachSuppressed = s.outreachSuppressed) :
    Steady s s' :=
  ⟨⟨⟨ht, ha2, [], by simpa using hh, by simp⟩, ha⟩, ho, hs⟩

lemma Quiet.of_eq {s s' : Workflow} (ht : s'.terminal = s.terminal) (ha : s'.action = s.action)
    (ha2 : s'.a2aTaskId = s.a2aTaskId) (hh : s'.history = s.history) : Quiet s s' :=
  ⟨⟨ht, ha2, [], by simpa using hh, by simp⟩, ha⟩

lemma Steady.enqueue (s : Workflow) (sig : QueuedSignal) : Steady s (s.enqueue sig) := by
  unfold Workflow.enqueue
  split_ifs <;> exact .of_eq rfl rfl rfl rfl rfl rfl

lemma Steady.resume (s : Workflow) (now : Instant) (arrivals : List QueuedSignal) :
    Steady s (s.resume now arrivals) := by
  have h : ∀ (l : List QueuedSignal) (t : Workflow), Steady t (l.foldl Workflow.enqueue t) := by
    intro l
    induction l with
    | nil => exact fun t => refl_of Steady t
    | cons sig l ih => exact fun t => trans_of Steady (Steady.enqueue t sig) (ih _)
  have hn : Steady s { s with now } := .of_eq rfl rfl rfl rfl rfl rfl
  exact trans_of Steady hn (h arrivals { s with now })

lemma Steady.request (s : Workflow) {a : Activity} (ha : a.outreach = false) :
    Steady s (s.record (.requested a)) :=
  ⟨⟨⟨rfl, rfl, [a], rfl, by simpa using ha⟩, rfl⟩, rfl, rfl⟩

/-! ## The primitive steps -/

lemma activity_steady {a : Activity} (ha : a.outreach = false) :
    Within Steady (activity a) := by
  intro s
  have hr : Steady s (s.record (.requested a)) := .request s ha
  refine ⟨hr, fun x => ?_⟩
  have hx : Steady s ((s.record (.requested a)).resume x.now x.arrivals) :=
    trans_of Steady hr (.resume _ _ _)
  cases hres : x.result with
  | none => simpa only [hres, Proc.Meets] using hx
  | some r => simpa only [hres, Proc.Meets] using hx

lemma waitCondition_steady (timeout : ℤ) : Within Steady (waitCondition timeout) :=
  fun s => ⟨refl_of Steady s, fun x => Steady.resume s x.now x.arrivals⟩

lemma quiet_of_steady {α : Type} {c : Wf α} (h : Within Steady c) : Within Quiet c :=
  fun s => (h s).mono (fun _ h => h.toQuiet) fun _ _ h => h.toQuiet

lemma requireInput_steady : Within Steady requireInput := by
  refine .bind .read fun s => ?_
  split
  · exact .pure _
  · exact .fail

lemma audit_steady (eventType correlationId : String) (details : List (String × Json)) :
    Within Steady (audit eventType correlationId details) :=
  .bind .read fun _ => .bind (activity_steady rfl) fun _ => .pure _

lemma audit_quiet (eventType correlationId : String) (details : List (String × Json)) :
    Within Quiet (audit eventType correlationId details) :=
  quiet_of_steady (audit_steady eventType correlationId details)

lemma cancelActiveAction_steady (reason : String) :
    Within Steady (cancelActiveAction reason) := by
  refine .bind .read fun s => ?_
  split_ifs
  · exact .pure _
  · exact .pure _
  · refine .bind (activity_steady rfl) fun result => ?_
    split_ifs
    · exact .modify fun _ => .of_eq rfl rfl rfl rfl rfl rfl
    · exact .pure _

lemma cancelActiveAction_quiet (reason : String) : Within Quiet (cancelActiveAction reason) :=
  quiet_of_steady (cancelActiveAction_steady reason)

lemma modify_quiet {f : Workflow → Workflow} (h : ∀ s, Quiet s (f s)) :
    Within Quiet (Code.modify f : Wf Unit) := .modify h

/-! ## The handlers -/

lemma suppressOutreach_quiet (signalId disposition : String) :
    Within Quiet (suppressOutreach signalId disposition) := by
  refine .bind (modify_quiet fun _ => .of_eq rfl rfl rfl rfl) fun _ => ?_
  refine .bind (cancelActiveAction_quiet _) fun _ => ?_
  refine .bind (audit_quiet _ _ _) fun _ => ?_
  exact modify_quiet fun _ => .of_eq rfl rfl rfl rfl

lemma handleApproval_quiet (sig : ApprovalSignal) : Within Quiet (handleApproval sig) := by
  refine .bind .read fun s => ?_
  split_ifs
  · exact audit_quiet _ _ _
  · exact .bind (modify_quiet fun _ => .of_eq rfl rfl rfl rfl) fun _ => audit_quiet _ _ _

lemma sendA2aReceiptIfApplicable_quiet (r : ReconciliationResult) :
    Within Quiet (sendA2aReceiptIfApplicable r) := by
  refine .bind .read fun s => ?_
  split
  · refine .bind (quiet_of_steady requireInput_steady) fun command => ?_
    split
    · exact .pure _
    · split_ifs
      · exact .pure _
      · refine .bind (quiet_of_steady (activity_steady rfl)) fun receipt => ?_
        split_ifs
        · exact .bind (modify_quiet fun _ => .of_eq rfl rfl rfl rfl) fun _ => audit_quiet _ _ _
        · exact audit_quiet _ _ _
  · exact .pure _

lemma recoverIfAuthoritative_settles (r : ReconciliationResult) (reason : String) :
    Leads Quiet (Settles Quiet) (recoverIfAuthoritative r reason) := by
  unfold recoverIfAuthoritative
  split_ifs
  · exact settles_bind (sendA2aReceiptIfApplicable_quiet r) fun _ =>
      settles_bind (cancelActiveAction_quiet _) fun _ => finish_settles _ _
  · exact settles_of_within (.pure _)

lemma applyReconciliation_quiet (s : Workflow) (r : ReconciliationResult) :
    Quiet s (s.applyReconciliation r) := by
  unfold Workflow.applyReconciliation
  split_ifs <;> exact .of_eq rfl rfl rfl rfl

lemma handlePayment_settles (sig : PaymentEventSignal) :
    Leads Quiet (Settles Quiet) (handlePayment sig) := by
  refine settles_bind (quiet_of_steady requireInput_steady) fun command => ?_
  refine settles_bind (quiet_of_steady (activity_steady rfl)) fun r => ?_
  refine settles_bind (modify_quiet fun s => applyReconciliation_quiet s r) fun _ => ?_
  exact settles_bind (audit_quiet _ _ _) fun _ => recoverIfAuthoritative_settles r _

lemma handleCustomerIntent_settles (host : Host) (sig : CustomerIntentSignal) :
    Leads Quiet (Settles Quiet) (handleCustomerIntent host sig) := by
  refine settles_bind (modify_quiet fun _ => .of_eq rfl rfl rfl rfl) fun _ => ?_
  refine settles_bind (audit_quiet _ _ _) fun _ => ?_
  split_ifs
  · exact settles_of_within (suppressOutreach_quiet _ _)
  · exact settles_bind (cancelActiveAction_quiet _) fun _ => finish_settles _ _
  · refine settles_bind (quiet_of_steady requireInput_steady) fun command => ?_
    refine settles_bind (quiet_of_steady (activity_steady rfl)) fun r => ?_
    exact settles_bind (modify_quiet fun s => applyReconciliation_quiet s r) fun _ =>
      recoverIfAuthoritative_settles r _
  · exact settles_of_within (.pure _)

lemma handleOptOut_quiet (sig : OptOutSignal) : Within Quiet (handleOptOut sig) :=
  .bind (modify_quiet fun _ => .of_eq rfl rfl rfl rfl) fun _ =>
    .bind (audit_quiet _ _ _) fun _ => suppressOutreach_quiet _ _

lemma handleA2aUpdate_quiet (sig : A2AUpdateSignal) : Within Quiet (handleA2aUpdate sig) := by
  refine .bind .read fun s => ?_
  split_ifs
  · exact audit_quiet _ _ _
  · exact .bind (modify_quiet fun _ => .of_eq rfl rfl rfl rfl) fun _ =>
      .bind (audit_quiet _ _ _) fun _ => modify_quiet fun _ => .of_eq rfl rfl rfl rfl

lemma handleMandate_quiet (sig : MandateSignal) : Within Quiet (handleMandate sig) := by
  refine .bind (audit_quiet _ _ _) fun _ => modify_quiet fun _ => ?_
  split_ifs
  · exact refl_of Quiet _
  · exact .of_eq rfl rfl rfl rfl

/-- Every handler settles. -/
theorem handle_settles (host : Host) : ∀ sig, Leads Quiet (Settles Quiet) (handle host sig)
  | .approval sig => settles_of_within (handleApproval_quiet sig)
  | .paymentEvent sig => handlePayment_settles sig
  | .customerIntent sig => handleCustomerIntent_settles host sig
  | .optOut sig => settles_of_within (handleOptOut_quiet sig)
  | .cancellation _ =>
    settles_bind (audit_quiet _ _ _) fun _ =>
      settles_bind (cancelActiveAction_quiet _) fun _ => finish_settles _ _
  | .operatorEscalation _ =>
    settles_bind (audit_quiet _ _ _) fun _ =>
      settles_bind (cancelActiveAction_quiet _) fun _ => finish_settles _ _
  | .a2aUpdate sig => settles_of_within (handleA2aUpdate_quiet sig)
  | .mandate sig => settles_of_within (handleMandate_quiet sig)

/-- The deadline handling finishes with the outcome the deadline had when it began. -/
theorem expire_meets (s : Workflow) :
    (expire s).Meets (Steady s) fun s' _ =>
      ∃ t, Steady s t ∧ s' = t.finish s.deadlineOutcome "DEADLINE_EXPIRED" := by
  refine Proc.Meets.bind (fun t _ ht => ?_) (cancelActiveAction_steady _ s)
  refine ⟨t, ht, ?_⟩
  simp only [Workflow.deadlineOutcome, ht.outreachSuppressed]

lemma waitForSignalOrDeadline_steady : Within Steady waitForSignalOrDeadline := by
  refine .bind .read fun s => ?_
  split
  · exact .pure _
  · dsimp only
    split_ifs
    · exact .pure _
    · exact waitCondition_steady _

/-! ## Invariants of the waits -/

/-- What a run has asked and been answered. -/
abbrev Log : Type := List (Exchange Await Await.Reply)

/-- An activity, with its request and its reply. -/
lemma activity_tells {N : Log → Workflow → Prop} {a : Activity}
    {Q : Log → Workflow → a.Result → Prop} {h : Log} {s : Workflow}
    (hnode : N h (s.record (.requested a)))
    (hfail : ∀ x, N (h ++ [⟨.activity a, x⟩])
      ((s.record (.requested a)).resume x.now x.arrivals))
    (hdone : ∀ x r, x.result = some r → Q (h ++ [⟨.activity a, x⟩])
      ((s.record (.requested a)).resume x.now x.arrivals) r) :
    (activity a s).Tells N Q h := by
  refine ⟨hnode, fun x => ?_⟩
  cases hres : x.result with
  | none => simpa only [hres, Proc.Tells] using hfail x
  | some r => simpa only [hres, Proc.Tells] using hdone x r hres

/-- The decision enters the delay: it has a time to wait for, and one that can be read. -/
def PolicyResult.Delays (host : Host) (policy : PolicyResult) : Prop :=
  policy.disposition = "DELAY" ∧ (policy.delayUntil.bind host.parseInstant).isSome = true

/-- Properties of a run that the parts of the waits keep: then every wait keeps them. `N` holds at
every request, `I` between the parts, and `E` where a case is expired. -/
structure Enduring (host : Host) (N I E : Log → Workflow → Prop) : Prop where
  node : ∀ {h s}, I h s → N h s
  wait : ∀ {h s} timeout, I h s → s.terminal = false →
    (waitCondition timeout s).Tells N (fun h' s' _ => I h' s') h
  drainOne : ∀ {h s}, I h s → s.terminal = false →
    (drainOne host s).Tells N (fun h' s' _ => I h' s') h
  expire : ∀ {h s}, E h s → (expire s).Tells N (fun h' s' _ => I h' s') h
  due : ∀ {h s}, I h s → s.terminal = false → s.signals = [] → E h s
  checked : ∀ {h s}, I h s → s.signals = [] ∨ s.terminal = true →
    I h (s.record (.approvalChecked s.terminal s.pastDeadline s.outcome s.deadlineOutcome)) ∧
    (s.pastDeadline = true → E h
      (s.record (.approvalChecked s.terminal s.pastDeadline s.outcome s.deadlineOutcome)))

namespace Enduring
variable {host : Host} {N I E : Log → Workflow → Prop} (hI : Enduring host N I E) {h : Log}
  {s : Workflow}
include hI

/-- A drain ends with the queue empty, or with the case finished. -/
theorem drainSignals (rounds : ℕ) (hs : I h s) :
    (drainSignals host rounds s).Tells N
      (fun h' s' _ => I h' s' ∧ (s'.signals = [] ∨ s'.terminal = true)) h := by
  refine (Code.repeatWhile_tells (P := I) (fun _ _ ht _ => hI.node ht) (fun h t ht hc => ?_)
    rounds h s hs).mono (fun _ _ ht => ht) fun h' t _ ht => ⟨ht.1, ?_⟩
  · simp only [Bool.and_eq_true, Bool.not_eq_true'] at hc
    exact hI.drainOne ht hc.2
  · have hc := ht.2
    simp only [Bool.and_eq_false_iff, Bool.not_eq_false', List.isEmpty_iff] at hc
    exact hc

lemma waitForSignalOrDeadline (hs : I h s) (hterm : s.terminal = false) :
    (waitForSignalOrDeadline s).Tells N (fun h' s' _ => I h' s') h := by
  simp only [Worker.waitForSignalOrDeadline, Code.bind_apply, Code.read_apply, Proc.bind]
  cases s.deadline with
  | none => exact hs
  | some deadline =>
    dsimp only
    split_ifs
    · exact hs
    · exact hI.wait _ hs hterm

theorem waitForApprovalOrTerminal (rounds : ℕ) (hs : I h s) :
    (waitForApprovalOrTerminal host rounds s).Tells N (fun h' s' _ => I h' s') h := by
  refine (Code.repeatWhile_tells (P := I) (fun _ _ ht _ => hI.node ht) (fun h t ht hc => ?_)
    rounds h s hs).mono (fun _ _ ht => ht) fun _ _ _ ht => ht.1
  simp only [Bool.and_eq_true, Bool.not_eq_true'] at hc
  refine Proc.Tells.bind (fun h₁ t₁ _ hs₁ => ?_) (hI.waitForSignalOrDeadline ht hc.2)
  refine Proc.Tells.bind (fun h₂ t₂ _ hs₂ => ?_) (hI.drainSignals rounds hs₁)
  obtain ⟨hkeep, hdue⟩ := hI.checked hs₂.1 hs₂.2
  refine Code.modify_then_tells ?_
  simp only [Code.bind_apply, Code.read_apply, Proc.bind]
  split_ifs with hpast
  · exact hI.expire (hdue hpast)
  · exact hkeep

/-- The delay. If it is over before it began, nothing was drained when the deadline is checked. -/
theorem waitUntil (target : Instant) (rounds : ℕ) (hs : I h s)
    (hentry : s.pastDeadline = true → s.terminal = false → E h s) :
    (waitUntil host target rounds s).Tells N (fun h' s' _ => I h' s') h := by
  refine Proc.Tells.bind (fun h₁ t _ ht => ?_) (Code.loop_tells
    (P := fun h' t => I h' t ∧
      ((h' = h ∧ t = s) ∨ t.signals = [] ∨ t.terminal = true))
    (B := fun h' t => I h' t ∧ ((h' = h ∧ t = s) ∨ t.signals = [] ∨ t.terminal = true))
    (fun _ _ ht _ => hI.node ht.1) (fun h' t ht hc => ?_) rounds h s ⟨hs, .inl ⟨rfl, rfl⟩⟩)
  · have ht : I h₁ t ∧ ((h₁ = h ∧ t = s) ∨ t.signals = [] ∨ t.terminal = true) := ht.elim (·.1) id
    simp only [Code.bind_apply, Code.read_apply, Proc.bind]
    split_ifs with hpast
    · refine hI.expire ?_
      rcases ht.2 with ⟨rfl, rfl⟩ | hempty | hterm
      · exact hentry hpast.1 hpast.2
      · exact hI.due ht.1 hpast.2 hempty
      · exact absurd (hpast.2.symm.trans hterm) (by simp)
    · exact ht.1
  · simp only [Bool.and_eq_true, Bool.not_eq_true'] at hc
    simp only [Code.bind_apply, Code.read_apply, Proc.bind]
    split_ifs
    · exact ht
    · refine Proc.Tells.bind (fun h₁ t₁ _ hs₁ => ?_) (hI.wait _ ht.1 hc.1)
      refine Proc.Tells.bind (fun h₂ t₂ _ hs₂ => ?_) (hI.drainSignals rounds hs₁)
      exact ⟨hs₂.1, .inr hs₂.2⟩

/-- The main loop, for a property that the poll keeps as well. -/
theorem mainLoop (hp : ∀ {h t}, I h t → t.terminal = false →
      (pollA2aIfDue t).Tells N (fun h' s' _ => I h' s') h)
    (rounds : ℕ) (hs : I h s) :
    (mainLoop host rounds s).Tells N (fun h' s' _ => I h' s') h := by
  refine (Code.loop_tells (P := I) (B := I) (fun _ _ ht _ => hI.node ht) (fun h t ht _ => ?_)
    rounds h s hs).mono (fun _ _ ht => ht) fun h' t _ ht => ht.elim (·.1) id
  refine Proc.Tells.bind (fun h₁ t₁ _ hs₁ => ?_) (hI.drainSignals rounds ht)
  simp only [Code.bind_apply, Code.read_apply, Proc.bind]
  split_ifs with hterm hpast
  · exact hs₁.1
  · have hlive : t₁.terminal = false := by simpa using hterm
    have hempty : t₁.signals = [] := hs₁.2.resolve_right hterm
    exact Proc.Tells.bind (fun _ _ _ h₂ => h₂) (hI.expire (hI.due hs₁.1 hlive hempty))
  · refine Proc.Tells.bind (fun h₂ t₂ _ hs₂ => ?_) (hp hs₁.1 (by simpa using hterm))
    simp only [Code.bind_apply, Code.read_apply, Proc.bind]
    split_ifs with hterm₂
    · exact hs₂
    · refine Proc.Tells.bind (fun h₃ t₃ _ hs₃ => ?_)
        (hI.waitForSignalOrDeadline hs₂ (by simpa using hterm₂))
      exact Proc.Tells.bind (fun _ _ _ h₄ => h₄.1) (hI.drainSignals rounds hs₃)

/-- Whatever the decision asks to wait for; a case that goes on to its action is open. -/
theorem awaitPolicy (rounds : ℕ) (policy : PolicyResult) (hs : I h s)
    (hphase : ∀ phase, I h { s with phase })
    (happroval : I h { s with approvalRequired := true, phase := .awaitingApproval })
    (hentry : policy.Delays host → s.pastDeadline = true → s.terminal = false →
      E h { s with phase := .policyDelay })
    (hreject : ∀ {h t}, I h t → I h (t.finish .stopped "APPROVAL_REJECTED")) :
    (awaitPolicy host rounds policy s).Tells N
      (fun h' s' go => I h' s' ∧ (s.terminal = false → go = true → s'.terminal = false)) h := by
  unfold Worker.awaitPolicy
  split_ifs with hdelay
  · cases htarget : policy.delayUntil.bind host.parseInstant with
    | none => exact hI.node (hphase _)
    | some target =>
      have hdelays : policy.Delays host := ⟨hdelay.1, by rw [htarget]; rfl⟩
      refine Code.modify_then_tells (Proc.Tells.bind (fun h₁ t _ ht => ?_)
        (hI.waitUntil target rounds (hphase _) (hentry hdelays)))
      exact ⟨ht, fun _ hgo => by simpa using hgo⟩
  · refine Code.modify_then_tells (Proc.Tells.bind (fun h₁ t _ ht => ?_)
      (hI.waitForApprovalOrTerminal rounds happroval))
    simp only [Code.bind_apply, Code.read_apply, Proc.bind]
    split_ifs with hterm
    · exact ⟨ht, fun _ hgo => absurd hgo (by simp)⟩
    · exact ⟨hreject ht, fun _ hgo => absurd hgo (by simp)⟩
    · exact ⟨ht, fun _ _ => by simpa using hterm⟩
  · exact ⟨hs, fun hopen _ => hopen⟩

/-- The rest of a run, for a property that the poll keeps and the phase does not matter to. -/
theorem awaitRecovery (hphase : ∀ {h t} phase, I h t → I h { t with phase })
    (hp : ∀ {h t}, I h t → t.terminal = false →
      (pollA2aIfDue t).Tells N (fun h' s' _ => I h' s') h)
    (rounds : ℕ) (hs : I h s) :
    (awaitRecovery host rounds s).Tells N (fun h' s' _ => I h' s') h := by
  simp only [Worker.awaitRecovery, Code.bind_apply, Code.read_apply, Proc.bind]
  split_ifs
  · exact hs
  · refine Code.modify_then_tells (Proc.Tells.bind (fun h₁ u _ hu => hu)
      (hI.mainLoop hp rounds ?_))
    split_ifs
    · exact hs
    · exact hphase _ hs
    · exact hphase _ hs

end Enduring

/-- A property of the state alone that the parts of the waits keep. -/
structure Durable (host : Host) (I : Workflow → Prop) : Prop where
  wait : ∀ {s} timeout, I s → (waitCondition timeout s).Meets I fun s' _ => I s'
  drainOne : ∀ {s}, I s → s.terminal = false → (drainOne host s).Meets I fun s' _ => I s'
  expire : ∀ {s}, I s → (expire s).Meets I fun s' _ => I s'
  approvalChecked : ∀ {s} terminal past outcome deadlineOutcome, I s →
    I (s.record (.approvalChecked terminal past outcome deadlineOutcome))

lemma Durable.and {host : Host} {I J : Workflow → Prop} (hI : Durable host I)
    (hJ : Durable host J) : Durable host fun s => I s ∧ J s where
  wait timeout h := (hI.wait timeout h.1).and (hJ.wait timeout h.2)
  drainOne h ht := (hI.drainOne h.1 ht).and (hJ.drainOne h.2 ht)
  expire h := (hI.expire h.1).and (hJ.expire h.2)
  approvalChecked t p o d h := ⟨hI.approvalChecked t p o d h.1, hJ.approvalChecked t p o d h.2⟩

namespace Durable
variable {host : Host} {I : Workflow → Prop} (hI : Durable host I) {s : Workflow}
include hI

lemma enduring : Enduring host (fun _ => I) (fun _ => I) fun _ => I where
  node h := h
  wait timeout h _ := Proc.tells_iff_meets.mpr (hI.wait timeout h)
  drainOne h ht := Proc.tells_iff_meets.mpr (hI.drainOne h ht)
  expire h := Proc.tells_iff_meets.mpr (hI.expire h)
  due h _ _ := h
  checked h _ := ⟨hI.approvalChecked _ _ _ _ h, fun _ => hI.approvalChecked _ _ _ _ h⟩

theorem waitForApprovalOrTerminal (rounds : ℕ) (h : I s) :
    (waitForApprovalOrTerminal host rounds s).Meets I fun s' _ => I s' :=
  (Proc.tells_iff_meets (h := [])).mp (hI.enduring.waitForApprovalOrTerminal rounds h)

theorem waitUntil (target : Instant) (rounds : ℕ) (h : I s) :
    (waitUntil host target rounds s).Meets I fun s' _ => I s' :=
  (Proc.tells_iff_meets (h := [])).mp (hI.enduring.waitUntil target rounds h fun _ _ => h)

theorem mainLoop
    (hp : ∀ {t}, I t → t.terminal = false → (pollA2aIfDue t).Meets I fun s' _ => I s')
    (rounds : ℕ) (h : I s) : (mainLoop host rounds s).Meets I fun s' _ => I s' :=
  (Proc.tells_iff_meets (h := [])).mp (hI.enduring.mainLoop
    (fun ht hterm => Proc.tells_iff_meets.mpr (hp ht hterm)) rounds h)

end Durable

/-- A property that the atomic steps of the waits keep. -/
structure Stable (I : Workflow → Prop) : Prop where
  quiet : ∀ {s s'}, I s → Quiet s s' → I s'
  take : ∀ {s} sig rest, I s → I (s.take sig rest)
  finish : ∀ {s} outcome reason, I s → I (s.finish outcome reason)
  approvalChecked : ∀ {s} terminal past outcome deadlineOutcome, I s →
    I (s.record (.approvalChecked terminal past outcome deadlineOutcome))

namespace Stable
variable {I : Workflow → Prop} (hI : Stable I) {s : Workflow}
include hI

lemma meets {α : Type} {c : Wf α} (hc : Within Quiet c) (h : I s) :
    (c s).Meets I fun s' _ => I s' :=
  (hc s).mono (fun _ hq => hI.quiet h hq) fun _ _ hq => hI.quiet h hq

lemma drainOne (host : Host) (h : I s) : (drainOne host s).Meets I fun s' _ => I s' := by
  simp only [Worker.drainOne, Code.bind_apply, Code.read_apply, Proc.bind]
  cases s.signals with
  | nil => exact h
  | cons sig rest =>
    have ht := hI.take sig rest h
    refine Code.modify_then ((handle_settles host sig _).mono (fun t hq => hI.quiet ht hq)
      fun t _ hs => ?_)
    rcases hs with hq | ⟨u, o, r, hq, rfl⟩
    · exact hI.quiet ht hq
    · exact hI.finish o r (hI.quiet ht hq)

lemma expire (h : I s) : (expire s).Meets I fun s' _ => I s' := by
  refine (expire_meets s).mono (fun t ht => hI.quiet h ht.toQuiet) fun t _ ht => ?_
  obtain ⟨u, hu, rfl⟩ := ht
  exact hI.finish _ _ (hI.quiet h hu.toQuiet)

theorem durable (host : Host) : Durable host I where
  wait timeout h := hI.meets (quiet_of_steady (waitCondition_steady timeout)) h
  drainOne h _ := hI.drainOne host h
  expire h := hI.expire h
  approvalChecked t p o d h := hI.approvalChecked t p o d h

/-- Whatever the decision asks to wait for. -/
theorem awaitPolicy (host : Host) (rounds : ℕ) (policy : PolicyResult) (h : I s) :
    (awaitPolicy host rounds policy s).Meets I fun s' _ => I s' := by
  have hdelay : I { s with phase := .policyDelay } := hI.quiet h (.of_eq rfl rfl rfl rfl)
  have happroval : I { s with approvalRequired := true, phase := .awaitingApproval } :=
    hI.quiet h (.of_eq rfl rfl rfl rfl)
  unfold Worker.awaitPolicy
  split_ifs
  · cases policy.delayUntil.bind host.parseInstant with
    | none => exact hdelay
    | some target =>
      exact Code.modify_then (Proc.Meets.bind (fun t _ ht => ht)
        ((hI.durable host).waitUntil target rounds hdelay))
  · refine Code.modify_then (Proc.Meets.bind (fun t _ ht => ?_)
      ((hI.durable host).waitForApprovalOrTerminal rounds happroval))
    simp only [Code.bind_apply, Code.read_apply, Proc.bind]
    split_ifs
    · exact ht
    · exact hI.finish _ _ ht
    · exact ht
  · exact h

theorem awaitRecovery (hp : ∀ {t}, I t → (pollA2aIfDue t).Meets I fun s' _ => I s')
    (host : Host) (rounds : ℕ) (h : I s) :
    (awaitRecovery host rounds s).Meets I fun s' _ => I s' := by
  simp only [Worker.awaitRecovery, Code.bind_apply, Code.read_apply, Proc.bind]
  split_ifs
  · exact h
  · refine Code.modify_then (Proc.Meets.bind (fun u _ hu => hu)
      ((hI.durable host).mainLoop (fun ht _ => hp ht) rounds (hI.quiet h ?_)))
    split_ifs <;> exact .of_eq rfl rfl rfl rfl

end Stable

/-! ## Deciding and executing -/

lemma Quiet.running {s s' : Workflow} (h : Quiet s s') : Running s s' := h.toSilent.running

lemma running_of_quiet {α : Type} {c : Wf α} (h : Within Quiet c) : Within Running c :=
  fun s => (h s).mono (fun _ h => h.running) fun _ _ h => h.running

lemma silent_of_quiet {α : Type} {c : Wf α} (h : Within Quiet c) : Within Silent c :=
  fun s => (h s).mono (fun _ h => h.toSilent) fun _ _ h => h.toSilent

lemma running_of_silent {α : Type} {c : Wf α} (h : Within Silent c) : Within Running c :=
  fun s => (h s).mono (fun _ h => h.running) fun _ _ h => h.running

lemma modify_running {f : Workflow → Workflow} (ht : ∀ s, (f s).terminal = s.terminal)
    (hh : ∀ s, (f s).history = s.history) : Within Running (Code.modify f : Wf Unit) :=
  .modify fun s => ⟨ht s, [], by simpa using hh s⟩

lemma modify_silent {f : Workflow → Workflow} (ht : ∀ s, (f s).terminal = s.terminal)
    (ha : ∀ s, (f s).a2aTaskId = s.a2aTaskId) (hh : ∀ s, (f s).history = s.history) :
    Within Silent (Code.modify f : Wf Unit) :=
  .modify fun s => ⟨ht s, ha s, [], by simpa using hh s, by simp⟩

lemma activity_running (a : Activity) : Within Running (activity a) := by
  intro s
  have hr : Running s (s.record (.requested a)) := ⟨rfl, [a], rfl⟩
  refine ⟨hr, fun x => ?_⟩
  have hx : Running s ((s.record (.requested a)).resume x.now x.arrivals) :=
    trans_of Running hr (Steady.resume _ _ _).running
  cases hres : x.result with
  | none => simpa only [hres, Proc.Meets] using hx
  | some r => simpa only [hres, Proc.Meets] using hx

lemma audit_running (eventType correlationId : String) (details : List (String × Json)) :
    Within Running (audit eventType correlationId details) :=
  running_of_quiet (audit_quiet eventType correlationId details)

lemma requireInput_running : Within Running requireInput :=
  running_of_quiet (quiet_of_steady requireInput_steady)

lemma startA2aAuthorization_settles :
    Leads Running (Settles Running) startA2aAuthorization := by
  refine settles_bind requireInput_running fun command => ?_
  split
  · split
    · refine settles_bind (activity_running _) fun result => ?_
      refine settles_bind (modify_running (fun _ => rfl) fun _ => rfl) fun _ => ?_
      exact settles_of_within (audit_running _ _ _)
    · exact settles_bind (audit_running _ _ _) fun _ =>
        settles_bind (modify_running (fun _ => rfl) fun _ => rfl) fun _ => finish_settles _ _
  · exact settles_bind (audit_running _ _ _) fun _ =>
      settles_bind (modify_running (fun _ => rfl) fun _ => rfl) fun _ => finish_settles _ _

theorem executeAction_settles (policy : PolicyResult) (mandate : Option Json) :
    Leads Running (Settles Running) (executeAction policy mandate) := by
  unfold executeAction
  split_ifs
  · exact startA2aAuthorization_settles
  · refine settles_bind requireInput_running fun command => ?_
    refine settles_bind (modify_running (fun _ => rfl) fun _ => rfl) fun _ => ?_
    refine settles_bind (activity_running _) fun result => ?_
    refine settles_bind (modify_running (fun _ => rfl) fun _ => rfl) fun _ => ?_
    refine settles_bind (audit_running _ _ _) fun _ => ?_
    split_ifs
    · exact finish_settles _ _
    · exact settles_of_within (modify_running (fun _ => rfl) fun _ => rfl)
    · exact settles_of_within (.pure _)

/-- Executing an action that does not reach the customer requests no outreach. -/
theorem executeAction_silent {policy : PolicyResult} (h : customerFacing policy.action = false)
    (mandate : Option Json) : Leads Silent (Settles Silent) (executeAction policy mandate) := by
  unfold executeAction
  split_ifs with hs
  · rw [hs.1] at h
    exact absurd h (by decide)
  · refine settles_bind (silent_of_quiet (quiet_of_steady requireInput_steady)) fun command => ?_
    refine settles_bind (modify_silent (fun _ => rfl) (fun _ => rfl) fun _ => rfl) fun _ => ?_
    refine settles_bind (silent_of_quiet (quiet_of_steady (activity_steady h))) fun result => ?_
    refine settles_bind (modify_silent (fun _ => rfl) (fun _ => rfl) fun _ => rfl) fun _ => ?_
    refine settles_bind (silent_of_quiet (audit_quiet _ _ _)) fun _ => ?_
    split_ifs
    · exact finish_settles _ _
    · exact settles_of_within (modify_silent (fun _ => rfl) (fun _ => rfl) fun _ => rfl)
    · exact settles_of_within (.pure _)

theorem pollA2aIfDue_settles : Leads Running (Settles Running) pollA2aIfDue := by
  refine settles_bind .read fun s => ?_
  split
  · split_ifs
    · exact settles_of_within (.pure _)
    · refine settles_bind requireInput_running fun command => ?_
      split
      · split
        · refine settles_bind (activity_running _) fun result => ?_
          refine settles_bind (modify_running (fun _ => rfl) fun _ => rfl) fun _ => ?_
          split_ifs
          · exact settles_of_within (modify_running (fun _ => rfl) fun _ => rfl)
          · refine settles_bind (modify_running (fun _ => rfl) fun _ => rfl) fun _ => ?_
            refine settles_bind (audit_running _ _ _) fun _ => ?_
            split_ifs
            · exact settles_bind (modify_running (fun _ => rfl) fun _ => rfl) fun _ =>
                finish_settles _ _
            · exact settles_bind (modify_running (fun _ => rfl) fun _ => rfl) fun _ =>
                executeAction_settles _ _
        · exact settles_bind (modify_running (fun _ => rfl) fun _ => rfl) fun _ =>
            finish_settles _ _
      · exact settles_bind (modify_running (fun _ => rfl) fun _ => rfl) fun _ =>
          finish_settles _ _
  · exact settles_of_within (.pure _)

/-- Without an A2A task there is nothing to poll. -/
theorem pollA2aIfDue_none {s : Workflow} (h : s.a2aTaskId = none) :
    pollA2aIfDue s = .done s () := by
  simp only [pollA2aIfDue, Code.bind_apply, Code.read_apply, Proc.bind, h]
  rfl

lemma decidePolicy_silent (host : Host) (workflowId : String) (command : RecoveryWorkflowInput) :
    Within Silent (decidePolicy host workflowId command) := by
  have hm : ∀ {f : Workflow → Workflow}, (∀ s, (f s).terminal = s.terminal) →
      (∀ s, (f s).a2aTaskId = s.a2aTaskId) → (∀ s, (f s).history = s.history) →
      Within Silent (Code.modify f : Wf Unit) := modify_silent
  have ha : ∀ {a : Activity}, a.outreach = false → Within Silent (activity a) := fun h =>
    silent_of_quiet (quiet_of_steady (activity_steady h))
  unfold decidePolicy
  split_ifs
  · exact .fail
  · exact .fail
  · refine .bind (hm (fun _ => rfl) (fun _ => rfl) fun _ => rfl) fun _ => ?_
    split
    · exact .fail
    · refine .bind (hm (fun _ => rfl) (fun _ => rfl) fun _ => rfl) fun _ => ?_
      refine .bind (ha rfl) fun normalized => ?_
      refine .bind (hm (fun _ => rfl) (fun _ => rfl) fun _ => rfl) fun _ => ?_
      refine .bind (ha rfl) fun diagnosis => ?_
      refine .bind (hm (fun _ => rfl) (fun _ => rfl) fun _ => rfl) fun _ => ?_
      refine .bind (ha rfl) fun _ => ?_
      refine .bind (hm (fun _ => rfl) (fun _ => rfl) fun _ => rfl) fun _ => ?_
      exact ha rfl

/-- Adopting a decision requests no outreach, and its action becomes the workflow's. -/
theorem adoptPolicy_meets (policy : PolicyResult) (s : Workflow) :
    (adoptPolicy policy s).Meets (Silent s) fun s' _ =>
      Silent s s' ∧ s'.action = some policy.action := by
  set t : Workflow :=
    { s with policyDisposition := some policy.disposition, action := some policy.action }
  have ht : Silent s t := ⟨rfl, rfl, [], by simp [t], by simp⟩
  refine ((audit_quiet _ _ _ t).mono (fun u hu => ?_) fun u _ hu => ?_)
  · exact trans_of Silent ht hu.toSilent
  · exact ⟨trans_of Silent ht hu.toSilent, hu.action⟩

end RecoveryOS.Worker
