import RecoveryOS.Worker.Steps

/-!
# A terminal case keeps its outcome

`_finish` overwrites the outcome, so a case keeps the one it was finished with only if nothing
finishes it again. The main loop and the policy delay look at the terminal flag before they expire
a case; the approval wait does not. Its check finds a terminal case when the drain before it
finished one, and overwrites that outcome if the deadline has passed in the meantime
(`Entry.overwrites`). In a run where that never happens the outcome of every `_finish` is the final
one (`OutcomeKept`).
-/

namespace RecoveryOS.Worker

open Resume

/-- A point of a run: the computation that is left from there. -/
abbrev Point := Proc Await Await.Reply Workflow RecoveryWorkflowResult

/-- The deadline check of the approval wait finds a case that the drain before it has finished,
past the deadline and with another outcome than the deadline's. -/
def Entry.overwrites : Entry → Bool
  | .approvalChecked terminal past outcome deadlineOutcome =>
    terminal && past && decide (outcome ≠ some deadlineOutcome)
  | _ => false

def NeverOverwrites (h : List Entry) : Prop := ∀ e ∈ h, e.overwrites = false

/-- At a point of a run: the case is terminal once `_finish` was called, with the outcome of every
such call; the returned result carries it; and a recovered case has returned. -/
structure OutcomeKept (p : Point) : Prop where
  terminal_iff : p.state.terminal = true ↔ ∃ o r, Entry.finished o r ∈ p.state.history
  outcome : ∀ o r, Entry.finished o r ∈ p.state.history → p.state.outcome = some o
  returned : ∀ s a, p = .done s a → ∀ o r, Entry.finished o r ∈ s.history →
    a.outcome = o ∧ (a.caseRecovered = true ↔ o = .recovered)
  recovered : ∀ r, Entry.finished .recovered r ∈ p.state.history → ∃ s a, p = .done s a

/-- The case is not finished. -/
def Live (s : Workflow) : Prop :=
  s.terminal = false ∧ ∀ o r, Entry.finished o r ∉ s.history

/-- What every point between two statements of `run` satisfies. -/
structure Kept (s : Workflow) : Prop where
  terminal_iff : s.terminal = true ↔ ∃ o r, Entry.finished o r ∈ s.history
  outcome : NeverOverwrites s.history → ∀ o r, Entry.finished o r ∈ s.history →
    s.outcome = some o

/-- What every point where `run` waits satisfies: a recovered case does not wait. -/
structure Pending (s : Workflow) : Prop extends Kept s where
  recovered : NeverOverwrites s.history → ∀ r, Entry.finished .recovered r ∉ s.history

lemma NeverOverwrites.left {h l : List Entry} (hn : NeverOverwrites (h ++ l)) :
    NeverOverwrites h :=
  fun e he => hn e (List.mem_append_left l he)

lemma Live.pending {s : Workflow} (h : Live s) : Pending s where
  terminal_iff := by
    rw [h.1]
    constructor
    · intro hf
      exact absurd hf (by simp)
    · rintro ⟨o, r, hm⟩
      exact absurd hm (h.2 o r)
  outcome _ o r hm := absurd hm (h.2 o r)
  recovered _ r := h.2 .recovered r

lemma Kept.live {s : Workflow} (h : Kept s) (ht : s.terminal = false) : Live s := by
  refine ⟨ht, fun o r hm => ?_⟩
  have := h.terminal_iff.mpr ⟨o, r, hm⟩
  rw [ht] at this
  exact absurd this (by simp)

lemma finished_mem_of_running {s s' : Workflow} (h : Running s s') (o : CaseOutcome)
    (r : String) : Entry.finished o r ∈ s'.history ↔ Entry.finished o r ∈ s.history := by
  obtain ⟨l, hl⟩ := h.history
  rw [hl]
  simp

lemma Live.running {s s' : Workflow} (h : Live s) (hr : Running s s') : Live s' := by
  refine ⟨hr.terminal.trans h.1, fun o r hm => ?_⟩
  exact h.2 o r ((finished_mem_of_running hr o r).mp hm)

lemma Live.finish {s : Workflow} (h : Live s) (o : CaseOutcome) (r : String) :
    Kept (s.finish o r) where
  terminal_iff := ⟨fun _ => ⟨o, r, by simp [Workflow.finish]⟩, fun _ => rfl⟩
  outcome _ o' r' hm := by
    rcases List.mem_append.mp hm with hm | hm
    · exact absurd hm (h.2 o' r')
    · obtain ⟨rfl, rfl⟩ : o' = o ∧ r' = r := by simpa using hm
      rfl

lemma Live.settles {s s' : Workflow} (h : Live s) : Settles Running s s' → Kept s'
  | .inl hr => (h.running hr).pending.toKept
  | .inr ⟨_, o, r, hr, he⟩ => he ▸ (h.running hr).finish o r

/-- Steps that settle keep a live case in order. -/
lemma Live.meets {α : Type} {c : Wf α} {s : Workflow} (h : Live s)
    (hc : Leads Running (Settles Running) c) : (c s).Meets Pending fun s' _ => Kept s' :=
  (hc s).mono (fun _ hr => (h.running hr).pending) fun _ _ hr => h.settles hr

/-- Steps that only request keep a live case live. -/
lemma Live.meets_live {α : Type} {c : Wf α} {s : Workflow} (h : Live s)
    (hc : Within Running c) : (c s).Meets Pending fun s' _ => Live s' :=
  (hc s).mono (fun _ hr => (h.running hr).pending) fun _ _ hr => h.running hr

/-! ## Draining and waiting -/

lemma handle_settles_running (host : Host) (sig : QueuedSignal) :
    Leads Running (Settles Running) (handle host sig) :=
  fun s => (handle_settles host sig s).mono (fun _ h => h.running)
    fun _ _ h => h.mono fun _ _ h => h.running

lemma drainOne_meets (host : Host) {s : Workflow} (h : Live s) :
    (drainOne host s).Meets Pending fun s' _ => Kept s' := by
  simp only [drainOne, Code.bind_apply, Code.read_apply, Proc.bind]
  cases hs : s.signals with
  | nil => exact h.pending.toKept
  | cons sig rest =>
    have hl : Live (s.take sig rest) :=
      ⟨h.1, fun o r hm => h.2 o r (by simpa [Workflow.take] using hm)⟩
    exact hl.meets (handle_settles_running host sig)

theorem drainSignals_meets (host : Host) (rounds : ℕ) {s : Workflow} (h : Kept s) :
    (drainSignals host rounds s).Meets Pending fun s' _ => Kept s' := by
  have hlive : ∀ t : Workflow, Kept t → (!t.signals.isEmpty && !t.terminal) = true → Live t := by
    intro t hk hc
    simp only [Bool.and_eq_true, Bool.not_eq_true'] at hc
    exact hk.live hc.2
  refine (Code.repeatWhile_meets (P := Kept) (fun t hk hc => (hlive t hk hc).pending)
    (fun t hk hc => drainOne_meets host (hlive t hk hc)) rounds s h).mono
    (fun _ h => h) fun _ _ h => h.1

/-- Expiring a live case. -/
lemma expire_meets_of_live {s : Workflow} (h : Live s) :
    (expire s).Meets Pending fun s' _ => Kept s' := by
  refine (expire_meets s).mono (fun t ht => (h.running ht.running).pending) fun t _ ht => ?_
  obtain ⟨u, hu, rfl⟩ := ht
  exact (h.running hu.running).finish _ _

/-- A case that is finished already and is expired all the same keeps an outcome that was the
deadline's. -/
lemma expire_meets_of_eq {s : Workflow} (h : Kept s)
    (ho : NeverOverwrites s.history → s.outcome = some s.deadlineOutcome) :
    (expire s).Meets Pending fun s' _ => Kept s' := by
  have hd : s.deadlineOutcome ≠ .recovered := by
    unfold Workflow.deadlineOutcome
    split_ifs <;> decide
  have hkeep : ∀ t, Steady s t → NeverOverwrites t.history →
      NeverOverwrites s.history := by
    intro t hst hn
    obtain ⟨l, hl, -⟩ := hst.history
    exact NeverOverwrites.left (hl ▸ hn)
  refine (expire_meets s).mono (fun t hst => ?_) fun t _ hst => ?_
  · refine ⟨⟨?_, fun hn o r hm => ?_⟩, fun hn r hm => ?_⟩
    · rw [hst.terminal, h.terminal_iff]
      simp only [finished_mem_of_running hst.running]
    · rw [hst.outcome]
      exact h.outcome (hkeep t hst hn) o r ((finished_mem_of_running hst.running o r).mp hm)
    · have hm' := (finished_mem_of_running hst.running _ r).mp hm
      have := h.outcome (hkeep t hst hn) _ r hm'
      rw [ho (hkeep t hst hn)] at this
      exact hd (Option.some.inj this)
  · obtain ⟨u, hu, rfl⟩ := hst
    refine ⟨⟨fun _ => ⟨_, _, List.mem_append_right _ (List.mem_singleton_self _)⟩,
      fun _ => rfl⟩, fun hn o r hm => ?_⟩
    rcases List.mem_append.mp hm with hm | hm
    · have hs := hkeep u hu hn.left
      have := h.outcome hs o r ((finished_mem_of_running hu.running o r).mp hm)
      rw [ho hs] at this
      exact this
    · obtain ⟨rfl, -⟩ : o = s.deadlineOutcome ∧ r = "DEADLINE_EXPIRED" := by simpa using hm
      rfl

/-- The check of the approval wait overwrites no outcome in a run that never does. -/
theorem checkApprovalDeadline_meets {s : Workflow} (h : Kept s) :
    (checkApprovalDeadline s).Meets Pending fun s' _ => Kept s' := by
  set e : Entry := .approvalChecked s.terminal s.pastDeadline s.outcome s.deadlineOutcome with he
  have hk : Kept (s.record e) := by
    refine ⟨h.terminal_iff.trans ?_, fun hn o r hm => ?_⟩
    · simp [Workflow.record, he]
    · exact h.outcome hn.left o r (by simpa [Workflow.record, he] using hm)
  show Proc.Meets _ _ ((if (s.record e).pastDeadline then expire else pure ()) (s.record e))
  split_ifs with hp
  · cases ht : s.terminal with
    | false => exact expire_meets_of_live (hk.live ht)
    | true =>
      refine expire_meets_of_eq hk fun hn => ?_
      have hne := hn e (List.mem_append_right _ (List.mem_singleton_self e))
      have hp' : s.pastDeadline = true := hp
      show s.outcome = some s.deadlineOutcome
      simpa [he, Entry.overwrites, ht, hp'] using hne
  · exact hk

lemma waitForApprovalOrTerminal_meets (host : Host) (rounds : ℕ) {s : Workflow} (h : Kept s) :
    (waitForApprovalOrTerminal host rounds s).Meets Pending fun s' _ => Kept s' := by
  have hlive : ∀ t : Workflow, Kept t → (t.approvalReceived.isNone && !t.terminal) = true →
      Live t := by
    intro t hk hc
    simp only [Bool.and_eq_true, Bool.not_eq_true'] at hc
    exact hk.live hc.2
  refine (Code.repeatWhile_meets (P := Kept) (fun t hk hc => (hlive t hk hc).pending)
    (fun t hk hc => ?_) rounds s h).mono (fun _ h => h) fun _ _ h => h.1
  refine Proc.Meets.bind (fun t₁ _ h₁ => ?_) ((hlive t hk hc).meets_live
    (running_of_quiet (quiet_of_steady waitForSignalOrDeadline_steady)))
  refine Proc.Meets.bind (fun t₂ _ h₂ => ?_) (drainSignals_meets host rounds h₁.pending.toKept)
  exact checkApprovalDeadline_meets h₂

lemma waitUntil_meets (host : Host) (target : Instant) (rounds : ℕ) {s : Workflow}
    (h : Kept s) : (waitUntil host target rounds s).Meets Pending fun s' _ => Kept s' := by
  have hlive : ∀ t : Workflow, Kept t → (!t.terminal && decide (t.now < target)) = true →
      Live t := by
    intro t hk hc
    simp only [Bool.and_eq_true, Bool.not_eq_true'] at hc
    exact hk.live hc.1
  refine Proc.Meets.bind (fun t _ ht => ?_) (Code.loop_meets (P := Kept) (B := Kept)
    (fun t hk hc => (hlive t hk hc).pending) (fun t hk hc => ?_) rounds s h)
  · have hk : Kept t := ht.elim (·.1) id
    show Proc.Meets _ _ ((if _ then expire else pure ()) t)
    split_ifs with hp
    · exact expire_meets_of_live (hk.live hp.2)
    · exact hk
  · simp only [Code.bind_apply, Code.read_apply, Proc.bind]
    split_ifs
    · exact hk
    · refine Proc.Meets.bind (fun t₁ _ h₁ => ?_) ((hlive t hk hc).meets_live
        (running_of_quiet (quiet_of_steady (waitCondition_steady _))))
      exact Proc.Meets.bind (fun t₂ _ h₂ => h₂) (drainSignals_meets host rounds h₁.pending.toKept)

lemma awaitPolicy_meets (host : Host) (rounds : ℕ) (policy : PolicyResult) {s : Workflow}
    (h : Live s) : (awaitPolicy host rounds policy s).Meets Pending fun s' go =>
      Kept s' ∧ (go = true → Live s') := by
  unfold awaitPolicy
  split_ifs with hd ha
  · cases policy.delayUntil.bind host.parseInstant with
    | none => exact (h.running ⟨rfl, [], by simp⟩ : Live { s with phase := .policyDelay }).pending
    | some target =>
      have hl : Live { s with phase := .policyDelay } := h.running ⟨rfl, [], by simp⟩
      refine Code.modify_then (Proc.Meets.bind (fun t _ ht => ?_)
        (waitUntil_meets host target rounds hl.pending.toKept))
      exact ⟨ht, fun hg => ht.live (by simpa using hg)⟩
  · have hl : Live { s with approvalRequired := true, phase := .awaitingApproval } :=
      h.running ⟨rfl, [], by simp⟩
    refine Code.modify_then (Proc.Meets.bind (fun t _ ht => ?_)
      (waitForApprovalOrTerminal_meets host rounds hl.pending.toKept))
    simp only [Code.bind_apply, Code.read_apply, Proc.bind]
    split_ifs with hterm happ
    · exact ⟨ht, fun hg => absurd hg (by simp)⟩
    · exact ⟨(ht.live (by simpa using hterm)).finish _ _, fun hg => absurd hg (by simp)⟩
    · exact ⟨ht, fun _ => ht.live (by simpa using hterm)⟩
  · exact ⟨h.pending.toKept, fun _ => h⟩

/-! ## Executing and the main loop -/

lemma mainLoop_meets (host : Host) (rounds : ℕ) {s : Workflow} (h : Kept s) :
    (mainLoop host rounds s).Meets Pending fun s' _ => Kept s' := by
  refine (Code.loop_meets (P := Kept) (B := Kept) (fun t hk hc => ?_) (fun t hk hc => ?_)
    rounds s h).mono (fun _ h => h) fun t _ ht => ht.elim (·.1) id
  · exact (hk.live (by simpa using hc)).pending
  · refine Proc.Meets.bind (fun t₁ _ h₁ => ?_) (drainSignals_meets host rounds hk)
    simp only [Code.bind_apply, Code.read_apply, Proc.bind]
    split_ifs with hterm hpast
    · exact h₁
    · exact Proc.Meets.bind (fun t₂ _ h₂ => h₂)
        (expire_meets_of_live (h₁.live (by simpa using hterm)))
    · refine Proc.Meets.bind (fun t₂ _ h₂ => ?_)
        ((h₁.live (by simpa using hterm)).meets pollA2aIfDue_settles)
      simp only [Code.bind_apply, Code.read_apply, Proc.bind]
      split_ifs with hterm₂
      · exact h₂
      · refine Proc.Meets.bind (fun t₃ _ h₃ => ?_) ((h₂.live (by simpa using hterm₂)).meets_live
          (running_of_quiet (quiet_of_steady waitForSignalOrDeadline_steady)))
        exact Proc.Meets.bind (fun t₄ _ h₄ => h₄)
          (drainSignals_meets host rounds h₃.pending.toKept)

lemma beginAction_settles (policy : PolicyResult) :
    Leads Running (Settles Running) (beginAction policy) := by
  unfold beginAction
  split_ifs
  · exact finish_settles _ _
  · exact settles_of_within (modify_running (fun _ => rfl) fun _ => rfl)
  · exact executeAction_settles policy none

lemma awaitRecovery_meets (host : Host) (rounds : ℕ) {s : Workflow} (h : Kept s) :
    (awaitRecovery host rounds s).Meets Pending fun s' a => Kept s' ∧ a = s'.result := by
  simp only [awaitRecovery, Code.bind_apply, Code.read_apply, Proc.bind]
  split_ifs
  · exact ⟨h, rfl⟩
  · refine Code.modify_then (Proc.Meets.bind (fun u _ hu => ?_) (mainLoop_meets host rounds ?_))
    · exact ⟨hu, rfl⟩
    · split_ifs
      · exact h
      · exact ⟨h.terminal_iff, h.outcome⟩
      · exact ⟨h.terminal_iff, h.outcome⟩

theorem run_meets (host : Host) (rounds : ℕ) (workflowId : String)
    (command : RecoveryWorkflowInput) {s : Workflow} (h : Live s) :
    (run host rounds workflowId command s).Meets Pending fun s' a =>
      Kept s' ∧ a = s'.result := by
  refine Proc.Meets.bind (fun t policy ht => ?_)
    (h.meets_live (running_of_silent (decidePolicy_silent host workflowId command)))
  have hadopt : (adoptPolicy policy t).Meets Pending fun s' _ => Live s' :=
    (adoptPolicy_meets policy t).mono (fun u hu => (ht.running hu.running).pending)
      fun u _ hu => ht.running hu.1.running
  refine Proc.Meets.bind (fun u _ hu => ?_) hadopt
  split_ifs
  · exact ⟨hu.finish _ _, rfl⟩
  · refine Proc.Meets.bind (fun v go hv => ?_) (awaitPolicy_meets host rounds policy hu)
    cases go with
    | true =>
      exact Proc.Meets.bind (fun w _ hw => awaitRecovery_meets host rounds hw)
        ((hv.2 rfl).meets (beginAction_settles policy))
    | false => exact ⟨hv.1, rfl⟩

lemma start_live (now : Instant) (arrivals : List QueuedSignal) : Live (start now arrivals) := by
  have h : Live ({ now } : Workflow) := ⟨rfl, by simp⟩
  exact h.running (Steady.resume _ _ _).running

/-- In a run whose approval wait never overwrites the outcome of a finished case, a case keeps the
outcome it was finished with, and one that was recovered returns as recovered. -/
theorem outcome_kept (host : Host) (rounds : ℕ) (workflowId : String)
    (command : RecoveryWorkflowInput) (now : Instant) (arrivals : List QueuedSignal)
    (env : ℕ → (r : Await) → r.Reply) (n : ℕ)
    (hn : NeverOverwrites
      ((run host rounds workflowId command (start now arrivals)).follow env n).state.history) :
    OutcomeKept ((run host rounds workflowId command (start now arrivals)).follow env n) := by
  have hm := (run_meets host rounds workflowId command (start_live now arrivals)).follow n env
  generalize (run host rounds workflowId command (start now arrivals)).follow env n = p at hm hn
  have hpending : Pending p.state → (∀ s a, p ≠ .done s a) → OutcomeKept p := fun hp hd =>
    ⟨hp.terminal_iff, hp.outcome hn, fun s a he => absurd he (hd s a),
      fun r hr => absurd hr (hp.recovered hn r)⟩
  cases p with
  | failed s => exact hpending hm (by simp)
  | spent s => exact hpending hm (by simp)
  | await s r k => exact hpending hm.1 (by simp)
  | done s a =>
    obtain ⟨hk, rfl⟩ := hm
    refine ⟨hk.terminal_iff, hk.outcome hn, fun s' a he o r hr => ?_, fun r _ => ⟨s, _, rfl⟩⟩
    obtain ⟨rfl, rfl⟩ : s = s' ∧ s.result = a := by simpa using he
    have ho := hk.outcome hn o r hr
    simp [Workflow.result, ho]

/-- The approval is awaited when the payment event arrives, a second before the deadline; the
reconciliation it leads to ends at `reconciledAt`. -/
def reconciliationAt (reconciledAt : Instant) : ℕ → (r : Await) → r.Reply :=
  wellEnv
    { disposition := "REQUIRE_MANUAL_APPROVAL", decisionCode := "HIGH_VALUE",
      action := "OPEN_CUSTOMER_PAYMENT_SURFACE",
      paymentSurfaceType := some "SUBSCRIPTION_INVOICE_LINK" }
    (fun i => if i ≤ 5 then 9000000 else reconciledAt)
    fun i =>
      if i = 5 then
        [.paymentEvent
          { signalId := "s1", providerEventId := "evt_1", paymentState := "CAPTURED",
            amountPaise := 49900, authoritative := true }]
      else []

theorem outcome_kept_timely :
    OutcomeKept ((run sampleHost 9 "recovery-case:case_1" sampleInput (start 0 [])).follow
      (reconciliationAt 9500000) 9) ∧
    Entry.finished .recovered "PAYMENT_CAPTURED" ∈
      ((run sampleHost 9 "recovery-case:case_1" sampleInput (start 0 [])).follow
        (reconciliationAt 9500000) 9).state.history :=
  ⟨outcome_kept _ _ _ _ _ _ _ _ (by unfold NeverOverwrites; decide),
    List.mem_of_getElem? (i := 9) rfl⟩

/-- A reconciliation that ends at the deadline: the recovered case returns as expired. -/
theorem late_reconciliation_overwritten :
    ¬ OutcomeKept ((run sampleHost 9 "recovery-case:case_1" sampleInput (start 0 [])).follow
      (reconciliationAt 10000000) 9) := by
  intro h
  have hm : Entry.finished .recovered "PAYMENT_CAPTURED" ∈
      ((run sampleHost 9 "recovery-case:case_1" sampleInput (start 0 [])).follow
        (reconciliationAt 10000000) 9).state.history := List.mem_of_getElem? (i := 9) rfl
  have he : ((run sampleHost 9 "recovery-case:case_1" sampleInput (start 0 [])).follow
      (reconciliationAt 10000000) 9).state.outcome = some .expired := rfl
  have ho := h.outcome .recovered _ hm
  rw [he] at ho
  exact absurd ho (by decide)

end RecoveryOS.Worker
