import RecoveryOS.Lib.History
import RecoveryOS.Worker.Steps

/-!
# Outreach after a suppressing signal

`_suppress_outreach` sets a flag that only the deadline reads. It stops outreach where none is left
to request: after a decided action was executed and while no A2A task is open. A signal drained
during the policy delay or the approval wait does not keep `run` from executing the action
afterwards, and one drained while an A2A task is polled does not keep the poll from opening the
payment surface.

`Guarded` says that no suppressing signal of a run is drained at such a moment, and
`no_outreach_after_suppression` that the run then requests no outreach after any of them.
-/

namespace RecoveryOS.Worker

open Resume History

/-- An opt-out, or the intent to opt out or to be the wrong person. -/
def suppressing (host : Host) : QueuedSignal → Bool
  | .optOut _ => true
  | .customerIntent sig => host.upper sig.intent ∈ ["OPT_OUT", "WRONG_PERSON"]
  | _ => false

def Entry.suppresses (host : Host) : Entry → Bool
  | .drained sig _ _ => suppressing host sig
  | _ => false

def Entry.outreach : Entry → Bool
  | .requested a => a.outreach
  | _ => false

/-- No outreach is requested after a suppressing signal was drained. -/
def Clean (host : Host) (h : List Entry) : Prop :=
  h.Pairwise fun e e' => e.suppresses host = true → e'.outreach = false

/-- A signal drained after `l` is not suppressing, or no A2A task is open and no outreach is still
to come from the decision: its action does not reach the customer, or was requested already. -/
def Entry.guarded (host : Host) (l : List Entry) : Entry → Bool
  | .drained sig action task =>
    !suppressing host sig || (task.isNone && (!action.any customerFacing || l.any Entry.outreach))
  | _ => true

/-- Every suppressing signal of a history was drained at such a moment. -/
def Guarded (host : Host) : List Entry → Prop :=
  Causal fun l e => e.guarded host l = true

instance (host : Host) (h : List Entry) : Decidable (Guarded host h) :=
  inferInstanceAs (Decidable (Causal (fun l e => e.guarded host l = true) h))

section
variable {host : Host}

/-- A guarded run has drained no suppressing signal. -/
def Unsuppressed (host : Host) (s : Workflow) : Prop :=
  Guarded host s.history → ∀ e ∈ s.history, e.suppresses host = false

/-- What holds at every point of a run. -/
structure Clear (host : Host) (s : Workflow) : Prop where
  clean : Guarded host s.history → Clean host s.history
  task : s.a2aTaskId ≠ none → Unsuppressed host s

lemma Unsuppressed.clear {s : Workflow} (h : Unsuppressed host s) : Clear host s where
  clean hg := by
    refine List.pairwise_of_forall_mem_list fun e he e' _ hs => ?_
    rw [h hg e he] at hs
    exact absurd hs (by simp)
  task _ := h

lemma Unsuppressed.running {s s' : Workflow} (h : Unsuppressed host s) (hr : Running s s') :
    Unsuppressed host s' := by
  obtain ⟨l, hl⟩ := hr.history
  intro hg e he
  rw [hl] at hg he
  rcases List.mem_append.mp he with he | he
  · exact h (Causal.left hg) e he
  · obtain ⟨a, -, rfl⟩ := List.mem_map.mp he
    rfl

lemma Unsuppressed.finish {s : Workflow} (h : Unsuppressed host s) (o : CaseOutcome)
    (r : String) : Unsuppressed host (s.finish o r) := by
  intro hg e he
  rcases List.mem_append.mp he with he | he
  · exact h (Causal.left hg) e he
  · rw [List.mem_singleton.mp he]
    rfl

/-- Entries that are neither outreach nor suppressing change nothing. -/
lemma Clear.append {s s' : Workflow} {l : List Entry} (h : Clear host s)
    (hh : s'.history = s.history ++ l) (ht : s'.a2aTaskId = s.a2aTaskId)
    (ho : ∀ e ∈ l, e.outreach = false) (hs : ∀ e ∈ l, e.suppresses host = false) :
    Clear host s' where
  clean hg := by
    rw [hh] at hg ⊢
    refine List.pairwise_append.mpr ⟨h.clean (Causal.left hg), ?_, fun e _ e' he' _ => ho e' he'⟩
    exact List.pairwise_of_forall_mem_list fun e _ e' he' _ => ho e' he'
  task hne hg e he := by
    rw [ht] at hne
    rw [hh] at hg he
    rcases List.mem_append.mp he with he | he
    · exact h.task hne (Causal.left hg) e he
    · exact hs e he

lemma Clear.silent {s s' : Workflow} (h : Clear host s) (hq : Silent s s') :
    Clear host s' := by
  obtain ⟨l, hl, ho⟩ := hq.history
  refine h.append hl hq.a2aTaskId (fun e he => ?_) fun e he => ?_
  · obtain ⟨a, ha, rfl⟩ := List.mem_map.mp he
    exact ho a ha
  · obtain ⟨a, ha, rfl⟩ := List.mem_map.mp he
    rfl

lemma Clear.finish {s : Workflow} (h : Clear host s) (o : CaseOutcome) (r : String) :
    Clear host (s.finish o r) :=
  h.append (l := [.finished o r]) rfl rfl (by simp [Entry.outreach])
    (by simp [Entry.suppresses])

/-- Draining keeps a run clear: with an A2A task open, a suppressing signal is not guarded. -/
lemma Clear.take {s : Workflow} (h : Clear host s) (sig : QueuedSignal)
    (rest : List QueuedSignal) : Clear host (s.take sig rest) where
  clean hg := by
    refine List.pairwise_append.mpr ⟨h.clean (Causal.left hg), by simp, fun e _ e' he' _ => ?_⟩
    rw [List.mem_singleton.mp he']
    rfl
  task hne hg e he := by
    rcases List.mem_append.mp he with he | he
    · exact h.task hne (Causal.left hg) e he
    · rw [List.mem_singleton.mp he]
      cases hs : suppressing host sig with
      | false => exact hs
      | true =>
        have hd : (Entry.drained sig s.action s.a2aTaskId).guarded host s.history = true :=
          hg _ _ [] rfl
        simp only [Entry.guarded, hs, Bool.not_true, Bool.false_or, Bool.and_eq_true,
          Option.isNone_iff_eq_none] at hd
        exact absurd hd.1 hne

theorem clear_stable : Stable (Clear host) where
  quiet h hq := h.silent hq.toSilent
  take sig rest h := h.take sig rest
  finish o r h := h.finish o r
  approvalChecked t p o d h :=
    h.append (l := [.approvalChecked t p o d]) rfl rfl (by simp [Entry.outreach])
      (by simp [Entry.suppresses])

/-- While the decision's action is still to come: nothing was requested yet, and every signal was
drained with that action pending. -/
structure Waiting (pending : String) (s : Workflow) : Prop where
  action : s.action = some pending
  a2aTaskId : s.a2aTaskId = none
  quiet : ∀ e ∈ s.history, e.outreach = false
  drained : ∀ sig a task, Entry.drained sig a task ∈ s.history → a = some pending

lemma Waiting.append {pending : String} {s s' : Workflow} {l : List Entry}
    (h : Waiting pending s) (ha : s'.action = s.action) (ht : s'.a2aTaskId = s.a2aTaskId)
    (hh : s'.history = s.history ++ l) (ho : ∀ e ∈ l, e.outreach = false)
    (hd : ∀ sig a task, Entry.drained sig a task ∈ l → a = some pending) : Waiting pending s' where
  action := ha.trans h.action
  a2aTaskId := ht.trans h.a2aTaskId
  quiet e he := by
    rw [hh] at he
    rcases List.mem_append.mp he with he | he
    · exact h.quiet e he
    · exact ho e he
  drained sig a task he := by
    rw [hh] at he
    rcases List.mem_append.mp he with he | he
    · exact h.drained sig a task he
    · exact hd sig a task he

theorem waiting_stable (pending : String) : Stable (Waiting pending) where
  quiet h hq := by
    obtain ⟨l, hl, ho⟩ := hq.history
    refine h.append hq.action hq.a2aTaskId hl (fun e he => ?_) (by simp)
    obtain ⟨a, ha, rfl⟩ := List.mem_map.mp he
    exact ho a ha
  take {s} sig rest h :=
    h.append (l := [.drained sig s.action s.a2aTaskId]) rfl rfl rfl (by simp [Entry.outreach])
      (by simpa [h.action] using fun _ _ _ _ ha _ => ha)
  finish o r h :=
    h.append (l := [.finished o r]) rfl rfl rfl (by simp [Entry.outreach]) (by simp)
  approvalChecked t p o d h :=
    h.append (l := [.approvalChecked t p o d]) rfl rfl rfl (by simp [Entry.outreach]) (by simp)

lemma Waiting.clear {pending : String} {s : Workflow} (h : Waiting pending s) : Clear host s where
  clean _ := List.pairwise_of_forall_mem_list fun _ _ e' he' _ => h.quiet e' he'
  task hne := absurd h.a2aTaskId hne

/-- A guarded run that still has outreach to request has drained no suppressing signal. -/
lemma Waiting.unsuppressed {pending : String} {s : Workflow} (h : Waiting pending s)
    (hf : customerFacing pending = true) : Unsuppressed host s := by
  intro hg e he
  cases e with
  | drained sig a task =>
    cases hs : suppressing host sig with
    | false => exact hs
    | true =>
      obtain ⟨l, l', hl⟩ := List.append_of_mem he
      rw [hl] at hg
      have hd := Causal.split hg
      rw [h.drained sig a task he] at hd
      have hq : l.any Entry.outreach = false := by
        refine List.any_eq_false.mpr fun e hel => ?_
        simp [h.quiet e (hl ▸ List.mem_append_left _ hel)]
      simp [Entry.guarded, hs, hf, hq] at hd
  | requested a => rfl
  | approvalChecked t p o d => rfl
  | finished o r => rfl

/-! ## The run -/

/-- Code that settles among requests, from a run that drained no suppressing signal. -/
lemma Unsuppressed.meets {α : Type} {c : Wf α} {s : Workflow} (h : Unsuppressed host s)
    (hc : Leads Running (Settles Running) c) :
    (c s).Meets (Clear host) fun s' _ => Clear host s' := by
  refine (hc s).mono (fun t ht => (h.running ht).clear) fun t _ ht => ?_
  rcases ht with ht | ⟨u, o, r, hu, rfl⟩
  · exact (h.running ht).clear
  · exact ((h.running hu).finish o r).clear

lemma Clear.meets {α : Type} {c : Wf α} {s : Workflow} (h : Clear host s)
    (hc : Leads Silent (Settles Silent) c) :
    (c s).Meets (Clear host) fun s' _ => Clear host s' := by
  refine (hc s).mono (fun t ht => h.silent ht) fun t _ ht => ?_
  rcases ht with ht | ⟨u, o, r, hu, rfl⟩
  · exact h.silent ht
  · exact (h.silent hu).finish o r

/-- The poll requests outreach only with a task open, and then no suppressing signal was drained. -/
lemma pollA2aIfDue_clear {s : Workflow} (h : Clear host s) :
    (pollA2aIfDue s).Meets (Clear host) fun s' _ => Clear host s' := by
  cases ht : s.a2aTaskId with
  | none =>
    rw [pollA2aIfDue_none ht]
    exact h
  | some task => exact (h.task (by simp [ht])).meets pollA2aIfDue_settles

lemma beginAction_clear {policy : PolicyResult} {s : Workflow}
    (h : Waiting policy.action s) :
    (beginAction policy s).Meets (Clear host) fun s' _ => Clear host s' := by
  unfold beginAction
  split_ifs
  · exact h.clear.finish _ _
  · exact h.clear.silent ⟨rfl, rfl, [], by simp, by simp⟩
  · cases hf : customerFacing policy.action with
    | true => exact (h.unsuppressed hf).meets (executeAction_settles policy none)
    | false => exact h.clear.meets (executeAction_silent hf none)

/-- Silent steps from a fresh workflow leave a decision waiting. -/
lemma waiting_of_silent {now : Instant} {pending : String} {s : Workflow}
    (hs : Silent ({ now } : Workflow) s) (ha : s.action = some pending) : Waiting pending s := by
  obtain ⟨l, hl, ho⟩ := hs.history
  refine ⟨ha, hs.a2aTaskId, fun e he => ?_, fun sig a task he => ?_⟩
  · rw [hl, List.nil_append] at he
    obtain ⟨act, hact, rfl⟩ := List.mem_map.mp he
    exact ho act hact
  · rw [hl, List.nil_append] at he
    obtain ⟨act, -, hact⟩ := List.mem_map.mp he
    exact absurd hact (by simp)

lemma clear_fresh {now : Instant} {s : Workflow} (hs : Silent ({ now } : Workflow) s) :
    Clear host s := by
  have h : Clear host ({ now } : Workflow) :=
    ⟨fun _ => List.Pairwise.nil, fun h => absurd rfl h⟩
  exact h.silent hs

theorem run_clear (rounds : ℕ) (workflowId : String) (command : RecoveryWorkflowInput)
    (now : Instant) (arrivals : List QueuedSignal) :
    (run host rounds workflowId command (start now arrivals)).Meets (Clear host)
      fun s' _ => Clear host s' := by
  have h₀ : Silent ({ now } : Workflow) (start now arrivals) :=
    (Steady.resume _ now arrivals).toSilent
  refine Proc.Meets.bind (fun t policy ht => ?_)
    ((decidePolicy_silent host workflowId command _).mono
      (fun t ht => clear_fresh (trans_of Silent h₀ ht)) fun t _ ht => trans_of Silent h₀ ht)
  have hadopt : (adoptPolicy policy t).Meets (Clear host) fun s' _ =>
      Waiting policy.action s' :=
    (adoptPolicy_meets policy t).mono (fun u hu => clear_fresh (trans_of Silent ht hu))
      fun u _ hu => waiting_of_silent (trans_of Silent ht hu.1) hu.2
  refine Proc.Meets.bind (fun u _ hu => ?_) hadopt
  split_ifs
  · exact hu.clear.finish _ _
  · refine Proc.Meets.bind (fun v go hv => ?_)
      (((waiting_stable _).awaitPolicy host rounds policy hu).mono (fun _ hw => hw.clear)
        fun _ _ hw => hw)
    cases go with
    | true =>
      exact Proc.Meets.bind
        (fun w _ hw => clear_stable.awaitRecovery pollA2aIfDue_clear host rounds hw)
        (beginAction_clear hv)
    | false => exact hv.clear

end

/-- A run that drains suppressing signals only with no A2A task open and no outreach of its
decision still to come requests no outreach after any of them. -/
theorem no_outreach_after_suppression (host : Host) (rounds : ℕ) (workflowId : String)
    (command : RecoveryWorkflowInput) (now : Instant) (arrivals : List QueuedSignal)
    (env : ℕ → (r : Await) → r.Reply) (n : ℕ)
    (hg : Guarded host
      ((run host rounds workflowId command (start now arrivals)).follow env n).state.history) :
    Clean host
      ((run host rounds workflowId command (start now arrivals)).follow env n).state.history := by
  have hr : (run host rounds workflowId command (start now arrivals)).Meets (Clear host)
      fun s' _ => Clear host s' := run_clear rounds workflowId command now arrivals
  have hm := hr.follow n env
  exact (hm.state fun _ _ hc => hc).clean hg

/-- All goes well; the customer opts out during the `i`-th await. -/
def optedOutHistory (i : ℕ) (policy : PolicyResult) (sent : ℕ → List QueuedSignal) : List Entry :=
  ((run sampleHost 9 "recovery-case:case_1" sampleInput (start 0 [])).follow
    (wellEnv policy (fun k => 1000000 * k) fun k =>
      if k = i then [.optOut { signalId := "s1", source := "voice" }] else sent k) 12).state.history

def openSurface (disposition : String) (delayUntil : Option String) : PolicyResult :=
  { disposition, decisionCode := "DECIDED", action := "OPEN_CUSTOMER_PAYMENT_SURFACE",
    paymentSurfaceType := some "SUBSCRIPTION_INVOICE_LINK", delayUntil }

/-- An opt-out after the payment surface was opened. -/
theorem no_outreach_after_late_opt_out :
    Clean sampleHost (optedOutHistory 7 (openSurface "ALLOW" none) fun _ => []) :=
  no_outreach_after_suppression _ _ _ _ _ _ _ _ (by decide +kernel)

/-- An opt-out during the policy delay, during the approval wait, and while an A2A task is open:
in each run a later step reaches out to the customer. -/
theorem outreach_after_opt_out :
    ¬ Clean sampleHost (optedOutHistory 5 (openSurface "DELAY" (some "1970-01-01T00:00:05Z"))
        fun _ => []) ∧
    ¬ Clean sampleHost (optedOutHistory 5 (openSurface "REQUIRE_MANUAL_APPROVAL" none) fun k =>
        if k = 6 then [.approval { signalId := "s2", approved := true, reviewerId := "op" }]
        else []) ∧
    ¬ Clean sampleHost (optedOutHistory 5
        { disposition := "ALLOW", decisionCode := "DECIDED", action := "SEND_TO_CUSTOMER_AGENT",
          paymentSurfaceType := some "SUBSCRIPTION_INVOICE_LINK" } fun _ => []) := by
  unfold Clean
  refine ⟨?_, ?_, ?_⟩
  · decide +kernel
  · decide +kernel
  · decide +kernel

end RecoveryOS.Worker
