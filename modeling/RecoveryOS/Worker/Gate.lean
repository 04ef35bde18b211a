import RecoveryOS.Lib.History
import RecoveryOS.Worker.Aside

/-!
# The approval gate

A run whose decision asks for a manual approval executes nothing until an approval is drained in the
approval wait. The first one that is drained is the one that is recorded (`Decided`); the handler
looks at no other afterwards. So an execution is requested only once the first approval has said yes
and while the case is not finished (`approval_gates`).
-/

namespace RecoveryOS.Worker

open Resume History

def Entry.approval : Entry → Option ApprovalSignal
  | .drained (.approval sig) _ _ => some sig
  | _ => none

/-- The first approval that a run drained. -/
def firstApproval (h : List Entry) : Option ApprovalSignal := h.findSome? Entry.approval

/-- The first approval of a history was recorded when it was drained, and it said `approved`. -/
def Decided (approved : Bool) (h : List Entry) : Prop :=
  ∃ l sig action task audit l',
    h = l ++ .drained (.approval sig) action task :: .requested (.recordAuditEvent audit) :: l' ∧
    (∀ e ∈ l, e.approval = none) ∧ audit.eventType = "APPROVAL_RECORDED" ∧
    audit.correlationId = sig.signalId ∧ sig.approved = approved

/-- No `_finish` yet. -/
def Unfinished (h : List Entry) : Prop := ∀ o r, Entry.finished o r ∉ h

/-- An execution comes after an approval, and not after the end. -/
def Entry.permitted (l : List Entry) : Entry → Prop
  | .requested a => a.executes = true → Decided true l ∧ Unfinished l
  | _ => True

/-- What holds from the beginning of the approval wait on. -/
structure Gate (s : Workflow) : Prop where
  required : s.approvalRequired = true
  awaited : s.approvalReceived = none → ∀ e ∈ s.history, e.approval = none
  decided : ∀ b, s.approvalReceived = some b → Decided b s.history
  unfinished : s.terminal = false → Unfinished s.history
  permitted : Causal (fun l e => e.permitted l) s.history

lemma Decided.append {b : Bool} {h : List Entry} (hd : Decided b h) (l : List Entry) :
    Decided b (h ++ l) := by
  obtain ⟨l₁, sig, action, task, audit, l₂, rfl, hrest⟩ := hd
  exact ⟨l₁, sig, action, task, audit, l₂ ++ l, by simp, hrest⟩

lemma Decided.firstApproval {b : Bool} {h : List Entry} (hd : Decided b h) :
    ∃ sig, firstApproval h = some sig ∧ sig.approved = b := by
  obtain ⟨l, sig, action, task, audit, l', rfl, hnone, -, -, hb⟩ := hd
  refine ⟨sig, ?_, hb⟩
  have hl : l.findSome? Entry.approval = none := List.findSome?_eq_none_iff.mpr hnone
  rw [Worker.firstApproval, List.findSome?_append, hl]
  rfl

/-- The activities that execute nothing. -/
def idleActivity (a : Activity) : Bool := !a.executes

section
variable {s s' : Workflow}

/-- Requests that are permitted, and nothing else. -/
lemma Gate.requests (h : Gate s) {ok : Activity → Bool} (hp : Plain ok s s')
    (hpermitted : ∀ a, ok a = true → a.executes = true → Decided true s.history ∧
      Unfinished s.history) : Gate s' := by
  obtain ⟨l, hl, hok⟩ := hp.history
  have hnew : ∀ e ∈ l.map Entry.requested, e.approval = none ∧ ∀ o r, e ≠ .finished o r := by
    intro e he
    obtain ⟨a, -, rfl⟩ := List.mem_map.mp he
    exact ⟨rfl, by simp⟩
  refine ⟨hp.approvalRequired.trans h.required, fun hn e he => ?_, fun b hb => ?_,
    fun ht o r he => ?_, ?_⟩
  · rw [hl] at he
    rcases List.mem_append.mp he with he | he
    · exact h.awaited (hp.approvalReceived ▸ hn) e he
    · exact (hnew e he).1
  · rw [hl]
    exact (h.decided b (hp.approvalReceived ▸ hb)).append _
  · rw [hl] at he
    rcases List.mem_append.mp he with he | he
    · exact h.unfinished (hp.terminal ▸ ht) o r he
    · exact (hnew _ he).2 o r rfl
  · rw [hl]
    refine h.permitted.append fun e he l' hl' => ?_
    obtain ⟨a, ha, rfl⟩ := List.mem_map.mp he
    intro hexec
    obtain ⟨hd, hu⟩ := hpermitted a (hok a ha) hexec
    refine ⟨hd.append l', fun o r hm => ?_⟩
    rcases List.mem_append.mp hm with hm | hm
    · exact hu o r hm
    · exact (hnew _ (hl'.subset hm)).2 o r rfl

lemma Gate.idle (h : Gate s) (hp : Plain idleActivity s s') : Gate s' :=
  h.requests hp fun a ha hexec => by simp [idleActivity, hexec] at ha

/-- An entry that is neither an approval nor a request. -/
lemma Gate.record (h : Gate s) {e : Entry} (hh : s'.history = s.history ++ [e])
    (hr : s'.approvalRequired = s.approvalRequired) (ha : s'.approvalReceived = s.approvalReceived)
    (ht : s'.terminal = false → s.terminal = false ∧ ∀ o r, e ≠ .finished o r)
    (happroval : e.approval = none) (hpermitted : ∀ l, e.permitted l) : Gate s' := by
  refine ⟨hr.trans h.required, fun hn x hx => ?_, fun b hb => ?_, fun hterm o r hx => ?_, ?_⟩
  · rw [hh] at hx
    rcases List.mem_append.mp hx with hx | hx
    · exact h.awaited (ha ▸ hn) x hx
    · rw [List.mem_singleton.mp hx]
      exact happroval
  · rw [hh]
    exact (h.decided b (ha ▸ hb)).append _
  · obtain ⟨hterm, hne⟩ := ht hterm
    rw [hh] at hx
    rcases List.mem_append.mp hx with hx | hx
    · exact h.unfinished hterm o r hx
    · exact hne o r (List.mem_singleton.mp hx).symm
  · rw [hh, causal_snoc]
    exact ⟨h.permitted, hpermitted _⟩

lemma Gate.finish (h : Gate s) (o : CaseOutcome) (r : String) : Gate (s.finish o r) :=
  h.record (e := .finished o r) rfl rfl rfl (fun ht => absurd ht (by simp [Workflow.finish])) rfl
    fun _ => trivial

lemma Gate.settles (h : Gate s) : Settles (Plain idleActivity) s s' → Gate s'
  | .inl hp => h.idle hp
  | .inr ⟨_, o, r, hp, he⟩ => he ▸ (h.idle hp).finish o r

lemma idle_of_incidental : ∀ a : Activity, a.incidental = true → idleActivity a = true := by
  intro a ha
  cases a <;> first | rfl | exact absurd ha (by simp [Activity.incidental])

lemma idle_of_assesses : ∀ a : Activity, a.assesses = true → idleActivity a = true := by
  intro a ha
  cases a <;> first | rfl | exact absurd ha (by simp [Activity.assesses])

/-- The handler of an approval records it if none was recorded before, and else ignores it. -/
lemma handleApproval_gate (sig : ApprovalSignal) (rest : List QueuedSignal) (h : Gate s) :
    (handleApproval sig (s.take (.approval sig) rest)).Meets Gate fun s' _ => Gate s' := by
  set t := s.take (.approval sig) rest with ht
  simp only [handleApproval, Code.bind_apply, Code.read_apply, Proc.bind]
  split_ifs with hignore
  · -- it is not the first
    obtain ⟨b, hb⟩ : ∃ b, s.approvalReceived = some b := by
      rcases hignore with hf | hne
      · exact absurd (hf.symm.trans h.required) (by simp)
      · exact Option.ne_none_iff_exists'.mp hne
    have hg : Gate t := by
      refine ⟨h.required, fun hn => ?_, fun b' hb' => ?_, fun hterm o r hx => ?_, ?_⟩
      · exact absurd (hb.symm.trans hn) (by simp)
      · exact (h.decided b' hb').append _
      · rcases List.mem_append.mp hx with hx | hx
        · exact h.unfinished hterm o r hx
        · exact absurd (List.mem_singleton.mp hx) (by simp)
      · exact causal_snoc.mpr ⟨h.permitted, trivial⟩
    exact (audit_aside idle_of_incidental _ _ _ t).mono (fun _ hq => hg.idle hq.toPlain)
      fun _ _ hq => hg.idle hq.toPlain
  · have hnone : s.approvalReceived = none := by
      by_contra hne
      exact hignore (.inr hne)
    set a : AuditInput :=
      { caseId := t.caseId, eventType := "APPROVAL_RECORDED", correlationId := sig.signalId,
        details := [("approved", .bool sig.approved), ("reviewer_id", .str sig.reviewerId),
          ("reason", .ofOption sig.reason)] } with ha
    set u : Workflow := Workflow.record { t with approvalReceived := some sig.approved }
      (.requested (.recordAuditEvent a)) with hu
    have hhistory : u.history = s.history ++ [.drained (.approval sig) s.action s.a2aTaskId,
        .requested (.recordAuditEvent a)] := by
      simp [hu, ht, Workflow.record, Workflow.take]
    have hg : Gate u := by
      refine ⟨h.required, fun hn => absurd hn (by simp [hu, Workflow.record]), fun b hb => ?_,
        fun hterm o r hx => ?_, ?_⟩
      · obtain rfl : sig.approved = b := Option.some.inj hb
        exact ⟨s.history, sig, s.action, s.a2aTaskId, a, [], hhistory, h.awaited hnone, rfl, rfl, rfl⟩
      · rw [hhistory] at hx
        rcases List.mem_append.mp hx with hx | hx
        · exact h.unfinished hterm o r hx
        · simp at hx
      · rw [hhistory]
        refine h.permitted.append fun e he l' _ => ?_
        rcases List.mem_pair.mp he with rfl | rfl
        · trivial
        · exact fun hexec => absurd hexec (by simp [Activity.executes])
    exact Code.modify_then ((audit_requested _ _ _ _).mono (fun _ hq => hg.idle hq.toPlain)
      fun _ _ hq => hg.idle hq.toPlain)

lemma drainOne_gate (host : Host) (h : Gate s) :
    (drainOne host s).Meets Gate fun s' _ => Gate s' := by
  simp only [drainOne, Code.bind_apply, Code.read_apply, Proc.bind]
  cases s.signals with
  | nil => exact h
  | cons sig rest =>
    by_cases happroval : ∃ a, sig = .approval a
    · obtain ⟨a, rfl⟩ := happroval
      exact Code.modify_then (handleApproval_gate a rest h)
    · have hother : ∀ a, sig ≠ .approval a := fun a he => happroval ⟨a, he⟩
      have ht : Gate (s.take sig rest) := by
        refine h.record (e := .drained sig s.action s.a2aTaskId) rfl rfl rfl
          (fun hterm => ⟨hterm, by simp⟩) ?_ fun _ => trivial
        cases sig <;> first | rfl | exact absurd rfl (hother _)
      exact Code.modify_then ((plain_settles (settles_of_in
        (handle_aside idle_of_incidental host sig (fun _ _ => rfl) hother)) _).mono
          (fun _ hq => ht.idle hq) fun _ _ hs => ht.settles hs)

/-- From the beginning of the wait on, whatever the waits bring. -/
theorem gate_durable (host : Host) : Durable host Gate where
  wait timeout h := (waitCondition_aside timeout _).mono (fun _ hq => h.idle hq.toPlain)
    fun _ _ hq => h.idle hq.toPlain
  drainOne h _ := drainOne_gate host h
  expire h := (plain_settles (expire_aside idle_of_incidental) _).mono (fun _ hq => h.idle hq)
    fun _ _ hs => h.settles hs
  approvalChecked t p o d h :=
    h.record (e := .approvalChecked t p o d) rfl rfl rfl (fun hterm => ⟨hterm, by simp⟩) rfl
      fun _ => trivial

/-! ## The run -/

/-- Before the wait: only activities were requested, and none that executes. -/
structure Prelude (s : Workflow) : Prop where
  approvalReceived : s.approvalReceived = none
  terminal : s.terminal = false
  history : ∀ e ∈ s.history, ∃ a : Activity, e = .requested a ∧ a.executes = false

lemma Prelude.aside (h : Prelude s) (hp : Aside idleActivity s s') : Prelude s' := by
  obtain ⟨l, hl, hok⟩ := hp.history
  refine ⟨hp.approvalReceived.trans h.approvalReceived, hp.terminal.trans h.terminal, ?_⟩
  intro e he
  rw [hl] at he
  rcases List.mem_append.mp he with he | he
  · exact h.history e he
  · obtain ⟨a, ha, rfl⟩ := List.mem_map.mp he
    exact ⟨a, rfl, by simpa [idleActivity] using hok a ha⟩

lemma Prelude.gate (h : Prelude s) :
    Gate { s with approvalRequired := true, phase := .awaitingApproval } where
  required := rfl
  awaited _ e he := by
    obtain ⟨a, rfl, -⟩ := h.history e he
    rfl
  decided b hb := by
    have hn : s.approvalReceived = some b := hb
    rw [h.approvalReceived] at hn
    cases hn
  unfinished _ o r he := by
    obtain ⟨a, ha, -⟩ := h.history _ he
    cases ha
  permitted l e l' he := by
    obtain ⟨a, rfl, ha⟩ := h.history e (by
      have : s.history = l ++ e :: l' := he
      rw [this]
      exact List.mem_append_right l List.mem_cons_self)
    intro hexec
    rw [ha] at hexec
    cases hexec

def manualApproval : String := "REQUIRE_MANUAL_APPROVAL"

/-- What a run that asks for a manual approval satisfies at every point. -/
structure Gated (s : Workflow) : Prop where
  decided : ∀ b, s.approvalReceived = some b → Decided b s.history
  permitted : Causal (fun l e => e.permitted l) s.history

def GatedIfManual (s : Workflow) : Prop :=
  s.policyDisposition = some manualApproval → Gated s

lemma Prelude.gated (h : Prelude s) : Gated s := ⟨h.gate.decided, h.gate.permitted⟩

lemma Gate.gated (h : Gate s) : GatedIfManual s := fun _ => ⟨h.decided, h.permitted⟩

lemma gated_of_decision {d : String} (hd : d ≠ manualApproval)
    (h : s.policyDisposition = some d) : GatedIfManual s :=
  fun hm => absurd (Option.some.inj (h.symm.trans hm)) hd

/-- A case that was approved. -/
def Approved (s : Workflow) : Prop := Gate s ∧ Decided true s.history

lemma decided_stable : Stable fun s => Decided true s.history where
  quiet h hq := by
    obtain ⟨l, hl, -⟩ := hq.history
    rw [hl]
    exact h.append _
  take _ _ h := h.append _
  finish _ _ h := h.append _
  approvalChecked _ _ _ _ h := h.append _

theorem approved_durable (host : Host) : Durable host Approved :=
  (gate_durable host).and (decided_stable.durable host)

lemma Approved.plain (h : Approved s) (ht : s.terminal = false) (hp : Plain anyActivity s s') :
    Approved s' := by
  refine ⟨h.1.requests hp fun _ _ _ => ⟨h.2, h.1.unfinished ht⟩, ?_⟩
  obtain ⟨l, hl, -⟩ := hp.history
  rw [hl]
  exact h.2.append _

lemma Approved.settles (h : Approved s) (ht : s.terminal = false) :
    Settles (Plain anyActivity) s s' → Approved s'
  | .inl hp => h.plain ht hp
  | .inr ⟨_, o, r, hp, he⟩ => by
    have hp' := h.plain ht hp
    rw [he]
    exact ⟨hp'.1.finish o r, hp'.2.append _⟩

lemma Approved.meets {α : Type} {c : Wf α} (h : Approved s) (ht : s.terminal = false)
    (hc : Leads (Plain anyActivity) (Settles (Plain anyActivity)) c) :
    (c s).Meets Approved fun s' _ => Approved s' :=
  (hc s).mono (fun _ hq => h.plain ht hq) fun _ _ hq => h.settles ht hq

/-- The main loop and the phase before it, for a property that the poll keeps. -/
lemma awaitRecovery_meets_of {host : Host} {I : Workflow → Prop} (hI : Durable host I)
    (hphase : ∀ {s s'}, I s → Aside idleActivity s s' → I s')
    (hpoll : ∀ {t}, I t → t.terminal = false → (pollA2aIfDue t).Meets I fun s' _ => I s')
    (rounds : ℕ) (h : I s) : (awaitRecovery host rounds s).Meets I fun s' _ => I s' := by
  simp only [awaitRecovery, Code.bind_apply, Code.read_apply, Proc.bind]
  split_ifs
  · exact h
  · refine Code.modify_then (Proc.Meets.bind (fun u _ hu => hu)
      (hI.mainLoop hpoll rounds (hphase h ?_)))
    split_ifs
    · exact refl_of (Aside idleActivity) _
    · exact .of_eq rfl rfl rfl rfl rfl rfl rfl rfl rfl rfl
    · exact .of_eq rfl rfl rfl rfl rfl rfl rfl rfl rfl rfl

/-- A run whose decision asks for no approval. -/
lemma decision_meets {d : Option String} (host : Host) (rounds : ℕ) (policy : PolicyResult)
    (hd : policy.disposition ≠ manualApproval) (h : s.policyDisposition = d) :
    ((do
      if (← awaitPolicy host rounds policy) then do
        beginAction policy
        awaitRecovery host rounds
      else
        return (← Code.read).result : Wf RecoveryWorkflowResult) s).Meets
      (fun t => t.policyDisposition = d) fun t _ => t.policyDisposition = d := by
  have hdurable := decision_durable host d
  refine Proc.Meets.bind (fun t go ht => ?_)
    (p := awaitPolicy host rounds policy s) (Q := fun t _ => t.policyDisposition = d) ?_
  · cases go with
    | false => exact ht
    | true =>
      refine Proc.Meets.bind (fun u _ hu => ?_) ((plain_settles (settles_of_in
        (beginAction_aside any_of_incidental (fun _ _ => rfl) policy)) t).mono
        (fun _ hq => hq.policyDisposition.trans ht) fun _ _ hq => hq.sameDecision.trans ht)
      refine awaitRecovery_meets_of hdurable (fun h hq => hq.policyDisposition.trans h)
        (fun {v} hv _ => ?_) rounds hu
      exact (settles_of_in pollA2aIfDue_plain v).mono (fun _ hq => hq.policyDisposition.trans hv)
        fun _ _ hq => hq.sameDecision.trans hv
  · unfold awaitPolicy
    split_ifs with hdelay hmanual
    · cases policy.delayUntil.bind host.parseInstant with
      | none => exact h
      | some target =>
        exact Code.modify_then (Proc.Meets.bind (fun t _ ht => ht)
          (hdurable.waitUntil target rounds h))
    · exact absurd hmanual hd
    · exact h

/-- A run from the beginning of its approval wait. -/
lemma manual_meets (host : Host) (rounds : ℕ) (policy : PolicyResult)
    (hmanual : policy.disposition = manualApproval) (h : Prelude s) :
    ((do
      if (← awaitPolicy host rounds policy) then do
        beginAction policy
        awaitRecovery host rounds
      else
        return (← Code.read).result : Wf RecoveryWorkflowResult) s).Meets Gate fun t _ => Gate t := by
  refine Proc.Meets.bind (fun t go ht => ?_) (p := awaitPolicy host rounds policy s)
    (Q := fun t go => Gate t ∧ (go = true → Decided true t.history ∧ t.terminal = false)) ?_
  · cases go with
    | false => exact ht.1
    | true =>
      obtain ⟨hgate, hgo⟩ := ht
      obtain ⟨happroved, hterm⟩ := hgo rfl
      refine Proc.Meets.mono (I := Approved) (Q := fun u _ => Approved u) (fun _ hq => hq.1)
        (fun _ _ hq => hq.1) (Proc.Meets.bind (fun u _ hu => ?_)
          (Approved.meets ⟨hgate, happroved⟩ hterm
            (plain_settles (settles_of_in
              (beginAction_aside any_of_incidental (fun _ _ => rfl) policy)))))
      refine awaitRecovery_meets_of (approved_durable host) (fun {s s'} ha hq => ?_)
        (fun ha ht => ha.meets ht (settles_of_in pollA2aIfDue_plain)) rounds hu
      obtain ⟨l, hl, -⟩ := hq.history
      exact ⟨ha.1.idle hq.toPlain, hl ▸ ha.2.append _⟩
  · have hnot : ¬ (policy.disposition = "DELAY" ∧ policy.delayUntil.isSome = true) := by
      rintro ⟨hd, -⟩
      rw [hmanual] at hd
      exact absurd hd (by decide)
    have happroval : policy.disposition = "REQUIRE_MANUAL_APPROVAL" := hmanual
    unfold awaitPolicy
    rw [if_neg hnot, if_pos happroval]
    refine Code.modify_then (Proc.Meets.bind (fun t _ ht => ?_)
      ((gate_durable host).waitForApprovalOrTerminal rounds h.gate))
    simp only [Code.bind_apply, Code.read_apply, Proc.bind]
    split_ifs with hterm hreceived
    · exact ⟨ht, fun hgo => absurd hgo (by simp)⟩
    · exact ⟨ht.finish _ _, fun hgo => absurd hgo (by simp)⟩
    · have hsome : t.approvalReceived = some true := by simpa using hreceived
      exact ⟨ht, fun _ => ⟨ht.decided true hsome, by simpa using hterm⟩⟩

theorem run_gated (host : Host) (rounds : ℕ) (workflowId : String)
    (command : RecoveryWorkflowInput) (h : Prelude s) (hnone : s.policyDisposition = none) :
    (run host rounds workflowId command s).Meets GatedIfManual fun s' _ => GatedIfManual s' := by
  have hpre : Preliminary command (fun t => Prelude t ∧ t.policyDisposition = none)
      fun t => Prelude t ∧ t.policyDisposition = none := by
    refine ⟨fun ht => ⟨⟨ht.1.approvalReceived, ht.1.terminal, ht.1.history⟩, ht.2⟩,
      fun _ ht => ⟨⟨ht.1.approvalReceived, ht.1.terminal, ht.1.history⟩, ht.2⟩, fun ht hq => ?_⟩
    exact ⟨ht.1.aside (hq.mono idle_of_assesses), hq.policyDisposition.trans ht.2⟩
  refine Proc.Meets.bind (fun t policy ht => ?_)
    ((hpre.decidePolicy host workflowId ⟨h, hnone⟩).mono (fun u hu hm => ?_) fun _ _ hu => hu)
  · have hadopted : Prelude { t with
        policyDisposition := some policy.disposition, action := some policy.action } :=
      ⟨ht.1.approvalReceived, ht.1.terminal, ht.1.history⟩
    have hadopt : (adoptPolicy policy t).Meets GatedIfManual fun u _ => Prelude u ∧
        u.policyDisposition = some policy.disposition := by
      refine Proc.Meets.mono (fun u hq => ?_) (fun u _ hq => ?_)
        (adoptPolicy_aside idle_of_incidental policy t)
      · exact fun _ => (hadopted.aside hq).gated
      · exact ⟨hadopted.aside hq, hq.policyDisposition⟩
    refine Proc.Meets.bind (fun u _ hu => ?_) hadopt
    split_ifs with hblock
    · exact gated_of_decision (d := policy.disposition) (by rw [hblock]; decide) hu.2
    · by_cases hmanual : policy.disposition = manualApproval
      · exact (manual_meets host rounds policy hmanual hu.1).mono (fun _ hg => hg.gated)
          fun _ _ hg => hg.gated
      · exact (decision_meets host rounds policy hmanual hu.2).mono
          (fun _ hg => gated_of_decision hmanual hg) fun _ _ hg => gated_of_decision hmanual hg
  · exact absurd ((hu.elim And.right And.right).symm.trans hm) (by simp)

end

lemma start_prelude (now : Instant) (arrivals : List QueuedSignal) :
    Prelude (start now arrivals) ∧ (start now arrivals).policyDisposition = none := by
  have h₀ : Prelude ({ now } : Workflow) := ⟨rfl, rfl, by simp⟩
  have hq : Aside idleActivity ({ now } : Workflow) (start now arrivals) := .resume _ now arrivals
  exact ⟨h₀.aside hq, hq.policyDisposition⟩

/-- In a run whose decision asks for a manual approval, the first approval that is drained is the one
that counts, and an execution is requested only after it said yes and before the case is finished. -/
theorem approval_gates (host : Host) (rounds : ℕ) (workflowId : String)
    (command : RecoveryWorkflowInput) (now : Instant) (arrivals : List QueuedSignal)
    (env : ℕ → (r : Await) → r.Reply) (n : ℕ)
    (hmanual : ((run host rounds workflowId command (start now arrivals)).follow env
      n).state.policyDisposition = some "REQUIRE_MANUAL_APPROVAL") :
    (∀ l a l', ((run host rounds workflowId command (start now arrivals)).follow env
        n).state.history = l ++ .requested a :: l' → a.executes = true →
      Decided true l ∧ Unfinished l) ∧
    (∀ b, ((run host rounds workflowId command (start now arrivals)).follow env
      n).state.approvalReceived = some b → Decided b
        ((run host rounds workflowId command (start now arrivals)).follow env n).state.history) ∧
    (((∃ sig, firstApproval ((run host rounds workflowId command (start now arrivals)).follow env
        n).state.history = some sig ∧ sig.approved = false) ∨
      ∃ l o r l', ((run host rounds workflowId command (start now arrivals)).follow env
        n).state.history = l ++ .finished o r :: l' ∧ firstApproval l = none) →
      ∀ a, Entry.requested a ∈ ((run host rounds workflowId command (start now arrivals)).follow env
        n).state.history → a.executes = false) := by
  obtain ⟨hpre, hnone⟩ := start_prelude now arrivals
  have hm := (run_gated host rounds workflowId command hpre hnone).follow n env
  have hg := hm.state (fun _ _ h => h) hmanual
  generalize ((run host rounds workflowId command (start now arrivals)).follow env n).state = s at hg
  refine ⟨fun l a l' he => hg.permitted l (.requested a) l' he, hg.decided, fun hrefused a ha => ?_⟩
  obtain ⟨l, l', hl⟩ := List.append_of_mem ha
  by_contra hexec
  obtain ⟨hd, hu⟩ := hg.permitted l (.requested a) l' hl (by simpa using hexec)
  obtain ⟨sig, hsig, happroved⟩ := hd.firstApproval
  rcases hrefused with ⟨sig', hsig', hrejected⟩ | ⟨k, o, r, k', hk, hkn⟩
  · rw [hl, firstApproval, List.findSome?_append, ← firstApproval, hsig] at hsig'
    obtain rfl : sig = sig' := Option.some.inj hsig'
    rw [happroved] at hrejected
    cases hrejected
  · -- the end comes after the execution, so the approval came before the end
    rcases List.append_eq_append_iff.mp (hl.symm.trans hk) with ⟨m, rfl, -⟩ | ⟨m, rfl, hm⟩
    · rw [firstApproval, List.findSome?_append, ← firstApproval, hsig] at hkn
      cases hkn
    · cases m with
      | nil => simp at hm
      | cons e m =>
        obtain ⟨rfl, -⟩ := List.cons.inj hm
        exact hu o r (List.mem_append_right k List.mem_cons_self)

/-- The approval arrives during the `i`-th await, and the contrary one during the next. -/
def approvalAt (approved : Bool) (i : ℕ) : ℕ → (r : Await) → r.Reply :=
  wellEnv
    { disposition := "REQUIRE_MANUAL_APPROVAL", decisionCode := "HIGH_VALUE",
      action := "OPEN_CUSTOMER_PAYMENT_SURFACE",
      paymentSurfaceType := some "SUBSCRIPTION_INVOICE_LINK" }
    (fun k => 1000 * k) fun k =>
      if k = i then [.approval { signalId := "s1", approved, reviewerId := "op" },
        .approval { signalId := "s2", approved := !approved, reviewerId := "op" }]
      else []

theorem approval_gates_sample :
    (∃ a, Entry.requested a ∈ ((run sampleHost 9 "recovery-case:case_1" sampleInput
        (start 0 [])).follow (approvalAt true 5) 9).state.history ∧ a.executes = true) ∧
    ∀ a, Entry.requested a ∈ ((run sampleHost 9 "recovery-case:case_1" sampleInput
        (start 0 [])).follow (approvalAt false 5) 9).state.history → a.executes = false := by
  refine ⟨⟨_, List.mem_of_getElem? (i := 10) rfl, rfl⟩, ?_⟩
  exact (approval_gates sampleHost 9 "recovery-case:case_1" sampleInput 0 [] (approvalAt false 5) 9
    rfl).2.2 (.inl ⟨_, rfl, rfl⟩)

end RecoveryOS.Worker
