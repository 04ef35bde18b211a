import RecoveryOS.Worker.Aside
import RecoveryOS.Worker.Recovering
import RecoveryOS.Worker.Rounds

/-!
# Signals and the deadline

A case that expires should first have heard every signal that was queued when its deadline was
noticed (`Heard`). The three waits look at the deadline in three ways. The main loop drains, and then
checks. The approval wait drains and checks too, but it checks a case that a drained signal has just
finished as well. The delay checks without a drain when it is entered past the deadline. So `Heard`
holds in the runs in which neither happens (`expiry_hears`).
-/

namespace RecoveryOS.Worker

open Resume

/-- The case was finished because its deadline had passed. -/
def Expired (l : List Entry) : Prop := ∃ o r, Entry.finished o r ∈ l ∧ ¬ onTime o r

/-- The signal with this id was taken out of the queue and handled. -/
def Drained (l : List Entry) (signalId : String) : Prop :=
  ∃ sig action task, Entry.drained sig action task ∈ l ∧ sig.signalId = signalId

/-- Every signal that was queued was drained, but for those that were sent during the cancellation
by which the case expired. -/
def Heard (h : Log) (s : Workflow) : Prop :=
  ∃ old new, s.seenSignalIds = old ++ new ∧ (∀ id ∈ old, Drained s.history id) ∧
    (new = [] ∨ ∃ h₁ command x, h = h₁ ++ [⟨.activity (.cancelRecoveryAction command), x⟩] ∧
      command.reason = "RECOVERY_DEADLINE_EXPIRED" ∧
      ∀ id ∈ new, ∃ sig ∈ x.arrivals, sig.signalId = id)

/-- The approval wait finds the deadline past on a case that is finished already. -/
def Entry.checksFinished : Entry → Bool
  | .approvalChecked true true _ _ => true
  | _ => false

lemma checksFinished_of_overwrites {e : Entry} (he : e.overwrites = true) :
    e.checksFinished = true := by
  cases e with
  | approvalChecked terminal past outcome deadlineOutcome =>
    cases terminal <;> cases past <;> simp_all [Entry.overwrites, Entry.checksFinished]
  | _ => cases he

def Rechecked (l : List Entry) : Prop := ∃ e ∈ l, e.checksFinished = true

/-- What holds at every request. -/
def Told (h : Log) (s : Workflow) : Prop := Expired s.history → Heard h s ∨ Rechecked s.history

/-- What holds between the parts of the waits: a signal that was queued is queued still or was
drained. -/
structure Listening (h : Log) (s : Workflow) : Prop where
  held : ∀ id ∈ s.seenSignalIds, (∃ sig ∈ s.signals, sig.signalId = id) ∨ Drained s.history id
  unexpired : s.terminal = false → ¬ Expired s.history
  told : Told h s

section
variable {h h' : Log} {s s' : Workflow}

lemma Drained.append {l : List Entry} {id : String} (hd : Drained l id) (l' : List Entry) :
    Drained (l ++ l') id := by
  obtain ⟨sig, action, task, hm, hid⟩ := hd
  exact ⟨sig, action, task, List.mem_append_left l' hm, hid⟩

lemma Rechecked.append {l : List Entry} (hr : Rechecked l) (l' : List Entry) :
    Rechecked (l ++ l') := by
  obtain ⟨e, he, hc⟩ := hr
  exact ⟨e, List.mem_append_left l' he, hc⟩

/-- Entries that do not end the case for its deadline. -/
lemma not_expired_append {l l' : List Entry} (hl : ¬ Expired l)
    (hl' : ∀ o r, Entry.finished o r ∈ l' → onTime o r) : ¬ Expired (l ++ l') := by
  rintro ⟨o, r, hm, ho⟩
  rcases List.mem_append.mp hm with hm | hm
  · exact hl ⟨o, r, hm, ho⟩
  · exact ho (hl' o r hm)

lemma Plain.unexpired (hp : Plain anyActivity s s') (hn : ¬ Expired s.history) :
    ¬ Expired s'.history := by
  obtain ⟨l, hl, -⟩ := hp.history
  rw [hl]
  refine not_expired_append hn fun o r hm => ?_
  obtain ⟨a, -, ha⟩ := List.mem_map.mp hm
  cases ha

lemma Told.of_not (hn : ¬ Expired s.history) : Told h s := fun he => absurd he hn

/-- An entry that does not expire the case, on a state that has seen the same signals. -/
lemma Told.record (ht : Told h s) {e : Entry} (hseen : s'.seenSignalIds = s.seenSignalIds)
    (hh : s'.history = s.history ++ [e]) (he : ∀ o r, e = .finished o r → onTime o r) :
    Told h s' := by
  rintro ⟨o, r, hm, ho⟩
  rw [hh] at hm ⊢
  have hold : Expired s.history := by
    rcases List.mem_append.mp hm with hm | hm
    · exact ⟨o, r, hm, ho⟩
    · exact absurd (he o r (List.mem_singleton.mp hm).symm) ho
  rcases ht hold with ⟨old, new, hsplit, hdrained, hnew⟩ | hr
  · refine .inl ⟨old, new, hseen.trans hsplit, fun id hid => ?_, hnew⟩
    rw [hh]
    exact (hdrained id hid).append [e]
  · exact .inr (hr.append [e])

lemma Listening.record (hs : Listening h s) {e : Entry} (hqueue : s'.signals = s.signals)
    (hseen : s'.seenSignalIds = s.seenSignalIds) (hh : s'.history = s.history ++ [e])
    (hterm : s'.terminal = false → s.terminal = false)
    (he : ∀ o r, e = .finished o r → onTime o r) : Listening h s' := by
  refine ⟨fun id hid => ?_, fun ht => ?_, hs.told.record hseen hh he⟩
  · rw [hseen] at hid
    rw [hqueue, hh]
    exact (hs.held id hid).imp_right fun hd => hd.append [e]
  · rw [hh]
    refine not_expired_append (hs.unexpired (hterm ht)) fun o r hm => ?_
    exact he o r (List.mem_singleton.mp hm).symm

/-- A plain step, but for what it does to the log. -/
lemma Listening.plain_of (hs : Listening h s) (hp : Plain anyActivity s s') (ht : Told h' s') :
    Listening h' s' := by
  obtain ⟨l, hl, -⟩ := hp.history
  obtain ⟨new, hnew, hseen⟩ := hp.queue
  refine ⟨fun id hid => ?_, fun hopen => ?_, ht⟩
  · rw [hseen] at hid
    rw [hnew, hl]
    rcases List.mem_append.mp hid with hid | hid
    · rcases hs.held id hid with ⟨sig, hm, hsig⟩ | hd
      · exact .inl ⟨sig, List.mem_append_left new hm, hsig⟩
      · exact .inr (hd.append _)
    · obtain ⟨sig, hm, hsig⟩ := List.mem_map.mp hid
      exact .inl ⟨sig, List.mem_append_right _ hm, hsig⟩
  · exact hp.unexpired (hs.unexpired (hp.terminal ▸ hopen))

lemma Listening.plain (hs : Listening h s) (hopen : s.terminal = false)
    (hp : Plain anyActivity s s') : Listening h' s' :=
  hs.plain_of hp (.of_not (hp.unexpired (hs.unexpired hopen)))

lemma Listening.finish (hs : Listening h s) {o : CaseOutcome} {r : String} (ho : onTime o r) :
    Listening h (s.finish o r) := by
  refine hs.record (e := .finished o r) rfl rfl rfl (fun ht => ?_) fun o' r' he => ?_
  · exact absurd ht (by simp [Workflow.finish])
  · cases he
    exact ho

lemma Listening.tells {α : Type} {c : Wf α}
    (hc : Leads (Plain anyActivity) (SettlesIn onTime (Plain anyActivity)) c)
    (hs : Listening h s) (hopen : s.terminal = false) :
    (c s).Tells Told (fun h' s' _ => Listening h' s') h := by
  refine ((hc s).tells h).mono (fun h' t ht => ?_) fun h' t _ ht => ?_
  · have hplain : Listening h' t := hs.plain hopen ht.2
    exact hplain.told
  · rcases ht.2 with hp | ⟨u, o, r, hp, rfl, ho⟩
    · exact hs.plain hopen hp
    · exact (hs.plain hopen hp).finish ho

/-! ## The parts of the waits -/

lemma handleApproval_listening (sig : ApprovalSignal) (hs : Listening h s)
    (hopen : s.terminal = false) :
    (handleApproval sig s).Tells Told (fun h' s' _ => Listening h' s') h := by
  have haudit : ∀ e c d {t : Workflow}, Listening h t → t.terminal = false →
      (audit e c d t).Tells Told (fun h' s' _ => Listening h' s') h := fun e c d _ ht ho =>
    ht.tells (settlesIn_of_within (plain_of_aside (audit_aside any_of_incidental e c d))) ho
  simp only [handleApproval, Code.bind_apply, Code.read_apply, Proc.bind]
  split_ifs
  · exact haudit _ _ _ hs hopen
  · have hs' : Listening h { s with approvalReceived := some sig.approved } :=
      ⟨hs.held, hs.unexpired, hs.told⟩
    exact Code.modify_then_tells (haudit _ _ _ hs' hopen)

lemma drainOne_listening (host : Host) (hs : Listening h s) (hopen : s.terminal = false) :
    (drainOne host s).Tells Told (fun h' s' _ => Listening h' s') h := by
  simp only [drainOne, Code.bind_apply, Code.read_apply, Proc.bind]
  cases hsignals : s.signals with
  | nil => exact hs
  | cons sig rest =>
    have htake : Listening h (s.take sig rest) := by
      have hdrained : Drained (s.take sig rest).history sig.signalId :=
        ⟨sig, s.action, s.a2aTaskId, List.mem_append_right _ List.mem_cons_self, rfl⟩
      have hn : ¬ Expired (s.take sig rest).history :=
        not_expired_append (hs.unexpired hopen) fun o r hm =>
          absurd (List.mem_singleton.mp hm) (by simp)
      refine ⟨fun id hid => ?_, fun _ => hn, .of_not hn⟩
      rcases hs.held id hid with ⟨other, hm, hother⟩ | hd
      · rw [hsignals] at hm
        rcases List.mem_cons.mp hm with rfl | hm
        · exact .inr (hother ▸ hdrained)
        · exact .inl ⟨other, hm, hother⟩
      · exact .inr (hd.append _)
    refine Code.modify_then_tells ?_
    by_cases happroval : ∃ a, sig = .approval a
    · obtain ⟨a, rfl⟩ := happroval
      exact handleApproval_listening a htake hopen
    · exact htake.tells (plain_settlesIn (handle_aside any_of_incidental host sig
        (fun _ _ => rfl) fun a he => happroval ⟨a, he⟩)) hopen

/-- What an await adds to the queue was sent during it. -/
lemma mem_signals_resume {now : Instant} {arrivals : List QueuedSignal} {sig : QueuedSignal}
    (hm : sig ∈ (s.resume now arrivals).signals) : sig ∈ s.signals ∨ sig ∈ arrivals := by
  have hfold : ∀ (l : List QueuedSignal) (t : Workflow), sig ∈ (l.foldl Workflow.enqueue t).signals →
      sig ∈ t.signals ∨ sig ∈ l := by
    intro l
    induction l with
    | nil => exact fun t ht => .inl ht
    | cons a l ih =>
      intro t ht
      rcases ih _ ht with ht | ht
      · unfold Workflow.enqueue at ht
        split_ifs at ht
        · exact .inl ht
        · rcases List.mem_append.mp ht with ht | ht
          · exact .inl ht
          · exact .inr (List.mem_cons.mpr (.inl (List.mem_singleton.mp ht)))
      · exact .inr (List.mem_cons_of_mem a ht)
  exact hfold arrivals { s with now } hm

/-- Where a case is expired: it is open and its queue is empty, or the approval wait has come back to
a finished one. -/
def Due (h : Log) (s : Workflow) : Prop :=
  Listening h s ∧ (s.terminal = false ∧ s.signals = [] ∨ Rechecked s.history)

lemma Listening.drained (hs : Listening h s) (hempty : s.signals = []) :
    ∀ id ∈ s.seenSignalIds, Drained s.history id := by
  intro id hid
  rcases hs.held id hid with ⟨sig, hm, -⟩ | hd
  · rw [hempty] at hm
    cases hm
  · exact hd

/-- The end of a case whose deadline has passed. -/
lemma Listening.expired (hs : Listening h s) (hheard : Heard h s ∨ Rechecked s.history)
    (o : CaseOutcome) (r : String) : Listening h (s.finish o r) := by
  refine ⟨fun id hid => ?_, fun ht => absurd ht (by simp [Workflow.finish]), fun _ => ?_⟩
  · exact (hs.held id hid).imp_right fun hd => hd.append _
  · rcases hheard with ⟨old, new, hsplit, hdrained, hnew⟩ | hr
    · exact .inl ⟨old, new, hsplit, fun id hid => (hdrained id hid).append _, hnew⟩
    · exact .inr (hr.append _)

/-- While the active action of an open case with an empty queue is cancelled, signals may be sent. -/
lemma Listening.cancelled (hs : Listening h s) (hopen : s.terminal = false)
    (hempty : s.signals = []) {command : CancelActionInput}
    (hreason : command.reason = "RECOVERY_DEADLINE_EXPIRED")
    (x : Resumption (Option CancelActionResult)) :
    Listening (h ++ [⟨.activity (.cancelRecoveryAction command), x⟩])
      ((s.record (.requested (.cancelRecoveryAction command))).resume x.now x.arrivals) ∧
    Heard (h ++ [⟨.activity (.cancelRecoveryAction command), x⟩])
      ((s.record (.requested (.cancelRecoveryAction command))).resume x.now x.arrivals) := by
  set t := s.record (.requested (.cancelRecoveryAction command)) with ht
  have hp : Plain anyActivity s (t.resume x.now x.arrivals) :=
    (trans_of (Aside anyActivity) (.request s rfl) (.resume t x.now x.arrivals)).toPlain
  refine ⟨hs.plain hopen hp, ?_⟩
  obtain ⟨new, hnew, hseen⟩ := hp.queue
  obtain ⟨l, hl, -⟩ := hp.history
  refine ⟨s.seenSignalIds, new.map QueuedSignal.signalId, hseen, fun id hid => ?_,
    .inr ⟨h, command, x, rfl, hreason, fun id hid => ?_⟩⟩
  · rw [hl]
    exact (hs.drained hempty id hid).append _
  · obtain ⟨sig, hm, hsig⟩ := List.mem_map.mp hid
    rw [hempty, List.nil_append] at hnew
    rw [← hnew] at hm
    rcases mem_signals_resume hm with hm | hm
    · have hm' : sig ∈ s.signals := hm
      rw [hempty] at hm'
      cases hm'
    · exact ⟨sig, hm, hsig⟩

/-- Expiring a case that is open, with its queue empty. -/
lemma expire_open (hs : Listening h s) (hopen : s.terminal = false) (hempty : s.signals = []) :
    (expire s).Tells Told (fun h' s' _ => Listening h' s') h := by
  have hheard : Heard h s := ⟨s.seenSignalIds, [], by simp, hs.drained hempty, .inl rfl⟩
  simp only [expire, cancelActiveAction, Code.bind_apply, Code.read_apply, Proc.bind]
  split_ifs
  · exact hs.expired (.inl hheard) _ _
  · exact hs.expired (.inl hheard) _ _
  · have hrequest : ∀ command, Plain anyActivity s
        (s.record (.requested (.cancelRecoveryAction command))) := fun command =>
      (Aside.request s rfl).toPlain
    refine Proc.Tells.bind (fun h₁ u _ hu => ?_) (Proc.Tells.bind
      (Q := fun h' (u : Workflow) (_ : CancelActionResult) => Listening h' u ∧ Heard h' u)
      (R := fun h' u _ => Listening h' u ∧ Heard h' u) (fun h₁ u result hu => ?_)
      (activity_tells (.of_not ((hrequest _).unexpired (hs.unexpired hopen)))
        (fun x => (hs.cancelled hopen hempty rfl x).1.told)
        fun x _ _ => hs.cancelled hopen hempty rfl x))
    · exact hu.1.expired (.inl hu.2) _ _
    · dsimp only
      split_ifs
      · exact ⟨⟨hu.1.held, hu.1.unexpired, hu.1.told⟩, hu.2⟩
      · exact hu

lemma expire_listening (hd : Due h s) :
    (expire s).Tells Told (fun h' s' _ => Listening h' s') h := by
  obtain ⟨hs, ⟨hopen, hempty⟩ | hr⟩ := hd
  · exact expire_open hs hopen hempty
  · have hkeep : ∀ {s' : Workflow}, Plain anyActivity s s' → Rechecked s'.history := by
      intro s' hp
      obtain ⟨l, hl, -⟩ := hp.history
      rw [hl]
      exact hr.append _
    refine Proc.Tells.bind (fun h₁ u _ hu => ?_)
      (((cancelActiveAction_aside any_of_incidental _ s).tells h).mono
        (fun _ _ hq => fun _ => .inr (hkeep hq.2.toPlain)) fun _ _ _ hq => hq.2.toPlain)
    exact (hs.plain_of hu fun _ => .inr (hkeep hu)).expired (.inr (hkeep hu)) _ _

theorem listening_enduring (host : Host) : Enduring host Told Listening Due where
  node hs := hs.told
  wait timeout hs hopen := hs.tells (settlesIn_of_within
    (plain_of_aside (waitCondition_aside timeout))) hopen
  drainOne hs hopen := drainOne_listening host hs hopen
  expire hd := expire_listening hd
  due hs hopen hempty := ⟨hs, .inl ⟨hopen, hempty⟩⟩
  checked {h s} hs hempty := by
    have hs' : Listening h (s.record
        (.approvalChecked s.terminal s.pastDeadline s.outcome s.deadlineOutcome)) :=
      hs.record rfl rfl rfl id fun o r he => by cases he
    refine ⟨hs', fun hpast => ⟨hs', ?_⟩⟩
    by_cases hopen : s.terminal = false
    · refine .inl ⟨hopen, hempty.resolve_right ?_⟩
      simp [hopen]
    · refine .inr ⟨_, List.mem_append_right _ List.mem_cons_self, ?_⟩
      have hterm : s.terminal = true := by simpa using hopen
      simp only [hterm, hpast, Entry.checksFinished]

end

/-! ## The run -/

/-- `run` from its waits on. -/
def enactPolicy (host : Host) (rounds : ℕ) (policy : PolicyResult) : Wf RecoveryWorkflowResult := do
  if policy.disposition = "BLOCK" then do
    finish .stopped "BLOCKED_BY_POLICY"
    return (← Code.read).result
  else if (← awaitPolicy host rounds policy) then do
    beginAction policy
    awaitRecovery host rounds
  else
    return (← Code.read).result

lemma run_eq (host : Host) (rounds : ℕ) (workflowId : String) (command : RecoveryWorkflowInput)
    (s : Workflow) : run host rounds workflowId command s =
      (reachDecision host workflowId command s).bind fun t policy => enactPolicy host rounds policy t := by
  simp only [reachDecision, Code.bind_apply, Proc.bind_assoc]
  rfl

section
variable {h : Log} {s : Workflow}

/-- A case before its waits: what was sent is queued, and nothing was drained. -/
structure Unheard (s : Workflow) : Prop where
  held : ∀ id ∈ s.seenSignalIds, ∃ sig ∈ s.signals, sig.signalId = id
  terminal : s.terminal = false
  unexpired : ¬ Expired s.history

lemma Unheard.aside {s' : Workflow} (hs : Unheard s) (hq : Aside anyActivity s s') : Unheard s' := by
  obtain ⟨new, hnew, hseen⟩ := hq.queue
  refine ⟨fun id hid => ?_, hq.terminal.trans hs.terminal, hq.unexpired hs.unexpired⟩
  rw [hseen] at hid
  rw [hnew]
  rcases List.mem_append.mp hid with hid | hid
  · obtain ⟨sig, hm, hsig⟩ := hs.held id hid
    exact ⟨sig, List.mem_append_left new hm, hsig⟩
  · obtain ⟨sig, hm, hsig⟩ := List.mem_map.mp hid
    exact ⟨sig, List.mem_append_right _ hm, hsig⟩

lemma Unheard.listening (hs : Unheard s) : Listening h s :=
  ⟨fun id hid => .inl (hs.held id hid), fun _ => hs.unexpired, .of_not hs.unexpired⟩

lemma reachDecision_unheard (host : Host) (workflowId : String) (command : RecoveryWorkflowInput)
    (hs : Unheard s) :
    (reachDecision host workflowId command s).Meets Unheard fun s' _ => Unheard s' := by
  have hpre : Preliminary command Unheard Unheard :=
    ⟨fun ht => ⟨ht.held, ht.terminal, ht.unexpired⟩,
      fun _ ht => ⟨ht.held, ht.terminal, ht.unexpired⟩,
      fun ht hq => ht.aside (hq.mono fun _ _ => rfl)⟩
  refine Proc.Meets.bind (fun t policy ht => ?_) ((hpre.decidePolicy host workflowId hs).mono
    (fun _ h => h.elim id id) fun _ _ h => h)
  have hadopted : Unheard { t with
      policyDisposition := some policy.disposition, action := some policy.action } :=
    ⟨ht.held, ht.terminal, ht.unexpired⟩
  exact Proc.Meets.bind (fun u _ hu => hu) ((adoptPolicy_aside any_of_incidental policy t).mono
    (fun _ hq => hadopted.aside hq) fun _ _ hq => hadopted.aside hq)

/-- The waits and what follows them, unless the delay is entered past the deadline with signals in
the queue. -/
lemma enactPolicy_told (host : Host) (rounds : ℕ) (policy : PolicyResult) (hs : Unheard s)
    (hdelay : policy.Delays host → s.pastDeadline = true → s.signals = []) :
    (enactPolicy host rounds policy s).Tells Told (fun h' s' _ => Told h' s') h := by
  have hI := listening_enduring host
  have hl : Listening h s := hs.listening
  unfold enactPolicy
  split_ifs
  · exact (hl.finish (by simp [onTime])).told
  · refine Proc.Tells.bind (fun h₁ t go ht => ?_) (hI.awaitPolicy rounds policy hl
      (fun _ => ⟨hl.held, hl.unexpired, hl.told⟩) ⟨hl.held, hl.unexpired, hl.told⟩
      (fun hd hpast hopen => ⟨⟨hl.held, hl.unexpired, hl.told⟩, .inl ⟨hopen, hdelay hd hpast⟩⟩)
      fun hr => hr.finish (by simp [onTime]))
    cases go with
    | false => exact ht.1.told
    | true =>
      refine Proc.Tells.bind (fun h₂ u _ hu => ?_) (ht.1.tells (plain_settlesIn
        (beginAction_aside any_of_incidental (fun _ _ => rfl) policy)) (ht.2 hs.terminal rfl))
      exact (hI.awaitRecovery (fun _ hv => ⟨hv.held, hv.unexpired, hv.told⟩)
        (fun hv hopen => hv.tells pollA2aIfDue_plain hopen) rounds hu).mono (fun _ _ hv => hv)
          fun _ _ _ hv => hv.told

end

lemma start_unheard (now : Instant) (arrivals : List QueuedSignal) :
    Unheard (start now arrivals) := by
  have h₀ : Unheard ({ now } : Workflow) := by
    refine ⟨fun id hid => ?_, rfl, ?_⟩
    · cases hid
    · rintro ⟨o, r, hm, -⟩
      cases hm
  exact h₀.aside (.resume _ now arrivals)

/-- The delay is never entered past the deadline with signals in the queue; a decision to delay
without a time to wait for enters none. -/
def DelaysInTime (host : Host) (workflowId : String) (command : RecoveryWorkflowInput)
    (s : Workflow) (env : ℕ → (r : Await) → r.Reply) : Prop :=
  ∀ m t policy, (reachDecision host workflowId command s).follow env m = .done t policy →
    policy.Delays host → t.pastDeadline = true → t.signals = []

theorem run_told (host : Host) (rounds : ℕ) (workflowId : String)
    (command : RecoveryWorkflowInput) (now : Instant) (arrivals : List QueuedSignal)
    (env : ℕ → (r : Await) → r.Reply)
    (hdelay : DelaysInTime host workflowId command (start now arrivals) env) (n : ℕ) :
    Told ((run host rounds workflowId command (start now arrivals)).exchanges env n)
      ((run host rounds workflowId command (start now arrivals)).follow env n).state := by
  have hreach := reachDecision_unheard host workflowId command (start_unheard now arrivals)
  rw [run_eq]
  rcases Proc.follow_bind n env (reachDecision host workflowId command (start now arrivals)) with
    ⟨hf, -, hd⟩ | ⟨m, -, t, policy, hd, hf, he⟩
  · rw [hf, Proc.bind_state hd]
    exact .of_not ((hreach.follow n env).state fun _ _ h => h).unexpired
  · have ht : Unheard t := by
      have hm := hreach.follow m env
      rwa [hd] at hm
    rw [hf, he]
    exact ((enactPolicy_told host rounds policy ht (hdelay m t policy hd)).follow _ _).state
      fun _ _ _ h => h

/-- In a run whose approval wait never finds the deadline past on a finished case, and whose delay is
not entered past the deadline with signals in the queue, a case that expires has heard every signal
that was queued before; and a case for which a payment was found is returned as recovered. -/
theorem expiry_hears (host : Host) (rounds : ℕ) (workflowId : String)
    (command : RecoveryWorkflowInput) (now : Instant) (arrivals : List QueuedSignal)
    (env : ℕ → (r : Await) → r.Reply) (n : ℕ)
    (hchecks : ∀ e ∈ ((run host rounds workflowId command (start now arrivals)).follow env
      n).state.history, e.checksFinished = false)
    (hdelay : DelaysInTime host workflowId command (start now arrivals) env) :
    (Expired ((run host rounds workflowId command (start now arrivals)).follow env n).state.history →
      Heard ((run host rounds workflowId command (start now arrivals)).exchanges env n)
        ((run host rounds workflowId command (start now arrivals)).follow env n).state) ∧
    ∀ i < n, ∀ t r k, (run host rounds workflowId command (start now arrivals)).follow env i =
        .await t r k → Decides r (env i r) →
      ∀ s a, (run host rounds workflowId command (start now arrivals)).follow env n = .done s a →
        a.outcome = .recovered := by
  refine ⟨fun hexp => ?_, fun i hi t r k hk hT s a hn => ?_⟩
  · refine (run_told host rounds workflowId command now arrivals env hdelay n hexp).resolve_right ?_
    rintro ⟨e, he, hc⟩
    rw [hchecks e he] at hc
    cases hc
  · have hw := run_watch host rounds workflowId command (start_underway command now arrivals)
    rw [hn] at hchecks
    generalize run host rounds workflowId command (start now arrivals) = p at hn hw hk
    obtain ⟨m, rfl⟩ := Nat.exists_eq_add_of_lt hi
    rw [Nat.add_right_comm, Proc.follow_reply hk] at hn
    obtain ⟨hclosed, rfl⟩ := (hw.ends i env hk hT).done m _ hn
    rcases hclosed.outcome with ho | ⟨e, he, hov⟩
    · simp [Workflow.result, ho]
    · have hc : e.checksFinished = true := checksFinished_of_overwrites hov
      rw [hchecks e he] at hc
      cases hc

/-- A case of which the workflow is started ten seconds after its deadline, with this decision. -/
def lateEnv (policy : PolicyResult) : ℕ → (r : Await) → r.Reply :=
  wellEnv policy (fun _ => 20000000) fun _ => []

def waitPolicy : PolicyResult :=
  { disposition := "ALLOW", decisionCode := "ALLOWED", action := "WAIT_FOR_GATEWAY_RETRY",
    paymentSurfaceType := none }

def delayPolicy : PolicyResult :=
  { disposition := "DELAY", decisionCode := "QUIET_HOURS", action := "WAIT_FOR_GATEWAY_RETRY",
    paymentSurfaceType := none, delayUntil := some "1970-01-01T00:00:05Z" }

def optOutSignal : QueuedSignal := .optOut { signalId := "s1", source := "sms" }

/-- An opt-out that is waiting when the workflow is started late is handled, and then the case
expires. -/
theorem late_opt_out_heard :
    Heard ((run sampleHost 9 "recovery-case:case_1" sampleInput
        (start 20000000 [optOutSignal])).exchanges (lateEnv waitPolicy) 9)
      ((run sampleHost 9 "recovery-case:case_1" sampleInput
        (start 20000000 [optOutSignal])).follow (lateEnv waitPolicy) 9).state := by
  refine (expiry_hears sampleHost 9 "recovery-case:case_1" sampleInput 20000000 [optOutSignal]
    (lateEnv waitPolicy) 9 (by decide +kernel) fun m t policy hm hd => ?_).1
      ⟨.stopped, "DEADLINE_EXPIRED", List.mem_of_getElem? (i := 9) rfl, by simp [onTime]⟩
  have hreached : ∃ u, (reachDecision sampleHost "recovery-case:case_1" sampleInput
      (start 20000000 [optOutSignal])).follow (lateEnv waitPolicy) 5 = .done u waitPolicy := ⟨_, rfl⟩
  rcases Nat.lt_or_ge m 5 with hlt | hge
  · interval_cases m <;> cases hm
  · obtain ⟨u, hu⟩ := hreached
    obtain ⟨j, rfl⟩ := Nat.exists_eq_add_of_le hge
    rw [Proc.follow_add, hu, show (Proc.done u waitPolicy).follow _ j = .done u waitPolicy by
      cases j <;> rfl] at hm
    cases hm
    exact absurd hd.1 (by decide)

/-- No signal is drained. -/
def Entry.undrained : Entry → Bool
  | .drained _ _ _ => false
  | _ => true

/-- The request to cancel an action. -/
def Await.cancels : Await → Bool
  | .activity (.cancelRecoveryAction _) => true
  | _ => false

/-- A payment that is waiting when the workflow is started late is never looked at if the decision is
to delay. -/
theorem late_delay_unheard :
    Expired ((run sampleHost 9 "recovery-case:case_1" sampleInput
        (start 20000000 [capturedSignal])).follow (lateEnv delayPolicy) 5).state.history ∧
    ¬ Heard ((run sampleHost 9 "recovery-case:case_1" sampleInput
        (start 20000000 [capturedSignal])).exchanges (lateEnv delayPolicy) 5)
      ((run sampleHost 9 "recovery-case:case_1" sampleInput
        (start 20000000 [capturedSignal])).follow (lateEnv delayPolicy) 5).state := by
  refine ⟨⟨.expired, "DEADLINE_EXPIRED", List.mem_of_getElem? (i := 5) rfl, by simp [onTime]⟩, ?_⟩
  rintro ⟨old, new, hsplit, hdrained, rfl | ⟨h₁, command, x, hh, -, -⟩⟩
  · have hone : old = ["s1"] := (List.append_nil old).symm.trans hsplit.symm
    obtain ⟨sig, action, task, hm, -⟩ := hdrained "s1" (by simp [hone])
    have hnone : (((run sampleHost 9 "recovery-case:case_1" sampleInput
        (start 20000000 [capturedSignal])).follow (lateEnv delayPolicy) 5).state.history.all
          Entry.undrained) = true := rfl
    exact absurd (List.all_eq_true.mp hnone _ hm) (by simp [Entry.undrained])
  · have hlast : (((run sampleHost 9 "recovery-case:case_1" sampleInput
        (start 20000000 [capturedSignal])).exchanges (lateEnv delayPolicy) 5).getLast?.map fun
          e => e.1.cancels) = some false := rfl
    rw [hh] at hlast
    simp [Await.cancels] at hlast

end RecoveryOS.Worker
