import RecoveryOS.Lib.History
import RecoveryOS.Worker.Mailbox

/-!
# Accounting for the signals

Whatever arrives and whenever it does, of the signals with one id the first one is queued and the
others are counted as duplicates. What was handled and what is queued still are these first signals,
in the order they arrived (`SignalsAccounted`). Once the case is terminal nothing else is handled.
-/

namespace RecoveryOS.Worker

open Resume

/-- `RecoveryWorkflowStatus`, with the deadline as the instant that its text stands for. -/
structure RecoveryWorkflowStatus where
  caseId : String
  phase : Phase
  terminal : Bool
  outcome : Option CaseOutcome
  diagnosis : Option String
  policyDisposition : Option String
  action : Option String
  actionStatus : Option String
  providerReference : Option String
  paymentState : String
  subscriptionState : String
  contactDisposition : ContactDisposition
  approvalRequired : Bool
  approvalReceived : Option Bool
  outreachSuppressed : Bool
  a2aState : Option String
  mandateReceived : Bool
  receivedSignalCount : ℕ
  duplicateSignalCount : ℕ
  recoveryDeadline : Option Instant

namespace Workflow

/-- `status`. -/
def status (s : Workflow) : RecoveryWorkflowStatus where
  caseId := s.caseId
  phase := s.phase
  terminal := s.terminal
  outcome := s.outcome
  diagnosis := s.diagnosis
  policyDisposition := s.policyDisposition
  action := s.action
  actionStatus := s.actionStatus
  providerReference := s.providerReference
  paymentState := s.paymentState
  subscriptionState := s.subscriptionState
  contactDisposition := s.contactDisposition
  approvalRequired := s.approvalRequired
  approvalReceived := s.approvalReceived
  outreachSuppressed := s.outreachSuppressed
  a2aState := s.a2aState
  mandateReceived := s.mandateReceived
  receivedSignalCount := s.seenSignalIds.length
  duplicateSignalCount := s.duplicateSignalCount
  recoveryDeadline := s.deadline

end Workflow

/-- A state that the signals `arrived` have reached: of those with one id the first one was queued,
in the order they arrived, and the counts are of the ids and of the other signals. -/
structure SignalsAccounted (arrived : List QueuedSignal) (s : Workflow) : Prop where
  order : handled s.history ++ s.signals = History.firsts QueuedSignal.signalId arrived
  once : ((handled s.history ++ s.signals).map QueuedSignal.signalId).Nodup
  seen : s.seenSignalIds = (handled s.history ++ s.signals).map QueuedSignal.signalId
  processed : s.processedSignalCount = (handled s.history).length
  received : s.status.receivedSignalCount = s.processedSignalCount + s.signals.length
  duplicates : s.status.duplicateSignalCount
    = arrived.length - (arrived.map QueuedSignal.signalId).dedup.length

/-- What the mailbox keeps as signals arrive and are handled. -/
structure Mail (arrived : List QueuedSignal) (s : Workflow) : Prop where
  queued : s.queued = History.firsts QueuedSignal.signalId arrived
  seen : s.seenSignalIds = s.queued.map QueuedSignal.signalId
  duplicates : s.duplicateSignalCount + s.queued.length = arrived.length
  processed : s.processedSignalCount = (handled s.history).length

section
variable {arrived : List QueuedSignal} {s s' : Workflow}

lemma Mail.accounted (h : Mail arrived s) : SignalsAccounted arrived s := by
  have hqueued : handled s.history ++ s.signals = History.firsts QueuedSignal.signalId arrived :=
    h.queued
  refine ⟨hqueued, ?_, h.seen, h.processed, ?_, ?_⟩
  · rw [hqueued]
    exact History.nodup_firsts arrived
  · have hlen := congrArg List.length h.seen
    rw [List.length_map, Workflow.queued, List.length_append] at hlen
    rw [h.processed]
    exact hlen
  · have hcount := h.duplicates
    rw [h.queued, History.length_firsts] at hcount
    show s.duplicateSignalCount = _
    omega

lemma Mail.orderly (h : Mail arrived s) (ho : Orderly s s') : Mail arrived s' := by
  refine ⟨ho.queued.trans h.queued, ?_, ?_, ?_⟩
  · rw [ho.seen, ho.queued, h.seen]
  · rw [ho.duplicates, ho.queued, h.duplicates]
  · have hcount := ho.processed
    rw [h.processed] at hcount
    omega

/-- A signal arrives: it is queued if its id is new, and counted as a duplicate else. -/
lemma Mail.enqueue (h : Mail arrived s) (sig : QueuedSignal) :
    Mail (arrived ++ [sig]) (s.enqueue sig) := by
  have hids : sig.signalId ∈ s.seenSignalIds ↔
      sig.signalId ∈ arrived.map QueuedSignal.signalId := by
    rw [h.seen, h.queued, History.mem_map_firsts]
  have hfirsts : History.firsts QueuedSignal.signalId (arrived ++ [sig]) = _ :=
    History.firsts_snoc sig arrived
  unfold Workflow.enqueue
  split_ifs with hseen
  · rw [if_pos (hids.mp hseen)] at hfirsts
    refine ⟨h.queued.trans hfirsts.symm, h.seen, ?_, h.processed⟩
    have hcount := h.duplicates
    rw [List.length_append, List.length_singleton, ← hcount]
    show s.duplicateSignalCount + 1 + s.queued.length = _
    omega
  · rw [if_neg fun hmem => hseen (hids.mpr hmem)] at hfirsts
    have hqueued : handled s.history ++ (s.signals ++ [sig]) = s.queued ++ [sig] := by
      rw [← List.append_assoc]
      rfl
    refine ⟨?_, ?_, ?_, h.processed⟩
    · rw [hfirsts, ← h.queued]
      exact hqueued
    · show s.seenSignalIds ++ [sig.signalId] = List.map _ (handled s.history ++ (s.signals ++ [sig]))
      rw [hqueued, List.map_append, h.seen]
      rfl
    · have hcount := h.duplicates
      show s.duplicateSignalCount + (handled s.history ++ (s.signals ++ [sig])).length = _
      rw [hqueued, List.length_append, List.length_append, List.length_singleton]
      omega

lemma Mail.resume (h : Mail arrived s) (now : Instant) (arrivals : List QueuedSignal) :
    Mail (arrived ++ arrivals) (s.resume now arrivals) := by
  have key : ∀ (l : List QueuedSignal) {arrived : List QueuedSignal} {t : Workflow},
      Mail arrived t → Mail (arrived ++ l) (l.foldl Workflow.enqueue t) := by
    intro l
    induction l with
    | nil =>
      intro arrived t ht
      rwa [List.append_nil]
    | cons sig l ih =>
      intro arrived t ht
      rw [← List.singleton_append, ← List.append_assoc]
      exact ih (ht.enqueue sig)
  exact key arrivals (t := { s with now }) ⟨h.queued, h.seen, h.duplicates, h.processed⟩

lemma mail_start (now : Instant) (arrivals : List QueuedSignal) :
    Mail arrivals (start now arrivals) := by
  have hnone : Mail [] ({ now } : Workflow) := ⟨rfl, rfl, rfl, rfl⟩
  exact hnone.resume now arrivals

end

/-- Once the case is terminal it stays so, and nothing else is handled. -/
def Shut (s s' : Workflow) : Prop :=
  s.terminal = true → s'.terminal = true ∧ handled s'.history = handled s.history

instance : Std.Refl Shut where
  refl _ h := ⟨h, rfl⟩

instance : IsTrans Workflow Shut where
  trans _ _ _ h h' ht := by
    obtain ⟨hterminal, hhandled⟩ := h ht
    exact ⟨(h' hterminal).1, (h' hterminal).2.trans hhandled⟩

lemma resume_shut (s : Workflow) (now : Instant) (arrivals : List QueuedSignal) :
    Shut s (s.resume now arrivals) := by
  obtain ⟨q, seen, d, he⟩ := resume_eq s now arrivals
  rw [he]
  exact fun ht => ⟨ht, rfl⟩

lemma Answered.shut {r : Await} {x : r.Reply} {s s' : Workflow} (h : Answered r x s s') :
    Shut s s' := by
  have horderly : Shut (s.resume (r.endedAt x) (r.arrivals x)) s' := fun ht =>
    ⟨h.orderly.terminal ht, h.orderly.closed ht⟩
  exact trans_of Shut (resume_shut s _ _) horderly

/-- The signals that were sent during the awaits of a run. -/
def sent (h : Log) : List QueuedSignal := h.flatMap fun e => e.1.arrivals e.2

/-- Whatever arrives and whenever it does, the signals are accounted for in every state of every run;
and once a case is terminal no other signal is handled. -/
theorem signals_accounted (host : Host) (rounds : ℕ) (workflowId : String)
    (command : RecoveryWorkflowInput) (now : Instant) (arrivals : List QueuedSignal)
    (env : ℕ → (r : Await) → r.Reply) (n : ℕ) :
    SignalsAccounted
      (arrivals ++ sent
        ((run host rounds workflowId command (start now arrivals)).exchanges env n))
      ((run host rounds workflowId command (start now arrivals)).follow env n).state ∧
    ∀ m ≥ n, ((run host rounds workflowId command (start now arrivals)).follow env n).state.terminal
        = true →
      handled ((run host rounds workflowId command (start now arrivals)).follow env m).state.history
        = handled
          ((run host rounds workflowId command (start now arrivals)).follow env n).state.history := by
  have hrun := (run_tended host rounds workflowId command).from (start now arrivals)
  constructor
  · have hbegin : Mail (arrivals ++ sent []) (run host rounds workflowId command
        (start now arrivals)).state := by
      rw [sent, List.flatMap_nil, List.append_nil]
      exact (mail_start now arrivals).orderly hrun.1
    refine (Proc.Moves.told (P := fun h s => Mail (arrivals ++ sent h) s) (h := [])
      (fun h r x s s' hs ha => ?_) n env hrun.2 hbegin).accounted
    have hnext := (hs.resume (r.endedAt x) (r.arrivals x)).orderly ha.orderly
    simpa only [sent, List.flatMap_append, List.flatMap_singleton, List.append_assoc] using hnext
  · intro m hm hterminal
    exact (hrun.2.later (R := Shut) (fun _ _ _ _ ha => ha.shut) hm hterminal).2

end RecoveryOS.Worker
