import RecoveryOS.Webhook.Application
import RecoveryOS.Webhook.Dispatcher

/-!
# From the outbox to the workflow

The pollers with the dispatcher behind them and the server of the workflows: a run interleaves the
transactions of any number of pollers with failures of the calls to the server, with executions that
end, and with the signals of others.

The event of a published message was applied by a step of the run, which was committed, and has been
told to the workflow of its case, unless the effects of that step say that there is nothing to tell
(`published_told`). This needs no care about leases: a poller that lost its lease has told the event
itself before it publishes. What a workflow is started with comes from such a step as well, and the
action that it names is a row that the step has committed (`started_soundly`).
-/

namespace RecoveryOS.Webhook

open Store Table Worker

/-! ## The system -/

/-- A call whose signal is answered. -/
def Call.answering (call : Call) (ok : Bool) : Call := { call with downstreamSignal := fun _ => ok }

structure System where
  pollers : Pollers
  temporal : Temporal := fun _ => []

inductive Move where
  /-- A step of the pollers, and what its call of the dispatcher meets if it makes one. -/
  | poll (poll : Poll) (link : Link)
  /-- The latest execution of a workflow comes to its end. -/
  | ends (workflowId : String)
  /-- Another component sends a signal. -/
  | other (workflowId : String) (sig : QueuedSignal)

section
variable (platform : Platform)

/-- The signal that a poller sends when it takes a message up that needs no authorization. -/
def takenSignal (call : Call) (outbox : OutboxMessage) (db : Database) :
    Option RazorpayDownstreamSignal :=
  match outbox.payload with
  | none => none
  | some payload =>
    match applyMessage platform call payload db with
    | .error _ => none
    | .ok ((_, effects, recoveryCase), applied) =>
      match authorize platform call payload effects recoveryCase applied with
      | .ok (none, _) => some (signalOf outbox payload effects (recoveryCase.map (·.id)))
      | _ => none

/-- The signal that a step sends. -/
def sends (s : Pollers) : Poll → Option RazorpayDownstreamSignal
  | .take poller call =>
    match s.hands poller, nextMessage call s.db with
    | none, some outbox => takenSignal platform call outbox s.db
    | _, _ => none
  | .signal poller =>
    match s.hands poller with
    | some (.leased _ outbox payload _ effects caseId) =>
      some (signalOf outbox payload effects caseId)
    | _ => none
  | _ => none

/-- The step with the answer to its signal. -/
def answered (s : Pollers) (ok : Bool) : Poll → Pollers
  | .take poller call => s.step platform (.take poller (call.answering ok))
  | .signal poller =>
    match s.hands poller with
    | some (.leased call outbox payload inbox effects caseId) =>
      (s.hold poller (.leased (call.answering ok) outbox payload inbox effects caseId)).step platform
        (.signal poller)
    | _ => s
  | poll => s.step platform poll

namespace System

variable (s : System)

def step : Move → System
  | .poll poll link =>
    match sends platform s.pollers poll with
    | none => { s with pollers := s.pollers.step platform poll }
    | some signal =>
      let told := tell link signal s.temporal
      { pollers := answered platform s.pollers told.1.isOk poll
        temporal := told.2 }
  | .ends workflowId => { s with temporal := closeWorkflow workflowId s.temporal }
  | .other workflowId sig =>
    { s with temporal := (signalWorkflow .answered workflowId sig s.temporal).2 }

/-- The system after the first `k` steps of a run. -/
def after (moves : List Move) (k : ℕ) : System :=
  (moves.take k).foldl (fun s m => s.step platform m) s

end System

end

/-! ## What the server keeps -/

/-- An execution goes on: its mailbox grows. -/
structure Execution.Grows (run run' : Execution) : Prop where
  input : run'.input = run.input
  mailbox : ∀ sig ∈ run.mailbox, sig ∈ run'.mailbox

/-- Nothing that the server has accepted is lost, and what is started is new. -/
structure Temporal.Grows (new : String → RecoveryWorkflowInput → Prop) (t t' : Temporal) :
    Prop where
  kept : ∀ id, ∀ run ∈ t id, ∃ run' ∈ t' id, run.Grows run'
  started : ∀ id, ∀ run' ∈ t' id, (∃ run ∈ t id, run'.input = run.input) ∨ new id run'.input

section
variable {t t' t'' : Temporal} {workflowId : String} {input : RecoveryWorkflowInput}
  {sig : QueuedSignal} {fate : Fate} {new : String → RecoveryWorkflowInput → Prop}
  {runs runs' : List Execution}

lemma Execution.Grows.refl (run : Execution) : run.Grows run := ⟨rfl, fun _ h => h⟩

lemma Temporal.Grows.refl (t : Temporal) : t.Grows new t :=
  ⟨fun _ run h => ⟨run, h, .refl run⟩, fun _ run h => .inl ⟨run, h, rfl⟩⟩

lemma Temporal.Grows.trans (h : t.Grows new t') (h' : t'.Grows new t'') : t.Grows new t'' := by
  refine ⟨fun id run hrun => ?_, fun id run hrun => ?_⟩
  · obtain ⟨run', hrun', hg⟩ := h.kept id run hrun
    obtain ⟨run'', hrun'', hg'⟩ := h'.kept id run' hrun'
    exact ⟨run'', hrun'', hg'.input.trans hg.input,
      fun sig hs => hg'.mailbox sig (hg.mailbox sig hs)⟩
  · rcases h'.started id run hrun with ⟨run', hrun', hinput⟩ | hnew
    · rw [hinput]
      exact h.started id run' hrun'
    · exact .inr hnew

/-- The server grows if the executions of one workflow do. -/
lemma grows_update (hk : ∀ run ∈ t workflowId, ∃ run' ∈ runs, run.Grows run')
    (hs : ∀ run' ∈ runs, (∃ run ∈ t workflowId, run'.input = run.input) ∨
      new workflowId run'.input) : t.Grows new (Function.update t workflowId runs) := by
  refine ⟨fun id run hrun => ?_, fun id run hrun => ?_⟩ <;> by_cases hid : id = workflowId
  · subst hid
    rw [Function.update_self]
    exact hk run hrun
  · rw [Function.update_of_ne hid]
    exact ⟨run, hrun, .refl run⟩
  · subst hid
    rw [Function.update_self] at hrun
    exact hs run hrun
  · rw [Function.update_of_ne hid] at hrun
    exact .inl ⟨run, hrun, rfl⟩

lemma startWorkflow_grows (hnew : new workflowId input) :
    t.Grows new (startWorkflow fate workflowId input t).2 := by
  unfold startWorkflow
  split_ifs
  · exact .refl t
  · exact .refl t
  · refine grows_update (fun run hrun => ⟨run, List.mem_cons_of_mem _ hrun, .refl run⟩) ?_
    intro run hrun
    rcases List.mem_cons.mp hrun with rfl | hrun
    · exact .inr hnew
    · exact .inl ⟨run, hrun, rfl⟩

lemma Fate.reply_eq_ok {α : Type} {a b : α} (h : fate.reply a = .ok b) : a = b := by
  unfold Fate.reply at h
  split_ifs at h
  exact Except.ok.inj h

/-- A workflow that was started is there. -/
lemma startWorkflow_started (fate : Fate) (workflowId : String) (input : RecoveryWorkflowInput)
    (t : Temporal) (h : (startWorkflow fate workflowId input t).1 = .ok true) :
    ∃ run ∈ (startWorkflow fate workflowId input t).2 workflowId, run.input = input := by
  unfold startWorkflow at h ⊢
  split_ifs with hfate hrunning
  · rw [if_pos hfate] at h
    cases h
  · rw [if_neg hfate, if_pos hrunning] at h
    cases Fate.reply_eq_ok h
  · simp only [Function.update_self]
    exact ⟨_, List.mem_cons_self, rfl⟩

lemma post_eq_some (h : post sig runs = some runs') : ∃ run rest, runs = run :: rest ∧
    runs' = { run with mailbox := run.mailbox ++ [sig] } :: rest := by
  cases runs with
  | nil => cases h
  | cons run rest =>
    simp only [post] at h
    split_ifs at h
    exact ⟨run, rest, rfl, (Option.some.inj h).symm⟩

/-- A signal is in the mailbox, or the server is as it was. -/
lemma signalWorkflow_cases (fate : Fate) (workflowId : String) (sig : QueuedSignal) (t : Temporal) :
    (signalWorkflow fate workflowId sig t = (.error .rpc, t)) ∨
      ∃ run rest, t workflowId = run :: rest ∧
        signalWorkflow fate workflowId sig t = (fate.reply (), Function.update t workflowId
          ({ run with mailbox := run.mailbox ++ [sig] } :: rest)) := by
  unfold signalWorkflow
  by_cases hfate : fate = .unreached
  · rw [if_pos hfate]
    exact .inl rfl
  · rw [if_neg hfate]
    cases hpost : post sig (t workflowId) with
    | none => exact .inl rfl
    | some runs =>
      obtain ⟨run, rest, hruns, rfl⟩ := post_eq_some hpost
      exact .inr ⟨run, rest, hruns, rfl⟩

lemma signalWorkflow_grows : t.Grows new (signalWorkflow fate workflowId sig t).2 := by
  rcases signalWorkflow_cases fate workflowId sig t with h | ⟨run, rest, hruns, h⟩
  · rw [h]
    exact .refl t
  · rw [h]
    refine grows_update (fun x hx => ?_) fun x hx => ?_
    · rw [hruns] at hx
      rcases List.mem_cons.mp hx with rfl | hx
      · exact ⟨_, List.mem_cons_self, rfl, fun y hy => List.mem_append_left _ hy⟩
      · exact ⟨x, List.mem_cons_of_mem _ hx, .refl x⟩
    · rw [hruns]
      rcases List.mem_cons.mp hx with rfl | hx
      · exact .inl ⟨run, List.mem_cons_self, rfl⟩
      · exact .inl ⟨x, List.mem_cons_of_mem _ hx, rfl⟩

/-- A signal that was delivered is there. -/
lemma signalWorkflow_delivered (h : (signalWorkflow fate workflowId sig t).1 = .ok ()) :
    ∃ run ∈ (signalWorkflow fate workflowId sig t).2 workflowId, sig ∈ run.mailbox := by
  rcases signalWorkflow_cases fate workflowId sig t with h' | ⟨run, rest, -, h'⟩
  · rw [h'] at h
    cases h
  · simp only [h', Function.update_self]
    exact ⟨_, List.mem_cons_self, List.mem_append_right _ List.mem_cons_self⟩

lemma closeWorkflow_grows : t.Grows new (closeWorkflow workflowId t) := by
  unfold closeWorkflow
  cases hruns : t workflowId with
  | nil =>
    refine grows_update (fun run hrun => ?_) fun run hrun => by cases hrun
    rw [hruns] at hrun
    cases hrun
  | cons first rest =>
    rw [List.modifyHead_cons]
    refine grows_update (fun run hrun => ?_) fun run hrun => ?_
    · rw [hruns] at hrun
      rcases List.mem_cons.mp hrun with rfl | hrun
      · exact ⟨_, List.mem_cons_self, rfl, fun _ h => h⟩
      · exact ⟨run, List.mem_cons_of_mem _ hrun, .refl run⟩
    · rw [hruns]
      rcases List.mem_cons.mp hrun with rfl | hrun
      · exact .inl ⟨first, List.mem_cons_self, rfl⟩
      · exact .inl ⟨run, List.mem_cons_of_mem _ hrun, rfl⟩

end

/-! ## What the dispatcher does -/

/-- The workflow of the case was started with the signal's event, or has the signal in its
mailbox. -/
def Heard (signal : RazorpayDownstreamSignal) (caseId : String) (t : Temporal) : Prop :=
  ∃ run ∈ t (recoveryWorkflowId caseId),
    (signal.eventType = "payment.failed" ∧ run.input.caseId = caseId ∧
      run.input.failureEvent.eventId = signal.providerEventId) ∨
    .paymentEvent (paymentSignal signal) ∈ run.mailbox

/-- What a workflow is started with by a signal. A workflow that no failure starts may only
reconcile. -/
structure StartedBy (signal : RazorpayDownstreamSignal) (workflowId : String)
    (input : RecoveryWorkflowInput) : Prop where
  workflowId : workflowId = recoveryWorkflowId input.caseId
  caseId : signal.caseId = some input.caseId
  merchantId : input.merchantId = signal.merchantId
  event : input.failureEvent.eventId = signal.providerEventId ∧
    input.failureEvent.eventType = signal.eventType
  authorized : signal.eventType = "payment.failed" → input.recoveryActionId.isSome = true
  named : ∀ id, input.recoveryActionId = some id →
    ∃ name ∈ actionNames, Json.get signal.effects name = .str id
  reconciles : signal.eventType ≠ "payment.failed" →
    input.candidateAction = RecoveryActionType.waitForGatewayRetry.value ∧
      input.paymentSurfaceType = none

section
variable {t : Temporal} {link : Link} {signal : RazorpayDownstreamSignal} {caseId : String}
  {session : Database} {c : RecoveryCase} {input : RecoveryWorkflowInput}

lemma Heard.grows {new : String → RecoveryWorkflowInput → Prop} {t' : Temporal}
    (h : Heard signal caseId t) (hg : t.Grows new t') : Heard signal caseId t' := by
  obtain ⟨run, hrun, hheard⟩ := h
  obtain ⟨run', hrun', hgrows⟩ := hg.kept _ run hrun
  refine ⟨run', hrun', ?_⟩
  rcases hheard with hstart | hmail
  · rw [hgrows.input]
    exact .inl hstart
  · exact .inr (hgrows.mailbox _ hmail)

lemma knownCase_eq_ok (h : knownCase session signal caseId = .ok c) :
    c.id = caseId ∧ c.merchantId = signal.merchantId := by
  unfold knownCase at h
  split at h
  · cases h
  · next found hfound =>
    split_ifs at h with hmerchant
    obtain rfl := Except.ok.inj h
    exact ⟨by simpa using List.find?_some hfound, not_not.mp hmerchant⟩

lemma effectText_eq_ok {name message : String} {a : Option String}
    (h : effectText signal name message = .ok a) :
    ∃ id, a = some id ∧ Json.get signal.effects name = .str id := by
  unfold effectText at h
  split at h
  · next id hget => exact ⟨id, (Except.ok.inj h).symm, hget⟩
  · cases h

/-- A failure starts a workflow with an action. -/
lemma actionId_isSome {a : Option String} (h : actionId signal = .ok a)
    (hfailed : signal.eventType = "payment.failed") : a.isSome = true := by
  unfold actionId at h
  rw [if_pos hfailed] at h
  obtain ⟨id, rfl, -⟩ := effectText_eq_ok h
  rfl

/-- The action that a workflow is started with is one that the effects name. -/
lemma actionId_named {id : String} (h : actionId signal = .ok (some id)) :
    ∃ name ∈ actionNames, Json.get signal.effects name = .str id := by
  unfold actionId at h
  split_ifs at h
  · obtain ⟨id', heq, hget⟩ := effectText_eq_ok h
    obtain rfl := Option.some.inj heq
    exact ⟨_, List.mem_cons_self, hget⟩
  · obtain ⟨id', heq, hget⟩ := effectText_eq_ok h
    obtain rfl := Option.some.inj heq
    exact ⟨_, List.mem_cons_of_mem _ List.mem_cons_self, hget⟩
  · cases h

/-- What no failure starts waits for the gateway, and shows the customer nothing. -/
lemma candidate_reconciles {a : Option String} {action : String} {surface : Option String}
    (h : candidate session signal c a = .ok (action, surface))
    (hfailed : signal.eventType ≠ "payment.failed") :
    action = RecoveryActionType.waitForGatewayRetry.value ∧ surface = none := by
  cases a with
  | none =>
    simp only [candidate, if_pos hfailed] at h
    obtain ⟨rfl, rfl⟩ := Prod.mk.inj (Except.ok.inj h)
    exact ⟨rfl, rfl⟩
  | some id =>
    simp only [candidate] at h
    split at h
    · cases h
    · next record _ =>
      by_cases htype : record.actionType = .waitForGatewayRetry
      · by_cases hsurface : record.paymentSurfaceType = none
        · simp only [htype, hsurface, ne_eq, not_true_eq_false, or_self, and_false, if_false,
            reduceCtorEq, Option.map_none] at h
          obtain ⟨rfl, rfl⟩ := Prod.mk.inj (Except.ok.inj h)
          exact ⟨rfl, rfl⟩
        · rw [if_pos ⟨hfailed, .inr hsurface⟩] at h
          cases h
      · rw [if_pos ⟨hfailed, .inl htype⟩] at h
        cases h

/-- What a start input says of the case and the event. -/
lemma workflowInput_eq_ok (h : workflowInput session signal c = .ok input) :
    input.caseId = c.id ∧ input.merchantId = c.merchantId ∧
      input.failureEvent.eventId = signal.providerEventId ∧
      input.failureEvent.eventType = signal.eventType ∧
      actionId signal = .ok input.recoveryActionId ∧
      candidate session signal c input.recoveryActionId =
        .ok (input.candidateAction, input.paymentSurfaceType) := by
  unfold workflowInput at h
  obtain ⟨scope, -, h⟩ := Collected.of_bind_eq_ok h
  obtain ⟨id, hid, h⟩ := Collected.of_bind_eq_ok h
  obtain ⟨chosen, hchosen, h⟩ := Collected.of_bind_eq_ok h
  obtain rfl := Except.ok.inj h
  exact ⟨rfl, rfl, rfl, rfl, hid, hchosen⟩

lemma workflowInput_startedBy (hc : knownCase session signal caseId = .ok c)
    (hcase : signal.caseId = some caseId) (h : workflowInput session signal c = .ok input) :
    StartedBy signal (recoveryWorkflowId c.id) input := by
  obtain ⟨hid, hmerchant⟩ := knownCase_eq_ok hc
  obtain ⟨hinput, hm, hevent, htype, haction, hcandidate⟩ := workflowInput_eq_ok h
  refine ⟨?_, ?_, hm.trans hmerchant, ⟨hevent, htype⟩, actionId_isSome haction,
    fun id hsome => actionId_named (hsome ▸ haction), candidate_reconciles hcandidate⟩
  · rw [hinput]
  · rw [hcase, hinput, hid]

/-- Handing a signal over starts its workflow or signals it. -/
lemma handOver_grows {workflowId : String} {new : String → RecoveryWorkflowInput → Prop}
    (hnew : new workflowId input) : t.Grows new (handOver link workflowId input signal t).2 := by
  have hstart : t.Grows new (startWorkflow link.start workflowId input t).2 :=
    startWorkflow_grows hnew
  unfold handOver
  split
  · next heq =>
    rw [heq] at hstart
    exact hstart
  · next started t' heq =>
    rw [heq] at hstart
    split_ifs
    · exact hstart
    · exact hstart.trans (closeWorkflow_grows.trans signalWorkflow_grows)
    · exact hstart.trans signalWorkflow_grows

lemma handOver_heard (hcase : input.caseId = caseId)
    (hevent : input.failureEvent.eventId = signal.providerEventId)
    (h : (handOver link (recoveryWorkflowId caseId) input signal t).1 = .ok ()) :
    Heard signal caseId (handOver link (recoveryWorkflowId caseId) input signal t).2 := by
  have hstart := startWorkflow_started link.start (recoveryWorkflowId caseId) input t
  unfold handOver at h ⊢
  split at h
  · cases h
  · next started t' heq =>
    rw [heq] at hstart
    split_ifs at h ⊢ with hfailed
    · obtain ⟨run, hrun, hinput⟩ := hstart (congrArg _ hfailed.2)
      exact ⟨run, hrun, .inl ⟨hfailed.1, hinput ▸ hcase, hinput ▸ hevent⟩⟩
    · obtain ⟨run, hrun, hmail⟩ := signalWorkflow_delivered h
      exact ⟨run, hrun, .inr hmail⟩
    · obtain ⟨run, hrun, hmail⟩ := signalWorkflow_delivered h
      exact ⟨run, hrun, .inr hmail⟩

/-- What a call of the dispatcher does to the server. -/
theorem tell_grows : t.Grows (StartedBy signal) (tell link signal t).2 := by
  unfold tell
  split
  · exact .refl t
  · next caseId hcase =>
    split
    · exact .refl t
    · next c hc =>
      split_ifs
      · exact .refl t
      · split
        · exact .refl t
        · next input hinput => exact handOver_grows (workflowInput_startedBy hc hcase hinput)

/-- A call that succeeds has told the workflow, if there was something to tell. -/
theorem tell_heard (h : (tell link signal t).1 = .ok ()) (hcase : signal.caseId = some caseId)
    (hneeded : dispatchNeeded signal = true) : Heard signal caseId (tell link signal t).2 := by
  unfold tell at h ⊢
  simp only [hcase, hneeded, Bool.true_eq_false, if_false] at h ⊢
  split at h
  · cases h
  · next c hc =>
    split at h
    · cases h
    · next input hinput =>
      obtain ⟨hid, hmerchant⟩ := knownCase_eq_ok hc
      obtain ⟨hcase', -, hevent, -⟩ := workflowInput_eq_ok hinput
      rw [hid] at h ⊢
      exact handOver_heard (hcase'.trans hid) hevent h

end

/-! ## What a message was told with -/

/-- In this step a poller takes the message up and applies its event, with these effects on this
case; `tables` are as its transaction has written them. -/
def Applies (platform : Platform) (s : Pollers) (poll : Poll) (m : OutboxMessage)
    (payload : RazorpayOutboxPayload) (effects : List (String × Json)) (caseId : Option String)
    (tables : Database) : Prop :=
  ∃ poller call outbox inbox effects₀ recoveryCase applied more,
    poll = .take poller call ∧ s.hands poller = none ∧ nextMessage call s.db = some outbox ∧
    SameMessage outbox m ∧ outbox.payload = some payload ∧
    applyMessage platform call payload s.db = .ok ((inbox, effects₀, recoveryCase), applied) ∧
    authorize platform call payload effects₀ recoveryCase applied = .ok (more, tables) ∧
    effects = more.getD effects₀ ∧ caseId = recoveryCase.map (·.id)

/-- What the transaction has written is committed. -/
def Pollers.Stored (s : Pollers) (tables : Database) : Prop :=
  s.db = { tables with inbox := s.db.inbox, outbox := s.db.outbox }

/-- A step that was made applied the event of the message, with these effects on this case, and left
the database as the second argument. -/
def Took (platform : Platform) (made : Pollers → Poll → Pollers → Prop) (m : OutboxMessage)
    (payload : RazorpayOutboxPayload) (effects : List (String × Json)) (caseId : Option String)
    (s' : Pollers) (tables : Database) : Prop :=
  ∃ s poll, made s poll s' ∧ Applies platform s poll m payload effects caseId tables

/-- The event of the message was applied by a step that was made and committed. -/
def Gave (platform : Platform) (made : Pollers → Poll → Pollers → Prop) (m : OutboxMessage)
    (payload : RazorpayOutboxPayload) (effects : List (String × Json)) (caseId : Option String)
    (tables : Database) : Prop :=
  ∃ s', Took platform made m payload effects caseId s' tables ∧ s'.Stored tables

/-- The event of a message was applied, and its workflow has heard of it if there is something to
tell. -/
def Told (platform : Platform) (made : Pollers → Poll → Pollers → Prop) (t : Temporal)
    (m : OutboxMessage) (payload : RazorpayOutboxPayload) : Prop :=
  ∃ effects caseId tables, Gave platform made m payload effects caseId tables ∧ ∀ c,
    caseId = some c → dispatchNeeded (signalOf m payload effects caseId) = true →
      Heard (signalOf m payload effects caseId) c t

/-- A message that a poller holds is one of the outbox. -/
def Kept (db : Database) (outbox : OutboxMessage) (payload : RazorpayOutboxPayload) : Prop :=
  outbox.payload = some payload ∧ ∃ m ∈ db.outbox, SameMessage m outbox

/-- What a poller has done for what it has in hand. -/
def Backed (platform : Platform) (made : Pollers → Poll → Pollers → Prop) (db : Database)
    (t : Temporal) : Hand → Prop
  | .leased _ outbox payload _ effects caseId =>
    Kept db outbox payload ∧ ∃ tables, Gave platform made outbox payload effects caseId tables
  | .signalled _ outbox payload _ _ => Kept db outbox payload ∧ Told platform made t outbox payload
  | .failed _ _ _ _ _ => True

/-- A workflow was started with the signal of a message whose event a step that was made applied. An
action that it was started with is a row of the case that this step has committed. -/
def Started (platform : Platform) (made : Pollers → Poll → Pollers → Prop) (db : Database)
    (workflowId : String) (input : RecoveryWorkflowInput) : Prop :=
  ∃ m ∈ db.outbox, ∃ p effects caseId s' tables, m.payload = some p ∧
    Took platform made m p effects caseId s' tables ∧
    StartedBy (signalOf m p effects caseId) workflowId input ∧
    ∀ id, input.recoveryActionId = some id → s'.Stored tables ∧
      ∃ a ∈ tables.actions, a.id = id ∧ a.caseId = input.caseId

structure Handed (platform : Platform) (made : Pollers → Poll → Pollers → Prop) (s : System) :
    Prop where
  keyed : Keyed (·.id) s.pollers.db.outbox
  started : ∀ id, ∀ run ∈ s.temporal id, Started platform made s.pollers.db id run.input
  published : ∀ m ∈ s.pollers.db.outbox, m.publishedAt ≠ none →
    ∃ p, m.payload = some p ∧ Told platform made s.temporal m p
  backed : ∀ q h, s.pollers.hands q = some h → Backed platform made s.pollers.db s.temporal h

/-- What a step does to the outbox: messages stay what they are, and those that are newly published
meet a condition. -/
structure Rewritten (P : OutboxMessage → Prop) (db db' : Database) : Prop where
  keyed : Keyed (·.id) db'.outbox
  kept : ∀ m ∈ db.outbox, ∃ m' ∈ db'.outbox, SameMessage m m'
  published : ∀ m' ∈ db'.outbox, m'.publishedAt ≠ none →
    (∃ m ∈ db.outbox, SameMessage m m' ∧ m.publishedAt ≠ none) ∨ P m'

section
variable {platform : Platform} {made made' : Pollers → Poll → Pollers → Prop} {t t' : Temporal}
  {m m' outbox : OutboxMessage} {payload : RazorpayOutboxPayload} {db db' tables : Database}
  {effects : List (String × Json)} {caseId : Option String} {P : OutboxMessage → Prop}
  {s s' : System} {new : String → RecoveryWorkflowInput → Prop}

lemma SameMessage.trans {a b c : OutboxMessage} (h : SameMessage a b) (h' : SameMessage b c) :
    SameMessage a c :=
  ⟨h'.id.trans h.id, h'.payload.trans h.payload, h'.deduplicationKey.trans h.deduplicationKey⟩

lemma SameMessage.symm {a b : OutboxMessage} (h : SameMessage a b) : SameMessage b a :=
  ⟨h.id.symm, h.payload.symm, h.deduplicationKey.symm⟩

lemma took_of_take {s s' : Pollers} {poller : ℕ} {call : Call} {inbox : WebhookInboxEntry}
    {recoveryCase : Option RecoveryCase} {applied : Database} {more : Option (List (String × Json))}
    (hmade : made s (.take poller call) s') (hidle : s.hands poller = none)
    (hnext : nextMessage call s.db = some outbox) (hsame : SameMessage outbox m)
    (hp : outbox.payload = some payload)
    (happ : applyMessage platform call payload s.db =
      .ok ((inbox, effects, recoveryCase), applied))
    (hauth : authorize platform call payload effects recoveryCase applied = .ok (more, tables)) :
    Took platform made m payload (more.getD effects) (recoveryCase.map (·.id)) s' tables :=
  ⟨s, _, hmade, poller, call, outbox, inbox, effects, recoveryCase, applied, more, rfl, hidle,
    hnext, hsame, hp, happ, hauth, rfl, rfl⟩

lemma Took.mono {s' : Pollers} (h : Took platform made m payload effects caseId s' tables)
    (hs : ∀ a poll b, made a poll b → made' a poll b) :
    Took platform made' m payload effects caseId s' tables := by
  obtain ⟨s, poll, hmade, happlies⟩ := h
  exact ⟨s, poll, hs s poll s' hmade, happlies⟩

lemma Took.same {s' : Pollers} (h : Took platform made m payload effects caseId s' tables)
    (hm : SameMessage m m') : Took platform made m' payload effects caseId s' tables := by
  obtain ⟨s, poll, hmade, poller, call, row, inbox, effects₀, c, applied, more, hpoll, hidle, hnext,
    hsame, hrest⟩ := h
  exact ⟨s, poll, hmade, poller, call, row, inbox, effects₀, c, applied, more, hpoll, hidle, hnext,
    hsame.trans hm, hrest⟩

lemma Gave.mono (h : Gave platform made m payload effects caseId tables)
    (hs : ∀ a poll b, made a poll b → made' a poll b) :
    Gave platform made' m payload effects caseId tables := by
  obtain ⟨s', htook, hstored⟩ := h
  exact ⟨s', htook.mono hs, hstored⟩

lemma Gave.same (h : Gave platform made m payload effects caseId tables) (hm : SameMessage m m') :
    Gave platform made m' payload effects caseId tables := by
  obtain ⟨s', htook, hstored⟩ := h
  exact ⟨s', htook.same hm, hstored⟩

/-- An action that the effects name is a row of the case in the tables. -/
lemma Took.named {s' : Pollers} (h : Took platform made m payload effects caseId s' tables)
    {name id : String} (hname : name ∈ actionNames) (hget : Json.get effects name = .str id) :
    ∃ a ∈ tables.actions, a.id = id ∧ caseId = some a.caseId := by
  obtain ⟨s, poll, -, poller, call, outbox, inbox, effects₀, c, applied, more, -, -, -, -, -, happ,
    hauth, rfl, rfl⟩ := h
  have hnone := applyMessage_unnamed _ trivial _ _ happ
  exact (authorize_names hnone applied rfl _ _ hauth name hname id hget).2

lemma signalOf_same (h : SameMessage m m') :
    signalOf m' payload effects caseId = signalOf m payload effects caseId := by
  unfold signalOf
  rw [h.deduplicationKey]

lemma Told.same (h : Told platform made t m payload) (hm : SameMessage m m') :
    Told platform made t m' payload := by
  obtain ⟨effects, caseId, tables, hgave, hheard⟩ := h
  refine ⟨effects, caseId, tables, hgave.same hm, fun c hc hneeded => ?_⟩
  rw [signalOf_same hm] at hneeded ⊢
  exact hheard c hc hneeded

lemma Told.grows (h : Told platform made t m payload)
    (hs : ∀ a poll b, made a poll b → made' a poll b) (hg : t.Grows new t') :
    Told platform made' t' m payload := by
  obtain ⟨effects, caseId, tables, hgave, hheard⟩ := h
  exact ⟨effects, caseId, tables, hgave.mono hs, fun c hc hneeded => (hheard c hc hneeded).grows hg⟩

lemma Kept.rewritten (h : Kept db outbox payload) (hr : Rewritten P db db') :
    Kept db' outbox payload := by
  obtain ⟨hp, m, hm, hsame⟩ := h
  obtain ⟨m', hm', hsame'⟩ := hr.kept m hm
  exact ⟨hp, m', hm', hsame'.symm.trans hsame⟩

lemma Backed.rewritten {h : Hand} (hb : Backed platform made db t h)
    (hs : ∀ a poll b, made a poll b → made' a poll b) (hr : Rewritten P db db')
    (hg : t.Grows new t') :
    Backed platform made' db' t' h := by
  cases h with
  | leased =>
    obtain ⟨hkept, tables, hgave⟩ := hb
    exact ⟨hkept.rewritten hr, tables, hgave.mono hs⟩
  | signalled => exact ⟨hb.1.rewritten hr, hb.2.grows hs hg⟩
  | failed => trivial

lemma Started.rewritten {id : String} {input : RecoveryWorkflowInput}
    (h : Started platform made db id input) (hs : ∀ a poll b, made a poll b → made' a poll b)
    (hr : Rewritten P db db') : Started platform made' db' id input := by
  obtain ⟨m, hm, p, effects, caseId, s', tables, hp, htook, hstarted, haction⟩ := h
  obtain ⟨m', hm', hsame⟩ := hr.kept m hm
  refine ⟨m', hm', p, effects, caseId, s', tables, hsame.payload.trans hp,
    (htook.mono hs).same hsame, ?_, haction⟩
  rw [signalOf_same hsame]
  exact hstarted

lemma Handed.mono (h : Handed platform made s) (hs : ∀ a poll b, made a poll b → made' a poll b) :
    Handed platform made' s := by
  have hr : Rewritten (fun _ => False) s.pollers.db s.pollers.db :=
    ⟨h.keyed, fun m hm => ⟨m, hm, .refl m⟩, fun m hm hpub => .inl ⟨m, hm, .refl m, hpub⟩⟩
  have hg : s.temporal.Grows (fun _ _ => False) s.temporal := .refl s.temporal
  refine ⟨h.keyed, fun id run hrun => (h.started id run hrun).rewritten hs hr, fun m hm hpub => ?_,
    fun q x hx => (h.backed q x hx).rewritten hs hr hg⟩
  obtain ⟨p, hp, htold⟩ := h.published m hm hpub
  exact ⟨p, hp, htold.grows hs hg⟩

/-- A step that says of every newly published message, every new hand and every new workflow what it
is backed by. -/
lemma Handed.step (h : Handed platform made s)
    (hr : Rewritten (fun m => ∃ p, m.payload = some p ∧ Told platform made s'.temporal m p)
      s.pollers.db s'.pollers.db)
    (hg : s.temporal.Grows new s'.temporal)
    (hnew : ∀ id input, new id input → Started platform made s.pollers.db id input)
    (hh : ∀ q x, s'.pollers.hands q = some x → s.pollers.hands q = some x ∨
      Backed platform made s'.pollers.db s'.temporal x) : Handed platform made s' := by
  have hs : ∀ a poll b, made a poll b → made a poll b := fun _ _ _ h => h
  refine ⟨hr.keyed, fun id run hrun => ?_, fun m' hm' hpub => ?_, fun q x hx => ?_⟩
  · rcases hg.started id run hrun with ⟨run₀, hrun₀, hinput⟩ | hstarted
    · rw [hinput]
      exact (h.started id run₀ hrun₀).rewritten hs hr
    · exact (hnew id _ hstarted).rewritten hs hr
  · rcases hr.published m' hm' hpub with ⟨m, hm, hsame, hpub'⟩ | hnew
    · obtain ⟨p, hp, htold⟩ := h.published m hm hpub'
      exact ⟨p, hsame.payload.trans hp, (htold.grows hs hg).same hsame⟩
    · exact hnew
  · rcases hh q x hx with hold | hnew
    · exact (h.backed q x hold).rewritten hs hr hg
    · exact hnew

/-! ## The outbox, step by step -/

lemma Rewritten.of_eq (hk : Keyed (·.id) db.outbox) (h : db'.outbox = db.outbox) :
    Rewritten P db db' := by
  refine ⟨h ▸ hk, fun m hm => ⟨m, h ▸ hm, .refl m⟩, fun m hm hpub => ?_⟩
  exact .inl ⟨m, h ▸ hm, .refl m, hpub⟩

lemma Rewritten.congr {db₀ : Database} (h : Rewritten P db db') (ho : db.outbox = db₀.outbox) :
    Rewritten P db₀ db' :=
  ⟨h.keyed, fun m hm => h.kept m (ho ▸ hm), fun m hm hpub => ho ▸ h.published m hm hpub⟩

/-- A row is written back, unpublished if it was. -/
lemma Rewritten.putOutbox (hk : Keyed (·.id) db.outbox) (hm : m ∈ db.outbox)
    (hsame : SameMessage m m') (hpub : m'.publishedAt ≠ none → m.publishedAt ≠ none)
    (ho : db'.outbox = (db.putOutbox m').outbox) : Rewritten P db db' := by
  refine ⟨?_, fun x hx => ?_, fun x hx hxpub => ?_⟩
  · rw [ho]
    exact hk.put m'
  · rw [ho]
    by_cases hid : x.id = m'.id
    · obtain rfl : x = m := hk.eq hx hm (hid.trans hsame.id)
      exact ⟨m', mem_put_self hx hid, hsame⟩
    · exact ⟨x, mem_put_of_ne hx hid, .refl x⟩
  · rw [ho] at hx
    rcases mem_put hx with rfl | ⟨hx, -⟩
    · exact .inl ⟨m, hm, hsame, hpub hxpub⟩
    · exact .inl ⟨x, hx, .refl x, hxpub⟩

/-- The message in hand is published. -/
lemma Rewritten.publish (hk : Keyed (·.id) db.outbox) {call : Call} {inbox : WebhookInboxEntry}
    (hkept : Kept db outbox payload)
    (hP : ∀ m, SameMessage outbox m → P m) : Rewritten P db (publish call outbox inbox db) := by
  obtain ⟨hp, m, hm, hsame⟩ := hkept
  refine ⟨hk.map fun row _ => ?_, fun x hx => ⟨_, List.mem_map_of_mem hx, ?_⟩, fun x hx hpub => ?_⟩
  · split_ifs <;> rfl
  · split_ifs
    · exact ⟨rfl, rfl, rfl⟩
    · exact .refl x
  · obtain ⟨row, hrow, rfl⟩ := List.mem_map.mp hx
    split_ifs at hpub ⊢ with hid
    · obtain rfl : row = m := hk.eq hrow hm (hid.trans hsame.id)
      exact .inr (hP _ (hsame.symm.trans ⟨rfl, rfl, rfl⟩))
    · exact .inl ⟨row, hrow, .refl row, hpub⟩

lemma Rewritten.received {e : WebhookInboxEntry} {p : RazorpayOutboxPayload}
    (hk : Keyed (·.id) db.outbox) (h : Received platform db db' e m p) : Rewritten P db db' := by
  have ho : db'.outbox = db.outbox ++ [m] := by rw [h.tables]
  refine ⟨?_, fun x hx => ⟨x, ?_, .refl x⟩, fun x hx hpub => ?_⟩
  · rw [ho]
    exact hk.append fun x hx => (h.message_new x hx).1
  · rw [ho]
    exact List.mem_append_left _ hx
  · rw [ho, List.mem_append, List.mem_singleton] at hx
    rcases hx with hx | rfl
    · exact .inl ⟨x, hx, .refl x, hpub⟩
    · exact absurd h.unpublished hpub

lemma noteError_outbox {p : Option RazorpayOutboxPayload} {code : String} :
    (noteError p code db).outbox = db.outbox := by
  unfold noteError
  split <;> rfl

lemma Rewritten.recordFailure (hk : Keyed (·.id) db.outbox) {call : Call} {id code : String}
    {p : Option RazorpayOutboxPayload} :
    Rewritten P db (recordFailure call id p caseId code db).2 := by
  unfold Webhook.recordFailure
  split
  · exact .of_eq hk rfl
  · next outbox hfound =>
    split_ifs
    · dsimp only
      refine .putOutbox hk (List.mem_of_find?_eq_some hfound) ?_ ?_ noteError_outbox
      · exact ⟨rfl, rfl, rfl⟩
      · exact fun h => absurd rfl h
    · exact .of_eq hk rfl

end

/-! ## A message is taken up -/

section
variable {platform : Platform} {s : Pollers} {poller : ℕ} {call : Call} {outbox : OutboxMessage}
  {payload : RazorpayOutboxPayload}

/-- The signal of a message that is taken up: its event is applied, and needs no authorization. -/
lemma takenSignal_eq_some {db : Database} {signal : RazorpayDownstreamSignal}
    (h : takenSignal platform call outbox db = some signal) :
    ∃ payload inbox effects recoveryCase applied authorized, outbox.payload = some payload ∧
      applyMessage platform call payload db = .ok ((inbox, effects, recoveryCase), applied) ∧
      authorize platform call payload effects recoveryCase applied = .ok (none, authorized) ∧
      signal = signalOf outbox payload effects (recoveryCase.map (·.id)) := by
  unfold takenSignal at h
  split at h
  · cases h
  · next payload hp =>
    split at h
    · cases h
    · next inbox effects c applied happ =>
      split at h
      · next authorized hauth =>
        exact ⟨payload, inbox, effects, c, applied, authorized, hp, happ, hauth,
          (Option.some.inj h).symm⟩
      · cases h

lemma applyMessage_answering (ok : Bool) :
    applyMessage platform (call.answering ok) payload = applyMessage platform call payload := rfl

lemma authorize_answering (ok : Bool) {effects : List (String × Json)} {c : Option RecoveryCase} :
    authorize platform (call.answering ok) payload effects c =
      authorize platform call payload effects c := rfl

end

/-- What a step of the pollers is backed by. -/
structure Advances (platform : Platform) (made : Pollers → Poll → Pollers → Prop) (s s' : System) :
    Prop where
  rewritten : Rewritten (fun m => ∃ p, m.payload = some p ∧ Told platform made s'.temporal m p)
    s.pollers.db s'.pollers.db
  backed : ∀ q x, s'.pollers.hands q = some x → s.pollers.hands q = some x ∨
    Backed platform made s'.pollers.db s'.temporal x

section
variable {platform : Platform} {made : Pollers → Poll → Pollers → Prop} {s s' : System} {poller : ℕ}
  {call : Call} {outbox : OutboxMessage} {payload : RazorpayOutboxPayload} {o : Option Hand}

lemma Advances.of_update
    (hr : Rewritten (fun m => ∃ p, m.payload = some p ∧ Told platform made s'.temporal m p)
      s.pollers.db s'.pollers.db)
    (hh : s'.pollers.hands = Function.update s.pollers.hands poller o)
    (ho : ∀ x, o = some x → Backed platform made s'.pollers.db s'.temporal x) :
    Advances platform made s s' := by
  refine ⟨hr, fun q x hx => ?_⟩
  rw [hh] at hx
  by_cases hq : q = poller
  · subst hq
    rw [Function.update_self] at hx
    exact .inr (ho x hx)
  · rw [Function.update_of_ne hq] at hx
    exact .inl hx

lemma Advances.refl (hk : Keyed (·.id) s.pollers.db.outbox) : Advances platform made s s :=
  ⟨.of_eq hk rfl, fun _ _ hx => .inl hx⟩

/-- A poller puts down what it has in hand. -/
lemma Advances.release
    (hr : Rewritten (fun m => ∃ p, m.payload = some p ∧ Told platform made s'.temporal m p)
      s.pollers.db s'.pollers.db)
    (hh : s'.pollers.hands = Function.update s.pollers.hands poller none) :
    Advances platform made s s' :=
  .of_update hr hh fun _ hx => by cases hx

/-- A transaction that is rolled back. -/
lemma Advances.fail (hk : Keyed (·.id) s.pollers.db.outbox) {pollers : Pollers}
    {p : Option RazorpayOutboxPayload} {caseId : Option String} {e : ProcessingError} {t : Temporal}
    (hdb : pollers.db = s.pollers.db) (hh : pollers.hands = s.pollers.hands) :
    Advances platform made s ⟨pollers.fail poller call outbox.id p caseId e, t⟩ := by
  have hhands : (pollers.fail poller call outbox.id p caseId e).hands = Function.update
      s.pollers.hands poller (some (.failed call outbox.id p caseId (errorCode e))) := by
    rw [← hh]
    rfl
  refine .of_update (.of_eq hk ?_) hhands ?_
  · exact congrArg _ hdb
  · intro x hx
    obtain rfl := Option.some.inj hx
    trivial

/-- A message that is taken up without a signal is leased, or its transaction rolled back. -/
lemma takeUp_advances (hk : Keyed (·.id) s.pollers.db.outbox)
    (hidle : s.pollers.hands poller = none) (hnext : nextMessage call s.pollers.db = some outbox)
    (hnow : made s.pollers (.take poller call) (s.pollers.takeUp platform poller call outbox))
    (hsent : takenSignal platform call outbox s.pollers.db = none) :
    Advances platform made s { s with pollers := s.pollers.takeUp platform poller call outbox } := by
  obtain ⟨hm, hopen⟩ := nextMessage_spec hnext
  unfold takenSignal at hsent
  split at hsent
  · next hp =>
    simp only [Pollers.takeUp, hp]
    exact .fail hk rfl rfl
  · next payload hp =>
    split at hsent
    · next e happ =>
      simp only [Pollers.takeUp, hp, happ]
      exact .fail hk rfl rfl
    · next inbox effects c applied happ =>
      split at hsent
      · cases hsent
      · next hnone =>
        cases hauth : authorize platform call payload effects c applied with
        | error e =>
          simp only [Pollers.takeUp, hp, happ, hauth]
          exact .fail hk rfl rfl
        | ok authorization =>
          obtain ⟨_ | effects', authorized⟩ := authorization
          · exact (hnone authorized hauth).elim
          · have hmail := authorize_mail applied
              (applyMessage_mail s.pollers.db ⟨rfl, rfl⟩ _ _ happ) _ _ hauth
            simp only [Pollers.takeUp, hp, happ, hauth] at hnow ⊢
            split_ifs at hnow ⊢
            · have hrow : SameMessage outbox
                  { outbox with
                    payload := some payload
                    availableAt := call.now + call.dispatchLease } := ⟨rfl, hp.symm, rfl⟩
              refine .of_update (.putOutbox hk hm hrow (fun h => absurd hopen h) ?_) rfl ?_
              · show put _ authorized.outbox _ = put _ s.pollers.db.outbox _
                rw [hmail.2]
              · intro x hx
                obtain rfl := Option.some.inj hx
                have htook := took_of_take hnow hidle hnext hrow hp happ hauth
                refine ⟨⟨rfl, _, ?_, .refl _⟩, authorized, _, htook, rfl⟩
                show _ ∈ put _ authorized.outbox _
                rw [hmail.2]
                exact mem_put_self hm rfl
            · exact .fail hk rfl rfl

lemma of_isOk {ε : Type} {r : Except ε Unit} (h : r.isOk = true) : r = .ok () := by
  cases r with
  | error e => cases h
  | ok u => rfl

/-- A message that is taken up with a signal is published if the workflow has heard of it. -/
lemma takeUp_told (hk : Keyed (·.id) s.pollers.db.outbox)
    (hidle : s.pollers.hands poller = none) (hnext : nextMessage call s.pollers.db = some outbox)
    {signal : RazorpayDownstreamSignal} {link : Link}
    (hnow : made s.pollers (.take poller call) (s.pollers.takeUp platform poller
      (call.answering (tell link signal s.temporal).1.isOk) outbox))
    (hsent : takenSignal platform call outbox s.pollers.db = some signal) :
    Advances platform made s
      { pollers := s.pollers.takeUp platform poller
          (call.answering (tell link signal s.temporal).1.isOk) outbox
        temporal := (tell link signal s.temporal).2 } := by
  obtain ⟨hm, -⟩ := nextMessage_spec hnext
  obtain ⟨payload, inbox, effects, c, applied, authorized, hp, happ, hauth, rfl⟩ :=
    takenSignal_eq_some hsent
  simp only [Pollers.takeUp, hp, applyMessage_answering, authorize_answering, happ, hauth]
    at hnow ⊢
  have hmail := authorize_mail applied
    (applyMessage_mail s.pollers.db ⟨rfl, rfl⟩ _ _ happ) _ _ hauth
  unfold Pollers.finish at hnow ⊢
  dsimp only at hnow ⊢
  split_ifs at hnow ⊢ with hok
  · have htell := of_isOk hok
    have htook := took_of_take hnow hidle hnext (.refl outbox) hp happ hauth
    have htold : Told platform made
        (tell link (signalOf outbox payload effects (c.map (·.id))) s.temporal).2 outbox
        payload := by
      refine ⟨effects, _, authorized, ⟨_, htook, rfl⟩, fun id hid hneeded => ?_⟩
      exact tell_heard htell hid hneeded
    have hkept : Kept authorized outbox payload :=
      ⟨hp, outbox, hmail.2.symm ▸ hm, .refl outbox⟩
    have hk' : Keyed (·.id) authorized.outbox := hmail.2.symm ▸ hk
    refine ⟨.congr (.publish hk' hkept ?_) hmail.2, fun q x hx => .inl hx⟩
    exact fun m hsame => ⟨payload, hsame.payload.trans hp, htold.same hsame⟩
  · exact .fail hk rfl rfl
  · exact .fail hk rfl rfl

/-- A step that sends no signal. -/
lemma step_advances (h : Handed platform made s) {poll : Poll}
    (hnow : made s.pollers poll (s.pollers.step platform poll))
    (hsent : sends platform s.pollers poll = none) :
    Advances platform made s { s with pollers := s.pollers.step platform poll } := by
  have hk := h.keyed
  cases poll with
  | receive receipt merchantId providerEventId body =>
    simp only [Pollers.step]
    split
    · next w db heq =>
      rcases ingest_spec s.pollers.db rfl w db heq with rfl | ⟨e, m, p, hr⟩
      · exact ⟨.of_eq hk rfl, fun q x hx => .inl hx⟩
      · exact ⟨.received hk hr, fun q x hx => .inl hx⟩
    · exact ⟨.of_eq hk rfl, fun q x hx => .inl hx⟩
  | take poller call =>
    simp only [sends] at hsent
    split at hsent
    · next outbox hidle hnext =>
      simp only [Pollers.step, hidle, hnext] at hnow ⊢
      exact takeUp_advances hk hidle hnext hnow hsent
    · next hnot =>
      unfold Pollers.step
      dsimp only
      split
      · next outbox hidle hnext => exact (hnot outbox hidle hnext).elim
      · exact .refl hk
  | signal poller =>
    simp only [sends] at hsent
    split at hsent
    · cases hsent
    · next hnot =>
      unfold Pollers.step
      dsimp only
      split
      · next heq => exact (hnot _ _ _ _ _ _ heq).elim
      · exact .refl hk
  | complete poller =>
    simp only [Pollers.step]
    split
    · next call outbox payload inbox caseId heq =>
      obtain ⟨hkept, htold⟩ := h.backed poller _ heq
      split_ifs
      · refine .release (.publish hk hkept fun m hsame => ?_) rfl
        exact ⟨payload, hsame.payload.trans hkept.1, htold.same hsame⟩
      · exact .fail hk rfl rfl
    · exact .refl hk
  | record poller =>
    simp only [Pollers.step]
    split
    · exact .release (.recordFailure hk) rfl
    · exact .refl hk
  | crash poller => exact .release (.of_eq hk rfl) rfl
  | elsewhere tables => exact ⟨.of_eq hk rfl, fun q x hx => .inl hx⟩

/-- A step that sends a signal, with the dispatcher's answer. -/
lemma answered_advances (h : Handed platform made s) {poll : Poll}
    {signal : RazorpayDownstreamSignal} (link : Link) (hnow : made s.pollers poll
      (answered platform s.pollers (tell link signal s.temporal).1.isOk poll))
    (hsent : sends platform s.pollers poll = some signal) :
    Advances platform made s
      { pollers := answered platform s.pollers (tell link signal s.temporal).1.isOk poll
        temporal := (tell link signal s.temporal).2 } := by
  have hk := h.keyed
  cases poll with
  | take poller call =>
    simp only [sends] at hsent
    split at hsent
    · next outbox hidle hnext =>
      have hnext' : ∀ ok, nextMessage (call.answering ok) s.pollers.db = some outbox :=
        fun _ => hnext
      simp only [answered, Pollers.step, hidle, hnext'] at hnow ⊢
      exact takeUp_told hk hidle hnext hnow hsent
    · cases hsent
  | signal poller =>
    simp only [sends] at hsent
    split at hsent
    · next call outbox payload inbox effects caseId heq =>
      obtain rfl := Option.some.inj hsent
      obtain ⟨hkept, tables, hgave⟩ := h.backed poller _ heq
      simp only [answered, heq, Pollers.step, Pollers.hold, Function.update_self]
      split_ifs with hok
      · have htell := of_isOk hok
        refine .of_update (.of_eq hk rfl) (Function.update_idem _ _ _) ?_
        intro x hx
        obtain rfl := Option.some.inj hx
        refine ⟨hkept, effects, caseId, tables, hgave, fun c hc hneeded => ?_⟩
        exact tell_heard htell hc hneeded
      · refine .of_update (.of_eq hk rfl) (Function.update_idem _ _ _) ?_
        intro x hx
        obtain rfl := Option.some.inj hx
        trivial
    · cases hsent
  | _ => cases hsent

/-- A signal is that of a message whose event a step has applied; that step has committed the action
that the signal names. -/
lemma sends_eq_some (h : Handed platform made s) {poll : Poll} {s' : Pollers}
    (hnow : made s.pollers poll s') {signal : RazorpayDownstreamSignal}
    (hsent : sends platform s.pollers poll = some signal) :
    ∃ m ∈ s.pollers.db.outbox, ∃ p effects caseId s'' tables, m.payload = some p ∧
      Took platform made m p effects caseId s'' tables ∧ signal = signalOf m p effects caseId ∧
      ∀ name ∈ actionNames, ∀ id, Json.get effects name = .str id → s''.Stored tables := by
  cases poll with
  | take poller call =>
    simp only [sends] at hsent
    split at hsent
    · next outbox hidle hnext =>
      obtain ⟨hm, -⟩ := nextMessage_spec hnext
      obtain ⟨payload, inbox, effects, c, applied, authorized, hp, happ, hauth, rfl⟩ :=
        takenSignal_eq_some hsent
      have htook := took_of_take hnow hidle hnext (.refl outbox) hp happ hauth
      refine ⟨outbox, hm, payload, effects, _, s', authorized, hp, htook, rfl,
        fun name hname id hget => ?_⟩
      -- nothing was authorized, so the effects name no action
      have hnone := applyMessage_unnamed _ trivial _ _ happ
      exact absurd ((hnone name hname).symm.trans hget) (by simp)
    · cases hsent
  | signal poller =>
    simp only [sends] at hsent
    split at hsent
    · next call outbox payload inbox effects caseId heq =>
      obtain rfl := Option.some.inj hsent
      obtain ⟨⟨hp, m, hm, hsame⟩, tables, s'', htook, hstored⟩ := h.backed poller _ heq
      exact ⟨m, hm, payload, effects, caseId, s'', tables, hsame.payload.symm.trans hp,
        htook.same hsame.symm, signalOf_same hsame, fun _ _ _ _ => hstored⟩
    · cases hsent
  | _ => cases hsent

/-- What a signal starts. -/
lemma started_of_sends (h : Handed platform made s) {poll : Poll} {s' : Pollers}
    (hnow : made s.pollers poll s') {signal : RazorpayDownstreamSignal}
    (hsent : sends platform s.pollers poll = some signal) {workflowId : String}
    {input : RecoveryWorkflowInput} (hstarted : StartedBy signal workflowId input) :
    Started platform made s.pollers.db workflowId input := by
  obtain ⟨m, hm, p, effects, caseId, s'', tables, hp, htook, rfl, hstored⟩ :=
    sends_eq_some h hnow hsent
  refine ⟨m, hm, p, effects, caseId, s'', tables, hp, htook, hstarted, fun id hid => ?_⟩
  obtain ⟨name, hname, hget⟩ := hstarted.named id hid
  obtain ⟨a, ha, rfl, hcase⟩ := htook.named hname hget
  refine ⟨hstored name hname _ hget, a, ha, rfl, ?_⟩
  exact Option.some.inj (hcase.symm.trans hstarted.caseId)

/-- One step of the system. -/
theorem step_handed (h : Handed platform made s) (move : Move)
    (hnow : ∀ poll link, move = .poll poll link →
      made s.pollers poll (s.step platform move).pollers) :
    Handed platform made (s.step platform move) := by
  have hnone : ∀ id input, False → Started platform made s.pollers.db id input :=
    fun _ _ hfalse => hfalse.elim
  cases move with
  | poll poll link =>
    replace hnow := hnow poll link rfl
    cases hsent : sends platform s.pollers poll with
    | none =>
      simp only [System.step, hsent] at hnow ⊢
      obtain ⟨hr, hb⟩ := step_advances h hnow hsent
      exact h.step hr (.refl s.temporal) hnone hb
    | some signal =>
      simp only [System.step, hsent] at hnow ⊢
      obtain ⟨hr, hb⟩ := answered_advances h link hnow hsent
      exact h.step hr tell_grows (fun id input => started_of_sends h hnow hsent) hb
  | ends workflowId =>
    exact h.step (.of_eq h.keyed rfl) closeWorkflow_grows hnone fun q x hx => .inl hx
  | other workflowId sig =>
    exact h.step (.of_eq h.keyed rfl) signalWorkflow_grows hnone fun q x hx => .inl hx

end

/-! ## Runs -/

/-- A system that has done nothing yet, with a mail that is unpublished. -/
structure Fresh (s : System) : Prop where
  keyed : Keyed (·.id) s.pollers.db.outbox
  unpublished : ∀ m ∈ s.pollers.db.outbox, m.publishedAt = none
  idle : ∀ q, s.pollers.hands q = none
  empty : ∀ id, s.temporal id = []

/-- The steps of the pollers that a run makes among its first `k`. -/
def Made (platform : Platform) (s : System) (moves : List Move) (k : ℕ) (a : Pollers) (poll : Poll)
    (b : Pollers) : Prop :=
  ∃ j < k, ∃ link, moves[j]? = some (.poll poll link) ∧ a = (s.after platform moves j).pollers ∧
    b = (s.after platform moves (j + 1)).pollers

section
variable {platform : Platform} {s : System} {moves : List Move} {k : ℕ}

lemma after_step {move : Move} (h : moves[k]? = some move) :
    s.after platform moves (k + 1) = (s.after platform moves k).step platform move := by
  unfold System.after
  rw [List.take_add_one, h]
  simp

lemma after_end (h : moves[k]? = none) :
    s.after platform moves (k + 1) = s.after platform moves k := by
  unfold System.after
  rw [List.take_add_one, h]
  simp

theorem after_handed (hs : Fresh s) :
    ∀ k, Handed platform (Made platform s moves k) (s.after platform moves k) := by
  intro k
  induction k with
  | zero =>
    refine ⟨hs.keyed, fun id run hrun => ?_, fun m hm hpub => absurd (hs.unpublished m hm) hpub,
      fun q x hx => ?_⟩
    · have hempty : run ∈ ([] : List Execution) := hs.empty id ▸ hrun
      cases hempty
    · have hidle := (hs.idle q).symm.trans hx
      cases hidle
  | succ k ih =>
    have hmono : Handed platform (Made platform s moves (k + 1)) (s.after platform moves k) :=
      ih.mono fun a poll b ⟨j, hj, hmade⟩ => ⟨j, by omega, hmade⟩
    cases hmove : moves[k]? with
    | none =>
      rw [after_end hmove]
      exact hmono
    | some move =>
      rw [after_step hmove]
      refine step_handed hmono move fun poll link heq => ⟨k, by omega, link, ?_, rfl, ?_⟩
      · rw [hmove, heq]
      · rw [after_step hmove]

/-- An event that is a failure or a capture has a case. -/
lemma Gave.case {made : Pollers → Poll → Pollers → Prop} {m : OutboxMessage}
    {payload : RazorpayOutboxPayload} {effects : List (String × Json)} {caseId : Option String}
    {tables : Database} (h : Gave platform made m payload effects caseId tables)
    (hevent : payload.event.eventType = "payment.failed" ∨ payload.event.paymentState = .captured) :
    caseId.isSome = true := by
  obtain ⟨s', ⟨a, poll, -, poller, call, outbox, inbox, effects₀, found, applied, more, -, -, -, -,
    -, happ, -, -, rfl⟩, -⟩ := h
  obtain ⟨c, hc, -⟩ := applyMessage_applied hevent _ trivial _ _ happ
  have hfound : found = some c := hc
  rw [hfound]
  rfl

/-- Whatever the interleaving of the pollers, their crashes, the leases that run out and the calls
to the server that fail: the event of a published message was applied by a step of the run, which
committed what it wrote, and unless the effects of that step say that there is nothing to tell, the
workflow of its case was started with it or has its signal. -/
theorem published_told (hs : Fresh s) {m : OutboxMessage}
    (hm : m ∈ (s.after platform moves k).pollers.db.outbox) (hpub : m.publishedAt ≠ none) :
    ∃ p effects caseId tables, m.payload = some p ∧
      Gave platform (Made platform s moves k) m p effects caseId tables ∧
      (p.event.eventType = "payment.failed" ∨ p.event.paymentState = .captured →
        caseId.isSome = true) ∧
      ∀ c, caseId = some c → dispatchNeeded (signalOf m p effects caseId) = true →
        Heard (signalOf m p effects caseId) c (s.after platform moves k).temporal := by
  obtain ⟨p, hp, effects, caseId, tables, hgave, hheard⟩ := (after_handed hs k).published m hm hpub
  exact ⟨p, effects, caseId, tables, hp, hgave, hgave.case, hheard⟩

/-- In every run, an execution was started by the event of a message that a step of the run applied,
for a case of the message's merchant and under that case's workflow id. One that a failure started
has an action, which is a row of the case that this step committed; one that no failure started may
only wait for the gateway. -/
theorem started_soundly (hs : Fresh s) {workflowId : String} {run : Execution}
    (hrun : run ∈ (s.after platform moves k).temporal workflowId) :
    Started platform (Made platform s moves k) (s.after platform moves k).pollers.db workflowId
      run.input :=
  (after_handed hs k).started workflowId run hrun

end

/-! ## One failure, handed over -/

/-- A session that shows the tables as they are once the failure is applied. -/
def sampleLink : Link where
  session := (pollersStart.after samplePlatform inTurn 2).db
  start := .answered
  ends := false
  signal := .answered

def handoffStart : System := { pollers := pollersStart }

/-- The webhook is received, and one poller takes the message up, tells it and publishes it. -/
def handoffMoves : List Move :=
  [.poll receiveFailed sampleLink, .poll (.take 1 (sampleCall 2000000 true)) sampleLink,
    .poll (.signal 1) sampleLink, .poll (.complete 1) sampleLink]

lemma handoffStart_fresh : Fresh handoffStart := by
  refine ⟨?_, fun m hm => ?_, fun _ => rfl, fun _ => rfl⟩
  · exact sampleStore_mail.outbox_keyed
  · cases hm

theorem published_told_sample :
    ∃ m ∈ (handoffStart.after samplePlatform handoffMoves 4).pollers.db.outbox,
      m.publishedAt = some 2000000 ∧ ∃ p effects caseId tables, m.payload = some p ∧
        Gave samplePlatform (Made samplePlatform handoffStart handoffMoves 4) m p effects caseId
          tables ∧
        ∀ c, caseId = some c → dispatchNeeded (signalOf m p effects caseId) = true →
          Heard (signalOf m p effects caseId) c
            (handoffStart.after samplePlatform handoffMoves 4).temporal := by
  obtain ⟨m, hm, hpub⟩ : ∃ m ∈ (handoffStart.after samplePlatform handoffMoves 4).pollers.db.outbox,
      m.publishedAt = some 2000000 := ⟨_, List.mem_cons_self, rfl⟩
  have hne : m.publishedAt ≠ none := by
    rw [hpub]
    exact Option.some_ne_none _
  obtain ⟨p, effects, caseId, tables, hp, hgave, -, htold⟩ :=
    published_told handoffStart_fresh hm hne
  exact ⟨m, hm, hpub, p, effects, caseId, tables, hp, hgave, htold⟩

/-- The workflow id of the sample's case. -/
def sampleWorkflowId : String :=
  recoveryWorkflowId "case_rzp_3427be8787b2266361a016954392901e17b9144a"

theorem started_soundly_sample :
    ∃ run ∈ (handoffStart.after samplePlatform handoffMoves 4).temporal sampleWorkflowId,
      run.input.failureEvent.eventId = "evt_1" ∧
      Started samplePlatform (Made samplePlatform handoffStart handoffMoves 4)
        (handoffStart.after samplePlatform handoffMoves 4).pollers.db sampleWorkflowId
        run.input := by
  have hruns : ((handoffStart.after samplePlatform handoffMoves 4).temporal sampleWorkflowId).map
      (·.input.failureEvent.eventId) = ["evt_1"] := by decide +kernel
  have hmem : "evt_1" ∈ ((handoffStart.after samplePlatform handoffMoves 4).temporal
      sampleWorkflowId).map (·.input.failureEvent.eventId) := hruns ▸ List.mem_cons_self
  obtain ⟨run, hrun, hevent⟩ := List.mem_map.mp hmem
  exact ⟨run, hrun, hevent, started_soundly handoffStart_fresh hrun⟩

end RecoveryOS.Webhook
