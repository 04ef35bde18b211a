import RecoveryOS.CustomerAgent.History

/-!
# RecoveryOS as the agent's client

The form in which the agent shows a task, and what `client.py` reads off it: the state from the
status, the path to approve by from the message in it, and the mandate from the first artifact. Of
every task that the agent stores, the client reads the state it is in; the path is there while the
customer is asked, and only then.
-/

namespace RecoveryOS.CustomerAgent

open Resume RecoveryOS.Json
open RecoveryOS.A2A (DateTime)

/-! ## A task as it is shown -/

/-- `value[name] = f(value[name])`, if that is there. -/
def Json.alter (name : String) (f : Json → Json) : Json → Json
  | .obj fields => .obj (fields.map fun g => if g.1 = name then (g.1, f g.2) else g)
  | value => value

/-- `value[0] = f(value[0])`, if that is there. -/
def Json.alterFirst (f : Json → Json) : Json → Json
  | .arr (value :: rest) => .arr (f value :: rest)
  | value => value

section
variable (pkgs : Packages) (quote : String → String)

/-- `approval_path`; `quote` is that of `urllib`, with nothing safe. -/
def approvalPath (task : TaskRecord) : String :=
  match pkgs.approvalToken task with
  | none => "/a2a/" ++ quote task.id
  | some token => "/a2a/" ++ quote task.id ++ "#token=" ++ token

/-- The status in `public_task`: a path to approve the task by is replaced. -/
def publicStatus (task : TaskRecord) : Json :=
  Json.alter "message" (Json.alter "parts" (Json.alterFirst (Json.alter "data"
    (Json.alter "approval_path" fun _ => .str (approvalPath pkgs quote task))))) task.status

/-- `public_task`, with all of the history. -/
def publicTask (task : TaskRecord) : List (String × Json) :=
  [("id", .str task.id), ("contextId", .str task.contextId),
    ("status", publicStatus pkgs quote task), ("artifacts", .arr task.artifacts),
    ("history", .arr task.history),
    ("metadata", .obj [("caseId", .str task.request.caseId),
      ("protocolVersion", .str "recovery.request.v2"),
      ("updatedAt", .str (pkgs.isoformat { task.updatedAt with offset := 0 }))])]

end

/-! ## What the client makes of it -/

inductive RemoteState where
  | submitted
  | working
  | authRequired
  | completed
  | failed
  | canceled
  deriving DecidableEq

def RemoteState.value : RemoteState → String
  | .submitted => "SUBMITTED"
  | .working => "WORKING"
  | .authRequired => "AUTH_REQUIRED"
  | .completed => "COMPLETED"
  | .failed => "FAILED"
  | .canceled => "CANCELED"

/-- `_STATE_MAP`. -/
def stateMap : List (String × RemoteState) :=
  [("TASK_STATE_SUBMITTED", .submitted), ("TASK_STATE_WORKING", .working),
    ("TASK_STATE_AUTH_REQUIRED", .authRequired), ("TASK_STATE_COMPLETED", .completed),
    ("TASK_STATE_FAILED", .failed), ("TASK_STATE_CANCELED", .canceled)]

structure CustomerAgentTask where
  remoteTaskId : String
  state : RemoteState
  approvalPath : Option String
  artifact : Option (List (String × Json))
  updatedAt : DateTime

/-- What a call of the client raises. -/
inductive ClientError where
  | protocol (message : String)
  | value
  | key
  deriving DecidableEq

/-- What the client takes from Python: `str` of a value that is no text, and `fromisoformat` after a
final `Z` became an offset. -/
structure Reading where
  repr : Json → String
  parseTime : String → Option DateTime

def Reading.str (reading : Reading) : Json → String
  | .str s => s
  | value => reading.repr value

/-- `_object`. -/
def requireObject (label : String) : Json → Except ClientError (List (String × Json))
  | .obj fields => .ok fields
  | _ => .error (.protocol (label ++ " must be an object"))

/-- The data of the first part of the first artifact. -/
def firstArtifact (artifacts : Json) : Except ClientError (Option Json) :=
  match Json.first? artifacts with
  | none => .ok none
  | some artifact => do
    let first ← requireObject "task artifact" artifact
    match Json.first? (Json.get first "parts") with
    | none => pure none
    | some part => do
      let fields ← requireObject "artifact part" part
      pure (some (Json.get fields "data"))

/-- An empty path is none. -/
def pathOf : Json → Option String
  | .str path => if path = "" then none else some path
  | _ => none

/-- The path to approve by, in the first part of a status message. -/
def shownPath (message : Json) : Option String :=
  match Json.first? (Json.get message.asObject "parts") with
  | none => none
  | some part => pathOf (Json.get (Json.get part.asObject "data").asObject "approval_path")

def objectFields? : Json → Option (List (String × Json))
  | .obj fields => some fields
  | _ => none

/-- `_STATE_MAP.get`, or the error that names the state. -/
def remoteState (rawState : String) : Except ClientError RemoteState :=
  match stateMap.find? fun s => s.1 = rawState with
  | none => .error (.protocol ("unsupported A2A task state: " ++ rawState))
  | some s => .ok s.2

/-- The time of the update, which is now if none is given. -/
def readTime (reading : Reading) (now : DateTime) (value : Json) : Except ClientError DateTime :=
  if Json.truthy value then
    match reading.parseTime (reading.str value) with
    | none => .error .value
    | some time => .ok time
  else .ok now

/-- `_map_task`. -/
def mapTask (reading : Reading) (now : DateTime) (task : List (String × Json)) :
    Except ClientError CustomerAgentTask := do
  let status ← requireObject "task.status" (Json.get task "status")
  let state ← remoteState (reading.str ((Json.item? (.obj status) "state").getD (.str "")))
  let updated := Json.get (Json.get task "metadata").asObject "updatedAt"
  let updatedAt ← readTime reading now
    (if Json.truthy updated then updated else Json.get status "timestamp")
  let artifact ← firstArtifact (Json.get task "artifacts")
  match Json.item? (.obj task) "id" with
  | none => throw .key
  | some id =>
    pure { remoteTaskId := reading.str id, state
           approvalPath := shownPath (Json.get status "message")
           artifact := artifact.bind objectFields?, updatedAt }

/-! ## A stored task -/

def TaskState.remote : TaskState → RemoteState
  | .authRequired => .authRequired
  | .working => .working
  | .completed => .completed
  | .failed => .failed
  | .canceled => .canceled

lemma remoteState_text (state : TaskState) : remoteState state.text = .ok state.remote := by
  cases state <;> rfl

/-- The timestamps that the agent writes can be read. -/
structure Reading.Reads (reading : Reading) (agent : Packages) : Prop where
  parsed : ∀ time, ∃ time', reading.parseTime (agent.isoformat time) = some time'
  nonempty : ∀ time, agent.isoformat time ≠ ""

section
variable {agent : Packages} {quote : String → String} {reading : Reading} {t : TaskRecord}

/-- The data of a message with its path replaced, if it has one. -/
def withPath (path : String) (data : List (String × Json)) : List (String × Json) :=
  data.map fun g => if g.1 = "approval_path" then (g.1, .str path) else g

lemma publicStatus_reply {time : DateTime} {data : List (String × Json)} {id : String}
    (hs : t.status = statusOf agent t.state time (replyTo t data id)) :
    publicStatus agent quote t =
      statusOf agent t.state time (replyTo t (withPath (approvalPath agent quote t) data) id) := by
  rw [publicStatus, hs]
  simp [statusOf, replyTo, Json.alter, Json.alterFirst, withPath]

lemma approvalPath_ne_empty : approvalPath agent quote t ≠ "" := by
  unfold approvalPath
  intro h
  split at h
  all_goals
    have hl := congrArg String.toList h
    simp at hl

/-- The path is shown while the customer is asked, and only then. -/
lemma shownPath_presented {data : List (String × Json)} {id : String}
    (hask : t.state = .authRequired → data = askData t)
    (hother : t.state ≠ .authRequired → ∀ f ∈ data, f.1 ≠ "approval_path") :
    shownPath (replyTo t (withPath (approvalPath agent quote t) data) id) =
      if t.state = .authRequired then some (approvalPath agent quote t) else none := by
  have hshown : shownPath (replyTo t (withPath (approvalPath agent quote t) data) id) =
      pathOf (Json.get (withPath (approvalPath agent quote t) data) "approval_path") := rfl
  rw [hshown]
  split_ifs with hs
  · rw [hask hs]
    exact if_neg approvalPath_ne_empty
  · have hnone : Json.get (withPath (approvalPath agent quote t) data) "approval_path" = .null := by
      have hfind : (withPath (approvalPath agent quote t) data).find?
          (fun f => f.1 = "approval_path") = none := by
        refine List.find?_eq_none.mpr fun f hf => ?_
        obtain ⟨g, hg, rfl⟩ := List.mem_map.mp hf
        simp [hother hs g hg]
      rw [Json.get, hfind]
      rfl
    rw [hnone]
    rfl

/-- The mandate that a task shows. -/
def shownMandate (task : TaskRecord) : Option (List (String × Json)) :=
  match firstArtifact (.arr task.artifacts) with
  | .ok artifact => artifact.bind objectFields?
  | .error _ => none

lemma firstArtifact_wellFormed (hw : WellFormed agent t) :
    ∃ artifact, firstArtifact (.arr t.artifacts) = .ok artifact := by
  have hsigned : ∀ d rest, ∃ artifact,
      firstArtifact (.arr (signedArtifact agent d :: rest)) = .ok artifact := fun d rest => ⟨_, rfl⟩
  unfold WellFormed at hw
  split at hw
  · rw [hw]
    exact ⟨_, rfl⟩
  · obtain ⟨d, ha, -⟩ := hw
    exact ha ▸ hsigned d []
  · obtain ⟨d, id, receipt, ha, -⟩ := hw
    exact ha ▸ hsigned d _
  · rcases hw with ha | ⟨d, ha, -⟩
    · rw [ha]
      exact ⟨_, rfl⟩
    · exact ha ▸ hsigned d []
  · exact hw.elim

/-- What the client makes of a task that the agent has stored. -/
theorem mapTask_publicTask (hr : reading.Reads agent) (hw : WellFormed agent t)
    (hp : Presented agent t) (quote : String → String) (now : DateTime) :
    ∃ updatedAt, mapTask reading now (publicTask agent quote t) = .ok
      { remoteTaskId := t.id, state := t.state.remote
        approvalPath := if t.state = .authRequired then some (approvalPath agent quote t) else none
        artifact := shownMandate t, updatedAt } := by
  obtain ⟨time, id, data, hstatus, hask, hother⟩ := hp.status
  obtain ⟨artifact, hartifact⟩ := firstArtifact_wellFormed hw
  obtain ⟨updatedAt, hparsed⟩ := hr.parsed { t.updatedAt with offset := 0 }
  have hstatus' : Json.get (publicTask agent quote t) "status" =
      statusOf agent t.state time (replyTo t (withPath (approvalPath agent quote t) data) id) :=
    publicStatus_reply hstatus
  have hmeta : Json.get (Json.get (publicTask agent quote t) "metadata").asObject "updatedAt" =
      .str (agent.isoformat { t.updatedAt with offset := 0 }) := rfl
  have harts : Json.get (publicTask agent quote t) "artifacts" = .arr t.artifacts := rfl
  have hid : Json.item? (.obj (publicTask agent quote t)) "id" = some (.str t.id) := rfl
  have htime : readTime reading now (if Json.truthy (.str (agent.isoformat
        { t.updatedAt with offset := 0 })) then .str (agent.isoformat
        { t.updatedAt with offset := 0 }) else .str (agent.isoformat time)) = .ok updatedAt := by
    have htruthy : Json.truthy (.str (agent.isoformat { t.updatedAt with offset := 0 })) = true :=
      decide_eq_true (hr.nonempty _)
    rw [if_pos htruthy, readTime, if_pos htruthy, Reading.str, hparsed]
  refine ⟨updatedAt, ?_⟩
  rw [← shownPath_presented hask hother, shownMandate, hartifact, mapTask, hstatus', hmeta, harts, hid, hartifact]
  show (remoteState t.state.text >>= fun state => readTime reading now _ >>= fun updatedAt => _) = _
  rw [remoteState_text]
  show (readTime reading now _ >>= fun updatedAt => _) = _
  rw [show Json.get _ "timestamp" = .str (agent.isoformat time) from rfl, htime]
  rfl

end

end RecoveryOS.CustomerAgent
