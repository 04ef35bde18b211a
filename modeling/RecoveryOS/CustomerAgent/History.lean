import RecoveryOS.CustomerAgent.Lifecycle
import RecoveryOS.CustomerAgent.Equality

/-!
# The history of a task

A task is asked for by the message of a request, and completed by that of one receipt: these are its
history (`Recorded`). Its status says what state it is in, and names the path to approve it by only
while the customer is asked (`Presented`). Both are kept however the operations are interleaved.
Messages are compared as Python compares what was read from JSON.
-/

namespace RecoveryOS.CustomerAgent

open Resume RecoveryOS.Json

/-! ## Equal messages -/

section
variable {a b : Json}

lemma isText_of_same (h : same a b = true) (text : String) :
    Json.isText text a = Json.isText text b := by
  cases a <;> cases b
  case str.str s t =>
    simp only [same, sameLeaf, decide_eq_true_eq] at h
    rw [h]
  all_goals first
    | rfl
    | simp [same, sameLeaf, number?] at h

/-- The truth of a number is whether it is not zero. -/
lemma truthy_of_number {q : ℚ} (h : number? a = some q) : Json.truthy a = true ↔ q ≠ 0 := by
  cases a with
  | bool v => cases v <;> cases h <;> simp [Json.truthy]
  | int n =>
    cases h
    simp [Json.truthy]
  | num r =>
    cases h
    simp [Json.truthy]
  | _ => cases h

lemma truthy_of_sameLeaf (h : sameLeaf a b = true) : Json.truthy a = Json.truthy b := by
  unfold sameLeaf at h
  split at h
  · rfl
  · rw [of_decide_eq_true h]
  · rw [Bool.and_eq_true, decide_eq_true_eq] at h
    obtain ⟨q, hq⟩ := Option.isSome_iff_exists.mp h.1
    rw [Bool.eq_iff_iff, truthy_of_number hq, truthy_of_number (h.2 ▸ hq)]

lemma isEmpty_of_sameItems : ∀ {l l' : List Json}, sameItems l l' = true → l.isEmpty = l'.isEmpty
  | [], [], _ => rfl
  | _ :: _, _ :: _, _ => rfl
  | [], _ :: _, h => by simp [sameItems] at h
  | _ :: _, [], h => by simp [sameItems] at h

/-- An object with a name has it in every equal object. -/
lemma isEmpty_of_sameFields {l l' : List (String × Json)} (h : same (.obj l) (.obj l') = true) :
    l.isEmpty = l'.isEmpty := by
  cases l with
  | nil =>
    cases l' with
    | nil => rfl
    | cons f l' => simp [same, sameFields, lookup] at h
  | cons f l =>
    cases l' with
    | nil =>
      obtain ⟨name, v⟩ := f
      simp [same, sameFields, sameField, lookup] at h
    | cons _ _ => rfl

lemma truthy_of_same (h : same a b = true) : Json.truthy a = Json.truthy b := by
  cases a with
  | arr l =>
    cases b with
    | arr l' =>
      rw [same] at h
      rw [Json.truthy, Json.truthy, isEmpty_of_sameItems h]
    | _ => simp [same] at h
  | obj l =>
    cases b with
    | obj l' => rw [Json.truthy, Json.truthy, isEmpty_of_sameFields h]
    | _ => simp [same] at h
  | _ => exact truthy_of_sameLeaf (by simpa only [same] using h)

end

/-- `protocol_version` in `send_message`. -/
def Message.protocolVersion (m : Message) : Json :=
  let version := Json.get (m.parts.head m.nonempty) "protocol_version"
  if Json.truthy version then version else Json.get (m.parts.head m.nonempty) "protocolVersion"

/-- `nested_protocol`. -/
def Message.nestedProtocol (m : Message) : Json :=
  Json.get (Json.get (m.parts.head m.nonempty) "data").asObject "protocol_version"

def Message.IsRequest (m : Message) : Prop :=
  Json.isText "recovery.request.v2" m.protocolVersion = true

def Message.IsReceipt (m : Message) : Prop :=
  ¬ m.IsRequest ∧ (Json.isText "recovery.receipt.v2" m.protocolVersion
    || Json.isText "recovery.receipt.v2" m.nestedProtocol) = true

/-- The data of the first part of equal messages. -/
lemma part_of_same {m m' : Message} (h : same m.modelDump m'.modelDump = true) :
    same (.obj (m.parts.head m.nonempty)) (.obj (m'.parts.head m'.nonempty)) = true := by
  obtain ⟨messageId, role, parts, taskId, contextId, hne⟩ := m
  obtain ⟨messageId', role', parts', taskId', contextId', hne'⟩ := m'
  have hparts : same (.arr (parts.map fun d => .obj [("data", .obj d)]))
      (.arr (parts'.map fun d => .obj [("data", .obj d)])) = true := get_of_same h "parts"
  rw [same] at hparts
  cases parts with
  | nil => exact absurd rfl hne
  | cons p ps =>
    cases parts' with
    | nil => exact absurd rfl hne'
    | cons p' ps' =>
      rw [List.map_cons, List.map_cons, sameItems, Bool.and_eq_true] at hparts
      exact get_of_same hparts.1 "data"

lemma isRequest_of_same {m m' : Message} (h : same m.modelDump m'.modelDump = true)
    (hm : m.IsRequest) : m'.IsRequest := by
  have hpart := part_of_same h
  have hv := get_of_same hpart "protocol_version"
  unfold Message.IsRequest Message.protocolVersion at *
  dsimp only at *
  rw [← truthy_of_same hv]
  split_ifs at hm ⊢
  · rwa [← isText_of_same hv]
  · rwa [← isText_of_same (get_of_same hpart "protocolVersion")]

/-! ## What is accepted -/

variable (pkgs : Packages)

/-- A message of a receipt that the agent trusts. -/
structure Trusted (m : Message) (signed : SignedRecoveryReceipt) : Prop where
  isReceipt : m.IsReceipt
  validated : pkgs.validateReceipt (m.parts.head m.nonempty) = some signed
  verified : verifyReceipt pkgs signed = .ok signed.data

/-- The task that a receipt is for. -/
def Message.address (m : Message) (signed : SignedRecoveryReceipt) : String :=
  (m.taskId.filter (· ≠ "")).getD signed.data.taskId

/-- What is done with a message that is no request. -/
def receiveReceipt (m : Message) : Op TaskRecord :=
  if (Json.isText "recovery.receipt.v2" m.protocolVersion
      || Json.isText "recovery.receipt.v2" m.nestedProtocol) = true then
    match pkgs.validateReceipt (m.parts.head m.nonempty) with
    | none => raise .validation
    | some signed =>
      match verifyReceipt pkgs signed with
      | .error reason => raise (.conflict reason)
      | .ok receipt => completeWithReceipt pkgs m signed receipt
  else raise (.conflict "unsupported recovery DataPart protocol_version")

/-- A request is sent to the customer, a receipt completes its task, and anything else is refused. -/
lemma sendMessage_cases (m : Message) :
    m.IsRequest ∨ (∃ signed, Trusted pkgs m signed ∧
      sendMessage pkgs m = completeWithReceipt pkgs m signed signed.data) ∨
    ((∀ signed, ¬ Trusted pkgs m signed) ∧ ∃ e, sendMessage pkgs m = raise e) := by
  by_cases hreq : m.IsRequest
  · exact .inl hreq
  · right
    have hreq' : ¬ Json.isText "recovery.request.v2" m.protocolVersion = true := hreq
    have hsend : sendMessage pkgs m = receiveReceipt pkgs m := if_neg hreq'
    unfold receiveReceipt at hsend
    by_cases hrec : m.IsReceipt
    · rw [if_pos hrec.2] at hsend
      cases hval : pkgs.validateReceipt (m.parts.head m.nonempty) with
      | none =>
        rw [hval] at hsend
        refine .inr ⟨fun signed ht => ?_, _, hsend⟩
        rw [ht.validated] at hval
        cases hval
      | some signed =>
        rw [hval] at hsend
        cases hver : verifyReceipt pkgs signed with
        | error reason =>
          simp only [hver] at hsend
          refine .inr ⟨fun signed' ht => ?_, _, hsend⟩
          rw [ht.validated] at hval
          obtain rfl := Option.some.inj hval
          rw [ht.verified] at hver
          cases hver
        | ok receipt =>
          obtain rfl := verifyReceipt_data hver
          simp only [hver] at hsend
          exact .inl ⟨signed, ⟨hrec, hval, hver⟩, hsend⟩
    · have hrec' : ¬ (Json.isText "recovery.receipt.v2" m.protocolVersion
          || Json.isText "recovery.receipt.v2" m.nestedProtocol) = true := fun h => hrec ⟨hreq, h⟩
      rw [if_neg hrec'] at hsend
      exact .inr ⟨fun signed ht => hrec ht.isReceipt, _, hsend⟩

/-- The task as a message has completed it: one receipt was added to the mandate, for exactly what
was mandated, and one message to the request. -/
structure CompletedBy (t : TaskRecord) (m : Message) (signed : SignedRecoveryReceipt) : Prop where
  trusted : Trusted pkgs m signed
  state : t.state = .completed
  receiptId : m.messageId = signed.data.receiptId
  address : m.address signed = t.id
  artifacts : ∃ d id, Mandated pkgs t d ∧ Matches d signed.data ∧
    t.artifacts = [signedArtifact pkgs d, receiptArtifact pkgs id signed]
  history : ∃ m₀ : Message, m₀.IsRequest ∧ m₀.messageId ≠ m.messageId ∧
    t.history = [m₀.modelDump, m.modelDump]

/-- Where the history of a task comes from. -/
def Recorded (t : TaskRecord) : Prop :=
  if t.state = .completed then ∃ m signed, CompletedBy pkgs t m signed
  else ∃ m₀ : Message, m₀.IsRequest ∧ t.history = [m₀.modelDump]

variable {pkgs} {t t' : TaskRecord}

lemma CompletedBy.congr {m : Message} {signed : SignedRecoveryReceipt}
    (h : CompletedBy pkgs t m signed) (hid : t'.id = t.id) (hr : t'.request = t.request)
    (hs : t'.state = t.state) (ha : t'.artifacts = t.artifacts) (hh : t'.history = t.history) :
    CompletedBy pkgs t' m signed := by
  obtain ⟨d, id, hd, hm, harts⟩ := h.artifacts
  obtain ⟨m₀, hreq, hne, hhist⟩ := h.history
  exact ⟨h.trusted, hs.trans h.state, h.receiptId, h.address.trans hid.symm,
    ⟨d, id, hd.congr hid hr, hm, ha.trans harts⟩, ⟨m₀, hreq, hne, hh.trans hhist⟩⟩

lemma Recorded.revised (h : Recorded pkgs t) (n : ℕ) : Recorded pkgs { t with revision := n } := by
  unfold Recorded at h ⊢
  split_ifs at h ⊢ with hs
  · obtain ⟨m, signed, hacc⟩ := h
    exact ⟨m, signed, hacc.congr rfl rfl rfl rfl rfl⟩
  · exact h

lemma Recorded.accepted (h : Recorded pkgs t) (hs : t.state = .completed) :
    ∃ m signed, CompletedBy pkgs t m signed := by
  rwa [Recorded, if_pos hs] at h

lemma Recorded.request (h : Recorded pkgs t) (hs : t.state ≠ .completed) :
    ∃ m₀ : Message, m₀.IsRequest ∧ t.history = [m₀.modelDump] := by
  rwa [Recorded, if_neg hs] at h

/-! ## What is shown -/

/-- `_agent_message`, with the id that was drawn. -/
def replyTo (task : TaskRecord) (data : List (String × Json)) (id : String) : Json :=
  .obj [("messageId", .str ("msg_" ++ id)), ("role", .str "ROLE_AGENT"),
    ("taskId", .str task.id), ("contextId", .str task.contextId),
    ("parts", .arr [.obj [("data", .obj data)]])]

/-- What a task says while the customer is asked. -/
def askData (task : TaskRecord) : List (String × Json) :=
  [("protocol_version", .str "recovery.authorization-required.v1"),
    ("approval_path", .str ("/a2a/" ++ task.id)), ("case_id", .str task.request.caseId)]

variable (pkgs) in
/-- The status is about the state that the task is in, and a task that is worked on shows the mandate
that was signed for it. -/
structure Presented (t : TaskRecord) : Prop where
  status : ∃ time id data, t.status = statusOf pkgs t.state time (replyTo t data id) ∧
    (t.state = .authRequired → data = askData t) ∧
    (t.state ≠ .authRequired → ∀ f ∈ data, f.1 ≠ "approval_path")
  mandate : t.state = .working →
    ∃ d, t.artifacts = [signedArtifact pkgs d] ∧ Mandated pkgs t d ∧ d.valid = true

lemma Presented.revised (h : Presented pkgs t) (n : ℕ) :
    Presented pkgs { t with revision := n } := by
  refine ⟨h.status, fun hs => ?_⟩
  obtain ⟨d, ha, hd, hv⟩ := h.mandate hs
  exact ⟨d, ha, hd.congr rfl rfl, hv⟩

/-- A task after a reply to it, which is not asking. -/
lemma presented_reply {time : A2A.DateTime} {id : String} {data : List (String × Json)}
    (hstatus : t.status = statusOf pkgs t.state time (replyTo t data id))
    (hs : t.state ≠ .authRequired) (hdata : ∀ f ∈ data, f.1 ≠ "approval_path")
    (hd : t.state = .working →
      ∃ d, t.artifacts = [signedArtifact pkgs d] ∧ Mandated pkgs t d ∧ d.valid = true) :
    Presented pkgs t :=
  ⟨⟨time, id, data, hstatus, fun h => absurd h hs, fun _ => hdata⟩, hd⟩

variable (pkgs) in
/-- What is known of every task. -/
structure Traced (t : TaskRecord) : Prop where
  recorded : Recorded pkgs t
  presented : Presented pkgs t

lemma Traced.revised (h : Traced pkgs t) (n : ℕ) : Traced pkgs { t with revision := n } :=
  ⟨h.recorded.revised n, h.presented.revised n⟩

/-! ## The operations -/

/-- The tasks that an operation has saved, as they are then stored. -/
def saves (h : Log) : List TaskRecord :=
  h.filterMap fun
    | ⟨.save task expected, true⟩ => some { task with revision := expected + 1 }
    | _ => none

variable (pkgs) in
/-- An operation relies on the histories of the tasks that it reads, and saves no other ones. -/
def historyContract : Contract Call Call.Reply (Option Raised) where
  rely
    | .get taskId, x =>
      ∀ task, x = some task → task.id = taskId ∧ WellFormed pkgs task ∧ Traced pkgs task
    | _, _ => True
  guarantee h
    | .createOnce _ task => task.state = .authRequired ∧ task.artifacts = [] ∧ Traced pkgs task
    | .save task expected =>
      ∃ t ∈ reads h, expected = t.revision ∧ Move pkgs t task ∧ Traced pkgs task
    | _ => True
  fails _ := True

section
variable {α : Type} {Q : Log → α → Prop} {h : Log} {s : Option Raised} {m : Message}

lemma now_records {f : A2A.DateTime → Op α}
    (hf : ∀ time s h', h <+: h' → (f time s).Keeps (historyContract pkgs) Q h') :
    ((now >>= f) s).Keeps (historyContract pkgs) Q h :=
  ⟨trivial, fun x _ => hf _ s _ (List.prefix_append h [⟨.now, x⟩])⟩

lemma uuid4_records {f : String → Op α}
    (hf : ∀ id s h', h <+: h' → (f id s).Keeps (historyContract pkgs) Q h') :
    ((uuid4 >>= f) s).Keeps (historyContract pkgs) Q h :=
  ⟨trivial, fun x _ => hf x s _ (List.prefix_append h [⟨.uuid4, x⟩])⟩

lemma tokenUrlsafe_records {f : String → Op α}
    (hf : ∀ token s h', h <+: h' → (f token s).Keeps (historyContract pkgs) Q h') :
    ((tokenUrlsafe >>= f) s).Keeps (historyContract pkgs) Q h :=
  ⟨trivial, fun x _ => hf x s _ (List.prefix_append h [⟨.tokenUrlsafe, x⟩])⟩

lemma agentMessage_records {task : TaskRecord} {data : List (String × Json)} {f : Json → Op α}
    (hf : ∀ id s h', h <+: h' →
      (f (replyTo task data id) s).Keeps (historyContract pkgs) Q h') :
    ((agentMessage task data >>= f) s).Keeps (historyContract pkgs) Q h :=
  ⟨trivial, fun x _ => hf _ s _ (List.prefix_append h [⟨.uuid4, x⟩])⟩

lemma getTask_records {taskId : String} {f : TaskRecord → Op α}
    (hf : ∀ task s h', task ∈ reads h' → task.id = taskId → WellFormed pkgs task →
      Traced pkgs task → (f task s).Keeps (historyContract pkgs) Q h') :
    ((getTask taskId >>= f) s).Keeps (historyContract pkgs) Q h := by
  refine Proc.Keeps.bind (Q := fun h' task => task ∈ reads h' ∧ task.id = taskId ∧
    WellFormed pkgs task ∧ Traced pkgs task)
    (fun h' s task ht => hf task s h' ht.1 ht.2.1 ht.2.2.1 ht.2.2.2) ?_
  refine ⟨trivial, fun x hx => ?_⟩
  cases x with
  | none => trivial
  | some task =>
    obtain ⟨hid, hw, hr⟩ := hx task rfl
    exact ⟨mem_reads (List.mem_append_right h List.mem_cons_self), hid, hw, hr⟩

lemma saveOnce_records {task t : TaskRecord} (ht : t ∈ reads h) (hm : Move pkgs t task)
    (hr : Traced pkgs task) :
    (saveOnce task t.revision s).Keeps (historyContract pkgs) (fun _ _ => True) h := by
  refine ⟨⟨t, ht, rfl, hm, hr⟩, fun saved _ => ?_⟩
  cases saved <;> trivial

/-- A task that is not completed keeps the history it has. -/
lemma Recorded.kept (hr : Recorded pkgs t) (hs : t.state ≠ .completed) (hs' : t'.state ≠ .completed)
    (hh : t'.history = t.history) : Recorded pkgs t' := by
  obtain ⟨m₀, hreq, hhist⟩ := hr.request hs
  rw [Recorded, if_neg hs']
  exact ⟨m₀, hreq, hh.trans hhist⟩

lemma createAuthorizationTask_records (hm : m.IsRequest) (request : RecoveryRequestData) :
    (createAuthorizationTask pkgs m request s).Keeps (historyContract pkgs) (fun _ _ => True) h := by
  refine now_records fun time s h₁ _ => ?_
  split_ifs
  · trivial
  · refine uuid4_records fun taskId s h₂ _ => uuid4_records fun messageId s h₃ _ => ?_
    refine ⟨⟨rfl, rfl, ?_⟩, fun x _ => ?_⟩
    · refine ⟨?_, ⟨_, messageId, _, rfl, fun _ => rfl, fun hs => absurd rfl hs⟩, fun hs => ?_⟩
      · rw [Recorded, if_neg (by simp)]
        exact ⟨m, hm, rfl⟩
      · simp at hs
    · cases x <;> trivial

lemma cancelAttempts_records (taskId reason : String) : ∀ (n : ℕ) (s : Option Raised) (h : Log),
    (cancelAttempts pkgs taskId reason n s).Keeps (historyContract pkgs) (fun _ _ => True) h
  | 0, _, _ => trivial
  | n + 1, s, h => by
    refine Proc.Keeps.bind (Q := fun _ _ => True) (fun h' s result _ => ?_) ?_
    · cases result with
      | some task => trivial
      | none => exact cancelAttempts_records taskId reason n s h'
    · refine getTask_records fun task s h₁ ht _ _ hr => ?_
      split_ifs with hend
      · trivial
      · obtain ⟨hc, hx⟩ := not_or.mp hend
        refine now_records fun time s h₂ hh₂ => agentMessage_records fun message s h₃ hh₃ => ?_
        refine ⟨⟨task, reads_mono hh₃ (reads_mono hh₂ ht), rfl, .cancel hc hx,
          hr.recorded.kept hc (by simp) rfl,
          presented_reply rfl (by simp) (by simp) (by simp)⟩, fun saved _ => ?_⟩
        cases saved <;> trivial

lemma authorizedTask_records {taskId : String} {token : Option String} {f : TaskRecord → Op α}
    (hf : ∀ task s h', task ∈ reads h' → Traced pkgs task →
      (f task s).Keeps (historyContract pkgs) Q h') :
    ((authorizedTask pkgs taskId token >>= f) s).Keeps (historyContract pkgs) Q h := by
  refine Proc.Keeps.bind (Q := fun h' task => task ∈ reads h' ∧ Traced pkgs task)
    (fun h' s task ht => hf task s h' ht.1 ht.2) ?_
  refine getTask_records fun task s h₁ ht _ _ hr => ?_
  cases pkgs.approvalToken task with
  | none => exact ⟨ht, hr⟩
  | some expected =>
    dsimp only
    split_ifs
    · trivial
    · refine now_records fun time s h₂ hh => ?_
      split_ifs
      · trivial
      · exact ⟨reads_mono hh ht, hr⟩

lemma decide_records (mandateTtl : ℤ) (taskId : String) (decision : ApprovalDecision)
    (token : Option String) :
    (decide pkgs mandateTtl taskId decision token s).Keeps (historyContract pkgs)
      (fun _ _ => True) h := by
  refine authorizedTask_records fun task s h₁ ht hr => ?_
  dsimp only
  split_ifs with hstate hscope hreject
  · trivial
  · trivial
  · have hauth : task.state = .authRequired := not_not.mp hstate
    refine now_records fun time s h₂ hh₂ => ?_
    split_ifs
    · trivial
    · refine agentMessage_records fun message s h₃ hh₃ => ?_
      exact saveOnce_records (reads_mono hh₃ (reads_mono hh₂ ht))
        (.cancel (by simp [hauth]) (by simp [hauth]))
        ⟨hr.recorded.kept (by simp [hauth]) (by simp) rfl,
          presented_reply rfl (by simp) (by simp) (by simp)⟩
  · have hauth : task.state = .authRequired := not_not.mp hstate
    refine now_records fun time s h₂ hh₂ => ?_
    split_ifs
    · trivial
    · refine uuid4_records fun mandateId s h₃ hh₃ => tokenUrlsafe_records fun nonce s h₄ hh₄ => ?_
      split_ifs with hvalid
      · trivial
      · have hd := mandateOf_mandated (by simpa using hvalid)
        cases hs : signMandate pkgs (mandateOf pkgs mandateTtl task time mandateId nonce) with
        | none => trivial
        | some signed =>
          refine agentMessage_records fun message s h₅ hh₅ => ?_
          rw [signMandate_eq hs]
          exact saveOnce_records
            (reads_mono hh₅ (reads_mono hh₄ (reads_mono hh₃ (reads_mono hh₂ ht))))
            (.approve hauth hd)
            ⟨hr.recorded.kept (by simp [hauth]) (by simp) rfl,
              presented_reply rfl (by simp) (by simp)
                fun _ => ⟨_, rfl, hd.congr rfl rfl, by simpa using hvalid⟩⟩

/-! ## The delivery -/

section
variable (hp : pkgs.sameDict = same)
include hp

/-- A message that is found to be a duplicate is equal to the one that completed the task. -/
lemma duplicate_true (hr : Recorded pkgs t) (hm : ¬ m.IsRequest)
    (hd : isDuplicateMessage pkgs t m = some true) :
    ∃ m' signed, CompletedBy pkgs t m' signed ∧ same m'.modelDump m.modelDump = true := by
  unfold isDuplicateMessage at hd
  split at hd
  · cases hd
  · next item hfind =>
    split_ifs at hd with hsame
    rw [hp] at hsame
    have hmem := List.mem_of_find?_eq_some hfind
    by_cases hs : t.state = .completed
    · obtain ⟨m', signed, hacc⟩ := hr.accepted hs
      obtain ⟨m₀, hreq, -, hhist⟩ := hacc.history
      rw [hhist] at hmem
      rcases List.mem_pair.mp hmem with rfl | rfl
      · exact absurd (isRequest_of_same hsame hreq) hm
      · exact ⟨m', signed, hacc, hsame⟩
    · obtain ⟨m₀, hreq, hhist⟩ := hr.request hs
      rw [hhist, List.mem_singleton] at hmem
      subst hmem
      exact absurd (isRequest_of_same hsame hreq) hm

end

/-- A message of the history has another id than one that is found to be none of them. -/
lemma duplicate_false {m₀ : Message} (hmem : m₀.modelDump ∈ t.history)
    (hd : isDuplicateMessage pkgs t m = some false) : m₀.messageId ≠ m.messageId := by
  unfold isDuplicateMessage at hd
  split at hd
  · next hfind =>
    intro he
    refine List.find?_eq_none.mp hfind _ hmem ?_
    show Json.isText m.messageId (.str m₀.messageId) = true
    rw [Json.isText_iff, he]
  · split_ifs at hd
    cases hd

/-- The task that a message was answered with: it was read or saved, and a message equal to this one
completed it. -/
def Delivered (pkgs : Packages) (m : Message) (h : Log) (t : TaskRecord) : Prop :=
  (t ∈ reads h ∨ t ∈ saves h) ∧
    ∃ m' signed, CompletedBy pkgs t m' signed ∧ same m'.modelDump m.modelDump = true

section
variable (hp : pkgs.sameDict = same)
include hp

lemma duplicateOr_records {other : Op TaskRecord} (hr : Traced pkgs t) (hm : ¬ m.IsRequest)
    (ht : t ∈ reads h) (ho : isDuplicateMessage pkgs t m = some false →
      (other s).Keeps (historyContract pkgs) (Delivered pkgs m) h) :
    (duplicateOr pkgs t m other s).Keeps (historyContract pkgs) (Delivered pkgs m) h := by
  unfold duplicateOr
  cases hd : isDuplicateMessage pkgs t m with
  | none => trivial
  | some duplicate =>
    cases duplicate with
    | true => exact ⟨.inl ht, duplicate_true hp hr.recorded hm hd⟩
    | false => exact ho hd

lemma completeWithReceipt_records {signed : SignedRecoveryReceipt} (hm : Trusted pkgs m signed) :
    (completeWithReceipt pkgs m signed signed.data s).Keeps (historyContract pkgs)
      (Delivered pkgs m) h := by
  refine getTask_records fun task s h₁ ht hid hw hr => ?_
  refine duplicateOr_records hp hr hm.isReceipt.1 ht fun hdup => ?_
  split_ifs with hstate hreceipt
  · trivial
  · trivial
  · have hworking : task.state = .working := not_not.mp hstate
    obtain ⟨d, ha, hd⟩ : ∃ d, task.artifacts = [signedArtifact pkgs d] ∧ Mandated pkgs task d := by
      simpa [WellFormed, hworking] using hw
    obtain ⟨m₀, hreq, hhist⟩ := hr.recorded.request (by simp [hworking])
    have hne : m₀.messageId ≠ m.messageId := duplicate_false (by simp [hhist]) hdup
    rw [mandateData_eq ha]
    show Proc.Keeps _ _ _ ((if receiptMatches task (.str d.mandateId) (.str d.recoveryActionId)
      (.str d.failedInvoiceId) signed.data = false then _ else _ : Op TaskRecord) s)
    split_ifs with hmatch
    · trivial
    · have hmatches := matches_of_receiptMatches hd (by simpa using hmatch)
      refine now_records fun time s h₂ hh₂ => uuid4_records fun id s h₃ hh₃ =>
        agentMessage_records fun reply s h₄ hh₄ => ?_
      -- the task as it is saved, with any status and revision
      have hacc : ∀ status n, CompletedBy pkgs
          { task with
            state := .completed, artifacts := task.artifacts ++ [receiptArtifact pkgs id signed]
            history := task.history ++ [m.modelDump]
            status, updatedAt := time, revision := n }
          m signed := by
        intro status n
        refine ⟨hm, rfl, not_not.mp hreceipt, hid.symm, ⟨d, id, hd.congr rfl rfl, hmatches, ?_⟩,
          ⟨m₀, hreq, hne, ?_⟩⟩
        · show task.artifacts ++ _ = _
          rw [ha]
          rfl
        · show task.history ++ _ = _
          rw [hhist]
          rfl
      refine ⟨⟨task, reads_mono hh₄ (reads_mono hh₃ (reads_mono hh₂ ht)), rfl,
        .complete hworking ha hd hmatches, ?_⟩, fun saved _ => ?_⟩
      · refine ⟨?_, presented_reply rfl (by simp) (by simp) (by simp)⟩
        rw [Recorded, if_pos rfl]
        exact ⟨m, signed, hacc _ task.revision⟩
      · cases saved with
        | true =>
          refine ⟨.inr (List.mem_filterMap.mpr ⟨_, List.mem_append_right _ List.mem_cons_self, rfl⟩),
            m, signed, hacc _ _, same_refl _⟩
        | false =>
          refine getTask_records fun latest s h₆ hl _ _ hr' => ?_
          exact duplicateOr_records hp hr' hm.isReceipt.1 hl fun _ => trivial

end

lemma sendMessage_request (hm : m.IsRequest) :
    sendMessage pkgs m = match pkgs.validateRequest (m.parts.head m.nonempty) with
      | none => raise .validation
      | some request => createAuthorizationTask pkgs m request := by
  have hm' : Json.isText "recovery.request.v2" m.protocolVersion = true := hm
  exact if_pos hm'

section
variable (hp : pkgs.sameDict = same)
include hp

/-- A receipt is delivered, or refused. -/
lemma sendMessage_delivers (hm : ¬ m.IsRequest) :
    (sendMessage pkgs m s).Keeps (historyContract pkgs) (Delivered pkgs m) h := by
  rcases sendMessage_cases pkgs m with hreq | ⟨signed, ht, he⟩ | ⟨-, e, he⟩
  · exact absurd hreq hm
  · rw [he]
    exact completeWithReceipt_records hp ht
  · rw [he]
    trivial

/-- Every operation keeps the contract. -/
theorem starts_record {mandateTtl : ℤ} : ∀ p, Starts pkgs mandateTtl p →
    p.Keeps (historyContract pkgs) (fun _ _ => True) []
  | _, .sendMessage m => by
    by_cases hm : m.IsRequest
    · rw [sendMessage_request hm]
      cases pkgs.validateRequest (m.parts.head m.nonempty) with
      | none => trivial
      | some request => exact createAuthorizationTask_records hm request
    · exact Proc.Keeps.mono (fun _ _ _ => trivial) (sendMessage_delivers hp hm)
  | _, .decide taskId decision token => decide_records mandateTtl taskId decision token
  | _, .cancelTask taskId reason => cancelAttempts_records taskId reason 3 none []
  | _, .getTask taskId => by
    refine ⟨trivial, fun x _ => ?_⟩
    cases x <;> trivial

end

end

/-! ## The store -/

section
variable {w w' : Store} {h : Log} {r : Call} {x : r.Reply}

lemma historyContract_guarantee (hg : (historyContract pkgs).guarantee h r) :
    (contract pkgs).guarantee h r := by
  cases r with
  | createOnce key task => exact ⟨hg.1, hg.2.1⟩
  | save task expected =>
    obtain ⟨t, ht, he, hm, -⟩ := hg
    exact ⟨t, ht, he, hm⟩
  | _ => trivial

/-- A task that is completed stays as it is. -/
lemma Changes.frozen (hc : Changes pkgs w w') {id : String} (ht : w.tasks id = some t)
    (hs : t.state = .completed) : w'.tasks id = some t := by
  rcases hc id with he | ⟨hn, -⟩ | ⟨t₁, t₂, h₁, hm, -⟩
  · exact he.trans ht
  · rw [ht] at hn
    cases hn
  · rw [ht] at h₁
    obtain rfl := Option.some.inj h₁
    cases hm with
    | cancel h h' => exact absurd hs h
    | approve h hd => simp [h] at hs
    | complete h ha hd hr => simp [h] at hs

lemma frozen_run (hrun : Relation.ReflTransGen (Changes pkgs) w w') {id : String}
    (ht : w.tasks id = some t) (hs : t.state = .completed) : w'.tasks id = some t := by
  induction hrun with
  | refl => exact ht
  | tail _ hc ih => exact hc.frozen ih hs

lemma put_traced {task : TaskRecord} (hw : ∀ id t, w.tasks id = some t → Traced pkgs t)
    (hr : Traced pkgs task) : ∀ id t, (w.put task).tasks id = some t → Traced pkgs t := by
  intro id t ht
  change Function.update w.tasks task.id (some task) id = some t at ht
  rw [Function.update_apply] at ht
  split_ifs at ht
  · exact Option.some.inj ht ▸ hr
  · exact hw id t ht

/-- What is stored was stored before, or is what a call has stored. -/
lemma answer_traced (hw : ∀ id t, w.tasks id = some t → Traced pkgs t)
    (hg : (historyContract pkgs).guarantee h r) (ha : Store.Answer pkgs w r x w') :
    ∀ id t, w'.tasks id = some t → Traced pkgs t := by
  cases r with
  | now => exact ha ▸ hw
  | uuid4 => exact ha ▸ hw
  | tokenUrlsafe => exact ha ▸ hw
  | get taskId => exact ha.2 ▸ hw
  | createOnce key task =>
    obtain ⟨rfl, -⟩ := Prod.mk.inj ha.2
    split
    · split
      · exact hw
      · split_ifs <;> exact hw
    · exact put_traced hw (hg.2.2.revised 1)
  | save task expected =>
    obtain ⟨t, ht, rfl, hm, hr⟩ := hg
    obtain ⟨rfl, -⟩ := Prod.mk.inj ha
    split
    · exact hw
    · split_ifs
      · exact hw
      · exact put_traced hw (hr.revised _)

variable (pkgs) in
/-- What the exchanges of an operation tell about the store. -/
structure Told (w : Store) (h : Log) : Prop where
  fresh : Fresh w h
  stored : ∀ t, t ∈ reads h ∨ t ∈ saves h → t.state = .completed → w.tasks t.id = some t
  relied : ∀ e ∈ h, (historyContract pkgs).rely e.1 e.2

lemma Told.changes (hk : Told pkgs w h) (hc : Changes pkgs w w') : Told pkgs w' h :=
  ⟨hc.fresh hk.fresh, fun t ht hs => hc.frozen (hk.stored t ht hs) hs, hk.relied⟩

/-- A completed task that an operation has just read or saved is in the store. -/
lemma answer_stored (hw : ∀ {id t}, w.tasks id = some t → t.id = id ∧ WellFormed pkgs t)
    (ha : Store.Answer pkgs w r x w') (ht : t ∈ reads [⟨r, x⟩] ∨ t ∈ saves [⟨r, x⟩]) :
    w'.tasks t.id = some t := by
  rcases ht with ht | ht
  · obtain ⟨e, he, hread⟩ := List.mem_filterMap.mp ht
    obtain rfl := List.mem_singleton.mp he
    cases r with
    | get taskId =>
      obtain ⟨hx, rfl⟩ := ha
      have ht' : w'.tasks taskId = some t := hx.symm.trans hread
      rw [(hw ht').1]
      exact ht'
    | _ => cases hread
  · obtain ⟨e, he, hsave⟩ := List.mem_filterMap.mp ht
    obtain rfl := List.mem_singleton.mp he
    cases r with
    | save task expected =>
      cases x with
      | false => cases hsave
      | true =>
        obtain rfl := Option.some.inj hsave
        have hsaved : (w', true) = w.save task expected := ha
        unfold Store.save at hsaved
        split at hsaved
        · cases hsaved
        · split_ifs at hsaved
          · cases hsaved
          · obtain ⟨rfl, -⟩ := Prod.mk.inj hsaved
            exact Function.update_self _ _ _
    | _ => cases hsave

lemma reads_append (h h' : Log) : reads (h ++ h') = reads h ++ reads h' := List.filterMap_append

lemma saves_append (h h' : Log) : saves (h ++ h') = saves h ++ saves h' := List.filterMap_append

variable (pkgs) in
/-- What holds of the store at all times, with the histories. -/
def KeptRecords (w : Store) : Prop :=
  Kept pkgs w ∧ ∀ id t, w.tasks id = some t → Traced pkgs t

/-- The store answers the operations as they rely on. -/
theorem history_discipline (hp : pkgs.sameDict = same) (mandateTtl : ℤ) :
    Discipline (Store.Answer pkgs) (Starts pkgs mandateTtl) (historyContract pkgs)
      (KeptRecords pkgs) (Told pkgs) (fun _ _ => True) (Changes pkgs) := by
  have hbase := store_discipline pkgs mandateTtl
  have htold : ∀ w, KeptRecords pkgs w → Told pkgs w [] := by
    refine fun w hw => ⟨hbase.told w hw.1, fun t ht => ?_, fun e he => (by cases he)⟩
    rcases ht with ht | ht <;> cases ht
  refine ⟨starts_record hp, htold, fun _ => ⟨trivial, trivial⟩,
    fun {w w' h r x} hw hk hg ha => ?_,
    fun {w w' h h' r x} hw hk hk' _ _ hg ha => ?_⟩
  · obtain ⟨hrely, hw', hfresh, hc⟩ := hbase.own hw.1 hk.fresh (historyContract_guarantee hg) ha
    have hrely' : (historyContract pkgs).rely r x := by
      cases r with
      | get taskId =>
        intro task htask
        obtain ⟨hid, hwf⟩ := hrely task htask
        exact ⟨hid, hwf, hw.2 taskId task (ha.1.symm.trans htask)⟩
      | _ => trivial
    have hk₁ := hk.changes hc
    refine ⟨hrely', ⟨hw', answer_traced hw.2 hg ha⟩, ⟨hfresh, fun t ht hs => ?_, ?_⟩, hc⟩
    · rw [reads_append, saves_append, List.mem_append, List.mem_append] at ht
      rcases ht with (ht | ht) | (ht | ht)
      · exact hk₁.stored t (.inl ht) hs
      · exact answer_stored hw.1.task ha (.inl ht)
      · exact hk₁.stored t (.inr ht) hs
      · exact answer_stored hw.1.task ha (.inr ht)
    · intro e he
      rcases List.mem_append.mp he with he | he
      · exact hk.relied e he
      · rw [List.mem_singleton.mp he]
        exact hrely'
  · obtain ⟨-, -, -, hc⟩ := hbase.own hw.1 hk.fresh (historyContract_guarantee hg) ha
    exact ⟨hk'.changes hc, trivial, trivial⟩

end

end RecoveryOS.CustomerAgent
