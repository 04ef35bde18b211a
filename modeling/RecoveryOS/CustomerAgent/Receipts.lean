import RecoveryOS.CustomerAgent.History

/-!
# The delivery of a receipt

A task is completed by the message of one receipt, and never changes again. So whatever else is going
on, a delivery ends in one of two ways: the task is the one that a message equal to this one
completed, or nothing was saved.
-/

namespace RecoveryOS.CustomerAgent

open Resume RecoveryOS.Json

variable {pkgs : Packages} {t : TaskRecord}

/-! ## All deliveries -/

section
variable {m : Message} {h : Log} {s : Option Raised}

/-- An exchange that saves nothing. -/
lemma saves_concat {r : Call} {x : r.Reply} (hs : saves h = []) (hx : saves [⟨r, x⟩] = []) :
    saves (h ++ [⟨r, x⟩]) = [] := by
  rw [saves_append, hs, hx]
  rfl

lemma now_pending {α : Type} {f : A2A.DateTime → Op α} (hs : saves h = [])
    (hf : ∀ time s h', saves h' = [] → (f time s).Pending (fun h => saves h = []) h') :
    ((now >>= f) s).Pending (fun h => saves h = []) h :=
  ⟨hs, fun _ => hf _ _ _ (saves_concat hs rfl)⟩

lemma uuid4_pending {α : Type} {f : String → Op α} (hs : saves h = [])
    (hf : ∀ id s h', saves h' = [] → (f id s).Pending (fun h => saves h = []) h') :
    ((uuid4 >>= f) s).Pending (fun h => saves h = []) h :=
  ⟨hs, fun _ => hf _ _ _ (saves_concat hs rfl)⟩

lemma agentMessage_pending {α : Type} {task : TaskRecord} {data : List (String × Json)}
    {f : Json → Op α} (hs : saves h = [])
    (hf : ∀ message s h', saves h' = [] → (f message s).Pending (fun h => saves h = []) h') :
    ((agentMessage task data >>= f) s).Pending (fun h => saves h = []) h :=
  ⟨hs, fun _ => hf _ _ _ (saves_concat hs rfl)⟩

lemma getTask_pending {α : Type} {taskId : String} {f : TaskRecord → Op α} (hs : saves h = [])
    (hf : ∀ task s h', saves h' = [] → (f task s).Pending (fun h => saves h = []) h') :
    ((getTask taskId >>= f) s).Pending (fun h => saves h = []) h := by
  refine ⟨hs, fun x => ?_⟩
  have hs' : saves (h ++ [⟨.get taskId, x⟩]) = [] := saves_concat hs rfl
  cases x with
  | none => exact hs'
  | some task => exact hf task _ _ hs'

lemma duplicateOr_pending {other : Op TaskRecord} (hs : saves h = [])
    (ho : (other s).Pending (fun h => saves h = []) h) :
    (duplicateOr pkgs t m other s).Pending (fun h => saves h = []) h := by
  unfold duplicateOr
  cases isDuplicateMessage pkgs t m with
  | none => exact hs
  | some duplicate =>
    cases duplicate with
    | true => trivial
    | false => exact ho

/-- Nothing is saved before a receipt is answered with its task. -/
lemma completeWithReceipt_pending {signed : SignedRecoveryReceipt} (hs : saves h = []) :
    (completeWithReceipt pkgs m signed signed.data s).Pending (fun h => saves h = []) h := by
  refine getTask_pending hs fun task s h₁ hs₁ => duplicateOr_pending hs₁ ?_
  split_ifs
  · exact hs₁
  · exact hs₁
  · cases mandateData task with
    | none => exact hs₁
    | some data =>
      dsimp only
      rcases Json.item? data "mandate_id" with _ | mandateId
      · exact hs₁
      rcases Json.item? data "recovery_action_id" with _ | recoveryActionId
      · exact hs₁
      rcases Json.item? data "failed_invoice_id" with _ | failedInvoiceId
      · exact hs₁
      dsimp only
      split_ifs
      · exact hs₁
      · refine now_pending hs₁ fun time s h₂ hs₂ => uuid4_pending hs₂ fun id s h₃ hs₃ =>
          agentMessage_pending hs₃ fun reply s h₄ hs₄ => ⟨hs₄, fun saved => ?_⟩
        cases saved with
        | true => trivial
        | false =>
          refine getTask_pending (saves_concat hs₄ rfl) fun latest s h₆ hs₆ => ?_
          exact duplicateOr_pending hs₆ hs₆

lemma sendMessage_pending (hm : ¬ m.IsRequest) :
    (sendMessage pkgs m s).Pending (fun h => saves h = []) [] := by
  rcases sendMessage_cases pkgs m with hreq | ⟨signed, ht, he⟩ | ⟨-, e, he⟩
  · exact absurd hreq hm
  · rw [he]
    exact completeWithReceipt_pending rfl
  · rw [he]
    rfl

/-- Among the messages of a completed task, only that of its receipt has its id. -/
lemma duplicate_accepted {signed : SignedRecoveryReceipt} (hacc : CompletedBy pkgs t m signed)
    {m' : Message} (hid : m'.messageId = m.messageId) :
    isDuplicateMessage pkgs t m' =
      if pkgs.sameDict m.modelDump m'.modelDump then some true else none := by
  obtain ⟨m₀, -, hne, hhist⟩ := hacc.history
  have hfind : t.history.find? (fun item =>
      ((Json.item? item "messageId").map (Json.isText m'.messageId)).getD false)
      = some m.modelDump := by
    rw [hhist, List.find?_cons_of_neg, List.find?_cons_of_pos]
    · show Json.isText m'.messageId (.str m.messageId) = true
      rw [Json.isText_iff, hid]
    · show ¬ Json.isText m'.messageId (.str m₀.messageId) = true
      rw [Json.isText_iff, hid]
      exact hne
  unfold isDuplicateMessage
  rw [hfind]

/-- The delivery of a message with the id of an accepted one, to a task that is completed from the
start: what it is first told is that task. -/
lemma later_delivery {signed : SignedRecoveryReceipt} (hacc : CompletedBy pkgs t m signed)
    {m' : Message} (hm' : ¬ m'.IsRequest)
    (haddr : ∀ signed', Trusted pkgs m' signed' → m'.address signed' = t.id)
    {p : Proc Call Call.Reply (Option Raised) TaskRecord}
    (hf : Proc.Follows (sendMessage pkgs m' none) h p)
    (hget : ∀ x, (⟨.get t.id, x⟩ : Exchange Call Call.Reply) ∈ h → x = some t)
    (hid : m'.messageId = m.messageId) :
    (pkgs.sameDict m.modelDump m'.modelDump = false →
      (∀ s t', p ≠ .done s t') ∧ (h ≠ [] → ∃ e, p = .failed (some e))) ∧
    (pkgs.sameDict m.modelDump m'.modelDump = true → (∃ signed', Trusted pkgs m' signed') →
      h ≠ [] → ∃ s, p = .done s t) := by
  have hdup := duplicate_accepted hacc hid
  rcases sendMessage_cases pkgs m' with hreq | ⟨signed', ht, he⟩ | ⟨hno, e, he⟩
  · exact absurd hreq hm'
  · rw [he] at hf
    obtain ⟨k, other, hask, hk⟩ : ∃ k other,
        completeWithReceipt pkgs m' signed' signed'.data none
          = .await none (.get (m'.address signed')) k ∧
        k (some t) = duplicateOr pkgs t m' other none := ⟨_, _, rfl, rfl⟩
    rw [hask, haddr signed' ht] at hf
    rcases hf.await with ⟨rfl, rfl⟩ | ⟨x, h', rfl, hf'⟩
    · exact ⟨fun _ => ⟨fun s t' h => (by cases h), fun h => absurd rfl h⟩,
        fun _ _ h => absurd rfl h⟩
    · obtain rfl := hget x List.mem_cons_self
      rw [hk, duplicateOr, hdup] at hf'
      refine ⟨fun hne => ?_, fun hsame _ _ => ?_⟩
      · rw [if_neg (by simp [hne])] at hf'
        obtain ⟨-, rfl⟩ := hf'.failed
        exact ⟨fun s t' h => (by cases h), fun _ => ⟨_, rfl⟩⟩
      · rw [if_pos hsame] at hf'
        obtain ⟨-, rfl⟩ := hf'.done
        exact ⟨none, rfl⟩
  · rw [he] at hf
    obtain ⟨rfl, rfl⟩ := hf.failed
    exact ⟨fun _ => ⟨fun s t' h => (by cases h), fun h => absurd rfl h⟩,
      fun _ hsome => absurd hsome.choose_spec (hno _)⟩

lemma Trusted.unique {signed signed' : SignedRecoveryReceipt} (h : Trusted pkgs m signed)
    (h' : Trusted pkgs m signed') : signed' = signed :=
  Option.some.inj (h'.validated.symm.trans h.validated)

end

/-- The agent with Python's `==`. -/
def withEquality (pkgs : Packages) : Packages := { pkgs with sameDict := same }

/-- What a delivery has come to is the task that an equal message completed, or it has saved
nothing. -/
lemma delivery_outcome (pkgs : Packages) (hp : pkgs.sameDict = same) (mandateTtl : ℤ) {S : Agent}
    (hS : Relation.ReflTransGen (Agent.Step pkgs mandateTtl) ⟨{}, []⟩ S) {m : Message}
    (hm : ¬ m.IsRequest) {p : Proc Call Call.Reply (Option Raised) TaskRecord} {h : Log}
    (hmem : (p, h) ∈ S.clients) (hf : Proc.Follows (sendMessage pkgs m none) h p) :
    (∀ s t, p = .done s t → S.shared.tasks t.id = some t ∧
      ∃ m' signed, CompletedBy pkgs t m' signed ∧ same m'.modelDump m.modelDump = true) ∧
    ((∀ s t, p ≠ .done s t) → saves h = []) := by
  obtain ⟨hsound, -⟩ := (history_discipline hp mandateTtl).run
    (.nil ⟨⟨fun h => (by cases h), fun h => (by cases h)⟩, fun id t h => (by cases h)⟩) hS
  obtain ⟨i, hi⟩ := List.mem_iff_getElem?.mp hmem
  have htold := (hsound.client hi).1
  refine ⟨?_, fun hnot => (hf.pending (sendMessage_pending hm)).now hnot⟩
  rintro s t rfl
  obtain ⟨hwhere, m', signed, hacc, hsame⟩ :=
    hf.keeps (sendMessage_delivers hp hm) htold.relied
  exact ⟨htold.stored t hwhere hacc.state, m', signed, hacc, hsame⟩

/-- However the operations of any number of clients are interleaved: a delivery of a receipt that is
answered with a task is answered with one that is stored and that an equal message completed, and
until it is so answered it has saved nothing. A completed task holds the one receipt of its message,
with one entry for it in the history, and stays as it is. A delivery that starts when the task is
completed, to that task and with the id of that message, is answered with the task if the message is
equal and the receipt is trusted; if the message is not equal, it is refused. -/
theorem receipt_delivery (pkgs : Packages) (mandateTtl : ℤ) {S S' : Agent}
    (hS : Relation.ReflTransGen (Agent.Step (withEquality pkgs) mandateTtl) ⟨{}, []⟩ S)
    (hS' : Relation.ReflTransGen (Agent.Step (withEquality pkgs) mandateTtl) S S') :
    (∀ (m : Message) p h, ¬ m.IsRequest → (p, h) ∈ S.clients →
      Proc.Follows (sendMessage (withEquality pkgs) m none) h p →
      (∀ s t, p = .done s t → S.shared.tasks t.id = some t ∧
        ∃ m' signed, CompletedBy (withEquality pkgs) t m' signed ∧
          same m'.modelDump m.modelDump = true) ∧
      ((∀ s t, p ≠ .done s t) → saves h = [])) ∧
    ∀ id t, S.shared.tasks id = some t → t.state = .completed →
      S'.shared.tasks id = some t ∧ ∃ m signed, CompletedBy (withEquality pkgs) t m signed ∧
        ∀ (m' : Message) i p h, ¬ m'.IsRequest → S.clients.length ≤ i →
          S'.clients[i]? = some (p, h) →
          Proc.Follows (sendMessage (withEquality pkgs) m' none) h p →
          m'.messageId = m.messageId →
          (∀ signed', Trusted (withEquality pkgs) m' signed' → m'.address signed' = t.id) →
          (same m.modelDump m'.modelDump = true →
            (∃ signed', Trusted (withEquality pkgs) m' signed') → h ≠ [] → ∃ s, p = .done s t) ∧
          (same m.modelDump m'.modelDump = false →
            (∀ s t', p ≠ .done s t') ∧ (h ≠ [] → ∃ e, p = .failed (some e))) := by
  have hp : (withEquality pkgs).sameDict = same := rfl
  have hdisc := history_discipline hp mandateTtl
  obtain ⟨hsound, -⟩ := hdisc.run
    (.nil ⟨⟨fun h => (by cases h), fun h => (by cases h)⟩, fun id t h => (by cases h)⟩) hS
  refine ⟨fun m p h hm hmem hf => delivery_outcome _ hp mandateTtl hS hm hmem hf,
    fun id t ht hs => ?_⟩
  obtain ⟨-, hchanges⟩ := hdisc.run hsound hS'
  obtain ⟨m, signed, hacc⟩ := (hsound.inv.2 id t ht).recorded.accepted hs
  refine ⟨frozen_run hchanges ht hs, m, signed, hacc, fun m' i p h hm' hi hp' hf hid haddr => ?_⟩
  have hid' : t.id = id := (hsound.inv.1.task ht).1
  -- the task is as it is at every state from here on, so all are told so
  have hget : ∀ e ∈ h, ∀ x, e = ⟨.get t.id, x⟩ → x = some t := by
    refine (System.since_run (P := fun e => ∀ x, e = ⟨.get t.id, x⟩ → x = some t)
      (fun S₁ hS₁ r x w' ha y he => ?_) hS').2 i p h hi hp'
    obtain ⟨-, hchanges₁⟩ := hdisc.run hsound hS₁
    cases he
    rw [hid'] at ha
    exact ha.1.trans (frozen_run hchanges₁ ht hs)
  obtain ⟨hdiffer, hequal⟩ :=
    later_delivery hacc hm' haddr hf (fun x hx => hget _ hx x rfl) hid
  exact ⟨hequal, hdiffer⟩

/-! ## A receipt, and one that differs in how its amount is written -/

/-- The request that `samplePackages` reads. -/
def sampleRequest : Message where
  messageId := "message_1"
  role := .agent
  parts := [[("protocol_version", .str "recovery.request.v2"), ("idempotency_key", .str "key_1"),
    ("case_id", .str "case_1"), ("merchant_id", .str "merchant_1"),
    ("customer_id", .str "customer_1"), ("recovery_action_id", .str "action_1"),
    ("failed_invoice_id", .str "inv_1"), ("exact_amount_paise", .int 49900),
    ("currency", .str "INR"), ("payment_surface_type", .str "SUBSCRIPTION_CARD_UPDATE"),
    ("payment_surface_reference", .str "sub_1"),
    ("expires_at", .str "1970-01-01T00:00:00.001000Z"),
    ("context", .obj [("merchant_display_name", .str "Shop"), ("plan_name", .str "Plan"),
      ("failure_explanation", .str "Declined"), ("invoice_state", .str "OPEN"),
      ("payment_state", .str "FAILED"), ("subscription_state", .str "PENDING"),
      ("provider_subscription_state", .str "pending"), ("preferred_language", .str "en"),
      ("recovery_deadline", .str "1970-01-01T00:00:00.001000Z")])]]
  taskId := none
  contextId := none
  nonempty := by simp

/-- The receipt for the mandate of the sample. -/
def sampleReceiptData : RecoveryReceiptData where
  receiptId := "receipt_1"
  signerKeyId := "platform_1"
  taskId := "task_1"
  mandateId := "mandate_3"
  merchantId := "merchant_1"
  caseId := "case_1"
  recoveryActionId := "action_1"
  failedInvoiceId := "inv_1"
  exactAmountPaise := 49900
  currency := "INR"
  providerReference := "pay_1"
  observedAt := ⟨0, 0⟩

/-- The message of the receipt, with its amount as it is written. -/
def receiptMessage (amount : Json) : Message where
  messageId := "receipt_1"
  role := .user
  parts := [[("algorithm", .str "Ed25519"), ("data", .obj
    [("protocol_version", .str "recovery.receipt.v2"), ("receipt_id", .str "receipt_1"),
      ("signer_key_id", .str "platform_1"), ("task_id", .str "task_1"),
      ("mandate_id", .str "mandate_3"), ("merchant_id", .str "merchant_1"),
      ("case_id", .str "case_1"), ("recovery_action_id", .str "action_1"),
      ("failed_invoice_id", .str "inv_1"), ("exact_amount_paise", amount),
      ("currency", .str "INR"), ("provider_reference", .str "pay_1"),
      ("payment_state", .str "CAPTURED"), ("observed_at", .str "1970-01-01T00:00:00Z")]),
    ("signature", .str "c2lnbmVk")]]
  taskId := some "task_1"
  contextId := none
  nonempty := by simp

/-- Packages that read the receipt, whichever of the two ways its amount is written. -/
def receiptPackages : Packages :=
  withEquality { samplePackages with
    validateReceipt := fun _ => some { data := sampleReceiptData, signature := "c2lnbmVk" }
    pinnedKeys := [("platform_1", ())] }

/-- The customer has approved, and is asked for the receipt. -/
def workingAgent : Agent :=
  let asked := Agent.play receiptPackages ⟨{}, [(sendMessage receiptPackages sampleRequest none, [])]⟩
    [(0, ""), (0, "1"), (0, "2"), (0, "")]
  Agent.play receiptPackages
    ⟨asked.shared, asked.clients ++ [(decide receiptPackages 60 "task_1"
      { decision := .approve, merchantId := "merchant_1", caseId := "case_1",
        exactAmountPaise := 49900, paymentSurfaceReference := "sub_1" } none none, [])]⟩
    [(0, ""), (1, ""), (1, "3"), (1, "4"), (1, "5"), (1, "")]

/-- A message is sent, and gets turns until it is answered. -/
def Agent.deliver (S : Agent) (m : Message) : Agent :=
  Agent.play receiptPackages
    ⟨S.shared, S.clients ++ [(sendMessage receiptPackages m none, [])]⟩
    [(0, ""), (2, ""), (2, "6"), (2, "7"), (2, "")]

def completedAgent : Agent := workingAgent.deliver (receiptMessage (.int 49900))

/-- What an operation was answered with. -/
def answered (S : Agent) (i : ℕ) : Option TaskRecord :=
  match S.clients[i]? with
  | some (.done _ task, _) => some task
  | _ => none

lemma workingAgent_steps :
    Relation.ReflTransGen (Agent.Step receiptPackages 60) ⟨{}, []⟩ workingAgent :=
  .trans (.single (.start (.sendMessage sampleRequest)))
    (.trans (Agent.play_steps receiptPackages 60 _ _)
      (.trans (.single (.start (.decide _ _ _))) (Agent.play_steps receiptPackages 60 _ _)))

lemma Agent.deliver_steps (S : Agent) (m : Message) :
    Relation.ReflTransGen (Agent.Step receiptPackages 60) S (S.deliver m) :=
  .trans (.single (.start (.sendMessage m))) (Agent.play_steps receiptPackages 60 _ _)

/-- The receipt was accepted, and is accepted again with its amount as 49900.0 instead of 49900. -/
theorem receipt_counterexample :
    Relation.ReflTransGen (Agent.Step receiptPackages 60) ⟨{}, []⟩
      (completedAgent.deliver (receiptMessage (.num 49900))) ∧
    (completedAgent.shared.tasks "task_1").map (fun t => (t.state, t.history)) =
      some (.completed, [sampleRequest.modelDump, (receiptMessage (.int 49900)).modelDump]) ∧
    (receiptMessage (.num 49900)).messageId = (receiptMessage (.int 49900)).messageId ∧
    (receiptMessage (.num 49900)).modelDump ≠ (receiptMessage (.int 49900)).modelDump ∧
    (answered (completedAgent.deliver (receiptMessage (.num 49900))) 3).map
      (fun t => (t.id, t.state, t.revision)) = some ("task_1", .completed, 3) := by
  refine ⟨.trans workingAgent_steps (.trans (Agent.deliver_steps _ _) (Agent.deliver_steps _ _)),
    rfl, rfl, fun h => ?_, by decide +kernel⟩
  simp [receiptMessage, Message.modelDump] at h

/-- The completed task of the sample, when the same message is delivered once more. -/
theorem receipt_delivery_sample :
    ∃ t, completedAgent.shared.tasks "task_1" = some t ∧ t.state = .completed ∧
      (completedAgent.deliver (receiptMessage (.int 49900))).shared.tasks "task_1" = some t ∧
      ∃ m signed, CompletedBy receiptPackages t m signed := by
  have hstate : (completedAgent.shared.tasks "task_1").map (·.state) = some .completed := by
    decide +kernel
  obtain ⟨t, ht, hs⟩ := Option.map_eq_some_iff.mp hstate
  obtain ⟨hlater, m, signed, hacc, -⟩ := (receipt_delivery _ 60
    (workingAgent_steps.trans (Agent.deliver_steps _ _))
    (Agent.deliver_steps completedAgent (receiptMessage (.int 49900)))).2 "task_1" t ht hs
  exact ⟨t, ht, hs, hlater, m, signed, hacc⟩

end RecoveryOS.CustomerAgent
