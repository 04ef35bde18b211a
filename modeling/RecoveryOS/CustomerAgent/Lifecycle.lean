import RecoveryOS.CustomerAgent.Service

/-!
# The life of a task

A task is changed in three ways only (`Move`): it is canceled, approved, or completed. A save goes
through only if the task is still as it was read, so every change that the store makes is such a move
of the task it has (`Changes`), however the operations are interleaved. What a task can look like in
each of its states (`WellFormed`) is kept by the moves, and the operations rely on it when they index
into the artifacts.
-/

namespace RecoveryOS.CustomerAgent

open Resume

variable (pkgs : Packages)

/-- Data for the request of this task, under the agent's key. -/
structure Mandated (task : TaskRecord) (d : RecoveryMandateData) : Prop where
  signer : d.signerKeyId = pkgs.signerKeyId
  taskId : d.taskId = task.id
  merchantId : d.merchantId = task.request.merchantId
  caseId : d.caseId = task.request.caseId
  customerId : d.customerId = task.request.customerId
  recoveryActionId : d.recoveryActionId = task.request.recoveryActionId
  failedInvoiceId : d.failedInvoiceId = task.request.failedInvoiceId
  exactAmountPaise : d.exactAmountPaise = task.request.exactAmountPaise
  currency : d.currency = task.request.currency
  paymentSurfaceType : d.paymentSurfaceType = task.request.paymentSurfaceType
  paymentSurfaceReference : d.paymentSurfaceReference = task.request.paymentSurfaceReference
  window : d.issuedAt.instant < d.expiresAt.instant
  bounded : d.expiresAt.instant ≤ task.request.expiresAt.instant

/-- The artifact of data that the agent has signed. -/
def signedArtifact (d : RecoveryMandateData) : Json :=
  mandateArtifact pkgs { data := d, signature := pkgs.sign (d.canonicalJson pkgs) }

/-- A receipt for exactly what was mandated. -/
structure Matches (d : RecoveryMandateData) (r : RecoveryReceiptData) : Prop where
  taskId : r.taskId = d.taskId
  mandateId : r.mandateId = d.mandateId
  merchantId : r.merchantId = d.merchantId
  caseId : r.caseId = d.caseId
  recoveryActionId : r.recoveryActionId = d.recoveryActionId
  failedInvoiceId : r.failedInvoiceId = d.failedInvoiceId
  exactAmountPaise : r.exactAmountPaise = d.exactAmountPaise
  currency : r.currency = d.currency

/-- What a task looks like in each of its states. -/
def WellFormed (task : TaskRecord) : Prop :=
  match task.state with
  | .authRequired => task.artifacts = []
  | .working => ∃ d, task.artifacts = [signedArtifact pkgs d] ∧ Mandated pkgs task d
  | .completed => ∃ d id receipt, task.artifacts = [signedArtifact pkgs d,
      receiptArtifact pkgs id receipt] ∧ Mandated pkgs task d ∧ Matches d receipt.data
  | .canceled => task.artifacts = [] ∨
      ∃ d, task.artifacts = [signedArtifact pkgs d] ∧ Mandated pkgs task d
  | .failed => False

/-- How a task may change. -/
inductive Move : TaskRecord → TaskRecord → Prop
  | cancel {t status updatedAt} (h : t.state ≠ .completed) (h' : t.state ≠ .canceled) :
      Move t { t with state := .canceled, status, updatedAt }
  | approve {t d status updatedAt} (h : t.state = .authRequired) (hd : Mandated pkgs t d) :
      Move t { t with state := .working, artifacts := [signedArtifact pkgs d], status, updatedAt }
  | complete {t d id receipt history status updatedAt} (h : t.state = .working)
      (ha : t.artifacts = [signedArtifact pkgs d]) (hd : Mandated pkgs t d)
      (hr : Matches d receipt.data) :
      Move t { t with
        state := .completed, artifacts := t.artifacts ++ [receiptArtifact pkgs id receipt], history,
        status, updatedAt }

variable {pkgs} {t t' : TaskRecord}

lemma Mandated.congr {d : RecoveryMandateData} (h : Mandated pkgs t d) (hid : t'.id = t.id)
    (hr : t'.request = t.request) : Mandated pkgs t' d := by
  obtain ⟨h₁, h₂, h₃, h₄, h₅, h₆, h₇, h₈, h₉, h₁₀, h₁₁, h₁₂, h₁₃⟩ := h
  rw [← hr] at h₃ h₄ h₅ h₆ h₇ h₈ h₉ h₁₀ h₁₁ h₁₃
  exact ⟨h₁, h₂.trans hid.symm, h₃, h₄, h₅, h₆, h₇, h₈, h₉, h₁₀, h₁₁, h₁₂, h₁₃⟩

/-- A move keeps what identifies a task, and only adds to its artifacts. -/
structure Succeeds (t t' : TaskRecord) : Prop where
  id : t'.id = t.id
  contextId : t'.contextId = t.contextId
  request : t'.request = t.request
  artifacts : t.artifacts <+: t'.artifacts
  completed : t.state = .completed → t'.state = .completed
  canceled : t.state = .canceled → t'.state = .canceled

lemma Succeeds.refl (t : TaskRecord) : Succeeds t t :=
  ⟨rfl, rfl, rfl, List.prefix_refl _, fun h => h, fun h => h⟩

lemma Succeeds.trans {t'' : TaskRecord} (h : Succeeds t t') (h' : Succeeds t' t'') :
    Succeeds t t'' :=
  ⟨h'.id.trans h.id, h'.contextId.trans h.contextId, h'.request.trans h.request,
    h.artifacts.trans h'.artifacts, fun hs => h'.completed (h.completed hs),
    fun hs => h'.canceled (h.canceled hs)⟩

lemma Move.id (hm : Move pkgs t t') : t'.id = t.id := by
  cases hm <;> rfl

lemma Move.succeeds (hw : WellFormed pkgs t) (hm : Move pkgs t t') : Succeeds t t' := by
  cases hm with
  | cancel h h' =>
    exact ⟨rfl, rfl, rfl, List.prefix_refl _, fun hs => absurd hs h, fun hs => absurd hs h'⟩
  | approve h hd =>
    have hnil : t.artifacts = [] := by simpa [WellFormed, h] using hw
    refine ⟨rfl, rfl, rfl, ?_, fun hs => ?_, fun hs => ?_⟩
    · rw [hnil]
      exact List.nil_prefix
    · simp [h] at hs
    · simp [h] at hs
  | complete h ha hd hr =>
    refine ⟨rfl, rfl, rfl, List.prefix_append _ _, fun hs => ?_, fun hs => ?_⟩
    · simp [h] at hs
    · simp [h] at hs

/-- The moves keep a task well formed. -/
theorem Move.wellFormed (hw : WellFormed pkgs t) (hm : Move pkgs t t') : WellFormed pkgs t' := by
  cases hm with
  | @cancel status updatedAt h h' =>
    show t.artifacts = [] ∨ ∃ d, t.artifacts = [signedArtifact pkgs d] ∧ Mandated pkgs _ d
    cases hs : t.state with
    | authRequired => exact .inl (by simpa [WellFormed, hs] using hw)
    | working =>
      obtain ⟨d, ha, hd⟩ : ∃ d, t.artifacts = [signedArtifact pkgs d] ∧ Mandated pkgs t d := by
        simpa [WellFormed, hs] using hw
      exact .inr ⟨d, ha, hd.congr rfl rfl⟩
    | completed => exact absurd hs h
    | canceled => exact absurd hs h'
    | failed => simp [WellFormed, hs] at hw
  | @approve d status updatedAt h hd => exact ⟨d, rfl, hd.congr rfl rfl⟩
  | @complete d id receipt history status updatedAt h ha hd hr =>
    refine ⟨d, id, receipt, ?_, hd.congr rfl rfl, hr⟩
    show t.artifacts ++ _ = _
    rw [ha]
    rfl

/-! ## The operations -/

abbrev Log := List (Exchange Call Call.Reply)

/-- The tasks that an operation has read. -/
def reads (h : Log) : List TaskRecord :=
  h.filterMap fun
    | ⟨.get _, x⟩ => x
    | _ => none

lemma mem_reads {h : Log} {taskId : String} {task : TaskRecord}
    (hm : (⟨.get taskId, some task⟩ : Exchange Call Call.Reply) ∈ h) : task ∈ reads h :=
  List.mem_filterMap.mpr ⟨_, hm, rfl⟩

variable (pkgs) in
/-- An operation relies on tasks that are well formed, saves a move of a task that it has read, and
never fails at an index. -/
def contract : Contract Call Call.Reply (Option Raised) where
  rely
    | .get taskId, x => ∀ task, x = some task → task.id = taskId ∧ WellFormed pkgs task
    | .createOnce _ _, x => x ≠ .error .lookup
    | _, _ => True
  guarantee h
    | .createOnce _ task => task.state = .authRequired ∧ task.artifacts = []
    | .save task expected => ∃ t ∈ reads h, expected = t.revision ∧ Move pkgs t task
    | _ => True
  fails s := s ≠ some .lookup

section
variable {α : Type} {Q : Log → α → Prop} {h : Log} {s : Option Raised}

lemma raise_keeps {e : Raised} (he : e ≠ .lookup) :
    (.failed (some e) : Proc Call Call.Reply (Option Raised) α).Keeps (contract pkgs) Q h := by
  simpa [Proc.Keeps, contract] using he

lemma now_keeps {f : A2A.DateTime → Op α}
    (hf : ∀ time s h', h <+: h' → (f time s).Keeps (contract pkgs) Q h') :
    ((now >>= f) s).Keeps (contract pkgs) Q h :=
  ⟨trivial, fun x _ => hf _ s _ (List.prefix_append h [⟨.now, x⟩])⟩

lemma uuid4_keeps {f : String → Op α}
    (hf : ∀ id s h', h <+: h' → (f id s).Keeps (contract pkgs) Q h') :
    ((uuid4 >>= f) s).Keeps (contract pkgs) Q h :=
  ⟨trivial, fun x _ => hf x s _ (List.prefix_append h [⟨.uuid4, x⟩])⟩

lemma tokenUrlsafe_keeps {f : String → Op α}
    (hf : ∀ token s h', h <+: h' → (f token s).Keeps (contract pkgs) Q h') :
    ((tokenUrlsafe >>= f) s).Keeps (contract pkgs) Q h :=
  ⟨trivial, fun x _ => hf x s _ (List.prefix_append h [⟨.tokenUrlsafe, x⟩])⟩

lemma agentMessage_keeps {task : TaskRecord} {data : List (String × Json)} {f : Json → Op α}
    (hf : ∀ message s h', h <+: h' → (f message s).Keeps (contract pkgs) Q h') :
    ((agentMessage task data >>= f) s).Keeps (contract pkgs) Q h :=
  ⟨trivial, fun x _ => hf _ s _ (List.prefix_append h [⟨.uuid4, x⟩])⟩

lemma storeSave_keeps {task t : TaskRecord} {f : Bool → Op α} (ht : t ∈ reads h)
    (hm : Move pkgs t task)
    (hf : ∀ saved s h', (f saved s).Keeps (contract pkgs) Q h') :
    ((storeSave task t.revision >>= f) s).Keeps (contract pkgs) Q h :=
  ⟨⟨t, ht, rfl, hm⟩, fun x _ => hf x s _⟩

lemma saveOnce_keeps {task t : TaskRecord} (ht : t ∈ reads h) (hm : Move pkgs t task) :
    (saveOnce task t.revision s).Keeps (contract pkgs) (fun _ _ => True) h := by
  refine storeSave_keeps ht hm fun saved s h' => ?_
  cases saved with
  | true => trivial
  | false => exact raise_keeps (by simp)

/-- A task that was read is well formed. -/
lemma getTask_keeps {taskId : String} {f : TaskRecord → Op α}
    (hf : ∀ task s h', task ∈ reads h' → task.id = taskId → WellFormed pkgs task →
      (f task s).Keeps (contract pkgs) Q h') :
    ((getTask taskId >>= f) s).Keeps (contract pkgs) Q h := by
  refine Proc.Keeps.bind (Q := fun h' task => task ∈ reads h' ∧ task.id = taskId ∧
    WellFormed pkgs task) (fun h' s task ht => hf task s h' ht.1 ht.2.1 ht.2.2) ?_
  refine ⟨trivial, fun x hx => ?_⟩
  cases x with
  | none => exact raise_keeps (by simp)
  | some task =>
    obtain ⟨hid, hw⟩ := hx task rfl
    exact ⟨mem_reads (List.mem_append_right h List.mem_cons_self), hid, hw⟩

lemma reads_mono {h' : Log} (hh : h <+: h') {task : TaskRecord} (ht : task ∈ reads h) :
    task ∈ reads h' := by
  obtain ⟨e, he, hr⟩ := List.mem_filterMap.mp ht
  exact List.mem_filterMap.mpr ⟨e, hh.subset he, hr⟩

lemma authorizedTask_keeps {taskId : String} {token : Option String} {f : TaskRecord → Op α}
    (hf : ∀ task s h', task ∈ reads h' → WellFormed pkgs task →
      (f task s).Keeps (contract pkgs) Q h') :
    ((authorizedTask pkgs taskId token >>= f) s).Keeps (contract pkgs) Q h := by
  refine Proc.Keeps.bind (Q := fun h' task => task ∈ reads h' ∧ WellFormed pkgs task)
    (fun h' s task ht => hf task s h' ht.1 ht.2) ?_
  refine getTask_keeps fun task s h₁ ht _ hw => ?_
  cases pkgs.approvalToken task with
  | none => exact ⟨ht, hw⟩
  | some expected =>
    dsimp only
    split_ifs
    · exact raise_keeps (by simp)
    · refine now_keeps fun time s h₂ hh => ?_
      split_ifs
      · exact raise_keeps (by simp)
      · exact ⟨reads_mono hh ht, hw⟩

lemma createAuthorizationTask_keeps (message : Message) (request : RecoveryRequestData) :
    (createAuthorizationTask pkgs message request s).Keeps (contract pkgs) (fun _ _ => True) h := by
  refine now_keeps fun time s h₁ _ => ?_
  split_ifs
  · exact raise_keeps (by simp)
  · refine uuid4_keeps fun taskId s h₂ _ => uuid4_keeps fun messageId s h₃ _ => ?_
    refine ⟨⟨rfl, rfl⟩, fun x hx => ?_⟩
    cases x with
    | ok stored => trivial
    | error e => exact raise_keeps fun he => hx (by rw [he])

lemma cancelAttempts_keeps (taskId reason : String) : ∀ (n : ℕ) (s : Option Raised) (h : Log),
    (cancelAttempts pkgs taskId reason n s).Keeps (contract pkgs) (fun _ _ => True) h
  | 0, _, _ => raise_keeps (by simp)
  | n + 1, s, h => by
    refine Proc.Keeps.bind (Q := fun _ _ => True) (fun h' s result _ => ?_) ?_
    · cases result with
      | some task => trivial
      | none => exact cancelAttempts_keeps taskId reason n s h'
    · refine getTask_keeps fun task s h₁ ht _ _ => ?_
      split_ifs with hend
      · trivial
      · obtain ⟨hc, hx⟩ := not_or.mp hend
        refine now_keeps fun time s h₂ hh₂ => agentMessage_keeps fun message s h₃ hh₃ => ?_
        refine storeSave_keeps (reads_mono hh₃ (reads_mono hh₂ ht)) (.cancel hc hx)
          fun saved s h₄ => ?_
        cases saved <;> trivial

/-- The mandate of an approval is one for the request of its task. -/
lemma mandateOf_mandated {mandateTtl : ℤ} {task : TaskRecord} {time : A2A.DateTime}
    {mandateId nonce : String}
    (hv : (mandateOf pkgs mandateTtl task time mandateId nonce).valid = true) :
    Mandated pkgs task (mandateOf pkgs mandateTtl task time mandateId nonce) := by
  refine ⟨rfl, rfl, rfl, rfl, rfl, rfl, rfl, rfl, rfl, rfl, rfl, ?_, ?_⟩
  · simp only [RecoveryMandateData.valid, Bool.and_eq_true, decide_eq_true_eq] at hv
    exact hv.2
  · simp only [mandateOf]
    split_ifs with hlt
    · exact hlt.le
    · exact le_refl _

lemma signMandate_eq {d : RecoveryMandateData} {signed : SignedMandate}
    (hs : signMandate pkgs d = some signed) :
    mandateArtifact pkgs signed = signedArtifact pkgs d := by
  unfold signMandate at hs
  split_ifs at hs
  cases hs
  rfl

lemma decide_keeps (mandateTtl : ℤ) (taskId : String) (decision : ApprovalDecision)
    (token : Option String) :
    (decide pkgs mandateTtl taskId decision token s).Keeps (contract pkgs) (fun _ _ => True) h := by
  refine authorizedTask_keeps fun task s h₁ ht hw => ?_
  dsimp only
  split_ifs with hstate hscope hreject
  · exact raise_keeps (by simp)
  · exact raise_keeps (by simp)
  · have hauth : task.state = .authRequired := not_not.mp hstate
    refine now_keeps fun time s h₂ hh₂ => ?_
    split_ifs
    · exact raise_keeps (by simp)
    · refine agentMessage_keeps fun message s h₃ hh₃ => ?_
      exact saveOnce_keeps (reads_mono hh₃ (reads_mono hh₂ ht))
        (.cancel (by simp [hauth]) (by simp [hauth]))
  · have hauth : task.state = .authRequired := not_not.mp hstate
    refine now_keeps fun time s h₂ hh₂ => ?_
    split_ifs
    · exact raise_keeps (by simp)
    · refine uuid4_keeps fun mandateId s h₃ hh₃ => tokenUrlsafe_keeps fun nonce s h₄ hh₄ => ?_
      split_ifs with hvalid
      · exact raise_keeps (by simp)
      · have hd := mandateOf_mandated (by simpa using hvalid)
        cases hs : signMandate pkgs (mandateOf pkgs mandateTtl task time mandateId nonce) with
        | none => exact raise_keeps (by simp)
        | some signed =>
          refine agentMessage_keeps fun message s h₅ hh₅ => ?_
          rw [signMandate_eq hs]
          exact saveOnce_keeps
            (reads_mono hh₅ (reads_mono hh₄ (reads_mono hh₃ (reads_mono hh₂ ht))))
            (.approve hauth hd)

/-- In a signed artifact the data of the mandate is where the receipt is checked against it. -/
lemma mandateData_eq {task : TaskRecord} {d : RecoveryMandateData}
    (ha : task.artifacts = [signedArtifact pkgs d]) :
    mandateData task = some (object (d.modelDump pkgs)) := by
  unfold mandateData
  rw [ha]
  rfl

lemma Json.isText_iff {a b : String} : Json.isText a (.str b) = true ↔ b = a := by
  simp [Json.isText]

lemma matches_of_receiptMatches {task : TaskRecord} {d : RecoveryMandateData}
    {r : RecoveryReceiptData} (hd : Mandated pkgs task d)
    (hr : receiptMatches task (.str d.mandateId) (.str d.recoveryActionId) (.str d.failedInvoiceId) r
      = true) : Matches d r := by
  simp only [receiptMatches, Bool.and_eq_true, Json.isText_iff, beq_iff_eq, Prod.mk.injEq] at hr
  obtain ⟨⟨⟨hm, ha⟩, hi⟩, ht, hmerchant, hcase, hamount, hcurrency⟩ := hr
  exact ⟨ht.trans hd.taskId.symm, hm.symm, hmerchant.trans hd.merchantId.symm,
    hcase.trans hd.caseId.symm, ha.symm, hi.symm, hamount.trans hd.exactAmountPaise.symm,
    hcurrency.trans hd.currency.symm⟩

lemma duplicateOr_keeps {task : TaskRecord} {message : Message} {other : Op TaskRecord}
    (ho : (other s).Keeps (contract pkgs) (fun _ _ => True) h) :
    (duplicateOr pkgs task message other s).Keeps (contract pkgs) (fun _ _ => True) h := by
  unfold duplicateOr
  cases isDuplicateMessage pkgs task message with
  | none => exact raise_keeps (by simp)
  | some duplicate =>
    cases duplicate with
    | true => trivial
    | false => exact ho

lemma completeWithReceipt_keeps (message : Message) (signed : SignedRecoveryReceipt) :
    (completeWithReceipt pkgs message signed signed.data s).Keeps (contract pkgs)
      (fun _ _ => True) h := by
  refine getTask_keeps fun task s h₁ ht _ hw => duplicateOr_keeps ?_
  split_ifs with hstate hid
  · exact raise_keeps (by simp)
  · exact raise_keeps (by simp)
  · have hworking : task.state = .working := not_not.mp hstate
    obtain ⟨d, ha, hd⟩ : ∃ d, task.artifacts = [signedArtifact pkgs d] ∧ Mandated pkgs task d := by
      simpa [WellFormed, hworking] using hw
    rw [mandateData_eq ha]
    show Proc.Keeps _ _ _ ((if receiptMatches task (.str d.mandateId) (.str d.recoveryActionId)
      (.str d.failedInvoiceId) signed.data = false then _ else _ : Op TaskRecord) s)
    split_ifs with hmatch
    · exact raise_keeps (by simp)
    · have hr := matches_of_receiptMatches hd (by simpa using hmatch)
      refine now_keeps fun time s h₂ hh₂ => uuid4_keeps fun id s h₃ hh₃ =>
        agentMessage_keeps fun reply s h₄ hh₄ => ?_
      refine storeSave_keeps (reads_mono hh₄ (reads_mono hh₃ (reads_mono hh₂ ht)))
        (.complete hworking ha hd hr) fun saved s h₅ => ?_
      cases saved with
      | true => trivial
      | false =>
        refine getTask_keeps fun latest s h₆ _ _ _ => duplicateOr_keeps ?_
        exact raise_keeps (by simp)

lemma verifyReceipt_data {signed : SignedRecoveryReceipt} {receipt : RecoveryReceiptData}
    (hv : verifyReceipt pkgs signed = .ok receipt) : receipt = signed.data := by
  unfold verifyReceipt at hv
  split at hv
  · cases hv
  · split_ifs at hv
    cases hv
    rfl

lemma receiveReceipt_keeps (message : Message) (signed : SignedRecoveryReceipt) :
    ((match verifyReceipt pkgs signed with
      | .error reason => raise (.conflict reason)
      | .ok receipt => completeWithReceipt pkgs message signed receipt : Op TaskRecord) s).Keeps
        (contract pkgs) (fun _ _ => True) h := by
  cases hv : verifyReceipt pkgs signed with
  | error reason => exact raise_keeps (by simp)
  | ok receipt =>
    rw [verifyReceipt_data hv]
    exact completeWithReceipt_keeps message signed

lemma validRequest_keeps (message : Message) (part : List (String × Json)) :
    ((match pkgs.validateRequest part with
      | none => raise .validation
      | some request => createAuthorizationTask pkgs message request : Op TaskRecord) s).Keeps
        (contract pkgs) (fun _ _ => True) h := by
  cases pkgs.validateRequest part with
  | none => exact raise_keeps (by simp)
  | some request => exact createAuthorizationTask_keeps message request

lemma validReceipt_keeps (message : Message) (part : List (String × Json)) :
    ((match pkgs.validateReceipt part with
      | none => raise .validation
      | some signed =>
        match verifyReceipt pkgs signed with
        | .error reason => raise (.conflict reason)
        | .ok receipt => completeWithReceipt pkgs message signed receipt : Op TaskRecord) s).Keeps
        (contract pkgs) (fun _ _ => True) h := by
  cases pkgs.validateReceipt part with
  | none => exact raise_keeps (by simp)
  | some signed => exact receiveReceipt_keeps message signed

lemma sendMessage_keeps (message : Message) :
    (sendMessage pkgs message s).Keeps (contract pkgs) (fun _ _ => True) h := by
  unfold sendMessage
  split_ifs
  all_goals first
    | exact validRequest_keeps message _
    | exact validReceipt_keeps message _
    | exact raise_keeps (by simp)

/-- Every operation keeps the contract. -/
theorem starts_keeps {mandateTtl : ℤ} : ∀ p, Starts pkgs mandateTtl p →
    p.Keeps (contract pkgs) (fun _ _ => True) []
  | _, .sendMessage message => sendMessage_keeps message
  | _, .decide taskId decision token => decide_keeps mandateTtl taskId decision token
  | _, .cancelTask taskId reason => cancelAttempts_keeps taskId reason 3 none []
  | _, .getTask taskId => by
    refine ⟨trivial, fun x _ => ?_⟩
    cases x with
    | none => exact raise_keeps (by simp)
    | some task => trivial

end

/-! ## The store -/

variable (pkgs) in
/-- What holds of the store at all times. -/
structure Kept (w : Store) : Prop where
  task : ∀ {id t}, w.tasks id = some t → t.id = id ∧ WellFormed pkgs t
  indexed : ∀ {key id}, w.idempotency key = some id → ∃ t, w.tasks id = some t

/-- A task that was read is in the store as it was, or has a later revision. -/
def Fresh (w : Store) (h : Log) : Prop :=
  ∀ t ∈ reads h, ∃ current, w.tasks t.id = some current ∧
    (t.revision < current.revision ∨ t = current)

variable (pkgs) in
/-- What one call may do to the store. -/
def Changes (w w' : Store) : Prop :=
  ∀ id, w'.tasks id = w.tasks id ∨
    (w.tasks id = none ∧ ∃ t, w'.tasks id = some t ∧ t.id = id ∧ t.state = .authRequired ∧
      t.artifacts = []) ∨
    ∃ t t', w.tasks id = some t ∧ Move pkgs t t' ∧
      w'.tasks id = some { t' with revision := t.revision + 1 }

section
variable {w w' : Store} {h : Log}

lemma Changes.refl (w : Store) : Changes pkgs w w := fun _ => .inl rfl

lemma Changes.fresh (hc : Changes pkgs w w') (hf : Fresh w h) : Fresh w' h := by
  intro t ht
  obtain ⟨current, hcur, hrev⟩ := hf t ht
  rcases hc t.id with he | ⟨hn, -⟩ | ⟨t₁, t₂, h₁, hm, h₂⟩
  · exact ⟨current, he.trans hcur, hrev⟩
  · rw [hcur] at hn
    cases hn
  · rw [hcur] at h₁
    obtain rfl := Option.some.inj h₁
    refine ⟨_, h₂, .inl ?_⟩
    rcases hrev with hlt | rfl
    · exact hlt.trans (Nat.lt_succ_self _)
    · exact Nat.lt_succ_self _

/-- The revision is not part of what a task looks like. -/
lemma WellFormed.revised {t : TaskRecord} (hw : WellFormed pkgs t) (n : ℕ) :
    WellFormed pkgs { t with revision := n } := by
  unfold WellFormed at hw ⊢
  cases hs : t.state <;> simp only [hs] at hw ⊢
  · exact hw
  · obtain ⟨d, ha, hd⟩ := hw
    exact ⟨d, ha, hd.congr rfl rfl⟩
  · obtain ⟨d, id, receipt, ha, hd, hr⟩ := hw
    exact ⟨d, id, receipt, ha, hd.congr rfl rfl, hr⟩
  · rcases hw with ha | ⟨d, ha, hd⟩
    · exact .inl ha
    · exact .inr ⟨d, ha, hd.congr rfl rfl⟩

lemma Changes.task (hc : Changes pkgs w w')
    (hw : ∀ {id t}, w.tasks id = some t → t.id = id ∧ WellFormed pkgs t) {id : String}
    {t : TaskRecord} (ht : w'.tasks id = some t) : t.id = id ∧ WellFormed pkgs t := by
  rcases hc id with he | ⟨-, t₁, h₁, hid, hs, ha⟩ | ⟨t₁, t₂, h₁, hm, h₂⟩
  · exact hw (he ▸ ht)
  · rw [ht] at h₁
    obtain rfl := Option.some.inj h₁
    exact ⟨hid, by simpa [WellFormed, hs] using ha⟩
  · rw [ht] at h₂
    obtain rfl := Option.some.inj h₂
    obtain ⟨hid, hwf⟩ := hw h₁
    exact ⟨hm.id.trans hid, (hm.wellFormed hwf).revised _⟩

lemma Changes.present (hc : Changes pkgs w w') {id : String} {t : TaskRecord}
    (ht : w.tasks id = some t) : ∃ t', w'.tasks id = some t' := by
  rcases hc id with he | ⟨hn, -⟩ | ⟨t₁, t₂, -, -, h₂⟩
  · exact ⟨t, he.trans ht⟩
  · rw [ht] at hn
    cases hn
  · exact ⟨_, h₂⟩

/-- A change of one task. -/
lemma changes_put {task : TaskRecord} {idempotency : String → Option String}
    (hone : (w.tasks task.id = none ∧ task.state = .authRequired ∧ task.artifacts = []) ∨
      ∃ t t', w.tasks task.id = some t ∧ Move pkgs t t' ∧
        task = { t' with revision := t.revision + 1 }) :
    Changes pkgs w { w.put task with idempotency } := by
  intro id
  by_cases hid : id = task.id
  · subst hid
    have hput : (Function.update w.tasks task.id (some task)) task.id = some task :=
      Function.update_self _ _ _
    rcases hone with ⟨hn, hs, ha⟩ | ⟨t, t', ht, hm, he⟩
    · exact .inr (.inl ⟨hn, task, hput, rfl, hs, ha⟩)
    · exact .inr (.inr ⟨t, t', ht, hm, hput.trans (congrArg some he)⟩)
  · exact .inl (Function.update_of_ne hid _ _)

lemma Kept.changes (hw : Kept pkgs w) (hc : Changes pkgs w w')
    (hi : ∀ key id, w'.idempotency key = some id →
      w.idempotency key = some id ∨ ∃ t, w'.tasks id = some t) : Kept pkgs w' := by
  refine ⟨hc.task hw.task, fun {key id} hk => ?_⟩
  rcases hi key id hk with hk | hk
  · obtain ⟨t, ht⟩ := hw.indexed hk
    exact hc.present ht
  · exact hk

lemma createOnce_spec (key : String) {task : TaskRecord} (hw : Kept pkgs w)
    (hnew : w.tasks task.id = none) (hs : task.state = .authRequired) (ha : task.artifacts = []) :
    (w.createOnce pkgs key task).2 ≠ .error .lookup ∧
    Kept pkgs (w.createOnce pkgs key task).1 ∧
    Changes pkgs w (w.createOnce pkgs key task).1 := by
  unfold Store.createOnce
  cases hk : (w.idempotency key).filter (· ≠ "") with
  | some existingId =>
    have hkey : w.idempotency key = some existingId := (Option.filter_eq_some_iff.mp hk).1
    obtain ⟨existing, he⟩ := hw.indexed hkey
    simp only [he]
    split_ifs
    · exact ⟨by simp, hw, .refl w⟩
    · exact ⟨by simp, hw, .refl w⟩
  | none =>
    set stored : TaskRecord := { task with revision := 1 } with hstored
    have hc : Changes pkgs w { w.put stored with
        idempotency := Function.update w.idempotency key (some task.id) } :=
      changes_put (.inl ⟨hnew, hs, ha⟩)
    refine ⟨by simp, hw.changes hc fun key' id hid => ?_, hc⟩
    by_cases hkk : key' = key
    · have hupdate : Function.update w.idempotency key (some task.id) key' = some id := hid
      rw [hkk, Function.update_self] at hupdate
      obtain rfl := Option.some.inj hupdate
      have hself : Function.update w.tasks stored.id (some stored) stored.id = some stored :=
        Function.update_self _ _ _
      exact .inr ⟨stored, hself⟩
    · have hupdate : Function.update w.idempotency key (some task.id) key' = some id := hid
      rw [Function.update_of_ne hkk] at hupdate
      exact .inl hupdate

/-- A save that goes through is a move of the task as it is. -/
lemma save_spec {task t : TaskRecord} (hw : Kept pkgs w) (hf : Fresh w h) (ht : t ∈ reads h)
    (hm : Move pkgs t task) :
    Kept pkgs (w.save task t.revision).1 ∧ Changes pkgs w (w.save task t.revision).1 := by
  obtain ⟨current, hcur, hrev⟩ := hf t ht
  rw [← hm.id] at hcur
  unfold Store.save
  rw [hcur]
  dsimp only
  split_ifs with hne
  · exact ⟨hw, .refl w⟩
  · have he : t = current := hrev.resolve_left fun hlt => by omega
    subst he
    have hc : Changes pkgs w (w.put { task with revision := t.revision + 1 }) := by
      have hput : Changes pkgs w { w.put { task with revision := t.revision + 1 } with
          idempotency := w.idempotency } := changes_put (.inr ⟨t, task, hcur, hm, rfl⟩)
      exact hput
    exact ⟨hw.changes hc fun key id hk => .inl hk, hc⟩

/-- The store answers the operations as they rely on. -/
theorem store_discipline (pkgs : Packages) (mandateTtl : ℤ) :
    Discipline (Store.Answer pkgs) (Starts pkgs mandateTtl) (contract pkgs) (Kept pkgs) Fresh
      (fun _ _ => True) (Changes pkgs) := by
  have hsame : ∀ {w w' : Store}, w' = w → Kept pkgs w → Kept pkgs w' ∧ Changes pkgs w w' := by
    rintro w _ rfl hw
    exact ⟨hw, .refl _⟩
  have hown : ∀ {w w' : Store} {h : Log} {r : Call} {x : r.Reply}, Kept pkgs w → Fresh w h →
      (contract pkgs).guarantee h r → Store.Answer pkgs w r x w' →
      (contract pkgs).rely r x ∧ Kept pkgs w' ∧ Changes pkgs w w' := by
    intro w w' h r x hw hf hg ha
    cases r with
    | now => exact ⟨trivial, hsame ha hw⟩
    | uuid4 => exact ⟨trivial, hsame ha hw⟩
    | tokenUrlsafe => exact ⟨trivial, hsame ha hw⟩
    | createOnce key task =>
      obtain ⟨hnew, he⟩ := ha
      obtain ⟨rfl, rfl⟩ := Prod.mk.inj he
      obtain ⟨hx, hw', hc⟩ := createOnce_spec key hw hnew hg.1 hg.2
      exact ⟨hx, hw', hc⟩
    | get taskId =>
      obtain ⟨rfl, rfl⟩ := ha
      exact ⟨fun task ht => hw.task ht, hw, .refl w'⟩
    | save task expected =>
      obtain ⟨t, ht, rfl, hm⟩ := hg
      obtain ⟨rfl, rfl⟩ := Prod.mk.inj ha
      exact ⟨trivial, save_spec hw hf ht hm⟩
  refine ⟨starts_keeps, fun w _ t ht => (by cases ht), fun _ => ⟨trivial, trivial⟩,
    fun {w w' h r x} hw hf hg ha => ?_, fun {w w' h h' r x} hw hf hf' _ _ hg ha => ?_⟩
  · obtain ⟨hr, hw', hc⟩ := hown hw hf hg ha
    refine ⟨hr, hw', fun t ht => ?_, hc⟩
    rw [reads, List.filterMap_append, ← reads] at ht
    rcases List.mem_append.mp ht with ht | ht
    · exact hc.fresh hf t ht
    · -- the task that was just read is in the store
      obtain ⟨e, he, hread⟩ := List.mem_filterMap.mp ht
      obtain rfl := List.mem_singleton.mp he
      cases r with
      | get taskId =>
        obtain ⟨hx, rfl⟩ := ha
        have ht' : w'.tasks taskId = some t := hx.symm.trans hread
        obtain ⟨hid, -⟩ := hw.task ht'
        exact ⟨t, by rw [hid]; exact ht', .inr rfl⟩
      | now => cases hread
      | uuid4 => cases hread
      | tokenUrlsafe => cases hread
      | createOnce key task => cases hread
      | save task expected => cases hread
  · obtain ⟨-, hw', hc⟩ := hown hw hf hg ha
    exact ⟨hc.fresh hf', trivial, trivial⟩

/-- The task of an id, from one state of the store to any later one. -/
lemma changes_succeeds (hw : ∀ {id t}, w.tasks id = some t → t.id = id ∧ WellFormed pkgs t)
    (hrun : Relation.ReflTransGen (Changes pkgs) w w') :
    (∀ {id t}, w'.tasks id = some t → t.id = id ∧ WellFormed pkgs t) ∧
    ∀ {id t}, w.tasks id = some t → ∃ t', w'.tasks id = some t' ∧ Succeeds t t' := by
  induction hrun with
  | refl => exact ⟨hw, fun ht => ⟨_, ht, .refl _⟩⟩
  | tail _ hc ih =>
    obtain ⟨hw₁, hs₁⟩ := ih
    refine ⟨hc.task hw₁, fun {id t} ht => ?_⟩
    obtain ⟨t₁, ht₁, hsucc⟩ := hs₁ ht
    rcases hc id with he | ⟨hn, -⟩ | ⟨t₂, t₃, h₂, hm, h₃⟩
    · exact ⟨t₁, he.trans ht₁, hsucc⟩
    · rw [ht₁] at hn
      cases hn
    · rw [ht₁] at h₂
      obtain rfl := Option.some.inj h₂
      have hstep := hm.succeeds (hw₁ ht₁).2
      exact ⟨_, h₃, hsucc.trans ⟨hstep.id, hstep.contextId, hstep.request, hstep.artifacts,
        hstep.completed, hstep.canceled⟩⟩

lemma signedArtifact_ne_receipt {d : RecoveryMandateData} {id : String}
    {receipt : SignedRecoveryReceipt} :
    signedArtifact pkgs d ≠ receiptArtifact pkgs id receipt := by
  simp [signedArtifact, mandateArtifact, receiptArtifact]

/-- A mandate is the first artifact, and there is no other. -/
lemma WellFormed.mandate {t : TaskRecord} (hw : WellFormed pkgs t) {d : RecoveryMandateData}
    (hd : signedArtifact pkgs d ∈ t.artifacts) :
    t.artifacts.head? = some (signedArtifact pkgs d) := by
  unfold WellFormed at hw
  cases hs : t.state <;> simp only [hs] at hw
  · simp [hw] at hd
  · obtain ⟨d', ha, -⟩ := hw
    rw [ha, List.mem_singleton] at hd
    rw [ha, hd]
    rfl
  · obtain ⟨d', id, receipt, ha, -, -⟩ := hw
    rw [ha] at hd ⊢
    rcases List.mem_pair.mp hd with hd | hd
    · rw [hd]
      rfl
    · exact absurd hd signedArtifact_ne_receipt
  · rcases hw with ha | ⟨d', ha, -⟩
    · simp [ha] at hd
    · rw [ha, List.mem_singleton] at hd
      rw [ha, hd]
      rfl

/-- A task that is completed by a change of the store was being worked on, and a receipt that matches
its mandate was added to it. -/
lemma Changes.completed (hc : Changes pkgs w w') {id : String} {t' : TaskRecord}
    (ht' : w'.tasks id = some t') (hs' : t'.state = .completed) :
    ∃ t, w.tasks id = some t ∧ (t.state = .completed ∨ t.state = .working ∧
      ∃ d receiptId receipt, t.artifacts = [signedArtifact pkgs d] ∧ Mandated pkgs t d ∧
        Matches d receipt.data ∧
        t'.artifacts = t.artifacts ++ [receiptArtifact pkgs receiptId receipt]) := by
  rcases hc id with he | ⟨-, t₁, h₁, -, hs, -⟩ | ⟨t₁, t₂, h₁, hm, h₂⟩
  · exact ⟨t', he ▸ ht', .inl hs'⟩
  · rw [ht'] at h₁
    obtain rfl := Option.some.inj h₁
    simp [hs] at hs'
  · rw [ht'] at h₂
    obtain rfl := Option.some.inj h₂
    refine ⟨t₁, h₁, ?_⟩
    cases hm with
    | cancel h h' => simp at hs'
    | approve h hd => simp at hs'
    | @complete d receiptId receipt history status updatedAt h ha hd hr =>
      exact .inr ⟨h, d, receiptId, receipt, ha, hd, hr, rfl⟩

end

/-- However the operations of any number of clients are interleaved: a task keeps its id, its context
and its request, and once it is completed or canceled it stays so; its first artifact, once there, is
the one mandate it ever has; while it is worked on and when it is completed, that is a mandate signed
by the agent for the task's request, within the request's time; it is completed only while it is
worked on, by a receipt that matches the mandate; and no operation fails at an index. -/
theorem task_lifecycle (pkgs : Packages) (mandateTtl : ℤ) {S S' : Agent}
    (hS : Relation.ReflTransGen (Agent.Step pkgs mandateTtl) ⟨{}, []⟩ S)
    (hS' : Relation.ReflTransGen (Agent.Step pkgs mandateTtl) S S') :
    (∀ id t, S.shared.tasks id = some t → ∃ t', S'.shared.tasks id = some t' ∧ Succeeds t t') ∧
    (∀ id t t' d d', S.shared.tasks id = some t → S'.shared.tasks id = some t' →
      signedArtifact pkgs d ∈ t.artifacts → signedArtifact pkgs d' ∈ t'.artifacts →
      signedArtifact pkgs d = signedArtifact pkgs d') ∧
    (∀ id t, S.shared.tasks id = some t → t.state = .working ∨ t.state = .completed →
      ∃ d rest, t.artifacts = signedArtifact pkgs d :: rest ∧ Mandated pkgs t d) ∧
    (∀ S₁, Agent.Step pkgs mandateTtl S S₁ → ∀ id t₁, S₁.shared.tasks id = some t₁ →
      t₁.state = .completed → ∃ t, S.shared.tasks id = some t ∧
        (t.state = .completed ∨ t.state = .working ∧
          ∃ d receiptId receipt, t.artifacts = [signedArtifact pkgs d] ∧ Mandated pkgs t d ∧
            Matches d receipt.data ∧
            t₁.artifacts = t.artifacts ++ [receiptArtifact pkgs receiptId receipt])) ∧
    ∀ p h, (p, h) ∈ S.clients → p ≠ .failed (some .lookup) := by
  have hdisc := store_discipline pkgs mandateTtl
  have hkept : Kept pkgs ({} : Store) := ⟨fun h => (by cases h), fun h => (by cases h)⟩
  obtain ⟨hsound, -⟩ := hdisc.run (.nil hkept) hS
  obtain ⟨-, hchanges⟩ := hdisc.run hsound hS'
  obtain ⟨hw', hsucc⟩ := changes_succeeds hsound.inv.task hchanges
  refine ⟨fun id t ht => hsucc ht, fun id t t' d d' ht ht' hd hd' => ?_, fun id t ht hs => ?_,
    fun S₁ hstep id t₁ ht₁ hs₁ => ?_, fun p h hm he => ?_⟩
  · obtain ⟨t₂, ht₂, hs⟩ := hsucc ht
    rw [ht'] at ht₂
    obtain rfl := Option.some.inj ht₂
    have hhead := (hsound.inv.task ht).2.mandate hd
    have hhead' := (hw' ht').2.mandate hd'
    obtain ⟨rest, hrest⟩ := hs.artifacts
    rw [← hrest, List.head?_append, hhead] at hhead'
    exact Option.some.inj hhead'
  · have hw := (hsound.inv.task ht).2
    unfold WellFormed at hw
    rcases hs with hs | hs <;> simp only [hs] at hw
    · obtain ⟨d, ha, hd⟩ := hw
      exact ⟨d, [], ha, hd⟩
    · obtain ⟨d, receiptId, receipt, ha, hd, -⟩ := hw
      exact ⟨d, _, ha, hd⟩
  · cases hstep with
    | start hp => exact ⟨t₁, ht₁, .inl hs₁⟩
    | answer hi ha =>
      obtain ⟨-, hc⟩ := hdisc.answer hsound hi ha
      exact hc.completed ht₁ hs₁
  · obtain ⟨i, hi⟩ := List.mem_iff_getElem?.mp hm
    have hkeeps := (hsound.client hi).2
    rw [he] at hkeeps
    exact hkeeps rfl

/-! ## A schedule -/

/-- The answer of the store to a call, with what the clock and the random sources say; none to a new
task under an id that is taken. -/
def Store.respond (pkgs : Packages) (w : Store) (time : Instant) (text : String) :
    (c : Call) → Option (Store × c.Reply)
  | .now => some (w, time)
  | .uuid4 => some (w, text)
  | .tokenUrlsafe => some (w, text)
  | .createOnce key task =>
    if (w.tasks task.id).isNone then some (w.createOnce pkgs key task) else none
  | .get taskId => some (w, w.tasks taskId)
  | .save task expected => some (w.save task expected)

/-- The `i`-th operation gets a turn. -/
def Agent.turn (pkgs : Packages) (S : Agent) (i : ℕ) (time : Instant) (text : String) : Agent :=
  match S.clients[i]? with
  | some (.await _ c k, h) =>
    match S.shared.respond pkgs time text c with
    | some (w, x) => ⟨w, S.clients.set i (k x, h ++ [⟨c, x⟩])⟩
    | none => S
  | _ => S

lemma Store.respond_answer {pkgs : Packages} {w w' : Store} {time : Instant} {text : String}
    {c : Call} {x : c.Reply} (h : w.respond pkgs time text c = some (w', x)) :
    Store.Answer pkgs w c x w' := by
  cases c with
  | createOnce key task =>
    simp only [Store.respond] at h
    split_ifs at h with hnew
    exact ⟨Option.isNone_iff_eq_none.mp hnew, (Option.some.inj h).symm⟩
  | get taskId =>
    obtain ⟨rfl, rfl⟩ := Prod.mk.inj (Option.some.inj h)
    exact ⟨rfl, rfl⟩
  | save task expected => exact (Option.some.inj h).symm
  | now => exact (Prod.mk.inj (Option.some.inj h)).1.symm
  | uuid4 => exact (Prod.mk.inj (Option.some.inj h)).1.symm
  | tokenUrlsafe => exact (Prod.mk.inj (Option.some.inj h)).1.symm

lemma Agent.turn_steps (pkgs : Packages) (mandateTtl : ℤ) (S : Agent) (i : ℕ) (time : Instant)
    (text : String) :
    Relation.ReflTransGen (Agent.Step pkgs mandateTtl) S (S.turn pkgs i time text) := by
  unfold Agent.turn
  split
  · next s c k h hi =>
    split
    · next w x hx => exact .single (.answer hi (Store.respond_answer hx))
    · exact .refl
  · exact .refl

/-- The last operation gets turns until it is over. -/
def Agent.play (pkgs : Packages) (S : Agent) (turns : List (Instant × String)) : Agent :=
  turns.foldl (fun S t => S.turn pkgs (S.clients.length - 1) t.1 t.2) S

lemma Agent.play_steps (pkgs : Packages) (mandateTtl : ℤ) :
    ∀ (turns : List (Instant × String)) (S : Agent),
      Relation.ReflTransGen (Agent.Step pkgs mandateTtl) S (S.play pkgs turns)
  | [], _ => .refl
  | t :: turns, S => (Agent.turn_steps pkgs mandateTtl S _ t.1 t.2).trans (play_steps _ _ turns _)

/-- Packages under which every request is the same one, and the texts of timestamps are empty. -/
def samplePackages : Packages where
  isoformat _ := ""
  jsonTime _ := ""
  validateRequest _ := some
    { idempotencyKey := "key_1", caseId := "case_1", merchantId := "merchant_1",
      customerId := "customer_1", recoveryActionId := "action_1", failedInvoiceId := "inv_1",
      exactAmountPaise := 49900, currency := "INR",
      paymentSurfaceType := "SUBSCRIPTION_CARD_UPDATE", paymentSurfaceReference := "sub_1",
      expiresAt := ⟨1000, 0⟩
      context :=
        { merchantDisplayName := "Shop", planName := "Plan", failureExplanation := "Declined",
          invoiceState := "OPEN", paymentState := "FAILED", subscriptionState := "PENDING",
          providerSubscriptionState := "pending", preferredLanguage := "en", invoiceDueAt := none,
          recoveryDeadline := ⟨1000, 0⟩ } }
  validateReceipt _ := none
  signerKeyId := "agent_1"
  sign text := text
  Key := Unit
  pinnedKeys := []
  verify _ _ _ := true
  approvalToken _ := none
  sameDict _ _ := true

def sampleMessage : Message where
  messageId := "message_1"
  role := .user
  parts := [[("protocol_version", .str "recovery.request.v2")]]
  taskId := none
  contextId := none
  nonempty := by simp

/-- A task for which the customer is asked. -/
def askedAgent : Agent :=
  Agent.play samplePackages ⟨{}, [(sendMessage samplePackages sampleMessage none, [])]⟩
    [(0, ""), (0, "1"), (0, "2"), (0, "")]

/-- The customer approves. -/
def approvedAgent : Agent :=
  Agent.play samplePackages
    ⟨askedAgent.shared, askedAgent.clients ++ [(decide samplePackages 60 "task_1"
      { decision := .approve, merchantId := "merchant_1", caseId := "case_1",
        exactAmountPaise := 49900, paymentSurfaceReference := "sub_1" } none none, [])]⟩
    [(0, ""), (1, ""), (1, "3"), (1, "4"), (1, "5"), (1, "")]

/-- The task of the sample is worked on with one mandate, which is for its request. -/
theorem task_lifecycle_sample :
    ∃ t, approvedAgent.shared.tasks "task_1" = some t ∧ t.state = .working ∧
      ∃ d rest, t.artifacts = signedArtifact samplePackages d :: rest ∧
        Mandated samplePackages t d := by
  have hasked : Relation.ReflTransGen (Agent.Step samplePackages 60) ⟨{}, []⟩ askedAgent :=
    .trans (.single (.start (.sendMessage sampleMessage))) (Agent.play_steps samplePackages 60 _ _)
  have happroved : Relation.ReflTransGen (Agent.Step samplePackages 60) askedAgent approvedAgent :=
    .trans (.single (.start (.decide _ _ _))) (Agent.play_steps samplePackages 60 _ _)
  have hstate : (approvedAgent.shared.tasks "task_1").map (·.state) = some .working := by
    decide +kernel
  obtain ⟨t, ht, hs⟩ := Option.map_eq_some_iff.mp hstate
  exact ⟨t, ht, hs, (task_lifecycle samplePackages 60 (hasked.trans happroved) .refl).2.2.1 "task_1"
    t ht (.inl hs)⟩

end RecoveryOS.CustomerAgent
