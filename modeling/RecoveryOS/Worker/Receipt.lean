import RecoveryOS.Worker.Aside

/-!
# The payment receipt

A receipt tells the customer's agent that the debt is paid. It names a mandate that a poll of the
same run accepted, and a payment that a reconciliation of the same run found captured for exactly the
amount at risk (`Backed`). The handler that sends it finishes the case, so a run sends one receipt at
most, whatever the reply to it is.
-/

namespace RecoveryOS.Worker

open Resume

/-- The receipts of a history. -/
def receipts (h : List Entry) : List SendA2APaymentReceiptInput :=
  h.filterMap fun
    | .requested (.sendA2APaymentReceipt receipt) => some receipt
    | _ => none

/-- A poll was answered with this mandate, verified. -/
def Accepted (mandateId : String) (h : Log) : Prop :=
  ∃ command x r, ⟨.activity (.pollA2AMandate command), x⟩ ∈ h ∧ x.result = some r ∧
    r.verificationStatus = "VERIFIED" ∧ r.mandateId = some mandateId ∧
    r.verifiedArtifact.isSome = true

/-- A reconciliation was answered with the amount at risk, captured under this reference. -/
def Collected (command : RecoveryWorkflowInput) (reference : String) (h : Log) : Prop :=
  ∃ request x r, ⟨.activity (.reconcileCase request), x⟩ ∈ h ∧ x.result = some r ∧
    r.authoritative = true ∧ r.caseRecovered = true ∧ r.paymentState = "CAPTURED" ∧
    r.providerReference = some reference ∧
    r.arrearsCollectedPaise = command.amountAtRiskPaise

structure Backed (command : RecoveryWorkflowInput) (h : Log)
    (receipt : SendA2APaymentReceiptInput) : Prop where
  accepted : Accepted receipt.mandateId h
  collected : Collected command receipt.providerReference h
  amount : receipt.exactAmountPaise = command.amountAtRiskPaise
  key : receipt.idempotencyKey =
    receipt.remoteTaskId ++ ":" ++ receipt.mandateId ++ ":recovery.receipt.v2"

/-- What holds at every request of a run. -/
structure Receipts (command : RecoveryWorkflowInput) (h : Log) (s : Workflow) : Prop where
  backed : ∀ receipt ∈ receipts s.history, Backed command h receipt
  once : (receipts s.history).length ≤ 1

/-- What holds between two steps: the mandate of the case was accepted. -/
structure Sound (command : RecoveryWorkflowInput) (h : Log) (s : Workflow) : Prop
    extends Receipts command h s where
  input : s.input = some command
  mandate : ∀ m, s.a2aMandateId = some m → Accepted m h

/-- What holds between two handlers: while the case is open no receipt was sent. -/
structure Ready (command : RecoveryWorkflowInput) (h : Log) (s : Workflow) : Prop
    extends Sound command h s where
  unsent : s.terminal = false → receipts s.history = []

def Activity.isReceipt : Activity → Bool
  | .sendA2APaymentReceipt _ => true
  | _ => false

def noReceipt (a : Activity) : Bool := !a.isReceipt

lemma noReceipt_of_incidental : ∀ a : Activity, a.incidental = true → noReceipt a = true := by
  intro a ha
  cases a <;> first | rfl | exact absurd ha (by simp [Activity.incidental])

lemma noReceipt_of_executes : ∀ a : Activity, a.executes = true → noReceipt a = true := by
  intro a ha
  cases a <;> first | rfl | exact absurd ha (by simp [Activity.executes])

section
variable {command : RecoveryWorkflowInput} {h h' : Log} {s s' : Workflow}

lemma Accepted.mono {m : String} (ha : Accepted m h) (hh : h <+: h') : Accepted m h' := by
  obtain ⟨request, x, r, hx, hr⟩ := ha
  exact ⟨request, x, r, hh.subset hx, hr⟩

lemma Backed.mono {receipt : SendA2APaymentReceiptInput} (hb : Backed command h receipt)
    (hh : h <+: h') : Backed command h' receipt := by
  obtain ⟨request, x, r, hx, hr⟩ := hb.collected
  exact ⟨hb.accepted.mono hh, ⟨request, x, r, hh.subset hx, hr⟩, hb.amount, hb.key⟩

lemma receipts_append (l l' : List Entry) : receipts (l ++ l') = receipts l ++ receipts l' :=
  List.filterMap_append

lemma receipts_of_requests {l : List Activity} (hl : ∀ a ∈ l, noReceipt a = true) :
    receipts (l.map .requested) = [] := by
  rw [receipts, List.filterMap_map, List.filterMap_eq_nil_iff]
  intro a ha
  have hn : noReceipt a = true := hl a ha
  cases a <;> first | rfl | cases hn

lemma Plain.receipts_eq (hp : Plain noReceipt s s') :
    receipts s'.history = receipts s.history := by
  obtain ⟨l, hl, hok⟩ := hp.history
  rw [hl, receipts_append, receipts_of_requests hok, List.append_nil]

lemma Receipts.of_eq (hr : Receipts command h s) (hh : h <+: h')
    (he : receipts s'.history = receipts s.history) : Receipts command h' s' := by
  refine ⟨fun receipt hm => ?_, ?_⟩
  · rw [he] at hm
    exact (hr.backed receipt hm).mono hh
  · rw [he]
    exact hr.once

/-- The steps that send no receipt and accept no mandate. -/
lemma Sound.aside (hs : Sound command h s) (hh : h <+: h') (hq : Aside noReceipt s s') :
    Sound command h' s' where
  toReceipts := hs.toReceipts.of_eq hh hq.receipts_eq
  input := hq.input.trans hs.input
  mandate m hm := (hs.mandate m (hq.a2aMandateId ▸ hm)).mono hh

lemma Ready.aside (hr : Ready command h s) (hh : h <+: h') (hq : Aside noReceipt s s') :
    Ready command h' s' where
  toSound := hr.toSound.aside hh hq
  unsent ht := hq.receipts_eq.trans (hr.unsent (hq.terminal ▸ ht))

lemma receipts_snoc {e : Entry} (he : receipts [e] = []) :
    receipts (s.history ++ [e]) = receipts s.history := by
  rw [receipts_append, he, List.append_nil]

lemma Sound.finish (hs : Sound command h s) (o : CaseOutcome) (r : String) :
    Ready command h (s.finish o r) where
  toReceipts := hs.toReceipts.of_eq (List.prefix_refl h) (receipts_snoc rfl)
  input := hs.input
  mandate := hs.mandate
  unsent ht := absurd ht (by simp [Workflow.finish])

/-- An entry of the history that is no request. -/
lemma Ready.record (hr : Ready command h s) {e : Entry} (he : receipts [e] = [])
    (hinput : s'.input = s.input) (hmandate : s'.a2aMandateId = s.a2aMandateId)
    (hterm : s'.terminal = s.terminal) (hh : s'.history = s.history ++ [e]) :
    Ready command h s' := by
  have hsame : receipts s'.history = receipts s.history := by rw [hh, receipts_snoc he]
  refine ⟨⟨hr.toReceipts.of_eq (List.prefix_refl h) hsame, hinput.trans hr.input, ?_⟩, ?_⟩
  · intro m hm
    exact hr.mandate m (hmandate ▸ hm)
  · intro ht
    rw [hsame]
    exact hr.unsent (hterm ▸ ht)

lemma Sound.tells {α : Type} {c : Wf α} (hc : Within (Aside noReceipt) c)
    (hs : Sound command h s) :
    (c s).Tells (Receipts command) (fun h' s' _ => Sound command h' s') h :=
  ((hc s).tells h).mono (fun _ _ hq => (hs.aside hq.1 hq.2).toReceipts)
    fun _ _ _ hq => hs.aside hq.1 hq.2

lemma Ready.tells {α : Type} {c : Wf α}
    (hc : Leads (Aside noReceipt) (Settles (Aside noReceipt)) c) (hr : Ready command h s) :
    (c s).Tells (Receipts command) (fun h' s' _ => Ready command h' s') h := by
  refine ((hc s).tells h).mono (fun _ _ hq => (hr.aside hq.1 hq.2).toReceipts) fun h' s' _ hq => ?_
  rcases hq.2 with hp | ⟨t, o, r, hp, rfl⟩
  · exact hr.aside hq.1 hp
  · exact (hr.toSound.aside hq.1 hp).finish o r

/-- A step that neither sends a receipt nor ends the case. -/
lemma Ready.tells_open {α : Type} {c : Wf α} (hc : Within (Aside noReceipt) c)
    (hr : Ready command h s) (ht : s.terminal = false) :
    (c s).Tells (Receipts command)
      (fun h' s' _ => Ready command h' s' ∧ s'.terminal = false ∧ h <+: h') h :=
  ((hc s).tells h).mono (fun _ _ hq => (hr.aside hq.1 hq.2).toReceipts)
    fun _ _ _ hq => ⟨hr.aside hq.1 hq.2, hq.2.terminal.trans ht, hq.1⟩

/-- An activity that is no receipt, with its reply on the log. -/
lemma Ready.activity {a : Activity} (ha : noReceipt a = true) (hr : Ready command h s)
    (ht : s.terminal = false) :
    (activity a s).Tells (Receipts command) (fun h' s' r => Ready command h' s' ∧
      s'.terminal = false ∧ ∃ x, ⟨.activity a, x⟩ ∈ h' ∧ x.result = some r) h := by
  have hq : Aside noReceipt s (s.record (.requested a)) := .request s ha
  have hx : ∀ now arrivals, Aside noReceipt s ((s.record (.requested a)).resume now arrivals) :=
    fun _ _ => trans_of (Aside noReceipt) hq (.resume _ _ _)
  refine activity_tells (hr.aside (List.prefix_refl h) hq).toReceipts
    (fun x => (hr.aside (List.prefix_append h _) (hx _ _)).toReceipts) fun x r hres => ?_
  exact ⟨hr.aside (List.prefix_append h _) (hx _ _), (hx _ _).terminal.trans ht, x,
    List.mem_append_right h List.mem_cons_self, hres⟩

/-- The first receipt of a run. -/
lemma Ready.receipt_tells (hr : Ready command h s) (ht : s.terminal = false)
    {receipt : SendA2APaymentReceiptInput} (hb : Backed command h receipt) :
    (Worker.activity (.sendA2APaymentReceipt receipt) s).Tells (Receipts command)
      (fun h' s' _ => Sound command h' s') h := by
  have hone : receipts (s.record (.requested (.sendA2APaymentReceipt receipt))).history
      = [receipt] := by
    rw [Workflow.record, receipts_append, hr.unsent ht]
    rfl
  have hsound : Sound command h (s.record (.requested (.sendA2APaymentReceipt receipt))) := by
    refine ⟨⟨fun c hc => ?_, ?_⟩, hr.input, hr.mandate⟩
    · rw [hone, List.mem_singleton] at hc
      rw [hc]
      exact hb
    · rw [hone]
      rfl
  exact ((activity_requested _ s).tells h).mono (fun _ _ hq => (hsound.aside hq.1 hq.2).toReceipts)
    fun _ _ _ hq => hsound.aside hq.1 hq.2

/-! ## The handlers -/

/-- The receipt of a reconciliation of this run. -/
lemma sendA2aReceiptIfApplicable_tells (hr : Ready command h s) (ht : s.terminal = false)
    {request : ReconciliationInput} {x : (Await.activity (.reconcileCase request)).Reply}
    {r : ReconciliationResult} (hx : ⟨.activity (.reconcileCase request), x⟩ ∈ h)
    (hres : x.result = some r) :
    (sendA2aReceiptIfApplicable r s).Tells (Receipts command)
      (fun h' s' _ => Sound command h' s') h := by
  simp only [sendA2aReceiptIfApplicable, Code.bind_apply, Code.read_apply, Proc.bind]
  cases hsent : s.a2aReceiptSent with
  | true => exact hr.toSound
  | false =>
    cases htask : s.a2aTaskId with
    | none => exact hr.toSound
    | some taskId =>
      cases hmandate : s.a2aMandateId with
      | none => exact hr.toSound
      | some mandateId =>
        simp only [requireInput, Code.bind_apply, Code.read_apply, Proc.bind, hr.input,
          Code.pure_apply]
        cases href : r.providerReference with
        | none => exact hr.toSound
        | some reference =>
          dsimp only
          split_ifs with hbad
          · exact hr.toSound
          · simp only [not_or, not_not, Bool.not_eq_false] at hbad
            obtain ⟨hcaptured, hauth, hrec, hamount⟩ := hbad
            refine Proc.Tells.bind (fun h₁ s₁ answer hs₁ => ?_)
              (hr.receipt_tells ht ⟨hr.mandate mandateId hmandate,
                ⟨request, x, r, hx, hres, hauth, hrec, hcaptured, href, hamount⟩, rfl, rfl⟩)
            refine hs₁.tells ?_
            split_ifs
            · exact .bind (modify_aside fun _ => .of_eq rfl rfl rfl rfl rfl rfl rfl rfl rfl rfl) fun _ =>
                audit_aside noReceipt_of_incidental _ _ _
            · exact audit_aside noReceipt_of_incidental _ _ _

lemma recoverIfAuthoritative_tells (hr : Ready command h s) (ht : s.terminal = false)
    {request : ReconciliationInput} {x : (Await.activity (.reconcileCase request)).Reply}
    {r : ReconciliationResult} (hx : ⟨.activity (.reconcileCase request), x⟩ ∈ h)
    (hres : x.result = some r) (reason : String) :
    (recoverIfAuthoritative r reason s).Tells (Receipts command)
      (fun h' s' _ => Ready command h' s') h := by
  unfold recoverIfAuthoritative
  split_ifs
  · refine Proc.Tells.bind (fun h₁ s₁ _ hs₁ => ?_) (sendA2aReceiptIfApplicable_tells hr ht hx hres)
    refine Proc.Tells.bind (fun h₂ s₂ _ hs₂ => ?_)
      (hs₁.tells (cancelActiveAction_aside noReceipt_of_incidental _))
    exact hs₂.finish _ _
  · exact hr

lemma handlePayment_tells (sig : PaymentEventSignal) (hr : Ready command h s)
    (ht : s.terminal = false) :
    (handlePayment sig s).Tells (Receipts command) (fun h' s' _ => Ready command h' s') h := by
  simp only [handlePayment, requireInput, Code.bind_apply, Code.read_apply, Proc.bind, hr.input,
    Code.pure_apply]
  refine Proc.Tells.bind (fun h₁ s₁ r hs₁ => ?_) (hr.activity rfl ht)
  obtain ⟨hr₁, ht₁, x, hx, hres⟩ := hs₁
  have happlied : Aside noReceipt s₁ (s₁.applyReconciliation r) := applyReconciliation_aside s₁ r
  refine Code.modify_then_tells (Proc.Tells.bind (fun h₂ s₂ _ hs₂ => ?_)
    ((hr₁.aside (List.prefix_refl _) happlied).tells_open
      (audit_aside noReceipt_of_incidental _ _ _) (happlied.terminal.trans ht₁)))
  exact recoverIfAuthoritative_tells hs₂.1 hs₂.2.1 (hs₂.2.2.subset hx) hres _

lemma handleCustomerIntent_tells (host : Host) (sig : CustomerIntentSignal)
    (hr : Ready command h s) (ht : s.terminal = false) :
    (handleCustomerIntent host sig s).Tells (Receipts command)
      (fun h' s' _ => Ready command h' s') h := by
  have hm : Aside noReceipt s
      { s with contactDisposition := (intentDisposition (host.upper sig.intent)).1 } :=
    .of_eq rfl rfl rfl rfl rfl rfl rfl rfl rfl rfl
  by_cases hpaid : host.upper sig.intent = "ALREADY_PAID"
  · refine Code.modify_then_tells (Proc.Tells.bind (fun h₁ s₁ _ hs₁ => ?_)
      ((hr.aside (List.prefix_refl h) hm).tells_open (audit_aside noReceipt_of_incidental _ _ _) ht))
    obtain ⟨hr₁, ht₁, -⟩ := hs₁
    rw [if_neg (by simp [hpaid]), if_neg (by simp [hpaid]), if_pos hpaid]
    simp only [requireInput, Code.bind_apply, Code.read_apply, Proc.bind, hr₁.input,
      Code.pure_apply]
    refine Proc.Tells.bind (fun h₂ s₂ r hs₂ => ?_) (hr₁.activity rfl ht₁)
    obtain ⟨hr₂, ht₂, x, hx, hres⟩ := hs₂
    have happlied : Aside noReceipt s₂ (s₂.applyReconciliation r) := applyReconciliation_aside s₂ r
    exact recoverIfAuthoritative_tells (hr₂.aside (List.prefix_refl _) happlied)
      (happlied.terminal.trans ht₂) hx hres _
  · have hsig : (QueuedSignal.customerIntent sig).reconciles host = false := by
      simpa [QueuedSignal.reconciles] using hpaid
    exact hr.tells (settles_of_in (handle_aside noReceipt_of_incidental host (.customerIntent sig)
      (fun hc => absurd (hsig.symm.trans hc) (by simp)) (by simp)))

lemma handleApproval_tells (sig : ApprovalSignal) (hr : Ready command h s) :
    (handleApproval sig s).Tells (Receipts command) (fun h' s' _ => Ready command h' s') h := by
  simp only [handleApproval, Code.bind_apply, Code.read_apply, Proc.bind]
  split_ifs
  · exact hr.tells (settles_of_within (audit_aside noReceipt_of_incidental _ _ _))
  · have hr' : Ready command h { s with approvalReceived := some sig.approved } :=
      ⟨⟨⟨hr.backed, hr.once⟩, hr.input, hr.mandate⟩, hr.unsent⟩
    exact Code.modify_then_tells
      (hr'.tells (settles_of_within (audit_aside noReceipt_of_incidental _ _ _)))

lemma drainOne_receipt (host : Host) (hr : Ready command h s) (ht : s.terminal = false) :
    (drainOne host s).Tells (Receipts command) (fun h' s' _ => Ready command h' s') h := by
  simp only [drainOne, Code.bind_apply, Code.read_apply, Proc.bind]
  cases s.signals with
  | nil => exact hr
  | cons sig rest =>
    have hr' : Ready command h (s.take sig rest) := hr.record rfl rfl rfl rfl rfl
    refine Code.modify_then_tells ?_
    have hother : sig.reconciles host = false → (∀ a, sig ≠ .approval a) →
        (handle host sig (s.take sig rest)).Tells (Receipts command)
          (fun h' s' _ => Ready command h' s') h := fun hsig hne =>
      hr'.tells (settles_of_in (handle_aside noReceipt_of_incidental host sig
        (fun hc => absurd (hsig.symm.trans hc) (by simp)) hne))
    cases sig with
    | paymentEvent sig => exact handlePayment_tells sig hr' ht
    | customerIntent sig => exact handleCustomerIntent_tells host sig hr' ht
    | approval sig => exact handleApproval_tells sig hr'
    | optOut sig => exact hother rfl (by simp)
    | cancellation sig => exact hother rfl (by simp)
    | operatorEscalation sig => exact hother rfl (by simp)
    | a2aUpdate sig => exact hother rfl (by simp)
    | mandate sig => exact hother rfl (by simp)

theorem ready_enduring (host : Host) (command : RecoveryWorkflowInput) :
    Enduring host (Receipts command) (Ready command) (Ready command) where
  node hr := hr.toReceipts
  wait timeout hr _ := hr.tells (settles_of_within (waitCondition_aside timeout))
  drainOne hr ht := drainOne_receipt host hr ht
  expire hr := hr.tells (expire_aside noReceipt_of_incidental)
  due hr _ _ := hr
  checked hr _ := ⟨hr.record rfl rfl rfl rfl rfl, fun _ => hr.record rfl rfl rfl rfl rfl⟩

/-! ## The run -/

/-- The poll is where a mandate is accepted. -/
lemma pollA2aIfDue_receipt (hr : Ready command h s) (ht : s.terminal = false) :
    (pollA2aIfDue s).Tells (Receipts command) (fun h' s' _ => Ready command h' s') h := by
  have hreject : ∀ reason, Leads (Aside noReceipt) (Settles (Aside noReceipt)) (do
      Code.modify ({ · with nextA2aPollAt := none, actionStatus := some "REJECTED" })
      finish .escalated reason) := fun reason =>
    settles_bind (modify_aside fun _ => .of_eq rfl rfl rfl rfl rfl rfl rfl rfl rfl rfl) fun _ =>
      finish_settles _ _
  simp only [pollA2aIfDue, Code.bind_apply, Code.read_apply, Proc.bind]
  cases s.a2aTaskId with
  | none => exact hr
  | some taskId =>
    cases s.nextA2aPollAt with
    | none => exact hr
    | some pollAt =>
      dsimp only
      split_ifs
      · exact hr
      · simp only [requireInput, Code.bind_apply, Code.read_apply, Proc.bind, hr.input,
          Code.pure_apply]
        cases command.paymentSurfaceType with
        | none => exact hr.tells (hreject _)
        | some surfaceType =>
        cases expectedPaymentSurfaceReference command with
        | none => exact hr.tells (hreject _)
        | some surfaceReference =>
        cases command.recoveryActionId with
        | none => exact hr.tells (hreject _)
        | some actionId =>
        cases command.failedInvoiceId with
        | none => exact hr.tells (hreject _)
        | some invoiceId =>
          refine Proc.Tells.bind (fun h₁ s₁ r hs₁ => ?_) (hr.activity rfl ht)
          obtain ⟨hr₁, ht₁, x, hx, hres⟩ := hs₁
          refine Proc.Tells.bind (fun h₂ s₂ _ hs₂ => ?_) (hr₁.tells_open
            (modify_aside fun _ => .of_eq rfl rfl rfl rfl rfl rfl rfl rfl rfl rfl) ht₁)
          obtain ⟨hr₂, ht₂, hh₂⟩ := hs₂
          dsimp only
          split
          · exact hr₂.tells (settles_of_within
              (modify_aside fun _ => .of_eq rfl rfl rfl rfl rfl rfl rfl rfl rfl rfl))
          · refine Proc.Tells.bind (fun h₃ s₃ _ hs₃ => ?_) (hr₂.tells_open
              (modify_aside fun _ => .of_eq rfl rfl rfl rfl rfl rfl rfl rfl rfl rfl) ht₂)
            refine Proc.Tells.bind (fun h₄ s₄ _ hs₄ => ?_)
              (hs₃.1.tells_open (audit_aside noReceipt_of_incidental _ _ _) hs₃.2.1)
            obtain ⟨hr₄, ht₄, hh₄⟩ := hs₄
            split_ifs with haccepted
            · exact hr₄.tells (settles_bind
                (modify_aside fun _ => .of_eq rfl rfl rfl rfl rfl rfl rfl rfl rfl rfl) fun _ =>
                  finish_settles _ _)
            · simp only [Bool.not_eq_false, Bool.and_eq_true, decide_eq_true_eq] at haccepted
              obtain ⟨⟨hverified, -⟩, hartifact⟩ := haccepted
              have hx₄ : _ ∈ h₄ := hh₄.subset (hs₃.2.2.subset (hh₂.subset hx))
              have hr₅ : Ready command h₄
                  { s₄ with mandateReceived := true, a2aMandateId := r.mandateId } := by
                refine ⟨⟨⟨hr₄.backed, hr₄.once⟩, hr₄.input, fun m hm => ?_⟩, hr₄.unsent⟩
                exact ⟨_, x, r, hx₄, hres, hverified, hm, hartifact⟩
              exact Code.modify_then_tells (hr₅.tells (settles_of_in
                (executeAction_aside noReceipt_of_incidental noReceipt_of_executes _ _)))

lemma noReceipt_of_assesses : ∀ a : Activity, a.assesses = true → noReceipt a = true := by
  intro a ha
  cases a <;> first | rfl | exact absurd ha (by simp [Activity.assesses])

lemma Receipts.of_nil (hnil : receipts s.history = []) : Receipts command h s := by
  refine ⟨fun receipt hm => ?_, ?_⟩
  · rw [hnil] at hm
    cases hm
  · rw [hnil]
    exact Nat.zero_le 1

lemma decidePolicy_receipt (host : Host) (workflowId : String) (command : RecoveryWorkflowInput)
    (hnil : receipts s.history = []) (hmandate : s.a2aMandateId = none) :
    (decidePolicy host workflowId command s).Tells (Receipts command)
      (fun h' s' _ => Ready command h' s') h := by
  have hpre : Preliminary command
      (fun t => receipts t.history = [] ∧ t.a2aMandateId = none)
      fun t => receipts t.history = [] ∧ t.a2aMandateId = none ∧ t.input = some command := by
    refine ⟨fun ht => ht, fun _ ht => ⟨ht.1, ht.2, rfl⟩, fun ht hq => ?_⟩
    have hq' := hq.mono noReceipt_of_assesses
    exact ⟨hq'.receipts_eq.trans ht.1, hq.a2aMandateId.trans ht.2.1, hq.input.trans ht.2.2⟩
  refine ((hpre.decidePolicy host workflowId ⟨hnil, hmandate⟩).tells h).mono (fun h' t ht => ?_)
    fun h' t _ ht => ?_
  · exact .of_nil (ht.2.elim (·.1) (·.1))
  · refine ⟨⟨.of_nil ht.2.1, ht.2.2.2, fun m hm => ?_⟩, fun _ => ht.2.1⟩
    rw [ht.2.2.1] at hm
    cases hm

theorem run_receipts (host : Host) (rounds : ℕ) (workflowId : String)
    (command : RecoveryWorkflowInput) (hnil : receipts s.history = [])
    (hmandate : s.a2aMandateId = none) :
    (run host rounds workflowId command s).Tells (Receipts command)
      (fun h' s' _ => Receipts command h' s') h := by
  have hI := ready_enduring host command
  have hsame : ∀ {h₁ : Log} {s₁ s₂ : Workflow}, Ready command h₁ s₁ → s₂.history = s₁.history →
      s₂.input = s₁.input → s₂.a2aMandateId = s₁.a2aMandateId → s₂.terminal = s₁.terminal →
      Ready command h₁ s₂ := by
    intro h₁ s₁ s₂ hr hh hi hm ht
    exact ⟨⟨hr.toReceipts.of_eq (List.prefix_refl _) (by rw [hh]), hi.trans hr.input,
      fun m h => hr.mandate m (hm ▸ h)⟩, fun h => by rw [hh]; exact hr.unsent (ht ▸ h)⟩
  refine Proc.Tells.bind (fun h₁ s₁ policy hr₁ => ?_)
    (decidePolicy_receipt host workflowId command hnil hmandate)
  have hr₁' : Ready command h₁ { s₁ with
      policyDisposition := some policy.disposition, action := some policy.action } :=
    hsame hr₁ rfl rfl rfl rfl
  refine Proc.Tells.bind (fun h₂ s₂ _ hr₂ => ?_)
    (((adoptPolicy_aside noReceipt_of_incidental policy s₁).tells h₁).mono
      (fun _ _ hq => (hr₁'.aside hq.1 hq.2).toReceipts) fun _ _ _ hq => hr₁'.aside hq.1 hq.2)
  split_ifs
  · exact (hr₂.toSound.finish _ _).toReceipts
  · refine Proc.Tells.bind (fun h₃ s₃ go hr₃ => ?_) (hI.awaitPolicy rounds policy hr₂
      (fun _ => hsame hr₂ rfl rfl rfl rfl) (hsame hr₂ rfl rfl rfl rfl)
      (fun _ _ _ => hsame hr₂ rfl rfl rfl rfl) fun hr => hr.toSound.finish _ _)
    cases go with
    | false => exact hr₃.1.toReceipts
    | true =>
      refine Proc.Tells.bind (fun h₄ s₄ _ hr₄ => ?_) (hr₃.1.tells (settles_of_in
        (beginAction_aside noReceipt_of_incidental noReceipt_of_executes policy)))
      exact (hI.awaitRecovery (fun _ hr => hsame hr rfl rfl rfl rfl) pollA2aIfDue_receipt rounds
        hr₄).mono (fun _ _ hr => hr) fun _ _ _ hr => hr.toReceipts

end

lemma mem_receipts {l : List Entry} {receipt : SendA2APaymentReceiptInput} :
    receipt ∈ receipts l ↔ .requested (.sendA2APaymentReceipt receipt) ∈ l := by
  rw [receipts, List.mem_filterMap]
  refine ⟨fun ⟨e, he, hr⟩ => ?_, fun h => ⟨_, h, rfl⟩⟩
  split at hr
  · obtain rfl := Option.some.inj hr
    exact he
  · cases hr

/-- At every point of a run, a receipt was requested only after a poll had accepted its mandate and a
reconciliation had found the amount at risk captured; and no second one is requested, whatever the
first was answered. -/
theorem receipt_exact (host : Host) (rounds : ℕ) (workflowId : String)
    (command : RecoveryWorkflowInput) (now : Instant) (arrivals : List QueuedSignal)
    (env : ℕ → (r : Await) → r.Reply) (n : ℕ) :
    (∀ receipt, .requested (.sendA2APaymentReceipt receipt) ∈
        ((run host rounds workflowId command (start now arrivals)).follow env n).state.history →
      Backed command ((run host rounds workflowId command (start now arrivals)).exchanges env n)
        receipt) ∧
    ∀ l receipt l', ((run host rounds workflowId command (start now arrivals)).follow env
        n).state.history = l ++ .requested (.sendA2APaymentReceipt receipt) :: l' →
      ∀ other, .requested (.sendA2APaymentReceipt other) ∉ l ++ l' := by
  have hq : Aside noReceipt ({ now } : Workflow) (start now arrivals) := .resume _ now arrivals
  have hrun := (run_receipts (h := []) host rounds workflowId command hq.receipts_eq
    hq.a2aMandateId).follow n env
  rw [List.nil_append] at hrun
  have hr := hrun.state fun _ _ _ h => h
  refine ⟨fun receipt hm => hr.backed receipt (mem_receipts.mpr hm), fun l receipt l' hl other hm => ?_⟩
  have hone := hr.once
  rw [hl, receipts_append, show receipts (.requested (.sendA2APaymentReceipt receipt) :: l') =
    receipt :: receipts l' from rfl] at hone
  have hother := mem_receipts.mpr hm
  rw [receipts_append] at hother
  have hpos := List.length_pos_of_mem hother
  simp only [List.length_append, List.length_cons] at hone hpos
  omega

/-- A customer's agent that answers with a mandate at once, and a payment that is sent after the
surface was opened. -/
def receiptEnv : ℕ → (r : Await) → r.Reply :=
  wellEnv
    { disposition := "ALLOW", decisionCode := "OK", action := "SEND_TO_CUSTOMER_AGENT",
      paymentSurfaceType := none }
    (fun k => 1000 * k) fun k =>
      if k = 10 then
        [.paymentEvent
          { signalId := "s1", providerEventId := "evt_1", paymentState := "CAPTURED",
            amountPaise := 49900, authoritative := true }]
      else []

/-- A run that does send its receipt. -/
example : (receipts ((run sampleHost 9 "recovery-case:case_1"
    { sampleInput with paymentSurfaceType := some "SUBSCRIPTION_CARD_UPDATE" }
    (start 0 [])).follow receiptEnv 16).state.history).map (·.idempotencyKey) =
    ["task_1:mandate_1:recovery.receipt.v2"] := by
  decide +kernel

end RecoveryOS.Worker
