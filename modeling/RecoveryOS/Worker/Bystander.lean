import RecoveryOS.Lib.Moves
import RecoveryOS.Worker.Recovering

/-!
# Steps that stand by

The contact disposition with the suppression flag, and the payment state with the collected arrears,
are each written in two or three places of the workflow. `Apart` is for steps that take no signal
out of the queue and leave the first pair alone, and `Bystander` for those that leave both alone.
Code that stands by and does not have the case reconciled is `Idle`: so is all that is not a handler
of a customer's intent, an opt-out or a payment, except the very first activity of a run.
-/

namespace RecoveryOS.Worker

open Resume

def Entry.isDrained : Entry → Bool
  | .drained _ _ _ => true
  | _ => false

structure Apart (s s' : Workflow) : Prop where
  contactDisposition : s'.contactDisposition = s.contactDisposition
  outreachSuppressed : s'.outreachSuppressed = s.outreachSuppressed
  history : ∃ l : List Entry, s'.history = s.history ++ l ∧ ∀ e ∈ l, e.isDrained = false

structure Bystander (s s' : Workflow) : Prop extends Apart s s' where
  paymentState : s'.paymentState = s.paymentState
  arrears : s'.arrearsCollectedPaise = s.arrearsCollectedPaise

instance : Std.Refl Apart where
  refl _ := ⟨rfl, rfl, [], by simp, by simp⟩

instance : IsTrans Workflow Apart where
  trans a b c h h' := by
    obtain ⟨l, hl, hq⟩ := h.history
    obtain ⟨l', hl', hq'⟩ := h'.history
    refine ⟨h'.contactDisposition.trans h.contactDisposition,
      h'.outreachSuppressed.trans h.outreachSuppressed, l ++ l', ?_, ?_⟩
    · rw [hl', hl, List.append_assoc]
    · intro e he
      rcases List.mem_append.mp he with he | he
      · exact hq e he
      · exact hq' e he

instance : Std.Refl Bystander where
  refl s := ⟨refl_of Apart s, rfl, rfl⟩

instance : IsTrans Workflow Bystander where
  trans _ _ _ h h' := ⟨trans_of Apart h.toApart h'.toApart,
    h'.paymentState.trans h.paymentState, h'.arrears.trans h.arrears⟩

/-- Any request but a reconciliation. -/
def Await.aside : Await → Prop
  | .activity a => a.reconciles = false
  | .waitCondition _ => True

/-- Code that stands by, and does not have the case reconciled. -/
abbrev Idle {α : Type} (c : Wf α) : Prop := Tame Await.aside Bystander c

lemma Idle.apart {α : Type} {c : Wf α} (h : Idle c) : Within Apart c :=
  fun s => (h.within s).mono (fun _ h => h.toApart) fun _ _ h => h.toApart

lemma Apart.of_eq {s s' : Workflow} (hc : s'.contactDisposition = s.contactDisposition)
    (ho : s'.outreachSuppressed = s.outreachSuppressed) (hh : s'.history = s.history) :
    Apart s s' :=
  ⟨hc, ho, [], by simpa using hh, by simp⟩

/-- An update of fields that `Bystander` does not look at. -/
lemma Bystander.of_eq {s s' : Workflow} (hc : s'.contactDisposition = s.contactDisposition)
    (ho : s'.outreachSuppressed = s.outreachSuppressed) (hh : s'.history = s.history)
    (hp : s'.paymentState = s.paymentState)
    (ha : s'.arrearsCollectedPaise = s.arrearsCollectedPaise) : Bystander s s' :=
  ⟨.of_eq hc ho hh, hp, ha⟩

lemma Bystander.record (s : Workflow) {e : Entry} (he : e.isDrained = false) :
    Bystander s (s.record e) :=
  ⟨⟨rfl, rfl, [e], rfl, by simpa using he⟩, rfl, rfl⟩

lemma Apart.finish (s : Workflow) (outcome : CaseOutcome) (reason : String) :
    Apart s (s.finish outcome reason) :=
  ⟨rfl, rfl, [.finished outcome reason], rfl, by simp [Entry.isDrained]⟩

/-- Only a recovered case has its payment state written when it is finished. -/
lemma Bystander.finish (s : Workflow) {outcome : CaseOutcome} (h : outcome ≠ .recovered)
    (reason : String) : Bystander s (s.finish outcome reason) :=
  ⟨.finish s outcome reason, by simp [Workflow.finish, h], rfl⟩

lemma Bystander.resume (s : Workflow) (now : Instant) (arrivals : List QueuedSignal) :
    Bystander s (s.resume now arrivals) := by
  have henqueue : ∀ (t : Workflow) sig, Bystander t (t.enqueue sig) := by
    intro t sig
    unfold Workflow.enqueue
    split_ifs
    · exact .of_eq rfl rfl rfl rfl rfl
    · exact .of_eq rfl rfl rfl rfl rfl
  have h : ∀ (l : List QueuedSignal) (t : Workflow), Bystander t (l.foldl Workflow.enqueue t) := by
    intro l
    induction l with
    | nil => exact fun t => refl_of Bystander t
    | cons sig l ih => exact fun t => trans_of Bystander (henqueue t sig) (ih _)
  have hn : Bystander s { s with now } := .of_eq rfl rfl rfl rfl rfl
  exact trans_of Bystander hn (h arrivals { s with now })

/-! ## The primitive steps -/

lemma activity_within (a : Activity) : Within Bystander (activity a) := by
  intro s
  have hr : Bystander s (s.record (.requested a)) := .record s rfl
  refine ⟨hr, fun x => ?_⟩
  have hx : Bystander s ((s.record (.requested a)).resume x.now x.arrivals) :=
    trans_of Bystander hr (.resume _ _ _)
  cases hres : x.result with
  | none => simpa only [hres, Proc.Meets] using hx
  | some r => simpa only [hres, Proc.Meets] using hx

lemma activity_apart (a : Activity) : Within Apart (activity a) :=
  fun s => (activity_within a s).mono (fun _ h => h.toApart) fun _ _ h => h.toApart

lemma activity_idle {a : Activity} (ha : a.reconciles = false) : Idle (activity a) := by
  refine ⟨activity_within a, fun s => ⟨ha, fun x => ?_⟩⟩
  cases hres : x.result with
  | none => simp only [hres, Proc.Asks]
  | some r => simp only [hres, Proc.Asks]

lemma waitCondition_idle (timeout : ℤ) : Idle (waitCondition timeout) :=
  ⟨fun s => ⟨refl_of Bystander s, fun x => Bystander.resume s x.now x.arrivals⟩,
    fun _ => ⟨trivial, fun _ => trivial⟩⟩

lemma finish_idle {outcome : CaseOutcome} (h : outcome ≠ .recovered) (reason : String) :
    Idle (finish outcome reason) :=
  .modify fun s => .finish s h reason

lemma requireInput_idle : Idle requireInput := by
  refine .bind .read fun s => ?_
  split
  · exact .pure _
  · exact .fail

lemma audit_idle (eventType correlationId : String) (details : List (String × Json)) :
    Idle (audit eventType correlationId details) :=
  .bind .read fun _ => .bind (activity_idle rfl) fun _ => .pure _

lemma cancelActiveAction_idle (reason : String) :
    Idle (cancelActiveAction reason) := by
  refine .bind .read fun s => ?_
  split_ifs
  · exact .pure _
  · exact .pure _
  · refine .bind (activity_idle rfl) fun result => ?_
    split_ifs
    · exact Tame.modify fun _ => .of_eq rfl rfl rfl rfl rfl
    · exact .pure _

/-! ## The handlers -/

lemma handleApproval_idle (sig : ApprovalSignal) :
    Idle (handleApproval sig) := by
  refine .bind .read fun s => ?_
  split_ifs
  · exact audit_idle _ _ _
  · exact .bind (Tame.modify fun _ => .of_eq rfl rfl rfl rfl rfl) fun _ =>
      audit_idle _ _ _

lemma sendA2aReceiptIfApplicable_idle (r : ReconciliationResult) :
    Idle (sendA2aReceiptIfApplicable r) := by
  refine .bind .read fun s => ?_
  split
  · refine .bind requireInput_idle fun command => ?_
    split
    · exact .pure _
    · split_ifs
      · exact .pure _
      · refine .bind (activity_idle rfl) fun receipt => ?_
        split_ifs
        · exact .bind (Tame.modify fun _ => .of_eq rfl rfl rfl rfl rfl) fun _ =>
            audit_idle _ _ _
        · exact audit_idle _ _ _
  · exact .pure _

lemma handleCancellation_idle (sig : CancellationSignal) :
    Idle (handleCancellation sig) :=
  .bind (audit_idle _ _ _) fun _ =>
    .bind (cancelActiveAction_idle _) fun _ => finish_idle (by decide) _

lemma handleOperatorEscalation_idle (sig : OperatorEscalationSignal) :
    Idle (handleOperatorEscalation sig) :=
  .bind (audit_idle _ _ _) fun _ =>
    .bind (cancelActiveAction_idle _) fun _ => finish_idle (by decide) _

lemma handleA2aUpdate_idle (sig : A2AUpdateSignal) :
    Idle (handleA2aUpdate sig) := by
  refine .bind .read fun s => ?_
  split_ifs
  · exact audit_idle _ _ _
  · refine .bind (Tame.modify fun _ => .of_eq rfl rfl rfl rfl rfl) fun _ => ?_
    refine .bind (audit_idle _ _ _) fun _ => ?_
    exact Tame.modify fun _ => .of_eq rfl rfl rfl rfl rfl

lemma handleMandate_idle (sig : MandateSignal) : Idle (handleMandate sig) := by
  refine .bind (audit_idle _ _ _) fun _ => Tame.modify fun _ => ?_
  split_ifs
  · exact refl_of Bystander _
  · exact .of_eq rfl rfl rfl rfl rfl

lemma expire_idle : Idle expire := by
  refine .bind (cancelActiveAction_idle _) fun _ => Tame.modify fun s => ?_
  refine .finish s ?_ _
  unfold Workflow.deadlineOutcome
  split_ifs <;> decide

lemma waitForSignalOrDeadline_idle : Idle waitForSignalOrDeadline := by
  refine .bind .read fun s => ?_
  split
  · exact .pure _
  · dsimp only
    split_ifs
    · exact .pure _
    · exact waitCondition_idle _

lemma checkApprovalDeadline_idle : Idle checkApprovalDeadline := by
  refine .bind (Tame.modify fun s => .record s rfl) fun _ => .bind .read fun s => ?_
  split_ifs
  · exact expire_idle
  · exact .pure _

/-! ## Executing and polling -/

lemma startA2aAuthorization_idle : Idle startA2aAuthorization := by
  refine .bind requireInput_idle fun command => ?_
  have hreject : ∀ reason, Idle (do
      audit "A2A_AUTHORIZATION_REJECTED" "a2a-start" [("reason_code", .str reason)]
      Code.modify ({ · with actionStatus := some "REJECTED" })
      finish .escalated reason : Wf Unit) := fun reason =>
    .bind (audit_idle _ _ _) fun _ =>
      .bind (Tame.modify fun _ => .of_eq rfl rfl rfl rfl rfl) fun _ =>
        finish_idle (by decide) _
  split
  · split
    · refine .bind (activity_idle rfl) fun result => ?_
      exact .bind (Tame.modify fun _ => .of_eq rfl rfl rfl rfl rfl) fun _ =>
        audit_idle _ _ _
    · exact hreject _
  · exact hreject _

lemma executeAction_idle (policy : PolicyResult) (mandate : Option Json) :
    Idle (executeAction policy mandate) := by
  unfold executeAction
  split_ifs
  · exact startA2aAuthorization_idle
  · refine .bind requireInput_idle fun command => ?_
    refine .bind (Tame.modify fun _ => .of_eq rfl rfl rfl rfl rfl) fun _ => ?_
    refine .bind (activity_idle rfl) fun result => ?_
    refine .bind (Tame.modify fun _ => .of_eq rfl rfl rfl rfl rfl) fun _ => ?_
    refine .bind (audit_idle _ _ _) fun _ => ?_
    split_ifs
    · exact finish_idle (by decide) _
    · exact Tame.modify fun _ => .of_eq rfl rfl rfl rfl rfl
    · exact .pure _

lemma beginAction_idle (policy : PolicyResult) : Idle (beginAction policy) := by
  unfold beginAction
  split_ifs
  · exact finish_idle (by decide) _
  · exact Tame.modify fun _ => .of_eq rfl rfl rfl rfl rfl
  · exact executeAction_idle policy none

lemma pollA2aIfDue_idle : Idle pollA2aIfDue := by
  have hm : ∀ {f : Workflow → Workflow}, (∀ s, Bystander s (f s)) →
      Idle (Code.modify f : Wf Unit) := Tame.modify
  have hescalate : ∀ reason, Idle (do
      Code.modify ({ · with nextA2aPollAt := none, actionStatus := some "REJECTED" })
      finish .escalated reason : Wf Unit) := fun reason =>
    .bind (hm fun _ => .of_eq rfl rfl rfl rfl rfl) fun _ => finish_idle (by decide) _
  refine .bind .read fun s => ?_
  split
  · split_ifs
    · exact .pure _
    · refine .bind requireInput_idle fun command => ?_
      split
      · split
        · refine .bind (activity_idle rfl) fun result => ?_
          refine .bind (hm fun _ => .of_eq rfl rfl rfl rfl rfl) fun _ => ?_
          split_ifs
          · exact hm fun _ => .of_eq rfl rfl rfl rfl rfl
          · refine .bind (hm fun _ => .of_eq rfl rfl rfl rfl rfl) fun _ => ?_
            refine .bind (audit_idle _ _ _) fun _ => ?_
            split_ifs
            · exact .bind (hm fun _ => .of_eq rfl rfl rfl rfl rfl) fun _ =>
                finish_idle (by decide) _
            · exact .bind (hm fun _ => .of_eq rfl rfl rfl rfl rfl) fun _ =>
                executeAction_idle _ _
        · exact hescalate _
      · exact hescalate _
  · exact .pure _

lemma adoptPolicy_idle (policy : PolicyResult) : Idle (adoptPolicy policy) :=
  .bind (Tame.modify fun _ => .of_eq rfl rfl rfl rfl rfl) fun _ => audit_idle _ _ _

/-! ## Money -/

lemma applyReconciliation_apart (s : Workflow) (r : ReconciliationResult) :
    Apart s (s.applyReconciliation r) := by
  unfold Workflow.applyReconciliation
  split_ifs
  · exact .of_eq rfl rfl rfl
  · exact refl_of Apart s

lemma recoverIfAuthoritative_apart (r : ReconciliationResult) (reason : String) :
    Within Apart (recoverIfAuthoritative r reason) := by
  unfold recoverIfAuthoritative
  split_ifs
  · refine .bind (sendA2aReceiptIfApplicable_idle r).apart fun _ => ?_
    refine .bind (cancelActiveAction_idle _).apart fun _ => ?_
    exact .modify fun s => .finish s _ reason
  · exact .pure _

lemma handlePayment_apart (sig : PaymentEventSignal) : Within Apart (handlePayment sig) := by
  refine .bind (requireInput_idle.apart) fun command => ?_
  refine .bind (activity_apart _) fun r => ?_
  refine .bind (.modify fun s => applyReconciliation_apart s r) fun _ => ?_
  refine .bind (audit_idle _ _ _).apart fun _ => ?_
  exact recoverIfAuthoritative_apart r _

lemma decidePolicy_apart (host : Host) (workflowId : String) (command : RecoveryWorkflowInput) :
    Within Apart (decidePolicy host workflowId command) := by
  have hm : ∀ {f : Workflow → Workflow}, (∀ s, (f s).contactDisposition = s.contactDisposition) →
      (∀ s, (f s).outreachSuppressed = s.outreachSuppressed) →
      (∀ s, (f s).history = s.history) → Within Apart (Code.modify f : Wf Unit) :=
    fun hc ho hh => .modify fun s => .of_eq (hc s) (ho s) (hh s)
  have ha : ∀ a, Within Apart (activity a) := fun a => activity_apart a
  unfold decidePolicy
  split_ifs
  · exact .fail
  · exact .fail
  · refine .bind (hm (fun _ => rfl) (fun _ => rfl) fun _ => rfl) fun _ => ?_
    split
    · exact .fail
    · refine .bind (hm (fun _ => rfl) (fun _ => rfl) fun _ => rfl) fun _ => ?_
      refine .bind (ha _) fun normalized => ?_
      refine .bind (hm (fun _ => rfl) (fun _ => rfl) fun _ => rfl) fun _ => ?_
      refine .bind (ha _) fun diagnosis => ?_
      refine .bind (hm (fun _ => rfl) (fun _ => rfl) fun _ => rfl) fun _ => ?_
      refine .bind (ha _) fun _ => ?_
      refine .bind (hm (fun _ => rfl) (fun _ => rfl) fun _ => rfl) fun _ => ?_
      exact ha _

end RecoveryOS.Worker
