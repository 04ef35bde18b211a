import RecoveryOS.Webhook.Evolution

/-!
# What applying an event leaves alone

Each part of the processor writes its tables and no others. The frame of a part is stated for any
property that does not see what the part writes; `applyMessage_keeps` is the frame of the whole
transaction, which writes neither the mail nor the decisions, and only ever cancels actions.
-/

namespace RecoveryOS.Webhook

open Store

section
variable {platform : Platform} {call : Call} {payload : RazorpayOutboxPayload}
  {P : Database → Prop}

/-- A property that does not see the tables which an event is applied to. -/
structure Unseen (P : Database → Prop) : Prop where
  subscriptions : ∀ t rows, P t → P { t with subscriptions := rows }
  invoices : ∀ t rows, P t → P { t with invoices := rows }
  payments : ∀ t rows, P t → P { t with payments := rows }
  cases : ∀ t rows, P t → P { t with cases := rows }
  events : ∀ t rows, P t → P { t with events := rows }
  recognitions : ∀ t rows, P t → P { t with recognitions := rows }
  cancelled : ∀ t caseId at_, P t → P (t.cancelNonterminalActions caseId at_)

/-- An insertion into a table that is not seen. -/
lemma of_insert {α : Type} {t t' : Database} {o : Option α} {f : α → Database}
    (ho : o.map f = some t') (hf : ∀ a, P t → P (f a)) (h : P t) : P t' := by
  obtain ⟨a, -, rfl⟩ := Option.map_eq_some_iff.mp ho
  exact hf a h

lemma addAuditEvent_keeps {c : RecoveryCase} {event : NormalizedRazorpayEvent}
    (hP : ∀ t rows, P t → P { t with events := rows }) : Tx.Keeps P (addAuditEvent c event) := by
  refine .bind .query fun existing => ?_
  split_ifs
  · exact .pure
  · exact .attempt fun t h t' ho => of_insert ho (fun rows => hP t rows) h

lemma hydrateWebhookInvoice_keeps {id : String}
    (hs : ∀ t rows, P t → P { t with subscriptions := rows })
    (hi : ∀ t rows, P t → P { t with invoices := rows }) :
    Tx.Keeps P (hydrateWebhookInvoice platform call payload id) := by
  refine .bind .expect fun fetch => .bind .call fun snapshot => .bind .require fun _ =>
    .bind .require fun _ => .bind .query fun found => .bind .expect fun subscription =>
    .bind .require fun _ => .bind .query fun existing => ?_
  cases existing with
  | some invoice => exact .bind .require fun _ => .pure
  | none =>
    exact .bind (.attempt fun t h t' ho => of_insert ho (fun rows => hi t rows) h) fun _ =>
      .bind (.modifyIf (fun t h => hs t _ h) fun _ h => h) fun _ => .pure

lemma correlateCase_readOnly : Tx.ReadOnly (correlateCase payload) := by
  rw [Tx.readOnly_iff]
  intro db
  exact correlateCase_spec.weaken fun _ _ h => h.1

lemma correlate_keeps (hs : ∀ t rows, P t → P { t with subscriptions := rows })
    (hi : ∀ t rows, P t → P { t with invoices := rows }) :
    Tx.Keeps P (correlate platform call payload) := by
  refine .bind correlateCase_readOnly.keeps fun recoveryCase => .bind ?_ fun invoice =>
    .bind correlateSubscription_readOnly.keeps fun subscription => .bind .require fun _ =>
    .bind .require fun _ => .bind .require fun _ => .bind .query fun _ => .pure
  unfold correlateInvoice
  split
  · refine .bind .query fun found => ?_
    cases found with
    | some invoice => exact .pure
    | none => exact .bind (hydrateWebhookInvoice_keeps hs hi) fun _ => .pure
  · exact .query
  · exact .pure

lemma failedAttempt_keeps {invoice : Invoice} {subscription : Subscription} {id currency : String}
    {amount : ℤ} (hP : ∀ t rows, P t → P { t with payments := rows }) :
    Tx.Keeps P (failedAttempt platform payload invoice subscription id amount currency) := by
  refine .bind .query fun found => ?_
  cases found with
  | none =>
    exact .bind .call fun _ => .bind .call fun _ => .bind .call fun _ => .bind .call fun _ =>
      .bind .call fun _ => .bind (.attempt fun t h t' ho => of_insert ho (fun rows => hP t rows) h)
      fun _ => .pure
  | some payment =>
    refine .bind .require fun _ => ?_
    split_ifs
    · exact .bind .call fun _ => .bind .call fun _ => .bind .call fun _ => .bind .call fun _ =>
        .bind (.modify fun t h => hP t _ h) fun _ => .pure
    · exact .pure

lemma capturedAttempt_keeps {invoice : Invoice} {subscription : Subscription}
    {snapshot : PaymentSnapshot} {id : String} (hP : ∀ t rows, P t → P { t with payments := rows }) :
    Tx.Keeps P (capturedAttempt platform payload invoice subscription snapshot id) := by
  refine .bind .query fun found => ?_
  cases found with
  | none =>
    exact .bind .call fun _ =>
      .bind (.attempt fun t h t' ho => of_insert ho (fun rows => hP t rows) h) fun _ => .pure
  | some payment =>
    exact .bind .require fun _ => .bind (.modify fun t h => hP t _ h) fun _ => .pure

lemma applyPaymentFailed_keeps (hp : ∀ t rows, P t → P { t with payments := rows })
    (hc : ∀ t rows, P t → P { t with cases := rows })
    (he : ∀ t rows, P t → P { t with events := rows }) {correlation : Correlation} :
    Tx.Keeps P (applyPaymentFailed platform payload correlation) := by
  refine .bind .expect fun invoice => .bind .expect fun subscription => .bind .expect fun _ =>
    .bind .expect fun _ => .bind .expect fun _ => .bind .require fun _ =>
    .bind (failedAttempt_keeps hp) fun attempt =>
    .bind ?_ fun recoveryCase => .bind (addAuditEvent_keeps he) fun _ => .pure
  unfold failedCase
  split
  · exact .bind .query fun _ => .bind .expect fun _ => .bind .require fun _ =>
      .bind .call fun _ =>
      .bind (.attempt fun t h t' ho => of_insert ho (fun rows => hc t rows) h) fun _ => .pure
  · split_ifs
    · exact .bind (.modify fun t h => hc t _ h) fun _ => .pure
    · exact .pure

lemma Unseen.settle (hP : Unseen P) {c : RecoveryCase} {at_ : Instant} {t : Database} (h : P t) :
    P (t.settle c at_) := by
  unfold Database.settle
  split_ifs
  · exact hP.cancelled _ _ _ (hP.cases t _ h)
  · exact hP.cases t _ h

lemma applyCaptured_keeps (hP : Unseen P) {correlation : Correlation} :
    Tx.Keeps P (applyCaptured platform call payload correlation) := by
  refine .bind .expect fun c => .bind .expect fun invoice => .bind .expect fun subscription =>
    .bind .call fun snapshot => .bind .call fun outcome => .bind .require fun _ =>
    .bind .require fun _ => .bind .require fun _ => .bind .expect fun id =>
    .bind (capturedAttempt_keeps hP.payments) fun payment => .bind .query fun existing =>
    .bind ?_ fun settled => .bind (.modify fun _ h => hP.settle h) fun _ =>
    .bind (.modifyIf (fun t h => hP.subscriptions t _ h) fun _ h => h) fun _ =>
    .bind (addAuditEvent_keeps hP.events) fun _ => .pure
  cases existing with
  | none =>
    exact .bind .require fun _ =>
      .bind (.attempt fun t h t' ho => of_insert ho (fun rows => hP.recognitions t rows) h) fun _ =>
      .bind (.modify fun t h => hP.invoices t _ h) fun _ => .pure
  | some r => exact .pure

lemma applySubscriptionOnly_keeps (hs : ∀ t rows, P t → P { t with subscriptions := rows })
    (hc : ∀ t rows, P t → P { t with cases := rows })
    (he : ∀ t rows, P t → P { t with events := rows }) {correlation : Correlation} :
    Tx.Keeps P (applySubscriptionOnly payload correlation) := by
  refine .bind .expect fun subscription => .bind .require fun _ =>
    .bind newerProcessed_readOnly.keeps fun stale =>
    .bind (.modifyIf (fun t h => hs t _ h) fun _ h => h) fun _ =>
    .bind ?_ fun _ => .pure
  unfold noteSubscriptionState
  split
  · exact .pure
  · exact .bind (.modifyIf (fun t h => hc t _ h) fun _ h => h) fun _ =>
      .bind (addAuditEvent_keeps he) fun _ => .pure

/-- The frame of the transaction that applies a message. -/
theorem applyMessage_keeps (hP : Unseen P) : Tx.Keeps P (applyMessage platform call payload) := by
  refine .bind lockInbox_readOnly.keeps fun _ =>
    .bind (correlate_keeps hP.subscriptions hP.invoices) fun correlation => .bind ?_ fun _ => .pure
  dsimp only [applyEvent]
  split_ifs
  · exact applyPaymentFailed_keeps hP.payments hP.cases hP.events
  · exact applyCaptured_keeps hP
  · exact applySubscriptionOnly_keeps hP.subscriptions hP.cases hP.events
  · exact .throw

end

end RecoveryOS.Webhook
