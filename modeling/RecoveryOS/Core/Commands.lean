import RecoveryOS.Core.World
import RecoveryOS.Webhook.Pollers

/-!
# Webhooks and commands

The part of the service that writes cases: webhooks are received and processed, and the operator and
the mock provider act on the cases. A run is any sequence of these, each a transaction that commits
or leaves the database as it was; a recommendation, an approval and a rejection are the writes at
their ends, for whatever they read before. The merchants may change their settings at any time.

`Stepped` says what one of them does: it receives a webhook, evolves the database by effects of the
messages that were received, or writes actions only.
-/

namespace RecoveryOS.Core

open Store Table Webhook

inductive CaseOp where
  | receive (receipt : Receipt) (merchantId providerEventId : String) (body : List (String × Json))
  | process (call : Call)
  | recommend (pending : Cases.PendingRecommendation)
  | approve (pending : Cases.PendingApproval) (completedAt : Instant)
  | reject (merchantId caseId actionId : String) (held : Option RecoveryActionRecord)
      (rejectedAt : Instant)
  | stop (merchantId caseId : String) (stoppedAt : Instant)
  | escalate (merchantId caseId reason actionId policyId : String) (escalatedAt utcNow : Instant)
  | recordDisposition (merchantId caseId : String) (disposition : ContactDisposition)
      (recordedAt : Instant)
  | mockSuccess (request : Cases.MockSuccess)
  | lateFailure (merchantId caseId providerEventId : String) (occurredAt : Instant)
  | configure (settings : List MerchantPolicySetting)

/-- The operations by which payments are heard of. -/
def CaseOp.ofPayment : CaseOp → Prop
  | .process _ => True
  | .mockSuccess _ => True
  | .lateFailure _ _ _ _ => True
  | _ => False

section
variable (platform : Platform)

def caseStep (db : Database) : CaseOp → Database
  | .receive receipt m id body => commit (ingest platform receipt m id body) db
  | .process call => (processNext platform call db).2
  | .recommend pending => commit (Cases.persistRecommendation pending) db
  | .approve pending t => commit (Cases.commitApproval pending t) db
  | .reject m c a held t => commit (Cases.rejectAction m c a held t) db
  | .stop m c t => commit (Cases.stopCase m c t) db
  | .escalate m c reason a p t t' => commit (Cases.escalateCase m c reason a p t t') db
  | .recordDisposition m c disposition t =>
    commit (Cases.recordSafetyDisposition m c disposition t) db
  | .mockSuccess request => commit (Cases.applyMockPaymentSuccess platform.sha256 request) db
  | .lateFailure m c id t => commit (Cases.applyLateFailureEvent m c id t) db
  | .configure settings => { db with settings }

/-- The database after the first `k` operations of a run. -/
def caseAfter (db : Database) (ops : List CaseOp) (k : ℕ) : Database :=
  (ops.take k).foldl (caseStep platform) db

lemma caseAfter_succ {db : Database} {ops : List CaseOp} {k : ℕ} {op : CaseOp}
    (h : ops[k]? = some op) :
    caseAfter platform db ops (k + 1) = caseStep platform (caseAfter platform db ops k) op := by
  unfold caseAfter
  rw [List.take_add_one, h]
  simp

lemma caseAfter_succ_of_none {db : Database} {ops : List CaseOp} {k : ℕ} (h : ops[k]? = none) :
    caseAfter platform db ops (k + 1) = caseAfter platform db ops k := by
  unfold caseAfter
  rw [List.take_add_one, h, Option.toList_none, List.append_nil]

/-- What holds at the start and is kept by every operation holds after every one. -/
theorem caseAfter_induct {platform : Platform} {db : Database} {ops : List CaseOp}
    {P : Database → Prop} (h₀ : P db)
    (hstep : ∀ op ∈ ops, ∀ db, P db → P (caseStep platform db op)) :
    ∀ k, P (caseAfter platform db ops k) := by
  intro k
  induction k with
  | zero => exact h₀
  | succ k ih =>
    cases hop : ops[k]? with
    | none =>
      rw [caseAfter_succ_of_none platform hop]
      exact ih
    | some op =>
      rw [caseAfter_succ platform hop]
      exact hstep op (List.mem_of_getElem? hop) _ ih

end

/-! ## The commands leave the mail alone -/

section
open Cases

variable {entries : List WebhookInboxEntry} {messages : List OutboxMessage} {db db' : Database}
  {merchantId caseId : String}

lemma commit_keeps {ε α : Type} {tx : Tx ε Database α} {P : Database → Prop}
    (h : Tx.Keeps P tx) (hdb : P db) : P (commit tx db) := by
  unfold commit
  split
  · next a t he => exact h db hdb a t he
  · exact hdb

lemma addEvent_mail {e : RecoveryEventRecord} : Tx.Keeps (MailIs entries messages) (addEvent e) := by
  refine .modify fun db h => ?_
  cases he : db.insertEvent e with
  | none => exact h
  | some t => exact h.insert he fun _ => ⟨rfl, rfl⟩

lemma rejectAction_mail {actionId : String} {held : Option RecoveryActionRecord} {t : Instant} :
    Tx.Keeps (MailIs entries messages) (rejectAction merchantId caseId actionId held t) := by
  refine .bind getCaseAggregate_readOnly.keeps fun _ => .bind .query fun _ => .bind .expect fun a => ?_
  dsimp only
  split_ifs
  · exact .pure
  · exact .bind .require fun _ => .bind (.modify fun _ h => h) fun _ => .bind addEvent_mail fun _ =>
      .pure

lemma stopCase_mail {t : Instant} :
    Tx.Keeps (MailIs entries messages) (stopCase merchantId caseId t) := by
  refine .bind .query fun _ => .bind .expect fun c => ?_
  split_ifs
  · exact .pure
  · exact .bind .require fun _ => .bind (.modify fun _ h => h) fun _ => .bind addEvent_mail fun _ =>
      .pure

lemma escalateCase_mail {reason actionId policyId : String} {t t' : Instant} :
    Tx.Keeps (MailIs entries messages)
      (escalateCase merchantId caseId reason actionId policyId t t') := by
  refine .bind .query fun _ => .bind .expect fun c => ?_
  split_ifs
  · exact .pure
  · exact .bind .require fun _ =>
      .bind (.attempt fun _ h _ hi => insertActionWithPolicy_mail h hi) fun _ =>
      .bind (.modify fun _ h => h) fun _ => .bind addEvent_mail fun _ => .pure

lemma recordSafetyDisposition_mail {disposition : ContactDisposition} {t : Instant} :
    Tx.Keeps (MailIs entries messages)
      (recordSafetyDisposition merchantId caseId disposition t) := by
  refine .bind .expect fun _ => .bind .query fun _ => .bind .expect fun c => ?_
  split_ifs
  · exact .bind .require fun _ => .pure
  · refine .bind ?_ fun _ => .bind (.modify fun _ h => h) fun _ => .bind addEvent_mail fun _ => .pure
    unfold noteOptOut
    split_ifs
    · exact .bind .query fun _ => .bind .expect fun _ => .modify fun _ h => h
    · exact .pure

lemma applyMockPaymentSuccess_mail {sha256 : String → String} {request : MockSuccess} :
    Tx.Keeps (MailIs entries messages) (applyMockPaymentSuccess sha256 request) := by
  refine .bind .query fun _ => .bind .expect fun c => .bind .query fun existing => ?_
  cases existing with
  | some r => exact .pure
  | none =>
    refine .bind .require fun _ => .bind .require fun _ => .bind .expect fun _ =>
      .bind (.attempt fun db h db' ho => h.insert ho fun _ => ⟨rfl, rfl⟩) fun _ =>
      .bind (.bind .query fun _ => .bind .expect fun _ => .modify fun _ h => h) fun _ =>
      .bind (.bind .query fun _ => .bind (.modify fun t h => ?_) fun _ => .pure) fun b => ?_
    · cases hr : t.insertRecognition _ with
      | none => exact h
      | some t' => exact h.insert hr fun _ => ⟨rfl, rfl⟩
    · split_ifs
      · exact .bind (.modify fun _ h => h) fun _ => .bind addEvent_mail fun _ => .pure
      · exact .pure

lemma applyLateFailureEvent_mail {id : String} {t : Instant} :
    Tx.Keeps (MailIs entries messages) (applyLateFailureEvent merchantId caseId id t) :=
  .bind .query fun _ => .bind .expect fun _ => .bind .query fun _ => .bind addEvent_mail fun _ =>
    .bind (.modifyIf (fun _ h => h) fun _ h => h) fun _ => .pure

end

/-! ## What an operation does -/

/-- The events that were received. -/
def Sent (db : Database) (payload : RazorpayOutboxPayload) : Prop :=
  ∃ m ∈ db.outbox, m.payload = some payload

/-- An event was received once. -/
lemma Sent.eq {platform : Platform} {db : Database} (hmail : Mail platform db)
    {p q : RazorpayOutboxPayload} (hp : Sent db p) (hq : Sent db q) (hs : SameSource p q) :
    p = q := by
  obtain ⟨m, hm, hmp⟩ := hp
  obtain ⟨n, hn, hnq⟩ := hq
  obtain rfl := hmail.eq_of_sameSource hm hn hmp hnq hs
  exact Option.some.inj (hmp.symm.trans hnq)

lemma Sent.touched {db db' : Database} {id : String} {payload : Option RazorpayOutboxPayload}
    (ht : Touched id payload db db') {p : RazorpayOutboxPayload} (hp : Sent db p) : Sent db' p := by
  obtain ⟨m, hm, hmp⟩ := hp
  obtain ⟨g, hg, hgm⟩ := ht.outbox
  refine ⟨g m, ?_, (hgm m hm).1.payload.trans hmp⟩
  rw [hg]
  exact List.mem_map_of_mem hm

/-- The tables of the money. -/
structure SameLedger (db db' : Database) : Prop where
  invoices : db'.invoices = db.invoices
  payments : db'.payments = db.payments
  cases : db'.cases = db.cases
  recognitions : db'.recognitions = db.recognitions

inductive Stepped (platform : Platform) (op : CaseOp) (db db' : Database) : Prop where
  | received (e : WebhookInboxEntry) (m : OutboxMessage) (p : RazorpayOutboxPayload)
      (h : Received platform db db' e m p)
  | evolved (id : String) (payload : Option RazorpayOutboxPayload)
      (he : EvolvesOf ⟨Sent db, ¬ op.ofPayment⟩ db db') (ht : Touched id payload db db')
      (hpub : ∀ m ∈ db.outbox, m.publishedAt ≠ none → m ∈ db'.outbox)
  | wrote (hl : SameLedger db db') (hm : MailIs db.inbox db.outbox db')
      (hev : ∀ e ∈ db.events, e ∈ db'.events)

section
variable {platform : Platform} {op : CaseOp} {db : Database}

lemma evolvesOf_commit {ε α : Type} {tx : Tx ε Database α} {W : Scope}
    (h : Tx.Ensures (· = db) tx fun _ => EvolvesOf W db) : EvolvesOf W db (commit tx db) := by
  rcases commit_cases h with hdb | hev
  · rw [hdb]
    exact .refl db
  · exact hev

/-- A command evolves the database and leaves the mail alone. -/
lemma Stepped.command {ε α : Type} {tx : Tx ε Database α}
    (he : Tx.Ensures (· = db) tx fun _ => EvolvesOf ⟨Sent db, ¬ op.ofPayment⟩ db)
    (hm : Tx.Keeps (MailIs db.inbox db.outbox) tx) : Stepped platform op db (commit tx db) := by
  have hmail := commit_keeps hm (⟨rfl, rfl⟩ : MailIs db.inbox db.outbox db)
  refine .evolved "" none (evolvesOf_commit he) (.of_eq hmail.1 hmail.2) fun m hm _ => ?_
  rw [hmail.2]
  exact hm

/-- What holds from any state that has evolved holds from the start. -/
lemma ensures_of_evolves {ε α : Type} {tx : Tx ε Database α} {W : Scope}
    (h : Tx.Ensures (EvolvesOf W db) tx fun _ => EvolvesOf W db) :
    Tx.Ensures (· = db) tx fun _ => EvolvesOf W db :=
  h.strengthen fun _ ht => ht.symm ▸ EvolvesOf.refl db

/-- The ledger and the mail are as they were, and no event is gone. -/
structure Apart (db t : Database) : Prop where
  ledger : SameLedger db t
  mail : MailIs db.inbox db.outbox t
  events : ∀ e ∈ db.events, e ∈ t.events

lemma Apart.refl (db : Database) : Apart db db := ⟨⟨rfl, rfl, rfl, rfl⟩, ⟨rfl, rfl⟩, fun _ h => h⟩

/-- A write apart from the ledger and the mail. -/
lemma Stepped.actions {ε α : Type} {tx : Tx ε Database α} (h : Tx.Keeps (Apart db) tx) :
    Stepped platform op db (commit tx db) :=
  let hk := commit_keeps h (.refl db)
  .wrote hk.ledger hk.mail hk.events

lemma addEvent_apart {e : RecoveryEventRecord} : Tx.Keeps (Apart db) (Cases.addEvent e) := by
  refine .modify fun t h => ?_
  cases he : t.insertEvent e with
  | none => exact h
  | some t' =>
    obtain ⟨rows, hrows, rfl⟩ := Option.map_eq_some_iff.mp he
    obtain ⟨-, -, rfl⟩ := insert_eq_some hrows
    exact ⟨⟨h.ledger.invoices, h.ledger.payments, h.ledger.cases, h.ledger.recognitions⟩, h.mail,
      fun x hx => List.mem_append_left _ (h.events x hx)⟩

lemma insertActionWithPolicy_apart {t t' : Database} {a : RecoveryActionRecord}
    {p : PolicyDecisionRecord} (h : Apart db t) (hi : t.insertActionWithPolicy a p = some t') :
    Apart db t' := by
  have hmail := insertActionWithPolicy_mail h.mail hi
  obtain ⟨t₁, ha, hp⟩ := Option.bind_eq_some_iff.mp hi
  obtain ⟨_, -, rfl⟩ := Option.map_eq_some_iff.mp ha
  obtain ⟨_, -, rfl⟩ := Option.map_eq_some_iff.mp hp
  exact ⟨⟨h.ledger.invoices, h.ledger.payments, h.ledger.cases, h.ledger.recognitions⟩, hmail,
    h.events⟩

lemma persistRecommendation_apart {pending : Cases.PendingRecommendation} :
    Tx.Keeps (Apart db) (Cases.persistRecommendation pending) := by
  refine .bind .query fun existing => ?_
  cases existing with
  | some a => exact .bind .query fun _ => .bind .expect fun _ => .pure
  | none =>
    exact .bind (.attempt fun _ h _ hi => insertActionWithPolicy_apart h hi) fun _ =>
      .bind addEvent_apart fun _ => .pure

lemma commitApproval_apart {pending : Cases.PendingApproval} {t : Instant} :
    Tx.Keeps (Apart db) (Cases.commitApproval pending t) := by
  refine .bind .query fun _ => .bind .expect fun row => .bind .require fun _ => .bind .require fun _ =>
    .bind (.modify fun t h => ?_) fun _ => .bind addEvent_apart fun _ => .pure
  exact ⟨⟨h.ledger.invoices, h.ledger.payments, h.ledger.cases, h.ledger.recognitions⟩, h.mail,
    h.events⟩

theorem caseStep_stepped (hmail : Mail platform db)
    (hk : ∀ r ∈ db.recognitions, ∀ id, r.paymentAttemptId = some id → ∃ p ∈ db.payments, p.id = id)
    (op : CaseOp) : Stepped platform op db (caseStep platform db op) := by
  cases op with
  | receive receipt m id body =>
    simp only [caseStep]
    rcases commit_cases ingest_spec with hdb | hdb | ⟨e, m, p, hr⟩
    · rw [hdb]
      exact .wrote ⟨rfl, rfl, rfl, rfl⟩ ⟨rfl, rfl⟩ fun _ h => h
    · rw [hdb]
      exact .wrote ⟨rfl, rfl, rfl, rfl⟩ ⟨rfl, rfl⟩ fun _ h => h
    · exact .received e m p hr
  | process call =>
    have he : EvolvesOf ⟨Sent db, ¬ (CaseOp.process call).ofPayment⟩ db
        (processNext platform call db).2 :=
      processNext_evolvesOf db fun m p hnext hp => ⟨m, (nextMessage_spec hnext).1, hp⟩
    rcases processNext_processed hmail with ⟨-, hdb⟩ | ⟨m, hnext, -, ht⟩ |
      ⟨m, payload, _, _, _, _, _, _, hnext, _, _, _, _, ht, -⟩
    · refine .evolved "" none he (.of_eq (congrArg _ hdb) (congrArg _ hdb)) fun m hm _ => ?_
      rw [caseStep, hdb]
      exact hm
    · obtain ⟨hm, hopen⟩ := nextMessage_spec hnext
      exact .evolved m.id m.payload he ht (ht.published hmail hm hopen)
    · obtain ⟨hm, hopen⟩ := nextMessage_spec hnext
      exact .evolved m.id m.payload he ht (ht.published hmail hm hopen)
  | recommend pending => exact .actions persistRecommendation_apart
  | approve pending t => exact .actions commitApproval_apart
  | reject m c a held t => exact .command (ensures_of_evolves rejectAction_evolves) rejectAction_mail
  | stop m c t => exact .command (ensures_of_evolves (stopCase_evolves id)) stopCase_mail
  | escalate m c reason a p t t' =>
    exact .command (ensures_of_evolves (escalateCase_evolves id)) escalateCase_mail
  | recordDisposition m c disposition t =>
    exact .command (ensures_of_evolves (recordSafetyDisposition_evolves id))
      recordSafetyDisposition_mail
  | mockSuccess request =>
    exact .command (applyMockPaymentSuccess_evolves hk) applyMockPaymentSuccess_mail
  | lateFailure m c id t =>
    exact .command applyLateFailureEvent_evolves applyLateFailureEvent_mail
  | configure settings => exact .wrote ⟨rfl, rfl, rfl, rfl⟩ ⟨rfl, rfl⟩ fun _ h => h

/-- The mail stays in order. -/
lemma Stepped.mail {db' : Database} (h : Stepped platform op db db') (hmail : Mail platform db) :
    Mail platform db' := by
  cases h with
  | received e m p hr => exact hmail.received hr
  | evolved id payload he ht hpub => exact hmail.touched ht
  | wrote hl hm hev => exact hmail.touched (Touched.of_eq hm.1 hm.2 : Touched "" none db db')

/-- What was received stays. -/
lemma Stepped.sent {db' : Database} (h : Stepped platform op db db') {p : RazorpayOutboxPayload}
    (hp : Sent db p) : Sent db' p := by
  cases h with
  | received e m p' hr =>
    obtain ⟨x, hx, hxp⟩ := hp
    rw [hr.tables]
    exact ⟨x, List.mem_append_left _ hx, hxp⟩
  | evolved id payload he ht hpub => exact hp.touched ht
  | wrote hl hm hev => exact hp.touched (Touched.of_eq hm.1 hm.2 : Touched "" none db db')

end

end RecoveryOS.Core
