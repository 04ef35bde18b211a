import RecoveryOS.Core.Lifecycle
import RecoveryOS.Webhook.Application

/-!
# Messages that are processed again

The effects of a message are committed before its signal is sent, so a message whose signal or whose
last commit fails is processed again, perhaps much later. The second time finds the traces of the
first: the audit event, the recognition, and the action under its key. It adds nothing
(`replay_idempotent`), whatever the provider, the scorer and the clocks say by then.

The key of an action is the whole of what the traces need of it; `Policed` says that keys are unique
and that each action has one decision, and every operation of a run keeps it.
-/

namespace RecoveryOS.Core

open Store Table Webhook

/-! ## Actions and their decisions -/

/-- What no write changes of an action. -/
def actionKey (a : RecoveryActionRecord) :
    String × String × String × RecoveryActionType × Option PaymentSurfaceType :=
  (a.id, a.caseId, a.idempotencyKey, a.actionType, a.paymentSurfaceType)

/-- No action is issued. -/
structure OnDesk (db t : Database) : Prop where
  actions : t.actions.map actionKey = db.actions.map actionKey
  policies : t.policies = db.policies

/-- The id of an action of the processor comes with a key that says what it is for. -/
def Purposeful (id key : String) : Prop :=
  "action_rzp_".toList <+: id.toList → ":purpose:".toList <:+: key.toList

/-- What a transaction does with the actions: it issues none, or one with its decision. -/
inductive Deskwork (db t : Database) : Prop where
  | none (h : OnDesk db t)
  | issued (a : RecoveryActionRecord) (p : PolicyDecisionRecord)
      (hnew : ∀ x ∈ db.actions, x.id ≠ a.id ∧ x.idempotencyKey ≠ a.idempotencyKey)
      (hactions : t.actions.map actionKey = db.actions.map actionKey ++ [actionKey a])
      (hpolicies : t.policies = db.policies ++ [p]) (hp : p.actionId = some a.id)
      (hcase : p.caseId = a.caseId) (hkey : Purposeful a.id a.idempotencyKey)

section
variable {db t t' : Database}

lemma OnDesk.refl (db : Database) : OnDesk db db := ⟨rfl, rfl⟩

lemma OnDesk.trans (h : OnDesk db t) (h' : OnDesk t t') : OnDesk db t' :=
  ⟨h'.actions.trans h.actions, h'.policies.trans h.policies⟩

lemma onDesk_cancelled (caseId : String) (at_ : Instant) :
    OnDesk db (db.cancelNonterminalActions caseId at_) := by
  refine ⟨?_, rfl⟩
  simp only [Database.cancelNonterminalActions, List.map_map]
  refine List.map_congr_left fun a _ => ?_
  simp only [Function.comp]
  split_ifs <;> rfl

lemma onDesk_putAction (hk : Keyed (·.id) db.actions) {a a' : RecoveryActionRecord}
    (ha : a ∈ db.actions) (h : actionKey a' = actionKey a) : OnDesk db (db.putAction a') :=
  ⟨map_put hk ha (congrArg Prod.fst h) h, rfl⟩

lemma onDesk_unseen : Unseen (OnDesk db) where
  subscriptions := fun _ _ h => ⟨h.actions, h.policies⟩
  invoices := fun _ _ h => ⟨h.actions, h.policies⟩
  payments := fun _ _ h => ⟨h.actions, h.policies⟩
  cases := fun _ _ h => ⟨h.actions, h.policies⟩
  events := fun _ _ h => ⟨h.actions, h.policies⟩
  recognitions := fun _ _ h => ⟨h.actions, h.policies⟩
  cancelled := fun _ caseId at_ h => h.trans (onDesk_cancelled caseId at_)

lemma Deskwork.of_insert {a : RecoveryActionRecord} {p : PolicyDecisionRecord}
    (h : db.insertActionWithPolicy a p = some t) (hp : p.actionId = some a.id)
    (hcase : p.caseId = a.caseId) (hkey : Purposeful a.id a.idempotencyKey) : Deskwork db t := by
  obtain ⟨hnew, ha, hpol⟩ := insertActionWithPolicy_fresh h
  exact .issued a p hnew (by rw [ha, List.map_append]; rfl) hpol hp hcase hkey

lemma Deskwork.trans (h : Deskwork db t) (h' : OnDesk t t') : Deskwork db t' := by
  cases h with
  | none h => exact .none (h.trans h')
  | issued a p hnew hactions hpolicies hp hcase hkey =>
    exact .issued a p hnew (h'.actions.trans hactions) (h'.policies.trans hpolicies) hp hcase hkey

/-- An action is there by its key. -/
lemma exists_action {k : String × String × String × RecoveryActionType × Option PaymentSurfaceType} :
    k ∈ db.actions.map actionKey ↔ ∃ a ∈ db.actions, actionKey a = k := List.mem_map

lemma OnDesk.exists_key (h : OnDesk db t) {a : RecoveryActionRecord} (ha : a ∈ db.actions) :
    ∃ a' ∈ t.actions, actionKey a' = actionKey a := by
  rw [← exists_action, h.actions]
  exact List.mem_map_of_mem ha

lemma OnDesk.deskwork (h₀ : OnDesk db t) (h : Deskwork t t') : Deskwork db t' := by
  cases h with
  | none h => exact .none (h₀.trans h)
  | issued a p hnew hactions hpolicies hp hcase hkey =>
    refine .issued a p (fun x hx => ?_) (by rw [hactions, h₀.actions]) (by rw [hpolicies, h₀.policies])
      hp hcase hkey
    obtain ⟨x', hx', he⟩ := h₀.exists_key hx
    have := hnew x' hx'
    simp only [actionKey, Prod.mk.injEq] at he
    rw [← he.1, ← he.2.2.1]
    exact this

lemma Deskwork.exists_key (h : Deskwork db t) {a : RecoveryActionRecord} (ha : a ∈ db.actions) :
    ∃ a' ∈ t.actions, actionKey a' = actionKey a := by
  cases h with
  | none h => exact h.exists_key ha
  | issued a' p hnew hactions hpolicies hp hcase hkey =>
    rw [← exists_action, hactions]
    exact List.mem_append_left _ (List.mem_map_of_mem ha)

/-- Ids and keys are unique, and each action has one decision, on its case. -/
structure Policed (db : Database) : Prop where
  ids : Keyed (·.id) db.actions
  keys : Keyed (·.idempotencyKey) db.actions
  policy : ∀ p ∈ db.policies, ∃ a ∈ db.actions, p.actionId = some a.id ∧ p.caseId = a.caseId
  once : ∀ a ∈ db.actions, (db.policies.filter fun p => p.actionId = some a.id).length = 1
  purpose : ∀ a ∈ db.actions, Purposeful a.id a.idempotencyKey

lemma Policed.onDesk (h : Policed db) (hd : OnDesk db t) : Policed t := by
  -- each row stands for one that was there
  have hback : ∀ a' ∈ t.actions, ∃ a ∈ db.actions, actionKey a' = actionKey a := by
    intro a' ha'
    have := List.mem_map_of_mem (f := actionKey) ha'
    rw [hd.actions] at this
    obtain ⟨a, ha, he⟩ := exists_action.mp this
    exact ⟨a, ha, he.symm⟩
  have hids : t.actions.map (·.id) = db.actions.map (·.id) := by
    have := congrArg (List.map Prod.fst) hd.actions
    simpa [List.map_map, Function.comp_def, actionKey] using this
  have hkeys : t.actions.map (·.idempotencyKey) = db.actions.map (·.idempotencyKey) := by
    have := congrArg (List.map fun k => k.2.2.1) hd.actions
    simpa [List.map_map, Function.comp_def, actionKey] using this
  refine ⟨?_, ?_, ?_, ?_, ?_⟩
  · unfold Keyed
    rw [hids]
    exact h.ids
  · unfold Keyed
    rw [hkeys]
    exact h.keys
  · intro p hp
    rw [hd.policies] at hp
    obtain ⟨a, ha, hpa, hpc⟩ := h.policy p hp
    obtain ⟨a', ha', he⟩ := hd.exists_key ha
    simp only [actionKey, Prod.mk.injEq] at he
    exact ⟨a', ha', by rw [he.1]; exact hpa, by rw [he.2.1]; exact hpc⟩
  · intro a' ha'
    obtain ⟨a, ha, he⟩ := hback a' ha'
    simp only [actionKey, Prod.mk.injEq] at he
    rw [hd.policies, he.1]
    exact h.once a ha
  · intro a' ha'
    obtain ⟨a, ha, he⟩ := hback a' ha'
    simp only [actionKey, Prod.mk.injEq] at he
    rw [he.1, he.2.2.1]
    exact h.purpose a ha

/-- The tables with one action more. -/
lemma Policed.insert (h : Policed db) {a : RecoveryActionRecord} {p : PolicyDecisionRecord}
    (hnew : ∀ x ∈ db.actions, x.id ≠ a.id ∧ x.idempotencyKey ≠ a.idempotencyKey)
    (hp : p.actionId = some a.id) (hcase : p.caseId = a.caseId)
    (hkey : Purposeful a.id a.idempotencyKey) :
    Policed { db with actions := db.actions ++ [a], policies := db.policies ++ [p] } := by
  -- no decision was about the new action
  have hnone : ∀ q ∈ db.policies, q.actionId ≠ some a.id := by
    intro q hq he
    obtain ⟨x, hx, hqx, -⟩ := h.policy q hq
    exact (hnew x hx).1 (Option.some.inj (hqx.symm.trans he))
  have hrow : ∀ x ∈ db.actions ++ [a], x ∈ db.actions ∨ x = a := fun x hx =>
    (List.mem_append.mp hx).imp id List.mem_singleton.mp
  refine ⟨h.ids.append fun x hx => (hnew x hx).1, h.keys.append fun x hx => (hnew x hx).2, ?_, ?_, ?_⟩
  · intro q hq
    rcases List.mem_append.mp hq with hq | hq
    · obtain ⟨x, hx, hrest⟩ := h.policy q hq
      exact ⟨x, List.mem_append_left _ hx, hrest⟩
    · rw [List.mem_singleton.mp hq]
      exact ⟨a, List.mem_append_right _ List.mem_cons_self, hp, hcase⟩
  · intro x hx
    simp only [List.filter_append, List.length_append]
    rcases hrow x hx with hx | rfl
    · have hne : ¬ p.actionId = some x.id := fun he =>
        (hnew x hx).1 (Option.some.inj (he.symm.trans hp))
      rw [h.once x hx]
      simp [hne]
    · have hzero : db.policies.filter (fun q => q.actionId = some x.id) = [] := by
        rw [List.filter_eq_nil_iff]
        intro q hq
        simpa using hnone q hq
      rw [hzero]
      simp [hp]
  · intro x hx
    rcases hrow x hx with hx | rfl
    · exact h.purpose x hx
    · exact hkey

lemma Policed.deskwork (h : Policed db) (hd : Deskwork db t) : Policed t := by
  cases hd with
  | none hd => exact h.onDesk hd
  | issued a p hnew hactions hpolicies hp hcase hkey =>
    refine (h.insert hnew hp hcase hkey).onDesk ⟨?_, hpolicies⟩
    rw [hactions, List.map_append]
    rfl

end

/-! ## Every operation keeps the desk in order -/

/-- The text of a `uuid4`: digits in base sixteen, and hyphens. -/
def UuidText (s : String) : Prop := ∀ c ∈ s.toList, c ∈ "0123456789abcdef-".toList

lemma UuidText.purposeful {id key : String} (h : UuidText id) : Purposeful id key := by
  intro hprefix
  have ht : 't' ∈ id.toList := hprefix.subset (by decide)
  exact absurd (h 't' ht) (by decide)

/-- The ids that an operation draws for actions are of `uuid4`. -/
def CaseOp.Drawn : CaseOp → Prop
  | .recommend pending => UuidText pending.request.actionId
  | .escalate _ _ _ actionId _ _ _ => UuidText actionId
  | _ => True

lemma purposeful_initial (id caseId : String) : Purposeful id (initialRecommendationKey caseId) := by
  intro _
  have hsplit : ":purpose:initial-recommendation:v1".toList =
      ":purpose:".toList ++ "initial-recommendation:v1".toList := by decide
  refine ⟨("case:" ++ caseId).toList, "initial-recommendation:v1".toList, ?_⟩
  simp only [initialRecommendationKey, String.toList_append, hsplit, List.append_assoc]

lemma purposeful_reconciliation (id caseId : String) :
    Purposeful id (reconciliationKey caseId) := by
  intro _
  -- the two parts of the key meet inside the word
  have hsplit : ":action:WAIT_FOR_GATEWAY_RETRY:surface:none:".toList ++
      "purpose:authoritative-success-reconciliation".toList =
      ":action:WAIT_FOR_GATEWAY_RETRY:surface:none".toList ++
        (":purpose:".toList ++ "authoritative-success-reconciliation".toList) := by decide
  refine ⟨("case:" ++ caseId).toList ++ ":action:WAIT_FOR_GATEWAY_RETRY:surface:none".toList,
    "authoritative-success-reconciliation".toList, ?_⟩
  simp only [reconciliationKey, String.toList_append, List.append_assoc, hsplit]

section
variable {platform : Platform} {db : Database}

lemma authorize_deskwork {call : Call} {payload : RazorpayOutboxPayload}
    {effects : List (String × Json)} {recoveryCase : Option RecoveryCase}
    (hk : Keyed (·.id) db.actions) :
    Tx.Ensures (· = db) (authorize platform call payload effects recoveryCase)
      fun _ t => Deskwork db t := by
  unfold authorize
  split_ifs
  · refine .expect_bind fun c _ => .bind ensureInitialRecommendation_spec fun a => .pure ?_
    rintro t (⟨rfl, -⟩ | ⟨p, db₁, e, hins, hev, hcase, hkey, hpc, hpa⟩)
    · exact .none (.refl t)
    · obtain ⟨_, -, rfl⟩ := Option.map_eq_some_iff.mp hev
      have hd : Deskwork db db₁ := .of_insert hins hpa (hpc.trans hcase.symm)
        (hkey ▸ purposeful_initial _ _)
      exact hd.trans ⟨rfl, rfl⟩
  · refine .expect_bind fun c _ => .bind ensureReconciliationAuthorization_spec fun a => .pure ?_
    rintro t (⟨a₀, ha₀, -, -, rfl, rfl⟩ | ⟨-, p, hins, hcase, hkey, hpc, hpa⟩)
    · exact .none (onDesk_putAction hk ha₀ rfl)
    · exact .of_insert hins hpa (hpc.trans hcase.symm) (hkey ▸ purposeful_reconciliation _ _)
  · exact .pure fun t ht => ht ▸ .none (.refl t)

lemma processNext_deskwork {call : Call} (hmail : Mail platform db) (hpoliced : Policed db) :
    Deskwork db (processNext platform call db).2 := by
  have hprocessed : Processed platform call db (processNext platform call db).2 :=
    processNext_processed hmail
  rcases hprocessed with ⟨-, hdb⟩ | ⟨m, -, hdb, -⟩ | ⟨m, payload, inbox, effects, rc,
    authorization, applied, authorized, -, -, happ, hauth, hdb, -, -⟩
  · rw [hdb]
    exact .none (.refl db)
  · rw [hdb]
    exact .none ⟨rfl, rfl⟩
  · have happlied : OnDesk db applied := applyMessage_keeps onDesk_unseen db (.refl db) _ _ happ
    have hd := authorize_deskwork (hpoliced.onDesk happlied).ids applied rfl _ _ hauth
    rw [hdb]
    exact (happlied.deskwork hd).trans ⟨rfl, rfl⟩

open Cases

lemma addEvent_deskwork {e : RecoveryEventRecord} : Tx.Keeps (Deskwork db) (addEvent e) := by
  refine .modify fun t h => ?_
  cases he : t.insertEvent e with
  | none => exact h
  | some t' =>
    obtain ⟨_, -, rfl⟩ := Option.map_eq_some_iff.mp he
    exact h.trans ⟨rfl, rfl⟩

lemma deskwork_commit {ε α : Type} {tx : Tx ε Database α}
    (h : Tx.Ensures (· = db) tx fun _ t => Deskwork db t) : Deskwork db (commit tx db) := by
  rcases commit_cases h with hdb | hd
  · rw [hdb]
    exact .none (.refl db)
  · exact hd

lemma rejectAction_deskwork {m c a : String} {held : Option RecoveryActionRecord} {at_ : Instant}
    (hk : Keyed (·.id) db.actions) :
    Tx.Ensures (· = db) (rejectAction m c a held at_) fun _ t => Deskwork db t := by
  refine .bind (getCaseAggregate_readOnly.ensures (Q := fun _ => (· = db)) fun _ h _ => h) fun _ =>
    .query_bind fun found => .expect_bind fun row hfound => ?_
  dsimp only
  split_ifs
  · exact .pure fun t ht => ht.1 ▸ .none (.refl t)
  · refine .require_bind fun _ => ?_
    refine .bind (Q := fun _ => Deskwork db) (.modify ?_) fun _ => .bind addEvent_deskwork fun _ =>
      .pure fun _ h => h
    rintro t ⟨rfl, hf⟩
    rw [hfound] at hf
    exact .none (onDesk_putAction hk (List.mem_of_find?_eq_some hf) rfl)

lemma onDesk_closeCase (c : RecoveryCase) (at_ : Instant) : OnDesk db (db.closeCase c at_) :=
  OnDesk.trans (⟨rfl, rfl⟩ : OnDesk db (db.putCase c)) (onDesk_cancelled c.id at_)

lemma stopCase_deskwork {m c : String} {at_ : Instant} :
    Tx.Ensures (· = db) (stopCase m c at_) fun _ t => Deskwork db t := by
  refine .query_bind fun found => .expect_bind fun x _ => ?_
  split_ifs
  · exact .pure fun t ht => ht.1 ▸ .none (.refl t)
  · refine .require_bind fun _ => ?_
    dsimp only
    refine .bind (Q := fun _ => Deskwork db) (.modify ?_) fun _ => .bind addEvent_deskwork fun _ =>
      .pure fun _ h => h
    rintro t ⟨rfl, -⟩
    exact .none (onDesk_closeCase _ _)

lemma escalateCase_deskwork {m c reason a p : String} {at_ now : Instant} (hdrawn : UuidText a) :
    Tx.Ensures (· = db) (escalateCase m c reason a p at_ now) fun _ t => Deskwork db t := by
  refine .query_bind fun found => .expect_bind fun x _ => ?_
  split_ifs
  · exact .pure fun t ht => ht.1 ▸ .none (.refl t)
  · refine .require_bind fun _ => ?_
    dsimp only
    refine .bind (Q := fun _ => Deskwork db) (.attempt ?_) fun _ =>
      .bind (Q := fun _ => Deskwork db) (.modify fun t h => h.trans (onDesk_closeCase _ _)) fun _ =>
      .bind addEvent_deskwork fun _ => .pure fun _ h => h
    rintro t ⟨rfl, -⟩ t' ht'
    exact .of_insert ht' rfl rfl hdrawn.purposeful

lemma recordSafetyDisposition_deskwork {m c : String} {disposition : ContactDisposition}
    {at_ : Instant} :
    Tx.Ensures (· = db) (recordSafetyDisposition m c disposition at_) fun _ t => Deskwork db t := by
  refine .expect_bind fun _ _ => .query_bind fun found => .expect_bind fun x _ => ?_
  split_ifs
  · exact .require_bind fun _ => .pure fun t ht => ht.1 ▸ .none (.refl t)
  · dsimp only
    refine .bind (Q := fun _ => OnDesk db) ?_ fun _ =>
      .bind (Q := fun _ => Deskwork db)
        (.modify fun t h => .none (h.trans (onDesk_closeCase _ _))) fun _ =>
      .bind addEvent_deskwork fun _ => .pure fun _ h => h
    unfold noteOptOut
    split_ifs
    · refine .query_bind fun _ => .expect_bind fun _ _ => .modify ?_
      rintro t ⟨⟨rfl, -⟩, -⟩
      exact ⟨rfl, rfl⟩
    · exact .pure fun t ht => ht.1 ▸ .refl t

lemma applyMockPaymentSuccess_deskwork {sha256 : String → String} {request : MockSuccess} :
    Tx.Ensures (· = db) (applyMockPaymentSuccess sha256 request) fun _ t => Deskwork db t := by
  refine .query_bind fun _ => .expect_bind fun c _ => .query_bind fun existing => ?_
  cases existing with
  | some r => exact .pure fun t ht => ht.1.1 ▸ .none (.refl t)
  | none =>
    refine .require_bind fun _ => .require_bind fun _ => .expect_bind fun _ _ =>
      .bind (Q := fun _ => OnDesk db) (.attempt ?_) fun _ =>
      .bind (Q := fun _ => OnDesk db) ?_ fun _ => .bind (Q := fun _ => OnDesk db) ?_ fun b => ?_
    · rintro t ⟨⟨rfl, -⟩, -⟩ t' ht'
      obtain ⟨_, -, rfl⟩ := Option.map_eq_some_iff.mp ht'
      exact ⟨rfl, rfl⟩
    · refine .query_bind fun _ => .expect_bind fun _ _ => .modify ?_
      exact fun t h => ⟨h.1.actions, h.1.policies⟩
    · refine .query_bind fun _ => .bind (.modify fun t h => ?_) fun _ => .pure fun _ h => h
      cases hr : t.insertRecognition _ with
      | none => exact h.1
      | some t' =>
        obtain ⟨_, -, rfl⟩ := Option.map_eq_some_iff.mp hr
        exact ⟨h.1.actions, h.1.policies⟩
    · split_ifs
      · exact .bind (Q := fun _ => Deskwork db)
          (.modify fun t h => .none (h.trans (onDesk_closeCase _ _))) fun _ =>
          .bind addEvent_deskwork fun _ => .pure fun _ h => h
      · exact .pure fun _ h => .none h

lemma applyLateFailureEvent_deskwork {m c id : String} {at_ : Instant} :
    Tx.Ensures (· = db) (applyLateFailureEvent m c id at_) fun _ t => Deskwork db t := by
  refine .query_bind fun _ => .expect_bind fun c _ => .query_bind fun _ => ?_
  refine .bind (Q := fun _ => Deskwork db) (addEvent_deskwork.strengthen ?_) fun _ =>
    .bind (Q := fun _ => Deskwork db) (.modifyIf (fun t h => h.trans ⟨rfl, rfl⟩) fun _ h => h) fun _ =>
    .pure fun _ h => h
  rintro t ⟨⟨rfl, -⟩, -⟩
  exact .none (.refl t)

lemma persistRecommendation_deskwork {pending : PendingRecommendation}
    (hdrawn : UuidText pending.request.actionId) :
    Tx.Ensures (· = db) (persistRecommendation pending) fun _ t => Deskwork db t := by
  refine .query_bind fun existing => ?_
  cases existing with
  | some a =>
    exact .query_bind fun _ => .expect_bind fun _ _ => .pure fun t ht => ht.1.1 ▸ .none (.refl t)
  | none =>
    refine .bind (Q := fun _ => Deskwork db) (.attempt ?_) fun _ => .bind addEvent_deskwork fun _ =>
      .pure fun _ h => h
    rintro t ⟨rfl, -⟩ t' ht'
    exact .of_insert ht' rfl rfl hdrawn.purposeful

lemma commitApproval_deskwork {pending : PendingApproval} {at_ : Instant}
    (hk : Keyed (·.id) db.actions) :
    Tx.Ensures (· = db) (commitApproval pending at_) fun _ t => Deskwork db t := by
  refine .query_bind fun found => .expect_bind fun row hfound => .require_bind fun _ =>
    .require_bind fun _ => ?_
  dsimp only
  refine .bind (Q := fun _ => Deskwork db) (.modify ?_) fun _ => .bind addEvent_deskwork fun _ =>
    .pure fun _ h => h
  rintro t ⟨rfl, hf⟩
  rw [hfound] at hf
  exact .none (onDesk_putAction hk (List.mem_of_find?_eq_some hf) rfl)

/-- What an operation does with the actions. -/
theorem caseStep_deskwork (hmail : Mail platform db) (hp : Policed db) {op : CaseOp}
    (hdrawn : op.Drawn) : Deskwork db (caseStep platform db op) := by
  cases op with
  | receive receipt m id body =>
    refine deskwork_commit (ingest_spec.weaken ?_)
    rintro _ t (rfl | ⟨e, m, p, hr⟩)
    · exact .none (.refl t)
    · rw [hr.tables]
      exact .none ⟨rfl, rfl⟩
  | process call => exact processNext_deskwork hmail hp
  | recommend pending => exact deskwork_commit (persistRecommendation_deskwork hdrawn)
  | approve pending t => exact deskwork_commit (commitApproval_deskwork hp.ids)
  | reject m c a held t => exact deskwork_commit (rejectAction_deskwork hp.ids)
  | stop m c t => exact deskwork_commit stopCase_deskwork
  | escalate m c reason a p t t' => exact deskwork_commit (escalateCase_deskwork hdrawn)
  | recordDisposition m c disposition t => exact deskwork_commit recordSafetyDisposition_deskwork
  | mockSuccess request => exact deskwork_commit applyMockPaymentSuccess_deskwork
  | lateFailure m c id t => exact deskwork_commit applyLateFailureEvent_deskwork
  | configure settings => exact .none ⟨rfl, rfl⟩

end

/-! ## The second application -/

/-- The totals of a case. -/
def totals (c : RecoveryCase) : String × ℤ × Bool :=
  (c.id, c.arrearsCollectedPaise, c.caseRecovered)

/-- Nothing is added, and no total moves. -/
structure Unmoved (db t : Database) : Prop where
  recognitions : t.recognitions = db.recognitions
  cases : t.cases.map totals = db.cases.map totals
  invoices : t.invoices = db.invoices
  actions : t.actions.map actionKey = db.actions.map actionKey
  policies : t.policies = db.policies
  events : t.events = db.events

/-- The traces of an event whose effects on its case are committed. -/
structure Done (payload : RazorpayOutboxPayload) (caseId : String) (db : Database) : Prop where
  kind : payload.event.eventType = "payment.failed" ∨ payload.event.paymentState = .captured
  named : ∃ c, c.id = caseId ∧ Named payload c db
  audited : Audited payload caseId db
  failure : payload.event.eventType = "payment.failed" →
    ∃ a ∈ db.actions, a.idempotencyKey = initialRecommendationKey caseId
  capture : payload.event.eventType ≠ "payment.failed" → Recognized payload db ∧
    ∃ a ∈ db.actions, a.idempotencyKey = reconciliationKey caseId

section
variable {platform : Platform} {call : Call} {payload : RazorpayOutboxPayload} {db t : Database}
  {c : RecoveryCase} {P : RazorpayOutboxPayload → Prop}

lemma Unmoved.trans {t' : Database} (h : Unmoved db t) (h' : Unmoved t t') : Unmoved db t' :=
  ⟨h'.recognitions.trans h.recognitions, h'.cases.trans h.cases, h'.invoices.trans h.invoices,
    h'.actions.trans h.actions, h'.policies.trans h.policies, h'.events.trans h.events⟩

lemma Unmoved.refl (db : Database) : Unmoved db db := ⟨rfl, rfl, rfl, rfl, rfl, rfl⟩

/-- An event whose case and invoice are there correlates with them again. -/
lemma correlate_again (hL : Lawful P db) (hn : Named payload c db) :
    Tx.Ensures (· = db) (correlate platform call payload) fun correlation t => t = db ∧
      ∀ i, correlation.invoice = some i → correlation.recoveryCase = some c := by
  obtain ⟨hc, i, hi, hnames⟩ := hn
  intro s hs correlation t ht
  have hdb : t = db := by
    refine correlate_known (fun x hx => ?_) s hs correlation t ht
    exact ⟨i, hi, hnames.invoiceMerchantId, hnames.invoice x hx⟩
  obtain ⟨hmem, hcorrelated, hinvoice⟩ := correlate_found s trivial correlation t ht
  have hopen := correlate_open s trivial correlation t ht
  subst hdb
  refine ⟨rfl, fun i' hi' => ?_⟩
  cases hcase : correlation.recoveryCase with
  | some c' =>
    obtain ⟨hn', hi''⟩ := hcorrelated c' i' hcase hi'
    rw [hL.case_eq (hmem c' hcase) hc hi'' hi hn' hnames]
  | none =>
    -- then the event names the invoice, and the case is found by it
    obtain ⟨hi'', hm, hname, hnone⟩ := hinvoice i' hi'
    rw [hcase] at hnone
    cases hinv : truthy payload.event.invoiceId with
    | none => cases hnone hinv
    | some x =>
      have hii : i = i' := by
        refine hL.invoice_unique.eq hi hi'' ?_
        simp only [hnames.invoiceMerchantId, hm, hnames.invoice x hinv, hname x hinv]
      exact absurd (hii ▸ hnames.failedInvoiceId) (hopen i' hi' hcase c hc hnames.merchantId)

/-- Only the attempts have changed. -/
def OnlyPayments (db t : Database) : Prop := t = { db with payments := t.payments }

lemma OnlyPayments.payments (h : OnlyPayments db t) (rows : List PaymentAttempt) :
    OnlyPayments db { t with payments := rows } := by
  unfold OnlyPayments at h ⊢
  rw [h]

/-- An audit event that is there is not added again. -/
lemma addAuditEvent_again {Q : Database → Prop} {x : RecoveryCase}
    (h : ∀ t, Q t → Audited payload x.id t) :
    Tx.Ensures Q (addAuditEvent x payload.event) fun _ => Q := by
  refine .query_bind fun existing => ?_
  split_ifs with hexists
  · exact .pure fun _ ht => ht.1
  · rintro t ⟨ht, hq⟩
    obtain ⟨e, he, hcase, hsource⟩ := h t ht
    refine absurd ?_ hexists
    rw [← hq, List.any_eq_true]
    exact ⟨e, he, by simp [hcase, hsource]⟩

/-- The case is written back with the totals it has. -/
lemma unmoved_putCase (hk : Keyed (·.id) db.cases) (hc : c ∈ db.cases) {c' : RecoveryCase}
    (h : OnlyPayments db t) (htotals : totals c' = totals c) : Unmoved db (t.putCase c') := by
  rw [h]
  exact ⟨rfl, map_put hk hc (congrArg Prod.fst htotals) htotals, rfl, rfl, rfl, rfl⟩

lemma Unmoved.payments (h : OnlyPayments db t) : Unmoved db t := by
  rw [h]
  exact ⟨rfl, rfl, rfl, rfl, rfl, rfl⟩

lemma Unmoved.audited (h : Unmoved db t) {id : String} (ha : Audited payload id db) :
    Audited payload id t := by
  unfold Audited
  rw [h.events]
  exact ha

lemma applyPaymentFailed_again (hL : Lawful P db) (hc : c ∈ db.cases)
    (ha : Audited payload c.id db) {correlation : Correlation}
    (hcase : ∀ i, correlation.invoice = some i → correlation.recoveryCase = some c) :
    Tx.Ensures (· = db) (applyPaymentFailed platform payload correlation)
      fun r t => Unmoved db t ∧ ∃ c', r.2 = some c' ∧ c'.id = c.id := by
  refine .expect_bind fun invoice hinvoice => .expect_bind fun subscription _ =>
    .expect_bind fun _ _ => .expect_bind fun _ _ => .expect_bind fun _ _ => .require_bind fun _ => ?_
  refine .bind (Q := fun _ => OnlyPayments db) ((failedAttempt_keeps fun t rows (h : OnlyPayments db t) =>
      h.payments rows).strengthen ?_) fun attempt =>
    .bind (Q := fun x t => Unmoved db t ∧ x.id = c.id) ?_ fun x => ?_
  · rintro t rfl
    rfl
  · unfold failedCase
    rw [hcase invoice hinvoice]
    dsimp only
    split_ifs
    · refine .bind (.modify (Q := fun _ t => Unmoved db t ∧ c.id = c.id) ?_) fun _ => .pure fun _ h => h
      exact fun t h => ⟨unmoved_putCase hL.sound.constrained.cases_keyed hc h rfl, rfl⟩
    · exact .pure fun t h => ⟨.payments h, rfl⟩
  · refine .bind (addAuditEvent_again (Q := fun t => Unmoved db t ∧ x.id = c.id) ?_) fun _ => .pure ?_
    · rintro t ⟨h, hid⟩
      rw [hid]
      exact h.audited ha
    · exact fun t h => ⟨h.1, x, rfl, h.2⟩

/-- A capture of a recognized event collects nothing. -/
lemma applyCaptured_again (hL : Lawful P db) (hc : c ∈ db.cases) (ha : Audited payload c.id db)
    (hr : Recognized payload db) {correlation : Correlation}
    (hcase : ∀ i, correlation.invoice = some i → correlation.recoveryCase = some c) :
    Tx.Ensures (· = db) (applyCaptured platform call payload correlation)
      fun r t => Unmoved db t ∧ ∃ c', r.2 = some c' ∧ c'.id = c.id := by
  refine .expect_bind fun x hx => .expect_bind fun invoice hinvoice =>
    .expect_bind fun subscription _ => .call_bind fun snapshot _ => .call_bind fun outcome _ =>
    .require_bind fun _ => .require_bind fun _ => .require_bind fun _ => .expect_bind fun id _ => ?_
  obtain rfl : c = x := Option.some.inj ((hcase invoice hinvoice).symm.trans hx)
  refine .bind (Q := fun _ => OnlyPayments db) ((capturedAttempt_keeps
      fun t rows (h : OnlyPayments db t) => h.payments rows).strengthen ?_) fun payment =>
    .query_bind fun existing => ?_
  · rintro t rfl
    rfl
  cases existing with
  | none =>
    -- the recognition is there
    rintro t ⟨hpay, hnone⟩
    obtain ⟨r, hrm, hm, hv, he⟩ := hr
    have hmem : r ∈ t.recognitions := by
      rw [hpay]
      exact hrm
    have := List.find?_eq_none.mp hnone r hmem
    simp [hm, hv, he] at this
  | some r =>
    refine .bind (Q := fun settled t => OnlyPayments db t ∧ (settled = c ∨
      settled = { c with version := c.version + 1 })) (.pure ?_) fun settled => ?_
    · rintro t ⟨h, -⟩
      refine ⟨h, ?_⟩
      split_ifs
      · exact .inr rfl
      · exact .inl rfl
    set final := capturedCase settled payload.event snapshot outcome with hfinal
    refine .bind (Q := fun _ t => Unmoved db t ∧ final.id = c.id) (.modify ?_) fun _ =>
      .bind (.modifyIf (Q := fun _ t => Unmoved db t ∧ final.id = c.id) ?_ fun _ h => h) fun _ =>
      .bind (addAuditEvent_again (Q := fun t => Unmoved db t ∧ final.id = c.id) ?_) fun _ => .pure ?_
    · rintro t ⟨h, hsettled⟩
      -- whether the case is recovered is what its totals say
      have hrec : decide (c.amountAtRiskPaise ≤ c.arrearsCollectedPaise) = c.caseRecovered := by
        rw [Bool.eq_iff_iff, decide_eq_true_iff, hL.sound.balanced.recovered_iff c hc]
      have htotals : totals final = totals c := by
        rcases hsettled with rfl | rfl <;> simp [hfinal, totals, capturedCase, hrec]
      have hput := unmoved_putCase hL.sound.constrained.cases_keyed hc h htotals
      refine ⟨?_, congrArg Prod.fst htotals⟩
      unfold Database.settle
      split_ifs
      · exact { hput with actions := (onDesk_cancelled _ _).actions.trans hput.actions }
      · exact hput
    · exact fun t h => ⟨⟨h.1.recognitions, h.1.cases, h.1.invoices, h.1.actions, h.1.policies,
        h.1.events⟩, h.2⟩
    · rintro t ⟨h, hid⟩
      rw [hid]
      exact h.audited ha
    · exact fun t h => ⟨h.1, final, rfl, h.2⟩

lemma applyMessage_again (hL : Lawful P db) {caseId : String} (hd : Done payload caseId db) :
    Tx.Ensures (· = db) (applyMessage platform call payload)
      fun r t => Unmoved db t ∧ ∃ c, r.2.2 = some c ∧ c.id = caseId := by
  obtain ⟨c, rfl, hn⟩ := hd.named
  refine .bind (lockInbox_readOnly.ensures (Q := fun _ => (· = db)) fun _ h _ => h) fun _ =>
    .bind (correlate_again hL hn) fun correlation =>
    .bind (Q := fun r t => Unmoved db t ∧ ∃ c', r.2 = some c' ∧ c'.id = c.id) ?_ fun r =>
    .pure fun _ h => h
  dsimp only [applyEvent]
  split_ifs with hfailed hcaptured
  · exact fun t ht => applyPaymentFailed_again hL hn.1 hd.audited ht.2 t ht.1
  · exact fun t ht => applyCaptured_again hL hn.1 hd.audited (hd.capture hfailed).1 ht.2 t ht.1
  · exact absurd hd.kind (by simp [hfailed, hcaptured])
  · exact .throw

lemma Unmoved.exists_key (h : Unmoved db t) {a : RecoveryActionRecord} (ha : a ∈ db.actions) :
    ∃ a' ∈ t.actions, actionKey a' = actionKey a := OnDesk.exists_key ⟨h.actions, h.policies⟩ ha

/-- An action under a key that is taken is not issued. -/
lemma not_issued {a : RecoveryActionRecord} {p : PolicyDecisionRecord} {db' : Database}
    (hins : db.insertActionWithPolicy a p = some db') {x : RecoveryActionRecord}
    (hx : x ∈ db.actions) (hkey : x.idempotencyKey = a.idempotencyKey) : False :=
  ((insertActionWithPolicy_fresh hins).1 x hx).2 hkey

lemma authorize_again (hk : Keyed (·.id) db.actions) {effects : List (String × Json)}
    (hfailure : payload.event.eventType = "payment.failed" →
      ∃ a ∈ db.actions, a.idempotencyKey = initialRecommendationKey c.id)
    (hcapture : payload.event.eventType ≠ "payment.failed" →
      ∃ a ∈ db.actions, a.idempotencyKey = reconciliationKey c.id) :
    Tx.Ensures (· = db) (authorize platform call payload effects (some c))
      fun _ t => Unmoved db t := by
  unfold authorize
  split_ifs with hfailed
  · obtain ⟨x, hx, hkey⟩ := hfailure hfailed
    refine .expect_bind fun c' hc' => .bind ensureInitialRecommendation_spec fun a => .pure ?_
    obtain rfl := Option.some.inj hc'
    rintro t (⟨rfl, -⟩ | ⟨p, db₁, e, hins, -, -, hkey', -⟩)
    · exact .refl t
    · exact (not_issued hins hx (hkey.trans hkey'.symm)).elim
  · obtain ⟨x, hx, hkey⟩ := hcapture hfailed
    refine .expect_bind fun c' hc' => .bind ensureReconciliationAuthorization_spec fun a => .pure ?_
    obtain rfl := Option.some.inj hc'
    rintro t (⟨a₀, ha₀, -, -, rfl, rfl⟩ | ⟨hnone, -⟩)
    · have hd := onDesk_putAction hk ha₀ (rfl : actionKey { a₀ with
        status := .scheduled, scheduledFor := none, completedAt := none } = actionKey a₀)
      exact ⟨rfl, rfl, rfl, hd.actions, rfl, rfl⟩
    · exact absurd hkey (hnone x hx)
  · exact .pure fun t ht => ht ▸ .refl t

/-- A message whose effects are committed moves nothing when it is processed again. -/
theorem processNext_again (hmail : Mail platform db) (hp : Policed db) (hL : Lawful P db)
    {m : OutboxMessage} (hnext : nextMessage call db = some m) (hm : m.payload = some payload)
    {caseId : String} (hd : Done payload caseId db) :
    Unmoved db (processNext platform call db).2 := by
  have hprocessed : Processed platform call db (processNext platform call db).2 :=
    processNext_processed hmail
  rcases hprocessed with ⟨hnone, -⟩ | ⟨m', -, hdb, -⟩ | ⟨m', payload', inbox, effects, rc,
    authorization, applied, authorized, hnext', hm', happ, hauth, hdb, -, -⟩
  · rw [hnext] at hnone
    cases hnone
  · rw [hdb]
    exact ⟨rfl, rfl, rfl, rfl, rfl, rfl⟩
  · obtain rfl : m = m' := Option.some.inj (hnext.symm.trans hnext')
    obtain rfl : payload = payload' := Option.some.inj (hm.symm.trans hm')
    obtain ⟨hmoved, c, hc, rfl⟩ := applyMessage_again hL hd db rfl _ _ happ
    replace hc : rc = some c := hc
    subst hc
    have hids := (hp.onDesk ⟨hmoved.actions, hmoved.policies⟩).ids
    -- the action is there under its key
    have hkeyed : ∀ {key}, (∃ a ∈ db.actions, a.idempotencyKey = key) →
        ∃ a ∈ applied.actions, a.idempotencyKey = key := by
      rintro key ⟨a, ha, hkey⟩
      obtain ⟨a', ha', he⟩ := hmoved.exists_key ha
      simp only [actionKey, Prod.mk.injEq] at he
      exact ⟨a', ha', he.2.2.1.trans hkey⟩
    have hauthorized := authorize_again hids (fun hf => hkeyed (hd.failure hf))
      (fun hf => hkeyed (hd.capture hf).2) applied rfl _ _ hauth
    have hall := hmoved.trans hauthorized
    rw [hdb]
    exact ⟨hall.recognitions, hall.cases, hall.invoices, hall.actions, hall.policies, hall.events⟩

/-! ## The first time -/

/-- A recommendation that is found is the one under the key. -/
lemma key_of_existingRecommendation (hp : Policed db) {caseId : String} {a : RecoveryActionRecord}
    (h : existingRecommendation caseId db = some a) :
    a ∈ db.actions ∧ a.idempotencyKey = initialRecommendationKey caseId := by
  obtain ⟨ha, hcond⟩ := List.mem_filter.mp (mem_of_first h)
  refine ⟨ha, ?_⟩
  simp only [Bool.or_eq_true, Bool.and_eq_true, decide_eq_true_eq, Bool.not_eq_true',
    decide_eq_false_iff_not] at hcond
  rcases hcond with hkey | ⟨⟨⟨-, hprefix⟩, -⟩, hpurpose⟩
  · exact hkey
  · exact absurd (hp.purpose a ha (List.isPrefixOf_iff_prefix.mp hprefix)) hpurpose

lemma applied_of_tables {effects : List (String × Json)} (h : Applied payload effects c db)
    (hcases : t.cases = db.cases) (hinvoices : t.invoices = db.invoices)
    (hrecognitions : t.recognitions = db.recognitions) (hevents : ∀ e ∈ db.events, e ∈ t.events) :
    Applied payload effects c t := by
  obtain ⟨⟨hc, i, hi, hn⟩, ⟨e, he, hcase, hsource⟩, hr⟩ := h
  refine ⟨⟨hcases ▸ hc, i, hinvoices ▸ hi, hn⟩, ⟨e, hevents e he, hcase, hsource⟩, fun hf hd => ?_⟩
  unfold Recognized
  rw [hrecognitions]
  exact hr hf hd

/-- An authorization leaves the traces of its event. -/
lemma authorize_done (hp : Policed db) {effects : List (String × Json)}
    (ha : Applied payload effects c db) :
    Tx.Ensures (· = db) (authorize platform call payload effects (some c))
      fun o t => o.isSome = true → Done payload c.id t := by
  unfold authorize
  split_ifs with hfailed hcaptured
  · refine .expect_bind fun c' hc' => .bind ensureInitialRecommendation_spec fun a => .pure ?_
    obtain rfl := Option.some.inj hc'
    -- the action is under its key, whether it was found or issued
    have hdone : ∀ {t}, Applied payload effects c t →
        (∃ x ∈ t.actions, x.idempotencyKey = initialRecommendationKey c.id) →
        Done payload c.id t := fun h hx =>
      ⟨.inl hfailed, ⟨c, rfl, h.named⟩, h.audited, fun _ => hx, fun hne => absurd hfailed hne⟩
    rintro t (⟨rfl, hex, -⟩ | ⟨p, db₁, e, hins, hev, -, hkey, -⟩) -
    · exact hdone ha ⟨a, key_of_existingRecommendation hp hex⟩
    · obtain ⟨-, hactions, -⟩ := insertActionWithPolicy_fresh hins
      have happ := insertActionWithPolicy_apart (.refl db) hins
      obtain ⟨rows, hrows, rfl⟩ := Option.map_eq_some_iff.mp hev
      obtain ⟨-, -, rfl⟩ := insert_eq_some hrows
      refine hdone (applied_of_tables ha happ.ledger.cases happ.ledger.invoices
        happ.ledger.recognitions fun x hx => List.mem_append_left _ (happ.events x hx)) ⟨a, ?_, hkey⟩
      show a ∈ db₁.actions
      rw [hactions]
      exact List.mem_append_right _ List.mem_cons_self
  · refine .expect_bind fun c' hc' => .bind ensureReconciliationAuthorization_spec fun a => .pure ?_
    obtain rfl := Option.some.inj hc'
    have hdone : ∀ {t}, Applied payload effects c t →
        (∃ x ∈ t.actions, x.idempotencyKey = reconciliationKey c.id) → Done payload c.id t :=
      fun h hx => ⟨.inr hcaptured.1, ⟨c, rfl, h.named⟩, h.audited, fun hf => absurd hf hfailed,
        fun hne => ⟨h.recognized hne hcaptured.2, hx⟩⟩
    rintro t (⟨a₀, ha₀, hkey₀, -, rfl, rfl⟩ | ⟨-, p, hins, -, hkey, -⟩) -
    · exact hdone (applied_of_tables ha rfl rfl rfl fun _ h => h) ⟨_, mem_put_self ha₀ rfl, hkey₀⟩
    · obtain ⟨-, hactions, -⟩ := insertActionWithPolicy_fresh hins
      have happ := insertActionWithPolicy_apart (.refl db) hins
      refine hdone (applied_of_tables ha happ.ledger.cases happ.ledger.invoices
        happ.ledger.recognitions happ.events) ⟨a, ?_, hkey⟩
      rw [hactions]
      exact List.mem_append_right _ List.mem_cons_self
  · exact .pure fun t _ ho => by cases ho

/-- A call takes up the message and commits what its event does: under its authorization, or with
the message published if it needs none. -/
def Commits (platform : Platform) (call : Call) (db : Database) (m : OutboxMessage) : Prop :=
  nextMessage call db = some m ∧ ∃ payload inbox effects recoveryCase authorization applied authorized,
    m.payload = some payload ∧
    applyMessage platform call payload db = .ok ((inbox, effects, recoveryCase), applied) ∧
    authorize platform call payload effects recoveryCase applied =
      .ok (authorization, authorized) ∧
    match authorization with
    | some _ => call.commits .authorization = true
    | none => call.downstreamSignal
        (signalOf m payload effects (recoveryCase.map (·.id))) = true ∧
        call.commits .completion = true

lemma dispatch_withMail (m : OutboxMessage) (inbox : WebhookInboxEntry)
    (effects : List (String × Json)) (caseId : Option String) (t : Database) :
    (dispatch call m payload inbox effects caseId t t).2 =
      withMail t (dispatch call m payload inbox effects caseId t t).2 := by
  dsimp only [dispatch]
  split_ifs
  · rfl
  · exact recordFailure_withMail _ _ _ _
  · exact recordFailure_withMail _ _ _ _

/-- A committed message leaves its traces, or is published. -/
lemma Commits.done (hp : Policed db) {m : OutboxMessage} (h : Commits platform call db m) :
    (∃ payload caseId, m.payload = some payload ∧
      Done payload caseId (processNext platform call db).2) ∨
    ∃ m' ∈ (processNext platform call db).2.outbox, m'.id = m.id ∧ m'.publishedAt ≠ none := by
  obtain ⟨hnext, payload, inbox, effects, rc, authorization, applied, authorized, hm, happ, hauth,
    hcommit⟩ := h
  have hmail := applyMessage_mail db ⟨rfl, rfl⟩ _ _ happ
  have hmail' := authorize_mail applied hmail _ _ hauth
  have happlied : OnDesk db applied := applyMessage_keeps onDesk_unseen db (.refl db) _ _ happ
  unfold processNext
  simp only [hnext, hm, happ, hauth]
  cases authorization with
  | none =>
    refine .inr ?_
    dsimp only [dispatch]
    have hsignal := hcommit.1
    unfold signalOf at hsignal
    rw [if_pos hsignal, if_pos hcommit.2]
    refine ⟨_, mem_put_self (y := m) ?_ rfl, rfl, by simp⟩
    show m ∈ authorized.outbox
    rw [hmail'.2]
    exact (nextMessage_spec hnext).1
  | some effects' =>
    refine .inl ⟨payload, ?_⟩
    have hkind : payload.event.eventType = "payment.failed" ∨
        payload.event.paymentState = .captured := by
      unfold authorize at hauth
      split_ifs at hauth with hfailed hcaptured
      · exact .inl hfailed
      · exact .inr hcaptured.1
      · cases hauth
    obtain ⟨c, hc, happlies⟩ := applyMessage_applied hkind db trivial _ _ happ
    replace hc : rc = some c := hc
    subst hc
    have hdone := authorize_done (hp.onDesk happlied) happlies applied rfl _ _ hauth rfl
    refine ⟨c.id, rfl, ?_⟩
    replace hcommit : call.commits .authorization = true := hcommit
    dsimp only
    rw [if_pos hcommit, dispatch_withMail]
    exact ⟨hdone.kind, hdone.named, hdone.audited, hdone.failure, hdone.capture⟩

end

/-! ## Runs -/

section
variable {platform : Platform} {db : Database} {ops : List CaseOp}

/-- No effect takes an audit event away. -/
lemma EffectOf.events {W : Scope} {db' : Database} (h : EffectOf W db db') :
    ∀ e ∈ db.events, e ∈ db'.events := by
  intro e he
  cases h with
  | other h => rw [h.events]; exact he
  | event x h =>
    obtain ⟨rows, hrows, rfl⟩ := Option.map_eq_some_iff.mp h
    obtain ⟨-, -, rfl⟩ := insert_eq_some hrows
    exact List.mem_append_left _ he
  | invoice i h => obtain ⟨_, -, rfl⟩ := Option.map_eq_some_iff.mp h; exact he
  | payment p h => obtain ⟨_, -, rfl⟩ := Option.map_eq_some_iff.mp h; exact he
  | opened h hc => obtain ⟨_, -, rfl⟩ := Option.map_eq_some_iff.mp h; exact he
  | captured t hc h =>
    unfold Database.settle
    split_ifs <;> exact he
  | recognized t hr h =>
    obtain ⟨-, rfl⟩ := insertRecognition_spec hr
    unfold Database.settle
    split_ifs <;> exact he
  | added h hd => exact (insertActionWithPolicy_apart (.refl _) h).events e he
  | attempt hp h => exact he
  | noted hc h => exact he
  | marked caseId hw => exact he
  | closed t hc h hw => exact he
  | moved ha h => exact he
  | swept f h => exact he
  | stamped f h => exact he
  | consumed c h => exact he

lemma EvolvesOf.recognition_mem {W : Scope} {db' : Database} (h : EvolvesOf W db db')
    {r : RevenueRecognitionRecord} (hr : r ∈ db.recognitions) : r ∈ db'.recognitions := by
  refine h.induct (P := fun t => r ∈ t.recognitions) ?_ hr
  intro t t' he ht
  rcases he.recognitions with hsame | ⟨r', c, c', i, i', t₁, at_, hins, -, rfl⟩
  · rw [hsame]
    exact ht
  · obtain ⟨-, rfl⟩ := insertRecognition_spec hins
    rw [(settle_ledger _ _ at_).2.2]
    exact List.mem_append_left _ ht

/-- The traces that a step keeps: events, recognitions, and messages. -/
structure Traced (db db' : Database) : Prop where
  events : ∀ e ∈ db.events, e ∈ db'.events
  recognitions : ∀ r ∈ db.recognitions, r ∈ db'.recognitions
  messages : ∀ m ∈ db.outbox, ∃ m' ∈ db'.outbox, SameMessage m m' ∧ (m.publishedAt ≠ none → m' = m)

lemma Stepped.traced {op : CaseOp} {db' : Database} (h : Stepped platform op db db') :
    Traced db db' := by
  cases h with
  | received e m p hr =>
    rw [hr.tables]
    exact ⟨fun _ h => h, fun _ h => h, fun x hx =>
      ⟨x, List.mem_append_left _ hx, .refl x, fun _ => rfl⟩⟩
  | evolved id payload he ht hpub =>
    refine ⟨fun e hev => he.induct (P := fun t => e ∈ t.events) (fun h' ht' => h'.events e ht') hev,
      fun r hr => he.recognition_mem hr, fun m hm => ?_⟩
    by_cases hopen : m.publishedAt = none
    · obtain ⟨g, hg, hgm⟩ := ht.outbox
      refine ⟨g m, ?_, (hgm m hm).1, fun hne => absurd hopen hne⟩
      rw [hg]
      exact List.mem_map_of_mem hm
    · exact ⟨m, hpub m hm hopen, .refl m, fun _ => rfl⟩
  | wrote hl hm hev =>
    refine ⟨hev, fun r hr => hl.recognitions.symm ▸ hr, fun m hmem => ⟨m, ?_, .refl m, fun _ => rfl⟩⟩
    rw [hm.2]
    exact hmem

lemma Traced.refl (db : Database) : Traced db db :=
  ⟨fun _ h => h, fun _ h => h, fun m hm => ⟨m, hm, .refl m, fun _ => rfl⟩⟩

lemma Traced.trans {db' db'' : Database} (h : Traced db db') (h' : Traced db' db'') :
    Traced db db'' := by
  refine ⟨fun e he => h'.events e (h.events e he), fun r hr => h'.recognitions r (h.recognitions r hr),
    fun m hm => ?_⟩
  obtain ⟨m', hm', hs, hpub⟩ := h.messages m hm
  obtain ⟨m'', hm'', hs', hpub'⟩ := h'.messages m' hm'
  refine ⟨m'', hm'', ⟨hs'.id.trans hs.id, hs'.payload.trans hs.payload,
    hs'.deduplicationKey.trans hs.deduplicationKey⟩, fun hne => ?_⟩
  have hsame := hpub hne
  rw [← hsame]
  exact hpub' (hsame.symm ▸ hne)

/-- The traces of an event stay. -/
lemma Done.kept {payload : RazorpayOutboxPayload} {caseId : String} {db' : Database} {contact : Prop}
    (h : Done payload caseId db) (hk : Kept contact db db') (ht : Traced db db')
    (hd : Deskwork db db') : Done payload caseId db' := by
  obtain ⟨c, hid, hc, i, hi, hn⟩ := h.named
  obtain ⟨c', hc', hg⟩ := hk.cases c hc
  obtain ⟨i', hi', hs⟩ := hk.invoices i hi
  obtain ⟨e, he, hcase, hsource⟩ := h.audited
  have hkeyed : ∀ {key}, (∃ a ∈ db.actions, a.idempotencyKey = key) →
      ∃ a ∈ db'.actions, a.idempotencyKey = key := by
    rintro key ⟨a, ha, hkey⟩
    obtain ⟨a', ha', hsame⟩ := hd.exists_key ha
    simp only [actionKey, Prod.mk.injEq] at hsame
    exact ⟨a', ha', hsame.2.2.1.trans hkey⟩
  refine ⟨h.kind, ⟨c', hg.id.trans hid, hc', i', hi', hn.kept hg.toSameCase hs⟩,
    ⟨e, ht.events e he, hcase, hsource⟩, fun hf => hkeyed (h.failure hf), fun hf => ?_⟩
  obtain ⟨⟨r, hr, hrest⟩, hact⟩ := h.capture hf
  exact ⟨⟨r, ht.recognitions r hr, hrest⟩, hkeyed hact⟩

/-- A start at which nothing has been issued either. -/
structure Blank (platform : Platform) (db : Database) : Prop extends Fresh platform db where
  actions : db.actions = []
  policies : db.policies = []

lemma Blank.policed (h : Blank platform db) : Policed db := by
  refine ⟨?_, ?_, ?_, ?_, ?_⟩
  all_goals simp [h.actions, h.policies, Keyed]

/-- What holds of every state of a run. -/
lemma after_policed (h : Blank platform db) (hdrawn : ∀ op ∈ ops, op.Drawn) (k : ℕ) :
    Policed (caseAfter platform db ops k) := by
  suffices hall : Mail platform (caseAfter platform db ops k) ∧
      Lawful (Sent (caseAfter platform db ops k)) (caseAfter platform db ops k) ∧
      Policed (caseAfter platform db ops k) from hall.2.2
  refine caseAfter_induct (P := fun t => Mail platform t ∧ Lawful (Sent t) t ∧ Policed t)
    ⟨h.mail, h.toFresh.lawful, h.policed⟩ ?_ k
  rintro op hop t ⟨hmail, hL, hp⟩
  exact ⟨(caseStep_stepped hmail hL.sound.constrained.recognition_payment op).mail hmail,
    (step_lawful hmail hL op).1, hp.deskwork (caseStep_deskwork hmail hp (hdrawn op hop))⟩

/-- One step of a run, as far as its traces go. -/
lemma after_succ (h : Blank platform db) (hdrawn : ∀ op ∈ ops, op.Drawn) (k : ℕ) :
    Traced (caseAfter platform db ops k) (caseAfter platform db ops (k + 1)) ∧
      Deskwork (caseAfter platform db ops k) (caseAfter platform db ops (k + 1)) := by
  cases hop : ops[k]? with
  | none =>
    rw [caseAfter_succ_of_none platform hop]
    exact ⟨.refl _, .none (.refl _)⟩
  | some op =>
    obtain ⟨hmail, hL⟩ := after_lawful h.toFresh ops k
    rw [caseAfter_succ platform hop]
    exact ⟨(caseStep_stepped hmail hL.sound.constrained.recognition_payment op).traced,
      caseStep_deskwork hmail (after_policed h hdrawn k) (hdrawn op (List.mem_of_getElem? hop))⟩

lemma after_traced (h : Blank platform db) (hdrawn : ∀ op ∈ ops, op.Drawn) {j k : ℕ} (hjk : j ≤ k) :
    Traced (caseAfter platform db ops j) (caseAfter platform db ops k) := by
  induction k, hjk using Nat.le_induction with
  | base => exact .refl _
  | succ k hjk ih => exact ih.trans (after_succ h hdrawn k).1

lemma after_done (h : Blank platform db) (hdrawn : ∀ op ∈ ops, op.Drawn) {j k : ℕ} (hjk : j ≤ k)
    {payload : RazorpayOutboxPayload} {caseId : String}
    (hd : Done payload caseId (caseAfter platform db ops j)) :
    Done payload caseId (caseAfter platform db ops k) := by
  induction k, hjk using Nat.le_induction with
  | base => exact hd
  | succ k hjk ih =>
    obtain ⟨ht, hdesk⟩ := after_succ h hdrawn k
    exact ih.kept (after_kept h.toFresh ops (Nat.le_succ k)) ht hdesk

lemma after_exists_key (h : Blank platform db) (hdrawn : ∀ op ∈ ops, op.Drawn) {j k : ℕ}
    (hjk : j ≤ k) {a : RecoveryActionRecord} (ha : a ∈ (caseAfter platform db ops j).actions) :
    ∃ a' ∈ (caseAfter platform db ops k).actions, actionKey a' = actionKey a := by
  induction k, hjk using Nat.le_induction with
  | base => exact ⟨a, ha, rfl⟩
  | succ k hjk ih =>
    obtain ⟨a', ha', he⟩ := ih
    obtain ⟨a'', ha'', he'⟩ := (after_succ h hdrawn k).2.exists_key ha'
    exact ⟨a'', ha'', he'.trans he⟩

/-- A message that is taken up after it was committed moves nothing. -/
lemma after_again (h : Blank platform db) (hdrawn : ∀ op ∈ ops, op.Drawn) {j k : ℕ} (hjk : j < k)
    {call call' : Call} (hj : ops[j]? = some (.process call)) (hk : ops[k]? = some (.process call'))
    {m m' : OutboxMessage} (hcommit : Commits platform call (caseAfter platform db ops j) m)
    (hnext : nextMessage call' (caseAfter platform db ops k) = some m') (hid : m'.id = m.id) :
    Unmoved (caseAfter platform db ops k) (caseAfter platform db ops (k + 1)) := by
  obtain ⟨hmail, hL⟩ := after_lawful h.toFresh ops k
  have hstep : caseAfter platform db ops (j + 1) =
      (processNext platform call (caseAfter platform db ops j)).2 := caseAfter_succ platform hj
  obtain ⟨hm', hopen⟩ := nextMessage_spec hnext
  have hdone := hcommit.done (after_policed h hdrawn j)
  rw [← hstep] at hdone
  rcases hdone with ⟨payload, caseId, hpayload, hd⟩ | ⟨m₁, hm₁, hid₁, hpub⟩
  · obtain ⟨m₂, hm₂, hs, -⟩ :=
      (after_traced h hdrawn hjk.le).messages m (nextMessage_spec hcommit.1).1
    obtain rfl : m₂ = m' := hmail.outbox_keyed.eq hm₂ hm' (hs.id.trans hid.symm)
    rw [caseAfter_succ platform hk]
    exact processNext_again hmail (after_policed h hdrawn k) hL hnext (hs.payload.trans hpayload)
      (after_done h hdrawn hjk hd)
  · -- a message that was published is not taken up again
    obtain ⟨m₂, hm₂, hs, hkept⟩ := (after_traced h hdrawn hjk).messages m₁ hm₁
    obtain rfl : m₂ = m' :=
      hmail.outbox_keyed.eq hm₂ hm' (hs.id.trans (hid₁.trans hid.symm))
    rw [hkept hpub] at hopen
    exact absurd hopen hpub

/-! ### The initial action -/

/-- A call takes up a `payment.failed` message and applies it to the case. -/
def AppliesFailure (platform : Platform) (call : Call) (db : Database)
    (payload : RazorpayOutboxPayload) (c : RecoveryCase) (applied : Database) : Prop :=
  payload.event.eventType = "payment.failed" ∧ ∃ m inbox effects,
    nextMessage call db = some m ∧ m.payload = some payload ∧
    applyMessage platform call payload db = .ok ((inbox, effects, some c), applied)

lemma AppliesFailure.onDesk {call : Call} {payload : RazorpayOutboxPayload} {c : RecoveryCase}
    {applied : Database} (h : AppliesFailure platform call db payload c applied) :
    OnDesk db applied := by
  obtain ⟨-, m, inbox, effects, -, -, happ⟩ := h
  exact applyMessage_keeps onDesk_unseen db (.refl db) _ _ happ

/-- The action that is returned is in the table, under its key. -/
lemma recommended_mem (hp : Policed db) {call : Call} {merchantId : String} {c : RecoveryCase}
    {a : RecoveryActionRecord} {t : Database}
    (h : ensureInitialRecommendation platform call merchantId c db = .ok (a, t)) :
    Policed t ∧ a ∈ t.actions ∧ a.caseId = c.id ∧
      a.idempotencyKey = initialRecommendationKey c.id := by
  rcases ensureInitialRecommendation_spec db rfl a t h with
    ⟨rfl, hex, hcase⟩ | ⟨p, db₁, e, hins, hev, hcase, hkey, hpc, hpa⟩
  · obtain ⟨ha, hkey⟩ := key_of_existingRecommendation hp hex
    exact ⟨hp, ha, hcase, hkey⟩
  · obtain ⟨-, hactions, -⟩ := insertActionWithPolicy_fresh hins
    have hd : Deskwork db db₁ := .of_insert hins hpa (hpc.trans hcase.symm)
      (hkey ▸ purposeful_initial _ _)
    obtain ⟨rows, -, rfl⟩ := Option.map_eq_some_iff.mp hev
    refine ⟨hp.deskwork (hd.trans ⟨rfl, rfl⟩), ?_, hcase, hkey⟩
    show a ∈ db₁.actions
    rw [hactions]
    exact List.mem_append_right _ List.mem_cons_self

lemma Policed.policiesOf (hp : Policed db) {a : RecoveryActionRecord} (ha : a ∈ db.actions) :
    (policiesOf a.caseId a.id db).length = 1 := by
  have hsame : Webhook.policiesOf a.caseId a.id db =
      db.policies.filter fun p => p.actionId = some a.id := by
    refine List.filter_congr fun p hpm => ?_
    obtain ⟨x, hx, hpx, hcase⟩ := hp.policy p hpm
    rw [decide_eq_decide, and_iff_right_iff_imp]
    intro hpa
    have : x = a := hp.ids.eq hx ha (Option.some.inj (hpx.symm.trans hpa))
    rw [hcase, this]
  rw [hsame]
  exact hp.once a ha

/-- An action under the key is the one that is found. -/
lemma existingRecommendation_of_key (hp : Policed db) {a : RecoveryActionRecord} {caseId : String}
    (ha : a ∈ db.actions) (hkey : a.idempotencyKey = initialRecommendationKey caseId) :
    existingRecommendation caseId db = some a := by
  cases hex : existingRecommendation caseId db with
  | none =>
    have hmem : a ∈ ([] : List RecoveryActionRecord) := by
      rw [← first_eq_none.mp hex]
      exact List.mem_filter.mpr ⟨ha, by simp [hkey]⟩
    cases hmem
  | some x =>
    obtain ⟨hx, hxkey⟩ := key_of_existingRecommendation hp hex
    rw [hp.keys.eq hx ha (hxkey.trans hkey.symm)]

/-- With the action in its place the recommendation is that action, whoever asks. -/
lemma ensureInitialRecommendation_again (hp : Policed db) {a : RecoveryActionRecord}
    {c : RecoveryCase} (ha : a ∈ db.actions) (hcase : a.caseId = c.id)
    (hkey : a.idempotencyKey = initialRecommendationKey c.id) (call : Call) (merchantId : String) :
    ensureInitialRecommendation platform call merchantId c db = .ok (a, db) := by
  have hone := hp.policiesOf ha
  rw [hcase] at hone
  have hex := existingRecommendation_of_key hp ha hkey
  unfold ensureInitialRecommendation
  rw [Tx.run_query, hex]
  dsimp only
  rw [Tx.run_require (decide_eq_true hcase), Tx.run_query, Tx.run_require (decide_eq_true hone)]
  rfl

/-- The message of a call that keeps its action leaves it in the tables. -/
lemma AppliesFailure.processNext {call : Call} {payload : RazorpayOutboxPayload} {c : RecoveryCase}
    {applied authorized : Database} {a : RecoveryActionRecord}
    (h : AppliesFailure platform call db payload c applied)
    (ha : ensureInitialRecommendation platform call payload.merchantId c applied =
      .ok (a, authorized)) (hcommit : call.commits .authorization = true) :
    (processNext platform call db).2.actions = authorized.actions := by
  obtain ⟨hfailed, m, inbox, effects, hnext, hm, happ⟩ := h
  unfold Webhook.processNext
  simp only [hnext, hm, happ]
  unfold authorize
  rw [if_pos hfailed, Tx.run_expect rfl, Tx.run_bind ha]
  simp only [pure]
  rw [if_pos hcommit, dispatch_withMail]
  rfl

/-- Every `payment.failed` message of a case comes to the action of the first that was committed. -/
lemma after_recommends (h : Blank platform db) (hdrawn : ∀ op ∈ ops, op.Drawn) {j k : ℕ}
    (hjk : j < k) {call call' : Call} (hj : ops[j]? = some (.process call))
    {payload payload' : RazorpayOutboxPayload} {c c' : RecoveryCase}
    {applied applied' authorized : Database} {a : RecoveryActionRecord}
    (happ : AppliesFailure platform call (caseAfter platform db ops j) payload c applied)
    (ha : ensureInitialRecommendation platform call payload.merchantId c applied =
      .ok (a, authorized)) (hcommit : call.commits .authorization = true)
    (happ' : AppliesFailure platform call' (caseAfter platform db ops k) payload' c' applied')
    (hid : c'.id = c.id) :
    (policiesOf c.id a.id authorized).length = 1 ∧ ∃ a',
      ensureInitialRecommendation platform call' payload'.merchantId c' applied' =
        .ok (a', applied') ∧ actionKey a' = actionKey a ∧
      (policiesOf c'.id a'.id applied').length = 1 := by
  obtain ⟨hp, hmem, hcase, hkey⟩ :=
    recommended_mem ((after_policed h hdrawn j).onDesk happ.onDesk) ha
  have hone := hp.policiesOf hmem
  rw [hcase] at hone
  refine ⟨hone, ?_⟩
  rw [← happ.processNext ha hcommit] at hmem
  replace hmem : a ∈ (caseAfter platform db ops (j + 1)).actions := by
    rw [caseAfter_succ platform hj]
    exact hmem
  obtain ⟨a₁, ha₁, he₁⟩ := after_exists_key h hdrawn hjk hmem
  obtain ⟨a₂, ha₂, he₂⟩ := happ'.onDesk.exists_key ha₁
  have hp' := (after_policed h hdrawn k).onDesk happ'.onDesk
  have he := he₂.trans he₁
  have hparts := he
  simp only [actionKey, Prod.mk.injEq] at hparts
  have hcase' : a₂.caseId = c'.id := by rw [hparts.2.1, hcase, hid]
  have hone' := hp'.policiesOf ha₂
  rw [hcase'] at hone'
  refine ⟨a₂, ensureInitialRecommendation_again hp' ha₂ hcase' ?_ call' _, he, hone'⟩
  rw [hparts.2.2.1, hkey, hid]

/-- A message whose effects are committed adds nothing and moves no total when it is processed again,
whenever that is, and whatever happened in between; and the `payment.failed` messages of a case all
come to one action with one decision. -/
theorem replay_idempotent (h : Blank platform db) (hdrawn : ∀ op ∈ ops, op.Drawn) {j k : ℕ}
    (hjk : j < k) {call call' : Call} (hj : ops[j]? = some (.process call))
    (hk : ops[k]? = some (.process call')) :
    (∀ m m', Commits platform call (caseAfter platform db ops j) m →
      nextMessage call' (caseAfter platform db ops k) = some m' → m'.id = m.id →
      Unmoved (caseAfter platform db ops k) (caseAfter platform db ops (k + 1))) ∧
    (∀ payload c applied a authorized payload' c' applied',
      AppliesFailure platform call (caseAfter platform db ops j) payload c applied →
      ensureInitialRecommendation platform call payload.merchantId c applied =
        .ok (a, authorized) → call.commits .authorization = true →
      AppliesFailure platform call' (caseAfter platform db ops k) payload' c' applied' →
      c'.id = c.id →
      (policiesOf c.id a.id authorized).length = 1 ∧ ∃ a',
        ensureInitialRecommendation platform call' payload'.merchantId c' applied' =
          .ok (a', applied') ∧ actionKey a' = actionKey a ∧
        (policiesOf c'.id a'.id applied').length = 1) := by
  refine ⟨fun m m' hcommit hnext hid => after_again h hdrawn hjk hj hk hcommit hnext hid, ?_⟩
  intro payload c applied a authorized payload' c' applied' happ ha hcommit happ' hid
  exact after_recommends h hdrawn hjk hj happ ha hcommit happ' hid

end

/-- A failure and a capture, each with its signal lost, and each processed again. -/
def replayOps : List CaseOp :=
  [.receive ⟨"inbox_1", "outbox_1", 1000000, 1000000⟩ "merchant_1" "evt_1" failedBody,
    .process (sampleCall 2000000 false), .process (sampleCall 400000000 true),
    .receive ⟨"inbox_2", "outbox_2", 410000000, 410000000⟩ "merchant_1" "evt_2" capturedBody,
    .process (sampleCall 420000000 false), .configure [], .process (sampleCall 900000000 true)]

lemma sampleStore_blank : Blank samplePlatform sampleStore where
  toFresh := sampleStore_fresh
  actions := rfl
  policies := rfl

lemma replayOps_drawn : ∀ op ∈ replayOps, op.Drawn := by
  simp [replayOps, CaseOp.Drawn]

set_option maxRecDepth 4000 in
theorem replayOps_idempotent :
    (∃ m m', Commits samplePlatform (sampleCall 420000000 false)
        (caseAfter samplePlatform sampleStore replayOps 4) m ∧
      nextMessage (sampleCall 900000000 true)
        (caseAfter samplePlatform sampleStore replayOps 6) = some m' ∧ m'.id = m.id ∧
      Unmoved (caseAfter samplePlatform sampleStore replayOps 6)
        (caseAfter samplePlatform sampleStore replayOps 7)) ∧
    ∃ payload c applied a authorized payload' c' applied' a',
      AppliesFailure samplePlatform (sampleCall 2000000 false)
        (caseAfter samplePlatform sampleStore replayOps 1) payload c applied ∧
      ensureInitialRecommendation samplePlatform (sampleCall 2000000 false) payload.merchantId c
        applied = .ok (a, authorized) ∧
      AppliesFailure samplePlatform (sampleCall 400000000 true)
        (caseAfter samplePlatform sampleStore replayOps 2) payload' c' applied' ∧
      ensureInitialRecommendation samplePlatform (sampleCall 400000000 true) payload'.merchantId c'
        applied' = .ok (a', applied') ∧ a'.id = a.id := by
  refine ⟨⟨_, _, ⟨rfl, _, _, _, _, _, _, _, rfl, rfl, rfl, rfl⟩, rfl, rfl, ?_⟩, ?_⟩
  · exact (replay_idempotent sampleStore_blank replayOps_drawn (show 4 < 6 by decide) rfl rfl).1
      _ _ ⟨rfl, _, _, _, _, _, _, _, rfl, rfl, rfl, rfl⟩ rfl rfl
  · obtain ⟨-, a', ha', hsame, -⟩ :=
      (replay_idempotent sampleStore_blank replayOps_drawn (show 1 < 2 by decide) rfl rfl).2
        _ _ _ _ _ _ _ _ ⟨rfl, _, _, _, rfl, rfl, rfl⟩ rfl rfl ⟨rfl, _, _, _, rfl, rfl, rfl⟩ rfl
    exact ⟨_, _, _, _, _, _, _, _, a', ⟨rfl, _, _, _, rfl, rfl, rfl⟩, rfl,
      ⟨rfl, _, _, _, rfl, rfl, rfl⟩, ha', congrArg Prod.fst hsame⟩

end RecoveryOS.Core
