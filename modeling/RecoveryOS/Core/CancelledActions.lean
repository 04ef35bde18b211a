import RecoveryOS.Core.OptOut
import RecoveryOS.Webhook.Application
import RecoveryOS.Webhook.Frame

/-!
# Cancelled actions

An action that reaches the customer is cancelled for good by every writer that looks at the row it
has locked. Two do not: an approval that has loaded the action before the cancellation, and the end
of a call that was under way. A run keeps its cancelled actions cancelled exactly if neither happens
to one of them.
-/

namespace RecoveryOS.Core

open Store Worker

/-- The action is there, it reaches the customer, and it is cancelled. -/
def CancelledContact (db : Database) (actionId : String) : Prop :=
  ∃ a ∈ db.actions, a.id = actionId ∧ Safety.isContact a.actionType = true ∧ a.status = .cancelled

/-- A row that is written back for another: a cancelled contact is written back cancelled. -/
structure Respects (a a' : RecoveryActionRecord) : Prop where
  id : a'.id = a.id
  actionType : a'.actionType = a.actionType
  cancelled : Safety.isContact a.actionType = true → a.status = .cancelled → a'.status = .cancelled

/-- Every cancelled contact is still one. -/
def StaysCancelled (db t : Database) : Prop :=
  ∀ actionId, CancelledContact db actionId → CancelledContact t actionId

section
variable {db t t' : Database}

lemma Respects.refl (a : RecoveryActionRecord) : Respects a a := ⟨rfl, rfl, fun _ h => h⟩

lemma Respects.of_cancelled (a : RecoveryActionRecord) (at_ : Instant) :
    Respects a (Worker.cancelled a at_) := ⟨rfl, rfl, fun _ _ => rfl⟩

lemma Respects.of_ne {a a' : RecoveryActionRecord} (hid : a'.id = a.id)
    (htype : a'.actionType = a.actionType) (hs : a.status ≠ .cancelled) : Respects a a' :=
  ⟨hid, htype, fun _ h => absurd h hs⟩

lemma StaysCancelled.trans (h : StaysCancelled db t) (h' : StaysCancelled t t') :
    StaysCancelled db t' := fun id hc => h' id (h id hc)

lemma StaysCancelled.same (h : t.actions = db.actions) : StaysCancelled db t := by
  rintro id ⟨a, ha, hrest⟩
  exact ⟨a, h ▸ ha, hrest⟩

lemma StaysCancelled.append {a : RecoveryActionRecord} (h : t.actions = db.actions ++ [a]) :
    StaysCancelled db t := by
  rintro id ⟨x, hx, hrest⟩
  refine ⟨x, ?_, hrest⟩
  rw [h]
  exact List.mem_append_left _ hx

lemma StaysCancelled.map {f : RecoveryActionRecord → RecoveryActionRecord}
    (h : t.actions = db.actions.map f) (hf : ∀ a ∈ db.actions, Respects a (f a)) :
    StaysCancelled db t := by
  rintro id ⟨a, ha, hid, hcontact, hs⟩
  have hr := hf a ha
  refine ⟨f a, ?_, hr.id.trans hid, ?_, hr.cancelled hcontact hs⟩
  · rw [h]
    exact List.mem_map_of_mem ha
  · rw [hr.actionType]
    exact hcontact

lemma StaysCancelled.put (hk : Table.Keyed (·.id) db.actions) {a a' : RecoveryActionRecord}
    (ha : a ∈ db.actions) (h : t.actions = Table.put (·.id) db.actions a') (hr : Respects a a') :
    StaysCancelled db t := by
  rintro id ⟨x, hx, rfl, hcontact, hs⟩
  by_cases hid : x.id = a'.id
  · obtain rfl : x = a := hk.eq hx ha (hid.trans hr.id)
    refine ⟨a', ?_, hid.symm, ?_, hr.cancelled hcontact hs⟩
    · rw [h]
      exact Table.mem_put_self hx hid
    · rw [hr.actionType]
      exact hcontact
  · refine ⟨x, ?_, rfl, hcontact, hs⟩
    rw [h]
    exact Table.mem_put_of_ne hx hid

/-- A row under another key than those that are written back stays. -/
lemma mem_foldl_putAction {rows : List RecoveryActionRecord} {x : RecoveryActionRecord} :
    ∀ {db : Database}, x ∈ db.actions → (∀ r ∈ rows, x.id ≠ r.id) →
      x ∈ (rows.foldl (fun db a => db.putAction a) db).actions := by
  induction rows with
  | nil => exact fun hx _ => hx
  | cons r rows ih =>
    intro db hx hne
    exact ih (Table.mem_put_of_ne hx (hne r List.mem_cons_self))
      fun s hs => hne s (List.mem_cons_of_mem _ hs)

lemma stays_cancelNonterminal (caseId : String) (at_ : Instant) :
    StaysCancelled db (db.cancelNonterminalActions caseId at_) := by
  refine .map rfl fun a _ => ?_
  split_ifs
  · exact .of_cancelled a at_
  · exact .refl a

lemma stays_closeCase (c : RecoveryCase) (at_ : Instant) : StaysCancelled db (db.closeCase c at_) :=
  StaysCancelled.trans (.same rfl) (stays_cancelNonterminal c.id at_)

lemma stays_insertActionWithPolicy {a : RecoveryActionRecord} {p : PolicyDecisionRecord}
    (h : db.insertActionWithPolicy a p = some t) : StaysCancelled db t :=
  .append (insertActionWithPolicy_tables h).2.1

lemma stays_insertEvent {e : RecoveryEventRecord} (h : db.insertEvent e = some t) :
    StaysCancelled db t := by
  obtain ⟨_, -, rfl⟩ := Option.map_eq_some_iff.mp h
  exact .same rfl

end

/-! ## The processor -/

section
open Webhook

variable {platform : Platform} {call : Call} {payload : RazorpayOutboxPayload} {db : Database}

lemma stays_unseen : Unseen (StaysCancelled db) where
  subscriptions := fun _ _ h => h.trans (.same rfl)
  invoices := fun _ _ h => h.trans (.same rfl)
  payments := fun _ _ h => h.trans (.same rfl)
  cases := fun _ _ h => h.trans (.same rfl)
  events := fun _ _ h => h.trans (.same rfl)
  recognitions := fun _ _ h => h.trans (.same rfl)
  cancelled := fun _ caseId at_ h => h.trans (stays_cancelNonterminal caseId at_)

lemma ensureInitialRecommendation_stays {merchantId : String} {c : RecoveryCase} :
    Tx.Ensures (· = db) (ensureInitialRecommendation platform call merchantId c)
      fun _ t => StaysCancelled db t := by
  refine ensureInitialRecommendation_spec.weaken ?_
  rintro a t (⟨rfl, -⟩ | ⟨p, t₁, e, h₁, h₂, -⟩)
  · exact .same rfl
  · exact (stays_insertActionWithPolicy h₁).trans (stays_insertEvent h₂)

/-- Only a wait is scheduled again. -/
lemma ensureReconciliationAuthorization_stays {c : RecoveryCase}
    (hk : Table.Keyed (·.id) db.actions) :
    Tx.Ensures (· = db) (ensureReconciliationAuthorization platform call c)
      fun _ t => StaysCancelled db t := by
  refine .query_bind fun existing => ?_
  cases existing with
  | some action =>
    refine .query_bind fun policies => .require_bind fun hok => .bind (.modify ?_) fun _ =>
      .pure fun _ h => h
    rintro t ⟨⟨rfl, hf⟩, -⟩
    simp only [Bool.and_eq_true, decide_eq_true_eq] at hok
    refine .put hk (List.mem_of_find?_eq_some hf) rfl ⟨rfl, rfl, fun hcontact _ => ?_⟩
    rw [hok.1.1.2] at hcontact
    cases hcontact
  | none =>
    refine .query_bind fun evaluatedAt => .bind (Q := fun _ => StaysCancelled db) (.attempt ?_)
      fun _ => .pure fun _ h => h
    rintro t ⟨⟨rfl, -⟩, -⟩ t' ht'
    exact stays_insertActionWithPolicy ht'

lemma authorize_stays {effects : List (String × Json)} {recoveryCase : Option RecoveryCase}
    (hk : Table.Keyed (·.id) db.actions) :
    Tx.Ensures (· = db) (authorize platform call payload effects recoveryCase)
      fun _ t => StaysCancelled db t := by
  unfold authorize
  split_ifs
  · exact .expect_bind fun c _ => .bind ensureInitialRecommendation_stays fun _ => .pure fun _ h => h
  · exact .expect_bind fun c _ => .bind (ensureReconciliationAuthorization_stays hk) fun _ =>
      .pure fun _ h => h
  · exact .pure fun t ht => ht ▸ .same rfl

lemma actions_recordFailure (id : String) (payload : Option RazorpayOutboxPayload)
    (caseId : Option String) (code : String) :
    (recordFailure call id payload caseId code db).2.actions = db.actions := by
  unfold recordFailure
  split
  · rfl
  · split_ifs
    · unfold noteError
      dsimp only
      split <;> rfl
    · rfl

lemma dispatch_stays {t committed : Database} (h : StaysCancelled db t)
    (hc : StaysCancelled db committed) (outbox : OutboxMessage) (inbox : WebhookInboxEntry)
    (effects : List (String × Json)) (caseId : Option String) :
    StaysCancelled db (dispatch call outbox payload inbox effects caseId t committed).2 := by
  dsimp only [dispatch]
  split_ifs
  · exact h.trans (.same rfl)
  · exact hc.trans (.same (actions_recordFailure _ _ _ _))
  · exact hc.trans (.same (actions_recordFailure _ _ _ _))

theorem processNext_stays (hk : Keys db) :
    StaysCancelled db (processNext platform call db).2 := by
  have hfailed : ∀ id payload caseId code,
      StaysCancelled db (recordFailure call id payload caseId code db).2 :=
    fun _ _ _ _ => .same (actions_recordFailure _ _ _ _)
  unfold processNext
  split
  · exact .same rfl
  · next outbox hnext =>
    split
    · exact hfailed _ _ _ _
    · next payload hpayload =>
      split
      · exact hfailed _ _ _ _
      · next inbox effects recoveryCase applied happ =>
        have happlied : StaysCancelled db applied :=
          applyMessage_keeps stays_unseen db (.same rfl) _ _ happ
        have hkeys : Keys applied := hk.evolves
          (applyMessage_holds (W := .any) trivial db (EvolvesOf.refl db) _ _ happ).1
        dsimp only
        split
        · exact hfailed _ _ _ _
        · next authorized hauth =>
          have hauthorized := happlied.trans (authorize_stays hkeys.actions applied rfl _ _ hauth)
          exact dispatch_stays hauthorized (.same rfl) _ _ _ _
        · next effects authorized hauth =>
          have hauthorized := happlied.trans (authorize_stays hkeys.actions applied rfl _ _ hauth)
          split_ifs
          · refine dispatch_stays ?_ ?_ _ _ _ _
            · exact hauthorized.trans (.same rfl)
            · exact hauthorized.trans (.same rfl)
          · exact hfailed _ _ _ _

end

/-! ## The operator and the callbacks -/

section
open Cases

variable {db : Database} {merchantId caseId : String}

lemma addEvent_stays {e : RecoveryEventRecord} : Tx.Keeps (StaysCancelled db) (addEvent e) := by
  refine .modify fun t h => ?_
  cases he : t.insertEvent e with
  | none => exact h
  | some t' => exact h.trans (stays_insertEvent he)

lemma stays_commit {ε α : Type} {tx : Tx ε Database α}
    (h : Tx.Ensures (· = db) tx fun _ t => StaysCancelled db t) :
    StaysCancelled db (commit tx db) := by
  rcases commit_cases h with hdb | hs
  · rw [hdb]
    exact .same rfl
  · exact hs

lemma persistRecommendation_stays {pending : PendingRecommendation} :
    Tx.Ensures (· = db) (persistRecommendation pending) fun _ t => StaysCancelled db t := by
  refine .query_bind fun existing => ?_
  cases existing with
  | some action =>
    exact .query_bind fun _ => .expect_bind fun _ _ => .pure fun t ht => ht.1.1 ▸ .same rfl
  | none =>
    refine .bind (Q := fun _ => StaysCancelled db) (.attempt ?_) fun _ =>
      .bind addEvent_stays fun _ => .pure fun _ h => h
    rintro t ⟨rfl, -⟩ t' ht'
    exact stays_insertActionWithPolicy ht'

lemma rejectAction_stays {actionId : String} {held : Option RecoveryActionRecord}
    {rejectedAt : Instant} (hk : Table.Keyed (·.id) db.actions) :
    Tx.Ensures (· = db) (rejectAction merchantId caseId actionId held rejectedAt)
      fun _ t => StaysCancelled db t := by
  refine .bind (getCaseAggregate_readOnly.ensures (Q := fun _ => (· = db)) fun _ h _ => h) fun _ =>
    .query_bind fun found => .expect_bind fun row hfound => ?_
  dsimp only
  split_ifs
  · exact .pure fun t ht => ht.1 ▸ .same rfl
  · refine .require_bind fun _ => .bind (Q := fun _ => StaysCancelled db) (.modify ?_) fun _ =>
      .bind addEvent_stays fun _ => .pure fun _ h => h
    rintro t ⟨rfl, hf⟩
    rw [hfound] at hf
    exact .put hk (List.mem_of_find?_eq_some hf) rfl ⟨rfl, rfl, fun _ _ => rfl⟩

lemma stopCase_stays {stoppedAt : Instant} :
    Tx.Ensures (· = db) (stopCase merchantId caseId stoppedAt) fun _ t => StaysCancelled db t := by
  refine .query_bind fun found => .expect_bind fun c _ => ?_
  split_ifs
  · exact .pure fun t ht => ht.1 ▸ .same rfl
  · refine .require_bind fun _ => .bind (Q := fun _ => StaysCancelled db) (.modify ?_) fun _ =>
      .bind addEvent_stays fun _ => .pure fun _ h => h
    rintro t ⟨rfl, -⟩
    exact stays_closeCase _ _

lemma escalateCase_stays {reason actionId policyId : String} {escalatedAt utcNow : Instant} :
    Tx.Ensures (· = db)
      (escalateCase merchantId caseId reason actionId policyId escalatedAt utcNow)
      fun _ t => StaysCancelled db t := by
  refine .query_bind fun found => .expect_bind fun c _ => ?_
  split_ifs
  · exact .pure fun t ht => ht.1 ▸ .same rfl
  · refine .require_bind fun _ => .bind (Q := fun _ => StaysCancelled db) (.attempt ?_) fun _ =>
      .bind (Q := fun _ => StaysCancelled db)
        (.modify fun t h => h.trans (stays_closeCase _ _)) fun _ =>
      .bind addEvent_stays fun _ => .pure fun _ h => h
    rintro t ⟨rfl, -⟩ t' ht'
    exact stays_insertActionWithPolicy ht'

lemma recordSafetyDisposition_stays {disposition : ContactDisposition} {recordedAt : Instant} :
    Tx.Ensures (· = db) (recordSafetyDisposition merchantId caseId disposition recordedAt)
      fun _ t => StaysCancelled db t := by
  refine .expect_bind fun _ _ => .query_bind fun found => .expect_bind fun c _ => ?_
  split_ifs
  · exact .require_bind fun _ => .pure fun t ht => ht.1 ▸ .same rfl
  · refine .bind (Q := fun _ => StaysCancelled db) ?_ fun _ =>
      .bind (Q := fun _ => StaysCancelled db)
        (.modify fun t h => h.trans (stays_closeCase _ _)) fun _ =>
      .bind addEvent_stays fun _ => .pure fun _ h => h
    unfold noteOptOut
    split_ifs
    · refine .query_bind fun _ => .expect_bind fun _ _ => .modify ?_
      rintro t ⟨⟨rfl, -⟩, -⟩
      exact .same rfl
    · exact .pure fun t ht => ht.1 ▸ .same rfl

end

section
open Voice

variable {db : Database}

lemma actions_applyCallback {provider eventId attemptId : String} {changes : Changes} :
    (applyCallback provider eventId attemptId changes db).2.actions = db.actions := by
  unfold applyCallback
  split
  · rfl
  · next received hreceived =>
    obtain ⟨_, -, rfl⟩ := Option.map_eq_some_iff.mp hreceived
    split <;> rfl

lemma actions_suppress {attempt : VoiceContactAttemptRecord} {reasonCode : String} {now : Instant} :
    (suppress attempt reasonCode now db).2.actions = db.actions := by
  unfold suppress
  split
  · rfl
  · next suppressed hsuppressed =>
    obtain ⟨_, -, rfl⟩ := Option.map_eq_some_iff.mp hsuppressed
    rfl

/-- A callback writes no action. -/
lemma actions_receive {callback : Callback} {eventId attemptId : String} {now : Instant}
    {cancelSucceeds : Bool} :
    (receive callback eventId attemptId now cancelSucceeds db).actions = db.actions := by
  unfold receive
  split
  · rfl
  · next intent _ =>
    have happlied : (applyCallback callback.provider eventId attemptId (callback.changes intent)
      db).2.actions = db.actions := actions_applyCallback
    split
    · next attempt applied heq =>
      rw [heq] at happlied
      have hs : (suppress attempt "VOICE_OPT_OUT" now applied).2.actions = db.actions :=
        actions_suppress.trans happlied
      split_ifs
      · dsimp only
        split
        · split_ifs
          · exact hs
          · rfl
        · exact hs
      · exact happlied
    · next heq =>
      rw [heq] at happlied
      exact happlied

end

/-! ## The worker's activities -/

section
variable {rt : Runtime} {command : ExecuteActionInput} {inFlight : List String} {now : Instant}
  {db : Database} {actionId caseId : String}

/-- A row that is not cancelled is written back. -/
lemma stays_putAction (hk : Table.Keyed (·.id) db.actions) {a a' : RecoveryActionRecord}
    (ha : a ∈ db.actions) (hr : Respects a a') : StaysCancelled db (db.putAction a') :=
  .put hk ha rfl hr

lemma claimSurfaceAction_stays (hk : Table.Keyed (·.id) db.actions) {surface : PaymentSurfaceType}
    {action : RecoveryActionRecord} {policy : PolicyDecisionRecord} (ha : action ∈ db.actions) :
    StaysCancelled db (claimSurfaceAction inFlight surface now action policy db).2 := by
  unfold claimSurfaceAction
  dsimp only
  split_ifs with h1 h2 h3 h4 h5 h6 h7 h8 h9
  all_goals try exact .same rfl
  · refine stays_putAction hk ha (.of_ne rfl rfl fun hs => ?_)
    rcases claimable_live h7 with h | h
    · rw [h] at hs
      cases hs
    · rw [h] at hs
      cases hs
  · repeat' split
    all_goals exact .same rfl

lemma claimAuthorizedAction_stays (hk : Table.Keyed (·.id) db.actions) {row : MandateRow}
    {surface : PaymentSurfaceType} (ha : row.action ∈ db.actions) :
    StaysCancelled db (claimAuthorizedAction row surface now db).2 := by
  unfold claimAuthorizedAction
  dsimp only
  split_ifs with h1 h2 h3 h4 h5 h6 h7 h8
  all_goals try exact .same rfl
  have hput : StaysCancelled db (db.putAction (executing row.action)) :=
    stays_putAction hk ha (.of_ne rfl rfl h2)
  exact hput.trans (.same rfl)

lemma claimA2aPaymentAction_stays (hk : Table.Keyed (·.id) db.actions) {mandate : Json}
    {surface : PaymentSurfaceType} :
    StaysCancelled db (claimA2aPaymentAction rt command mandate surface now db).2 := by
  unfold claimA2aPaymentAction
  split
  · split
    · exact .same rfl
    · dsimp only
      split
      · exact .same rfl
      · split
        · exact .same rfl
        · next row hrow =>
          have hmem := mem_of_mandateRows (List.mem_of_head? hrow)
          split
          · exact .same rfl
          · split
            · exact .same rfl
            · split
              · exact .same rfl
              · exact claimAuthorizedAction_stays hk hmem.1
  · exact .same rfl

lemma executePaymentSurface_stays (hk : Table.Keyed (·.id) db.actions) :
    StaysCancelled db (executePaymentSurface rt command inFlight now db).2 := by
  have hclaim : StaysCancelled db (claimPaymentAction rt command inFlight now db).2 := by
    unfold claimPaymentAction
    split
    · exact .same rfl
    · split
      · exact .same rfl
      · exact claimA2aPaymentAction_stays hk
      · split
        · exact .same rfl
        · next action policy hrow =>
          exact claimSurfaceAction_stays hk (mem_of_withPolicies (Table.mem_of_first hrow)).1
  unfold executePaymentSurface
  split
  · split
    · exact .same rfl
    · split
      · exact .same rfl
      · exact hclaim
  · exact .same rfl

lemma claimVoiceAction_stays (hk : Table.Keyed (·.id) db.actions) {ready : Bool} :
    StaysCancelled db (claimVoiceAction command ready db).2 := by
  unfold claimVoiceAction
  split
  · exact .same rfl
  · next action policy hrow =>
    have ha := (mem_of_withPolicies (Table.mem_of_first hrow)).1
    split_ifs with h1 h2 h3 h4 h5 h6 h7 h8
    all_goals try exact .same rfl
    exact stays_putAction hk ha (.of_ne rfl rfl h4)

lemma recordSurface_stays (hk : Table.Keyed (·.id) db.actions) {a : RecoveryActionRecord}
    (ha : a ∈ db.actions) (hs : a.status ≠ .cancelled) (r : PaymentSurfaceResult) :
    StaysCancelled db (recordSurface a r now db) := by
  have hput : StaysCancelled db (db.putAction (surfaced a r now)) :=
    stays_putAction hk ha (.of_ne rfl rfl hs)
  exact hput.trans (.same rfl)

lemma persistPaymentSurface_stays (hk : Table.Keyed (·.id) db.actions)
    {result : PaymentSurfaceResult} :
    StaysCancelled db (persistPaymentSurface actionId result now db).2 := by
  unfold persistPaymentSurface
  dsimp only
  split
  · exact .same rfl
  · next action hfound =>
    split_ifs with hcancelled
    · exact .same rfl
    · exact .same rfl
    · exact recordSurface_stays hk (List.mem_of_find?_eq_some hfound) hcancelled result

lemma reconcileStandardPaymentLink_stays (hk : Table.Keyed (·.id) db.actions) {lookup : LinkLookup}
    {resubmission : Option PaymentSurfaceResult} :
    StaysCancelled db (reconcileStandardPaymentLink rt actionId lookup resubmission now db).2 := by
  unfold reconcileStandardPaymentLink
  split
  · exact .same rfl
  · next action hcheck =>
    obtain ⟨-, hfound, hexecuting⟩ := reconcileCheck_spec hcheck
    have ha := List.mem_of_find?_eq_some hfound
    have hne : action.status ≠ .cancelled := by
      rw [hexecuting]
      decide
    split
    · exact .same rfl
    · exact recordSurface_stays hk ha hne _
    · split
      · exact .same rfl
      · exact recordSurface_stays hk ha hne _

/-- A cleanup writes back links that are executing or succeeded, under their keys. -/
lemma cleanupStandardPaymentLinks_stays (hk : Table.Keyed (·.id) db.actions)
    {replies : LinkReplies} :
    StaysCancelled db (cleanupStandardPaymentLinks rt replies caseId now db).2 := by
  -- what is written has the key of an open link, and a cancelled row is none
  have hfold : ∀ rows : List RecoveryActionRecord,
      (∀ r ∈ rows, ∃ a ∈ openLinks caseId db, r.id = a.id) →
        StaysCancelled db (rows.foldl (fun db a => db.putAction a) db) := by
    rintro rows hrows id ⟨x, hx, hid, hcontact, hs⟩
    refine ⟨x, mem_foldl_putAction hx fun r hr he => ?_, hid, hcontact, hs⟩
    obtain ⟨a, ha, hra⟩ := hrows r hr
    obtain ⟨hmem, hopen⟩ := List.mem_filter.mp ha
    obtain rfl := hk.eq hx hmem (he.trans hra)
    simp [hs] at hopen
  unfold cleanupStandardPaymentLinks
  split
  · exact .same rfl
  · split
    · refine hfold _ fun r hr => ?_
      obtain ⟨a, ha, rfl⟩ := List.mem_map.mp hr
      exact ⟨a, ha, rfl⟩
    · split
      · exact .same rfl
      · next written hwritten =>
        refine hfold _ fun r hr => ?_
        obtain ⟨x, hx, rfl⟩ := List.mem_map.mp hr
        obtain ⟨a, ha, hclean⟩ := Collected.exists_of_mem hwritten x hx
        exact ⟨a, ha, (cleanupLink_move hclean).id⟩

lemma cancelOtherActions_stays : StaysCancelled db (cancelOtherActions caseId now db) := by
  refine .map rfl fun a _ => ?_
  split_ifs
  · exact .of_cancelled a now
  · exact .refl a

lemma recordAuditEvent_stays {input : AuditInput} :
    StaysCancelled db (recordAuditEvent input now db) := by
  unfold recordAuditEvent
  cases h : db.insertEvent _ with
  | none => exact .same rfl
  | some db' => exact stays_insertEvent h

end

/-! ## Steps -/

/-- The action can be approved: a surface has a type and an invoice to collect. -/
def Payable (a : RecoveryActionRecord) (pending : Cases.PendingApproval) : Prop :=
  a.actionType = .openCustomerPaymentSurface →
    a.paymentSurfaceType.isSome = true ∧ pending.hasInvoice = true

/-- A cancelled action is written over: by an approval that loaded it while it awaited approval, or
by the end of a call. -/
def Revives (w : World) : Op → Prop
  | .commitApproval i _ => ∃ pending held row, w.approvals[i]? = some pending ∧
      pending.held = some held ∧ held.status = .awaitingApproval ∧ Payable held pending ∧
      Cases.getAction pending.caseId pending.actionId w.db = some row ∧
      Safety.isContact row.actionType = true ∧ row.status = .cancelled
  | .finishVoice i reference _ => reference.isSome = true ∧ ∃ actionId,
      w.voiceCalls[i]? = some actionId ∧ CancelledContact w.db actionId
  | _ => False

section
variable {d : Deployment} {w : World}

/-- What an approval that goes through writes. -/
lemma commitApproval_writes (pending : Cases.PendingApproval) (at_ : Instant) (db : Database) :
    Tx.Ensures (· = db) (Cases.commitApproval pending at_) fun _ t => ∃ row,
      Cases.getAction pending.caseId pending.actionId db = some row ∧
        (pending.held.getD row).status = .awaitingApproval ∧
        Payable (pending.held.getD row) pending ∧
        t.actions = Table.put (·.id) db.actions (approved row pending) := by
  refine .query_bind fun found => .expect_bind fun row hfound => .require_bind fun hstatus =>
    .require_bind fun hpay => .bind (Q := fun _ t => t = db.putAction (approved row pending) ∧
      Cases.getAction pending.caseId pending.actionId db = some row) (.modify ?_) fun _ =>
    .bind (Q := fun _ t => t.actions = Table.put (·.id) db.actions (approved row pending) ∧
      Cases.getAction pending.caseId pending.actionId db = some row) (.modify ?_) fun _ =>
    .pure ?_
  · rintro _ ⟨rfl, hf⟩
    exact ⟨rfl, hf.trans hfound⟩
  · rintro _ ⟨rfl, hf⟩
    refine ⟨?_, hf⟩
    cases he : (db.putAction (approved row pending)).insertEvent (Cases.approvalEvent row at_) with
    | none => rfl
    | some t' =>
      obtain ⟨_, -, rfl⟩ := Option.map_eq_some_iff.mp he
      rfl
  · rintro t ⟨ht, hf⟩
    refine ⟨row, hf, of_decide_eq_true hstatus, fun hsurface => ?_, ht⟩
    simpa [hsurface] using hpay

/-- An approval of what it loaded goes through, whatever the row has become. -/
lemma commitApproval_goes {pending : Cases.PendingApproval} {held row : RecoveryActionRecord}
    {db : Database} (at_ : Instant) (hheld : pending.held = some held)
    (hstatus : held.status = .awaitingApproval) (hpay : Payable held pending)
    (hrow : Cases.getAction pending.caseId pending.actionId db = some row) :
    ∃ a t, Cases.commitApproval pending at_ db = .ok (a, t) := by
  unfold Cases.commitApproval
  rw [Tx.run_query, Tx.run_expect hrow]
  dsimp only
  rw [hheld, Option.getD_some, Tx.run_require (decide_eq_true hstatus), Tx.run_require,
    Tx.run_modify]
  · exact ⟨_, _, rfl⟩
  · by_cases hsurface : held.actionType = .openCustomerPaymentSurface
    · simp [hpay hsurface]
    · simp [hsurface]

lemma commitApproval_stays (hk : Keys w.db) {i : ℕ} {at_ : Instant}
    (hop : ¬ Revives w (.commitApproval i at_)) :
    StaysCancelled w.db (w.step d (.commitApproval i at_)).db := by
  simp only [World.step]
  split
  · exact .same rfl
  · next pending hpending =>
    rcases commit_cases (commitApproval_writes pending at_ w.db) with
      h | ⟨row, hrow, hstatus, hpay, h⟩
    · exact .same (congrArg Database.actions h)
    · refine .put hk.actions (List.mem_of_find?_eq_some hrow) h ⟨rfl, rfl, fun hcontact hs => ?_⟩
      cases hheld : pending.held with
      | none =>
        rw [hheld, Option.getD_none, hs] at hstatus
        cases hstatus
      | some held =>
        rw [hheld, Option.getD_some] at hstatus hpay
        exact absurd ⟨pending, held, row, hpending, hheld, hstatus, hpay, hrow, hcontact, hs⟩ hop

lemma finishVoice_stays (hk : Keys w.db) {i : ℕ} {reference : Option String} {now : Instant}
    (hop : ¬ Revives w (.finishVoice i reference now)) :
    StaysCancelled w.db (w.step d (.finishVoice i reference now)).db := by
  simp only [World.step]
  split
  · exact .same rfl
  · next actionId hcall =>
    dsimp only
    unfold finalizeVoiceAction
    split
    · exact .same rfl
    · next action hfound =>
      split_ifs
      · exact .same rfl
      · have hmem := List.mem_of_find?_eq_some hfound
        have hid : action.id = actionId := by simpa using List.find?_some hfound
        refine stays_putAction hk.actions hmem ⟨rfl, rfl, fun hcontact hs => ?_⟩
        cases hreference : reference.isSome with
        | false => simp [finalized, hreference]
        | true => exact absurd ⟨hreference, actionId, hcall, action, hmem, hid, hcontact, hs⟩ hop

/-- Every other step leaves the cancelled contacts cancelled. -/
theorem step_staysCancelled (hk : Keys w.db) {op : Op} (hop : ¬ Revives w op) :
    StaysCancelled w.db (w.step d op).db := by
  cases op with
  | deliver entry message => exact .same rfl
  | process call => exact processNext_stays hk
  | recommend service request =>
    simp only [World.step, World.recommend]
    split <;> exact .same rfl
  | commitRecommendation i =>
    simp only [World.step]
    split
    · exact .same rfl
    · exact stays_commit persistRecommendation_stays
  | loadApproval m c a =>
    simp only [World.step, World.loadApproval]
    split <;> exact .same rfl
  | commitApproval i t => exact commitApproval_stays hk hop
  | reject m c a held t => exact stays_commit (rejectAction_stays hk.actions)
  | stop m c t => exact stays_commit stopCase_stays
  | escalate m c reason a p t t' => exact stays_commit escalateCase_stays
  | recordDisposition m c disposition t => exact stays_commit recordSafetyDisposition_stays
  | reserveVoice attempt =>
    simp only [World.step]
    cases h : w.db.insertVoiceAttempt attempt with
    | none => exact .same rfl
    | some db' =>
      obtain ⟨_, -, rfl⟩ := Option.map_eq_some_iff.mp h
      exact .same rfl
  | callback callback eventId attemptId now cancelSucceeds => exact .same actions_receive
  | poll p =>
    refine .same ?_
    show (w.poll d p).db.actions = w.db.actions
    unfold World.poll
    repeat' split
    all_goals rfl
  | execute worker command ready now =>
    simp only [World.step, World.execute]
    split_ifs
    · have h : StaysCancelled w.db (claimVoiceAction command ready w.db).2 :=
        claimVoiceAction_stays hk.actions
      unfold World.executeVoice
      split
      · next heq =>
        rw [heq] at h
        exact h
      · next heq =>
        rw [heq] at h
        exact h
    · rw [executeSurface_db]
      exact executePaymentSurface_stays hk.actions
    · exact .same rfl
  | reply i reply =>
    simp only [World.step]
    split
    · exact .same (congrArg Database.actions answer_db)
    · exact .same rfl
  | persist i now =>
    simp only [World.step]
    split
    · exact persistPaymentSurface_stays hk.actions
    · exact .same rfl
  | reconcile i lookup resubmission now =>
    simp only [World.step]
    split
    · rw [reconcile_db]
      exact reconcileStandardPaymentLink_stays hk.actions
    · exact .same rfl
  | finishVoice i reference now => exact finishVoice_stays hk hop
  | crash worker => exact .same rfl
  | land i linkId =>
    simp only [World.step]
    split <;> exact .same rfl
  | lose i => exact .same rfl
  | expire linkId => exact .same rfl
  | cleanup caseId replies revoked now => exact cleanupStandardPaymentLinks_stays hk.actions
  | cancelOthers caseId now => exact cancelOtherActions_stays
  | audit command now => exact recordAuditEvent_stays

/-- A step that revives an action leaves it scheduled or succeeded. -/
lemma Revives.revived {op : Op} (h : Revives w op) (hk : Keys w.db) : ∃ a ∈ w.db.actions,
    Safety.isContact a.actionType = true ∧ a.status = .cancelled ∧
      ∃ a' ∈ (w.step d op).db.actions, a'.id = a.id ∧
        (a'.status = .scheduled ∨ a'.status = .succeeded) := by
  cases op with
  | commitApproval i at_ =>
    obtain ⟨pending, held, row, hpending, hheld, hstatus, hpay, hrow, hcontact, hs⟩ := h
    have hmem := List.mem_of_find?_eq_some hrow
    refine ⟨row, hmem, hcontact, hs, approved row pending, ?_, rfl, .inl rfl⟩
    obtain ⟨a, t, hok⟩ := commitApproval_goes at_ hheld hstatus hpay hrow
    obtain ⟨row', hrow', -, -, ht⟩ := commitApproval_writes pending at_ w.db w.db rfl _ _ hok
    obtain rfl := Option.some.inj (hrow.symm.trans hrow')
    simp only [World.step]
    rw [hpending]
    dsimp only
    unfold commit
    rw [hok]
    dsimp only
    rw [ht]
    exact Table.mem_put_self hmem rfl
  | finishVoice i reference now =>
    obtain ⟨hreference, actionId, hcall, a, ha, rfl, hcontact, hs⟩ := h
    have hfound : getAction a.id w.db = some a := hk.actions.find?_eq ha
    refine ⟨a, ha, hcontact, hs, finalized a reference now, ?_, rfl, .inr (if_pos hreference)⟩
    simp only [World.step]
    rw [hcall]
    dsimp only
    unfold finalizeVoiceAction
    rw [hfound]
    dsimp only
    rw [if_neg (by rw [hs]; decide)]
    exact Table.mem_put_self ha rfl
  | _ => exact absurd h id

end

/-! ## Runs -/

/-- An action that reaches the customer and is cancelled never awaits approval, is scheduled, is
executed or succeeds later on. -/
def CancelledFinal (d : Deployment) (w : World) (ops : List Op) : Prop :=
  ∀ j k, j ≤ k → k ≤ ops.length → ∀ a ∈ (w.after d ops j).db.actions,
    ∀ a' ∈ (w.after d ops k).db.actions, a'.id = a.id → Safety.isContact a.actionType = true →
      a.status = .cancelled →
        a'.status ∉ [ActionStatus.awaitingApproval, .scheduled, .executing, .succeeded]

section
variable {d : Deployment} {w : World}

lemma after_keys (hk : Keys w.db) (ops : List Op) :
    ∀ k ≤ ops.length, Keys (w.after d ops k).db :=
  World.after_induct (P := fun _ t => Keys t.db) hk fun _ op _ h => step_keys h op

lemma after_staysCancelled (hk : Keys w.db) {ops : List Op}
    (hops : ∀ k op, ops[k]? = some op → ¬ Revives (w.after d ops k) op) {j k : ℕ} (hjk : j ≤ k)
    (hlen : k ≤ ops.length) : StaysCancelled (w.after d ops j).db (w.after d ops k).db := by
  induction k, hjk using Nat.le_induction with
  | base => exact .same rfl
  | succ k hjk ih =>
    obtain ⟨op, hop⟩ : ∃ op, ops[k]? = some op := ⟨ops[k], List.getElem?_eq_getElem hlen⟩
    rw [World.after_succ d w hop]
    have hkeys : Keys (w.after d ops k).db := after_keys hk ops k (by omega)
    exact (ih (by omega)).trans (step_staysCancelled hkeys (hops k op hop))

/-- Cancelled actions are final exactly in the runs in which no step revives one. -/
theorem cancelledFinal_iff (hk : Keys w.db) (ops : List Op) :
    CancelledFinal d w ops ↔ ∀ k op, ops[k]? = some op → ¬ Revives (w.after d ops k) op := by
  constructor
  · intro hfinal k op hop hrevives
    have hlt : k < ops.length := (List.getElem?_eq_some_iff.mp hop).1
    obtain ⟨a, ha, hcontact, hs, a', ha', hid, hstatus⟩ :=
      hrevives.revived (d := d) (after_keys hk ops k hlt.le)
    rw [← World.after_succ d w hop] at ha'
    refine hfinal k (k + 1) (by omega) (by omega) a ha a' ha' hid hcontact hs ?_
    rcases hstatus with h | h
    · simp [h]
    · simp [h]
  · intro hops j k hjk hlen a ha a' ha' hid hcontact hs
    obtain ⟨x, hx, hxid, -, hxs⟩ :=
      after_staysCancelled hk hops hjk hlen a.id ⟨a, ha, rfl, hcontact, hs⟩
    have hkeys : Keys (w.after d ops k).db := after_keys hk ops k hlen
    obtain rfl := hkeys.actions.eq ha' hx (hid.trans hxid.symm)
    simp [hxs]

end

/-! ### A call that ends after its case was stopped -/

def voiceCommand : ExecuteActionInput :=
  { sampleCommand .standardPaymentLink with
    action := "START_VOICE"
    paymentSurfaceType := none }

/-- The operator approves a call and stops the case while the call is being submitted. -/
def stoppedCall : List Op :=
  [.recommend
      { zoneInfo := Webhook.samplePlatform.zoneInfo
        globalKillSwitch := false
        capabilities := ⟨true, false⟩
        scorer := fun _ => .ok ⟨0, 0, 0, Decision.zeroProbability_mem, Decision.zeroRecovered_nonneg⟩ }
      { merchantId := "merchant_1"
        caseId := "case_1"
        actionType := some .startVoice
        paymentSurfaceType := none
        evaluatedAt := 1000000
        actionId := "action_1"
        policyId := "policy_1"
        utcNow := 1000000 },
    .commitRecommendation 0,
    .loadApproval "merchant_1" "case_1" "action_1",
    .commitApproval 0 2000000,
    .execute 1 voiceCommand true 3000000,
    .stop "merchant_1" "case_1" 4000000,
    .finishVoice 0 (some "call_1") 5000000]

lemma sampleWorld_keys (above : Option ℤ) : Keys (sampleWorld above).db :=
  ⟨List.nodup_singleton _, List.nodup_nil⟩

theorem stoppedCall_iff : Keys (sampleWorld (some 10000)).db ∧
    (CancelledFinal sampleDeployment (sampleWorld (some 10000)) stoppedCall ↔
      ∀ k op, stoppedCall[k]? = some op →
        ¬ Revives ((sampleWorld (some 10000)).after sampleDeployment stoppedCall k) op) :=
  ⟨sampleWorld_keys _, cancelledFinal_iff (sampleWorld_keys _) stoppedCall⟩

/-- The action was cancelled with the case, and succeeds. -/
theorem stoppedCall_revived :
    ¬ CancelledFinal sampleDeployment (sampleWorld (some 10000)) stoppedCall := by
  intro h
  refine h 6 7 (by omega) (le_refl 7) _ (List.mem_cons_self) _ (List.mem_cons_self) rfl rfl rfl ?_
  decide

end RecoveryOS.Core
