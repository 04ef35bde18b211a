import RecoveryOS.Core.Operations

/-!
# What a granted claim has seen

A provider is called only under a claim. These are the facts that the claim established about the
database it read, for the two claims of a payment surface and for the claim of a call; what is
proved about provider calls starts from here.
-/

namespace RecoveryOS.Core

open Store Worker

section
variable {rt : Runtime} {command : ExecuteActionInput} {surface : PaymentSurfaceType}
  {inFlight : List String} {now : Instant} {db db' : Database} {claimed : RecoveryActionRecord}
  {b : Bool}

/-! ## The plain claim -/

/-- The rows that the plain claim locks. -/
structure PlainRow (command : ExecuteActionInput) (surface : PaymentSurfaceType) (db : Database)
    (action : RecoveryActionRecord) (policy : PolicyDecisionRecord) : Prop where
  mem : action ∈ db.actions
  policyMem : policy ∈ db.policies
  about : policy.actionId = some action.id
  caseId : action.caseId = command.caseId
  actionType : action.actionType = .openCustomerPaymentSurface
  surfaceType : action.paymentSurfaceType = some surface

lemma plainRow_of_surfaceRow {action : RecoveryActionRecord} {policy : PolicyDecisionRecord}
    (h : surfaceRow command surface db = some (action, policy)) :
    PlainRow command surface db action policy := by
  obtain ⟨ha, hcond, hp, habout⟩ := mem_of_withPolicies (Table.mem_of_first h)
  simp only [Bool.and_eq_true, decide_eq_true_eq] at hcond
  exact ⟨ha, hp, habout, hcond.1.1.1, hcond.1.2, hcond.2⟩

/-- A plain claim is granted to a live action. -/
lemma claimSurfaceAction_live {action : RecoveryActionRecord} {policy : PolicyDecisionRecord}
    (h : claimSurfaceAction inFlight surface now action policy db = (.claimed claimed b, db')) :
    Live action.status ∧ claimed.id = action.id := by
  unfold claimSurfaceAction at h
  dsimp only at h
  split_ifs at h with h1 h2 h3 h4 h5 h6 h7 h8 h9
  all_goals try (cases h; done)
  · obtain ⟨hc, -⟩ := Prod.mk.inj h
    obtain ⟨rfl, -⟩ := PaymentActionClaim.claimed.inj hc
    exact ⟨.inr (.inr h2), rfl⟩
  · obtain ⟨hc, -⟩ := Prod.mk.inj h
    obtain ⟨rfl, -⟩ := PaymentActionClaim.claimed.inj hc
    exact ⟨Or.imp_right .inl (claimable_live h7), rfl⟩
  · refine ⟨Or.imp_right .inl (claimable_live h7), ?_⟩
    split at h
    · cases h
    · next current hcurrent =>
      split_ifs at h
      all_goals try (cases h; done)
      obtain ⟨hc, -⟩ := Prod.mk.inj h
      obtain ⟨rfl, -⟩ := PaymentActionClaim.claimed.inj hc
      simpa using List.find?_some hcurrent

/-- A plain claim that is granted at once moves its action to `EXECUTING`. -/
lemma claimSurfaceAction_granted {action : RecoveryActionRecord} {policy : PolicyDecisionRecord}
    (h : claimSurfaceAction inFlight surface now action policy db = (.claimed claimed false, db')) :
    action.status ∈ claimableStatuses policy.disposition ∧ policy.disposition ≠ .block ∧
      due action policy now = true ∧ claimed = executing action ∧
      db' = db.putAction (executing action) := by
  unfold claimSurfaceAction at h
  dsimp only at h
  split_ifs at h with h1 h2 h3 h4 h5 h6 h7 h8 h9
  all_goals try (cases h; done)
  · obtain ⟨hc, rfl⟩ := Prod.mk.inj h
    obtain ⟨rfl, -⟩ := PaymentActionClaim.claimed.inj hc
    exact ⟨h7, h5, by simpa using h8, rfl, rfl⟩
  · split at h
    · cases h
    · split_ifs at h <;> cases h

/-! ## The claim backed by a mandate -/

/-- The rows that a mandate's claim found safe. -/
structure MandateFound (rt : Runtime) (command : ExecuteActionInput)
    (surface : PaymentSurfaceType) (now : Instant) (db : Database) (data : A2A.RecoveryMandateData)
    (row : MandateRow) : Prop where
  scope : signedScope data = commandScope command surface
  found : row ∈ mandateRows data.recoveryActionId command.caseId data.mandateId
    (rt.pkgs.sha256 (A2A.canonicalJson rt.pkgs data)) db
  matched : row.mismatched data surface now = false
  fresh : row.stale data = false

/-- A mandate's claim that is granted at once moves its action, and what authorized it. -/
lemma claimAuthorizedAction_granted {row : MandateRow}
    (h : claimAuthorizedAction row surface now db = (.claimed claimed false, db')) :
    (row.action.status = .proposed ∨ row.action.status = .scheduled) ∧
      row.authorization.executionStatus = .authorized ∧ claimed = executing row.action ∧
      db' = claimAuthorization row.action now db := by
  unfold claimAuthorizedAction at h
  dsimp only at h
  split_ifs at h with h1 h2 h3 h4 h5 h6 h7 h8
  all_goals try (cases h; done)
  obtain ⟨hc, rfl⟩ := Prod.mk.inj h
  obtain ⟨rfl, -⟩ := PaymentActionClaim.claimed.inj hc
  exact ⟨by tauto, not_not.mp h6, rfl, rfl⟩

/-- A mandate's claim gets to the rows it found only if they are safe. -/
lemma claimA2aPaymentAction_claimed {mandate : Json}
    (h : claimA2aPaymentAction rt command mandate surface now db = (.claimed claimed b, db')) :
    ∃ signed row, validateMandate rt mandate = some signed ∧
      MandateFound rt command surface now db signed.data row ∧
      claimAuthorizedAction row surface now db = (.claimed claimed b, db') := by
  unfold claimA2aPaymentAction at h
  split at h
  · next actionId _ hid _ =>
    split at h
    · cases h
    · next signed hsigned =>
      dsimp only at h
      split_ifs at h with hscope
      · cases h
      · have hdata : actionId = signed.data.recoveryActionId := by
          have := congrArg MandateScope.recoveryActionId (not_not.mp hscope)
          simpa [signedScope, commandScope, hid, eq_comm] using this
        split at h
        · cases h
        · next row hrow =>
          split_ifs at h with hmismatch
          · cases h
          · split at h
            · cases h
            · split_ifs at h with hstale
              · cases h
              · refine ⟨signed, row, hsigned, ⟨not_not.mp hscope, ?_, by simpa using hmismatch, ?_⟩,
                  h⟩
                · rw [← hdata]
                  exact List.mem_of_head? hrow
                · simpa using (not_or.mp hstale).2
  · cases h

/-! ## Executions -/

/-- How a claim goes on: it calls the provider at once, or reconciles first. -/
def Resumed (reconcileFirst : Bool) (actionId : String) (request : OpenPaymentSurfaceRequest) : Execution :=
  if reconcileFirst then .reconcile actionId request else .submit actionId request

/-- What was claimed for a provider to be called for a surface: a row of one of the two claims. -/
inductive Claimed (rt : Runtime) (command : ExecuteActionInput) (surface : PaymentSurfaceType)
    (inFlight : List String) (now : Instant) (db : Database) (claimed : RecoveryActionRecord)
    (b : Bool) (db' : Database) : Prop where
  | plain (action : RecoveryActionRecord) (policy : PolicyDecisionRecord)
      (hmandate : command.mandate = none) (hrow : PlainRow command surface db action policy)
      (hclaim : claimSurfaceAction inFlight surface now action policy db =
        (.claimed claimed b, db'))
  | mandate (mandate : Json) (signed : A2A.SignedMandate) (row : MandateRow)
      (hmandate : command.mandate = some mandate)
      (hsigned : validateMandate rt mandate = some signed)
      (hfound : MandateFound rt command surface now db signed.data row)
      (hclaim : claimAuthorizedAction row surface now db = (.claimed claimed b, db'))

lemma claimPaymentAction_claimed {text : String} (htext : command.paymentSurfaceType = some text)
    (hsurface : PaymentSurfaceType.ofValue text = some surface)
    (h : claimPaymentAction rt command inFlight now db = (.claimed claimed b, db')) :
    Claimed rt command surface inFlight now db claimed b db' := by
  unfold claimPaymentAction at h
  rw [htext] at h
  dsimp only at h
  rw [hsurface] at h
  split at h
  · next heq => cases heq
  · next surface' mandate hsurface' hmandate =>
    obtain rfl := Option.some.inj hsurface'
    obtain ⟨signed, row, hsigned, hfound, hclaim⟩ := claimA2aPaymentAction_claimed h
    exact .mandate mandate signed row hmandate hsigned hfound hclaim
  · next surface' hsurface' hmandate =>
    obtain rfl := Option.some.inj hsurface'
    split at h
    · cases h
    · next action policy hrow => exact .plain action policy hmandate (plainRow_of_surfaceRow hrow) h

/-- How a provider comes to be called for a surface. -/
theorem executePaymentSurface_claimed {actionId : String} {request : OpenPaymentSurfaceRequest}
    (h : executePaymentSurface rt command inFlight now db =
      (Resumed b actionId request, db')) :
    ∃ surface subscriptionId invoiceId deadline claimed,
      providerScope rt command = some (subscriptionId, invoiceId) ∧
      openRequest rt command claimed surface deadline subscriptionId invoiceId = some request ∧
      claimed.id = actionId ∧ Claimed rt command surface inFlight now db claimed b db' := by
  unfold executePaymentSurface at h
  split at h
  · next text _ htext =>
    split at h
    · cases b <;> cases h
    · next surface hsurface =>
      split at h
      · cases b <;> cases h
      · next subscriptionId invoiceId hscope =>
        obtain ⟨hafter, hdb⟩ := Prod.mk.inj h
        unfold afterClaim at hafter
        split at hafter
        · cases b <;> cases hafter
        · cases b <;> cases hafter
        · next action reconcileFirst hclaim =>
          split at hafter
          · cases b <;> cases hafter
          · next opened hopened =>
            obtain ⟨deadline, -, hopened⟩ := Option.bind_eq_some_iff.mp hopened
            have hfirst : reconcileFirst = b ∧ action.id = actionId ∧ opened = request := by
              cases reconcileFirst <;> cases b
              · exact ⟨rfl, Execution.submit.inj hafter⟩
              · cases hafter
              · rw [if_pos rfl] at hafter
                split_ifs at hafter <;> cases hafter
              · rw [if_pos rfl] at hafter
                split_ifs at hafter
                · exact ⟨rfl, Execution.reconcile.inj hafter⟩
                · cases hafter
            obtain ⟨rfl, hid, rfl⟩ := hfirst
            exact ⟨surface, subscriptionId, invoiceId, deadline, action, hscope, hopened, hid,
              claimPaymentAction_claimed htext hsurface (Prod.ext hclaim hdb)⟩
  · cases b <;> cases h

/-- What the request for a surface says. -/
lemma openRequest_eq {action : RecoveryActionRecord} {deadline : Instant}
    {subscriptionId invoiceId : String} {request : OpenPaymentSurfaceRequest}
    (h : openRequest rt command action surface deadline subscriptionId invoiceId = some request) :
    request.surfaceType = surface ∧ request.caseId = command.caseId ∧
      request.merchantId = command.merchantId ∧ request.customerId = command.customerId ∧
      request.failedInvoiceId = invoiceId ∧ request.exactAmountPaise = command.amountPaise ∧
      request.currency = command.currency ∧ request.idempotencyKey = action.idempotencyKey := by
  unfold openRequest at h
  dsimp only at h
  split_ifs at h
  all_goals
    obtain rfl := Option.some.inj h
    exact ⟨rfl, rfl, rfl, rfl, rfl, rfl, rfl, rfl⟩

/-- The reference that a request for a standalone link carries. -/
lemma openRequest_reference {action : RecoveryActionRecord} {deadline : Instant}
    {subscriptionId invoiceId reference : String} {request : OpenPaymentSurfaceRequest}
    (h : openRequest rt command action surface deadline subscriptionId invoiceId = some request)
    (hr : request.referenceId = some reference) :
    standardPaymentLinkReference rt action.idempotencyKey = reference := by
  unfold openRequest at h
  dsimp only at h
  split_ifs at h
  · obtain rfl := Option.some.inj h
    exact Option.some.inj hr
  · obtain rfl := Option.some.inj h
    cases hr

/-- The row that a claim was granted for, with the key of what was claimed. -/
lemma Claimed.row (h : Claimed rt command surface inFlight now db claimed b db') :
    ∃ r ∈ db.actions, r.id = claimed.id ∧ r.idempotencyKey = claimed.idempotencyKey := by
  cases h with
  | plain action policy _ hrow h =>
    unfold claimSurfaceAction at h
    dsimp only at h
    split_ifs at h
    all_goals try (cases h; done)
    · obtain ⟨hc, -⟩ := Prod.mk.inj h
      obtain ⟨rfl, -⟩ := PaymentActionClaim.claimed.inj hc
      exact ⟨action, hrow.mem, rfl, rfl⟩
    · obtain ⟨hc, -⟩ := Prod.mk.inj h
      obtain ⟨rfl, -⟩ := PaymentActionClaim.claimed.inj hc
      exact ⟨action, hrow.mem, rfl, rfl⟩
    · split at h
      · cases h
      · next current hcurrent =>
        split_ifs at h
        all_goals try (cases h; done)
        obtain ⟨hc, -⟩ := Prod.mk.inj h
        obtain ⟨rfl, -⟩ := PaymentActionClaim.claimed.inj hc
        exact ⟨current, List.mem_of_find?_eq_some hcurrent, rfl, rfl⟩
  | mandate _ _ row _ _ hfound h =>
    have hmem := (mem_of_mandateRows hfound.found).1
    unfold claimAuthorizedAction at h
    dsimp only at h
    split_ifs at h
    all_goals try (cases h; done)
    all_goals
      obtain ⟨hc, -⟩ := Prod.mk.inj h
      obtain ⟨rfl, -⟩ := PaymentActionClaim.claimed.inj hc
      exact ⟨row.action, hmem, rfl, rfl⟩

/-- A claim that is granted at once finds its action unclaimed, and leaves it `EXECUTING`. -/
lemma Claimed.granted (h : Claimed rt command surface inFlight now db claimed false db') :
    ∃ r ∈ db.actions, r.id = claimed.id ∧ (r.status = .proposed ∨ r.status = .scheduled) ∧
      db'.actions = Table.put (·.id) db.actions (executing r) := by
  cases h with
  | plain action policy _ hrow h =>
    obtain ⟨hstatus, -, -, rfl, rfl⟩ := claimSurfaceAction_granted h
    exact ⟨action, hrow.mem, rfl, claimable_live hstatus, rfl⟩
  | mandate _ _ row _ _ hfound h =>
    obtain ⟨hstatus, -, rfl, rfl⟩ := claimAuthorizedAction_granted h
    exact ⟨row.action, (mem_of_mandateRows hfound.found).1, rfl, hstatus, rfl⟩

/-- A claim that has to be reconciled first writes nothing. -/
lemma Claimed.db_eq (h : Claimed rt command surface inFlight now db claimed true db') :
    db' = db := by
  cases h with
  | plain action policy _ _ h =>
    unfold claimSurfaceAction at h
    dsimp only at h
    split_ifs at h
    all_goals try (cases h; done)
    · exact (Prod.mk.inj h).2.symm
    · split at h
      · cases h
      · split_ifs at h
        all_goals try (cases h; done)
        exact (Prod.mk.inj h).2.symm
  | mandate _ _ row _ _ _ h =>
    unfold claimAuthorizedAction at h
    dsimp only at h
    split_ifs at h
    all_goals try (cases h; done)
    exact (Prod.mk.inj h).2.symm

/-! ## Calls -/

/-- What the claim of a call has seen. -/
theorem claimVoiceAction_claimed {ready : Bool}
    (h : claimVoiceAction command ready db = (.claimed claimed, db')) :
    claimed ∈ db.actions ∧ claimed.actionType = .startVoice ∧
      (claimed.status = .scheduled ∨ claimed.status = .executing) ∧
      claimed.caseId = command.caseId ∧
      approvalRecorded command.caseId claimed.id db = true := by
  unfold claimVoiceAction at h
  split at h
  · cases h
  · next action policy hrow =>
    obtain ⟨ha, hcond, -⟩ := mem_of_withPolicies (Table.mem_of_first hrow)
    simp only [Bool.and_eq_true, decide_eq_true_eq] at hcond
    split_ifs at h with h1 h2 h3 h4 h5 h6 h7 h8
    all_goals try (cases h; done)
    · obtain ⟨hc, -⟩ := Prod.mk.inj h
      obtain rfl := VoiceActionClaim.claimed.inj hc
      exact ⟨ha, hcond.2, .inr h5, hcond.1.1, by simpa using h2⟩
    · obtain ⟨hc, -⟩ := Prod.mk.inj h
      obtain rfl := VoiceActionClaim.claimed.inj hc
      exact ⟨ha, hcond.2, .inl (not_not.mp h7), hcond.1.1, by simpa using h2⟩

/-! ## When a provider is called -/

/-- The action for which `execute_recovery_action` calls a provider, if it does: it starts a call,
opens a surface, or looks up a submission that it has to reconcile. -/
def providerCall (rt : Runtime) (command : ExecuteActionInput) (inFlight : List String)
    (voiceReady : Bool) (now : Instant) (db : Database) : Option String :=
  if command.action = "START_VOICE" then
    match claimVoiceAction command voiceReady db with
    | (.claimed action, _) => some action.id
    | (.answered _, _) => none
  else if command.action = "OPEN_CUSTOMER_PAYMENT_SURFACE" then
    match executePaymentSurface rt command inFlight now db with
    | (.submit actionId _, _) => some actionId
    | (.reconcile actionId _, db') =>
      match reconcileCheck rt actionId db' with
      | .ok _ => some actionId
      | .error _ => none
    | _ => none
  else none

lemma live_of_reconcileCheck {actionId : String} {action : RecoveryActionRecord}
    (h : reconcileCheck rt actionId db = .ok action) :
    ∃ a ∈ db.actions, a.id = actionId ∧ Live a.status := by
  obtain ⟨-, hfound, hstatus⟩ := reconcileCheck_spec h
  exact ⟨action, List.mem_of_find?_eq_some hfound, by simpa using List.find?_some hfound,
    .inr (.inr hstatus)⟩

lemma live_of_submit {actionId : String} {request : OpenPaymentSurfaceRequest}
    (h : executePaymentSurface rt command inFlight now db = (.submit actionId request, db')) :
    ∃ a ∈ db.actions, a.id = actionId ∧ Live a.status := by
  obtain ⟨_, _, _, _, claimed, -, -, hid, hclaimed⟩ := executePaymentSurface_claimed (b := false) h
  cases hclaimed with
  | plain action policy _ hrow hclaim =>
    obtain ⟨hl, hsame⟩ := claimSurfaceAction_live hclaim
    exact ⟨action, hrow.mem, hsame.symm.trans hid, hl⟩
  | mandate _ _ row _ _ hfound hclaim =>
    obtain ⟨hstatus, -, rfl, -⟩ := claimAuthorizedAction_granted hclaim
    exact ⟨row.action, (mem_of_mandateRows hfound.found).1, hid, Or.imp_right .inl hstatus⟩

lemma live_of_voice {ready : Bool} (h : claimVoiceAction command ready db = (.claimed claimed, db')) :
    ∃ a ∈ db.actions, a.id = claimed.id ∧ Live a.status := by
  obtain ⟨hmem, -, hstatus, -⟩ := claimVoiceAction_claimed h
  exact ⟨claimed, hmem, rfl, .inr hstatus⟩

/-- A provider is called only for a live action. -/
theorem providerCall_live {ready : Bool} {id : String}
    (h : providerCall rt command inFlight ready now db = some id) :
    ∃ a ∈ db.actions, a.id = id ∧ Live a.status := by
  unfold providerCall at h
  split_ifs at h
  · split at h
    · next heq =>
      obtain rfl := Option.some.inj h
      exact live_of_voice heq
    · cases h
  · split at h
    · next heq =>
      obtain rfl := Option.some.inj h
      exact live_of_submit heq
    · next actionId request _ heq =>
      split at h
      · next heq' =>
        obtain rfl := Option.some.inj h
        obtain ⟨_, _, _, _, claimed, -, -, -, hclaimed⟩ :=
          executePaymentSurface_claimed (b := true) heq
        rw [hclaimed.db_eq] at heq'
        exact live_of_reconcileCheck heq'
      · cases h
    · cases h

end

end RecoveryOS.Core
