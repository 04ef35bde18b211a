import RecoveryOS.Core.Cancellation
import RecoveryOS.Core.Grants

/-!
# Claims that no call follows

An execution of a payment surface commits its claim before it builds the request for the provider. A
delivery that ends without a call leaves every status as it was, unless it is a plain one with a
deadline that cannot be read, an amount that is not positive or a currency that is no code: it claims
its action and raises after that. A mandate's claim has compared all three with what was signed.
-/

namespace RecoveryOS.Core

open Store Worker

/-- The statuses of the actions, and those that authorizations are executed in. -/
def Untouched (db db' : Database) : Prop :=
  db'.actions.map (fun a => (a.id, a.status)) = db.actions.map (fun a => (a.id, a.status)) ∧
    db'.nonces.map (fun n => (n.recoveryActionId, n.executionStatus))
      = db.nonces.map fun n => (n.recoveryActionId, n.executionStatus)

lemma Untouched.refl (db : Database) : Untouched db db := ⟨rfl, rfl⟩

section
variable (rt : Runtime) (command : ExecuteActionInput) (inFlight : List String) (now : Instant)
  (db : Database)

/-- A delivery that calls no provider, neither to create nor to look up, leaves the statuses as they
were: those that the claim found, and those that a reconciliation finds later. -/
def Unburned : Prop :=
  match executePaymentSurface rt command inFlight now db with
  | (.answered _, db') => Untouched db db'
  | (.raised, db') => Untouched db db'
  | (.submit _ _, _) => True
  | (.reconcile actionId _, db') => ∀ db₁ answer, reconcileCheck rt actionId db₁ = .error answer →
      Untouched db db' ∧ ∀ lookup resubmission later,
        Untouched db₁ (reconcileStandardPaymentLink rt actionId lookup resubmission later db₁).2

/-- The request for the provider can be built. -/
def Requestable : Prop :=
  (rt.parseInstant command.recoveryDeadline).isSome ∧ 0 < command.amountPaise ∧
    command.currency.length = 3 ∧ command.currency.toList.all Char.isUpper = true

/-- The command names no mandate, and the action that it is about waits to be claimed. -/
structure AwaitsClaim : Prop where
  invoice : command.failedInvoiceId.isSome
  scope : (providerScope rt command).isSome
  mandate : command.mandate = none
  row : ∃ text surface action policy, command.paymentSurfaceType = some text ∧
    PaymentSurfaceType.ofValue text = some surface ∧
    surfaceRow command surface db = some (action, policy) ∧
    action.status ∈ claimableStatuses policy.disposition ∧ due action policy now = true

end

section
variable {rt : Runtime} {command : ExecuteActionInput} {surface : PaymentSurfaceType}
  {inFlight : List String} {now : Instant} {db db' : Database} {claim : PaymentActionClaim}
  {claimed : RecoveryActionRecord} {b : Bool}

/-! ## The two claims -/

/-- A claim writes only what it is granted at once. -/
lemma claimSurfaceAction_writes {action : RecoveryActionRecord} {policy : PolicyDecisionRecord}
    (h : claimSurfaceAction inFlight surface now action policy db = (claim, db')) :
    db' = db ∨ ∃ claimed, claim = .claimed claimed false := by
  unfold claimSurfaceAction at h
  dsimp only at h
  split_ifs at h
  all_goals try
    obtain ⟨rfl, rfl⟩ := Prod.mk.inj h
    first | exact .inl rfl | exact .inr ⟨_, rfl⟩
  split at h
  · exact .inl (Prod.mk.inj h).2.symm
  · split_ifs at h
    all_goals exact .inl (Prod.mk.inj h).2.symm

lemma claimAuthorizedAction_writes {row : MandateRow}
    (h : claimAuthorizedAction row surface now db = (claim, db')) :
    db' = db ∨ ∃ claimed, claim = .claimed claimed false := by
  unfold claimAuthorizedAction at h
  dsimp only at h
  split_ifs at h
  all_goals
    obtain ⟨rfl, rfl⟩ := Prod.mk.inj h
    first | exact .inl rfl | exact .inr ⟨_, rfl⟩

lemma claimA2aPaymentAction_writes {mandate : Json}
    (h : claimA2aPaymentAction rt command mandate surface now db = (claim, db')) :
    db' = db ∨ ∃ claimed, claim = .claimed claimed false := by
  unfold claimA2aPaymentAction at h
  split at h
  · split at h
    · exact .inl (Prod.mk.inj h).2.symm
    · dsimp only at h
      split_ifs at h
      · exact .inl (Prod.mk.inj h).2.symm
      · split at h
        · exact .inl (Prod.mk.inj h).2.symm
        · split_ifs at h
          · exact .inl (Prod.mk.inj h).2.symm
          · split at h
            · exact .inl (Prod.mk.inj h).2.symm
            · split_ifs at h
              · exact .inl (Prod.mk.inj h).2.symm
              · exact claimAuthorizedAction_writes h
  · exact .inl (Prod.mk.inj h).2.symm

lemma claimPaymentAction_writes
    (h : claimPaymentAction rt command inFlight now db = (claim, db')) :
    db' = db ∨ ∃ claimed, claim = .claimed claimed false := by
  unfold claimPaymentAction at h
  split at h
  · exact .inl (Prod.mk.inj h).2.symm
  · split at h
    · exact .inl (Prod.mk.inj h).2.symm
    · exact claimA2aPaymentAction_writes h
    · split at h
      · exact .inl (Prod.mk.inj h).2.symm
      · exact claimSurfaceAction_writes h

/-- What is due is not scheduled for later. -/
lemma scheduled_of_due {action : RecoveryActionRecord} {policy : PolicyDecisionRecord}
    (h : due action policy now = true) :
    (action.scheduledFor.all fun t => decide (t ≤ now)) = true := by
  unfold due effectiveDelay at h
  cases hs : action.scheduledFor with
  | none => rfl
  | some s =>
    cases hd : policy.delayUntil with
    | none => simpa [hs, hd] using h
    | some d =>
      simp only [hs, hd, Option.all_some, decide_eq_true_eq] at h ⊢
      exact (le_max_left s d).trans h

/-- An action that waits to be claimed is. -/
lemma claimSurfaceAction_awaited {action : RecoveryActionRecord} {policy : PolicyDecisionRecord}
    (hmem : action ∈ db.actions) (hstatus : action.status ∈ claimableStatuses policy.disposition)
    (hdue : due action policy now = true) :
    claimSurfaceAction inFlight surface now action policy db
      = (.claimed (executing action) false, db.putAction (executing action)) := by
  have hlive := claimable_live hstatus
  have hblock : policy.disposition ≠ .block := fun hb => by simp [hb, claimableStatuses] at hstatus
  have hsucceeded : action.status ≠ .succeeded := by rcases hlive with h | h <;> simp [h]
  have hexecuting : action.status ≠ .executing := by rcases hlive with h | h <;> simp [h]
  have hcancelled : action.status ≠ .cancelled := by rcases hlive with h | h <;> simp [h]
  have hupdate : (db.actions.any fun a => decide (a.id = action.id) &&
      decide (a.status = action.status) && a.scheduledFor.all fun t => decide (t ≤ now)) = true :=
    List.any_eq_true.mpr ⟨action, hmem, by simp [scheduled_of_due hdue]⟩
  unfold claimSurfaceAction
  dsimp only
  rw [if_neg hsucceeded, if_neg hexecuting, if_neg hblock, if_neg hcancelled,
    if_neg (not_not.mpr hstatus), if_neg (by simp [hdue]), if_pos hupdate]

/-- A mandate's claim is granted only to a command that asks for what a validated mandate says. -/
lemma requestable_of_mandate {mandate : Json}
    (h : claimA2aPaymentAction rt command mandate surface now db = (.claimed claimed b, db')) :
    Requestable rt command := by
  obtain ⟨signed, row, -, hfound, -⟩ := claimA2aPaymentAction_claimed h
  have hamount := congrArg MandateScope.exactAmountPaise hfound.scope
  have hcurrency := congrArg MandateScope.currency hfound.scope
  simp only [signedScope, commandScope, Option.some.injEq] at hamount hcurrency
  have hcode := signed.data.currencyCode
  rw [hcurrency] at hcode
  refine ⟨?_, hamount ▸ signed.data.positive, hcode.1, List.all_eq_true.mpr hcode.2⟩
  unfold claimA2aPaymentAction at h
  split at h
  · split at h
    · cases h
    · dsimp only at h
      split_ifs at h
      · cases h
      · split at h
        · cases h
        · split_ifs at h
          · cases h
          · split at h
            · cases h
            · next deadline hdeadline => rw [hdeadline]; rfl
  · cases h

lemma openRequest_isSome {action : RecoveryActionRecord} {deadline : Instant}
    {subscriptionId invoiceId : String} :
    (openRequest rt command action surface deadline subscriptionId invoiceId).isSome ↔
      0 < command.amountPaise ∧ command.currency.length = 3 ∧
        command.currency.toList.all Char.isUpper = true := by
  unfold openRequest
  dsimp only
  by_cases h : 0 < command.amountPaise ∧ command.currency.length = 3 ∧
      command.currency.toList.all Char.isUpper = true
  · rw [dif_pos h]
    exact iff_of_true rfl h
  · rw [dif_neg h]
    exact iff_of_false (by simp) h

/-! ## The execution -/

/-- After a claim that was granted at once a provider is called, if the request can be built. -/
lemma afterClaim_granted (rt : Runtime) (command : ExecuteActionInput) (surface : PaymentSurfaceType)
    (claimed : RecoveryActionRecord) (subscriptionId invoiceId : String) :
    (Requestable rt command ∧ ∃ request, afterClaim rt command surface subscriptionId invoiceId
        (.claimed claimed false) = .submit claimed.id request) ∨
      ¬ Requestable rt command ∧ afterClaim rt command surface subscriptionId invoiceId
        (.claimed claimed false) = .raised := by
  unfold afterClaim Requestable
  dsimp only
  cases hdeadline : rt.parseInstant command.recoveryDeadline with
  | none => exact .inr ⟨fun h => by simp at h, rfl⟩
  | some deadline =>
    rw [Option.bind_some]
    have hopen : (openRequest rt command claimed surface deadline subscriptionId invoiceId).isSome ↔
      _ := openRequest_isSome
    cases hrequest : openRequest rt command claimed surface deadline subscriptionId invoiceId with
    | none =>
      rw [hrequest] at hopen
      exact .inr ⟨fun h => by simpa using hopen.mpr h.2, rfl⟩
    | some request =>
      rw [hrequest] at hopen
      exact .inl ⟨⟨rfl, hopen.mp rfl⟩, request, rfl⟩

/-- A reconciliation that is answered without the provider writes nothing. -/
lemma reconcileStandardPaymentLink_answered {actionId : String} {answer : ActionExecutionResult}
    (h : reconcileCheck rt actionId db = .error answer) (lookup : LinkLookup)
    (resubmission : Option PaymentSurfaceResult) (later : Instant) :
    (reconcileStandardPaymentLink rt actionId lookup resubmission later db).2 = db := by
  rw [reconcileStandardPaymentLink, h]

/-- An execution that wrote nothing has burned nothing. -/
lemma unburned_of_eq (h : (executePaymentSurface rt command inFlight now db).2 = db) :
    Unburned rt command inFlight now db := by
  unfold Unburned
  split
  · next heq => rw [heq] at h; exact h ▸ .refl _
  · next heq => rw [heq] at h; exact h ▸ .refl _
  · trivial
  · next heq =>
    rw [heq] at h
    refine fun db₁ answer hanswer => ⟨h ▸ .refl _, fun lookup resubmission later => ?_⟩
    rw [reconcileStandardPaymentLink_answered hanswer]
    exact .refl _

/-- An execution that wrote something went on from a claim that was granted at once. -/
lemma executePaymentSurface_writes (rt : Runtime) (command : ExecuteActionInput)
    (inFlight : List String) (now : Instant) (db : Database) :
    (executePaymentSurface rt command inFlight now db).2 = db ∨
      ∃ text surface subscriptionId invoiceId claimed db', command.failedInvoiceId.isSome ∧
        command.paymentSurfaceType = some text ∧ PaymentSurfaceType.ofValue text = some surface ∧
        providerScope rt command = some (subscriptionId, invoiceId) ∧
        claimPaymentAction rt command inFlight now db = (.claimed claimed false, db') ∧
        executePaymentSurface rt command inFlight now db =
          (afterClaim rt command surface subscriptionId invoiceId (.claimed claimed false), db') := by
  unfold executePaymentSurface
  split
  · next invoice text hinvoice htext =>
    split
    · exact .inl rfl
    · next surface hsurface =>
      split
      · exact .inl rfl
      · next subscriptionId invoiceId hscope =>
        cases hclaim : claimPaymentAction rt command inFlight now db with
        | mk claim db' =>
          rcases claimPaymentAction_writes hclaim with rfl | ⟨claimed, rfl⟩
          · exact .inl rfl
          · exact .inr ⟨text, surface, subscriptionId, invoiceId, claimed, db', by rw [hinvoice]; rfl,
              htext, hsurface, hscope, rfl, rfl⟩
  · exact .inl rfl

/-- A plain claim that is granted at once is of an action that waited for it. -/
lemma awaitsClaim_of_granted {text : String} (hinvoice : command.failedInvoiceId.isSome)
    (htext : command.paymentSurfaceType = some text)
    (hsurface : PaymentSurfaceType.ofValue text = some surface)
    (hscope : (providerScope rt command).isSome)
    (h : claimPaymentAction rt command inFlight now db = (.claimed claimed false, db')) :
    Requestable rt command ∨ AwaitsClaim rt command now db := by
  unfold claimPaymentAction at h
  rw [htext] at h
  dsimp only at h
  rw [hsurface] at h
  split at h
  · next heq => cases heq
  · exact .inl (requestable_of_mandate h)
  · next surface' hsurface' hmandate =>
    obtain rfl := Option.some.inj hsurface'
    split at h
    · cases h
    · next action policy hrow =>
      obtain ⟨hstatus, -, hdue, -, -⟩ := claimSurfaceAction_granted h
      exact .inr ⟨hinvoice, hscope, hmandate,
        ⟨text, surface, action, policy, htext, hsurface, hrow, hstatus, hdue⟩⟩

/-- A claimable action is claimed by the execution. -/
lemma executePaymentSurface_awaitsClaim (inFlight : List String)
    (h : AwaitsClaim rt command now db) :
    ∃ surface subscriptionId invoiceId, ∃ action ∈ db.actions,
      (action.status = .proposed ∨ action.status = .scheduled) ∧
      executePaymentSurface rt command inFlight now db =
        (afterClaim rt command surface subscriptionId invoiceId (.claimed (executing action) false),
          db.putAction (executing action)) := by
  obtain ⟨hinvoice, hscope, hmandate, text, surface, action, policy, htext, hsurface, hrow, hstatus,
    hdue⟩ := h
  obtain ⟨invoice, hinvoice⟩ := Option.isSome_iff_exists.mp hinvoice
  obtain ⟨⟨subscriptionId, invoiceId⟩, hscope⟩ := Option.isSome_iff_exists.mp hscope
  have hmem := (plainRow_of_surfaceRow hrow).mem
  have hclaim : claimPaymentAction rt command inFlight now db
      = (.claimed (executing action) false, db.putAction (executing action)) := by
    simp only [claimPaymentAction, htext, hsurface, hmandate, hrow]
    exact claimSurfaceAction_awaited hmem hstatus hdue
  refine ⟨surface, subscriptionId, invoiceId, action, hmem, claimable_live hstatus, ?_⟩
  simp only [executePaymentSurface, hinvoice, htext, hsurface, hscope, hclaim]

/-- The status of a claimed action is not what it was. -/
lemma not_untouched_putAction {action : RecoveryActionRecord} (hmem : action ∈ db.actions)
    (hstatus : action.status = .proposed ∨ action.status = .scheduled) :
    ¬ Untouched db (db.putAction (executing action)) := by
  rintro ⟨hactions, -⟩
  have hmap : db.actions.map (fun a => ((if a.id = action.id then executing action else a).id,
      (if a.id = action.id then executing action else a).status))
      = db.actions.map fun a => (a.id, a.status) := by
    rw [← hactions]
    simp only [Database.putAction, Table.put, List.map_map]
    rfl
  have heq := (List.map_inj_left.mp hmap) action hmem
  rw [if_pos rfl] at heq
  have hexecuting : action.status = .executing := (Prod.mk.inj heq).2.symm
  rcases hstatus with h | h <;> simp [h] at hexecuting

end

section
variable {rt : Runtime} {command : ExecuteActionInput} {inFlight : List String} {now : Instant}
  {db : Database}

/-- A delivery burns the claim of an action that waited for it if the request cannot be built. -/
lemma burned_of_awaitsClaim (hc : AwaitsClaim rt command now db) (hr : ¬ Requestable rt command) :
    ¬ Unburned rt command inFlight now db := by
  obtain ⟨surface, subscriptionId, invoiceId, action, hmem, hstatus, hexecute⟩ :=
    executePaymentSurface_awaitsClaim inFlight hc
  rcases afterClaim_granted rt command surface (executing action) subscriptionId invoiceId
    with ⟨hrequest, -⟩ | ⟨-, hraised⟩
  · exact absurd hrequest hr
  · rw [Unburned, hexecute, hraised]
    exact not_untouched_putAction hmem hstatus

lemma unburned_of_requestable
    (h : Requestable rt command ∨ ¬ AwaitsClaim rt command now db) :
    Unburned rt command inFlight now db := by
  rcases executePaymentSurface_writes rt command inFlight now db with
    heq | ⟨text, surface, subscriptionId, invoiceId, claimed, db', hinvoice, htext, hsurface, hscope,
      hclaim, hexecute⟩
  · exact unburned_of_eq heq
  · have hrequest : Requestable rt command := by
      rcases awaitsClaim_of_granted hinvoice htext hsurface (by rw [hscope]; rfl) hclaim with hr | hc
      · exact hr
      · exact h.resolve_right (not_not.mpr hc)
    rcases afterClaim_granted rt command surface claimed subscriptionId invoiceId
      with ⟨-, request, hsubmit⟩ | ⟨hr, -⟩
    · rw [Unburned, hexecute, hsubmit]
      trivial
    · exact absurd hrequest hr

end

/-- A delivery without a call leaves the statuses as they were exactly if the request for the provider
can be built, or no action waits for its claim without a mandate. -/
theorem unburned_iff (rt : Runtime) (command : ExecuteActionInput) (inFlight : List String)
    (now : Instant) (db : Database) :
    Unburned rt command inFlight now db ↔
      Requestable rt command ∨ ¬ AwaitsClaim rt command now db := by
  refine ⟨fun h => ?_, unburned_of_requestable⟩
  by_contra hnot
  obtain ⟨hrequest, hclaim⟩ := not_or.mp hnot
  exact burned_of_awaitsClaim (not_not.mp hclaim) hrequest h

/-- The sample case with a link that is proposed and allowed. -/
def allowedLink : Database :=
  { withLink .proposed with
    policies := [⟨"policy_1", "case_1", some "action_1", .allow, "ALLOWED", [], [], "v1", none, 0⟩] }

/-- A currency in lower case burns the claim of the link. -/
theorem burned_counterexample :
    ¬ Unburned sampleDeployment.runtime
      { sampleCommand .standardPaymentLink with currency := "inr" } [] 2000000 allowedLink := by
  refine burned_of_awaitsClaim ⟨rfl, rfl, rfl, ?_⟩ ?_
  · exact ⟨_, _, _, _, rfl, rfl, rfl, by decide, by decide⟩
  · rintro ⟨-, -, -, hcode⟩
    exact absurd hcode (by decide)

end RecoveryOS.Core
