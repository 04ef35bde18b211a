import RecoveryOS.Core.Burned

/-!
# Submissions of a payment surface

A surface is opened at the provider by a claim that is granted at once, or again by a reconciliation
that finds nothing there. A claim under a mandate looks at the case and at the invoice first. A
claim without one looks at its action and the decision about it only, and a reconciliation at the
action. So a run submits for cases that may be collected from exactly if those two kinds of steps
happen to come at such times.
-/

namespace RecoveryOS.Core

open Store Worker

/-! ## What a submission should find -/

/-- The case is open, nothing was captured for it, and its window has not passed. -/
structure Collectable (now : Instant) (c : RecoveryCase) : Prop where
  isOpen : c.caseOutcome = .open
  notCaptured : c.paymentState ≠ .captured
  notRecovered : c.caseRecovered = false
  inTime : now ≤ c.recoveryDeadline

/-- The case may be collected from. -/
def MayCollect (db : Database) (now : Instant) (caseId : String) : Prop :=
  ∃ c ∈ db.cases, c.id = caseId ∧ Collectable now c

/-- The amount is what is outstanding on the failed invoice of the case. -/
def Owed (db : Database) (caseId : String) (amount : ℤ) : Prop :=
  ∃ c ∈ db.cases, c.id = caseId ∧ ∃ i ∈ db.invoices, c.failedInvoiceId = some i.id ∧
    amount = i.amountPaise - i.amountPaidPaise

/-! ## Submissions -/

section
variable (d : Deployment) (w : World)

/-- The step claims the action of `s`, for the provider to be called at once or after a lookup. -/
inductive Opens : Op → Bool → Submission → Prop where
  | mk {worker : ℕ} {command : ExecuteActionInput} {ready : Bool} {now : Instant} {b : Bool}
      {actionId : String} {request : OpenPaymentSurfaceRequest}
      (haction : command.action = "OPEN_CUSTOMER_PAYMENT_SURFACE")
      (h : (executePaymentSurface d.runtime command (w.inFlightOf worker) now w.db).1 =
        Resumed b actionId request) :
      Opens (.execute worker command ready now) b ⟨worker, command, actionId, request, w.db, now⟩

/-- The step submits `s` to the provider. -/
inductive Submits : Op → Submission → Instant → Prop where
  | claimed {op : Op} {s : Submission} (h : Opens d w op false s) : Submits op s s.claimedAt
  | resubmitted {i : ℕ} {s : Submission} {lookup : LinkLookup}
      {resubmission : Option PaymentSurfaceResult} {now : Instant}
      (hp : w.pending[i]? = some ⟨s, .reconciling⟩)
      (h : (reconcileStandardPaymentLink d.runtime s.actionId lookup resubmission now
        w.db).1.2 = true) : Submits (.reconcile i lookup resubmission now) s now

end

section
variable {d : Deployment} {w : World} {op : Op}

lemma opens_of_executePaymentSurface {worker : ℕ} {command : ExecuteActionInput} {b : Bool}
    {now : Instant} {actionId : String} {request : OpenPaymentSurfaceRequest} {db : Database}
    (ready : Bool) (haction : command.action = "OPEN_CUSTOMER_PAYMENT_SURFACE")
    (h : executePaymentSurface d.runtime command (w.inFlightOf worker) now w.db =
      (Resumed b actionId request, db)) :
    Opens d w (.execute worker command ready now) b
      ⟨worker, command, actionId, request, w.db, now⟩ :=
  .mk haction (congrArg Prod.fst h)

/-- Where the submissions and the pending executions after a step come from. -/
structure SubmissionsFrom (d : Deployment) (w : World) (op : Op) (w' : World) : Prop where
  submitted : w'.submitted = w.submitted ∨
    ∃ s now, Submits d w op s now ∧ w'.submitted = w.submitted ++ [s]
  pending : ∀ p ∈ w'.pending, (∃ q ∈ w.pending, q.submission = p.submission) ∨
    ∃ b, Opens d w op b p.submission

lemma SubmissionsFrom.kept {w' : World} (hs : w'.submitted = w.submitted)
    (hp : ∀ p ∈ w'.pending, p ∈ w.pending) : SubmissionsFrom d w op w' :=
  ⟨.inl hs, fun p h => .inl ⟨p, hp p h, rfl⟩⟩

lemma pending_of_append {s : Submission} {stage : Stage} {b : Bool} (h : Opens d w op b s) :
    ∀ p ∈ w.pending ++ [⟨s, stage⟩], (∃ q ∈ w.pending, q.submission = p.submission) ∨
      ∃ b, Opens d w op b p.submission := by
  intro p hp
  rcases List.mem_append.mp hp with hp | hp
  · exact .inl ⟨p, hp, rfl⟩
  · rw [List.mem_singleton.mp hp]
    exact .inr ⟨b, h⟩

lemma pending_of_set {i : ℕ} {s : Submission} {old new : Stage}
    (h : w.pending[i]? = some ⟨s, old⟩) :
    ∀ p ∈ w.pending.set i ⟨s, new⟩, (∃ q ∈ w.pending, q.submission = p.submission) ∨
      ∃ b, Opens d w op b p.submission := by
  intro p hp
  rcases List.mem_or_eq_of_mem_set hp with hp | rfl
  · exact .inl ⟨p, hp, rfl⟩
  · exact .inl ⟨_, List.mem_of_getElem? h, rfl⟩

lemma executeSurface_submissions {worker : ℕ} {command : ExecuteActionInput} {now : Instant}
    (ready : Bool) (haction : command.action = "OPEN_CUSTOMER_PAYMENT_SURFACE") :
    SubmissionsFrom d w (.execute worker command ready now)
      (w.executeSurface d worker command now) := by
  unfold World.executeSurface
  split
  next next db heq =>
  split
  · next actionId request =>
    have ho := opens_of_executePaymentSurface (b := false) ready haction heq
    exact ⟨.inr ⟨_, _, .claimed ho, rfl⟩, pending_of_append ho⟩
  · next actionId request =>
    have ho := opens_of_executePaymentSurface (b := true) ready haction heq
    exact ⟨.inl rfl, pending_of_append ho⟩
  · exact .kept rfl fun _ h => h

lemma execute_submissions {worker : ℕ} {command : ExecuteActionInput} {ready : Bool}
    {now : Instant} : SubmissionsFrom d w (.execute worker command ready now)
      (w.execute d worker command ready now) := by
  unfold World.execute
  split_ifs with hvoice hopen
  · unfold World.executeVoice
    split
    · exact .kept rfl fun _ h => h
    · exact .kept rfl fun _ h => h
  · exact executeSurface_submissions ready hopen
  · exact .kept rfl fun _ h => h

lemma reconcile_submissions {i : ℕ} {s : Submission} {lookup : LinkLookup}
    {resubmission : Option PaymentSurfaceResult} {now : Instant}
    (h : w.pending[i]? = some ⟨s, .reconciling⟩) :
    SubmissionsFrom d w (.reconcile i lookup resubmission now)
      (w.reconcile d i s lookup resubmission now) := by
  have herase : ∀ p ∈ w.pending.eraseIdx i, p ∈ w.pending :=
    fun p hp => List.mem_of_mem_eraseIdx hp
  unfold World.reconcile
  split
  next answer resubmitted db heq =>
  split_ifs with hre
  · refine ⟨.inr ⟨s, now, .resubmitted h ?_, rfl⟩, fun p hp => .inl ⟨p, herase p hp, rfl⟩⟩
    rw [heq]
    exact hre
  · exact .kept rfl herase

lemma answer_submissions {i : ℕ} {s : Submission} {reply : Reply}
    (h : w.pending[i]? = some ⟨s, .awaiting⟩) :
    SubmissionsFrom d w (.reply i reply) (w.answer i s reply) := by
  unfold World.answer
  split
  · exact ⟨.inl rfl, pending_of_set h⟩
  · split_ifs
    · exact ⟨.inl rfl, pending_of_set h⟩
    · exact .kept rfl fun p hp => List.mem_of_mem_eraseIdx hp
  · exact .kept rfl fun p hp => List.mem_of_mem_eraseIdx hp

/-- What a step adds to the submissions, and what executions are pending after it. -/
theorem step_submissions (op : Op) : SubmissionsFrom d w op (w.step d op) := by
  cases op with
  | execute worker command ready now => exact execute_submissions
  | reconcile i lookup resubmission now =>
    simp only [World.step]
    split
    · next s hpending => exact reconcile_submissions hpending
    · exact .kept rfl fun _ h => h
  | reply i reply =>
    simp only [World.step]
    split
    · next s hpending => exact answer_submissions hpending
    · exact .kept rfl fun _ h => h
  | persist i now =>
    simp only [World.step]
    split
    · exact .kept rfl fun p hp => List.mem_of_mem_eraseIdx hp
    · exact .kept rfl fun _ h => h
  | crash worker => exact .kept rfl fun p hp => (List.mem_filter.mp hp).1
  | recommend service request =>
    simp only [World.step, World.recommend]
    split <;> exact .kept rfl fun _ h => h
  | loadApproval m c a =>
    simp only [World.step, World.loadApproval]
    split <;> exact .kept rfl fun _ h => h
  | poll p =>
    simp only [World.step, World.poll]
    repeat' split
    all_goals exact .kept rfl fun _ h => h
  | commitRecommendation i =>
    simp only [World.step]
    split <;> exact .kept rfl fun _ h => h
  | commitApproval i t =>
    simp only [World.step]
    split <;> exact .kept rfl fun _ h => h
  | finishVoice i reference now =>
    simp only [World.step]
    split <;> exact .kept rfl fun _ h => h
  | land i linkId =>
    simp only [World.step]
    split <;> exact .kept rfl fun _ h => h
  | _ => exact .kept rfl fun _ h => h

end

/-! ## What a claim has looked at -/

section
variable {rt : Runtime} {command : ExecuteActionInput} {surface : PaymentSurfaceType}
  {inFlight : List String} {now : Instant} {db : Database}

/-- The rows that a mandate's claim found are those of a case that may be collected from. -/
lemma MandateFound.guarded {data : A2A.RecoveryMandateData} {row : MandateRow}
    (h : MandateFound rt command surface now db data row) :
    MayCollect db now command.caseId ∧ Owed db command.caseId command.amountPaise := by
  obtain ⟨-, -, hcase, hinvoice, -, -, hid, -, hcaseId, hfailed, -⟩ := mem_of_mandateRows h.found
  have hmatched := h.matched
  have hfresh := h.fresh
  simp only [MandateRow.mismatched, Bool.or_eq_false_iff, decide_eq_false_iff_not, not_le, not_lt]
    at hmatched
  simp only [MandateRow.stale, Bool.or_eq_false_iff, decide_eq_false_iff_not, not_not] at hfresh
  obtain ⟨⟨-, hlive⟩, hwindow⟩ := hmatched
  obtain ⟨⟨⟨⟨⟨howed, hopen⟩, hcaptured⟩, hrecovered⟩, -⟩, -⟩ := hfresh
  have hamount : command.amountPaise = data.exactAmountPaise := by
    have := congrArg MandateScope.exactAmountPaise h.scope
    exact (Option.some.inj this).symm
  have hrow := hcaseId.trans hid
  exact ⟨⟨row.recoveryCase, hcase, hrow, hopen, hcaptured, hrecovered, (hlive.trans_le hwindow).le⟩,
    row.recoveryCase, hcase, hrow, row.invoice, hinvoice, hfailed, hamount.trans howed.symm⟩

/-- A claim under a mandate is granted for a case that may be collected from only. -/
lemma Claimed.guarded {claimed : RecoveryActionRecord} {b : Bool} {db' : Database}
    (h : Claimed rt command surface inFlight now db claimed b db') (hm : command.mandate ≠ none) :
    MayCollect db now command.caseId ∧ Owed db command.caseId command.amountPaise := by
  cases h with
  | plain action policy hmandate hrow hclaim => exact absurd hmandate hm
  | mandate mandate signed row hmandate hsigned hfound hclaim => exact hfound.guarded

/-- A claim without a mandate is granted at once, and its request can be built. -/
structure PlainGrant (rt : Runtime) (command : ExecuteActionInput) (now : Instant)
    (db : Database) : Prop where
  opens : command.action = "OPEN_CUSTOMER_PAYMENT_SURFACE"
  awaits : AwaitsClaim rt command now db
  requestable : Requestable rt command

lemma plainGrant_of_submit (hplain : command.mandate = none)
    (hopens : command.action = "OPEN_CUSTOMER_PAYMENT_SURFACE") {actionId : String}
    {request : OpenPaymentSurfaceRequest}
    (h : (executePaymentSurface rt command inFlight now db).1 = .submit actionId request) :
    PlainGrant rt command now db := by
  unfold executePaymentSurface at h
  split at h
  · next invoiceId text hinvoice htext =>
    split at h
    · cases h
    · next surface hsurface =>
      split at h
      · cases h
      · next subscriptionId providerInvoiceId hscope =>
        dsimp only at h
        unfold afterClaim at h
        split at h
        · cases h
        · cases h
        · next claimed reconcileFirst hclaim =>
          split at h
          · cases h
          · next opened hopened =>
            obtain ⟨deadline, hdeadline, hopened⟩ := Option.bind_eq_some_iff.mp hopened
            have hrequest : Requestable rt command :=
              ⟨by rw [hdeadline]; rfl, openRequest_isSome.mp (by rw [hopened]; rfl)⟩
            obtain rfl : reconcileFirst = false := by
              cases reconcileFirst with
              | false => rfl
              | true =>
                rw [if_pos rfl] at h
                split_ifs at h
            unfold claimPaymentAction at hclaim
            rw [htext] at hclaim
            dsimp only at hclaim
            rw [hsurface, hplain] at hclaim
            dsimp only at hclaim
            split at hclaim
            · cases hclaim
            · next action policy hrow =>
              obtain ⟨hstatus, -, hdue, -⟩ := claimSurfaceAction_granted (Prod.ext hclaim rfl)
              exact ⟨hopens, ⟨by rw [hinvoice]; rfl, by rw [hscope]; rfl, hplain, text, surface,
                action, policy, htext, hsurface, hrow, hstatus, hdue⟩, hrequest⟩
  · cases h

lemma PlainGrant.submit (h : PlainGrant rt command now db) (inFlight : List String) :
    ∃ actionId request,
      (executePaymentSurface rt command inFlight now db).1 = .submit actionId request := by
  obtain ⟨surface, subscriptionId, invoiceId, action, -, -, heq⟩ :=
    executePaymentSurface_awaitsClaim inFlight h.awaits
  rw [heq]
  rcases afterClaim_granted rt command surface (executing action) subscriptionId invoiceId
    with ⟨-, request, hsubmit⟩ | ⟨hno, -⟩
  · exact ⟨_, request, hsubmit⟩
  · exact absurd h.requestable hno

/-- A reconciliation resubmits if it still finds the action executing, and no link. -/
lemma resubmits_iff {actionId : String} {lookup : LinkLookup}
    {resubmission : Option PaymentSurfaceResult} :
    (reconcileStandardPaymentLink rt actionId lookup resubmission now db).1.2 = true ↔
      lookup = .absent ∧ ∃ action, reconcileCheck rt actionId db = .ok action := by
  unfold reconcileStandardPaymentLink
  cases hcheck : reconcileCheck rt actionId db with
  | error answer => simp
  | ok action =>
    cases lookup with
    | raised => simp
    | found result => simp
    | absent => cases resubmission <;> simp

end

/-! ## Runs -/

/-- Every submission of the run is for a case that may be collected from, and of the amount that was
outstanding when its action was claimed. -/
def SubmissionsGuarded (d : Deployment) (w : World) (ops : List Op) : Prop :=
  ∀ k op s now, ops[k]? = some op → Submits d (w.after d ops k) op s now →
    MayCollect (w.after d ops k).db now s.command.caseId ∧
      Owed s.claimed s.command.caseId s.request.exactAmountPaise

/-- What has to be so for a step to submit under the guards: nothing checks it for a claim without a
mandate, nor for a reconciliation that resubmits. -/
def InForce (d : Deployment) (w : World) : Op → Prop
  | .execute _ command _ now => PlainGrant d.runtime command now w.db →
      MayCollect w.db now command.caseId ∧ Owed w.db command.caseId command.amountPaise
  | .reconcile i lookup _ now => ∀ s action, w.pending[i]? = some ⟨s, .reconciling⟩ →
      lookup = .absent → reconcileCheck d.runtime s.actionId w.db = .ok action →
        MayCollect w.db now s.command.caseId ∧
          (s.command.mandate = none → Owed s.claimed s.command.caseId s.command.amountPaise)
  | _ => True

/-- The request is of the command's amount, and under a mandate that was outstanding. -/
structure CarriesOwed (s : Submission) : Prop where
  amount : s.request.exactAmountPaise = s.command.amountPaise
  owed : s.command.mandate ≠ none → Owed s.claimed s.command.caseId s.command.amountPaise

section
variable {d : Deployment} {w : World} {op : Op}

lemma Opens.claimed {b : Bool} {s : Submission} (h : Opens d w op b s) :
    ∃ worker ready surface claimed db', op = .execute worker s.command ready s.claimedAt ∧
      s.claimed = w.db ∧ s.request.exactAmountPaise = s.command.amountPaise ∧
      Claimed d.runtime s.command surface (w.inFlightOf worker) s.claimedAt w.db claimed b db' := by
  cases h with
  | @mk worker command ready now b actionId request haction h =>
    obtain ⟨surface, _, _, _, claimed, -, hrequest, -, hclaimed⟩ :=
      executePaymentSurface_claimed (Prod.ext h rfl)
    exact ⟨worker, ready, surface, claimed, _, rfl, rfl, (openRequest_eq hrequest).2.2.2.2.2.1,
      hclaimed⟩

lemma Opens.carriesOwed {b : Bool} {s : Submission} (h : Opens d w op b s) : CarriesOwed s := by
  obtain ⟨worker, ready, surface, claimed, db', -, hdb, hamount, hclaimed⟩ := h.claimed
  refine ⟨hamount, fun hm => ?_⟩
  rw [hdb]
  exact (hclaimed.guarded hm).2

lemma after_carriesOwed (hp : w.pending = []) (ops : List Op) :
    ∀ k ≤ ops.length, ∀ p ∈ (w.after d ops k).pending, CarriesOwed p.submission := by
  refine World.after_induct (P := fun _ t => ∀ p ∈ t.pending, CarriesOwed p.submission) ?_ ?_
  · intro p h
    rw [hp] at h
    exact absurd h List.not_mem_nil
  · intro k op hop ih p h
    rcases (step_submissions op).pending p h with ⟨q, hq, hsame⟩ | ⟨b, ho⟩
    · exact hsame ▸ ih q hq
    · exact ho.carriesOwed

lemma Opens.plainGrant {s : Submission} (h : Opens d w op false s) (hm : s.command.mandate = none) :
    PlainGrant d.runtime s.command s.claimedAt w.db := by
  cases h with
  | mk haction hsubmit => exact plainGrant_of_submit hm haction hsubmit

/-- A claim that submits at once is under a mandate, or such that nothing more is looked at. -/
lemma Opens.guarded {s : Submission} (h : Opens d w op false s) (hop : InForce d w op) :
    MayCollect w.db s.claimedAt s.command.caseId ∧
      Owed s.claimed s.command.caseId s.request.exactAmountPaise := by
  have hgrant := h.plainGrant
  obtain ⟨worker, ready, surface, claimed, db', rfl, hdb, hamount, hclaimed⟩ := h.claimed
  rw [hdb, hamount]
  by_cases hm : s.command.mandate = none
  · exact hop (hgrant hm)
  · exact hclaimed.guarded hm

/-- A run submits under the guards exactly if the claims without a mandate and the reconciliations
come when the guards hold. -/
theorem submissionsGuarded_iff (hp : w.pending = []) (ops : List Op) :
    SubmissionsGuarded d w ops ↔
      ∀ k op, ops[k]? = some op → InForce d (w.after d ops k) op := by
  constructor
  · intro hguarded k op hop
    cases op with
    | execute worker command ready now =>
      intro hgrant
      obtain ⟨actionId, request, hsubmit⟩ := hgrant.submit ((w.after d ops k).inFlightOf worker)
      have ho : Opens d (w.after d ops k) (.execute worker command ready now) false
          ⟨worker, command, actionId, request, (w.after d ops k).db, now⟩ :=
        .mk hgrant.opens hsubmit
      have := hguarded k _ _ _ hop (.claimed ho)
      rw [ho.carriesOwed.amount] at this
      exact this
    | reconcile i lookup resubmission now =>
      intro s action hpending hlookup hcheck
      have hk : k ≤ ops.length := (List.getElem?_eq_some_iff.mp hop).1.le
      have hcarries : CarriesOwed s :=
        after_carriesOwed hp ops k hk _ (List.mem_of_getElem? hpending)
      have := hguarded k _ _ _ hop
        (.resubmitted hpending (resubmits_iff.mpr ⟨hlookup, action, hcheck⟩))
      rw [hcarries.amount] at this
      exact ⟨this.1, fun _ => this.2⟩
    | _ => exact trivial
  · intro hforce k op s now hop hsubmits
    have hin := hforce k op hop
    cases hsubmits with
    | claimed h => exact h.guarded hin
    | resubmitted hpending hre =>
      obtain ⟨hlookup, action, hcheck⟩ := resubmits_iff.mp hre
      have hk : k ≤ ops.length := (List.getElem?_eq_some_iff.mp hop).1.le
      have hcarries : CarriesOwed s :=
        after_carriesOwed hp ops k hk _ (List.mem_of_getElem? hpending)
      obtain ⟨hcollect, howed⟩ := hin s action hpending hlookup hcheck
      refine ⟨hcollect, ?_⟩
      rw [hcarries.amount]
      by_cases hm : s.command.mandate = none
      · exact howed hm
      · exact hcarries.owed hm

end

/-! ### A link that is opened after the deadline -/

/-- The action is recommended in time and executed when the window has passed. -/
def lateSurface : List Op :=
  [sampleRecommend .subscriptionInvoiceLink, .commitRecommendation 0,
    .execute 1 (sampleCommand .subscriptionInvoiceLink) false (sampleDeadline + 1)]

theorem lateSurface_iff : (sampleWorld none).pending = [] ∧
    (SubmissionsGuarded sampleDeployment (sampleWorld none) lateSurface ↔
      ∀ k op, lateSurface[k]? = some op →
        InForce sampleDeployment ((sampleWorld none).after sampleDeployment lateSurface k) op) :=
  ⟨rfl, submissionsGuarded_iff rfl lateSurface⟩

/-- The surface is opened although its case is past its deadline. -/
theorem lateSurface_submitted :
    ¬ SubmissionsGuarded sampleDeployment (sampleWorld none) lateSurface := by
  intro h
  obtain ⟨request, hrequest⟩ : ∃ request, (executePaymentSurface sampleDeployment.runtime
      (sampleCommand .subscriptionInvoiceLink)
      (((sampleWorld none).after sampleDeployment lateSurface 2).inFlightOf 1) (sampleDeadline + 1)
      ((sampleWorld none).after sampleDeployment lateSurface 2).db).1 =
        .submit "action_1" request := ⟨_, rfl⟩
  obtain ⟨⟨c, hc, -, hcollect⟩, -⟩ := h 2 _ _ _ rfl (.claimed (.mk rfl hrequest))
  have hcases : ((sampleWorld none).after sampleDeployment lateSurface 2).db.cases =
      [sampleCase "case_1"] := rfl
  rw [hcases] at hc
  obtain rfl := List.mem_singleton.mp hc
  have hlate : ¬ sampleDeadline + 1 ≤ sampleDeadline := by decide
  exact hlate hcollect.inTime

end RecoveryOS.Core
