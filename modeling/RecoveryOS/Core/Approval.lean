import RecoveryOS.Core.Grants
import RecoveryOS.Core.World

/-!
# Approvals and provider calls

An action whose decision requires an approval is added as `AWAITING_APPROVAL`, which no claim starts
from, and only an approval brings it from there to a status that one does. So an action of that kind
that is live was approved, and was not cancelled since.

An approval that is committed on an action which was rejected after an earlier approval breaks this:
the action is live again, and the event of the earlier approval is all there is.
-/

namespace RecoveryOS.Core

open Store Worker

/-- The actions for which a step calls a provider: it opens a surface, starts a call, or resumes a
submission. -/
def World.providerCalls (d : Deployment) (w : World) : Op → List String
  | .execute worker command ready now =>
    if command.action = "START_VOICE" then
      match claimVoiceAction command ready w.db with
      | (.claimed action, _) => [action.id]
      | (.answered _, _) => []
    else if command.action = "OPEN_CUSTOMER_PAYMENT_SURFACE" then
      match executePaymentSurface d.runtime command (w.inFlightOf worker) now w.db with
      | (.submit actionId _, _) => [actionId]
      | _ => []
    else []
  | .reconcile i _ _ _ =>
    match w.pending[i]? with
    | some ⟨s, .reconciling⟩ =>
      match reconcileCheck d.runtime s.actionId w.db with
      | .ok _ => [s.actionId]
      | .error _ => []
    | _ => []
  | _ => []

/-- The action opens a surface or starts a call, and its decision requires an approval. -/
def NeedsApproval (db : Database) (a : RecoveryActionRecord) : Prop :=
  (a.actionType = .openCustomerPaymentSurface ∨ a.actionType = .startVoice) ∧
    ∃ p ∈ db.policies, p.actionId = some a.id ∧ p.disposition = .requireManualApproval

section
variable (d : Deployment) (w : World) (ops : List Op)

/-- An approval of the action was committed before step `k`, and no row of the action was cancelled
since. -/
def ApprovedSince (k : ℕ) (a : RecoveryActionRecord) : Prop :=
  ∃ j < k, approvalRecorded a.caseId a.id (w.after d ops j).db = false ∧
    approvalRecorded a.caseId a.id (w.after d ops (j + 1)).db = true ∧
    ∀ i ≤ k, j < i → ∀ b ∈ (w.after d ops i).db.actions, b.id = a.id → b.status ≠ .cancelled

/-- Every provider call for an action that needs an approval comes after one that is in force. -/
def CallsApproved : Prop :=
  ∀ k op, ops[k]? = some op → ∀ id ∈ (w.after d ops k).providerCalls d op,
    ∀ a ∈ (w.after d ops k).db.actions, a.id = id → NeedsApproval (w.after d ops k).db a →
      ApprovedSince d w ops k a

/-- Every approval that is committed records its event, or else finds its action live: under the
key of the event there is nothing yet, or the action was not cancelled or finished. -/
def ApprovalsInForce : Prop :=
  ∀ k i t pending row written, ops[k]? = some (.commitApproval i t) →
    (w.after d ops k).approvals[i]? = some pending →
    Cases.commitApproval pending t (w.after d ops k).db = .ok written →
    Cases.getAction pending.caseId pending.actionId (w.after d ops k).db = some row →
    (∃ e ∈ (w.after d ops k).db.events,
      e.caseId = row.caseId ∧ e.sourceEventId = some ("approval:" ++ row.id)) →
    Live row.status

end

/-- Decisions are about actions that exist. -/
def PoliciesAbout (db : Database) : Prop :=
  ∀ p ∈ db.policies, ∀ id, p.actionId = some id → ∃ a ∈ db.actions, a.id = id

/-! ## Live actions that need approval are old -/

section
variable {db₀ db db' : Database}

/-- The live actions that need an approval were there before. -/
structure NoNewLive (db₀ db : Database) : Prop where
  keys : Keys db
  about : PoliciesAbout db
  old : ∀ a ∈ db.actions, NeedsApproval db a → Live a.status → ∃ a₀ ∈ db₀.actions,
    NeedsApproval db₀ a₀ ∧ Live a₀.status ∧ a₀.id = a.id ∧ a₀.caseId = a.caseId

lemma NoNewLive.refl (hk : Keys db) (ha : PoliciesAbout db) : NoNewLive db db :=
  ⟨hk, ha, fun a ha hn hl => ⟨a, ha, hn, hl, rfl, rfl⟩⟩

lemma PoliciesAbout.moved (h : ActionsMoved db db') (ha : PoliciesAbout db) :
    PoliciesAbout db' := by
  intro p hp id hid
  rw [h.policies] at hp
  obtain ⟨a, hmem, rfl⟩ := ha p hp id hid
  have hin : a.id ∈ db'.actions.map (·.id) := by
    rw [h.ids]
    exact List.mem_map_of_mem hmem
  obtain ⟨a', ha', he⟩ := List.mem_map.mp hin
  exact ⟨a', ha', he⟩

lemma NeedsApproval.moved {a a' : RecoveryActionRecord} (hp : db'.policies = db.policies)
    (hm : Move a a') (h : NeedsApproval db' a') : NeedsApproval db a := by
  obtain ⟨htype, p, hmem, hid, hd⟩ := h
  rw [hm.actionType] at htype
  exact ⟨htype, p, hp ▸ hmem, hid.trans (by rw [hm.id]), hd⟩

lemma NeedsApproval.not_wait {a : RecoveryActionRecord} (h : NeedsApproval db a) :
    a.actionType ≠ .waitForGatewayRetry := by
  intro he
  rcases h.1 with h | h <;> rw [he] at h <;> cases h

lemma NoNewLive.moved (h : NoNewLive db₀ db) (hk : Keys db') (hm : ActionsMoved db db') :
    NoNewLive db₀ db' := by
  refine ⟨hk, h.about.moved hm, fun a' ha' hn hl => ?_⟩
  obtain ⟨a, ha, hmove⟩ := hm.moved a' ha'
  have hn : NeedsApproval db a := hn.moved hm.policies hmove
  obtain ⟨a₀, ha₀, hn₀, hl₀, hid, hcase⟩ := h.old a ha hn (hmove.live hl hn.not_wait)
  exact ⟨a₀, ha₀, hn₀, hl₀, hid.trans hmove.id.symm, hcase.trans hmove.caseId.symm⟩

/-- A new action is not live if its decision requires an approval, and the decisions that were there
are not about it. -/
lemma NoNewLive.added {a : RecoveryActionRecord} {p : PolicyDecisionRecord}
    (h : NoNewLive db₀ db) (hi : db.insertActionWithPolicy a p = some db')
    (hid : p.actionId = some a.id)
    (hs : Safety.isContact a.actionType = true → a.status = Decision.statusOf p.disposition) :
    NoNewLive db₀ db' := by
  obtain ⟨hnew, hactions, hpolicies, -⟩ := insertActionWithPolicy_tables hi
  refine ⟨h.keys.insertActionWithPolicy hi, ?_, ?_⟩
  · intro q hq id hqid
    rw [hpolicies, List.mem_append, List.mem_singleton] at hq
    rw [hactions]
    rcases hq with hq | rfl
    · obtain ⟨b, hb, he⟩ := h.about q hq id hqid
      exact ⟨b, List.mem_append_left _ hb, he⟩
    · exact ⟨a, by simp, Option.some.inj (hid.symm.trans hqid)⟩
  · intro b hb hn hl
    obtain ⟨htype, q, hq, hqid, hd⟩ := hn
    rw [hactions, List.mem_append, List.mem_singleton] at hb
    rw [hpolicies, List.mem_append, List.mem_singleton] at hq
    rcases hb with hb | rfl
    · rcases hq with hq | rfl
      · exact h.old b hb ⟨htype, q, hq, hqid, hd⟩ hl
      · exact absurd (Option.some.inj (hqid.symm.trans hid)) (hnew b hb)
    · rcases hq with hq | rfl
      · obtain ⟨c, hc, he⟩ := h.about q hq _ hqid
        exact absurd he (hnew c hc)
      · have hcontact : Safety.isContact b.actionType = true := by
          rcases htype with h | h <;> rw [h] <;> rfl
        rw [hs hcontact, hd] at hl
        simp [Decision.statusOf, Live] at hl

lemma NoNewLive.evolves (h : NoNewLive db₀ db) (he : Evolves db db') : NoNewLive db₀ db' := by
  refine he.induct (fun {db db'} he h => ?_) h
  rcases he.actions with hm | ⟨a, p, hi, hd⟩
  · exact h.moved (h.keys.effect he) hm
  · exact h.added hi hd.actionId hd.status

end

/-! ## Runs -/

section
variable {d : Deployment} {w : World} {ops : List Op} {k : ℕ}

/-- What holds after `k` steps: the live actions that need an approval have one in force. -/
structure Approved (d : Deployment) (w : World) (ops : List Op) (k : ℕ) (db : Database) :
    Prop where
  keys : Keys db
  about : PoliciesAbout db
  live : ∀ a ∈ db.actions, NeedsApproval db a → Live a.status → ApprovedSince d w ops k a

lemma Live.not_cancelled {s : ActionStatus} (h : Live s) : s ≠ .cancelled := by
  rintro rfl
  simp [Live] at h

/-- An approval stays in force while the action is live. -/
lemma ApprovedSince.succ {a a' : RecoveryActionRecord} (h : ApprovedSince d w ops k a)
    (hid : a.id = a'.id) (hcase : a.caseId = a'.caseId)
    (hk : Table.Keyed (·.id) (w.after d ops (k + 1)).db.actions)
    (ha' : a' ∈ (w.after d ops (k + 1)).db.actions) (hl : Live a'.status) :
    ApprovedSince d w ops (k + 1) a' := by
  obtain ⟨j, hj, hbefore, hafter, hsince⟩ := h
  rw [hid, hcase] at hbefore hafter
  refine ⟨j, by omega, hbefore, hafter, fun i hi hji b hb hbid => ?_⟩
  rcases Nat.lt_or_ge k i with hlast | hle
  · obtain rfl : i = k + 1 := by omega
    rw [hk.eq hb ha' hbid]
    exact hl.not_cancelled
  · exact hsince i hle hji b hb (hbid.trans hid.symm)

/-- A step that makes no action of the kind live keeps the invariant. -/
lemma Approved.noNewLive (h : Approved d w ops k (w.after d ops k).db)
    (hn : NoNewLive (w.after d ops k).db (w.after d ops (k + 1)).db) :
    Approved d w ops (k + 1) (w.after d ops (k + 1)).db := by
  refine ⟨hn.keys, hn.about, fun a ha hneeds hl => ?_⟩
  obtain ⟨a₀, ha₀, hneeds₀, hl₀, hid, hcase⟩ := hn.old a ha hneeds hl
  exact (h.live a₀ ha₀ hneeds₀ hl₀).succ hid hcase hn.keys.actions ha hl

lemma commitRecommendation_noNewLive {pending : Cases.PendingRecommendation} {db : Database}
    (hk : Keys db) (ha : PoliciesAbout db) :
    NoNewLive db (commit (Cases.persistRecommendation pending) db) := by
  rcases commit_cases (persistRecommendation_spec pending db) with
    h | h | ⟨db₁, hi, he⟩
  · rw [h]
    exact .refl hk ha
  · rw [h]
    exact .refl hk ha
  · exact ((NoNewLive.refl hk ha).added hi rfl fun _ => rfl).evolves he

/-- The event of an approval is recorded if nothing has its key. -/
lemma approvalRecorded_of_insertEvent {row : RecoveryActionRecord} {t : Instant} {db db' : Database}
    (h : db.insertEvent (Cases.approvalEvent row t) = some db') :
    approvalRecorded row.caseId row.id db = false ∧ approvalRecorded row.caseId row.id db' = true ∧
      db'.actions = db.actions ∧ db'.cases = db.cases ∧ db'.policies = db.policies := by
  obtain ⟨rows, hrows, rfl⟩ := Option.map_eq_some_iff.mp h
  obtain ⟨-, hnew, rfl⟩ := Table.insert_eq_some hrows
  refine ⟨?_, ?_, rfl, rfl, rfl⟩
  · unfold approvalRecorded
    rw [List.any_eq_false]
    intro e he hrecorded
    have hclash := hnew e he
    simp only [Bool.and_eq_true, decide_eq_true_eq] at hrecorded
    simp [Cases.approvalEvent, hrecorded.1.1.1, hrecorded.2] at hclash
  · unfold approvalRecorded
    rw [List.any_eq_true]
    exact ⟨Cases.approvalEvent row t, by simp, by simp [Cases.approvalEvent]⟩

/-- Where the event is not recorded, one has its key. -/
lemma event_of_insertEvent_none {row : RecoveryActionRecord} {t : Instant} {db : Database}
    (h : db.insertEvent (Cases.approvalEvent row t) = none) : ∃ e ∈ db.events,
      e.caseId = row.caseId ∧ e.sourceEventId = some ("approval:" ++ row.id) := by
  obtain ⟨e, he, hclash⟩ := Table.exists_clash rfl (Option.map_eq_none_iff.mp h)
  simp only [Bool.and_eq_true, decide_eq_true_eq] at hclash
  exact ⟨e, he, hclash.1.1, hclash.2⟩

/-- What an approval does to the tables, with the event of its action recorded or not. -/
lemma commitApproval_tables {pending : Cases.PendingApproval} {t : Instant} {db db' : Database}
    {row : RecoveryActionRecord}
    (h : db' = ((db.putAction (approved row pending)).insertEvent
      (Cases.approvalEvent row t)).getD (db.putAction (approved row pending))) :
    db'.actions = Table.put (·.id) db.actions (approved row pending) ∧ db'.cases = db.cases ∧
      db'.policies = db.policies ∧
      (approvalRecorded row.caseId row.id db = false ∧
          approvalRecorded row.caseId row.id db' = true ∨
        ∃ e ∈ db.events, e.caseId = row.caseId ∧
          e.sourceEventId = some ("approval:" ++ row.id)) := by
  cases hi : (db.putAction (approved row pending)).insertEvent (Cases.approvalEvent row t) with
  | none =>
    rw [hi] at h
    subst h
    have hevent := event_of_insertEvent_none hi
    exact ⟨rfl, rfl, rfl, .inr hevent⟩
  | some db₁ =>
    rw [hi] at h
    obtain rfl : db' = db₁ := h
    obtain ⟨hbefore, hafter, ha, hc, hp⟩ := approvalRecorded_of_insertEvent hi
    exact ⟨ha, hc, hp, .inl ⟨hbefore, hafter⟩⟩

/-- An approval that meets the condition, if it is committed, keeps the invariant. -/
lemma Approved.commitApproval (pending : Cases.PendingApproval) (t : Instant)
    (h : Approved d w ops k (w.after d ops k).db)
    (hdb : (w.after d ops (k + 1)).db =
      commit (Cases.commitApproval pending t) (w.after d ops k).db)
    (hforce : ∀ row written,
      Cases.commitApproval pending t (w.after d ops k).db = .ok written →
      Cases.getAction pending.caseId pending.actionId (w.after d ops k).db =
      some row → (∃ e ∈ (w.after d ops k).db.events,
        e.caseId = row.caseId ∧ e.sourceEventId = some ("approval:" ++ row.id)) →
      Live row.status) :
    Approved d w ops (k + 1) (w.after d ops (k + 1)).db := by
  unfold commit at hdb
  split at hdb
  · next written db' hok =>
    obtain ⟨row, hrow, -, hwritten⟩ := commitApproval_spec pending t _ _ rfl _ _ hok
    rw [← hdb] at hwritten
    obtain ⟨hactions, hcases, hpolicies, hevent⟩ := commitApproval_tables hwritten
    have hmem : row ∈ (w.after d ops k).db.actions := List.mem_of_find?_eq_some hrow
    have hkeyed : Table.Keyed (·.id) (w.after d ops (k + 1)).db.actions := by
      rw [hactions]
      exact h.keys.actions.put _
    have hwrote : approved row pending ∈ (w.after d ops (k + 1)).db.actions := by
      rw [hactions]
      exact Table.mem_put_self hmem rfl
    refine ⟨⟨hcases ▸ h.keys.cases, hkeyed⟩, ?_, fun a ha hneeds hl => ?_⟩
    · intro p hp id hid
      rw [hpolicies] at hp
      obtain ⟨a, ha, rfl⟩ := h.about p hp id hid
      by_cases he : a.id = row.id
      · exact ⟨approved row pending, hwrote, he.symm⟩
      · exact ⟨a, by rw [hactions]; exact Table.mem_put_of_ne ha he, rfl⟩
    · have ha' := ha
      rw [hactions] at ha'
      rcases Table.mem_put ha' with rfl | ⟨ha', hne⟩
      · have hneeds' : NeedsApproval (w.after d ops k).db row := by
          obtain ⟨htype, p, hp, hid, hdisp⟩ := hneeds
          exact ⟨htype, p, hpolicies ▸ hp, hid, hdisp⟩
        rcases hevent with ⟨hbefore, hafter⟩ | hevent
        · -- the approval is new: it is in force from this step on
          refine ⟨k, by omega, hbefore, hafter, fun i hi hki b hb hbid => ?_⟩
          obtain rfl : i = k + 1 := by omega
          rw [hkeyed.eq hb ha hbid]
          exact hl.not_cancelled
        · exact (h.live row hmem hneeds' (hforce row _ hok hrow hevent)).succ rfl rfl hkeyed ha hl
      · have hneeds' : NeedsApproval (w.after d ops k).db a := by
          obtain ⟨htype, p, hp, hid, hdisp⟩ := hneeds
          exact ⟨htype, p, hpolicies ▸ hp, hid, hdisp⟩
        exact (h.live a ha' hneeds' hl).succ rfl rfl hkeyed ha hl
  · refine h.noNewLive ?_
    rw [hdb]
    exact .refl h.keys h.about

/-- A provider is called only for a live action. -/
lemma providerCalls_live {op : Op} {id : String} (h : id ∈ w.providerCalls d op) :
    ∃ a ∈ w.db.actions, a.id = id ∧ Live a.status := by
  unfold World.providerCalls at h
  split at h
  · split_ifs at h
    · split at h
      · next action db' heq =>
        obtain rfl : id = action.id := by simpa using h
        exact live_of_voice heq
      · cases h
    · split at h
      · next actionId request db' heq =>
        obtain rfl : id = actionId := by simpa using h
        exact live_of_submit heq
      · cases h
    · cases h
  · split at h
    · next s _ =>
      split at h
      · next heq =>
        obtain rfl : id = s.actionId := by simpa using h
        exact live_of_reconcileCheck heq
      · cases h
    · cases h
  · cases h

lemma Approved.step (hforce : ApprovalsInForce d w ops) {op : Op} (hop : ops[k]? = some op)
    (h : Approved d w ops k (w.after d ops k).db) :
    Approved d w ops (k + 1) (w.after d ops (k + 1)).db := by
  have hnext := World.after_succ d w hop
  by_cases hblind : op.blind
  · cases op with
    | commitRecommendation i =>
      refine h.noNewLive ?_
      rw [hnext]
      simp only [World.step]
      split
      · exact .refl h.keys h.about
      · exact commitRecommendation_noNewLive h.keys h.about
    | commitApproval i t =>
      cases hpending : (w.after d ops k).approvals[i]? with
      | none =>
        refine h.noNewLive ?_
        rw [hnext]
        simp only [World.step, hpending]
        exact .refl h.keys h.about
      | some pending =>
        refine h.commitApproval pending t ?_ fun row written hok hrow hevent =>
          hforce k i t pending row written hop hpending hok hrow hevent
        rw [hnext]
        simp only [World.step, hpending]
    | _ => exact absurd hblind id
  · refine h.noNewLive ?_
    rw [hnext]
    exact (NoNewLive.refl h.keys h.about).evolves (step_evolves h.keys hblind)

/-- From a database in which no such action is live, every provider call for an action whose decision
requires an approval comes after an approval in force, in every run in which the approvals that are
committed record their event or find the action live. -/
theorem calls_approved (hk : Keys w.db) (ha : PoliciesAbout w.db)
    (hnone : ∀ a ∈ w.db.actions, NeedsApproval w.db a → ¬ Live a.status)
    (hforce : ApprovalsInForce d w ops) : CallsApproved d w ops := by
  have hinv : ∀ k ≤ ops.length, Approved d w ops k (w.after d ops k).db := by
    refine World.after_induct (P := fun k v => Approved d w ops k v.db) ?_ ?_
    · exact ⟨hk, ha, fun a hmem hneeds hl => absurd hl (hnone a hmem hneeds)⟩
    · intro k op hop h
      rw [← World.after_succ d w hop]
      exact h.step hforce hop
  intro k op hop id hid a hmem haid hneeds
  have h := hinv k (List.getElem?_eq_some_iff.mp hop).1.le
  obtain ⟨b, hb, hbid, hl⟩ := providerCalls_live hid
  obtain rfl := h.keys.actions.eq hmem hb (haid.trans hbid.symm)
  exact h.live a hmem hneeds hl

end

/-- The action is recommended and approved, and the surface is opened. -/
def approvedSurface : List Op :=
  [sampleRecommend .subscriptionInvoiceLink, .commitRecommendation 0,
    .loadApproval "merchant_1" "case_1" "action_1", .commitApproval 0 2000000,
    .execute 0 (sampleCommand .subscriptionInvoiceLink) false 3000000]

theorem approvedSurface_approved :
    CallsApproved sampleDeployment (sampleWorld (some 10000)) approvedSurface ∧
      ((sampleWorld (some 10000)).after sampleDeployment approvedSurface
        4).providerCalls sampleDeployment
        (.execute 0 (sampleCommand .subscriptionInvoiceLink) false 3000000) = ["action_1"] := by
  refine ⟨calls_approved ⟨List.nodup_singleton _, List.nodup_nil⟩
    (fun p hp => absurd hp List.not_mem_nil) (fun a ha => absurd ha List.not_mem_nil) ?_,
    by decide +kernel⟩
  rintro k i t pending row written hop - - - ⟨e, he, -, hkey⟩
  -- the only approval is the fourth step, before which the recommendation is the only event
  obtain rfl : k = 3 := by
    have hk : k < 5 := (List.getElem?_eq_some_iff.mp hop).1
    interval_cases k <;> first | rfl | cases hop
  have hevents : ∀ e ∈ ((sampleWorld (some 10000)).after sampleDeployment
      approvedSurface 3).db.events, e.sourceEventId = some "recommendation:action_1" := by
    decide +kernel
  have hsame := congrArg String.toList (Option.some.inj ((hevents e he).symm.trans hkey))
  rw [String.toList_append] at hsame
  have hhead := congrArg List.head? hsame
  simp at hhead

/-- Two approvals load the action; the action is rejected after the first, and opened after the
second. -/
def approvedAfterRejection : List Op :=
  [sampleRecommend .subscriptionInvoiceLink, .commitRecommendation 0,
    .loadApproval "merchant_1" "case_1" "action_1", .loadApproval "merchant_1" "case_1" "action_1",
    .commitApproval 0 2000000, .reject "merchant_1" "case_1" "action_1" none 3000000,
    .commitApproval 0 4000000, .execute 0 (sampleCommand .subscriptionInvoiceLink) false 5000000]

/-- The world after `k` of these steps. -/
def afterRejection (k : ℕ) : World :=
  (sampleWorld (some 10000)).after sampleDeployment approvedAfterRejection k

theorem rejected_action_opened : (sampleDatabase (some 10000)).actions = [] ∧
    ¬ CallsApproved sampleDeployment (sampleWorld (some 10000)) approvedAfterRejection := by
  refine ⟨rfl, fun h => ?_⟩
  have hrow : ∃ a ∈ (afterRejection 7).db.actions,
      a.id = "action_1" ∧ a.caseId = "case_1" ∧ a.actionType = .openCustomerPaymentSurface ∧
      ∃ p ∈ (afterRejection 7).db.policies,
        p.actionId = some "action_1" ∧ p.disposition = .requireManualApproval := by
    decide +kernel
  have hcancelled : ∀ j < 7,
      approvalRecorded "case_1" "action_1" (afterRejection j).db = false →
      approvalRecorded "case_1" "action_1" (afterRejection (j + 1)).db = true →
      j < 6 ∧ ∃ b ∈ (afterRejection 6).db.actions,
        b.id = "action_1" ∧ b.status = .cancelled := by
    decide +kernel
  obtain ⟨a, ha, hid, hcase, htype, p, hp, hpid, hdisp⟩ := hrow
  obtain ⟨j, hj, hbefore, hafter, hsince⟩ := h 7 _ rfl "action_1" (by decide +kernel) a ha hid
    ⟨.inl htype, p, hp, by rw [hpid, hid], hdisp⟩
  rw [hid, hcase] at hbefore hafter
  obtain ⟨hj6, b, hb, hbid, hb'⟩ := hcancelled j hj hbefore hafter
  exact hsince 6 (by omega) hj6 b hb (hbid.trans hid.symm) hb'

end RecoveryOS.Core
