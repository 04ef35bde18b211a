import RecoveryOS.Core.Grants
import RecoveryOS.Core.World

/-!
# One link per reference

A standalone link is created under a reference that is a digest of its action's key. The first create
is sent by the claim that finds the action unclaimed. Later deliveries look the reference up under
the row lock, and send a second create if nothing is there.

A lookup sees what has taken effect and not what is under way. So there is one link at most as long
as no delivery sends a second create while another is still on the wire; the set of submissions in
flight, which is a process's own, keeps only the deliveries of that process from it.
-/

namespace RecoveryOS.Core

open Store Worker

/-- How many creates under a reference have taken effect or may still do so. -/
def World.creates (w : World) (reference : String) : ℕ :=
  (w.links.map (·.reference)).count reference +
    (w.wire.map (·.request.referenceId)).count (some reference)

/-- The action waits for its first claim. -/
def Unclaimed (db : Database) (actionId : String) : Prop :=
  ∃ r ∈ db.actions, r.id = actionId ∧ (r.status = .proposed ∨ r.status = .scheduled)

/-- The action is there, and is not a wait, which would come to life again. -/
def Claimable (db : Database) (actionId : String) : Prop :=
  ∃ r ∈ db.actions, r.id = actionId ∧ r.actionType ≠ .waitForGatewayRetry

/-! ## No action becomes unclaimed again -/

section
variable {db db' : Database} {id : String}

lemma ActionsMoved.claimable (h : ActionsMoved db db') (hk : Table.Keyed (·.id) db.actions)
    (hc : Claimable db id) : Claimable db' id ∧ (Unclaimed db' id → Unclaimed db id) := by
  obtain ⟨r, hr, hid, htype⟩ := hc
  -- the row of the action after the effect is the one that was there, moved
  have hmoved : ∀ r' ∈ db'.actions, r'.id = id → Move r r' := by
    intro r' hr' hid'
    obtain ⟨r₀, hr₀, hm⟩ := h.moved r' hr'
    obtain rfl : r₀ = r := hk.eq hr₀ hr (by rw [← hm.id, hid', hid])
    exact hm
  refine ⟨?_, ?_⟩
  · have hmem : r.id ∈ db'.actions.map (·.id) := by
      rw [h.ids]
      exact List.mem_map_of_mem hr
    obtain ⟨r', hr', hid'⟩ := List.mem_map.mp hmem
    have hm := hmoved r' hr' (hid'.trans hid)
    exact ⟨r', hr', hid'.trans hid, by rw [hm.actionType]; exact htype⟩
  · rintro ⟨r', hr', hid', hstatus⟩
    have hm := hmoved r' hr' hid'
    refine ⟨r, hr, hid, ?_⟩
    rcases hm.status with hs | hs | hs | ⟨hs, -⟩ | ⟨-, hs⟩
    · rwa [hs] at hstatus
    all_goals try (rw [hs] at hstatus; simp at hstatus)
    exact absurd hs htype

lemma claimable_insertActionWithPolicy {a : RecoveryActionRecord} {p : PolicyDecisionRecord}
    (h : db.insertActionWithPolicy a p = some db') (hc : Claimable db id) :
    Claimable db' id ∧ (Unclaimed db' id → Unclaimed db id) := by
  obtain ⟨hnew, hactions, -⟩ := insertActionWithPolicy_tables h
  obtain ⟨r, hr, hid, htype⟩ := hc
  refine ⟨⟨r, ?_, hid, htype⟩, ?_⟩
  · rw [hactions]
    exact List.mem_append_left _ hr
  · rintro ⟨r', hr', hid', hstatus⟩
    rw [hactions] at hr'
    rcases List.mem_append.mp hr' with hr' | hr'
    · exact ⟨r', hr', hid', hstatus⟩
    · rw [List.mem_singleton.mp hr'] at hid'
      exact absurd (hid.trans hid'.symm) (hnew r hr)

lemma Evolves.claimable (h : Evolves db db') (hk : Table.Keyed (·.id) db.actions)
    (hc : Claimable db id) : Claimable db' id ∧ (Unclaimed db' id → Unclaimed db id) := by
  have hall := h.induct (P := fun t => Table.Keyed (·.id) t.actions ∧ Claimable t id ∧
    (Unclaimed t id → Unclaimed db id)) (fun {t t'} he ht => ?_) ⟨hk, hc, fun h => h⟩
  · exact hall.2
  · obtain ⟨htk, htc, htu⟩ := ht
    have hstep : Claimable t' id ∧ (Unclaimed t' id → Unclaimed t id) := by
      rcases he.actions with hm | ⟨a, p, ha, -⟩
      · exact hm.claimable htk htc
      · exact claimable_insertActionWithPolicy ha htc
    exact ⟨he.keyedActions htk, hstep.1, fun hu => htu (hstep.2 hu)⟩

end

/-! ## What a step does -/

/-- The invariant, for an action and its reference. -/
structure OneCreate (actionId reference : String) (w : World) : Prop where
  keys : Keys w.db
  claimable : Claimable w.db actionId
  unclaimed : Unclaimed w.db actionId → w.creates reference = 0
  pending : ∀ p ∈ w.pending, p.submission.request.referenceId = some reference →
    p.submission.actionId = actionId
  once : w.creates reference ≤ 1

section
variable {d : Deployment} {w w' : World} {id reference : String}

/-- Where the pending executions of a step come from: they were there, or are the action's own. -/
def PendingFrom (w w' : World) (id reference : String) : Prop :=
  ∀ p ∈ w'.pending, (∃ q ∈ w.pending, q.submission = p.submission) ∨
    (p.submission.request.referenceId = some reference → p.submission.actionId = id)

lemma PendingFrom.of_subset (h : ∀ p ∈ w'.pending, p ∈ w.pending) :
    PendingFrom w w' id reference := fun p hp => .inl ⟨p, h p hp, rfl⟩

lemma PendingFrom.pending (h : OneCreate id reference w) (hp : PendingFrom w w' id reference) :
    ∀ p ∈ w'.pending, p.submission.request.referenceId = some reference →
      p.submission.actionId = id := by
  intro p hpm hr
  rcases hp p hpm with ⟨q, hq, he⟩ | hmine
  · rw [← he] at hr ⊢
    exact h.pending q hq hr
  · exact hmine hr

/-- Nothing is created, and no action becomes unclaimed. -/
lemma OneCreate.quiet (h : OneCreate id reference w) (he : Evolves w.db w'.db)
    (hc : w'.creates reference ≤ w.creates reference) (hp : PendingFrom w w' id reference) :
    OneCreate id reference w' := by
  obtain ⟨hclaim, hun⟩ := he.claimable h.keys.actions h.claimable
  exact
    { keys := h.keys.evolves he
      claimable := hclaim
      unclaimed := fun hu => Nat.le_zero.mp (hc.trans_eq (h.unclaimed (hun hu)))
      pending := hp.pending h
      once := hc.trans h.once }

lemma creates_submit (w : World) (s : Submission) (reference : String) :
    (w.submit s).creates reference ≤ w.creates reference + 1 ∧
      (s.request.referenceId ≠ some reference →
        (w.submit s).creates reference = w.creates reference) := by
  unfold World.creates World.submit
  split_ifs
  · simp only [List.map_append, List.count_append, List.map_cons, List.map_nil,
      List.count_singleton]
    constructor
    · split_ifs <;> omega
    · intro hne
      rw [if_neg (by simpa using hne)]
      rfl
  · exact ⟨Nat.le_succ _, fun _ => rfl⟩

/-- An execution is added that is the action's own. -/
lemma pendingFrom_append (w : World) {p : Pending}
    (h : p.submission.request.referenceId = some reference → p.submission.actionId = id) :
    ∀ q ∈ w.pending ++ [p], (∃ x ∈ w.pending, x.submission = q.submission) ∨
      (q.submission.request.referenceId = some reference → q.submission.actionId = id) := by
  intro q hq
  rcases List.mem_append.mp hq with hq | hq
  · exact .inl ⟨q, hq, rfl⟩
  · rw [List.mem_singleton.mp hq]
    exact .inr h

/-- An execution that calls the provider at once, or waits to reconcile. -/
lemma OneCreate.execute (h : OneCreate id reference w) {worker : ℕ} {command : ExecuteActionInput}
    {now : Instant} (hown : ∀ r ∈ w.db.actions,
      standardPaymentLinkReference d.runtime r.idempotencyKey = reference → r.id = id) :
    OneCreate id reference (w.executeSurface d worker command now) := by
  have hev : Evolves w.db (executePaymentSurface d.runtime command (w.inFlightOf worker) now
      w.db).2 := executePaymentSurface_evolves
  -- what a claim is made for is the action whose reference the request carries
  have hmine : ∀ {b actionId request}, executePaymentSurface d.runtime command
      (w.inFlightOf worker) now w.db = (Resumed b actionId request,
        (executePaymentSurface d.runtime command (w.inFlightOf worker) now w.db).2) →
      request.referenceId = some reference → actionId = id := by
    intro b actionId request he hr
    obtain ⟨_, _, _, _, claimed, -, hopen, hid, hclaimed⟩ := executePaymentSurface_claimed he
    obtain ⟨r, hrm, hrid, hkey⟩ := hclaimed.row
    rw [← hid, ← hrid]
    refine hown r hrm ?_
    rw [hkey]
    exact openRequest_reference hopen hr
  unfold World.executeSurface
  dsimp only
  split
  · next actionId request hnext =>
    have hclaimed := executePaymentSurface_claimed (b := false) (Prod.ext hnext rfl)
    have hm : request.referenceId = some reference → actionId = id :=
      hmine (b := false) (Prod.ext hnext rfl)
    have hcreates := creates_submit w ⟨worker, command, actionId, request, w.db, now⟩ reference
    have hp := pendingFrom_append w
      (p := ⟨⟨worker, command, actionId, request, w.db, now⟩, .awaiting⟩) hm
    by_cases hr : request.referenceId = some reference
    · -- the claim found the action unclaimed, so nothing was created for it
      obtain ⟨_, _, _, _, claimed, -, -, hid, hclaimed⟩ := hclaimed
      obtain ⟨r, hrm, hrid, hstatus, hactions⟩ := hclaimed.granted
      have hrid : r.id = id := (hrid.trans hid).trans (hm hr)
      have hzero : w.creates reference = 0 := h.unclaimed ⟨r, hrm, hrid, hstatus⟩
      refine ⟨h.keys.evolves hev, (hev.claimable h.keys.actions h.claimable).1, ?_,
        PendingFrom.pending h hp, hcreates.1.trans (by rw [hzero])⟩
      rintro ⟨x, hx, hxid, hxs⟩
      have hx' : x ∈ Table.put (·.id) w.db.actions (executing r) := hactions ▸ hx
      rcases Table.mem_put hx' with rfl | ⟨-, hne⟩
      · rcases hxs with hxs | hxs <;> cases hxs
      · exact absurd (hxid.trans hrid.symm) hne
    · exact h.quiet hev (hcreates.2 hr).le hp
  · next actionId request hnext =>
    have hm : request.referenceId = some reference → actionId = id :=
      hmine (b := true) (Prod.ext hnext rfl)
    exact h.quiet hev le_rfl (pendingFrom_append w
      (p := ⟨⟨worker, command, actionId, request, w.db, now⟩, .reconciling⟩) hm)
  · exact h.quiet hev le_rfl (.of_subset fun p hp => hp)

/-- A reconciliation sends a create only where its lookup found nothing and the action is being
executed. -/
lemma resubmitted_spec {rt : Runtime} {actionId : String} {lookup : LinkLookup}
    {resubmission : Option PaymentSurfaceResult} {now : Instant} {db : Database}
    (h : (reconcileStandardPaymentLink rt actionId lookup resubmission now db).1.2 = true) :
    lookup = .absent ∧ ∃ action, reconcileCheck rt actionId db = .ok action := by
  unfold reconcileStandardPaymentLink at h
  split at h
  · simp at h
  · next action haction =>
    split at h
    · simp at h
    · simp at h
    · exact ⟨rfl, action, haction⟩

lemma not_unclaimed_of_reconcileCheck {rt : Runtime} {db : Database} {action : RecoveryActionRecord}
    (hk : Table.Keyed (·.id) db.actions) (h : reconcileCheck rt id db = .ok action) :
    ¬ Unclaimed db id := by
  obtain ⟨-, hfound, hstatus⟩ := reconcileCheck_spec h
  rintro ⟨r, hr, hid, hs⟩
  have haction : action.id = id := by simpa using List.find?_some hfound
  obtain rfl := hk.eq hr (List.mem_of_find?_eq_some hfound) (hid.trans haction.symm)
  rw [hstatus] at hs
  rcases hs with hs | hs <;> cases hs

lemma creates_eq_zero (hl : ∀ l ∈ w.links, l.reference ≠ reference)
    (hw : ∀ t ∈ w.wire, t.request.referenceId ≠ some reference) : w.creates reference = 0 := by
  unfold World.creates
  rw [List.count_eq_zero.mpr, List.count_eq_zero.mpr]
  · rw [List.mem_map]
    rintro ⟨t, ht, he⟩
    exact hw t ht he
  · rw [List.mem_map]
    rintro ⟨l, hm, he⟩
    exact hl l hm he

lemma OneCreate.reconcile (h : OneCreate id reference w) {i : ℕ} {s : Submission}
    {lookup : LinkLookup} {resubmission : Option PaymentSurfaceResult} {now : Instant}
    (hpending : w.pending[i]? = some ⟨s, .reconciling⟩)
    (htruth : lookup = .absent → ∀ l ∈ w.links, some l.reference ≠ s.request.referenceId)
    (halone : lookup = .absent → ∀ action, reconcileCheck d.runtime s.actionId w.db = .ok action →
      ∀ t ∈ w.wire, t.request.referenceId ≠ s.request.referenceId) :
    OneCreate id reference (w.reconcile d i s lookup resubmission now) := by
  have hev : Evolves w.db (reconcileStandardPaymentLink d.runtime s.actionId lookup resubmission now
      w.db).2 := reconcileStandardPaymentLink_evolves
  have hsub : ∀ p ∈ w.pending.eraseIdx i, p ∈ w.pending := fun p hp => List.mem_of_mem_eraseIdx hp
  unfold World.reconcile
  dsimp only
  split_ifs with hre
  · obtain ⟨habsent, action, hcheck⟩ := resubmitted_spec hre
    have hcreates := creates_submit w s reference
    by_cases hr : s.request.referenceId = some reference
    · have hmine : s.actionId = id := h.pending _ (List.mem_of_getElem? hpending) hr
      have hzero : w.creates reference = 0 := by
        refine creates_eq_zero (fun l hl he => htruth habsent l hl ?_) fun t ht he => ?_
        · rw [he, hr]
        · exact halone habsent action hcheck t ht (he.trans hr.symm)
      obtain ⟨hclaim, hun⟩ := hev.claimable h.keys.actions h.claimable
      refine ⟨h.keys.evolves hev, hclaim, fun hu => ?_, ?_, hcreates.1.trans (by rw [hzero])⟩
      · exact absurd (hun hu) (not_unclaimed_of_reconcileCheck h.keys.actions (hmine ▸ hcheck))
      · exact fun p hp => h.pending p (hsub p hp)
    · exact h.quiet hev (hcreates.2 hr).le (.of_subset hsub)
  · exact h.quiet hev le_rfl (.of_subset hsub)

lemma OneCreate.answer (h : OneCreate id reference w) {i : ℕ} {s : Submission} {reply : Reply}
    (hpending : w.pending[i]? = some ⟨s, .awaiting⟩) :
    OneCreate id reference (w.answer i s reply) := by
  have hset : ∀ stage, ∀ p ∈ w.pending.set i ⟨s, stage⟩, (∃ q ∈ w.pending,
      q.submission = p.submission) ∨ (p.submission.request.referenceId = some reference →
        p.submission.actionId = id) := by
    intro stage p hp
    rcases List.mem_or_eq_of_mem_set hp with hp | rfl
    · exact .inl ⟨p, hp, rfl⟩
    · exact .inl ⟨_, List.mem_of_getElem? hpending, rfl⟩
  have herase : PendingFrom w (w.finish i s) id reference :=
    .of_subset fun p hp => List.mem_of_mem_eraseIdx hp
  unfold World.answer
  split
  · exact h.quiet (Evolves.refl _) le_rfl (hset _)
  · split_ifs
    · exact h.quiet (Evolves.refl _) le_rfl (hset _)
    · exact h.quiet (Evolves.refl _) le_rfl herase
  · exact h.quiet (Evolves.refl _) le_rfl herase

/-- What leaves the wire is no longer under way. -/
lemma count_eraseIdx {α : Type} [BEq α] [LawfulBEq α] {l : List α} {i : ℕ} {a : α}
    (h : l[i]? = some a) (b : α) :
    (l.eraseIdx i).count b + (if a == b then 1 else 0) = l.count b := by
  obtain ⟨hi, rfl⟩ := List.getElem?_eq_some_iff.mp h
  have hp := (List.getElem_cons_eraseIdx_perm hi).count_eq b
  rwa [List.count_cons] at hp

lemma OneCreate.land (h : OneCreate id reference w) {i : ℕ} {s : Submission} {linkId : String}
    (hs : w.wire[i]? = some s) :
    OneCreate id reference { w with wire := w.wire.eraseIdx i, links := w.land s linkId } := by
  refine h.quiet (Evolves.refl _) ?_ (.of_subset fun p hp => hp)
  have hwire : (w.wire.map (·.request.referenceId))[i]? = some s.request.referenceId := by
    rw [List.getElem?_map, hs]
    rfl
  have hcount := count_eraseIdx hwire (some reference)
  unfold World.creates World.land
  dsimp only
  rw [← List.eraseIdx_map]
  split
  · next hnone =>
    rw [hnone, if_neg (by simp)] at hcount
    omega
  · next r hr =>
    have hbeq : (some r == some reference) = (r == reference) := rfl
    rw [hr, hbeq] at hcount
    rw [List.map_append, List.count_append, List.map_singleton, List.count_singleton]
    dsimp only
    omega

lemma OneCreate.lose (h : OneCreate id reference w) (i : ℕ) :
    OneCreate id reference { w with wire := w.wire.eraseIdx i } := by
  refine h.quiet (Evolves.refl _) ?_ (.of_subset fun p hp => hp)
  have hsub := (List.eraseIdx_sublist w.wire i).map fun s => s.request.referenceId
  exact Nat.add_le_add_left (hsub.count_le _) _

lemma creates_deactivate (ids : List String) :
    { w with links := w.deactivate ids }.creates reference = w.creates reference := by
  unfold World.creates World.deactivate
  dsimp only
  rw [List.map_map]
  congr 2
  refine List.map_congr_left fun l _ => ?_
  simp only [Function.comp]
  split_ifs <;> rfl

/-- The delayed write of a recommendation adds an action of its own. -/
lemma OneCreate.commitRecommendation (h : OneCreate id reference w)
    {pending : Cases.PendingRecommendation} {rest : List Cases.PendingRecommendation} :
    OneCreate id reference { w with
      db := commit (Cases.persistRecommendation pending) w.db, recommendations := rest } := by
  have hdb : Keys (commit (Cases.persistRecommendation pending) w.db) ∧
      Claimable (commit (Cases.persistRecommendation pending) w.db) id ∧
      (Unclaimed (commit (Cases.persistRecommendation pending) w.db) id → Unclaimed w.db id) := by
    rcases commit_cases (persistRecommendation_spec pending w.db) with he | he | ⟨db₁, hi, he⟩
    · rw [he]
      exact ⟨h.keys, h.claimable, fun hu => hu⟩
    · rw [he]
      exact ⟨h.keys, h.claimable, fun hu => hu⟩
    · have hk₁ := h.keys.insertActionWithPolicy hi
      obtain ⟨hc₁, hu₁⟩ := claimable_insertActionWithPolicy hi h.claimable
      obtain ⟨hc₂, hu₂⟩ := he.claimable hk₁.actions hc₁
      exact ⟨hk₁.evolves he, hc₂, fun hu => hu₁ (hu₂ hu)⟩
  exact ⟨hdb.1, hdb.2.1, fun hu => h.unclaimed (hdb.2.2 hu), h.pending, h.once⟩

end

/-! ## Runs -/

section
variable (d : Deployment) (w : World) (ops : List Op)

/-- A lookup that finds nothing is right: no create under the reference has taken effect. -/
def LookupsTruthful : Prop :=
  ∀ k i resubmission now s, ops[k]? = some (.reconcile i .absent resubmission now) →
    (w.after d ops k).pending[i]? = some ⟨s, .reconciling⟩ →
    ∀ l ∈ (w.after d ops k).links, some l.reference ≠ s.request.referenceId

/-- Where a delivery sends a create again, none under its reference is still on the wire. -/
def ResubmitsAlone : Prop :=
  ∀ k i resubmission now s action, ops[k]? = some (.reconcile i .absent resubmission now) →
    (w.after d ops k).pending[i]? = some ⟨s, .reconciling⟩ →
    reconcileCheck d.runtime s.actionId (w.after d ops k).db = .ok action →
    ∀ t ∈ (w.after d ops k).wire, t.request.referenceId ≠ s.request.referenceId

end

section
variable {d : Deployment} {w : World} {ops : List Op} {id reference : String}

/-- A step of the service other than an approval keeps the invariant. -/
theorem OneCreate.step (h : OneCreate id reference w) {op : Op}
    (hop : ∀ i t, op ≠ .commitApproval i t)
    (hown : ∀ r ∈ w.db.actions,
      standardPaymentLinkReference d.runtime r.idempotencyKey = reference → r.id = id)
    (htruth : ∀ i resubmission now s, op = .reconcile i .absent resubmission now →
      w.pending[i]? = some ⟨s, .reconciling⟩ →
      ∀ l ∈ w.links, some l.reference ≠ s.request.referenceId)
    (halone : ∀ i resubmission now s action, op = .reconcile i .absent resubmission now →
      w.pending[i]? = some ⟨s, .reconciling⟩ →
      reconcileCheck d.runtime s.actionId w.db = .ok action →
      ∀ t ∈ w.wire, t.request.referenceId ≠ s.request.referenceId) :
    OneCreate id reference (w.step d op) := by
  -- the steps that leave the wire, the links and what is pending alone
  have hother : ∀ {w' : World}, Evolves w.db w'.db → w'.wire = w.wire → w'.links = w.links →
      w'.pending = w.pending → OneCreate id reference w' := by
    intro w' he hw hl hp
    refine h.quiet he ?_ (.of_subset fun p hpm => hp ▸ hpm)
    unfold World.creates
    rw [hw, hl]
  have hev : ¬ op.blind → Evolves w.db (w.step d op).db := step_evolves h.keys
  cases op with
  | deliver entry message => exact hother (hev not_false) rfl rfl rfl
  | process call => exact hother (hev not_false) rfl rfl rfl
  | recommend service request =>
    simp only [World.step, World.recommend]
    split
    · exact hother (Evolves.refl _) rfl rfl rfl
    · exact h
  | commitRecommendation i =>
    simp only [World.step]
    split
    · exact h
    · exact h.commitRecommendation
  | loadApproval m c a =>
    simp only [World.step, World.loadApproval]
    split
    · exact hother (Evolves.refl _) rfl rfl rfl
    · exact h
  | commitApproval i t => exact absurd rfl (hop i t)
  | reject m c a held t => exact hother (hev not_false) rfl rfl rfl
  | stop m c t => exact hother (hev not_false) rfl rfl rfl
  | escalate m c reason a p t t' => exact hother (hev not_false) rfl rfl rfl
  | recordDisposition m c disposition t => exact hother (hev not_false) rfl rfl rfl
  | reserveVoice attempt => exact hother (hev not_false) rfl rfl rfl
  | callback callback eventId attemptId now cancelSucceeds => exact hother (hev not_false) rfl rfl rfl
  | poll p =>
    refine hother (hev not_false) ?_ ?_ ?_
    all_goals
      simp only [World.step, World.poll]
      split
      · rfl
      · split <;> rfl
  | execute worker command ready now =>
    simp only [World.step, World.execute]
    split_ifs
    · have he : Evolves w.db (claimVoiceAction command ready w.db).2 := claimVoiceAction_evolves
      unfold World.executeVoice
      split
      · next heq =>
        rw [heq] at he
        exact hother he rfl rfl rfl
      · next heq =>
        rw [heq] at he
        exact hother he rfl rfl rfl
    · exact h.execute hown
    · exact h
  | reply i reply =>
    simp only [World.step]
    split
    · next s hs => exact h.answer hs
    · exact h
  | persist i now =>
    simp only [World.step]
    split
    · exact h.quiet persistPaymentSurface_evolves le_rfl
        (.of_subset fun p hp => List.mem_of_mem_eraseIdx hp)
    · exact h
  | reconcile i lookup resubmission now =>
    simp only [World.step]
    split
    · next s hs =>
      refine h.reconcile hs (fun he => ?_) fun he action hcheck => ?_
      · exact htruth i resubmission now s (by rw [he]) hs
      · exact halone i resubmission now s action (by rw [he]) hs hcheck
    · exact h
  | finishVoice i reference now =>
    simp only [World.step]
    split
    · exact h
    · exact hother finalizeVoiceAction_evolves rfl rfl rfl
  | crash worker =>
    exact h.quiet (Evolves.refl _) le_rfl (.of_subset fun p hp => (List.mem_filter.mp hp).1)
  | land i linkId =>
    simp only [World.step]
    split
    · exact h
    · next s hs => exact h.land hs
  | lose i => exact h.lose i
  | expire linkId =>
    exact h.quiet (Evolves.refl _) (creates_deactivate [linkId]).le (.of_subset fun p hp => hp)
  | cleanup caseId replies revoked now =>
    exact h.quiet (hev not_false) (creates_deactivate revoked).le (.of_subset fun p hp => hp)
  | cancelOthers caseId now => exact hother (hev not_false) rfl rfl rfl
  | audit command now => exact hother (hev not_false) rfl rfl rfl

/-- In a run where no create is sent again while one is on the wire, the provider never has two
links under the reference of an action, however the deliveries interleave. -/
theorem one_link_per_reference (hk : Keys w.db) {a : RecoveryActionRecord}
    (ha : a ∈ w.db.actions)
    (htype : a.actionType = .openCustomerPaymentSurface ∨ a.actionType = .sendToCustomerAgent)
    (hpending : w.pending = []) (hwire : w.wire = [])
    (hlinks : ∀ l ∈ w.links,
      l.reference ≠ standardPaymentLinkReference d.runtime a.idempotencyKey)
    (happroval : ∀ op ∈ ops, ∀ i t, op ≠ .commitApproval i t)
    (hown : ∀ k, ∀ r ∈ (w.after d ops k).db.actions,
      standardPaymentLinkReference d.runtime r.idempotencyKey =
        standardPaymentLinkReference d.runtime a.idempotencyKey → r.id = a.id)
    (htruth : LookupsTruthful d w ops) (halone : ResubmitsAlone d w ops) (k : ℕ)
    (hlength : k ≤ ops.length) :
    ((w.after d ops k).links.map (·.reference)).count
      (standardPaymentLinkReference d.runtime a.idempotencyKey) ≤ 1 := by
  set reference := standardPaymentLinkReference d.runtime a.idempotencyKey
  have hzero : w.creates reference = 0 := creates_eq_zero hlinks (by simp [hwire])
  have hstart : OneCreate a.id reference w :=
    { keys := hk
      claimable := ⟨a, ha, rfl, by rcases htype with h | h <;> rw [h] <;> decide⟩
      unclaimed := fun _ => hzero
      pending := by simp [hpending]
      once := by omega }
  have hall := World.after_induct (d := d) (P := fun _ => OneCreate a.id reference) hstart
    (fun j op hop h => h.step (happroval op (List.mem_of_getElem? hop)) (hown j) ?_ ?_) k hlength
  · exact (Nat.le_add_right _ _).trans hall.once
  · rintro i resubmission now s rfl hs
    exact htruth j i resubmission now s hop hs
  · rintro i resubmission now s action rfl hs hcheck
    exact halone j i resubmission now s action hop hs hcheck

end

/-! ## Two deliveries -/

/-- The link's action is recommended and allowed, and not yet executed. -/
def linkWorld : World :=
  (sampleWorld none).run sampleDeployment
    [sampleRecommend .standardPaymentLink, .commitRecommendation 0]

/-- The first worker's create is lost and the worker dies; the delivery that follows finds nothing
under the reference and creates the link. -/
def redelivered : List Op :=
  [.execute 1 (sampleCommand .standardPaymentLink) false 2000000, .lose 0, .crash 1,
    .execute 2 (sampleCommand .standardPaymentLink) false 3000000,
    .reconcile 0 .absent none 3000000, .land 0 "plink_1"]

lemma redelivered_actions (k : ℕ) :
    ∀ r ∈ (linkWorld.after sampleDeployment redelivered k).db.actions, r.id = "action_1" := by
  rcases Nat.lt_or_ge k 6 with hlt | hge
  · interval_cases k <;> decide +kernel
  · have hend : linkWorld.after sampleDeployment redelivered k =
        linkWorld.run sampleDeployment redelivered := by
      unfold World.after
      rw [List.take_of_length_le hge]
    rw [hend]
    decide +kernel

lemma redelivered_lookup {k i : ℕ} {resubmission : Option PaymentSurfaceResult} {now : Instant}
    (h : redelivered[k]? = some (.reconcile i .absent resubmission now)) : k = 4 := by
  rcases k with _ | _ | _ | _ | _ | _ | k
  all_goals first | rfl | cases h

theorem redelivered_link : ∃ a ∈ linkWorld.db.actions,
    ((linkWorld.after sampleDeployment redelivered 6).links.map (·.reference)).count
      (standardPaymentLinkReference sampleDeployment.runtime a.idempotencyKey) = 1 := by
  have hkeys : Keys linkWorld.db := by
    constructor
    · unfold Table.Keyed
      decide +kernel
    · unfold Table.Keyed
      decide +kernel
  refine ⟨_, List.mem_cons_self, le_antisymm (one_link_per_reference hkeys
    List.mem_cons_self (.inl rfl) rfl rfl (fun l hl => by cases hl) ?_
    (fun k r hr _ => redelivered_actions k r hr) ?_ ?_ 6 le_rfl) (by decide +kernel)⟩
  · simp [redelivered]
  · rintro k i resubmission now s hop -
    obtain rfl := redelivered_lookup hop
    intro l hl
    cases hl
  · rintro k i resubmission now s action hop - -
    obtain rfl := redelivered_lookup hop
    intro t ht
    cases ht

/-- The first worker's create is on its way when a second worker gets the delivery again. -/
def crossedDeliveries : List Op :=
  [.execute 1 (sampleCommand .standardPaymentLink) false 2000000,
    .execute 2 (sampleCommand .standardPaymentLink) false 3000000,
    .reconcile 1 .absent none 3000000, .land 0 "plink_1", .land 0 "plink_2"]

/-- The lookup of the second worker is right, as nothing has taken effect, and its create is the
second of two that do. -/
theorem crossed_deliveries_make_two_links :
    LookupsTruthful sampleDeployment linkWorld crossedDeliveries ∧
    ∃ a ∈ linkWorld.db.actions,
      ((linkWorld.after sampleDeployment crossedDeliveries 5).links.map (·.reference)).count
        (standardPaymentLinkReference sampleDeployment.runtime a.idempotencyKey) = 2 := by
  refine ⟨?_, _, List.mem_cons_self, by decide +kernel⟩
  rintro k i resubmission now s hop -
  obtain rfl : k = 2 := by
    rcases k with _ | _ | _ | _ | _ | k
    all_goals first | rfl | cases hop
  intro l hl
  cases hl

end RecoveryOS.Core
