import RecoveryOS.Core.Grants
import RecoveryOS.Core.World

/-!
# What a cancellation leaves

`cancel_recovery_action` goes over the actions of a case twice: first over the standalone links that
were claimed, with the provider, and then over everything else that is open. A standalone link that
was not claimed yet is in neither pass, so the cancellation is complete exactly if there is none
(`cancellation_complete_iff`).
-/

namespace RecoveryOS.Core

open Store Worker

section
variable {rt : Runtime} {replies : LinkReplies} {caseId : String} {now : Instant}
  {db db' : Database}

/-- The links for which the provider reported `PAYMENT_PRESENT`. -/
def reportedPaid (rt : Runtime) (replies : LinkReplies) (caseId : String) (now : Instant)
    (db : Database) : List String :=
  match rt.provider with
  | .mock => []
  | .razorpay =>
    match (openLinks caseId db).mapM (cleanupLink replies now) with
    | .error _ => []
    | .ok written => (written.filter (·.2)).map (·.1.id)

/-- Nothing of the case is open, its standalone links are cancelled or were reported paid, and no
execution calls a provider for one of its actions. -/
structure CancellationComplete (rt : Runtime) (replies : LinkReplies) (caseId : String)
    (now : Instant) (db db' : Database) : Prop where
  settled : ∀ a ∈ db'.actions, a.caseId = caseId →
    a.status ∉ [ActionStatus.proposed, .awaitingApproval, .scheduled, .executing]
  links : ∀ a ∈ db'.actions, a.caseId = caseId →
    a.paymentSurfaceType = some .standardPaymentLink →
    a.status = .cancelled ∨ a.id ∈ reportedPaid rt replies caseId now db
  noCall : ∀ command inFlight voiceReady later id,
    providerCall rt command inFlight voiceReady later db' = some id →
    ∀ a ∈ db'.actions, a.id = id → a.caseId ≠ caseId

/-- Every standalone link of the case was claimed or cancelled, and none that is still being
executed is recorded and paid. -/
def LinksClaimed (rt : Runtime) (replies : LinkReplies) (caseId : String) (db : Database) : Prop :=
  ∀ a ∈ db.actions, a.caseId = caseId → a.paymentSurfaceType = some .standardPaymentLink →
    (a.status = .executing ∨ a.status = .succeeded ∨ a.status = .cancelled) ∧
    ¬ (rt.provider = .razorpay ∧ a.status = .executing ∧
      ∃ reference, a.externalReference = some reference ∧
        replies.revoke reference = .paymentPresent)

/-! ## The first pass -/

lemma mem_openLinks {a : RecoveryActionRecord} : a ∈ openLinks caseId db ↔
    a ∈ db.actions ∧ a.caseId = caseId ∧ a.paymentSurfaceType = some .standardPaymentLink ∧
      (a.status = .executing ∨ a.status = .succeeded) := by
  simp [openLinks, and_assoc]

/-- What the first pass makes of a link. -/
def Cleaned (rt : Runtime) (replies : LinkReplies) (now : Instant) (a b : RecoveryActionRecord)
    (paid : Bool) : Prop :=
  match rt.provider with
  | .mock => b = cancelled a now ∧ paid = false
  | .razorpay => cleanupLink replies now a = .ok (b, paid)

lemma actions_foldl_putAction (rows : List RecoveryActionRecord) :
    ∀ db : Database, (rows.foldl (fun db a => db.putAction a) db).actions =
      rows.foldl (Table.put (·.id)) db.actions := by
  induction rows with
  | nil => exact fun _ => rfl
  | cons r rows ih => exact fun db => ih (db.putAction r)

lemma keyed_openLinks (hk : Table.Keyed (·.id) db.actions) :
    ((openLinks caseId db).map (·.id)).Nodup := hk.sublist (List.filter_sublist.map _)

/-- Writing back rows that each have the id of a link of the case. -/
lemma mem_writeLinks {rows : List RecoveryActionRecord} (hk : Table.Keyed (·.id) db.actions)
    (hids : rows.map (·.id) = (openLinks caseId db).map (·.id)) {b : RecoveryActionRecord} :
    b ∈ (rows.foldl (fun db a => db.putAction a) db).actions ↔
      b ∈ rows ∨ (b ∈ db.actions ∧ b ∉ openLinks caseId db) := by
  have hnodup : Table.Keyed (·.id) rows := by
    unfold Table.Keyed
    rw [hids]
    exact keyed_openLinks hk
  rw [actions_foldl_putAction, Table.mem_foldl_put hnodup]
  · refine or_congr_right (and_congr_right fun hb => ?_)
    constructor
    · intro hne hlink
      have hin : b.id ∈ rows.map (·.id) := by
        rw [hids]
        exact List.mem_map_of_mem hlink
      obtain ⟨r, hr, he⟩ := List.mem_map.mp hin
      exact hne r hr he.symm
    · intro hlink r hr he
      have hin : r.id ∈ (openLinks caseId db).map (·.id) := by
        rw [← hids]
        exact List.mem_map_of_mem hr
      obtain ⟨a, ha, hid⟩ := List.mem_map.mp hin
      rw [hk.eq hb (mem_openLinks.mp ha).1 (he.trans hid.symm)] at hlink
      exact hlink ha
  · intro r hr
    have hin : r.id ∈ (openLinks caseId db).map (·.id) := by
      rw [← hids]
      exact List.mem_map_of_mem hr
    obtain ⟨a, ha, hid⟩ := List.mem_map.mp hin
    exact ⟨a, (mem_openLinks.mp ha).1, hid⟩

/-- The rows after a first pass that succeeds. -/
theorem mem_cleanup (hk : Table.Keyed (·.id) db.actions) {reason : Option String}
    (h : cleanupStandardPaymentLinks rt replies caseId now db = ((true, reason), db'))
    {b : RecoveryActionRecord} : b ∈ db'.actions ↔
      (∃ a ∈ openLinks caseId db, ∃ paid, Cleaned rt replies now a b paid) ∨
        (b ∈ db.actions ∧ b ∉ openLinks caseId db) := by
  unfold cleanupStandardPaymentLinks at h
  split at h
  · next hnone =>
    obtain ⟨-, rfl⟩ := Prod.mk.inj h
    simp [hnone]
  · split at h
    · next hmock =>
      obtain ⟨-, rfl⟩ := Prod.mk.inj h
      rw [mem_writeLinks hk (by rw [List.map_map]; rfl)]
      simp [Cleaned, hmock, eq_comm]
    · next hrazorpay =>
      split at h
      · cases h
      · next written hwritten =>
        obtain ⟨-, rfl⟩ := Prod.mk.inj h
        have hids : written.map (fun w => w.1.id) = (openLinks caseId db).map (·.id) :=
          Collected.map_eq (fun a w h => (cleanupLink_move h).id) hwritten
        rw [mem_writeLinks hk (by rw [List.map_map]; exact hids)]
        refine or_congr_left ?_
        simp only [Cleaned, hrazorpay, List.mem_map]
        constructor
        · rintro ⟨w, hw, rfl⟩
          obtain ⟨a, ha, hclean⟩ := Collected.exists_of_mem hwritten w hw
          exact ⟨a, ha, w.2, hclean⟩
        · rintro ⟨a, ha, paid, hclean⟩
          obtain ⟨w, hw, hclean'⟩ := Collected.exists_of_mem_left hwritten a ha
          obtain rfl : w = (b, paid) := Except.ok.inj (hclean'.symm.trans hclean)
          exact ⟨_, hw, rfl⟩

/-- Where the first pass leaves a link: cancelled, or paid and then done, unless it was recorded
before and is as it was. -/
lemma Cleaned.status {a b : RecoveryActionRecord} {paid : Bool}
    (h : Cleaned rt replies now a b paid) :
    b.status = .cancelled ∨ rt.provider = .razorpay ∧ paid = true ∧ (b.status = .succeeded ∨
      b = a ∧ ∃ reference, a.externalReference = some reference ∧
        replies.revoke reference = .paymentPresent) := by
  unfold Cleaned at h
  split at h
  · obtain ⟨rfl, -⟩ := h
    exact .inl rfl
  · next hrazorpay =>
    unfold cleanupLink locate at h
    simp only [bind, Except.bind] at h
    cases href : a.externalReference with
    | some reference =>
      simp only [href] at h
      split at h
      · cases h
      · next hpaid =>
        obtain ⟨rfl, rfl⟩ := Prod.mk.inj (Except.ok.inj h)
        exact .inr ⟨hrazorpay, rfl, .inr ⟨rfl, reference, rfl, hpaid⟩⟩
      · cases h
      all_goals
        obtain ⟨rfl, -⟩ := Prod.mk.inj (Except.ok.inj h)
        exact .inl rfl
    | none =>
      simp only [href] at h
      cases hlookup : replies.lookup a with
      | raised => simp [hlookup] at h
      | absent =>
        simp only [hlookup] at h
        obtain ⟨rfl, -⟩ := Prod.mk.inj (Except.ok.inj h)
        exact .inl rfl
      | found result =>
        simp only [hlookup] at h
        split at h
        · cases h
        · obtain ⟨rfl, rfl⟩ := Prod.mk.inj (Except.ok.inj h)
          exact .inr ⟨hrazorpay, rfl, .inl rfl⟩
        · cases h
        all_goals
          obtain ⟨rfl, -⟩ := Prod.mk.inj (Except.ok.inj h)
          exact .inl rfl

/-- A link that is recorded and paid stays as it is. -/
lemma cleaned_of_paid {a : RecoveryActionRecord} {reference : String}
    (hrazorpay : rt.provider = .razorpay) (href : a.externalReference = some reference)
    (hpaid : replies.revoke reference = .paymentPresent) : Cleaned rt replies now a a true := by
  simp [Cleaned, hrazorpay, cleanupLink, locate, href, hpaid, bind, Except.bind]

/-- What was reported paid is among the reports. -/
lemma mem_reportedPaid {a b : RecoveryActionRecord} {reason : Option String}
    (h : cleanupStandardPaymentLinks rt replies caseId now db = ((true, reason), db'))
    (ha : a ∈ openLinks caseId db) (hrazorpay : rt.provider = .razorpay)
    (hclean : Cleaned rt replies now a b true) :
    b.id ∈ reportedPaid rt replies caseId now db := by
  have hclean : cleanupLink replies now a = .ok (b, true) := by
    simpa only [Cleaned, hrazorpay] using hclean
  unfold cleanupStandardPaymentLinks at h
  split at h
  · next hnone => simp [hnone] at ha
  · rw [hrazorpay] at h
    dsimp only at h
    split at h
    · cases h
    · next written hwritten =>
      obtain ⟨w, hw, hclean'⟩ := Collected.exists_of_mem_left hwritten a ha
      obtain rfl : w = (b, true) := Except.ok.inj (hclean'.symm.trans hclean)
      simp only [reportedPaid, hrazorpay, hwritten]
      exact List.mem_map_of_mem (List.mem_filter.mpr ⟨hw, rfl⟩)

/-! ## Both passes -/

lemma mem_cancelOtherActions {b : RecoveryActionRecord} (h : b ∈ (cancelOtherActions caseId now
    db).actions) : b.status = .cancelled ∨ b ∈ db.actions ∧ ¬ (b.caseId = caseId ∧
      b.status ∈ [ActionStatus.proposed, .awaitingApproval, .scheduled, .executing] ∧
      b.paymentSurfaceType ≠ some .standardPaymentLink) := by
  obtain ⟨a, ha, rfl⟩ := List.mem_map.mp h
  split_ifs with hc
  · exact .inl rfl
  · exact .inr ⟨ha, hc⟩

lemma mem_cancelOtherActions_link {b : RecoveryActionRecord} (hb : b ∈ db.actions)
    (hlink : b.paymentSurfaceType = some .standardPaymentLink) :
    b ∈ (cancelOtherActions caseId now db).actions :=
  List.mem_map.mpr ⟨b, hb, if_neg fun h => h.2.2 hlink⟩

/-- A cancellation that succeeds has gone through both passes. -/
lemma passes_of_cancelled {voice : Option VoiceCancellationResult} {command : CancelActionInput}
    {result : CancelActionResult}
    (h : cancelRecoveryAction rt replies voice command now db = (some result, db'))
    (hc : result.cancelled = true) : ∃ reason cleaned,
      cleanupStandardPaymentLinks rt replies command.caseId now db = ((true, reason), cleaned) ∧
      db' = cancelOtherActions command.caseId now cleaned := by
  unfold cancelRecoveryAction at h
  cases hclean : cleanupStandardPaymentLinks rt replies command.caseId now db with
  | mk cleanup cleaned =>
    have hok : ∀ voiceReason anyAction,
        (cancellationAnswer cleanup voiceReason anyAction).cancelled = true → cleanup.1 = true := by
      intro voiceReason anyAction ha
      by_contra hfirst
      simp [cancellationAnswer, hfirst] at ha
    obtain ⟨ok, reason⟩ := cleanup
    have hdone : ok = true ∧ db' = cancelOtherActions command.caseId now cleaned := by
      rw [hclean] at h
      dsimp only at h
      split_ifs at h
      · split at h
        · cases h
        · split_ifs at h
          · obtain ⟨hr, rfl⟩ := Prod.mk.inj h
            obtain rfl := Option.some.inj hr
            cases hc
          · obtain ⟨hr, rfl⟩ := Prod.mk.inj h
            obtain rfl := Option.some.inj hr
            exact ⟨hok _ _ hc, rfl⟩
      · obtain ⟨hr, rfl⟩ := Prod.mk.inj h
        obtain rfl := Option.some.inj hr
        exact ⟨hok _ _ hc, rfl⟩
    exact ⟨reason, cleaned, by rw [hdone.1], hdone.2⟩

lemma keyed_cancelOtherActions (hk : Table.Keyed (·.id) db.actions) :
    Table.Keyed (·.id) (cancelOtherActions caseId now db).actions :=
  cancelOtherActions_evolves.keyedActions hk

section
variable {cleaned : Database} {reason : Option String}

/-- What is left of the links, where all of them were claimed. -/
lemma link_after_passes (hk : Table.Keyed (·.id) db.actions)
    (h : cleanupStandardPaymentLinks rt replies caseId now db = ((true, reason), cleaned))
    (hclaimed : LinksClaimed rt replies caseId db) {b : RecoveryActionRecord}
    (hb : b ∈ cleaned.actions) (hcase : b.caseId = caseId)
    (hlink : b.paymentSurfaceType = some .standardPaymentLink) :
    b.status = .cancelled ∨
      b.status = .succeeded ∧ b.id ∈ reportedPaid rt replies caseId now db := by
  rcases (mem_cleanup hk h).mp hb with ⟨a, ha, paid, hclean⟩ | ⟨hmem, hnot⟩
  · rcases hclean.status with hs | ⟨hrazorpay, rfl, hs⟩
    · exact .inl hs
    · refine .inr ⟨?_, mem_reportedPaid h ha hrazorpay hclean⟩
      rcases hs with hs | ⟨rfl, hpaid⟩
      · exact hs
      · obtain ⟨hmem, -, -, hst⟩ := mem_openLinks.mp ha
        refine hst.resolve_left fun hexec => ?_
        exact (hclaimed b hmem hcase hlink).2 ⟨hrazorpay, hexec, hpaid⟩
  · rcases (hclaimed b hmem hcase hlink).1 with hs | hs | hs
    · exact absurd (mem_openLinks.mpr ⟨hmem, hcase, hlink, .inl hs⟩) hnot
    · exact absurd (mem_openLinks.mpr ⟨hmem, hcase, hlink, .inr hs⟩) hnot
    · exact .inl hs

lemma complete_of_claimed (hk : Table.Keyed (·.id) db.actions)
    (h : cleanupStandardPaymentLinks rt replies caseId now db = ((true, reason), cleaned))
    (hclaimed : LinksClaimed rt replies caseId db) :
    CancellationComplete rt replies caseId now db (cancelOtherActions caseId now cleaned) := by
  have hsettled : ∀ a ∈ (cancelOtherActions caseId now cleaned).actions, a.caseId = caseId →
      a.status ∉ [ActionStatus.proposed, .awaitingApproval, .scheduled, .executing] := by
    intro a ha hcase hopen
    rcases mem_cancelOtherActions ha with hs | ⟨hmem, hnot⟩
    · simp [hs] at hopen
    · have hlink : a.paymentSurfaceType = some .standardPaymentLink := by
        by_contra hne
        exact hnot ⟨hcase, hopen, hne⟩
      rcases link_after_passes hk h hclaimed hmem hcase hlink with hs | ⟨hs, -⟩ <;>
        simp [hs] at hopen
  refine ⟨hsettled, fun a ha hcase hlink => ?_, fun command inFlight ready later id hcall a ha
    hid hcase => ?_⟩
  · rcases mem_cancelOtherActions ha with hs | ⟨hmem, -⟩
    · exact .inl hs
    · exact (link_after_passes hk h hclaimed hmem hcase hlink).imp_right (·.2)
  · obtain ⟨b, hb, hbid, hl⟩ := providerCall_live hcall
    have hcleaned : Table.Keyed (·.id) cleaned.actions := by
      have hevolves : Evolves db (cleanupStandardPaymentLinks rt replies caseId now db).2 :=
        cleanupStandardPaymentLinks_evolves hk
      rw [h] at hevolves
      exact hevolves.keyedActions hk
    obtain rfl := (keyed_cancelOtherActions hcleaned).eq ha hb (hid.trans hbid.symm)
    refine hsettled a ha hcase ?_
    rcases hl with hs | hs | hs <;> simp [hs]

/-- A link that was not claimed is left as it is, and so is one that is recorded and paid. -/
lemma claimed_of_complete (hk : Table.Keyed (·.id) db.actions)
    (h : cleanupStandardPaymentLinks rt replies caseId now db = ((true, reason), cleaned))
    (hdone : CancellationComplete rt replies caseId now db
      (cancelOtherActions caseId now cleaned)) : LinksClaimed rt replies caseId db := by
  intro a ha hcase hlink
  constructor
  · by_contra hnot
    have hkept : a ∈ (cancelOtherActions caseId now cleaned).actions := by
      refine mem_cancelOtherActions_link ((mem_cleanup hk h).mpr (.inr ⟨ha, fun hopen => ?_⟩)) hlink
      rcases (mem_openLinks.mp hopen).2.2.2 with hs | hs
      · exact hnot (.inl hs)
      · exact hnot (.inr (.inl hs))
    have hsettled := hdone.settled a hkept hcase
    have hreported : a.id ∉ reportedPaid rt replies caseId now db := by
      intro hin
      simp only [reportedPaid] at hin
      split at hin
      · cases hin
      · split at hin
        · cases hin
        · next written hwritten =>
          -- a report is about a claimed link, and the ids are those of the rows
          obtain ⟨w, hw, hid⟩ := List.mem_map.mp hin
          obtain ⟨c, hc, hclean⟩ := Collected.exists_of_mem hwritten w (List.mem_filter.mp hw).1
          obtain ⟨hcmem, -, -, hst⟩ := mem_openLinks.mp hc
          obtain rfl := hk.eq ha hcmem (hid.symm.trans (cleanupLink_move hclean).id)
          rcases hst with hs | hs
          · exact hnot (.inl hs)
          · exact hnot (.inr (.inl hs))
    have hcancelled := (hdone.links a hkept hcase hlink).resolve_right hreported
    exact hnot (.inr (.inr hcancelled))
  · rintro ⟨hrazorpay, hexec, reference, href, hpaid⟩
    have hopen : a ∈ openLinks caseId db := mem_openLinks.mpr ⟨ha, hcase, hlink, .inl hexec⟩
    have hkept : a ∈ (cancelOtherActions caseId now cleaned).actions :=
      mem_cancelOtherActions_link ((mem_cleanup hk h).mpr
        (.inl ⟨a, hopen, true, cleaned_of_paid hrazorpay href hpaid⟩)) hlink
    exact hdone.settled a hkept hcase (by simp [hexec])

end

/-- A cancellation that succeeds is complete exactly if every standalone link of the case was
claimed or cancelled before it, and none that is being executed is recorded and paid. -/
theorem cancellation_complete_iff (hk : Table.Keyed (·.id) db.actions)
    {voice : Option VoiceCancellationResult} {command : CancelActionInput}
    {result : CancelActionResult}
    (h : cancelRecoveryAction rt replies voice command now db = (some result, db'))
    (hc : result.cancelled = true) :
    CancellationComplete rt replies command.caseId now db db' ↔
      LinksClaimed rt replies command.caseId db := by
  obtain ⟨reason, cleaned, hclean, rfl⟩ := passes_of_cancelled h hc
  exact ⟨claimed_of_complete hk hclean, complete_of_claimed hk hclean⟩

end

/-- The sample case with one standalone link. -/
def withLink (status : ActionStatus) : Database :=
  { sampleDatabase none with
    actions := [
      { id := "action_1"
        caseId := "case_1"
        actionType := .openCustomerPaymentSurface
        paymentSurfaceType := some .standardPaymentLink
        status
        idempotencyKey := "case:case_1:action:OPEN_CUSTOMER_PAYMENT_SURFACE"
        scheduledFor := none
        externalReference := none
        customerUrl := none
        completedAt := none
        createdAt := 1000000 }] }

/-- The provider has no link. -/
def noLinks : LinkReplies := ⟨fun _ => .absent, fun _ => .raised⟩

/-- The case is cancelled because the customer disputes the charge. -/
def cancelledWith (status : ActionStatus) : Option CancelActionResult × Database :=
  cancelRecoveryAction sampleDeployment.runtime noLinks none
    { caseId := "case_1"
      providerReference := none
      reason := "CUSTOMER_DISPUTE"
      idempotencyKey := "case_1:cancel:action-1" } 2000000 (withLink status)

theorem executing_link_cancelled :
    CancellationComplete sampleDeployment.runtime noLinks "case_1" 2000000 (withLink .executing)
      (cancelledWith .executing).2 ∧
    (cancelledWith .executing).2.actions.map (·.status) = [.cancelled] := by
  have hk : Table.Keyed (·.id) (withLink .executing).actions := List.nodup_singleton _
  have hrevoked : cancelledWith .executing =
      (some { cancelled := true, reasonCode := some "PAYMENT_LINK_REVOKED" },
        (cancelledWith .executing).2) := rfl
  refine ⟨(cancellation_complete_iff hk hrevoked rfl).mpr ?_, rfl⟩
  intro a ha _ _
  obtain rfl := List.mem_singleton.mp ha
  exact ⟨.inl rfl, by simp⟩

/-- A link that is scheduled survives the cancellation, and is opened by a later delivery. -/
theorem scheduled_link_survives :
    (∃ result, (cancelledWith .scheduled).1 = some result ∧ result.cancelled = true) ∧
    ¬ CancellationComplete sampleDeployment.runtime noLinks "case_1" 2000000
      (withLink .scheduled) (cancelledWith .scheduled).2 := by
  refine ⟨⟨_, rfl, rfl⟩, fun h => ?_⟩
  exact h.settled _ (List.mem_singleton_self _) rfl (by decide)

end RecoveryOS.Core
