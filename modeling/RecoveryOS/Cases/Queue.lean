import RecoveryOS.Cases.Listing

/-!
# The approval queue

`get_approval_queue` of `api/router.py` goes through the first hundred cases of a merchant and shows
the latest action of each, if it awaits approval, with the latest policy decision of the case.
`review_and_block_counts` counts all actions that await approval. The two agree if each such action
is the latest of its case, the case is among the hundred, and the latest decision of the case reads
as one that was made for that action (`queue_sound_iff`).

Of an item, the names of the customer and of the plan and the evidence of its events are left out.
-/

namespace RecoveryOS.Cases

open Store

/-- The latest policy decision, as `get_case_aggregate` reads it. -/
def latestPolicyOf (caseId : String) (db : Database) : Option PolicyDecisionRecord :=
  Table.first
    (fun a b => decide (b.createdAt < a.createdAt) ||
      decide (a.createdAt = b.createdAt) && decide (b.id ≤ a.id))
    (db.policies.filter fun p => p.caseId = caseId)

/-- `ApprovalQueueItemResponse`. -/
structure ApprovalQueueItem where
  caseId : String
  actionId : String
  amountAtRiskPaise : ℤ
  recommendedAction : RecoveryActionType
  paymentSurfaceType : Option PaymentSurfaceType
  policyReason : String
  deadline : Instant

/-- The text that an item shows of a decision. -/
def policyReason (policy : PolicyDecisionRecord) : String :=
  policy.reasons.headD "Merchant policy requires an operator decision."

/-- What the queue shows of a case. -/
def queueItem (recoveryCase : RecoveryCase) (action : Option RecoveryActionRecord)
    (policy : Option PolicyDecisionRecord) : Option ApprovalQueueItem := do
  let action ← action
  let policy ← policy
  if action.status ≠ .awaitingApproval then none
  else
    some
      { caseId := recoveryCase.id
        actionId := action.id
        amountAtRiskPaise := recoveryCase.amountAtRiskPaise
        recommendedAction := action.actionType
        paymentSurfaceType := action.paymentSurfaceType
        policyReason := policyReason policy
        deadline := recoveryCase.recoveryDeadline }

/-- The loop of `get_approval_queue`. -/
def queueItems (merchantId : String) : List RecoveryCase → Work (List ApprovalQueueItem)
  | [] => pure []
  | recoveryCase :: rest => do
    let aggregate ← getCaseAggregate merchantId recoveryCase.id
    let policy ← Tx.query (latestPolicyOf recoveryCase.id)
    let items ← queueItems merchantId rest
    pure ((queueItem recoveryCase aggregate.latestAction policy).toList ++ items)

/-- `get_approval_queue`; without a cursor `list_cases` raises nothing. -/
def getApprovalQueue (merchantId : String) : Work (List ApprovalQueueItem) := do
  let page ← Tx.query (queryCases merchantId {} none 100)
  queueItems merchantId page.items

/-- `review_and_block_counts`: each action and each decision is joined with its case. -/
def reviewAndBlockCounts (merchantId : String) (db : Database) : ℕ × ℕ :=
  ((db.actions.flatMap fun a => db.cases.filter fun c =>
      c.id = a.caseId ∧ c.merchantId = merchantId ∧ a.status = .awaitingApproval).length,
    (db.policies.flatMap fun p => db.cases.filter fun c =>
      c.id = p.caseId ∧ c.merchantId = merchantId ∧ p.disposition = .block).length)

/-- The keys of the tables that the queue reads, and the references of a case. -/
structure Intact (db : Database) : Prop where
  cases : Table.Keyed RecoveryCase.id db.cases
  actions : Table.Keyed RecoveryActionRecord.id db.actions
  customer : ∀ c ∈ db.cases, ∃ customer ∈ db.customers, customer.id = c.customerId
  subscription : ∀ c ∈ db.cases, ∃ s ∈ db.subscriptions, s.id = c.subscriptionId

section
variable {db : Database} {merchantId : String}

/-- The actions of the merchant that await approval. -/
def awaiting (merchantId : String) (db : Database) : List RecoveryActionRecord :=
  db.actions.filter fun a => decide (a.status = .awaitingApproval) &&
    db.cases.any fun c => c.id = a.caseId ∧ c.merchantId = merchantId

lemma mem_awaiting {a : RecoveryActionRecord} : a ∈ awaiting merchantId db ↔
    a ∈ db.actions ∧ a.status = .awaitingApproval ∧
      ∃ c ∈ db.cases, c.id = a.caseId ∧ c.merchantId = merchantId := by
  simp [awaiting]

/-- An action is counted once, as its case is there once. -/
lemma reviewCount_eq (h : Table.Keyed RecoveryCase.id db.cases) :
    (reviewAndBlockCounts merchantId db).1 = (awaiting merchantId db).length := by
  simp only [reviewAndBlockCounts, awaiting]
  induction db.actions with
  | nil => rfl
  | cons a actions ih =>
    rw [List.flatMap_cons, List.length_append, ih, List.filter_cons]
    split_ifs with ha
    · simp only [Bool.and_eq_true, decide_eq_true_eq, List.any_eq_true] at ha
      obtain ⟨hstatus, c, hc, hid, hm⟩ := ha
      have hone : (db.cases.filter fun c => c.id = a.caseId ∧ c.merchantId = merchantId ∧
          a.status = .awaitingApproval).length = 1 := by
        have hle := h.countP_le_one (p := fun c => decide (c.id = a.caseId ∧
          c.merchantId = merchantId ∧ a.status = .awaitingApproval)) (k := a.caseId)
          fun x _ hx => (of_decide_eq_true hx).1
        have hmem : c ∈ db.cases.filter fun c => c.id = a.caseId ∧ c.merchantId = merchantId ∧
            a.status = .awaitingApproval :=
          List.mem_filter.mpr ⟨hc, decide_eq_true ⟨hid, hm, hstatus⟩⟩
        have hpos := List.length_pos_of_mem hmem
        rw [List.countP_eq_length_filter] at hle
        omega
      rw [hone, List.length_cons]
      omega
    · have hnone : (db.cases.filter fun c => c.id = a.caseId ∧ c.merchantId = merchantId ∧
          a.status = .awaitingApproval) = [] := by
        rw [List.filter_eq_nil_iff]
        intro c hc hcond
        refine ha ?_
        obtain ⟨hid, hm, hstatus⟩ := of_decide_eq_true hcond
        simp only [Bool.and_eq_true, decide_eq_true_eq, List.any_eq_true]
        exact ⟨hstatus, c, hc, hid, hm⟩
      rw [hnone, List.length_nil, Nat.zero_add]

/-! ## What the queue shows -/

lemma getCaseAggregate_run (h : Intact db) {c : RecoveryCase} (hc : c ∈ db.cases)
    (hm : c.merchantId = merchantId) : ∃ aggregate,
      getCaseAggregate merchantId c.id db = .ok (aggregate, db) ∧
        aggregate.latestAction = latestActionOf c.id db := by
  have hcase : getCase merchantId c.id db = some c := by
    cases hf : getCase merchantId c.id db with
    | none => exact absurd (List.find?_eq_none.mp hf c hc) (by simp [hm])
    | some d =>
      have hid : d.id = c.id := by
        have hd := List.find?_some hf
        simp only [decide_eq_true_eq] at hd
        exact hd.1
      rw [h.cases.eq (List.mem_of_find?_eq_some hf) hc hid]
  obtain ⟨customer, hcustomer⟩ :
      ∃ x, (db.customers.find? fun x => x.id = c.customerId) = some x := by
    obtain ⟨x, hx, hid⟩ := h.customer c hc
    exact Option.isSome_iff_exists.mp (List.find?_isSome.mpr ⟨x, hx, decide_eq_true hid⟩)
  obtain ⟨subscription, hsubscription⟩ :
      ∃ x, (db.subscriptions.find? fun x => x.id = c.subscriptionId) = some x := by
    obtain ⟨x, hx, hid⟩ := h.subscription c hc
    exact Option.isSome_iff_exists.mp (List.find?_isSome.mpr ⟨x, hx, decide_eq_true hid⟩)
  refine ⟨⟨c, customer, subscription, (truthy c.failedInvoiceId).bind fun id =>
    db.invoices.find? fun i => i.id = id, latestActionOf c.id db⟩, ?_, rfl⟩
  unfold getCaseAggregate
  rw [Tx.run_query, Tx.run_expect hcase, Tx.run_query, Tx.run_expect hcustomer, Tx.run_query,
    Tx.run_expect hsubscription]
  rfl

/-- The item of a case in a database. -/
def itemOf (db : Database) (c : RecoveryCase) : Option ApprovalQueueItem :=
  queueItem c (latestActionOf c.id db) (latestPolicyOf c.id db)

lemma queueItems_run (h : Intact db) : ∀ {cases : List RecoveryCase},
    (∀ c ∈ cases, c ∈ db.cases ∧ c.merchantId = merchantId) →
      queueItems merchantId cases db = .ok (cases.filterMap (itemOf db), db)
  | [], _ => rfl
  | c :: cases, hcases => by
    obtain ⟨hc, hm⟩ := hcases c List.mem_cons_self
    obtain ⟨aggregate, hrun, haction⟩ := getCaseAggregate_run h hc hm
    have ih := queueItems_run h fun c hc => hcases c (List.mem_cons_of_mem _ hc)
    have hlist : (itemOf db c).toList ++ cases.filterMap (itemOf db)
        = (c :: cases).filterMap (itemOf db) := by
      rw [List.filterMap_cons]
      cases itemOf db c <;> rfl
    rw [queueItems, Tx.run_bind hrun, Tx.run_query, Tx.run_bind ih, haction, ← hlist]
    rfl

/-- The first hundred cases of the merchant. -/
def firstCases (merchantId : String) (db : Database) : List RecoveryCase :=
  (listed merchantId {} db).take 100

lemma queryCases_items {limit : ℕ} :
    (queryCases merchantId {} none limit db).items = (listed merchantId {} db).take limit := by
  simp [queryCases, listed, List.take_take]

lemma admits_iff {c : RecoveryCase} :
    ({} : CaseFilters).admits merchantId c = true ↔ c.merchantId = merchantId := by
  simp [CaseFilters.admits]

lemma mem_firstCases {c : RecoveryCase} (hc : c ∈ firstCases merchantId db) :
    c ∈ db.cases ∧ c.merchantId = merchantId := by
  have hin := Keyset.mem_descending.mp (List.mem_of_mem_take hc)
  rw [List.mem_filter, admits_iff] at hin
  exact hin

variable (merchantId) in
/-- The queue is made of the items of the first cases. -/
lemma getApprovalQueue_run (h : Intact db) : getApprovalQueue merchantId db =
    .ok ((firstCases merchantId db).filterMap (itemOf db), db) := by
  rw [getApprovalQueue, Tx.run_query, queryCases_items]
  exact queueItems_run h fun c hc => mem_firstCases hc

/-- An item is of the latest action of its case. -/
lemma itemOf_eq_some {c : RecoveryCase} {item : ApprovalQueueItem} :
    itemOf db c = some item → ∃ a p, latestActionOf c.id db = some a ∧
      latestPolicyOf c.id db = some p ∧ a.status = .awaitingApproval ∧ item.caseId = c.id ∧
      item.actionId = a.id ∧ item.policyReason = policyReason p := by
  intro hitem
  unfold itemOf queueItem at hitem
  cases ha : latestActionOf c.id db with
  | none => simp [ha] at hitem
  | some a =>
    cases hp : latestPolicyOf c.id db with
    | none => simp [ha, hp] at hitem
    | some p =>
      simp only [ha, hp, Option.bind_eq_bind, Option.bind_some] at hitem
      split_ifs at hitem with hstatus
      obtain rfl := Option.some.inj hitem
      exact ⟨a, p, rfl, rfl, not_not.mp hstatus, rfl, rfl, rfl⟩

lemma exists_itemOf {c : RecoveryCase} {a : RecoveryActionRecord} {p : PolicyDecisionRecord}
    (ha : latestActionOf c.id db = some a) (hp : latestPolicyOf c.id db = some p)
    (hstatus : a.status = .awaitingApproval) : ∃ item, itemOf db c = some item ∧
      item.caseId = c.id ∧ item.actionId = a.id ∧ item.policyReason = policyReason p := by
  simp [itemOf, queueItem, ha, hp, hstatus]

/-- The queue shows every action of the merchant that awaits approval, once and with its case, and
no other. Its length is the count of the dashboard, and an item shows a decision on its action. -/
def QueueSound (merchantId : String) (db : Database) : Prop :=
  ∃ items, getApprovalQueue merchantId db = .ok (items, db) ∧
    (items.map fun item => (item.caseId, item.actionId)).Perm
      ((awaiting merchantId db).map fun a => (a.caseId, a.id)) ∧
    items.length = (reviewAndBlockCounts merchantId db).1 ∧
    ∀ item ∈ items, ∃ p ∈ db.policies, p.actionId = some item.actionId ∧
      item.policyReason = policyReason p

/-- Fewer than a hundred cases of the merchant come before the case of the action, the action is the
latest of its case, and the latest decision of the case reads as one on the action. -/
structure Queued (merchantId : String) (db : Database) (a : RecoveryActionRecord) : Prop where
  first : ∀ c ∈ db.cases, c.id = a.caseId →
    (db.cases.filter fun d => d.merchantId = merchantId ∧ place c < place d).length < 100
  latest : latestActionOf a.caseId db = some a
  decided : ∃ p q, latestPolicyOf a.caseId db = some p ∧ q ∈ db.policies ∧
    q.actionId = some a.id ∧ policyReason p = policyReason q

lemma latestActionOf_mem {caseId : String} {a : RecoveryActionRecord}
    (h : latestActionOf caseId db = some a) : a ∈ db.actions ∧ a.caseId = caseId := by
  have hin := List.mem_filter.mp (Table.mem_of_first h)
  exact ⟨hin.1, of_decide_eq_true hin.2⟩

/-- The place of a case among the cases of its merchant. -/
lemma mem_firstCases_iff (h : Table.Keyed RecoveryCase.id db.cases) {c : RecoveryCase}
    (hc : c ∈ db.cases) (hm : c.merchantId = merchantId) : c ∈ firstCases merchantId db ↔
      (db.cases.filter fun d => d.merchantId = merchantId ∧ place c < place d).length < 100 := by
  have hkeys : ((db.cases.filter (({} : CaseFilters).admits merchantId)).map place).Nodup :=
    (nodup_place h).sublist (List.filter_sublist.map place)
  have hin : c ∈ db.cases.filter (({} : CaseFilters).admits merchantId) :=
    List.mem_filter.mpr ⟨hc, admits_iff.mpr hm⟩
  have hfilter : ((db.cases.filter (({} : CaseFilters).admits merchantId)).filter
      fun d => place c < place d)
      = db.cases.filter fun d => d.merchantId = merchantId ∧ place c < place d := by
    rw [List.filter_filter]
    refine List.filter_congr fun d _ => ?_
    rw [Bool.eq_iff_iff]
    simp [admits_iff, and_comm]
  rw [firstCases, listed, Keyset.mem_take_descending hkeys hin, hfilter]

variable (merchantId) in
/-- The items are of different cases. -/
lemma nodup_items (h : Table.Keyed RecoveryCase.id db.cases) :
    (((firstCases merchantId db).filterMap (itemOf db)).map fun item =>
      (item.caseId, item.actionId)).Nodup := by
  have hcases : ((firstCases merchantId db).map RecoveryCase.id).Nodup := by
    have hlisted : ((listed merchantId {} db).map RecoveryCase.id).Nodup := by
      rw [listed, (Keyset.perm_descending.map RecoveryCase.id).nodup_iff]
      exact h.sublist (List.filter_sublist.map _)
    exact hlisted.sublist ((List.take_sublist _ _).map _)
  have hsub : (((firstCases merchantId db).filterMap (itemOf db)).map (·.caseId)).Sublist
      ((firstCases merchantId db).map RecoveryCase.id) := by
    induction firstCases merchantId db with
    | nil => exact .slnil
    | cons c cases ih =>
      rw [List.filterMap_cons]
      cases hitem : itemOf db c with
      | none => exact ih.cons _
      | some item =>
        obtain ⟨a, p, -, -, -, hid, -⟩ := itemOf_eq_some hitem
        rw [List.map_cons, List.map_cons, hid]
        exact ih.cons_cons _
  refine List.Nodup.of_map Prod.fst ?_
  rw [List.map_map]
  exact hcases.sublist hsub

variable (merchantId) in
lemma nodup_awaiting (h : Table.Keyed RecoveryActionRecord.id db.actions) :
    ((awaiting merchantId db).map fun a => (a.caseId, a.id)).Nodup := by
  refine List.Nodup.of_map Prod.snd ?_
  rw [List.map_map]
  exact h.sublist (List.filter_sublist.map _)

/-- Whatever the queue shows awaits approval. -/
lemma item_awaiting {c : RecoveryCase} {a : RecoveryActionRecord}
    (hc : c ∈ firstCases merchantId db) (ha : latestActionOf c.id db = some a)
    (hstatus : a.status = .awaitingApproval) : a ∈ awaiting merchantId db ∧ a.caseId = c.id := by
  obtain ⟨hmem, hcase⟩ := latestActionOf_mem ha
  obtain ⟨hdb, hm⟩ := mem_firstCases hc
  exact ⟨mem_awaiting.mpr ⟨hmem, hstatus, c, hdb, hcase.symm, hm⟩, hcase⟩

/-- An action that the queue shows is the latest of a case that is among the first. -/
lemma queued_of_item (h : Intact db) {a : RecoveryActionRecord} (ha : a ∈ awaiting merchantId db)
    {c : RecoveryCase} {item : ApprovalQueueItem} (hc : c ∈ firstCases merchantId db)
    (hitem : itemOf db c = some item) (hcase : item.caseId = a.caseId) (hid : item.actionId = a.id)
    (hreason : ∃ q ∈ db.policies, q.actionId = some item.actionId ∧
      item.policyReason = policyReason q) : Queued merchantId db a := by
  obtain ⟨b, p, hb, hp, hstatus, hitemCase, hitemId, hitemReason⟩ := itemOf_eq_some hitem
  obtain ⟨hmem, -⟩ := latestActionOf_mem hb
  obtain rfl : b = a :=
    h.actions.eq hmem (mem_awaiting.mp ha).1 (hitemId.symm.trans hid)
  have hca : c.id = b.caseId := hitemCase.symm.trans hcase
  obtain ⟨hdb, hm⟩ := mem_firstCases hc
  obtain ⟨q, hq, hqa, hqr⟩ := hreason
  refine ⟨fun d hd hdid => ?_, hca ▸ hb, p, q, hca ▸ hp, hq, hid ▸ hqa, ?_⟩
  · obtain rfl : d = c := h.cases.eq hd hdb (hdid.trans hca.symm)
    exact (mem_firstCases_iff h.cases hdb hm).mp hc
  · rw [← hitemReason, hqr]

/-- An action that is queued is shown. -/
lemma item_of_queued (h : Intact db) {a : RecoveryActionRecord} (ha : a ∈ awaiting merchantId db)
    (hq : Queued merchantId db a) : ∃ c ∈ firstCases merchantId db, ∃ item,
      itemOf db c = some item ∧ item.caseId = a.caseId ∧ item.actionId = a.id := by
  obtain ⟨-, hstatus, c, hc, hid, hm⟩ := mem_awaiting.mp ha
  obtain ⟨p, q, hp, -⟩ := hq.decided
  have hlatest := hq.latest
  rw [← hid] at hp hlatest
  obtain ⟨item, hitem, hcase, hact, -⟩ := exists_itemOf hlatest hp hstatus
  exact ⟨c, (mem_firstCases_iff h.cases hc hm).mpr (hq.first c hc hid), item, hitem,
    hcase.trans hid, hact⟩

/-- The queue and the count of the dashboard agree exactly if all actions that await approval are
queued. -/
theorem queue_sound_iff (db : Database) (h : Intact db) (merchantId : String) :
    QueueSound merchantId db ↔ ∀ a ∈ awaiting merchantId db, Queued merchantId db a := by
  have hitems := nodup_items merchantId h.cases
  have hawaiting := nodup_awaiting merchantId h.actions
  have hrun := getApprovalQueue_run merchantId h
  constructor
  · rintro ⟨items, hqueue, hperm, -, hreason⟩ a ha
    obtain rfl : (firstCases merchantId db).filterMap (itemOf db) = items := by
      rw [hrun] at hqueue
      exact (Prod.mk.inj (Except.ok.inj hqueue)).1
    have hin := hperm.symm.subset (List.mem_map_of_mem ha)
    obtain ⟨item, hitem, heq⟩ := List.mem_map.mp hin
    obtain ⟨hcase, hid⟩ := Prod.mk.inj heq
    obtain ⟨c, hc, hof⟩ := List.mem_filterMap.mp hitem
    exact queued_of_item h ha hc hof hcase hid (hreason item hitem)
  · intro hall
    have hperm : (((firstCases merchantId db).filterMap (itemOf db)).map fun item =>
        (item.caseId, item.actionId)).Perm
        ((awaiting merchantId db).map fun a => (a.caseId, a.id)) := by
      rw [List.perm_ext_iff_of_nodup hitems hawaiting]
      intro pair
      constructor
      · intro hpair
        obtain ⟨item, hitem, rfl⟩ := List.mem_map.mp hpair
        obtain ⟨c, hc, hof⟩ := List.mem_filterMap.mp hitem
        obtain ⟨a, p, hlatest, -, hstatus, hcase, hid, -⟩ := itemOf_eq_some hof
        obtain ⟨ha, hac⟩ := item_awaiting hc hlatest hstatus
        exact List.mem_map.mpr ⟨a, ha, by rw [hac, hcase, hid]⟩
      · intro hpair
        obtain ⟨a, ha, rfl⟩ := List.mem_map.mp hpair
        obtain ⟨c, hc, item, hof, hcase, hid⟩ := item_of_queued h ha (hall a ha)
        exact List.mem_map.mpr ⟨item, List.mem_filterMap.mpr ⟨c, hc, hof⟩, by rw [hcase, hid]⟩
    refine ⟨_, hrun, hperm, ?_, ?_⟩
    · rw [reviewCount_eq h.cases, ← List.length_map, hperm.length_eq, List.length_map]
    · intro item hitem
      obtain ⟨c, hc, hof⟩ := List.mem_filterMap.mp hitem
      obtain ⟨a, p, hlatest, hp, hstatus, hcase, hid, hreason⟩ := itemOf_eq_some hof
      obtain ⟨ha, hac⟩ := item_awaiting hc hlatest hstatus
      obtain ⟨p', q, hp', hq, hqa, hqr⟩ := (hall a ha).decided
      rw [hac, hp] at hp'
      obtain rfl := Option.some.inj hp'
      exact ⟨q, hq, hid ▸ hqa, hreason.trans hqr⟩

end

/-- An action that an operator asked for and that needs approval. -/
def waitingAction (id : String) (actionType : RecoveryActionType) (createdAt : Instant) :
    RecoveryActionRecord where
  id := id
  caseId := "case_1"
  actionType := actionType
  paymentSurfaceType := none
  status := .awaitingApproval
  idempotencyKey := idempotencyKey "case_1" actionType none
  scheduledFor := none
  externalReference := none
  customerUrl := none
  completedAt := none
  createdAt := createdAt

def waitingPolicy (id actionId : String) (createdAt : Instant) : PolicyDecisionRecord where
  id := id
  caseId := "case_1"
  actionId := some actionId
  disposition := .requireManualApproval
  decisionCode := "ACTION_REQUIRES_APPROVAL"
  reasonCodes := ["ACTION_REQUIRES_APPROVAL"]
  reasons := ["Approve " ++ actionId]
  policyVersion := "v1"
  delayUntil := none
  createdAt := createdAt

/-- One case, with the actions that were recommended for it. -/
def waitingDatabase (actions : List RecoveryActionRecord) : Database where
  cases := [tiedCase "case_1"]
  customers := [⟨"customer_1", "merchant_1", none, none, none, true, 0⟩]
  subscriptions := [⟨"subscription_1", "merchant_1", "customer_1", "sub_1", "INR", .halted, none⟩]
  actions := actions
  policies := actions.map fun a => waitingPolicy ("policy_" ++ a.id) a.id a.createdAt

def agentAction : RecoveryActionRecord := waitingAction "action_1" .sendToCustomerAgent 1

def voiceAction : RecoveryActionRecord := waitingAction "action_2" .startVoice 2

lemma waitingDatabase_intact {actions : List RecoveryActionRecord}
    (h : Table.Keyed RecoveryActionRecord.id actions) : Intact (waitingDatabase actions) where
  cases := List.nodup_singleton _
  actions := h
  customer c hc := by
    obtain rfl := List.mem_singleton.mp hc
    exact ⟨_, List.mem_singleton_self _, rfl⟩
  subscription c hc := by
    obtain rfl := List.mem_singleton.mp hc
    exact ⟨_, List.mem_singleton_self _, rfl⟩

/-- One action awaits approval, and the queue shows it. -/
theorem single_action_queued : Intact (waitingDatabase [agentAction]) ∧
    QueueSound "merchant_1" (waitingDatabase [agentAction]) := by
  have hintact : Intact (waitingDatabase [agentAction]) :=
    waitingDatabase_intact (List.nodup_singleton _)
  refine ⟨hintact, (queue_sound_iff _ hintact "merchant_1").mpr fun a ha => ?_⟩
  obtain rfl := List.mem_singleton.mp (mem_awaiting.mp ha).1
  exact
    { first := fun c hc _ => by
        obtain rfl := List.mem_singleton.mp hc
        decide
      latest := by rfl
      decided := ⟨_, _, rfl, List.mem_singleton_self _, rfl, rfl⟩ }

/-- A second action is asked for while the first one awaits approval: the queue shows one of the
two, and the dashboard counts both. -/
theorem earlier_action_hidden : Intact (waitingDatabase [agentAction, voiceAction]) ∧
    ¬ QueueSound "merchant_1" (waitingDatabase [agentAction, voiceAction]) := by
  have hkeyed : Table.Keyed RecoveryActionRecord.id [agentAction, voiceAction] := by
    unfold Table.Keyed
    decide
  have hintact := waitingDatabase_intact hkeyed
  refine ⟨hintact, ?_⟩
  rintro ⟨items, hrun, -, hlength, -⟩
  rw [getApprovalQueue_run _ hintact] at hrun
  obtain rfl := (Prod.mk.inj (Except.ok.inj hrun)).1
  have hshown : ((firstCases "merchant_1" (waitingDatabase [agentAction, voiceAction])).filterMap
      (itemOf (waitingDatabase [agentAction, voiceAction]))).length = 1 := by decide +kernel
  have hcount : (reviewAndBlockCounts "merchant_1"
      (waitingDatabase [agentAction, voiceAction])).1 = 2 := by decide +kernel
  omega

end RecoveryOS.Cases
