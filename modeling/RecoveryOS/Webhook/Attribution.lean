import RecoveryOS.Webhook.Application
import RecoveryOS.Cases.Channels

/-!
# The channel that a capture counts for

A capture that is newly recognized asks for dispatch, so the processor authorizes its
reconciliation: it adds a wait to the case, or schedules the one that is there again. The money of a
case counts for the channel of its latest action, and a wait has none.
-/

namespace RecoveryOS.Webhook

open Store Table Cases RecoveryOS.Core

/-- What the processor never changes of a case. -/
def ident (c : RecoveryCase) : String × String := (c.id, c.merchantId)

/-- The recognition of a capture of the case. -/
structure OfCapture (payload : RazorpayOutboxPayload) (caseId : String)
    (r : RevenueRecognitionRecord) : Prop where
  caseId : r.caseId = caseId
  merchantId : r.merchantId = payload.merchantId
  collected : r.arrearsCollected = true
  attribution : r.attribution = .razorpayTestVerified
  positive : 0 < r.amountPaise

/-- A recognition was added, for a case that was there. -/
structure Recognition (payload : RazorpayOutboxPayload) (db t : Database) (caseId : String)
    (r : RevenueRecognitionRecord) : Prop where
  rows : t.recognitions = db.recognitions ++ [r]
  capture : OfCapture payload caseId r
  idents : t.cases.map ident = db.cases.map ident
  known : (caseId, payload.merchantId) ∈ db.cases.map ident

lemma Recognition.congr {payload : RazorpayOutboxPayload} {db t t' : Database} {caseId : String}
    {r : RevenueRecognitionRecord} (h : Recognition payload db t caseId r)
    (hc : t'.cases = t.cases) (hr : t'.recognitions = t.recognitions) :
    Recognition payload db t' caseId r :=
  ⟨hr.trans h.rows, h.capture, hc ▸ h.idents, h.known⟩

section
variable {platform : Platform} {call : Call} {payload : RazorpayOutboxPayload} {db : Database}

/-- No case and no recognition was written. -/
def Untouched (db t : Database) : Prop := t.cases = db.cases ∧ t.recognitions = db.recognitions

/-- The case is one of the event's merchant. -/
def Known (payload : RazorpayOutboxPayload) (db : Database) (c : RecoveryCase) : Prop :=
  c ∈ db.cases ∧ c.merchantId = payload.merchantId

lemma recognitions_settle (c : RecoveryCase) (at_ : Instant) (t : Database) :
    (t.settle c at_).recognitions = t.recognitions := by
  unfold Database.settle
  split_ifs <;> rfl

lemma settleCase_recognition {c : RecoveryCase} {invoice : Invoice} {payment : PaymentAttempt}
    {snapshot : PaymentSnapshot} {outcome : PaymentRecoveryOutcome}
    {existing : Option RevenueRecognitionRecord} :
    Tx.Ensures (Untouched db) (settleCase payload c invoice payment snapshot outcome existing)
      fun settled t => ident settled = ident c ∧ t.cases = db.cases ∧
        (t.recognitions = db.recognitions ∨ existing = none ∧
          ∃ r, OfCapture payload c.id r ∧ t.recognitions = db.recognitions ++ [r]) := by
  cases existing with
  | none =>
    refine .require_bind fun hamount => .bind (Q := fun _ t => t.cases = db.cases ∧
      ∃ r, OfCapture payload c.id r ∧ t.recognitions = db.recognitions ++ [r])
      (.attempt ?_) fun _ => .bind (Q := fun _ t => t.cases = db.cases ∧
        ∃ r, OfCapture payload c.id r ∧ t.recognitions = db.recognitions ++ [r])
      (.modify fun _ h => h) fun _ => .pure ?_
    · rintro t ⟨hcases, hrows⟩ t' ht'
      obtain ⟨rows, hinsert, rfl⟩ := Option.map_eq_some_iff.mp ht'
      obtain ⟨-, -, rfl⟩ := insert_eq_some hinsert
      simp only [Bool.and_eq_true, decide_eq_true_eq] at hamount
      exact ⟨hcases, _, ⟨rfl, rfl, rfl, rfl, hamount.1⟩, by rw [← hrows]⟩
    · rintro t ⟨hcases, hnew⟩
      exact ⟨rfl, hcases, .inr ⟨rfl, hnew⟩⟩
  | some r =>
    refine .pure fun t h => ⟨?_, h.1, .inl h.2⟩
    split_ifs <;> rfl

/-- A capture is recognized if no recognition stands for it, and then it is to be dispatched. -/
lemma applyCaptured_recognition (hk : Keyed RecoveryCase.id db.cases) {correlation : Correlation} :
    Tx.Ensures (fun t => Untouched db t ∧ Found payload correlation t)
      (applyCaptured platform call payload correlation) fun res t =>
        t.recognitions = db.recognitions ∨ ∃ c r, res.2 = some c ∧
          dispatchRequired res.1 = true ∧ Recognition payload db t c.id r := by
  refine .expect_bind fun c hcase => .expect_bind fun invoice hinvoice =>
    .expect_bind fun subscription _ => .call_bind fun snapshot _ => .call_bind fun outcome _ =>
    .require_bind fun _ => .require_bind fun _ => .require_bind fun _ => .expect_bind fun id _ => ?_
  have hknown : ∀ t, Untouched db t ∧ Found payload correlation t →
      Untouched db t ∧ Known payload db c := by
    rintro t ⟨hu, hmem, hcorrelated, -⟩
    exact ⟨hu, hu.1 ▸ hmem c hcase, (hcorrelated c invoice hcase hinvoice).1.merchantId⟩
  refine .bind (Q := fun _ t => Untouched db t ∧ Known payload db c)
    ((capturedAttempt_keeps fun _ _ h => h).strengthen hknown) fun payment =>
    .query_bind fun existing => ?_
  refine .bind (Q := fun settled t => Known payload db c ∧ ident settled = ident c ∧
    t.cases = db.cases ∧ (t.recognitions = db.recognitions ∨ existing = none ∧
      ∃ r, OfCapture payload c.id r ∧ t.recognitions = db.recognitions ++ [r])) ?_ fun settled => ?_
  · rintro t ⟨⟨hu, hc⟩, -⟩ settled t' ht'
    exact ⟨hc, settleCase_recognition t hu settled t' ht'⟩
  set final := capturedCase settled payload.event snapshot outcome
  let Done := fun t : Database => t.recognitions = db.recognitions ∨ existing = none ∧
    ∃ r, Recognition payload db t final.id r
  have hdone : ∀ t t' : Database, t'.cases = t.cases → t'.recognitions = t.recognitions →
      Done t → Done t' := by
    rintro t t' hc hr (h | ⟨hnone, r, h⟩)
    · exact .inl (hr.trans h)
    · exact .inr ⟨hnone, r, h.congr hc hr⟩
  refine .bind (Q := fun _ => Done) (.modify ?_) fun _ =>
    .bind (Q := fun _ => Done) (.modifyIf (fun t h => hdone t _ rfl rfl h) fun _ h => h) fun _ =>
    .bind (Q := fun _ => Done) (addAuditEvent_keeps fun t _ h => hdone t _ rfl rfl h)
    fun _ => .pure ?_
  · rintro t ⟨⟨hc, hm⟩, hsame, hcases, hrows⟩
    show Done _
    refine hrows.imp (fun h => (recognitions_settle _ _ _).trans h) ?_
    rintro ⟨hnone, r, hr, hadded⟩
    have hid : final.id = c.id := congrArg Prod.fst hsame
    have hput : (put RecoveryCase.id t.cases final).map ident = t.cases.map ident := by
      rw [hcases]
      exact map_put hk hc hid hsame
    refine ⟨hnone, r, ?_, hid ▸ hr, ?_, ?_⟩
    · rw [recognitions_settle, hadded]
    · rw [cases_settle, ← hcases]
      exact hput
    · rw [hid, ← hm]
      exact List.mem_map_of_mem hc
  · rintro t (h | ⟨rfl, r, hr⟩)
    · exact .inl h
    · exact .inr ⟨final, r, rfl, rfl, hr⟩

/-- A message adds a recognition only for a capture, which is to be dispatched. -/
lemma applyMessage_recognition (hk : Keyed RecoveryCase.id db.cases) :
    Tx.Ensures (· = db) (applyMessage platform call payload) fun res t =>
      t.recognitions = db.recognitions ∨ (payload.event.eventType ≠ "payment.failed" ∧
        payload.event.paymentState = .captured ∧ ∃ c r, res.2.2 = some c ∧
        dispatchRequired res.2.1 = true ∧ Recognition payload db t c.id r) := by
  refine .bind (lockInbox_readOnly.ensures (Q := fun _ => (· = db)) fun _ h _ => h) fun inbox =>
    .bind (Q := fun correlation t => Untouched db t ∧ Found payload correlation t) ?_
    fun correlation => .bind (Q := fun res t => t.recognitions = db.recognitions ∨
      (payload.event.eventType ≠ "payment.failed" ∧ payload.event.paymentState = .captured ∧
        ∃ c r, res.2 = some c ∧ dispatchRequired res.1 = true ∧ Recognition payload db t c.id r))
      ?_ fun res => .pure fun _ h => h
  · rintro t₀ h₀ correlation t ht
    have hkeeps : Tx.Keeps (Untouched db) (correlate platform call payload) :=
      correlate_keeps (fun _ _ h => h) fun _ _ h => h
    exact ⟨hkeeps t₀ ⟨by rw [h₀], by rw [h₀]⟩ _ _ ht, correlate_found t₀ trivial _ _ ht⟩
  dsimp only [applyEvent]
  split_ifs with hfailed hcaptured
  · refine Tx.Ensures.weaken ((applyPaymentFailed_keeps (P := fun t =>
      t.recognitions = db.recognitions) (fun _ _ h => h) (fun _ _ h => h)
      fun _ _ h => h).strengthen fun _ h => h.1.2) fun _ _ h => .inl h
  · refine (applyCaptured_recognition hk).weaken ?_
    rintro res t (h | h)
    · exact .inl h
    · exact .inr ⟨hfailed, hcaptured, h⟩
  · refine Tx.Ensures.weaken ((applySubscriptionOnly_keeps (P := fun t =>
      t.recognitions = db.recognitions) (fun _ _ h => h) (fun _ _ h => h)
      fun _ _ h => h).strengthen fun _ h => h.1.2) fun _ _ h => .inl h
  · exact .throw

/-! ## The wait of a reconciliation -/

/-- The wait that is added to a case, without its progress. -/
def reconciliationWait (platform : Platform) (call : Call) (caseId : String) (db : Database) :
    RecoveryActionRecord where
  id := "action_rzp_" ++ platform.digest 40 (reconciliationKey caseId)
  caseId := caseId
  actionType := .waitForGatewayRetry
  paymentSurfaceType := none
  status := .proposed
  idempotencyKey := reconciliationKey caseId
  scheduledFor := none
  externalReference := none
  customerUrl := none
  completedAt := none
  createdAt := authorizedAt call caseId db

/-- The case has the wait of a reconciliation. -/
def Reconciled (caseId : String) (db : Database) : Prop :=
  ∃ a ∈ db.actions, a.idempotencyKey = reconciliationKey caseId

/-- The actions after a reconciliation is authorized: those that were there, and the wait if it was
not. -/
def Awaited (platform : Platform) (call : Call) (caseId : String) (db t : Database) : Prop :=
  Reconciled caseId db ∧ t.actions.map erased = db.actions.map erased ∨
    ¬ Reconciled caseId db ∧ (∀ id ∈ (db.actions.map erased).map RecoveryActionRecord.id,
        id ≠ (reconciliationWait platform call caseId db).id) ∧
      t.actions.map erased = db.actions.map erased ++ [reconciliationWait platform call caseId db]

lemma ensureReconciliationAuthorization_awaited (hk : Keyed RecoveryActionRecord.id db.actions)
    {c : RecoveryCase} :
    Tx.Ensures (· = db) (ensureReconciliationAuthorization platform call c) fun _ t =>
      Untouched db t ∧ Awaited platform call c.id db t := by
  refine .query_bind fun existing => ?_
  cases existing with
  | some action =>
    refine .query_bind fun policies => .require_bind fun hok => ?_
    dsimp only
    refine .bind (.modify ?_) fun _ => .pure fun _ h => h
    rintro t ⟨⟨rfl, hf⟩, -⟩
    have hmem := List.mem_of_find?_eq_some hf
    have hkey : action.idempotencyKey = reconciliationKey c.id := by simpa using List.find?_some hf
    exact ⟨⟨rfl, rfl⟩, .inl ⟨⟨action, hmem, hkey⟩, map_put hk hmem rfl rfl⟩⟩
  | none =>
    refine .query_bind fun evaluatedAt => ?_
    dsimp only
    refine .bind (.attempt ?_) fun _ => .pure fun _ h => h
    rintro t ⟨⟨rfl, hf⟩, rfl⟩ t' ht'
    obtain ⟨t₁, h₁, h₂⟩ := Option.bind_eq_some_iff.mp ht'
    obtain ⟨rows, hrows, rfl⟩ := Option.map_eq_some_iff.mp h₁
    obtain ⟨-, hclash, rfl⟩ := insert_eq_some hrows
    obtain ⟨policies, -, rfl⟩ := Option.map_eq_some_iff.mp h₂
    refine ⟨⟨rfl, rfl⟩, .inr ⟨?_, ?_, ?_⟩⟩
    · rintro ⟨a, ha, hkey⟩
      have := List.find?_eq_none.mp hf a ha
      simp [hkey] at this
    · rw [List.map_map]
      intro id hid
      obtain ⟨a, ha, rfl⟩ := List.mem_map.mp hid
      have hne := hclash a ha
      simp only [Bool.or_eq_false_iff, decide_eq_false_iff_not] at hne
      exact hne.1
    · rw [List.map_append]
      rfl

lemma reconciled_congr {t : Database} {caseId : String}
    (h : t.actions.map erased = db.actions.map erased) :
    Reconciled caseId t ↔ Reconciled caseId db := by
  have hmap : ∀ d : Database, Reconciled caseId d ↔
      ∃ a ∈ d.actions.map erased, a.idempotencyKey = reconciliationKey caseId := by
    intro d
    simp [Reconciled, erased]
  rw [hmap, hmap, h]

lemma authorizedAt_congr {t : Database} {caseId : String}
    (h : t.actions.map erased = db.actions.map erased) :
    authorizedAt call caseId t = authorizedAt call caseId db := by
  have hmap : ∀ d : Database, authorizedAt call caseId d =
      (((d.actions.map erased).filter fun a => decide (a.caseId = caseId) &&
        decide (a.actionType = .waitForGatewayRetry) && a.paymentSurfaceType.isNone).foldl
        (fun at_ a => max at_ (a.createdAt + 1)) call.evaluatedAt) := by
    intro d
    rw [List.filter_map, List.foldl_map]
    rfl
  rw [hmap, hmap, h]

lemma Awaited.of_erased {t₀ t : Database} {caseId : String}
    (h : t₀.actions.map erased = db.actions.map erased)
    (ha : Awaited platform call caseId t₀ t) : Awaited platform call caseId db t := by
  have hwait : reconciliationWait platform call caseId t₀
      = reconciliationWait platform call caseId db := by
    rw [reconciliationWait, reconciliationWait, authorizedAt_congr h]
  unfold Awaited at ha ⊢
  rw [reconciled_congr h, h, hwait] at ha
  exact ha

/-- A message is applied without a change to what its actions are. -/
lemma applyMessage_erased : Tx.Ensures (· = db) (applyMessage platform call payload) fun _ t =>
    t.actions.map erased = db.actions.map erased := by
  have hkeeps : Tx.Keeps (fun t => t.actions.map erased = db.actions.map erased)
      (applyMessage platform call payload) := by
    refine applyMessage_keeps ⟨fun _ _ h => h, fun _ _ h => h, fun _ _ h => h, fun _ _ h => h,
      fun _ _ h => h, fun _ _ h => h, fun t caseId at_ h => ?_⟩
    rw [← h, Database.cancelNonterminalActions, List.map_map]
    refine List.map_congr_left fun a _ => ?_
    simp only [Function.comp]
    split_ifs <;> rfl
  exact hkeeps.strengthen fun _ h => by rw [h]

/-! ## One call of the processor -/

/-- What the mail does not show. -/
structure SameBooks (t t' : Database) : Prop where
  cases : t'.cases = t.cases
  actions : t'.actions = t.actions
  recognitions : t'.recognitions = t.recognitions

lemma recordFailure_books (outboxId : String) (payload : Option RazorpayOutboxPayload)
    (caseId : Option String) (code : String) (t : Database) :
    SameBooks t (recordFailure call outboxId payload caseId code t).2 := by
  unfold recordFailure
  split
  · exact ⟨rfl, rfl, rfl⟩
  · split_ifs
    · dsimp only
      unfold noteError
      split <;> exact ⟨rfl, rfl, rfl⟩
    · exact ⟨rfl, rfl, rfl⟩

/-- The end of a call writes the mail only, to the open state or to the committed one. -/
lemma dispatch_keeps {P : Database → Prop} (hP : ∀ t t', SameBooks t t' → P t → P t')
    {outbox : OutboxMessage} {inbox : WebhookInboxEntry} {effects : List (String × Json)}
    {caseId : Option String} {t committed : Database} (ht : P t) (hc : P committed) :
    P (dispatch call outbox payload inbox effects caseId t committed).2 := by
  unfold dispatch
  dsimp only
  split_ifs
  · exact hP t _ ⟨rfl, rfl, rfl⟩ ht
  · exact hP committed _ (recordFailure_books _ _ _ _ _) hc
  · exact hP committed _ (recordFailure_books _ _ _ _ _) hc

/-- A capture that is newly recognized in a call, and what else the call did. -/
structure Captures (platform : Platform) (call : Call) (db db' : Database)
    (r : RevenueRecognitionRecord) : Prop where
  rows : db'.recognitions = db.recognitions ++ [r]
  collected : r.arrearsCollected = true
  attribution : r.attribution = .razorpayTestVerified
  positive : 0 < r.amountPaise
  idents : db'.cases.map ident = db.cases.map ident
  known : (r.caseId, r.merchantId) ∈ db.cases.map ident
  actions : Awaited platform call r.caseId db db'

/-- No recognition was added, or the one of a capture. -/
def Booked (platform : Platform) (call : Call) (db t : Database) : Prop :=
  t.recognitions = db.recognitions ∨ ∃ r, Captures platform call db t r

lemma Booked.books {t t' : Database} (hs : SameBooks t t') (h : Booked platform call db t) :
    Booked platform call db t' := by
  rcases h with h | ⟨r, h⟩
  · exact .inl (hs.recognitions.trans h)
  · refine .inr ⟨r, hs.recognitions.trans h.rows, h.collected, h.attribution, h.positive, ?_,
      h.known, ?_⟩
    · rw [hs.cases, h.idents]
    · have hactions := h.actions
      rw [Awaited] at hactions ⊢
      rwa [hs.actions]

/-- The authorization adds no recognition, and the wait to the case of a capture that is to be
dispatched. -/
lemma authorize_awaited (ha : Keyed RecoveryActionRecord.id db.actions)
    {effects : List (String × Json)} {recoveryCase : Option RecoveryCase} :
    Tx.Ensures (· = db) (authorize platform call payload effects recoveryCase) fun res t =>
      t.recognitions = db.recognitions ∧ (payload.event.eventType ≠ "payment.failed" →
        payload.event.paymentState = .captured → dispatchRequired effects = true →
        ∀ c, recoveryCase = some c → res.isSome = true ∧ Untouched db t ∧
          Awaited platform call c.id db t) := by
  unfold authorize
  split_ifs with hfailed hcaptured
  · refine .expect_bind fun c _ => .bind (Q := fun _ t => t.recognitions = db.recognitions) ?_
      fun action => .pure fun t h => ⟨h, fun hne => absurd hfailed hne⟩
    refine ensureInitialRecommendation_spec.weaken ?_
    rintro a t (⟨rfl, -⟩ | ⟨p, t₁, e, h₁, h₂, -⟩)
    · rfl
    · obtain ⟨t₀, ht₀, ht₁⟩ := Option.bind_eq_some_iff.mp h₁
      obtain ⟨_, -, rfl⟩ := Option.map_eq_some_iff.mp ht₀
      obtain ⟨_, -, rfl⟩ := Option.map_eq_some_iff.mp ht₁
      obtain ⟨_, -, rfl⟩ := Option.map_eq_some_iff.mp h₂
      rfl
  · refine .expect_bind fun c hc => .bind (ensureReconciliationAuthorization_awaited ha)
      fun action => .pure ?_
    rintro t ⟨hu, hw⟩
    refine ⟨hu.2, fun _ _ _ c' hc' => ⟨rfl, hu, ?_⟩⟩
    obtain rfl := Option.some.inj (hc.symm.trans hc')
    exact hw
  · refine .pure ?_
    rintro t rfl
    exact ⟨rfl, fun _ hc hd => absurd ⟨hc, hd⟩ hcaptured⟩

variable (platform call) in
/-- A call of the processor adds no recognition, or the one of a capture. -/
theorem processNext_booked (hc : Keyed RecoveryCase.id db.cases)
    (ha : Keyed RecoveryActionRecord.id db.actions) :
    Booked platform call db (processNext platform call db).2 := by
  have hfailure : ∀ {id payload caseId code},
      Booked platform call db (recordFailure call id payload caseId code db).2 :=
    .inl (recordFailure_books _ _ _ _ _).recognitions
  unfold processNext
  split
  · exact .inl rfl
  · split
    · exact hfailure
    · next payload _ =>
      split
      · exact hfailure
      · next inbox effects recoveryCase t happly =>
        have herased := applyMessage_erased _ rfl _ _ happly
        have hkeyed : Keyed RecoveryActionRecord.id t.actions := by
          have hids : t.actions.map RecoveryActionRecord.id
              = (t.actions.map erased).map RecoveryActionRecord.id := by
            rw [List.map_map]
            rfl
          rw [Keyed, hids, herased, List.map_map]
          exact ha
        have hmessage := applyMessage_recognition hc _ rfl _ _ happly
        dsimp only
        split
        · exact hfailure
        · next t' hauthorize =>
          -- nothing was to be authorized, so nothing was recognized
          obtain ⟨hrows, hwait⟩ := authorize_awaited hkeyed _ rfl _ _ hauthorize
          rcases hmessage with hsame | ⟨hfailed, hcaptured, c, r, hcase, hdispatch, -⟩
          · exact dispatch_keeps (fun _ _ => Booked.books) (.inl (hrows.trans hsame)) (.inl rfl)
          · exact absurd (hwait hfailed hcaptured hdispatch c hcase).1 (by simp)
        · next effects' t' hauthorize =>
          obtain ⟨hrows, hwait⟩ := authorize_awaited hkeyed _ rfl _ _ hauthorize
          have hbooked : Booked platform call db t' := by
            rcases hmessage with hsame | ⟨hfailed, hcaptured, c, r, hcase, hdispatch, hrec⟩
            · exact .inl (hrows.trans hsame)
            · obtain ⟨-, hu, hawaited⟩ := hwait hfailed hcaptured hdispatch c hcase
              have hid := hrec.capture.caseId
              refine .inr ⟨r, hu.2.trans hrec.rows, hrec.capture.collected,
                hrec.capture.attribution, hrec.capture.positive, ?_, ?_, ?_⟩
              · rw [hu.1, hrec.idents]
              · rw [hid, hrec.capture.merchantId]
                exact hrec.known
              · rw [hid]
                exact hawaited.of_erased herased
          have hput : ∀ message, Booked platform call db (t'.putOutbox message) := fun _ =>
            Booked.books (t := t') ⟨rfl, rfl, rfl⟩ hbooked
          split_ifs
          · exact dispatch_keeps (fun _ _ => Booked.books) (hput _) (hput _)
          · exact hfailure

/-! ## The money and its channel -/

/-- The case had an action that reaches the customer. -/
def reached (db : Database) (caseId : String) : Bool :=
  db.actions.any fun a => decide (a.caseId = caseId) && (channel (groupOf a)).isSome

/-- The recovered amount of one channel grows by `x` and that of no other changes. All channels
together have what was recovered for the cases that had a customer-facing action. -/
structure FollowsMoney (merchantId name : String) (x : ℤ) (db db' : Database) : Prop where
  grows : ∀ other, recovered merchantId (fun n => n = other) db'
    = recovered merchantId (fun n => n = other) db + if other = name then x else 0
  total : recovered merchantId (fun _ => true) db' =
    (((caseIds merchantId db').filter (reached db')).map fun caseId =>
      verifiedPaise merchantId caseId db').sum

/-- The latest action stays the latest when a capture is reconciled. -/
def Stays (platform : Platform) (call : Call) (caseId : String) (db : Database)
    (l : RecoveryActionRecord) : Prop :=
  Reconciled caseId db ∨ later l (reconciliationWait platform call caseId db) = true

/-- The latest action of the case is on the channel, and it stays the latest: the wait of a
reconciliation is there already, or it would be dated before. Any other case with recovered money
that had a customer-facing action has one as its latest. -/
structure KeepsChannel (platform : Platform) (call : Call) (merchantId caseId name : String)
    (db : Database) : Prop where
  latest : ∃ l, latestActionOf caseId db = some l ∧ channel (groupOf l) = some name ∧
    Stays platform call caseId db l
  others : ∀ other ∈ caseIds merchantId db, other ≠ caseId → reached db other = true →
    verifiedPaise merchantId other db ≠ 0 → (caseChannel other db).isSome = true

lemma caseIds_congr {db' : Database} {merchantId : String}
    (h : db'.cases.map ident = db.cases.map ident) :
    caseIds merchantId db' = caseIds merchantId db := by
  have hmap : ∀ d : Database, caseIds merchantId d =
      ((d.cases.map ident).filter fun p => p.2 = merchantId).map Prod.fst := by
    intro d
    rw [List.filter_map, List.map_map]
    rfl
  rw [hmap, hmap, h]

lemma reached_congr {db' : Database} {caseId : String}
    (h : (db'.actions.map erased).filter (fun a => a.caseId = caseId)
      = (db.actions.map erased).filter fun a => a.caseId = caseId) :
    reached db' caseId = reached db caseId := by
  have hmap : ∀ d : Database, reached d caseId =
      ((d.actions.map erased).filter fun a => a.caseId = caseId).any fun a =>
        (channel (groupOf a)).isSome := by
    intro d
    rw [List.any_filter, List.any_map]
    rfl
  rw [hmap, hmap, h]

lemma reached_of_channel {caseId : String} (h : (caseChannel caseId db).isSome = true) :
    reached db caseId = true := by
  rw [caseChannel] at h
  cases hl : latestActionOf caseId db with
  | none => simp [hl] at h
  | some l =>
    rw [hl, Option.bind_some] at h
    have hin := List.mem_filter.mp (mem_of_first hl)
    rw [reached, List.any_eq_true]
    exact ⟨l, hin.1, by simp [of_decide_eq_true hin.2, h]⟩

end

section
variable {platform : Platform} {call : Call} {db db' : Database} {r : RevenueRecognitionRecord}

lemma Captures.verified_other (h : Captures platform call db db' r) {caseId : String}
    (hne : caseId ≠ r.caseId) :
    verifiedPaise r.merchantId caseId db' = verifiedPaise r.merchantId caseId db := by
  rw [verifiedPaise, verifiedRecognitions, h.rows, List.filter_append]
  simp [verifiedPaise, verifiedRecognitions, hne.symm]

lemma Captures.verified_self (h : Captures platform call db db' r) :
    verifiedPaise r.merchantId r.caseId db'
      = verifiedPaise r.merchantId r.caseId db + r.amountPaise := by
  rw [verifiedPaise, verifiedRecognitions, h.rows, List.filter_append]
  simp [verifiedPaise, verifiedRecognitions, h.collected, h.attribution]

lemma Captures.actions_other (h : Captures platform call db db' r) {caseId : String}
    (hne : caseId ≠ r.caseId) : (db'.actions.map erased).filter (fun a => a.caseId = caseId)
      = (db.actions.map erased).filter fun a => a.caseId = caseId := by
  rcases h.actions with ⟨-, he⟩ | ⟨-, -, he⟩
  · rw [he]
  · rw [he, List.filter_append]
    simp [reconciliationWait, hne.symm]

/-- The case keeps its channel if its latest action stays the latest, and has none otherwise. -/
lemma Captures.channel_self (h : Captures platform call db db' r)
    (ha : Keyed RecoveryActionRecord.id db.actions) {l : RecoveryActionRecord}
    (hl : latestActionOf r.caseId db = some l) :
    (Stays platform call r.caseId db l → caseChannel r.caseId db' = channel (groupOf l)) ∧
      (¬ Stays platform call r.caseId db l → caseChannel r.caseId db' = none) := by
  have hold : caseChannel r.caseId db = channel (groupOf l) := by
    rw [caseChannel, hl, Option.bind_some]
  rcases h.actions with ⟨hrec, he⟩ | ⟨hnone, hids, he⟩
  · refine ⟨fun _ => ?_, fun hs => absurd (.inl hrec) hs⟩
    rw [← hold]
    exact caseChannel_congr (by rw [he])
  · have hkeyed : ((db'.actions.map erased).map RecoveryActionRecord.id).Nodup := by
      rw [he, List.map_append, List.nodup_append]
      refine ⟨?_, List.nodup_singleton _, fun x hx y hy => ?_⟩
      · rw [List.map_map]
        exact ha
      · rw [List.mem_singleton.mp hy]
        exact hids x hx
    have hcase : (reconciliationWait platform call r.caseId db).caseId = r.caseId := rfl
    rcases latestActionOf_append he hcase hkeyed with ⟨hw, hlater⟩ | ⟨l', hl', hlater, hkept⟩
    · constructor
      · rintro (hrec | hl'')
        · exact absurd hrec hnone
        · rw [hlater l hl] at hl''
          cases hl''
      · intro _
        rw [caseChannel_eq, hw]
        rfl
    · obtain rfl : l = l' := Option.some.inj (hl.symm.trans hl')
      refine ⟨fun _ => ?_, fun hs => absurd (.inr hlater) hs⟩
      rw [caseChannel_eq, hkept]
      rfl

/-- What the case of the capture adds to a channel. -/
lemma contribution_eq {merchantId name caseId : String} {d : Database} :
    contribution merchantId (fun n => n = name) d caseId =
      if caseChannel caseId d = some name then verifiedPaise merchantId caseId d else 0 := by
  rw [contribution]
  congr 1
  cases caseChannel caseId d <;> simp

lemma verified_nonneg {d : Database} (h : ∀ x ∈ d.recognitions, 0 ≤ x.amountPaise)
    (merchantId caseId : String) : 0 ≤ verifiedPaise merchantId caseId d := by
  refine List.sum_nonneg fun x hx => ?_
  obtain ⟨y, hy, rfl⟩ := List.mem_map.mp hx
  exact h y (List.mem_filter.mp hy).1

lemma Captures.mem_caseIds (h : Captures platform call db db' r) :
    r.caseId ∈ caseIds r.merchantId db := by
  obtain ⟨c, hc, hident⟩ := List.mem_map.mp h.known
  obtain ⟨hid, hm⟩ := Prod.mk.inj hident
  exact List.mem_map.mpr ⟨c, List.mem_filter.mpr ⟨hc, decide_eq_true hm⟩, hid⟩

/-- What a capture changes of the amount of a channel: what its case adds. -/
lemma Captures.recovered_change (h : Captures platform call db db' r)
    (hc : Keyed RecoveryCase.id db.cases) (name : String) :
    recovered r.merchantId (fun n => n = name) db' = recovered r.merchantId (fun n => n = name) db +
      (contribution r.merchantId (fun n => n = name) db' r.caseId
        - contribution r.merchantId (fun n => n = name) db r.caseId) := by
  have hids : (caseIds r.merchantId db).Nodup := hc.sublist (List.filter_sublist.map _)
  rw [recovered_eq, recovered_eq, caseIds_congr h.idents]
  refine Groups.sum_change hids h.mem_caseIds fun caseId _ hne => ?_
  rw [contribution_eq, contribution_eq, caseChannel_congr (h.actions_other hne),
    h.verified_other hne]

/-- The amounts follow the money exactly if the case ends on the channel. -/
lemma Captures.grows_iff (h : Captures platform call db db' r)
    (hc : Keyed RecoveryCase.id db.cases) (hn : ∀ x ∈ db.recognitions, 0 ≤ x.amountPaise)
    {name : String} (hchannel : caseChannel r.caseId db' = caseChannel r.caseId db ∨
      caseChannel r.caseId db' = none) :
    (∀ other, recovered r.merchantId (fun n => n = other) db' =
      recovered r.merchantId (fun n => n = other) db + if other = name then r.amountPaise else 0) ↔
    caseChannel r.caseId db' = some name := by
  have hpos := h.positive
  have hold := verified_nonneg hn r.merchantId r.caseId
  constructor
  · intro hall
    have hself := hall name
    rw [h.recovered_change hc, if_pos rfl, contribution_eq, contribution_eq] at hself
    by_contra hne
    rw [if_neg hne] at hself
    split_ifs at hself <;> linarith
  · intro hname other
    have hsame : caseChannel r.caseId db = some name := by
      rcases hchannel with he | he
      · rw [← he, hname]
      · rw [hname] at he
        cases he
    rw [h.recovered_change hc, contribution_eq, contribution_eq, hname, hsame, h.verified_self]
    by_cases ho : name = other
    · subst ho
      simp
    · have ho' : ¬ other = name := fun he => ho he.symm
      simp [ho, ho']

/-- All channels together have the recovered money if the cases with a customer-facing action have
one as their latest. -/
lemma total_iff {d : Database} {merchantId : String}
    (hn : ∀ x ∈ d.recognitions, 0 ≤ x.amountPaise) :
    recovered merchantId (fun _ => true) d = (((caseIds merchantId d).filter (reached d)).map
      fun caseId => verifiedPaise merchantId caseId d).sum ↔
    ∀ caseId ∈ caseIds merchantId d, reached d caseId = true →
      verifiedPaise merchantId caseId d ≠ 0 → (caseChannel caseId d).isSome = true := by
  have hfilter : ∀ ids : List String, ((ids.filter (reached d)).map fun caseId =>
      verifiedPaise merchantId caseId d).sum = (ids.map fun caseId =>
        if reached d caseId = true then verifiedPaise merchantId caseId d else 0).sum := by
    intro ids
    induction ids with
    | nil => rfl
    | cons caseId ids ih =>
      rw [List.filter_cons, List.map_cons, List.sum_cons, ← ih]
      split_ifs <;> simp
  have hterm : ∀ caseId, contribution merchantId (fun _ => true) d caseId =
      if (caseChannel caseId d).isSome = true then verifiedPaise merchantId caseId d else 0 := by
    intro caseId
    rw [contribution]
    cases caseChannel caseId d <;> simp
  rw [recovered_eq, hfilter, Groups.sum_eq_iff_of_le]
  · refine forall₂_congr fun caseId _ => ?_
    rw [hterm]
    by_cases hchan : (caseChannel caseId d).isSome = true
    · simp [hchan, reached_of_channel hchan]
    · by_cases hreach : reached d caseId = true
      · rw [if_neg hchan, if_pos hreach]
        constructor
        · intro he _ hne
          exact absurd he.symm hne
        · intro hall
          by_contra hne
          exact hchan (hall hreach fun he => hne he.symm)
      · simp [hchan, hreach]
  · intro caseId _
    have hnonneg := verified_nonneg hn merchantId caseId
    rw [hterm]
    split_ifs with hchan hreach hreach
    · exact le_rfl
    · exact absurd (reached_of_channel hchan) hreach
    · exact hnonneg
    · exact le_rfl

lemma exists_latest {a : RecoveryActionRecord} (ha : a ∈ db.actions) :
    ∃ l, latestActionOf a.caseId db = some l := by
  cases hl : latestActionOf a.caseId db with
  | none =>
    have hnil := List.filter_eq_nil_iff.mp (first_eq_none.mp hl) a ha
    simp at hnil
  | some l => exact ⟨l, rfl⟩

end

/-- A capture of a case is newly recognized in a call, after an action `a` of the case. The amounts
of the channels follow the money to a channel, such as the one of `a`, exactly if the case keeps
it. -/
theorem follows_money_iff (platform : Platform) (call : Call) (db : Database)
    (hc : Keyed RecoveryCase.id db.cases) (ha : Keyed RecoveryActionRecord.id db.actions)
    (hn : ∀ x ∈ db.recognitions, 0 ≤ x.amountPaise) (r : RevenueRecognitionRecord)
    (hr : (processNext platform call db).2.recognitions = db.recognitions ++ [r])
    (a : RecoveryActionRecord) (hmem : a ∈ db.actions) (hcase : a.caseId = r.caseId)
    (name : String) :
    FollowsMoney r.merchantId name r.amountPaise db (processNext platform call db).2 ↔
      KeepsChannel platform call r.merchantId r.caseId name db := by
  have h : Captures platform call db (processNext platform call db).2 r := by
    rcases processNext_booked platform call hc ha with hsame | ⟨r', h⟩
    · rw [hsame] at hr
      simp at hr
    · have hrows := h.rows
      rw [hr] at hrows
      obtain rfl : r = r' := by simpa using hrows
      exact h
  generalize (processNext platform call db).2 = db' at h
  obtain ⟨l, hl⟩ := exists_latest hmem
  rw [hcase] at hl
  have hold : caseChannel r.caseId db = channel (groupOf l) := by
    rw [caseChannel, hl, Option.bind_some]
  obtain ⟨hstays, hleaves⟩ := h.channel_self ha hl
  have hchannel : caseChannel r.caseId db' = caseChannel r.caseId db ∨
      caseChannel r.caseId db' = none := by
    by_cases hs : Stays platform call r.caseId db l
    · exact .inl ((hstays hs).trans hold.symm)
    · exact .inr (hleaves hs)
  have hn' : ∀ x ∈ db'.recognitions, 0 ≤ x.amountPaise := by
    intro x hx
    rw [h.rows] at hx
    rcases List.mem_append.mp hx with hx | hx
    · exact hn x hx
    · rw [List.mem_singleton.mp hx]
      exact h.positive.le
  constructor
  · rintro ⟨hgrows, htotal⟩
    have hsome := (h.grows_iff hc hn hchannel).mp hgrows
    refine ⟨⟨l, hl, ?_⟩, fun other hother hne hreach hpaid => ?_⟩
    · by_cases hs : Stays platform call r.caseId db l
      · exact ⟨(hstays hs).symm.trans hsome, hs⟩
      · rw [hleaves hs] at hsome
        cases hsome
    · have hall := total_iff hn' |>.mp htotal other
      rw [caseIds_congr h.idents, reached_congr (h.actions_other hne), h.verified_other hne,
        caseChannel_congr (h.actions_other hne)] at hall
      exact hall hother hreach hpaid
  · rintro ⟨⟨l', hl', hlname, hs⟩, hothers⟩
    obtain rfl : l = l' := Option.some.inj (hl.symm.trans hl')
    have hsome : caseChannel r.caseId db' = some name := (hstays hs).trans hlname
    refine ⟨(h.grows_iff hc hn hchannel).mpr hsome, (total_iff hn').mpr fun other hother => ?_⟩
    by_cases hne : other = r.caseId
    · intro _ _
      rw [hne, hsome]
      rfl
    · rw [caseIds_congr h.idents] at hother
      rw [reached_congr (h.actions_other hne), h.verified_other hne,
        caseChannel_congr (h.actions_other hne)]
      exact hothers other hother hne

/-! ## A capture after a voice call -/

/-- The case of the unpaid invoice. -/
def calledCase : RecoveryCase where
  id := "case_rzp_3427be8787b2266361a016954392901e17b9144a"
  merchantId := "merchant_1"
  customerId := "customer_1"
  subscriptionId := "subscription_1"
  failedInvoiceId := some "invoice_1"
  billingCycleKey := none
  failedPaymentId := none
  caseOutcome := .open
  paymentState := .failed
  subscriptionState := .halted
  contactDisposition := .engaged
  revenueAttribution := .none
  diagnosis := .unknown
  amountAtRiskPaise := 50000
  arrearsCollectedPaise := 0
  caseRecovered := false
  subscriptionReactivated := false
  openedAt := 0
  recoveryDeadline := 1000000000
  recoveredAt := none
  version := 1

/-- The voice call that was made. -/
def voiceCall : RecoveryActionRecord where
  id := "action_voice"
  caseId := calledCase.id
  actionType := .startVoice
  paymentSurfaceType := none
  status := .succeeded
  idempotencyKey := "case:voice"
  scheduledFor := none
  externalReference := some "call_1"
  customerUrl := none
  completedAt := some 8
  createdAt := 5

/-- The wait of an earlier reconciliation of the case, and its policy decision. -/
def earlierWait : RecoveryActionRecord :=
  { reconciliationWait samplePlatform (sampleCall 1 true) calledCase.id {} with
    status := .scheduled }

def earlierPolicy : PolicyDecisionRecord where
  id := "policy_wait"
  caseId := calledCase.id
  actionId := some earlierWait.id
  disposition := .allow
  decisionCode := "AUTHORITATIVE_PAYMENT_RECONCILIATION_ONLY"
  reasonCodes := []
  reasons := []
  policyVersion := "recovery-reconciliation.v1"
  delayUntil := none
  createdAt := 1

/-- A capture waits in the mail. -/
def calledStore (actions : List RecoveryActionRecord) : Database :=
  let captured := sampleEvent "evt_2" "payment.captured" .captured 10
  { sampleStore with
    cases := [calledCase]
    actions := actions
    policies := [earlierPolicy]
    inbox := [sampleEntry captured]
    outbox := [sampleMessage captured] }

def capturedStore (actions : List RecoveryActionRecord) : Database :=
  (processNext samplePlatform (sampleCall 20 true) (calledStore actions)).2

/-- The wait of the reconciliation is the latest action, and the capture counts for no channel. -/
theorem voice_capture_uncounted :
    voiceCall.status = .succeeded ∧ channel (groupOf voiceCall) = some "VOICE" ∧
    ((calledStore [voiceCall]).recognitions.map fun r => (r.caseId, r.amountPaise)) = [] ∧
    ((capturedStore [voiceCall]).recognitions.map fun r => (r.caseId, r.amountPaise))
      = [(calledCase.id, 50000)] ∧
    ¬ FollowsMoney "merchant_1" "VOICE" 50000 (calledStore [voiceCall])
      (capturedStore [voiceCall]) := by
  refine ⟨rfl, rfl, rfl, by decide +kernel, fun h => ?_⟩
  have hbefore : recovered "merchant_1" (fun n => n = "VOICE") (calledStore [voiceCall]) = 0 := by
    decide +kernel
  have hafter : recovered "merchant_1" (fun n => n = "VOICE") (capturedStore [voiceCall]) = 0 := by
    decide +kernel
  have hgrows := h.grows "VOICE"
  rw [hbefore, hafter] at hgrows
  exact absurd hgrows (by decide)

/-- The case was reconciled before the call was made, so the call stays its latest action. -/
theorem reconciled_capture_counted : ∃ r,
    (capturedStore [earlierWait, voiceCall]).recognitions
      = (calledStore [earlierWait, voiceCall]).recognitions ++ [r] ∧
    FollowsMoney r.merchantId "VOICE" r.amountPaise (calledStore [earlierWait, voiceCall])
      (capturedStore [earlierWait, voiceCall]) := by
  have hrows : ((capturedStore [earlierWait, voiceCall]).recognitions.map fun r => r.caseId)
      = [calledCase.id] := by decide +kernel
  obtain ⟨r, hr, hcase⟩ := List.map_eq_singleton_iff.mp hrows
  have hactions : Keyed RecoveryActionRecord.id (calledStore [earlierWait, voiceCall]).actions := by
    unfold Keyed
    decide +kernel
  have hempty : (calledStore [earlierWait, voiceCall]).recognitions = [] := rfl
  have hnew : (capturedStore [earlierWait, voiceCall]).recognitions
      = (calledStore [earlierWait, voiceCall]).recognitions ++ [r] := by
    rw [hempty, hr, List.nil_append]
  refine ⟨r, hnew, ?_⟩
  unfold capturedStore at hnew ⊢
  refine (follows_money_iff samplePlatform (sampleCall 20 true)
    (calledStore [earlierWait, voiceCall]) (List.nodup_singleton _) hactions
    (fun x hx => by cases hx) r hnew voiceCall (by simp [calledStore]) hcase.symm "VOICE").mpr ?_
  refine ⟨⟨voiceCall, ?_, rfl, .inl ⟨earlierWait, by simp [calledStore], ?_⟩⟩, ?_⟩
  · rw [hcase]
    rfl
  · rw [hcase]
    rfl
  · intro other hother hne
    have hids : caseIds r.merchantId (calledStore [earlierWait, voiceCall]) ⊆ [calledCase.id] := by
      intro x hx
      obtain ⟨c, hc, rfl⟩ := List.mem_map.mp hx
      rw [List.mem_singleton.mp (List.mem_filter.mp hc).1]
      exact List.mem_singleton_self _
    exact absurd ((List.mem_singleton.mp (hids hother)).trans hcase.symm) hne

end RecoveryOS.Webhook
