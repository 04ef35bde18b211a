import RecoveryOS.Core.Approval
import RecoveryOS.Core.Commands
import RecoveryOS.Decision.ContactCap

/-!
# What an opt-out bars

An opt-out is written on one case and on the customer, and the first one by voice in the table of
suppressions as well. The policy reads the case alone. So a contact is barred on the cases on which
a suppression was recorded, and on these for good: no write takes a suppressing disposition back.
Every other case of the customer is decided on as if nothing had been said.
-/

namespace RecoveryOS.Decision.Question

open Store Safety

variable (q : Question)

/-- Whatever contact is asked about, the policy blocks it. -/
def BlocksContacts : Prop :=
  ∀ action surface h, isContact action = true → ∃ decision,
    evaluateSafetyPolicy q.point.config (q.point.context action surface h) = .ok decision ∧
      decision.disposition = .block

/-- What bars a contact whatever the customer has said. -/
def Barred : Prop :=
  q.point.config.globalKillSwitch = true ∨ q.point.config.merchantKillSwitch = true ∨
    q.point.recoveryCase.caseOutcome ≠ .open ∨ q.point.recoveryCase.paymentState = .captured ∨
    q.point.recoveryCase.recoveryDeadline ≤ q.point.now

/-- The policy's question about an invoice link. -/
def linkContext : SafetyPolicyContext :=
  q.point.context .openCustomerPaymentSurface (some .subscriptionInvoiceLink) (by decide)

lemma blocksContacts_iff_closed : q.BlocksContacts ↔ q.Closed := by
  constructor
  · intro hblocks
    by_contra hopen
    -- an invoice link is let through or left to an operator, unless a suppression bars it
    have hlink : evaluateSafetyPolicy q.point.config q.linkContext =
        .ok (approveOrAllow q.point.config q.linkContext) := evaluate_invoiceLink rfl rfl hopen
    obtain ⟨decision, he, hblock⟩ := hblocks _ _ q.linkContext.surface_iff rfl
    obtain rfl := Except.ok.inj (hlink.symm.trans he)
    rcases @approveOrAllow_disposition q.point.config q.linkContext with h | h
    · rw [h] at hblock
      cases hblock
    · rw [h] at hblock
      cases hblock
  · intro hclosed action surface h hcontact
    exact evaluate_eq_block_of_guarded hcontact hclosed

theorem blocksContacts_iff : q.BlocksContacts ↔
    q.Barred ∨ (suppressionReason q.point.recoveryCase.contactDisposition).isSome = true := by
  rw [blocksContacts_iff_closed]
  unfold Closed Guarded Barred
  tauto

end RecoveryOS.Decision.Question

namespace RecoveryOS.Core

open Store Decision

/-! ## Suppressed cases -/

/-- The case's disposition suppresses contacts. -/
def Silencing (c : RecoveryCase) : Prop :=
  (Safety.suppressionReason c.contactDisposition).isSome = true

/-- The case is there and its disposition suppresses contacts. -/
def SuppressedCase (db : Database) (caseId : String) : Prop :=
  ∃ c ∈ db.cases, c.id = caseId ∧ Silencing c

section
variable {db db' db'' : Database} {W : Scope} {caseId : String}

lemma SuppressedCase.of_eq (hc : db'.cases = db.cases) (h : SuppressedCase db caseId) :
    SuppressedCase db' caseId := by
  unfold SuppressedCase
  rw [hc]
  exact h

/-- A case is suppressed if its row is. -/
lemma suppressedCase_iff (hk : Table.Keyed (·.id) db.cases) {c : RecoveryCase}
    (hc : c ∈ db.cases) : SuppressedCase db c.id ↔ Silencing c := by
  constructor
  · rintro ⟨c', hc', hid, hs⟩
    rwa [hk.eq hc' hc hid] at hs
  · exact fun hs => ⟨c, hc, rfl, hs⟩

/-! ### No write takes a suppression back -/

lemma CaseMove.suppressed {c c' : RecoveryCase} (h : CaseMove c c') (hs : Silencing c) :
    Silencing c' := by
  unfold Silencing at hs ⊢
  cases h with
  | noted h => rwa [h.disposition]
  | captured amount h => rwa [h.disposition]
  | marked h =>
    subst h
    rfl
  | closed h =>
    rcases h.disposition with hd | hd
    · rwa [hd]
    · exact hd

lemma EffectOf.suppressed (h : EffectOf W db db') (hk : Keys db) (hs : SuppressedCase db caseId) :
    SuppressedCase db' caseId := by
  obtain ⟨c, hc, rfl, hs⟩ := hs
  rcases h.cases with hm | ⟨new, -, hins⟩
  · have hid : c.id ∈ db'.cases.map (·.id) := by
      rw [hm.ids]
      exact List.mem_map_of_mem hc
    obtain ⟨c', hc', hid⟩ := List.mem_map.mp hid
    obtain ⟨c₀, hc₀, hmove⟩ := hm.moved c' hc'
    obtain rfl : c₀ = c := hk.cases.eq hc₀ hc (hmove.same.id.symm.trans hid)
    exact ⟨c', hc', hid, hmove.suppressed hs⟩
  · refine ⟨c, ?_, rfl, hs⟩
    rw [(insertCase_tables hins).2.2]
    exact List.mem_append_left _ hc

theorem EvolvesOf.suppressed (h : EvolvesOf W db db') (hk : Keys db)
    (hs : SuppressedCase db caseId) : SuppressedCase db' caseId :=
  (h.induct (P := fun db => Keys db ∧ SuppressedCase db caseId)
    (fun he h => ⟨h.1.effect he, he.suppressed h.1 h.2⟩) ⟨hk, hs⟩).2

/-! ### What does not come from the merchant or the customer adds none -/

/-- No case is newly suppressed. -/
def NoneSuppressed (db db' : Database) : Prop :=
  ∀ caseId, SuppressedCase db' caseId → SuppressedCase db caseId

lemma NoneSuppressed.trans (h : NoneSuppressed db db') (h' : NoneSuppressed db' db'') :
    NoneSuppressed db db'' := fun caseId hs => h caseId (h' caseId hs)

lemma NoneSuppressed.same (h : db'.cases = db.cases) : NoneSuppressed db db' :=
  fun _ hs => hs.of_eq h.symm

lemma NoneSuppressed.put {c c' : RecoveryCase} (hc : c ∈ db.cases)
    (h : db'.cases = Table.put (·.id) db.cases c') (hid : c'.id = c.id)
    (hd : c'.contactDisposition = c.contactDisposition) : NoneSuppressed db db' := by
  rintro caseId ⟨x, hx, rfl, hs⟩
  rw [h] at hx
  rcases Table.mem_put hx with rfl | ⟨hx, -⟩
  · refine ⟨c, hc, hid.symm, ?_⟩
    unfold Silencing at hs ⊢
    rwa [← hd]
  · exact ⟨x, hx, rfl, hs⟩

lemma EffectOf.noneSuppressed (h : EffectOf W db db') (hw : ¬ W.contact) :
    NoneSuppressed db db' := by
  cases h with
  | other h => exact .same h.cases
  | event e h =>
    obtain ⟨_, -, rfl⟩ := Option.map_eq_some_iff.mp h
    exact .same rfl
  | invoice i h =>
    obtain ⟨_, -, rfl⟩ := Option.map_eq_some_iff.mp h
    exact .same rfl
  | payment p h =>
    obtain ⟨_, -, rfl⟩ := Option.map_eq_some_iff.mp h
    exact .same rfl
  | attempt hp h => exact .same rfl
  | opened h hc =>
    rename_i new
    rintro caseId ⟨x, hx, rfl, hs⟩
    rw [(insertCase_tables h).2.2] at hx
    rcases List.mem_append.mp hx with hx | hx
    · exact ⟨x, hx, rfl, hs⟩
    · obtain rfl := List.mem_singleton.mp hx
      unfold Silencing at hs
      rw [hc.notContacted] at hs
      cases hs
  | noted hc h => exact .put hc rfl h.id h.disposition
  | captured t hc h => exact .put hc (cases_settle _ t) h.id h.disposition
  | recognized t hr h =>
    refine .put h.mem ?_ h.captured.id h.captured.disposition
    rw [cases_settle]
    exact congrArg (Table.put _ · _) (insertRecognition_tables hr).2.2
  | marked caseId hc => exact absurd hc hw
  | closed t hc h hcontact => exact absurd hcontact hw
  | added h hd => exact .same (insertActionWithPolicy_tables h).2.2.2
  | moved ha h => exact .same rfl
  | swept f h => exact .same rfl
  | stamped f h => exact .same rfl
  | consumed c h => exact .same rfl

lemma EvolvesOf.noneSuppressed (h : EvolvesOf W db db') (hw : ¬ W.contact) :
    NoneSuppressed db db' :=
  h.induct (P := NoneSuppressed db) (fun he hn => hn.trans (he.noneSuppressed hw)) (.same rfl)

end

/-! ## The operations -/

section
open Worker

variable {rt : Runtime} {command : ExecuteActionInput} {inFlight : List String} {now : Instant}
  {db : Database} {actionId caseId : String}

lemma cases_executePaymentSurface :
    (executePaymentSurface rt command inFlight now db).2.cases = db.cases := by
  have hsurface : ∀ surface a p, (claimSurfaceAction inFlight surface now a p db).2.cases = db.cases := by
    intro surface a p
    unfold claimSurfaceAction
    dsimp only
    repeat' split
    all_goals rfl
  have hauthorized : ∀ row surface, (claimAuthorizedAction row surface now db).2.cases = db.cases := by
    intro row surface
    unfold claimAuthorizedAction
    dsimp only
    repeat' split
    all_goals rfl
  unfold executePaymentSurface claimPaymentAction claimA2aPaymentAction
  dsimp only
  repeat' split
  all_goals first | rfl | exact hsurface _ _ _ | exact hauthorized _ _

lemma cases_claimVoiceAction {ready : Bool} :
    (claimVoiceAction command ready db).2.cases = db.cases := by
  unfold claimVoiceAction
  dsimp only
  repeat' split
  all_goals rfl

lemma cases_persistPaymentSurface {result : PaymentSurfaceResult} :
    (persistPaymentSurface actionId result now db).2.cases = db.cases := by
  unfold persistPaymentSurface
  dsimp only
  repeat' split
  all_goals rfl

lemma cases_reconcileStandardPaymentLink {lookup : LinkLookup}
    {resubmission : Option PaymentSurfaceResult} :
    (reconcileStandardPaymentLink rt actionId lookup resubmission now db).2.cases = db.cases := by
  unfold reconcileStandardPaymentLink
  repeat' split
  all_goals rfl

lemma cases_finalizeVoiceAction {reference : Option String} :
    (finalizeVoiceAction actionId reference now db).cases = db.cases := by
  unfold finalizeVoiceAction
  repeat' split
  all_goals rfl

lemma cases_foldl_putAction (rows : List RecoveryActionRecord) :
    ∀ db : Database, (rows.foldl (fun db a => db.putAction a) db).cases = db.cases := by
  induction rows with
  | nil => exact fun _ => rfl
  | cons r rows ih => exact fun db => ih (db.putAction r)

lemma cases_cleanupStandardPaymentLinks {replies : LinkReplies} :
    (cleanupStandardPaymentLinks rt replies caseId now db).2.cases = db.cases := by
  unfold cleanupStandardPaymentLinks
  repeat' split
  all_goals first | rfl | exact cases_foldl_putAction _ _

lemma cases_recordAuditEvent {input : AuditInput} :
    (recordAuditEvent input now db).cases = db.cases := by
  unfold recordAuditEvent
  cases h : db.insertEvent _ with
  | none => rfl
  | some db' =>
    obtain ⟨_, -, rfl⟩ := Option.map_eq_some_iff.mp h
    rfl

end

/-! ### The operator -/

section
open Cases

variable {db db₀ : Database} {merchantId caseId : String}

lemma addEvent_ofCases {e : RecoveryEventRecord} {P : Database → Prop}
    (hP : ∀ t t' : Database, t'.cases = t.cases → P t → P t') : Tx.Keeps P (addEvent e) := by
  refine .modify fun t h => ?_
  cases he : t.insertEvent e with
  | none => exact h
  | some t' =>
    obtain ⟨_, -, rfl⟩ := Option.map_eq_some_iff.mp he
    exact hP t _ rfl h

lemma addEvent_noneSuppressed {e : RecoveryEventRecord} :
    Tx.Keeps (NoneSuppressed db) (addEvent e) :=
  addEvent_ofCases fun _ _ hc h => h.trans (.same hc)

lemma stopCase_noneSuppressed {stoppedAt : Instant} :
    Tx.Ensures (· = db) (stopCase merchantId caseId stoppedAt) fun _ t => NoneSuppressed db t := by
  refine .query_bind fun found => .expect_bind fun c hfound => ?_
  split_ifs
  · exact .pure fun t ht => ht.1 ▸ .same rfl
  · refine .require_bind fun _ => .bind (Q := fun _ => NoneSuppressed db) (.modify ?_) fun _ =>
      .bind addEvent_noneSuppressed fun _ => .pure fun _ h => h
    rintro t ⟨rfl, hf⟩
    rw [hfound] at hf
    exact .put (List.mem_of_find?_eq_some hf) rfl rfl rfl

lemma escalateCase_noneSuppressed {reason actionId policyId : String}
    {escalatedAt utcNow : Instant} :
    Tx.Ensures (· = db)
      (escalateCase merchantId caseId reason actionId policyId escalatedAt utcNow)
      fun _ t => NoneSuppressed db t := by
  refine .query_bind fun found => .expect_bind fun c hfound => ?_
  split_ifs
  · exact .pure fun t ht => ht.1 ▸ .same rfl
  · refine .require_bind fun _ => .bind (Q := fun _ t => t.cases = db.cases ∧ c ∈ db.cases)
      (.attempt ?_) fun _ => .bind (Q := fun _ => NoneSuppressed db) (.modify ?_) fun _ =>
      .bind addEvent_noneSuppressed fun _ => .pure fun _ h => h
    · rintro t ⟨rfl, hf⟩ t' ht'
      rw [hfound] at hf
      exact ⟨(insertActionWithPolicy_tables ht').2.2.2, List.mem_of_find?_eq_some hf⟩
    · rintro t ⟨hcases, hc⟩
      exact .put hc (congrArg (Table.put _ · _) hcases) rfl rfl

/-- A disposition that is recorded closes the case, or finds it closed the same way. -/
lemma recordSafetyDisposition_cases {disposition : ContactDisposition} {recordedAt : Instant} :
    Tx.Ensures (· = db) (recordSafetyDisposition merchantId caseId disposition recordedAt)
      fun c t => Silencing c ∧ c.id = caseId ∧ (∃ x ∈ db.cases, x.id = caseId) ∧
        (t.cases = db.cases ∧ c ∈ db.cases ∨ t.cases = Table.put (·.id) db.cases c) := by
  refine .expect_bind fun target htarget => .query_bind fun found => .expect_bind fun x hfound => ?_
  have hsuppress := suppresses_of_terminalOutcome htarget
  have hx : ∀ {t : Database}, t = db ∧ getCase merchantId caseId t = found →
      x ∈ db.cases ∧ x.id = caseId := by
    rintro t ⟨rfl, hf⟩
    rw [hfound] at hf
    have hid := List.find?_some hf
    simp only [decide_eq_true_eq] at hid
    exact ⟨List.mem_of_find?_eq_some hf, hid.1⟩
  split_ifs with hopen
  · refine .require_bind fun hsame => .pure fun t ht => ?_
    simp only [Bool.and_eq_true, decide_eq_true_eq] at hsame
    obtain ⟨hmem, hid⟩ := hx ht
    refine ⟨?_, hid, ⟨x, hmem, hid⟩, .inl ⟨by rw [ht.1], hmem⟩⟩
    unfold Silencing
    rwa [hsame.2]
  · have hnote : ∀ c : RecoveryCase, Tx.Ensures (fun t : Database => t.cases = db.cases)
        (noteOptOut c disposition recordedAt) fun _ t => t.cases = db.cases := by
      intro c
      unfold noteOptOut
      split_ifs
      · exact .query_bind fun _ => .expect_bind fun _ _ => .modify fun t ht => ht.1
      · exact .pure fun _ h => h
    intro t ht
    obtain ⟨hmem, hid⟩ := hx ht
    refine Tx.Ensures.bind (hnote _) (fun _ => .bind (Q := fun _ t => t.cases =
      Table.put (·.id) db.cases { x with
        contactDisposition := disposition
        caseOutcome := target
        version := x.version + 1 }) (.modify fun t ht => ?_) fun _ =>
      .bind (addEvent_ofCases fun _ _ hc h => hc.trans h) fun _ => .pure fun t ht =>
        ⟨hsuppress, hid, ⟨x, hmem, hid⟩, .inr ht⟩) t (by rw [ht.1])
    exact congrArg (Table.put _ · _) ht

end

/-! ### The callbacks -/

section
open Voice

variable {callback : Callback} {eventId attemptId caseId : String} {now : Instant}
  {cancelSucceeds : Bool} {db : Database}

lemma cases_applyCallback {provider : String} {changes : Changes} :
    (applyCallback provider eventId attemptId changes db).2.cases = db.cases := by
  unfold applyCallback
  split
  · rfl
  · next received hreceived =>
    obtain ⟨_, -, rfl⟩ := Option.map_eq_some_iff.mp hreceived
    split <;> rfl

/-- The opt-out that a callback brings and that was not received before: its attempt, and the open
transaction. -/
def newOptOut (callback : Callback) (eventId attemptId : String) (db : Database) :
    Option (VoiceContactAttemptRecord × Database) :=
  match callback.intent with
  | some .optOut =>
    match applyCallback callback.provider eventId attemptId (callback.changes .optOut) db with
    | ((some attempt, false), applied) => some (attempt, applied)
    | _ => none
  | _ => none

/-- The opt-out is the first of its customer, for the merchant. -/
def FirstOptOut (attempt : VoiceContactAttemptRecord) (db : Database) : Prop :=
  (db.insertVoiceSuppression
    ⟨attempt.merchantId, attempt.customerId, some attempt.id, "VOICE_OPT_OUT"⟩).isSome = true

def marked (caseId : String) (c : RecoveryCase) : RecoveryCase :=
  if c.id = caseId then { c with contactDisposition := .optedOut } else c

@[simp] lemma marked_id (c : RecoveryCase) : (marked caseId c).id = c.id := by
  unfold marked
  split_ifs <;> rfl

lemma suppressed_marked {c : RecoveryCase} :
    Silencing (marked caseId c) ↔ c.id = caseId ∨ Silencing c := by
  unfold marked
  split_ifs with h
  · exact ⟨fun _ => .inl h, fun _ => rfl⟩
  · exact ⟨.inr, fun hs => hs.resolve_left h⟩

lemma suppressedCase_marked {t : Database} {id : String} (h : t.cases = db.cases.map (marked id)) :
    SuppressedCase t caseId ↔
      SuppressedCase db caseId ∨ id = caseId ∧ ∃ c ∈ db.cases, c.id = caseId := by
  unfold SuppressedCase
  rw [h]
  constructor
  · rintro ⟨x, hx, rfl, hs⟩
    obtain ⟨c, hc, rfl⟩ := List.mem_map.mp hx
    rw [marked_id]
    rcases suppressed_marked.mp hs with hid | hs
    · exact .inr ⟨hid.symm, c, hc, rfl⟩
    · exact .inl ⟨c, hc, rfl, hs⟩
  · rintro (⟨c, hc, rfl, hs⟩ | ⟨rfl, c, hc, rfl⟩)
    · exact ⟨_, List.mem_map_of_mem hc, marked_id c, suppressed_marked.mpr (.inr hs)⟩
    · exact ⟨_, List.mem_map_of_mem hc, marked_id c, suppressed_marked.mpr (.inl rfl)⟩

lemma cases_suppress {attempt : VoiceContactAttemptRecord} :
    FirstOptOut attempt db ∧ (suppress attempt "VOICE_OPT_OUT" now db).1 = true ∧
        (suppress attempt "VOICE_OPT_OUT" now db).2.cases = db.cases.map (marked attempt.caseId) ∨
      ¬ FirstOptOut attempt db ∧ (suppress attempt "VOICE_OPT_OUT" now db).2.cases = db.cases := by
  unfold suppress FirstOptOut
  cases h : db.insertVoiceSuppression
    ⟨attempt.merchantId, attempt.customerId, some attempt.id, "VOICE_OPT_OUT"⟩ with
  | none => exact .inr ⟨by simp, rfl⟩
  | some t =>
    obtain ⟨_, -, rfl⟩ := Option.map_eq_some_iff.mp h
    exact .inl ⟨rfl, rfl, rfl⟩

lemma newOptOut_eq_some {attempt : VoiceContactAttemptRecord} {applied : Database}
    (h : newOptOut callback eventId attemptId db = some (attempt, applied)) :
    callback.intent = some .optOut ∧ callback.optsOut = true ∧
      applyCallback callback.provider eventId attemptId (callback.changes .optOut) db =
        ((some attempt, false), applied) := by
  unfold newOptOut at h
  split at h
  · next hintent =>
    split at h
    · next heq =>
      obtain ⟨rfl, rfl⟩ := Prod.mk.inj (Option.some.inj h)
      exact ⟨hintent, decide_eq_true hintent, heq⟩
    · cases h
  · cases h

/-- The first opt-out of a customer marks the case it is about; another one leaves the cases. -/
lemma receive_cases_of_some {attempt : VoiceContactAttemptRecord} {applied : Database}
    (h : newOptOut callback eventId attemptId db = some (attempt, applied)) :
    FirstOptOut attempt applied ∧ (receive callback eventId attemptId now cancelSucceeds db).cases =
        db.cases.map (marked attempt.caseId) ∨
      ¬ FirstOptOut attempt applied ∧
        (receive callback eventId attemptId now cancelSucceeds db).cases = db.cases := by
  obtain ⟨hintent, hout, heq⟩ := newOptOut_eq_some h
  have happlied := @cases_applyCallback eventId attemptId db callback.provider
    (callback.changes .optOut)
  rw [heq] at happlied
  dsimp only at happlied
  unfold receive
  rw [hintent]
  dsimp only
  rw [heq]
  dsimp only
  rw [if_pos hout, ← happlied]
  rcases @cases_suppress now applied attempt with ⟨hfirst, hcreated, hmarked⟩ | ⟨hnot, hsame⟩
  · refine .inl ⟨hfirst, ?_⟩
    split
    · rw [hcreated]
      exact hmarked
    · exact hmarked
  · refine .inr ⟨hnot, ?_⟩
    split
    · split_ifs
      · exact hsame
      · exact happlied.symm
    · exact hsame

lemma receive_cases_of_none (h : newOptOut callback eventId attemptId db = none) :
    (receive callback eventId attemptId now cancelSucceeds db).cases = db.cases := by
  unfold receive
  split
  · rfl
  · next intent hintent =>
    have happlied : (applyCallback callback.provider eventId attemptId (callback.changes intent)
      db).2.cases = db.cases := cases_applyCallback
    split
    · next attempt applied heq =>
      rw [heq] at happlied
      split_ifs with hout
      · -- an opt-out that is new is not none
        obtain rfl := Option.some.inj (hintent.symm.trans (of_decide_eq_true hout))
        unfold newOptOut at h
        rw [hintent] at h
        dsimp only at h
        rw [heq] at h
        cases h
      · exact happlied
    · next heq =>
      rw [heq] at happlied
      exact happlied

/-- A callback suppresses the case of its attempt, if that is the first opt-out of the customer, and
no other case. -/
theorem receive_suppressed_iff :
    SuppressedCase (receive callback eventId attemptId now cancelSucceeds db) caseId ↔
      SuppressedCase db caseId ∨ ∃ attempt applied,
        newOptOut callback eventId attemptId db = some (attempt, applied) ∧
          FirstOptOut attempt applied ∧ attempt.caseId = caseId ∧ ∃ c ∈ db.cases, c.id = caseId := by
  have hsame : ∀ t : Database, t.cases = db.cases →
      (SuppressedCase t caseId ↔ SuppressedCase db caseId) :=
    fun t ht => ⟨fun hs => hs.of_eq ht.symm, fun hs => hs.of_eq ht⟩
  cases h : newOptOut callback eventId attemptId db with
  | none =>
    rw [hsame _ (receive_cases_of_none h)]
    simp
  | some r =>
    obtain ⟨attempt, applied⟩ := r
    simp only [Option.some.injEq, Prod.mk.injEq]
    rcases @receive_cases_of_some callback eventId attemptId now cancelSucceeds db attempt applied h
      with ⟨hfirst, hcases⟩ | ⟨hnot, hcases⟩
    · rw [suppressedCase_marked hcases]
      constructor
      · rintro (hs | hs)
        · exact .inl hs
        · exact .inr ⟨attempt, applied, ⟨rfl, rfl⟩, hfirst, hs⟩
      · rintro (hs | ⟨a, t, ⟨rfl, rfl⟩, -, hs⟩)
        · exact .inl hs
        · exact .inr hs
    · rw [hsame _ hcases]
      constructor
      · exact .inl
      · rintro (hs | ⟨a, t, ⟨rfl, rfl⟩, hfirst, -⟩)
        · exact hs
        · exact absurd hfirst hnot

end

/-! ## Steps -/

/-- Where contact is not at hand. -/
def Scope.unspoken : Scope := ⟨fun _ => True, False⟩

/-- A step records a suppression on a case: an operator's safety disposition, or the first opt-out
of a customer by voice. -/
def Suppresses (w : World) (caseId : String) : Op → Prop
  | .recordDisposition m c disposition t => c = caseId ∧
      ∃ r db, Cases.recordSafetyDisposition m c disposition t w.db = .ok (r, db)
  | .callback callback eventId attemptId _ _ => ∃ attempt applied,
      newOptOut callback eventId attemptId w.db = some (attempt, applied) ∧
        FirstOptOut attempt applied ∧ attempt.caseId = caseId ∧ ∃ c ∈ w.db.cases, c.id = caseId
  | _ => False

section
variable {d : Deployment} {w : World} {caseId : String}

lemma noneSuppressed_commit {ε α : Type} {tx : Tx ε Database α} {db : Database}
    (h : Tx.Ensures (· = db) tx fun _ t => NoneSuppressed db t) : NoneSuppressed db (commit tx db) := by
  rcases commit_cases h with hdb | hs
  · rw [hdb]
    exact .same rfl
  · exact hs

lemma persistRecommendation_cases {pending : Cases.PendingRecommendation} {db : Database} :
    Tx.Ensures (· = db) (Cases.persistRecommendation pending) fun _ t => t.cases = db.cases := by
  refine .query_bind fun existing => ?_
  cases existing with
  | some action =>
    exact .query_bind fun _ => .expect_bind fun _ _ => .pure fun t ht => by rw [ht.1.1]
  | none =>
    refine .bind (Q := fun _ t => t.cases = db.cases) (.attempt ?_) fun _ =>
      .bind (addEvent_ofCases fun _ _ hc h => hc.trans h) fun _ => .pure fun _ h => h
    rintro t ⟨rfl, -⟩ t' ht'
    exact (insertActionWithPolicy_tables ht').2.2.2

lemma commitApproval_cases {pending : Cases.PendingApproval} {t : Instant} {db : Database} :
    Tx.Ensures (· = db) (Cases.commitApproval pending t) fun _ t => t.cases = db.cases :=
  (commitApproval_spec pending t db).weaken fun _ _ h => by
    obtain ⟨row, -, -, hdb⟩ := h
    exact (commitApproval_tables hdb).2.1

lemma commit_same {ε α : Type} {tx : Tx ε Database α} {db : Database}
    (h : Tx.Ensures (· = db) tx fun _ t => t.cases = db.cases) : (commit tx db).cases = db.cases := by
  rcases commit_cases h with hdb | hs
  · rw [hdb]
  · exact hs

lemma poll_cases {p : A2A.Presentation} : (w.poll d p).db.cases = w.db.cases := by
  unfold World.poll
  repeat' split
  all_goals rfl

lemma execute_cases {worker : ℕ} {command : Worker.ExecuteActionInput} {ready : Bool}
    {now : Instant} : (w.execute d worker command ready now).db.cases = w.db.cases := by
  unfold World.execute
  split_ifs
  · have h : (Worker.claimVoiceAction command ready w.db).2.cases = w.db.cases :=
      cases_claimVoiceAction
    unfold World.executeVoice
    split
    · next heq =>
      rw [heq] at h
      exact h
    · next heq =>
      rw [heq] at h
      exact h
  · rw [executeSurface_db]
    exact cases_executePaymentSurface
  · rfl

/-- Nothing but a disposition of the operator or a callback suppresses a case. -/
lemma step_noneSuppressed {op : Op} (hop : ∀ caseId, ¬ Suppresses w caseId op) :
    NoneSuppressed w.db (w.step d op).db := by
  cases op with
  | deliver entry message => exact .same rfl
  | process call =>
    exact EvolvesOf.noneSuppressed (W := .unspoken)
      (Webhook.processNext_evolvesOf w.db fun _ _ _ _ => trivial) id
  | recommend service request =>
    simp only [World.step, World.recommend]
    split <;> exact .same rfl
  | commitRecommendation i =>
    simp only [World.step]
    split
    · exact .same rfl
    · exact .same (commit_same persistRecommendation_cases)
  | loadApproval m c a =>
    simp only [World.step, World.loadApproval]
    split <;> exact .same rfl
  | commitApproval i t =>
    simp only [World.step]
    split
    · exact .same rfl
    · exact .same (commit_same commitApproval_cases)
  | reject m c a held t =>
    exact (evolvesOf_commit (W := .unspoken)
      (ensures_of_evolves rejectAction_evolves)).noneSuppressed id
  | stop m c t => exact noneSuppressed_commit stopCase_noneSuppressed
  | escalate m c reason a p t t' => exact noneSuppressed_commit escalateCase_noneSuppressed
  | recordDisposition m c disposition t =>
    simp only [World.step, commit]
    split
    · next r t' h => exact absurd ⟨rfl, r, t', h⟩ (hop c)
    · exact .same rfl
  | reserveVoice attempt =>
    simp only [World.step]
    cases h : w.db.insertVoiceAttempt attempt with
    | none => exact .same rfl
    | some db' =>
      obtain ⟨_, -, rfl⟩ := Option.map_eq_some_iff.mp h
      exact .same rfl
  | callback callback eventId attemptId now cancelSucceeds =>
    intro caseId hs
    rcases receive_suppressed_iff.mp hs with hs | hs
    · exact hs
    · exact absurd hs (hop caseId)
  | poll p => exact .same poll_cases
  | execute worker command ready now => exact .same execute_cases
  | reply i reply =>
    simp only [World.step]
    split
    · exact .same (congrArg Database.cases answer_db)
    · exact .same rfl
  | persist i now =>
    simp only [World.step]
    split
    · exact .same cases_persistPaymentSurface
    · exact .same rfl
  | reconcile i lookup resubmission now =>
    simp only [World.step]
    split
    · refine .same ?_
      rw [reconcile_db]
      exact cases_reconcileStandardPaymentLink
    · exact .same rfl
  | finishVoice i reference now =>
    simp only [World.step]
    split
    · exact .same rfl
    · exact .same cases_finalizeVoiceAction
  | crash worker => exact .same rfl
  | land i linkId =>
    simp only [World.step]
    split <;> exact .same rfl
  | lose i => exact .same rfl
  | expire linkId => exact .same rfl
  | cleanup caseId replies revoked now => exact .same cases_cleanupStandardPaymentLinks
  | cancelOthers caseId now => exact .same rfl
  | audit command now => exact .same cases_recordAuditEvent

lemma step_keys (hk : Keys w.db) (op : Op) : Keys (w.step d op).db := by
  by_cases hop : op.blind
  · cases op with
    | commitRecommendation i =>
      simp only [World.step]
      split
      · exact hk
      · next pending _ =>
        rcases commit_cases (persistRecommendation_spec pending w.db) with h | h | ⟨db₁, hi, he⟩
        · rw [h]
          exact hk
        · rw [h]
          exact hk
        · exact (hk.insertActionWithPolicy hi).evolves he
    | commitApproval i t =>
      simp only [World.step]
      split
      · exact hk
      · next pending _ =>
        rcases commit_cases (commitApproval_spec pending t w.db) with h | ⟨row, -, -, h⟩
        · rw [h]
          exact hk
        · obtain ⟨hactions, hcases, -⟩ := commitApproval_tables h
          refine ⟨?_, ?_⟩
          · rw [hcases]
            exact hk.cases
          · rw [hactions]
            exact hk.actions.put _
    | _ => exact absurd hop id
  · exact hk.evolves (step_evolves hk hop)

/-- A case stays suppressed. -/
lemma step_suppressed (hk : Keys w.db) (op : Op) (hs : SuppressedCase w.db caseId) :
    SuppressedCase (w.step d op).db caseId := by
  by_cases hop : op.blind
  · cases op with
    | commitRecommendation i =>
      simp only [World.step]
      split
      · exact hs
      · exact hs.of_eq (commit_same persistRecommendation_cases)
    | commitApproval i t =>
      simp only [World.step]
      split
      · exact hs
      · exact hs.of_eq (commit_same commitApproval_cases)
    | _ => exact absurd hop id
  · exact (step_evolves hk hop).suppressed hk hs

/-- What a step says of the cases that are suppressed. -/
theorem step_suppressed_iff (hk : Keys w.db) (op : Op) :
    SuppressedCase (w.step d op).db caseId ↔
      SuppressedCase w.db caseId ∨ Suppresses w caseId op := by
  by_cases hop : ∀ caseId, ¬ Suppresses w caseId op
  · constructor
    · exact fun hs => .inl (step_noneSuppressed hop caseId hs)
    · exact fun hs => step_suppressed hk op (hs.resolve_right (hop caseId))
  · cases op with
    | recordDisposition m c disposition t =>
      obtain ⟨_, -, r, db, hok⟩ := not_forall_not.mp hop
      obtain ⟨hsuppress, hid, ⟨x, hx, hxid⟩, hcases⟩ :=
        recordSafetyDisposition_cases w.db rfl _ _ hok
      simp only [World.step, commit, Suppresses]
      rw [hok]
      dsimp only
      rcases hcases with ⟨hsame, hr⟩ | hput
      · constructor
        · exact fun hs => .inl (hs.of_eq hsame.symm)
        · rintro (hs | ⟨rfl, -⟩)
          · exact hs.of_eq hsame
          · exact SuppressedCase.of_eq hsame ⟨r, hr, hid, hsuppress⟩
      · have hmem : r ∈ db.cases := by
          rw [hput]
          exact Table.mem_put_self hx (hxid.trans hid.symm)
        constructor
        · rintro ⟨y, hy, rfl, hs⟩
          rw [hput] at hy
          rcases Table.mem_put hy with rfl | ⟨hy, -⟩
          · exact .inr ⟨hid.symm, _, _, rfl⟩
          · exact .inl ⟨y, hy, rfl, hs⟩
        · rintro (⟨y, hy, rfl, hs⟩ | ⟨rfl, -⟩)
          · by_cases hsame : y.id = r.id
            · exact ⟨r, hmem, hsame.symm, hsuppress⟩
            · refine ⟨y, ?_, rfl, hs⟩
              rw [hput]
              exact Table.mem_put_of_ne hy hsame
          · exact ⟨r, hmem, hid, hsuppress⟩
    | callback callback eventId attemptId now cancelSucceeds => exact receive_suppressed_iff
    | _ => exact absurd (fun _ => id) hop

end

/-! ## Decisions -/

/-- A step decides a question about a case: the operator's recommendation, or the one that the
processor makes after a failed payment, on the state that the event has left. -/
def DecidesOn (d : Deployment) (w : World) (q : Question) : Op → Prop
  | .recommend service request =>
    (DecidingCall.recommendAction service request).Asks w.db q ∧
      ∃ pending, Cases.decideRecommendation service request w.db = .ok (.inr pending, w.db)
  | .process call => ∃ outbox payload inbox effects c applied,
      Webhook.nextMessage call w.db = some outbox ∧ outbox.payload = some payload ∧
        Webhook.applyMessage d.platform call payload w.db =
          .ok ((inbox, effects, some c), applied) ∧
        payload.event.eventType = "payment.failed" ∧
        Webhook.existingRecommendation c.id applied = none ∧
        (DecidingCall.initialRecommendation d.platform call payload.merchantId c).Asks applied q
  | _ => False

section
variable {d : Deployment} {w : World} {q : Question} {op : Op}

lemma getCaseAggregate_case {m c : String} {db : Database} :
    Tx.Ensures (· = db) (Cases.getCaseAggregate m c) fun a _ => a.recoveryCase ∈ db.cases := by
  refine .query_bind fun _ => .expect_bind fun x hx => .query_bind fun _ => .expect_bind fun _ _ =>
    .query_bind fun _ => .expect_bind fun _ _ => .query_bind fun _ => .query_bind fun _ => .pure ?_
  rintro t ⟨⟨⟨⟨⟨rfl, hf⟩, -⟩, -⟩, -⟩, -⟩
  rw [hx] at hf
  exact List.mem_of_find?_eq_some hf

lemma decisionPoint_case {service : Cases.Service} {request : Cases.RecommendRequest}
    {c : RecoveryCase} {db : Database} :
    Tx.Ensures (· = db) (Cases.decisionPoint service request c) fun p _ => p.recoveryCase = c := by
  refine .query_bind fun _ => .expect_bind fun _ _ => .query_bind fun _ => .expect_bind fun _ _ =>
    .call_bind fun _ _ => ?_
  split_ifs
  · exact .pure fun _ _ => rfl
  · exact .throw

/-- The case that is decided on is suppressed exactly if it was before the step. -/
lemma DecidesOn.suppressed_iff (h : DecidesOn d w q op) (hk : Keys w.db) :
    Silencing q.point.recoveryCase ↔ SuppressedCase w.db q.point.recoveryCase.id := by
  cases op with
  | recommend service request =>
    obtain ⟨⟨aggregate, point, haggregate, hpoint, rfl⟩, -⟩ := h
    have hcase : aggregate.recoveryCase ∈ w.db.cases := getCaseAggregate_case w.db rfl _ _ haggregate
    have hpoint : point.recoveryCase = aggregate.recoveryCase :=
      decisionPoint_case w.db rfl _ _ hpoint
    exact (suppressedCase_iff hk.cases (hpoint ▸ hcase)).symm
  | process call =>
    obtain ⟨outbox, payload, inbox, effects, c, applied, -, -, happ, -, -, point, customer, hpoint,
      rfl⟩ := h
    obtain ⟨hevolves, hcase⟩ := Webhook.applyMessage_holds (W := .unspoken) trivial w.db
      (EvolvesOf.refl w.db) _ _ happ
    have hc : point.recoveryCase = c := (Webhook.decisionPoint_spec applied rfl _ _ hpoint).2
    have hmem : point.recoveryCase ∈ applied.cases := hc ▸ hcase c rfl
    rw [← suppressedCase_iff (hk.evolves hevolves).cases hmem]
    exact ⟨fun hs => hevolves.noneSuppressed id _ hs, fun hs => hevolves.suppressed hk hs⟩
  | _ => exact absurd h id

end

/-! ## Runs -/

/-- The customer's opt-out is accepted: the operator records it on one of the customer's cases, or a
callback of a call to the customer brings it, and is not rolled back. -/
def OptsOut (w : World) (customerId : String) : Op → Prop
  | .recordDisposition m c disposition t => disposition = .optedOut ∧ ∃ r db,
      Cases.recordSafetyDisposition m c disposition t w.db = .ok (r, db) ∧ r.customerId = customerId
  | .callback callback eventId attemptId now cancelSucceeds =>
    Voice.receive callback eventId attemptId now cancelSucceeds w.db ≠ w.db ∧ ∃ attempt applied,
      newOptOut callback eventId attemptId w.db = some (attempt, applied) ∧
        attempt.customerId = customerId
  | _ => False

section
variable (d : Deployment) (w : World) (ops : List Op)

/-- A suppression was recorded on the case, before the run or by one of its first `k` steps. -/
def SuppressionRecorded (k : ℕ) (caseId : String) : Prop :=
  SuppressedCase w.db caseId ∨
    ∃ j < k, ∃ op, ops[j]? = some op ∧ Suppresses (w.after d ops j) caseId op

/-- Step `k` decides a question about a case of a customer whose opt-out was accepted before. -/
def DecidedAfterOptOut (k : ℕ) (q : Question) : Prop :=
  (∃ i < k, ∃ op, ops[i]? = some op ∧
      OptsOut (w.after d ops i) q.point.recoveryCase.customerId op) ∧
    ∃ op, ops[k]? = some op ∧ DecidesOn d (w.after d ops k) q op

/-- An opt-out of a customer bars every contact with the customer from then on. -/
def OptOutPermanent : Prop := ∀ k q, DecidedAfterOptOut d w ops k q → q.BlocksContacts

end

section
variable {d : Deployment} {w : World}

/-- The suppressed cases are those on which a suppression was recorded. -/
theorem suppressed_iff_recorded (hk : Keys w.db) (ops : List Op) : ∀ k ≤ ops.length,
    Keys (w.after d ops k).db ∧ ∀ caseId,
      SuppressedCase (w.after d ops k).db caseId ↔ SuppressionRecorded d w ops k caseId := by
  refine World.after_induct (P := fun k t => Keys t.db ∧ ∀ caseId,
    SuppressedCase t.db caseId ↔ SuppressionRecorded d w ops k caseId) ⟨hk, fun caseId => ?_⟩ ?_
  · unfold SuppressionRecorded
    simp
  · rintro k op hop ⟨hkeys, ih⟩
    refine ⟨step_keys hkeys op, fun caseId => ?_⟩
    rw [step_suppressed_iff hkeys op, ih]
    unfold SuppressionRecorded
    constructor
    · rintro ((hs | ⟨j, hj, o, ho, hs⟩) | hs)
      · exact .inl hs
      · exact .inr ⟨j, by omega, o, ho, hs⟩
      · exact .inr ⟨k, by omega, op, hop, hs⟩
    · rintro (hs | ⟨j, hj, o, ho, hs⟩)
      · exact .inl (.inl hs)
      · rcases Nat.lt_succ_iff_lt_or_eq.mp hj with hj | rfl
        · exact .inl (.inr ⟨j, hj, o, ho, hs⟩)
        · rw [hop] at ho
          obtain rfl := Option.some.inj ho
          exact .inr hs

/-- An opt-out bars the later contacts with the customer exactly if each later decision is about a
case on which a suppression was recorded, or that is barred anyway. -/
theorem optOutPermanent_iff (hk : Keys w.db) (ops : List Op) :
    OptOutPermanent d w ops ↔ ∀ k q, DecidedAfterOptOut d w ops k q →
      q.Barred ∨ SuppressionRecorded d w ops k q.point.recoveryCase.id := by
  have hdecided : ∀ k q, DecidedAfterOptOut d w ops k q →
      (q.BlocksContacts ↔ q.Barred ∨ SuppressionRecorded d w ops k q.point.recoveryCase.id) := by
    rintro k q ⟨-, op, hop, hdecides⟩
    have hlt : k < ops.length := (List.getElem?_eq_some_iff.mp hop).1
    obtain ⟨hkeys, hrecorded⟩ := suppressed_iff_recorded (d := d) hk ops k hlt.le
    rw [q.blocksContacts_iff, ← hrecorded, ← hdecides.suppressed_iff hkeys]
    rfl
  constructor
  · exact fun h k q hq => (hdecided k q hq).mp (h k q hq)
  · exact fun h k q hq => (hdecided k q hq).mpr (h k q hq)

end

/-! ### Two cases of one customer -/

def twoCases : World where
  db := { sampleDatabase none with
    invoices := [
      ⟨"inv_1", "merchant_1", "subscription_1", "inv_1", "cycle_1", 49900, 0, "INR", "issued", none⟩,
      ⟨"inv_2", "merchant_1", "subscription_1", "inv_2", "cycle_2", 49900, 0, "INR", "issued", none⟩]
    cases := [sampleCase "case_1", { sampleCase "case_2" with
      failedInvoiceId := some "inv_2"
      billingCycleKey := some "cycle_2" }] }

/-- The operator records an opt-out on the first case, and asks for a call about the second. -/
def callAfterOptOut : List Op :=
  [.recordDisposition "merchant_1" "case_1" .optedOut 500000,
    .recommend
      { zoneInfo := Webhook.samplePlatform.zoneInfo
        globalKillSwitch := false
        capabilities := ⟨true, false⟩
        scorer := fun _ => .ok ⟨0, 0, 0, zeroProbability_mem, zeroRecovered_nonneg⟩ }
      { merchantId := "merchant_1"
        caseId := "case_2"
        actionType := some .startVoice
        paymentSurfaceType := none
        evaluatedAt := 1000000
        actionId := "action_1"
        policyId := "policy_1"
        utcNow := 1000000 }]

lemma twoCases_keys : Keys twoCases.db := by
  refine ⟨?_, List.nodup_nil⟩
  unfold Table.Keyed
  decide

theorem callAfterOptOut_iff : Keys twoCases.db ∧
    (OptOutPermanent sampleDeployment twoCases callAfterOptOut ↔
      ∀ k q, DecidedAfterOptOut sampleDeployment twoCases callAfterOptOut k q →
        q.Barred ∨ SuppressionRecorded sampleDeployment twoCases callAfterOptOut k q.point.recoveryCase.id) :=
  ⟨twoCases_keys, optOutPermanent_iff twoCases_keys callAfterOptOut⟩

/-- The call is not blocked. -/
theorem callAfterOptOut_open : ¬ OptOutPermanent sampleDeployment twoCases callAfterOptOut := by
  intro h
  have hblocks := h 1 _ ⟨⟨0, Nat.one_pos, _, rfl, rfl, _, _, rfl, rfl⟩, _, rfl,
    ⟨_, _, rfl, rfl, rfl⟩, _, rfl⟩
  rcases (Question.blocksContacts_iff _).mp hblocks with hbarred | hsuppressed
  · revert hbarred
    unfold Question.Barred
    decide
  · cases hsuppressed

end RecoveryOS.Core
