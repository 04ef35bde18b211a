import RecoveryOS.Lib.Machines
import RecoveryOS.A2A.NonceStore

/-!
# The nonce store of the mock provider

`InMemoryNonceStore` keeps the claims by nonce, and the nonces by mandate. `SqlAlchemyNonceStore`
keeps rows with four unique keys. What the two hold is the same (`SameClaims`) until a claim arrives
under a new nonce and a new mandate for an action that has been claimed already: the table refuses
it by the key on the action, which the memory does not have. So the two stores agree on a sequence
of calls exactly if it has no such claim (`consume_agrees_iff`).
-/

namespace RecoveryOS.A2A

open Machines

structure InMemoryNonceStore where
  claimsByNonce : String → Option MandateNonceClaim := fun _ => none
  nonceByMandateId : String → Option String := fun _ => none

/-- `InMemoryNonceStore.consume`. -/
def InMemoryNonceStore.consume (s : InMemoryNonceStore) (c : MandateNonceClaim)
    (allowNew : Bool) : NonceClaimOutcome × InMemoryNonceStore :=
  let existing := s.claimsByNonce c.nonce
  let mandateNonce := s.nonceByMandateId c.mandateId
  if existing.isNone ∧ mandateNonce.isNone ∧ allowNew then
    (.claimed,
      { claimsByNonce := Function.update s.claimsByNonce c.nonce (some c)
        nonceByMandateId := Function.update s.nonceByMandateId c.mandateId (some c.nonce) })
  else if existing.map (·.claimId) = some c.claimId ∧ mandateNonce = some c.nonce then
    (.alreadyClaimed, s)
  else (.conflict, s)

/-- A call of `consume`: the claim, and whether it may be a new one. -/
abbrev ConsumeCall := MandateNonceClaim × Bool

/-- The outcomes of a sequence of calls on an empty memory. -/
def memoryOutcomes (calls : List ConsumeCall) : List NonceClaimOutcome :=
  answers (fun s call => InMemoryNonceStore.consume s call.1 call.2) {} calls

/-- The outcomes of a sequence of calls on an empty table. -/
def sqlOutcomes (calls : List ConsumeCall) : List NonceClaimOutcome :=
  answers (fun rows call => consume rows call.1 call.2) [] calls

/-- The claim id is a digest of what is signed. -/
def Digested (calls : List ConsumeCall) : Prop :=
  ∀ x ∈ calls, ∀ y ∈ calls, x.1.claimId = y.1.claimId → x.1.columns = y.1.columns

instance (calls : List ConsumeCall) : Decidable (Digested calls) :=
  inferInstanceAs (Decidable (∀ x ∈ calls, ∀ y ∈ calls,
    x.1.claimId = y.1.claimId → x.1.columns = y.1.columns))

/-- A claim that the memory would take as new is not for an action that it holds a claim for. -/
def NewAction (s : InMemoryNonceStore) (call : ConsumeCall) : Prop :=
  call.2 = true → s.claimsByNonce call.1.nonce = none →
    s.nonceByMandateId call.1.mandateId = none →
    ∀ nonce c, s.claimsByNonce nonce = some c → c.recoveryActionId ≠ call.1.recoveryActionId

/-- At every call of the sequence, an action is claimed under one nonce or one mandate only. -/
def OneClaimPerAction (calls : List ConsumeCall) : Prop :=
  Along (fun s call => InMemoryNonceStore.consume s call.1 call.2) NewAction {} calls

/-! ## What the two stores hold -/

/-- The memory holds the claims of a list, all of them from `calls`. -/
structure Holds (calls : List ConsumeCall) (claims : List MandateNonceClaim)
    (s : InMemoryNonceStore) : Prop where
  called : ∀ c ∈ claims, ∃ x ∈ calls, x.1 = c
  nonce : ∀ nonce c, s.claimsByNonce nonce = some c ↔ c ∈ claims ∧ c.nonce = nonce
  mandate : ∀ mandateId nonce, s.nonceByMandateId mandateId = some nonce ↔
    ∃ c ∈ claims, c.mandateId = mandateId ∧ c.nonce = nonce

/-- The memory and the table hold the same claims. -/
def SameClaims (calls : List ConsumeCall) (s : InMemoryNonceStore)
    (rows : List A2AMandateNonceConsumption) : Prop :=
  ∃ claims : List MandateNonceClaim, rows = claims.map (·.row) ∧ Holds calls claims s

section
variable {calls : List ConsumeCall} {s : InMemoryNonceStore}
  {rows : List A2AMandateNonceConsumption} {claims : List MandateNonceClaim}
  {c e : MandateNonceClaim}

lemma collides_iff {c c' : MandateNonceClaim} : c.columns.collides c'.columns = true ↔
    c.nonce = c'.nonce ∨ c.mandateId = c'.mandateId ∨ c.claimId = c'.claimId ∨
      c.recoveryActionId = c'.recoveryActionId := by
  simp only [ClaimColumns.collides, Bool.or_eq_true, Bool.and_eq_true, decide_eq_true_eq, or_assoc]
  simp only [MandateNonceClaim.columns, Option.isSome_some, true_and, Option.some.injEq]

lemma insertClaim_map_eq_none : insertClaim (claims.map (·.row)) c = none ↔
    ∃ e ∈ claims, e.columns.collides c.columns = true := by
  unfold insertClaim
  split_ifs with hany
  · simpa [MandateNonceClaim.row] using hany
  · simpa [MandateNonceClaim.row] using hany

/-- The table recognises a retry by its columns. -/
lemma existingOutcome_map : existingOutcome (claims.map (·.row)) c =
    if ∃ e ∈ claims, e.columns = c.columns then .alreadyClaimed else .conflict := by
  unfold existingOutcome
  congr 1
  simp only [List.any_eq_true, List.mem_filter, List.mem_map, decide_eq_true_eq, eq_iff_iff]
  constructor
  · rintro ⟨row, ⟨⟨e, he, rfl⟩, -⟩, hcol⟩
    exact ⟨e, he, hcol⟩
  · rintro ⟨e, he, hcol⟩
    refine ⟨e.row, ⟨⟨e, he, rfl⟩, ?_⟩, hcol⟩
    show e.columns.collides c.columns = true
    rw [hcol]
    exact collides_of_shared (.inl rfl)

/-- A nonce that is not known is that of no claim. -/
lemma Holds.nonce_ne (h : Holds calls claims s) (hn : s.claimsByNonce c.nonce = none)
    (he : e ∈ claims) : e.nonce ≠ c.nonce := by
  intro heq
  have hsome := (h.nonce c.nonce e).mpr ⟨he, heq⟩
  rw [hn] at hsome
  cases hsome

lemma Holds.mandateId_ne (h : Holds calls claims s) (hm : s.nonceByMandateId c.mandateId = none)
    (he : e ∈ claims) : e.mandateId ≠ c.mandateId := by
  intro heq
  have hsome := (h.mandate c.mandateId e.nonce).mpr ⟨e, he, heq, rfl⟩
  rw [hm] at hsome
  cases hsome

/-- A claim that the memory takes. -/
lemma Holds.claimed {b : Bool} (hcall : (c, b) ∈ calls) (h : Holds calls claims s)
    (hn : s.claimsByNonce c.nonce = none) (hm : s.nonceByMandateId c.mandateId = none) :
    Holds calls (claims ++ [c])
      { claimsByNonce := Function.update s.claimsByNonce c.nonce (some c)
        nonceByMandateId := Function.update s.nonceByMandateId c.mandateId (some c.nonce) } := by
  refine ⟨fun e he => ?_, fun nonce e => ?_, fun mandateId nonce => ?_⟩
  · rcases List.mem_append.mp he with he | he
    · exact h.called e he
    · exact ⟨(c, b), hcall, (List.mem_singleton.mp he).symm⟩
  · by_cases hne : nonce = c.nonce
    · subst hne
      simp only [Function.update_self, Option.some.injEq, List.mem_append, List.mem_singleton]
      constructor
      · rintro rfl
        exact ⟨.inr rfl, rfl⟩
      · rintro ⟨he | rfl, heq⟩
        · exact absurd heq (h.nonce_ne hn he)
        · rfl
    · simp only [Function.update_of_ne hne, h.nonce, List.mem_append, List.mem_singleton]
      constructor
      · rintro ⟨he, heq⟩
        exact ⟨.inl he, heq⟩
      · rintro ⟨he | rfl, heq⟩
        · exact ⟨he, heq⟩
        · exact absurd heq.symm hne
  · by_cases hne : mandateId = c.mandateId
    · subst hne
      simp only [Function.update_self, Option.some.injEq, List.mem_append, List.mem_singleton]
      constructor
      · rintro rfl
        exact ⟨c, .inr rfl, rfl, rfl⟩
      · rintro ⟨e, he | rfl, heq, hen⟩
        · exact absurd heq (h.mandateId_ne hm he)
        · exact hen
    · simp only [Function.update_of_ne hne, h.mandate, List.mem_append, List.mem_singleton]
      constructor
      · rintro ⟨e, he, heq⟩
        exact ⟨e, .inl he, heq⟩
      · rintro ⟨e, he | rfl, heq⟩
        · exact ⟨e, he, heq⟩
        · exact absurd heq.1.symm hne

/-- A retry is recognised by both stores or by none. -/
lemma Holds.retry_iff {b : Bool} (hd : Digested calls) (hcall : (c, b) ∈ calls)
    (h : Holds calls claims s) :
    ((s.claimsByNonce c.nonce).map (·.claimId) = some c.claimId ∧
        s.nonceByMandateId c.mandateId = some c.nonce) ↔
      ∃ e ∈ claims, e.columns = c.columns := by
  constructor
  · rintro ⟨hid, -⟩
    obtain ⟨e, he, heid⟩ := Option.map_eq_some_iff.mp hid
    have hmem := ((h.nonce c.nonce e).mp he).1
    obtain ⟨x, hx, rfl⟩ := h.called e hmem
    exact ⟨x.1, hmem, hd x hx (c, b) hcall heid⟩
  · rintro ⟨e, he, hcol⟩
    have hen : e.nonce = c.nonce := congrArg ClaimColumns.nonce hcol
    have hem : e.mandateId = c.mandateId := congrArg ClaimColumns.mandateId hcol
    have hid : e.claimId = c.claimId := Option.some.inj (congrArg ClaimColumns.claimId hcol)
    rw [(h.nonce c.nonce e).mpr ⟨he, hen⟩]
    exact ⟨congrArg some hid, (h.mandate c.mandateId c.nonce).mpr ⟨e, he, hem, hen⟩⟩

/-- Where the memory takes no new claim, the table takes none either, and only reads. -/
lemma Holds.consume_of_known {allowNew : Bool} (h : Holds calls claims s)
    (hnew : ¬ ((s.claimsByNonce c.nonce).isNone ∧ (s.nonceByMandateId c.mandateId).isNone ∧
      allowNew)) :
    NewAction s (c, allowNew) ∧ consume (claims.map (·.row)) c allowNew =
      (existingOutcome (claims.map (·.row)) c, claims.map (·.row)) := by
  refine ⟨fun ha hn hm => absurd ⟨by simp [hn], by simp [hm], ha⟩ hnew, ?_⟩
  unfold consume
  cases allowNew with
  | false => rfl
  | true =>
    have hcollide : ∃ e ∈ claims, e.columns.collides c.columns = true := by
      cases hn : s.claimsByNonce c.nonce with
      | some e =>
        obtain ⟨he, heq⟩ := (h.nonce _ e).mp hn
        exact ⟨e, he, collides_of_shared (.inl heq)⟩
      | none =>
        cases hm : s.nonceByMandateId c.mandateId with
        | some nonce =>
          obtain ⟨e, he, heq, -⟩ := (h.mandate _ nonce).mp hm
          exact ⟨e, he, collides_of_shared (.inr (.inl heq))⟩
        | none => exact absurd ⟨by simp [hn], by simp [hm], rfl⟩ hnew
    rw [if_pos rfl, insertClaim_map_eq_none.mpr hcollide]

/-- A claim under a new nonce and a new mandate meets the table's keys only at its action. -/
lemma Holds.collides_iff_action {b : Bool} (hd : Digested calls) (hcall : (c, b) ∈ calls)
    (h : Holds calls claims s) (hn : s.claimsByNonce c.nonce = none)
    (hm : s.nonceByMandateId c.mandateId = none) :
    (∃ e ∈ claims, e.columns.collides c.columns = true) ↔
      ∃ e ∈ claims, e.recoveryActionId = c.recoveryActionId := by
  refine exists_congr fun e => and_congr_right fun he => ?_
  rw [collides_iff]
  refine ⟨?_, fun ha => .inr (.inr (.inr ha))⟩
  rintro (heq | heq | heq | heq)
  · exact absurd heq (h.nonce_ne hn he)
  · exact absurd heq (h.mandateId_ne hm he)
  · -- the same digest is of the same data, and so of the same nonce
    obtain ⟨x, hx, rfl⟩ := h.called e he
    exact absurd (congrArg ClaimColumns.nonce (hd x hx _ hcall heq)) (h.nonce_ne hn he)
  · exact heq

lemma Holds.newAction_iff (h : Holds calls claims s) (hn : s.claimsByNonce c.nonce = none)
    (hm : s.nonceByMandateId c.mandateId = none) :
    NewAction s (c, true) ↔ ¬ ∃ e ∈ claims, e.recoveryActionId = c.recoveryActionId := by
  constructor
  · rintro ha ⟨e, he, hea⟩
    exact ha rfl hn hm e.nonce e ((h.nonce _ e).mpr ⟨he, rfl⟩) hea
  · intro ha _ _ _ nonce e he hea
    exact ha ⟨e, ((h.nonce nonce e).mp he).1, hea⟩

/-- One call, on stores that hold the same: the outcomes are the same exactly if the claim is not
one that the memory takes for an action that it holds. -/
theorem SameClaims.step (hd : Digested calls) (h : SameClaims calls s rows) {call : ConsumeCall}
    (hcall : call ∈ calls) :
    ((s.consume call.1 call.2).1 = (consume rows call.1 call.2).1 ↔ NewAction s call) ∧
      (NewAction s call → SameClaims calls (s.consume call.1 call.2).2
        (consume rows call.1 call.2).2) := by
  obtain ⟨c, allowNew⟩ := call
  have hsame := h
  obtain ⟨claims, rfl, h⟩ := h
  unfold InMemoryNonceStore.consume
  dsimp only
  split_ifs with hnew hretry
  · -- the memory takes the claim; the table does unless it knows the action
    obtain ⟨hn, hm, rfl⟩ := hnew
    rw [Option.isNone_iff_eq_none] at hn hm
    unfold consume
    rw [if_pos rfl, h.newAction_iff hn hm, ← h.collides_iff_action hd hcall hn hm,
      ← insertClaim_map_eq_none]
    cases hins : insertClaim (claims.map (·.row)) c with
    | none =>
      refine ⟨iff_of_false ?_ (by simp), fun ha => absurd rfl ha⟩
      dsimp only
      rw [existingOutcome_map]
      split_ifs <;> simp
    | some rows' =>
      obtain ⟨rfl, -⟩ := insertClaim_eq_some hins
      exact ⟨iff_of_true rfl (by simp), fun _ => ⟨claims ++ [c], by simp, h.claimed hcall hn hm⟩⟩
  · -- the memory recognises the claim
    obtain ⟨hknown, hsql⟩ := h.consume_of_known hnew
    rw [hsql, existingOutcome_map, if_pos ((h.retry_iff hd hcall).mp hretry)]
    exact ⟨iff_of_true rfl hknown, fun _ => hsame⟩
  · obtain ⟨hknown, hsql⟩ := h.consume_of_known hnew
    rw [hsql, existingOutcome_map, if_neg (mt (h.retry_iff hd hcall).mpr hretry)]
    exact ⟨iff_of_true rfl hknown, fun _ => hsame⟩

end

/-- The memory and the table agree on a sequence of calls exactly if it claims no action a second
time under another nonce and another mandate. -/
theorem consume_agrees_iff (calls : List ConsumeCall) (hd : Digested calls) :
    memoryOutcomes calls = sqlOutcomes calls ↔ OneClaimPerAction calls := by
  have hempty : SameClaims calls {} [] := ⟨[], rfl, by simp, by simp, by simp⟩
  refine answers_eq_iff (Q := fun _ call => call ∈ calls) (R := SameClaims calls)
    (P := NewAction) ?_
    (along_of_forall fun _ _ hc => hc) hempty
  intro s rows call hcall h
  exact h.step hd hcall

/-- A claim on an action, under a nonce and a mandate of its own. -/
def sampleClaim (claimId recoveryActionId : String) : MandateNonceClaim where
  claimId := claimId
  nonce := "nonce_" ++ claimId
  mandateId := "mandate_" ++ claimId
  signerKeyId := "key"
  taskId := "task"
  merchantId := "merchant"
  caseId := "case"
  customerId := "customer"
  recoveryActionId := recoveryActionId
  failedInvoiceId := "inv"
  exactAmountPaise := 49900
  currency := "INR"
  paymentSurfaceType := "SUBSCRIPTION_CARD_UPDATE"
  paymentSurfaceReference := "sub"
  authorizedAction := "OPEN_EXACT_PAYMENT_SURFACE"
  issuedAt := 0
  expiresAt := 10
  consumedAt := 5

/-- Claims on two actions, the first of them retried after its expiry. -/
def sampleCalls : List ConsumeCall :=
  [(sampleClaim "1" "action_1", true), (sampleClaim "2" "action_2", true),
    (sampleClaim "1" "action_1", false)]

theorem sampleCalls_agree :
    OneClaimPerAction sampleCalls ∧
      memoryOutcomes sampleCalls = [.claimed, .claimed, .alreadyClaimed] :=
  ⟨(consume_agrees_iff sampleCalls (by decide +kernel)).mp (by decide +kernel), by decide +kernel⟩

/-- Two mandates for one action: the memory lets both through, the table only the first. -/
theorem second_mandate_for_action :
    Digested [(sampleClaim "1" "action_1", true), (sampleClaim "2" "action_1", true)] ∧
      memoryOutcomes [(sampleClaim "1" "action_1", true), (sampleClaim "2" "action_1", true)] =
        [.claimed, .claimed] ∧
      sqlOutcomes [(sampleClaim "1" "action_1", true), (sampleClaim "2" "action_1", true)] =
        [.claimed, .conflict] := by
  refine ⟨?_, ?_, ?_⟩ <;> decide +kernel

end RecoveryOS.A2A
