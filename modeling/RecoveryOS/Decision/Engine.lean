import RecoveryOS.Safety.Policy
import RecoveryOS.Store.Entities

/-!
# The decision engine

`decision_engine.py`: the actions that a case and the deployment admit, ranked by the scorer's
replies, of which the first that the safety policy does not block is chosen (`decide_policy`).
-/

namespace RecoveryOS.Decision

open Safety Store
open RecoveryActionType (waitForGatewayRetry openCustomerPaymentSurface startVoice
  sendToCustomerAgent escalateToHuman)

/-! ## The merchant's policy settings -/

/-- `time.fromisoformat` on the `HH:MM` that the settings hold, in microseconds of the day. -/
def timeFromIso (s : String) : Option ℤ :=
  match s.toList with
  | [a, b, ':', c, d] =>
    if [a, b, c, d].all Char.isDigit then
      let digit := fun x : Char => (x.toNat : ℤ) - 48
      let hours := 10 * digit a + digit b
      let minutes := 10 * digit c + digit d
      if hours < 24 ∧ minutes < 60 then some ((60 * hours + minutes) * minute) else none
    else none
  | _ => none

/-- A bound of the quiet hours; an empty one counts as none. -/
def parseBound (s : Option String) : Except String (Option ℤ) :=
  match truthy s with
  | none => .ok none
  | some s =>
    match timeFromIso s with
    | some t => .ok (some t)
    | none => .error ("Invalid isoformat string: " ++ s)

/-- The two bounds as `SafetyPolicyConfig` validates them. -/
def quietHoursOf : Option ℤ → Option ℤ → Except String (Option QuietHours)
  | none, none => .ok none
  | some start, some stop =>
    if h : start = stop then .error "quiet-hours start and end cannot be equal"
    else .ok (some ⟨start, stop, h⟩)
  | _, _ => .error "quiet-hours start and end must both be configured or both disabled"

/-- The `SafetyPolicyConfig` that a decision for the merchant is taken under. -/
def policyConfig (zoneInfo : String → Option Zone) (globalKillSwitch : Bool) (merchant : Merchant)
    (settings : MerchantPolicySetting) : Except String SafetyPolicyConfig := do
  let start ← parseBound settings.quietHoursStart
  let stop ← parseBound settings.quietHoursEnd
  let some actions := settings.requireApprovalActions.mapM RecoveryActionType.ofValue
    | .error "not a valid RecoveryActionType"
  let some zone := zoneInfo merchant.timezone
    | .error ("unknown IANA timezone: " ++ merchant.timezone)
  let quietHours ← quietHoursOf start stop
  if hc : ∀ n, settings.maxContactsPer7Days = some n → 1 ≤ n then
    if ha : ∀ n, settings.requireApprovalAbovePaise = some n → 0 ≤ n then
      .ok { zone, quietHours, globalKillSwitch
            maxContactsPerWindow := settings.maxContactsPer7Days
            manualApprovalActions := actions
            manualApprovalAbovePaise := settings.requireApprovalAbovePaise
            merchantKillSwitch := settings.recoveryKillSwitch
            contacts_pos := hc
            above_nonneg := ha }
    else .error "manual approval threshold cannot be negative"
  else .error "max_contacts_per_window must be positive or disabled"

/-- The status that a decision gives the action it is about. -/
def statusOf : PolicyDisposition → ActionStatus
  | .allow => .proposed
  | .block => .cancelled
  | .delay => .scheduled
  | .requireManualApproval => .awaitingApproval

/-! ## Candidates -/

structure RecoveryDecisionContext where
  amountAtRiskPaise : ℤ
  diagnosis : Diagnosis
  caseOutcome : CaseOutcome
  paymentState : PaymentState
  subscriptionState : SubscriptionState
  contactDisposition : ContactDisposition
  recoveryDeadline : Instant
  now : Instant
  hasFailedInvoice : Bool
  activeGatewayRetries : Bool
  standardPaymentLinkAvailable : Bool := false
  voiceActionAvailable : Bool := false
  voiceConsent : Bool := false
  voiceDestinationAvailable : Bool := false
  customerAgentActionAvailable : Bool := false
  customerAgentAvailable : Bool := false
  amount_nonneg : 0 ≤ amountAtRiskPaise

/-- A candidate names a surface exactly if it opens one. -/
structure RecoveryActionCandidate where
  actionType : RecoveryActionType
  paymentSurfaceType : Option PaymentSurfaceType
  technicalReason : String
  tiePriority : ℕ
  surface_iff : actionType = openCustomerPaymentSurface ↔ paymentSurfaceType.isSome = true

def RecoveryActionCandidate.key (c : RecoveryActionCandidate) : String :=
  c.actionType.value ++ ":" ++ (c.paymentSurfaceType.elim "none" (·.value))

def nonCustomerRemediable (d : Diagnosis) : Bool :=
  d ∈ [Diagnosis.merchantError, .riskOrComplianceBlock]

def gatewayRetryRelevant (d : Diagnosis) : Bool :=
  d ∈ [Diagnosis.transientRetryable, .insufficientFunds, .unknown]

def surfacePreference : Diagnosis → PaymentSurfaceType
  | .authenticationRequired | .instrumentInvalid => .subscriptionCardUpdate
  | _ => .subscriptionInvoiceLink

/-- The order of `surfaces.sort`: the preferred surface, then by name. -/
def surfaceLe (preferred : PaymentSurfaceType) (a b : PaymentSurfaceType) : Prop :=
  if a = preferred then True
  else if b = preferred then False
  else a.value ≤ b.value

instance (preferred : PaymentSurfaceType) : DecidableRel (surfaceLe preferred) := fun a b => by
  unfold surfaceLe
  infer_instance

def surfaceCandidate (surface : PaymentSurfaceType) (index : ℕ) : RecoveryActionCandidate where
  actionType := openCustomerPaymentSurface
  paymentSurfaceType := some surface
  technicalReason := "A trusted failed invoice is available for this bounded surface."
  tiePriority := 10 + index
  surface_iff := by simp

/-- `_surface_candidates`. -/
def surfaceCandidates (context : RecoveryDecisionContext) : List RecoveryActionCandidate :=
  if !context.hasFailedInvoice || nonCustomerRemediable context.diagnosis ||
      decide (context.diagnosis = .transientRetryable) && context.activeGatewayRetries then []
  else
    let surfaces := [PaymentSurfaceType.subscriptionCardUpdate, .subscriptionInvoiceLink] ++
      if context.standardPaymentLinkAvailable then [.standardPaymentLink] else []
    ((surfaces.insertionSort (surfaceLe (surfacePreference context.diagnosis))).zipIdx).map
      fun p => surfaceCandidate p.1 p.2

def waitCandidate : RecoveryActionCandidate :=
  ⟨waitForGatewayRetry, none, "The provider owns an active subscription retry.", 0, by decide⟩

def voiceCandidate : RecoveryActionCandidate :=
  ⟨startVoice, none, "The deployed voice executor has consent and a tokenized destination.", 30,
    by decide⟩

def agentCandidate : RecoveryActionCandidate :=
  ⟨sendToCustomerAgent, none, "The customer-agent executor is available for this customer.", 20,
    by decide⟩

def escalateCandidate : RecoveryActionCandidate :=
  ⟨escalateToHuman, none, "Human review is always available as a non-customer-facing control.", 40,
    by decide⟩

def stopCandidate : RecoveryActionCandidate :=
  ⟨.stop, none, "Stopping automation is always technically available.", 50, by decide⟩

/-- `generate_technically_eligible_actions`. -/
def eligibleActions (context : RecoveryDecisionContext) : List RecoveryActionCandidate :=
  let customerRemediable := !nonCustomerRemediable context.diagnosis
  (if context.activeGatewayRetries && gatewayRetryRelevant context.diagnosis then [waitCandidate]
    else []) ++
  surfaceCandidates context ++
  (if customerRemediable && context.voiceActionAvailable && context.voiceConsent &&
    context.voiceDestinationAvailable then [voiceCandidate] else []) ++
  (if customerRemediable && context.customerAgentActionAvailable &&
    context.customerAgentAvailable then [agentCandidate] else []) ++
  [escalateCandidate, stopCandidate]

/-! ## Ranking and choice -/

/-- `RecoveryScoreResult`, validated. -/
structure RecoveryScoreResult where
  recoveryProbability : ℚ
  expectedRecoveredPaise : ℤ
  expectedUtilityPaise : ℤ
  probability_mem : 0 ≤ recoveryProbability ∧ recoveryProbability ≤ 1
  recovered_nonneg : 0 ≤ expectedRecoveredPaise

lemma zeroProbability_mem : (0 : ℚ) ≤ 0 ∧ (0 : ℚ) ≤ 1 := by norm_num

lemma zeroRecovered_nonneg : (0 : ℤ) ≤ 0 := le_refl 0

/-- The key that `sorted` compares: higher utility, recovery and probability first. -/
def rankOrder (a b : RecoveryActionCandidate × RecoveryScoreResult) : Ordering :=
  (compare b.2.expectedUtilityPaise a.2.expectedUtilityPaise).then <|
  (compare b.2.expectedRecoveredPaise a.2.expectedRecoveredPaise).then <|
  (compare b.2.recoveryProbability a.2.recoveryProbability).then <|
  (compare a.1.tiePriority b.1.tiePriority).then (compare a.1.key b.1.key)

/-- The policy's question about one candidate. -/
def RecoveryDecisionContext.forCandidate (context : RecoveryDecisionContext)
    (c : RecoveryActionCandidate) : SafetyPolicyContext where
  now := context.now
  recoveryDeadline := context.recoveryDeadline
  caseOutcome := context.caseOutcome
  paymentState := context.paymentState
  subscriptionState := context.subscriptionState
  contactDisposition := context.contactDisposition
  action := c.actionType
  paymentSurfaceType := c.paymentSurfaceType
  amountAtRiskPaise := context.amountAtRiskPaise
  activeGatewayRetries := context.activeGatewayRetries
  amount_nonneg := context.amount_nonneg
  surface_iff := c.surface_iff

/-- A case at the moment a decision about it is taken, with the policy it is taken under. -/
structure DecisionPoint where
  recoveryCase : RecoveryCase
  config : SafetyPolicyConfig
  now : Instant
  amount_nonneg : 0 ≤ recoveryCase.amountAtRiskPaise

/-- The policy's question about an action on the case. -/
def DecisionPoint.context (point : DecisionPoint) (action : RecoveryActionType)
    (surface : Option PaymentSurfaceType)
    (h : action = openCustomerPaymentSurface ↔ surface.isSome = true) : SafetyPolicyContext where
  now := point.now
  recoveryDeadline := point.recoveryCase.recoveryDeadline
  caseOutcome := point.recoveryCase.caseOutcome
  paymentState := point.recoveryCase.paymentState
  subscriptionState := point.recoveryCase.subscriptionState
  contactDisposition := point.recoveryCase.contactDisposition
  action := action
  paymentSurfaceType := surface
  amountAtRiskPaise := point.recoveryCase.amountAtRiskPaise
  activeGatewayRetries := decide (point.recoveryCase.subscriptionState = .pending)
  amount_nonneg := point.amount_nonneg
  surface_iff := h

/-- What the deployment can execute. -/
structure Capabilities where
  standardPaymentLinks : Bool
  customerAgentReady : Bool

/-- The engine's question about a case; voice is never offered. -/
def DecisionPoint.rankingContext (point : DecisionPoint) (customer : Customer)
    (capabilities : Capabilities) (hasFailedInvoice : Bool) : RecoveryDecisionContext where
  amountAtRiskPaise := point.recoveryCase.amountAtRiskPaise
  diagnosis := point.recoveryCase.diagnosis
  caseOutcome := point.recoveryCase.caseOutcome
  paymentState := point.recoveryCase.paymentState
  subscriptionState := point.recoveryCase.subscriptionState
  contactDisposition := point.recoveryCase.contactDisposition
  recoveryDeadline := point.recoveryCase.recoveryDeadline
  now := point.now
  hasFailedInvoice := hasFailedInvoice
  activeGatewayRetries := decide (point.recoveryCase.subscriptionState = .pending)
  standardPaymentLinkAvailable := capabilities.standardPaymentLinks
  voiceActionAvailable := false
  voiceConsent := customer.voiceConsentAt.isSome
  voiceDestinationAvailable := customer.phoneToken.isSome
  customerAgentActionAvailable := capabilities.customerAgentReady
  customerAgentAvailable := customer.customerAgentAvailable
  amount_nonneg := point.amount_nonneg

/-- The engine asks the policy about a candidate as about any action on the case. -/
lemma rankingContext_forCandidate (point : DecisionPoint) (customer : Customer)
    (capabilities : Capabilities) (hasFailedInvoice : Bool) (c : RecoveryActionCandidate) :
    (point.rankingContext customer capabilities hasFailedInvoice).forCandidate c =
      point.context c.actionType c.paymentSurfaceType c.surface_iff :=
  rfl

/-- What `RecoveryDecisionResult` says of the candidate chosen. -/
structure RecoveryDecisionResult where
  candidate : RecoveryActionCandidate
  score : RecoveryScoreResult
  policy : PolicyDecision

/-- The first candidate of the ranking that the policy does not block. -/
def selectEligible :
    List ((RecoveryActionCandidate × RecoveryScoreResult) × PolicyDecision) →
      Option RecoveryDecisionResult
  | [] => none
  | ((c, score), policy) :: rest =>
    if policy.disposition ≠ .block then some ⟨c, score, policy⟩ else selectEligible rest

/-- The end of `decide`: the policy's view of the ranking, and the choice. -/
def choose (context : RecoveryDecisionContext) (config : SafetyPolicyConfig)
    (ranked : List (RecoveryActionCandidate × RecoveryScoreResult)) :
    Except String RecoveryDecisionResult := do
  let judged ← ranked.mapM fun p =>
    (evaluateSafetyPolicy config (context.forCandidate p.1)).map fun d => (p, d.toContract)
  match selectEligible judged with
  | some result => .ok result
  | none => .error "StopIteration"

/-- `RecoveryDecisionEngine.decide`, for a scorer that replies as `scorer` says. The features it is
asked with read the quiet hours too, and fail where they do. -/
def decide (scorer : RecoveryActionCandidate → Except String RecoveryScoreResult)
    (context : RecoveryDecisionContext) (config : SafetyPolicyConfig) :
    Except String RecoveryDecisionResult := do
  let candidates := eligibleActions context
  if let some quiet := config.quietHours then
    let _ ← quietHoursDelayUntil config.zone quiet context.now
  let scores ← candidates.mapM scorer
  if scores.any fun s => context.amountAtRiskPaise < s.expectedRecoveredPaise then
    .error "scorer expected recovery exceeds the amount at risk"
  choose context config
    ((candidates.zip scores).insertionSort fun a b => (rankOrder a b).isLE = true)

lemma mem_of_selectEligible {result : RecoveryDecisionResult} :
    ∀ {judged : List ((RecoveryActionCandidate × RecoveryScoreResult) × PolicyDecision)},
      selectEligible judged = some result →
        ((result.candidate, result.score), result.policy) ∈ judged ∧
          result.policy.disposition ≠ .block
  | [], h => by cases h
  | ((c, score), policy) :: rest, h => by
    unfold selectEligible at h
    split_ifs at h with hp
    · obtain rfl := Option.some.inj h
      exact ⟨List.mem_cons_self, hp⟩
    · obtain ⟨hmem, hd⟩ := mem_of_selectEligible h
      exact ⟨List.mem_cons_of_mem _ hmem, hd⟩

section
variable {context : RecoveryDecisionContext} {config : SafetyPolicyConfig}
  {result : RecoveryDecisionResult}

lemma choose_policy {ranked : List (RecoveryActionCandidate × RecoveryScoreResult)}
    (h : choose context config ranked = .ok result) :
    ∃ d, evaluateSafetyPolicy config (context.forCandidate result.candidate) = .ok d ∧
      result.policy = d.toContract ∧ d.disposition ≠ .block := by
  unfold choose at h
  simp only [bind, Except.bind] at h
  split at h
  · cases h
  · next judged hjudged =>
    split at h
    · next chosen hchosen =>
      obtain rfl := Except.ok.inj h
      obtain ⟨hmem, hd⟩ := mem_of_selectEligible hchosen
      obtain ⟨p, -, hp⟩ := Collected.exists_of_mem hjudged _ hmem
      cases he : evaluateSafetyPolicy config (context.forCandidate p.1) with
      | error e => simp [he, Except.map] at hp
      | ok d =>
        obtain ⟨rfl, hpol⟩ : p = (chosen.candidate, chosen.score) ∧ d.toContract = chosen.policy := by
          simpa [he, Except.map] using hp
        exact ⟨d, he, hpol.symm, by rw [← hpol] at hd; exact hd⟩
    · cases h

/-- The decision is the policy's about the candidate it names, and is no block. -/
theorem decide_policy {scorer : RecoveryActionCandidate → Except String RecoveryScoreResult}
    (h : decide scorer context config = .ok result) :
    ∃ d, evaluateSafetyPolicy config (context.forCandidate result.candidate) = .ok d ∧
      result.policy = d.toContract ∧ d.disposition ≠ .block := by
  unfold decide at h
  simp only [bind, Except.bind] at h
  repeat' split at h
  all_goals first | exact choose_policy h | cases h

end

end RecoveryOS.Decision
