import RecoveryOS.Domain
import RecoveryOS.Lib.Calendar

/-!
# The safety policy

`safety/policy.py` and `safety/reasons.py`: the precedence in which `evaluate_safety_policy` blocks,
delays, asks for approval or allows, and the quiet hours it reads in the merchant's time zone.

The blocks that come first do not look at the clock's time of day or at the amount. For an action
that reaches the customer they are the same whatever the action is (`barred_isSome_iff`), and with
none of them an invoice link is never blocked (`evaluate_invoiceLink`).
-/

namespace RecoveryOS.Safety

open RecoveryActionType (openCustomerPaymentSurface startVoice sendToCustomerAgent)

/-! ## Quiet hours -/

/-- Microseconds of a day and of a minute. -/
def day : ℤ := 86400000000

def minute : ℤ := 60000000

/-- What a `datetime` can hold: arithmetic that leaves the years from 1 to 9999 raises
`OverflowError`. -/
def datetime (t : ℤ) : Except String ℤ :=
  if Calendar.InRange t then .ok t else .error "date value out of range"

/-- What `ZoneInfo` knows of a zone: the offset at an instant, and the offset it gives to a wall
time with its `fold`. -/
structure Zone where
  offset : Instant → ℤ
  wallOffset : ℤ → Bool → ℤ

namespace Zone

/-- The wall time at an instant, in microseconds. -/
def wall (z : Zone) (now : Instant) : ℤ := now + z.offset now

/-- `now.astimezone(timezone)`. -/
def astimezone (z : Zone) (now : Instant) : Except String ℤ := datetime (z.wall now)

/-- A reading of a wall time as an instant, and the wall time that the zone shows then. -/
def roundtrip (z : Zone) (naive : ℤ) (fold : Bool) : Except String (Instant × ℤ) := do
  let utc ← datetime (naive - z.wallOffset naive fold)
  let shown ← z.astimezone utc
  pure (utc, shown)

/-- `_valid_local_candidates`: the instants, among those of the two folds, that show the wall
time. -/
def validLocalCandidates (z : Zone) (naive : ℤ) : Except String (List Instant) := do
  let earlier ← z.roundtrip naive false
  let later ← z.roundtrip naive true
  pure (([earlier, later].filter fun p => p.2 = naive).map Prod.fst)

/-- The first minute from `naive` on, at most `n` of them, that some instant shows. -/
def resolveFrom (z : Zone) (naive : ℤ) : ℕ → Except String Instant
  | 0 => .error "quiet-hours end could not be resolved within a three-hour DST window"
  | n + 1 =>
    match datetime naive with
    | .error e => .error e
    | .ok naive =>
      match z.validLocalCandidates naive with
      | .error e => .error e
      | .ok [] => z.resolveFrom (naive + minute) n
      | .ok (t :: rest) => .ok (rest.foldl max t)

/-- `_resolve_quiet_end`; it raises where three hours show no candidate. -/
def resolveQuietEnd (z : Zone) (localDate endTime : ℤ) : Except String Instant :=
  z.resolveFrom (localDate * day + endTime) 181

end Zone

/-- Start and end of the quiet hours, as microseconds of the day. -/
structure QuietHours where
  start : ℤ
  stop : ℤ
  ne : start ≠ stop

/-- The local date on which the quiet interval that `now` is in ends. -/
def QuietHours.endDate (q : QuietHours) (z : Zone) (now : Instant) : Option ℤ :=
  let localTime := z.wall now % day
  let date := z.wall now / day
  if q.start < q.stop then
    if q.start ≤ localTime ∧ localTime < q.stop then some date else none
  else if q.start ≤ localTime then some (date + 1)
  else if localTime < q.stop then some date
  else none

/-- `quiet_hours_delay_until`: the end of the quiet interval that `now` is in, if any. The date after
the last one raises. -/
def quietHoursDelayUntil (z : Zone) (q : QuietHours) (now : Instant) :
    Except String (Option Instant) := do
  let _ ← z.astimezone now
  match q.endDate z now with
  | none => pure none
  | some date =>
    let _ ← datetime (date * day)
    let quietEnd ← z.resolveQuietEnd date q.stop
    pure (some quietEnd)

/-! ## Decisions -/

inductive SafetyReasonCode where
  | globalKillSwitchEnabled
  | merchantKillSwitchEnabled
  | caseTerminal
  | paymentAlreadyCaptured
  | customerOptedOut
  | wrongPerson
  | customerDispute
  | customerReportsAlreadyPaid
  | recoveryWindowExpired
  | gatewayRetryActive
  | waitForProviderRetry
  | contactLimitReached
  | quietHoursActive
  | actionRequiresApproval
  | amountRequiresApproval
  | withinRecoveryWindow
  | noSuppression
  deriving DecidableEq, Repr

def SafetyReasonCode.value : SafetyReasonCode → String
  | .globalKillSwitchEnabled => "GLOBAL_KILL_SWITCH_ENABLED"
  | .merchantKillSwitchEnabled => "MERCHANT_KILL_SWITCH_ENABLED"
  | .caseTerminal => "CASE_TERMINAL"
  | .paymentAlreadyCaptured => "PAYMENT_ALREADY_CAPTURED"
  | .customerOptedOut => "CUSTOMER_OPTED_OUT"
  | .wrongPerson => "WRONG_PERSON"
  | .customerDispute => "CUSTOMER_DISPUTE"
  | .customerReportsAlreadyPaid => "CUSTOMER_REPORTS_ALREADY_PAID"
  | .recoveryWindowExpired => "RECOVERY_WINDOW_EXPIRED"
  | .gatewayRetryActive => "GATEWAY_RETRY_ACTIVE"
  | .waitForProviderRetry => "WAIT_FOR_PROVIDER_RETRY"
  | .contactLimitReached => "CONTACT_LIMIT_REACHED"
  | .quietHoursActive => "QUIET_HOURS_ACTIVE"
  | .actionRequiresApproval => "ACTION_REQUIRES_APPROVAL"
  | .amountRequiresApproval => "AMOUNT_REQUIRES_APPROVAL"
  | .withinRecoveryWindow => "WITHIN_RECOVERY_WINDOW"
  | .noSuppression => "NO_SUPPRESSION"

structure SafetyReason where
  code : SafetyReasonCode
  message : String
  field : Option String := none
  deriving DecidableEq

/-- `SafetyPolicyConfig`, validated: both quiet-hours bounds are set or none, and the limits are
where its checks want them. -/
structure SafetyPolicyConfig where
  zone : Zone
  quietHours : Option QuietHours
  maxContactsPerWindow : Option ℤ
  manualApprovalActions : List RecoveryActionType
  manualApprovalAbovePaise : Option ℤ
  globalKillSwitch : Bool
  merchantKillSwitch : Bool
  gatewayRetryDelay : ℤ := 15 * minute
  policyVersion : String := "recovery-safety.v2"
  contacts_pos : ∀ n, maxContactsPerWindow = some n → 1 ≤ n := by decide
  above_nonneg : ∀ n, manualApprovalAbovePaise = some n → 0 ≤ n := by decide
  retry_pos : 0 < gatewayRetryDelay := by decide

/-- `SafetyPolicyContext`, validated: a surface is named exactly for the action that opens one. -/
structure SafetyPolicyContext where
  now : Instant
  recoveryDeadline : Instant
  caseOutcome : CaseOutcome
  paymentState : PaymentState
  subscriptionState : SubscriptionState
  contactDisposition : ContactDisposition
  action : RecoveryActionType
  paymentSurfaceType : Option PaymentSurfaceType
  amountAtRiskPaise : ℤ
  activeGatewayRetries : Bool := false
  contactAttemptsInWindow : ℤ := 0
  contactLimitResetsAt : Option Instant := none
  amount_nonneg : 0 ≤ amountAtRiskPaise
  surface_iff : action = openCustomerPaymentSurface ↔ paymentSurfaceType.isSome = true

/-- `SafetyDecision`: its first reason carries the decision code. -/
structure SafetyDecision where
  disposition : PolicyDisposition
  reason : SafetyReason
  moreReasons : List SafetyReason := []
  policyVersion : String
  delayUntil : Option Instant := none
  delay_iff : disposition = .delay ↔ delayUntil.isSome = true
  deriving DecidableEq

/-- `PolicyDecision`, the shared contract that decisions are persisted as. -/
structure PolicyDecision where
  disposition : PolicyDisposition
  decisionCode : String
  reasonCodes : List String
  reasons : List String
  policyVersion : String
  delayUntil : Option Instant
  deriving DecidableEq

def SafetyDecision.toContract (d : SafetyDecision) : PolicyDecision where
  disposition := d.disposition
  decisionCode := d.reason.code.value
  reasonCodes := (d.reason :: d.moreReasons).map (·.code.value)
  reasons := (d.reason :: d.moreReasons).map (·.message)
  policyVersion := d.policyVersion
  delayUntil := d.delayUntil

def isContact (a : RecoveryActionType) : Bool :=
  a ∈ [openCustomerPaymentSurface, startVoice, sendToCustomerAgent]

def isOutreach (a : RecoveryActionType) : Bool := a ∈ [startVoice, sendToCustomerAgent]

def isTerminalControl (a : RecoveryActionType) : Bool :=
  a ∈ [RecoveryActionType.stop, RecoveryActionType.escalateToHuman]

/-- `suppression_reasons`. -/
def suppressionReason : ContactDisposition → Option SafetyReason
  | .optedOut => some ⟨.customerOptedOut,
      "Customer opted out; customer-facing recovery is suppressed.", some "contact_disposition"⟩
  | .wrongPerson => some ⟨.wrongPerson,
      "The contact is not the customer; customer-facing recovery is suppressed.",
      some "contact_disposition"⟩
  | .dispute => some ⟨.customerDispute,
      "The charge is disputed; automated customer-facing recovery is suppressed.",
      some "contact_disposition"⟩
  | .alreadyPaid => some ⟨.customerReportsAlreadyPaid,
      "Customer-reported payment requires reconciliation before further contact.",
      some "contact_disposition"⟩
  | _ => none

section
variable (config : SafetyPolicyConfig)

def block (reason : SafetyReason) : SafetyDecision where
  disposition := .block
  reason := reason
  policyVersion := config.policyVersion
  delay_iff := by simp

def delay (t : Instant) (reason : SafetyReason) : SafetyDecision where
  disposition := .delay
  reason := reason
  policyVersion := config.policyVersion
  delayUntil := some t
  delay_iff := by simp

def requireManualApproval (reason : SafetyReason) (more : List SafetyReason) :
    SafetyDecision where
  disposition := .requireManualApproval
  reason := reason
  moreReasons := more
  policyVersion := config.policyVersion
  delay_iff := by simp

def allow : SafetyDecision where
  disposition := .allow
  reason := ⟨.withinRecoveryWindow, "The case is within its configured recovery window.",
    some "recovery_deadline"⟩
  moreReasons := [⟨.noSuppression, "No higher-priority suppression applies to this action.", none⟩]
  policyVersion := config.policyVersion
  delay_iff := by simp

/-- The reasons for which merchant policy asks for a human's approval. -/
def approvalReasons (context : SafetyPolicyContext) : List SafetyReason :=
  (if isTerminalControl context.action = false ∧ context.action ∈ config.manualApprovalActions then
    [⟨.actionRequiresApproval, "Merchant policy requires human approval for this action.",
      some "action"⟩]
  else []) ++
  (if isContact context.action = true ∧
      (config.manualApprovalAbovePaise.any fun n => decide (n ≤ context.amountAtRiskPaise)) then
    [⟨.amountRequiresApproval,
      "The amount at risk meets the merchant's manual approval threshold.",
      some "amount_at_risk_paise"⟩]
  else [])

/-- The last part of `evaluate_safety_policy`: approval, else allowed. -/
def approveOrAllow (context : SafetyPolicyContext) : SafetyDecision :=
  match approvalReasons config context with
  | [] => allow config
  | reason :: more => requireManualApproval config reason more

/-- The part of `evaluate_safety_policy` from the quiet hours on. -/
def quietThenApprove (context : SafetyPolicyContext) : Except String SafetyDecision :=
  match isOutreach context.action, config.quietHours with
  | true, some quiet =>
    match quietHoursDelayUntil config.zone quiet context.now with
    | .error e => .error e
    | .ok none => .ok (approveOrAllow config context)
    | .ok (some quietEnd) =>
      if quietEnd < context.recoveryDeadline then
        .ok (delay config quietEnd ⟨.quietHoursActive,
          "Outreach is delayed until merchant-local quiet hours end.", some "merchant_timezone"⟩)
      else
        .ok (block config ⟨.quietHoursActive,
          "Quiet hours extend beyond the remaining recovery window.", some "merchant_timezone"⟩)
  | _, _ => .ok (approveOrAllow config context)

/-- The part of `evaluate_safety_policy` from the contact limit on. -/
def limitThenQuiet (context : SafetyPolicyContext) : Except String SafetyDecision :=
  if isOutreach context.action = true ∧
      (config.maxContactsPerWindow.any fun n => decide (n ≤ context.contactAttemptsInWindow)) then
    match context.contactLimitResetsAt with
    | some resetAt =>
      if context.now < resetAt ∧ resetAt < context.recoveryDeadline then
        .ok (delay config resetAt ⟨.contactLimitReached,
          "The contact limit is reached; outreach is delayed until the window resets.",
          some "contact_attempts_in_window"⟩)
      else
        .ok (block config ⟨.contactLimitReached,
          "The contact limit is reached and no safe retry remains in the recovery window.",
          some "contact_attempts_in_window"⟩)
    | none =>
      .ok (block config ⟨.contactLimitReached,
        "The contact limit is reached and no safe retry remains in the recovery window.",
        some "contact_attempts_in_window"⟩)
  else quietThenApprove config context

/-- The part of `evaluate_safety_policy` about gateway retries. -/
def retryThenLimit (context : SafetyPolicyContext) : Except String SafetyDecision :=
  let pendingRetry := decide (context.subscriptionState = .pending) && context.activeGatewayRetries
  if context.action = openCustomerPaymentSurface ∧
      context.paymentSurfaceType = some .standardPaymentLink ∧ pendingRetry = true then
    .ok (block config ⟨.gatewayRetryActive,
      "Standalone collection is blocked while subscription auto-retries are active.",
      some "payment_surface_type"⟩)
  else if context.action = .waitForGatewayRetry ∧ pendingRetry = true then
    match datetime (context.now + config.gatewayRetryDelay) with
    | .error e => .error e
    | .ok retryAt =>
      if context.now < min retryAt context.recoveryDeadline then
        .ok (delay config (min retryAt context.recoveryDeadline)
          ⟨.waitForProviderRetry, "The payment provider owns the active pending-subscription retry.",
            some "subscription_state"⟩)
      else limitThenQuiet config context
  else limitThenQuiet config context

/-- The reason that bars an action before anything else is looked at. -/
def barred (context : SafetyPolicyContext) : Option SafetyReason :=
  let control := isTerminalControl context.action
  if config.globalKillSwitch = true ∧ control = false then
    some ⟨.globalKillSwitchEnabled,
      "All recovery execution is disabled by the platform kill switch.", none⟩
  else if config.merchantKillSwitch = true ∧ control = false then
    some ⟨.merchantKillSwitchEnabled, "Recovery execution is disabled for this merchant.", none⟩
  else if context.caseOutcome ≠ .open ∧ control = false then
    some ⟨.caseTerminal, "The recovery case is already terminal.", none⟩
  else if context.paymentState = .captured ∧ control = false then
    some ⟨.paymentAlreadyCaptured, "Authoritative payment state already shows captured funds.",
      some "payment_state"⟩
  else if isContact context.action = true ∧
      (suppressionReason context.contactDisposition).isSome = true then
    suppressionReason context.contactDisposition
  else if context.recoveryDeadline ≤ context.now ∧ control = false then
    some ⟨.recoveryWindowExpired, "The configured recovery deadline has passed.",
      some "recovery_deadline"⟩
  else none

/-- `evaluate_safety_policy`. -/
def evaluateSafetyPolicy (context : SafetyPolicyContext) : Except String SafetyDecision :=
  match barred config context with
  | some reason => .ok (block config reason)
  | none => retryThenLimit config context

end

/-! ## What bars a contact -/

section
variable {config : SafetyPolicyConfig} {context : SafetyPolicyContext}

/-- The suppressions that bar every contact: none of them depends on which contact it is. -/
def Guarded (config : SafetyPolicyConfig) (now recoveryDeadline : Instant)
    (caseOutcome : CaseOutcome) (paymentState : PaymentState)
    (contactDisposition : ContactDisposition) : Prop :=
  config.globalKillSwitch = true ∨ config.merchantKillSwitch = true ∨
    caseOutcome ≠ .open ∨ paymentState = .captured ∨
    (suppressionReason contactDisposition).isSome = true ∨ recoveryDeadline ≤ now

/-- The suppressions as they bear on the action of a context. -/
def SafetyPolicyContext.Guarded (config : SafetyPolicyConfig) (context : SafetyPolicyContext) :
    Prop :=
  Safety.Guarded config context.now context.recoveryDeadline context.caseOutcome
    context.paymentState context.contactDisposition

lemma isTerminalControl_of_isContact {a : RecoveryActionType} (h : isContact a = true) :
    isTerminalControl a = false := by
  cases a <;> first | rfl | cases h

theorem barred_isSome_iff (h : isContact context.action = true) :
    (barred config context).isSome = true ↔ context.Guarded config := by
  have hc := isTerminalControl_of_isContact h
  constructor
  · intro hb
    by_contra hn
    simp only [SafetyPolicyContext.Guarded, Guarded, not_or] at hn
    obtain ⟨h1, h2, h3, h4, h5, h6⟩ := hn
    simp [barred, h1, h2, h3, h4, h5, h6] at hb
  · intro hg
    unfold barred
    simp only [hc, h, and_true, true_and]
    split_ifs with h1 h2 h3 h4 h5 h6
    · rfl
    · rfl
    · rfl
    · rfl
    · exact h5
    · rfl
    · exact absurd hg (by simp [SafetyPolicyContext.Guarded, Guarded, h1, h2, h3, h4, h5, h6])

/-- A contact that is not blocked is not suppressed. -/
theorem not_guarded_of_evaluate {d : SafetyDecision} (h : isContact context.action = true)
    (he : evaluateSafetyPolicy config context = .ok d) (hd : d.disposition ≠ .block) :
    ¬ context.Guarded config := by
  intro hg
  obtain ⟨reason, hr⟩ := Option.isSome_iff_exists.mp ((barred_isSome_iff h).mpr hg)
  unfold evaluateSafetyPolicy at he
  rw [hr] at he
  obtain rfl := Except.ok.inj he
  exact hd rfl

theorem evaluate_eq_block_of_guarded (h : isContact context.action = true)
    (hg : context.Guarded config) :
    ∃ d, evaluateSafetyPolicy config context = .ok d ∧ d.disposition = .block := by
  obtain ⟨reason, hr⟩ := Option.isSome_iff_exists.mp ((barred_isSome_iff h).mpr hg)
  refine ⟨block config reason, ?_, rfl⟩
  unfold evaluateSafetyPolicy
  rw [hr]

lemma approveOrAllow_disposition :
    (approveOrAllow config context).disposition = .allow ∨
      (approveOrAllow config context).disposition = .requireManualApproval := by
  unfold approveOrAllow
  split
  · exact .inl rfl
  · exact .inr rfl

/-- An invoice link that is not suppressed is allowed, or left to an operator. -/
theorem evaluate_invoiceLink (ha : context.action = openCustomerPaymentSurface)
    (hs : context.paymentSurfaceType = some .subscriptionInvoiceLink)
    (hg : ¬ context.Guarded config) :
    evaluateSafetyPolicy config context = .ok (approveOrAllow config context) := by
  have hnone : barred config context = none := by
    rw [← Option.not_isSome_iff_eq_none, barred_isSome_iff (by rw [ha]; rfl)]
    exact hg
  have ho : isOutreach openCustomerPaymentSurface = false := rfl
  simp [evaluateSafetyPolicy, hnone, retryThenLimit, limitThenQuiet, quietThenApprove, ho, ha, hs]

end

end RecoveryOS.Safety
