import RecoveryOS.Lib.Register
import RecoveryOS.Webhook.Event

/-!
# Provider state from events in any order

`reduce_provider_state` keeps a clock for the payment and one for the subscription, and never
leaves a captured payment. Each is a register of its own: of the payment, captured is the one sticky
value, of the subscription there is none.

A captured event that is older than the last one seen is not taken at all, so a failure that
overtakes the capture before it hides it. The state depends on the order of delivery exactly
where the newest payment event is not a captured one but another is (`orderFree_iff`).
-/

namespace RecoveryOS.Webhook

open Register

structure ProviderStateCursor where
  paymentState : PaymentState := .unknown
  paymentObservedAt : Option Instant := none
  subscriptionState : SubscriptionState := .unknown
  subscriptionObservedAt : Option Instant := none
  deriving DecidableEq

/-- `reduce_provider_state`. -/
def reduceProviderState (cursor : ProviderStateCursor) (event : NormalizedRazorpayEvent) :
    ProviderStateCursor :=
  let values := cursor
  let values :=
    if event.paymentState ≠ .unknown then
      let isNewer := cursor.paymentObservedAt.all fun t => decide (t ≤ event.occurredAt)
      let canChange := decide (cursor.paymentState ≠ .captured)
      if isNewer && (canChange || decide (event.paymentState = .captured)) then
        { values with
          paymentState := event.paymentState, paymentObservedAt := some event.occurredAt }
      else values
    else values
  if event.subscriptionState ≠ .unknown then
    let isNewer := cursor.subscriptionObservedAt.all fun t => decide (t ≤ event.occurredAt)
    if isNewer then
      { values with
        subscriptionState := event.subscriptionState
        subscriptionObservedAt := some event.occurredAt }
    else values
  else values

/-- The cursor after the events of a list, from the empty one. -/
def reduceAll (events : List NormalizedRazorpayEvent) : ProviderStateCursor :=
  events.foldl reduceProviderState {}

/-! ## Two registers -/

namespace ProviderStateCursor

def payment (c : ProviderStateCursor) : Cell PaymentState := ⟨c.paymentState, c.paymentObservedAt⟩

def subscription (c : ProviderStateCursor) : Cell SubscriptionState :=
  ⟨c.subscriptionState, c.subscriptionObservedAt⟩

end ProviderStateCursor

def isCaptured (s : PaymentState) : Bool := decide (s = .captured)

def tellsPayment (e : NormalizedRazorpayEvent) : Option PaymentState :=
  if e.paymentState = .unknown then none else some e.paymentState

def tellsSubscription (e : NormalizedRazorpayEvent) : Option SubscriptionState :=
  if e.subscriptionState = .unknown then none else some e.subscriptionState

section
variable (cursor : ProviderStateCursor) (event : NormalizedRazorpayEvent)

lemma payment_reduceProviderState :
    (reduceProviderState cursor event).payment =
      told isCaptured tellsPayment NormalizedRazorpayEvent.occurredAt cursor.payment event := by
  unfold reduceProviderState told tellsPayment newer isCaptured ProviderStateCursor.payment
  by_cases hp : event.paymentState = .unknown
  · simp only [hp, ne_eq, not_true_eq_false, if_false, if_true]
    split_ifs <;> rfl
  · simp only [hp, ne_eq, not_false_eq_true, if_false, if_true, decide_not]
    split_ifs <;> rfl

lemma subscription_reduceProviderState :
    (reduceProviderState cursor event).subscription =
      told (fun _ => false) tellsSubscription NormalizedRazorpayEvent.occurredAt
        cursor.subscription event := by
  unfold reduceProviderState told tellsSubscription newer ProviderStateCursor.subscription
  by_cases hs : event.subscriptionState = .unknown
  · simp only [hs, ne_eq, not_true_eq_false, if_false, if_true]
    split_ifs <;> rfl
  · simp only [hs, ne_eq, not_false_eq_true, if_false, if_true, Bool.not_false, Bool.true_or,
      Bool.and_true]
    split_ifs <;> rfl

end

lemma payment_reduceAll (events : List NormalizedRazorpayEvent) :
    (reduceAll events).payment =
      events.foldl (told isCaptured tellsPayment NormalizedRazorpayEvent.occurredAt)
        ⟨.unknown, none⟩ := by
  unfold reduceAll
  exact (List.foldl_hom ProviderStateCursor.payment
    (fun c e => (payment_reduceProviderState c e).symm)).symm

lemma subscription_reduceAll (events : List NormalizedRazorpayEvent) :
    (reduceAll events).subscription =
      events.foldl (told (fun _ => false) tellsSubscription NormalizedRazorpayEvent.occurredAt)
        ⟨.unknown, none⟩ := by
  unfold reduceAll
  exact (List.foldl_hom ProviderStateCursor.subscription
    (fun c e => (subscription_reduceProviderState c e).symm)).symm

/-! ## Order of delivery -/

section
variable {events : List NormalizedRazorpayEvent}

/-- The states do not depend on the order of delivery or on repetition, and the payment is captured
exactly if some event says so. -/
structure OrderFree (events : List NormalizedRazorpayEvent) : Prop where
  perm : ∀ events', events'.Perm events →
    (reduceAll events').paymentState = (reduceAll events).paymentState ∧
      (reduceAll events').subscriptionState = (reduceAll events).subscriptionState
  captured : ∀ events', events'.Perm events →
    ((reduceAll events').paymentState = .captured ↔ ∃ e ∈ events, e.paymentState = .captured)
  repeated : ∀ events', (∀ e, e ∈ events' ↔ e ∈ events) →
    (reduceAll events').paymentState = (reduceAll events).paymentState ∧
      (reduceAll events').subscriptionState = (reduceAll events).subscriptionState

/-- If any event is captured, the newest that is about the payment is. -/
def NewestCaptured (events : List NormalizedRazorpayEvent) : Prop :=
  (∃ e ∈ events, e.paymentState = .captured) → ∀ f ∈ events, f.paymentState ≠ .unknown →
    f.paymentState ≠ .captured →
      ∃ e ∈ events, e.paymentState = .captured ∧ f.occurredAt < e.occurredAt

lemma tellsPayment_isSome {e : NormalizedRazorpayEvent} :
    (tellsPayment e).isSome = true ↔ e.paymentState ≠ .unknown := by
  unfold tellsPayment
  split_ifs with h
  · simp [h]
  · simp [h]

lemma sticks_iff {e : NormalizedRazorpayEvent} :
    Sticks isCaptured tellsPayment e ↔ e.paymentState = .captured := by
  unfold Sticks tellsPayment isCaptured
  split_ifs with h
  · simp [h]
  · simp

lemma newestSticks_iff :
    NewestSticks isCaptured tellsPayment NormalizedRazorpayEvent.occurredAt events ↔
      NewestCaptured events := by
  simp only [NewestSticks, NewestCaptured, sticks_iff, tellsPayment_isSome, ne_eq]

lemma distinct_of_pairwise
    (distinct : events.Pairwise fun e f => e.occurredAt ≠ f.occurredAt) :
    ∀ e ∈ events, ∀ f ∈ events, e.occurredAt = f.occurredAt → e = f := by
  have : Std.Symm fun e f : NormalizedRazorpayEvent => e.occurredAt ≠ f.occurredAt :=
    ⟨fun _ _ h => h.symm⟩
  intro e he f hf heq
  by_contra hne
  exact distinct.forall he hf hne heq

lemma subscriptionState_eq {events' : List NormalizedRazorpayEvent}
    (distinct : events.Pairwise fun e f => e.occurredAt ≠ f.occurredAt)
    (same : ∀ e, e ∈ events' ↔ e ∈ events) :
    (reduceAll events').subscriptionState = (reduceAll events).subscriptionState := by
  have hholds := fun l => @holds_foldl _ _ (fun _ => false) tellsSubscription
    NormalizedRazorpayEvent.occurredAt SubscriptionState.unknown rfl l
  have hvalue := (hholds events).value_eq rfl (by simp) (distinct_of_pairwise distinct) same
    (fun h => by obtain ⟨e, -, x, -, hx⟩ := h; cases hx) (hholds events')
  rw [← subscription_reduceAll, ← subscription_reduceAll] at hvalue
  exact hvalue

lemma captured_iff (newest : NewestCaptured events) :
    (reduceAll events).paymentState = .captured ↔ ∃ e ∈ events, e.paymentState = .captured := by
  have hholds := @holds_foldl _ _ isCaptured tellsPayment NormalizedRazorpayEvent.occurredAt
    PaymentState.unknown rfl events
  have hiff := hholds.sticky_iff rfl (newestSticks_iff.mpr newest)
  rw [← payment_reduceAll] at hiff
  simp only [sticks_iff] at hiff
  rw [← hiff]
  show _ ↔ decide ((reduceAll events).paymentState = .captured) = true
  rw [decide_eq_true_eq]

lemma paymentState_eq {events' : List NormalizedRazorpayEvent}
    (distinct : events.Pairwise fun e f => e.occurredAt ≠ f.occurredAt)
    (newest : NewestCaptured events) (same : ∀ e, e ∈ events' ↔ e ∈ events) :
    (reduceAll events').paymentState = (reduceAll events).paymentState := by
  have hholds := fun l => @holds_foldl _ _ isCaptured tellsPayment
    NormalizedRazorpayEvent.occurredAt PaymentState.unknown rfl l
  have hvalue := (hholds events).value_eq rfl
    (by intro x y hx hy; simp only [isCaptured, decide_eq_true_eq] at hx hy; rw [hx, hy])
    (distinct_of_pairwise distinct) same (newestSticks_iff.mpr newest) (hholds events')
  rw [← payment_reduceAll, ← payment_reduceAll] at hvalue
  exact hvalue

/-- The reduction does not depend on the order of delivery exactly if a capture is not followed by
another payment event that it does not outlast. -/
theorem orderFree_iff (distinct : events.Pairwise fun e f => e.occurredAt ≠ f.occurredAt) :
    OrderFree events ↔ NewestCaptured events := by
  constructor
  · intro free
    by_contra hnewest
    rw [← newestSticks_iff] at hnewest
    have hblank : isCaptured PaymentState.unknown = false := rfl
    obtain ⟨⟨e, he, hsticks⟩, events', hperm, hfalse⟩ :=
      exists_perm_not_sticky hblank (distinct_of_pairwise distinct) hnewest
    rw [← payment_reduceAll] at hfalse
    have hcaptured := (free.captured events' hperm).mpr ⟨e, he, sticks_iff.mp hsticks⟩
    simp [isCaptured, ProviderStateCursor.payment, hcaptured] at hfalse
  · intro newest
    refine ⟨?_, ?_, ?_⟩
    · intro events' hperm
      exact ⟨paymentState_eq distinct newest fun e => hperm.mem_iff,
        subscriptionState_eq distinct fun e => hperm.mem_iff⟩
    · intro events' hperm
      rw [paymentState_eq distinct newest fun e => hperm.mem_iff]
      exact captured_iff newest
    · intro events' same
      exact ⟨paymentState_eq distinct newest same, subscriptionState_eq distinct same⟩

end

/-- A payment event as the normalizer makes it, some seconds after the epoch. -/
def paymentEvent (eventType : String) (seconds : ℤ) : NormalizedRazorpayEvent where
  providerEventId := "evt_" ++ toString seconds
  eventType := eventType
  occurredAt := seconds * 1000000
  paymentId := some "pay_1"
  invoiceId := some "inv_1"
  paymentState := paymentStateOf eventType
  subscriptionState := subscriptionStateOf eventType
  correlationKind := .invoiceAndSubscriptionFromPayment
  requiresAuthoritativeFetch := decide (paymentStateOf eventType = .captured)
  providerPayload := []

theorem failed_then_captured_orderFree :
    [paymentEvent "payment.failed" 1, paymentEvent "payment.captured" 2].Pairwise
        (fun e f => e.occurredAt ≠ f.occurredAt) ∧
      (OrderFree [paymentEvent "payment.failed" 1, paymentEvent "payment.captured" 2] ↔
        NewestCaptured [paymentEvent "payment.failed" 1, paymentEvent "payment.captured" 2]) ∧
      NewestCaptured [paymentEvent "payment.failed" 1, paymentEvent "payment.captured" 2] :=
  ⟨by decide, orderFree_iff (by decide), by unfold NewestCaptured; decide⟩

/-- A failure that is delivered before the capture it came after leaves the payment failed. -/
theorem late_failure_hides_capture :
    [paymentEvent "payment.captured" 1, paymentEvent "payment.failed" 2].Pairwise
        (fun e f => e.occurredAt ≠ f.occurredAt) ∧
      ¬ OrderFree [paymentEvent "payment.captured" 1, paymentEvent "payment.failed" 2] := by
  refine ⟨by decide, fun free => ?_⟩
  have hswap := free.captured
    [paymentEvent "payment.failed" 2, paymentEvent "payment.captured" 1] (List.Perm.swap _ _ _)
  have hfailed : (reduceAll [paymentEvent "payment.failed" 2,
      paymentEvent "payment.captured" 1]).paymentState = .failed := by decide
  rw [hfailed] at hswap
  exact absurd (hswap.mpr (by decide)) (by decide)

end RecoveryOS.Webhook
