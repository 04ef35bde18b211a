import RecoveryOS.Lib.Calendar
import RecoveryOS.Webhook.Inbox

/-!
# What normalizing raises

`normalize_webhook` checks the shape of a webhook and raises an error of the integration if it is
wrong. Two values that it takes from the body are checked by others: a `created_at` out of the years
that a `datetime` has, and an amount that is negative, which the event's own model refuses. Their
exceptions are none of the integration.

The event is stored inside the outbox payload, as the JSON of `model_dump`, and read from there with
`model_validate`. The texts, the numbers and the instants are read back as they were written. The
serializer goes into the provider's payload up to a depth of its own, `limit`.
-/

namespace RecoveryOS.Webhook

/-! ## The stored JSON -/

def CorrelationKind.value : CorrelationKind → String
  | .invoiceAndSubscriptionFromPayment => "INVOICE_AND_SUBSCRIPTION_FROM_PAYMENT"
  | .subscriptionOnly => "SUBSCRIPTION_ONLY"
  | .caseAndInvoiceFromNotesRequiresReconciliation =>
    "CASE_AND_INVOICE_FROM_NOTES_REQUIRES_RECONCILIATION"

mutual

/-- How many containers are around the innermost value. -/
def nesting : Json → ℕ
  | .arr l => nestingItems l + 1
  | .obj l => nestingFields l + 1
  | _ => 0

def nestingItems : List Json → ℕ
  | [] => 0
  | j :: l => max (nesting j) (nestingItems l)

def nestingFields : List (String × Json) → ℕ
  | [] => 0
  | f :: l => max (nestingField f) (nestingFields l)

def nestingField : String × Json → ℕ
  | (_, j) => nesting j

end

/-- An optional integer. -/
def intJson : Option ℤ → Json
  | none => .null
  | some n => .int n

/-- The fields of `NormalizedRazorpayEvent` in `mode="json"`. -/
def eventFields (e : NormalizedRazorpayEvent) : List (String × Json) :=
  [("provider_event_id", .str e.providerEventId), ("event_type", .str e.eventType),
    ("occurred_at", .str (Calendar.zuluText e.occurredAt)),
    ("account_id", .ofOption e.accountId), ("merchant_reference", .ofOption e.merchantReference),
    ("case_id", .ofOption e.caseId), ("payment_id", .ofOption e.paymentId),
    ("payment_link_id", .ofOption e.paymentLinkId), ("invoice_id", .ofOption e.invoiceId),
    ("subscription_id", .ofOption e.subscriptionId), ("amount_paise", intJson e.amountPaise),
    ("currency", .ofOption e.currency), ("payment_state", .str e.paymentState.value),
    ("subscription_state", .str e.subscriptionState.value),
    ("correlation_kind", .str e.correlationKind.value),
    ("requires_authoritative_fetch", .bool e.requiresAuthoritativeFetch),
    ("provider_payload", .obj e.providerPayload)]

/-- `RazorpayOutboxPayload.model_dump(mode="json")`. -/
def modelDump (limit : ℕ) (p : RazorpayOutboxPayload) : Except ProcessingError Json :=
  if limit < nesting (.obj p.event.providerPayload) then
    .error (.other "Circular reference detected (depth exceeded)")
  else .ok (.obj [("merchant_id", .str p.merchantId), ("event", .obj (eventFields p.event))])

/-! ## Reading it -/

/-- The value of a key that is there. -/
def field (fields : List (String × Json)) (name : String) : Option Json :=
  (fields.find? fun f => f.1 = name).map (·.2)

def readText : Json → Option String
  | .str s => some s
  | _ => none

def readBool : Json → Option Bool
  | .bool b => some b
  | _ => none

/-- A field `str | None = None`. -/
def readOptionalText (fields : List (String × Json)) (name : String) : Option (Option String) :=
  match field fields name with
  | none => some none
  | some .null => some none
  | some (.str s) => some (some s)
  | _ => none

/-- `amount_paise`, which is not negative. -/
def readAmount (fields : List (String × Json)) (name : String) : Option (Option ℤ) :=
  match field fields name with
  | none => some none
  | some .null => some none
  | some (.int n) => if 0 ≤ n then some (some n) else none
  | _ => none

/-- A `datetime` with its offset; of the forms of it that are validated, those that a dump writes. -/
def readInstant : Json → Option Instant
  | .str s => (Calendar.readTimestamp s).bind fun r => r.2.map fun offset =>
    r.1 - offset * 60000000
  | _ => none

/-- A member of an enumeration by its value. -/
def readMember {α : Type} (members : List α) (value : α → String) : Json → Option α
  | .str s => members.find? fun a => value a = s
  | _ => none

def readPayload : Json → Option (List (String × Json))
  | .obj fields => some fields
  | _ => none

def paymentStates : List PaymentState :=
  [.unknown, .failed, .pending, .authorized, .captured, .refunded]

def subscriptionStates : List SubscriptionState :=
  [.unknown, .created, .authenticated, .active, .pending, .halted, .paused, .cancelled, .completed]

def correlationKinds : List CorrelationKind :=
  [.invoiceAndSubscriptionFromPayment, .subscriptionOnly,
    .caseAndInvoiceFromNotesRequiresReconciliation]

def eventNames : List String :=
  ["provider_event_id", "event_type", "occurred_at", "account_id", "merchant_reference", "case_id",
    "payment_id", "payment_link_id", "invoice_id", "subscription_id", "amount_paise", "currency",
    "payment_state", "subscription_state", "correlation_kind", "requires_authoritative_fetch",
    "provider_payload"]

/-- `extra="forbid"`. -/
def onlyNames (names : List String) (fields : List (String × Json)) : Bool :=
  fields.all fun f => names.contains f.1

/-- `NormalizedRazorpayEvent.model_validate`, of values in the types that are written. -/
def validateEvent (fields : List (String × Json)) : Option NormalizedRazorpayEvent :=
  if onlyNames eventNames fields then do
    return {
      providerEventId := ← (field fields "provider_event_id").bind readText
      eventType := ← (field fields "event_type").bind readText
      occurredAt := ← (field fields "occurred_at").bind readInstant
      accountId := ← readOptionalText fields "account_id"
      merchantReference := ← readOptionalText fields "merchant_reference"
      caseId := ← readOptionalText fields "case_id"
      paymentId := ← readOptionalText fields "payment_id"
      paymentLinkId := ← readOptionalText fields "payment_link_id"
      invoiceId := ← readOptionalText fields "invoice_id"
      subscriptionId := ← readOptionalText fields "subscription_id"
      amountPaise := ← readAmount fields "amount_paise"
      currency := ← readOptionalText fields "currency"
      paymentState := ← match field fields "payment_state" with
        | none => some .unknown
        | some j => readMember paymentStates PaymentState.value j
      subscriptionState := ← match field fields "subscription_state" with
        | none => some .unknown
        | some j => readMember subscriptionStates SubscriptionState.value j
      correlationKind := ← (field fields "correlation_kind").bind
        (readMember correlationKinds CorrelationKind.value)
      requiresAuthoritativeFetch := ← (field fields "requires_authoritative_fetch").bind readBool
      providerPayload := ← (field fields "provider_payload").bind readPayload }
  else none

/-- `RazorpayOutboxPayload.model_validate`. -/
def modelValidate : Json → Except ProcessingError RazorpayOutboxPayload
  | .obj fields =>
    let payload := if onlyNames ["merchant_id", "event"] fields then do
        return {
          merchantId := ← (field fields "merchant_id").bind readText
          event := ← ((field fields "event").bind readPayload).bind validateEvent }
      else none
    match payload with
    | some p => .ok p
    | none => .error (.other "validation error for RazorpayOutboxPayload")
  | _ => .error (.other "validation error for RazorpayOutboxPayload")

/-! ## The round trip -/

section
variable {fields : List (String × Json)} {name : String}

lemma readMember_paymentState (state : PaymentState) :
    readMember paymentStates PaymentState.value (.str state.value) = some state := by
  cases state <;> rfl

lemma readMember_subscriptionState (state : SubscriptionState) :
    readMember subscriptionStates SubscriptionState.value (.str state.value) = some state := by
  cases state <;> rfl

lemma readMember_correlationKind (kind : CorrelationKind) :
    readMember correlationKinds CorrelationKind.value (.str kind.value) = some kind := by
  cases kind <;> rfl

lemma readOptionalText_ofOption {s : Option String} (h : field fields name = some (.ofOption s)) :
    readOptionalText fields name = some s := by
  cases s with
  | none => simp only [readOptionalText, h, Json.ofOption]
  | some s => simp only [readOptionalText, h, Json.ofOption]

lemma readAmount_intJson {n : Option ℤ} (h : field fields name = some (intJson n))
    (hn : ∀ k, n = some k → 0 ≤ k) : readAmount fields name = some n := by
  cases n with
  | none => simp only [readAmount, h, intJson]
  | some n => simp only [readAmount, h, intJson, if_pos (hn n rfl)]

lemma readInstant_zuluText {t : Instant} (h : Calendar.InRange t) :
    readInstant (.str (Calendar.zuluText t)) = some t := by
  simp [readInstant, Calendar.readTimestamp_zuluText h]

end

/-- What was dumped is validated to the same event. -/
lemma validateEvent_eventFields {e : NormalizedRazorpayEvent} (ht : Calendar.InRange e.occurredAt)
    (ha : ∀ n, e.amountPaise = some n → 0 ≤ n) : validateEvent (eventFields e) = some e := by
  have hnames : onlyNames eventNames (eventFields e) = true := rfl
  have hid : field (eventFields e) "provider_event_id" = some (.str e.providerEventId) := rfl
  have htype : field (eventFields e) "event_type" = some (.str e.eventType) := rfl
  have htime : field (eventFields e) "occurred_at"
      = some (.str (Calendar.zuluText e.occurredAt)) := rfl
  have hpayment : field (eventFields e) "payment_state" = some (.str e.paymentState.value) := rfl
  have hsubscription : field (eventFields e) "subscription_state"
      = some (.str e.subscriptionState.value) := rfl
  have hkind : field (eventFields e) "correlation_kind" = some (.str e.correlationKind.value) := rfl
  have hfetch : field (eventFields e) "requires_authoritative_fetch"
      = some (.bool e.requiresAuthoritativeFetch) := rfl
  have hpayload : field (eventFields e) "provider_payload" = some (.obj e.providerPayload) := rfl
  have hamount : readAmount (eventFields e) "amount_paise" = some e.amountPaise :=
    readAmount_intJson rfl ha
  have htext : ∀ name s, field (eventFields e) name = some (.ofOption s) →
      readOptionalText (eventFields e) name = some s := fun _ _ => readOptionalText_ofOption
  rw [validateEvent, if_pos hnames]
  simp only [hid, htype, htime, hpayment, hsubscription, hkind, hfetch, hpayload, Option.bind_some,
    readText, readInstant_zuluText ht, readMember_paymentState, readMember_subscriptionState,
    readMember_correlationKind, readBool, readPayload, hamount, htext "account_id" _ rfl,
    htext "merchant_reference" _ rfl, htext "case_id" _ rfl, htext "payment_id" _ rfl,
    htext "payment_link_id" _ rfl, htext "invoice_id" _ rfl, htext "subscription_id" _ rfl,
    htext "currency" _ rfl]
  rfl

/-- An outbox payload survives its JSON, if that can be dumped. -/
theorem modelValidate_modelDump {limit : ℕ} {p : RazorpayOutboxPayload}
    (ht : Calendar.InRange p.event.occurredAt) (ha : ∀ n, p.event.amountPaise = some n → 0 ≤ n)
    (hd : nesting (.obj p.event.providerPayload) ≤ limit) :
    (modelDump limit p).bind modelValidate = .ok p := by
  have hevent := validateEvent_eventFields ht ha
  rw [modelDump, if_neg (not_lt.mpr hd)]
  show modelValidate
    (.obj [("merchant_id", .str p.merchantId), ("event", .obj (eventFields p.event))]) = .ok p
  have hnames : onlyNames ["merchant_id", "event"]
      [("merchant_id", .str p.merchantId), ("event", .obj (eventFields p.event))] = true := rfl
  have hmerchant : field [("merchant_id", .str p.merchantId), ("event", .obj (eventFields p.event))]
      "merchant_id" = some (.str p.merchantId) := rfl
  have hfield : field [("merchant_id", .str p.merchantId), ("event", .obj (eventFields p.event))]
      "event" = some (.obj (eventFields p.event)) := rfl
  simp only [modelValidate, if_pos hnames, hmerchant, hfield, Option.bind_some, readText,
    readPayload, hevent]
  rfl

/-! ## The checks -/

/-- `_integer(payment.get("created_at")) or _integer(payload.get("created_at"))`. -/
def createdAt (payload payment : List (String × Json)) : Option ℤ :=
  match (integer (Json.get payment "created_at")).filter (· ≠ 0) with
  | some t => some t
  | none => integer (Json.get payload "created_at")

/-- The amount of the payment, or what the payment link was paid. -/
def amountOf (eventPayload : List (String × Json)) : Option ℤ :=
  (integer (Json.get (entity eventPayload "payment") "amount")).or
    (integer (Json.get (entity eventPayload "payment_link") "amount_paid"))

/-- The body and the id pass the checks of `normalize_webhook`. -/
structure Checked (providerEventId : String) (payload : List (String × Json)) (eventType : String)
    (eventPayload : List (String × Json)) (timestamp : ℤ) : Prop where
  event : text (Json.get payload "event") = some eventType
  supported : eventType ∈ supportedEvents
  named : providerEventId ≠ ""
  short : providerEventId.length ≤ 200
  object : Json.get payload "payload" = .obj eventPayload
  created : createdAt payload (entity eventPayload "payment") = some timestamp

section
variable {providerEventId eventType : String} {payload eventPayload payment : List (String × Json)}
  {timestamp : ℤ}

lemma occurredAt_eq (payload payment : List (String × Json)) : occurredAt payload payment =
    match createdAt payload payment with
    | none => .error (.integration "RAZORPAY_WEBHOOK_TIMESTAMP_MISSING"
        "Webhook has no integer created_at.")
    | some t =>
      if validTimestamp t then .ok (t * 1000000) else .error (.other "timestamp out of range") :=
  rfl

/-- What the checks do not admit is an error of the integration. -/
lemma normalizeWebhook_unchecked
    (h : ∀ eventType eventPayload timestamp,
      ¬ Checked providerEventId payload eventType eventPayload timestamp) :
    ∃ code message,
      normalizeWebhook providerEventId payload = .error (.integration code message) := by
  unfold normalizeWebhook
  cases hevent : text (Json.get payload "event") with
  | none => exact ⟨_, _, rfl⟩
  | some eventType =>
    by_cases hsupported : eventType ∈ supportedEvents
    · by_cases hnamed : providerEventId = ""
      · simp only [hsupported, not_true_eq_false, if_false, if_pos hnamed]
        exact ⟨_, _, rfl⟩
      · by_cases hlong : 200 < providerEventId.length
        · simp only [hsupported, not_true_eq_false, if_false, if_neg hnamed, if_pos hlong]
          exact ⟨_, _, rfl⟩
        · simp only [hsupported, not_true_eq_false, if_false, if_neg hnamed, if_neg hlong]
          cases hobject : Json.get payload "payload" with
          | obj eventPayload =>
            cases hcreated : createdAt payload (entity eventPayload "payment") with
            | none =>
              simp only [occurredAt_eq, hcreated]
              exact ⟨_, _, rfl⟩
            | some timestamp =>
              exact (h _ _ _ ⟨hevent, hsupported, hnamed, not_lt.mp hlong, hobject,
                hcreated⟩).elim
          | _ => exact ⟨_, _, rfl⟩
    · simp only [if_pos hsupported]
      exact ⟨_, _, rfl⟩

/-- What they admit is an event, unless the time or the amount is refused. -/
lemma normalizeWebhook_checked
    (h : Checked providerEventId payload eventType eventPayload timestamp) :
    (validTimestamp timestamp = true ∧ (amountOf eventPayload).any (· < 0) = false ∧
      ∃ event, normalizeWebhook providerEventId payload = .ok event ∧ event.eventType = eventType ∧
        event.paymentState = paymentStateOf eventType ∧
        event.subscriptionState = subscriptionStateOf eventType ∧
        event.occurredAt = timestamp * 1000000 ∧ event.amountPaise = amountOf eventPayload) ∨
    (validTimestamp timestamp = false ∨ (amountOf eventPayload).any (· < 0) = true) ∧
      ∃ message, normalizeWebhook providerEventId payload = .error (.other message) := by
  unfold normalizeWebhook
  simp only [h.event, h.supported, h.named, not_lt.mpr h.short, h.object, not_true_eq_false,
    if_false, occurredAt_eq, h.created]
  cases hvalid : validTimestamp timestamp with
  | false => exact .inr ⟨.inl rfl, _, rfl⟩
  | true =>
    simp only [if_true]
    cases hamount : (amountOf eventPayload).any (· < 0) with
    | true =>
      right
      refine ⟨.inr rfl, "amount_paise must be greater than or equal to 0", ?_⟩
      exact if_pos hamount
    | false =>
      left
      have hpositive : ¬ (amountOf eventPayload).any (· < 0) = true := by
        rw [hamount]
        exact Bool.false_ne_true
      exact ⟨trivial, rfl, _, if_neg hpositive, rfl, rfl, rfl, rfl, rfl⟩

end

/-- Normalizing returns an event or raises an error of the integration. The states of an event are
those of its type, it keeps the payload, the same event is made of that again, and it survives the
JSON of the outbox payload. -/
def NormalizesSafely (limit : ℕ) (providerEventId : String) (payload : List (String × Json)) :
    Prop :=
  match normalizeWebhook providerEventId payload with
  | .error (.integration _ _) => True
  | .error (.other _) => False
  | .ok event =>
    event.paymentState = paymentStateOf event.eventType ∧
    event.subscriptionState = subscriptionStateOf event.eventType ∧
    event.providerPayload = payload ∧
    normalizeWebhook event.providerEventId event.providerPayload = .ok event ∧
    ∀ merchantId, (modelDump limit ⟨merchantId, event⟩).bind modelValidate = .ok ⟨merchantId, event⟩

/-- The instants of the years that a `datetime` has. -/
lemma inRange_of_validTimestamp {t : ℤ} (h : validTimestamp t = true) :
    Calendar.InRange (t * 1000000) := by
  simp only [validTimestamp, Bool.and_eq_true, decide_eq_true_eq] at h
  constructor
  · show 0 ≤ t * 1000000 + 719162 * 86400000000
    omega
  · show t * 1000000 + 719162 * 86400000000 < _
    omega

/-- Normalizing is safe if and only if the body does not pass the checks with a time that is no
`datetime`, with a negative amount, or with a payload that is nested too deep for the serializer. -/
theorem normalizesSafely_iff (limit : ℕ) (providerEventId : String)
    (payload : List (String × Json)) :
    NormalizesSafely limit providerEventId payload ↔
      ¬ ∃ eventType eventPayload timestamp,
        Checked providerEventId payload eventType eventPayload timestamp ∧
        (validTimestamp timestamp = false ∨ (amountOf eventPayload).any (· < 0) = true ∨
          limit < nesting (.obj payload)) := by
  by_cases hchecked : ∃ eventType eventPayload timestamp,
      Checked providerEventId payload eventType eventPayload timestamp
  · obtain ⟨eventType, eventPayload, timestamp, h⟩ := hchecked
    -- the checks determine what they are about
    have hunique : ∀ eventType' eventPayload' timestamp',
        Checked providerEventId payload eventType' eventPayload' timestamp' →
        eventPayload' = eventPayload ∧ timestamp' = timestamp := by
      intro eventType' eventPayload' timestamp' h'
      obtain rfl : eventPayload' = eventPayload := Json.obj.inj (h'.object.symm.trans h.object)
      exact ⟨rfl, Option.some.inj (h'.created.symm.trans h.created)⟩
    rcases normalizeWebhook_checked h with
      ⟨hvalid, hamount, event, hevent, htype, hpayment, hsubscription, htime, hpaise⟩ |
      ⟨hrefused, message, herror⟩
    · obtain ⟨hid, hpayload⟩ := normalizeWebhook_source hevent
      have hagain : normalizeWebhook event.providerEventId event.providerPayload = .ok event := by
        rw [hid, hpayload, hevent]
      have hrange : Calendar.InRange event.occurredAt := htime ▸ inRange_of_validTimestamp hvalid
      have hpositive : ∀ n, event.amountPaise = some n → 0 ≤ n := by
        intro n hn
        rw [← hpaise, hn] at hamount
        simpa using hamount
      rw [NormalizesSafely, hevent]
      by_cases hdeep : limit < nesting (.obj payload)
      · refine iff_of_false (fun hsafe => ?_) fun hsafe => hsafe ⟨_, _, _, h, .inr (.inr hdeep)⟩
        have hdump := hsafe.2.2.2.2 ""
        rw [modelDump, hpayload, if_pos hdeep] at hdump
        cases hdump
      · refine iff_of_true ⟨?_, ?_, hpayload, hagain, fun merchantId => ?_⟩ ?_
        · rw [hpayment, htype]
        · rw [hsubscription, htype]
        · exact modelValidate_modelDump hrange hpositive (hpayload ▸ not_lt.mp hdeep)
        · rintro ⟨eventType', eventPayload', timestamp', h', hbad⟩
          obtain ⟨rfl, rfl⟩ := hunique _ _ _ h'
          rcases hbad with hbad | hbad | hbad
          · exact absurd (hvalid.symm.trans hbad) (by simp)
          · exact absurd (hamount.symm.trans hbad) (by simp)
          · exact hdeep hbad
    · rw [NormalizesSafely, herror]
      refine iff_of_false id fun hsafe => hsafe ⟨_, _, _, h, ?_⟩
      rcases hrefused with hvalid | hamount
      · exact .inl hvalid
      · exact .inr (.inl hamount)
  · have hunchecked : ∀ eventType eventPayload timestamp,
        ¬ Checked providerEventId payload eventType eventPayload timestamp :=
      fun eventType eventPayload timestamp h => hchecked ⟨_, _, _, h⟩
    obtain ⟨code, message, herror⟩ := normalizeWebhook_unchecked hunchecked
    rw [NormalizesSafely, herror]
    refine iff_of_true trivial ?_
    rintro ⟨eventType, eventPayload, timestamp, h, -⟩
    exact hchecked ⟨_, _, _, h⟩

/-- A signed body that the checks admit. -/
def capturedBody (createdAt amount : ℤ) : List (String × Json) :=
  [("event", .str "payment.captured"), ("created_at", .int createdAt),
    ("payload", .obj [("payment", .obj [("entity",
      .obj [("id", .str "pay_1"), ("amount", .int amount)])])])]

/-- A negative amount and a time beyond the year 9999 are both refused by others. -/
theorem normalizesSafely_counterexample :
    ¬ NormalizesSafely 255 "evt_1" (capturedBody 1700000000 (-1)) ∧
    ¬ NormalizesSafely 255 "evt_1" (capturedBody 253402300800 100) := by
  have hchecked : ∀ createdAt amount, Checked "evt_1" (capturedBody createdAt amount)
      "payment.captured" [("payment", .obj [("entity",
        .obj [("id", .str "pay_1"), ("amount", .int amount)])])] createdAt := fun _ _ =>
    ⟨rfl, by decide, by decide, by decide, rfl, rfl⟩
  constructor
  · rcases normalizeWebhook_checked (hchecked 1700000000 (-1)) with ⟨-, hamount, -⟩ | ⟨-, _, herror⟩
    · cases hamount
    · rw [NormalizesSafely, herror]
      exact id
  · rcases normalizeWebhook_checked (hchecked 253402300800 100) with ⟨hvalid, -⟩ | ⟨-, _, herror⟩
    · cases hvalid
    · rw [NormalizesSafely, herror]
      exact id

end RecoveryOS.Webhook
