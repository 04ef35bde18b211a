import RecoveryOS.Domain

/-!
# Normalized Razorpay events

`normalizer.py`: the event that a webhook's JSON is reduced to. An error is either one of the
integration's own, which callers may skip, or an exception of the language.
-/

namespace RecoveryOS.Webhook

/-- What processing raises: an error of the Razorpay integration, or any other exception. -/
inductive ProcessingError where
  | integration (code message : String)
  | other (message : String)
  deriving DecidableEq

inductive CorrelationKind where
  | invoiceAndSubscriptionFromPayment
  | subscriptionOnly
  | caseAndInvoiceFromNotesRequiresReconciliation
  deriving DecidableEq, Repr

structure NormalizedRazorpayEvent where
  providerEventId : String
  eventType : String
  occurredAt : Instant
  accountId : Option String := none
  merchantReference : Option String := none
  caseId : Option String := none
  paymentId : Option String := none
  paymentLinkId : Option String := none
  invoiceId : Option String := none
  subscriptionId : Option String := none
  amountPaise : Option ℤ := none
  currency : Option String := none
  paymentState : PaymentState := .unknown
  subscriptionState : SubscriptionState := .unknown
  correlationKind : CorrelationKind
  requiresAuthoritativeFetch : Bool
  providerPayload : List (String × Json)

structure RazorpayOutboxPayload where
  merchantId : String
  event : NormalizedRazorpayEvent

def supportedEvents : List String :=
  ["payment.failed", "subscription.pending", "subscription.halted", "subscription.charged",
    "payment.captured", "payment_link.paid"]

/-- `_entity`. -/
def entity (payload : List (String × Json)) (name : String) : List (String × Json) :=
  (Json.get (Json.get payload name).asObject "entity").asObject

/-- `_notes`. -/
def notes (e : List (String × Json)) : List (String × Json) := (Json.get e "notes").asObject

/-- `_text`: a text that is not empty. -/
def text : Json → Option String
  | .str s => if s = "" then none else some s
  | _ => none

/-- `_integer`. -/
def integer : Json → Option ℤ
  | .int n => some n
  | _ => none

/-- The seconds that `datetime.fromtimestamp` accepts, the years 1 to 9999. -/
def validTimestamp (t : ℤ) : Bool := decide (-62135596800 ≤ t) && decide (t ≤ 253402300799)

/-- `_occurred_at`; a zero counts as missing in the payment. -/
def occurredAt (payload payment : List (String × Json)) : Except ProcessingError Instant :=
  let timestamp := match (integer (Json.get payment "created_at")).filter (· ≠ 0) with
    | some t => some t
    | none => integer (Json.get payload "created_at")
  match timestamp with
  | none =>
    .error (.integration "RAZORPAY_WEBHOOK_TIMESTAMP_MISSING" "Webhook has no integer created_at.")
  | some t =>
    if validTimestamp t then .ok (t * 1000000) else .error (.other "timestamp out of range")

def paymentStateOf (eventType : String) : PaymentState :=
  if eventType = "payment.failed" then .failed
  else if eventType ∈ ["payment.captured", "subscription.charged", "payment_link.paid"] then
    .captured
  else .unknown

def subscriptionStateOf (eventType : String) : SubscriptionState :=
  if eventType = "subscription.pending" then .pending
  else if eventType = "subscription.halted" then .halted
  else if eventType = "subscription.charged" then .active
  else .unknown

def correlationKindOf (eventType : String) : CorrelationKind :=
  if eventType ∈ ["subscription.pending", "subscription.halted"] then .subscriptionOnly
  else if eventType = "payment_link.paid" then .caseAndInvoiceFromNotesRequiresReconciliation
  else .invoiceAndSubscriptionFromPayment

/-- `normalize_webhook`. -/
def normalizeWebhook (providerEventId : String) (payload : List (String × Json)) :
    Except ProcessingError NormalizedRazorpayEvent :=
  match text (Json.get payload "event") with
  | none => .error (.integration "RAZORPAY_WEBHOOK_EVENT_MISSING" "Webhook has no event name.")
  | some eventType =>
  if eventType ∉ supportedEvents then
    .error (.integration "RAZORPAY_WEBHOOK_EVENT_UNSUPPORTED"
      ("Unsupported Razorpay webhook event: " ++ eventType))
  else if providerEventId = "" then
    .error (.integration "RAZORPAY_EVENT_ID_MISSING" "X-Razorpay-Event-Id is required.")
  else if 200 < providerEventId.length then
    .error (.integration "RAZORPAY_EVENT_ID_TOO_LONG"
      "X-Razorpay-Event-Id exceeds the durable inbox limit.")
  else
  match Json.get payload "payload" with
  | .obj eventPayload =>
    let payment := entity eventPayload "payment"
    let subscription := entity eventPayload "subscription"
    let paymentLink := entity eventPayload "payment_link"
    let paymentState := paymentStateOf eventType
    let amountPaise := (integer (Json.get payment "amount")).or
      (integer (Json.get paymentLink "amount_paid"))
    match occurredAt payload payment with
    | .error e => .error e
    | .ok occurredAt =>
      if amountPaise.any (· < 0) then
        .error (.other "amount_paise must be greater than or equal to 0")
      else
        .ok
          { providerEventId, eventType, occurredAt
            accountId := text (Json.get payload "account_id")
            merchantReference := (text (Json.get (notes payment) "merchant_id")).or
              (text (Json.get (notes subscription) "merchant_id"))
            caseId := (text (Json.get (notes payment) "case_id")).or
              (text (Json.get (notes paymentLink) "case_id"))
            paymentId := text (Json.get payment "id")
            paymentLinkId := text (Json.get paymentLink "id")
            invoiceId := (text (Json.get payment "invoice_id")).or
              (text (Json.get (notes paymentLink) "invoice_id"))
            subscriptionId := ((text (Json.get subscription "id")).or
              (text (Json.get (notes payment) "subscription_id"))).or
              (text (Json.get (notes paymentLink) "subscription_id"))
            amountPaise
            currency := (text (Json.get payment "currency")).or
              (text (Json.get paymentLink "currency"))
            paymentState
            subscriptionState := subscriptionStateOf eventType
            correlationKind := correlationKindOf eventType
            requiresAuthoritativeFetch := decide (paymentState = .captured)
            providerPayload := payload }
  | _ =>
    .error (.integration "RAZORPAY_WEBHOOK_PAYLOAD_INVALID" "Webhook payload must be an object.")

end RecoveryOS.Webhook
