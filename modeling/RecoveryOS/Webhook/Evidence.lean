import RecoveryOS.Webhook.Event

/-!
# Provider evidence

What the payment provider answers (`providers/contracts.py`), how an authoritative capture is read
(`reconciliation.py`) and how a failure is diagnosed from the fields of the payment
(`diagnosis.py`).
-/

namespace RecoveryOS.Webhook

/-! ## Snapshots -/

/-- `PaymentSnapshot`, validated. -/
structure PaymentSnapshot where
  provider : String
  paymentId : Option String := none
  invoiceId : Option String := none
  subscriptionId : Option String := none
  paymentState : PaymentState
  subscriptionState : SubscriptionState
  amountPaise : ℤ
  currency : String
  authoritative : Bool
  amount_nonneg : 0 ≤ amountPaise

/-- `InvoiceSnapshot`, validated: no more is paid than is due. -/
structure InvoiceSnapshot where
  provider : String
  invoiceId : String
  subscriptionId : String
  amountPaise : ℤ
  amountPaidPaise : ℤ
  currency : String
  invoiceState : String
  dueAt : Option Instant
  authoritative : Bool
  paid_nonneg : 0 ≤ amountPaidPaise
  paid_le : amountPaidPaise ≤ amountPaise

structure PaymentRecoveryOutcome where
  arrearsCollected : Bool
  subscriptionReactivated : Bool
  lateSuccess : Bool

/-- `reconcile_payment_success`; of the outcome, the fields that the processor reads. -/
def reconcilePaymentSuccess (event : NormalizedRazorpayEvent) (snapshot : PaymentSnapshot)
    (currentPaymentState : PaymentState) : Except ProcessingError PaymentRecoveryOutcome :=
  if snapshot.authoritative = false ∨ snapshot.provider ≠ "razorpay" then
    .error (.integration "RAZORPAY_RECONCILIATION_NOT_AUTHORITATIVE"
      "Payment success requires an authoritative Razorpay fetch.")
  else if truthy snapshot.invoiceId = none ∧ event.invoiceId = none then
    .error (.integration "RAZORPAY_RECONCILIATION_INVOICE_MISSING"
      "Payment success cannot be attributed without an invoice.")
  else if (truthy event.invoiceId).isSome ∧ (truthy snapshot.invoiceId).isSome ∧
      event.invoiceId ≠ snapshot.invoiceId then
    .error (.integration "RAZORPAY_RECONCILIATION_INVOICE_MISMATCH"
      "Webhook and authoritative payment refer to different invoices.")
  else
    let captured := decide (snapshot.paymentState = .captured)
    .ok { arrearsCollected := captured
          subscriptionReactivated := decide (snapshot.subscriptionState = .active)
          lateSuccess := captured && decide (currentPaymentState ≠ .captured) }

/-! ## Diagnosis -/

/-- The characters that `str.strip` removes. -/
def isSpace (c : Char) : Bool :=
  c.toNat ∈ [0x20, 0x85, 0xa0, 0x1680, 0x2028, 0x2029, 0x202f, 0x205f, 0x3000] ||
    decide (0x09 ≤ c.toNat ∧ c.toNat ≤ 0x0d) || decide (0x1c ≤ c.toNat ∧ c.toNat ≤ 0x1f) ||
    decide (0x2000 ≤ c.toNat ∧ c.toNat ≤ 0x200a)

def strip (s : List Char) : List Char := ((s.dropWhile isSpace).reverse.dropWhile isSpace).reverse

/-- `str.upper`, exact for the letters whose upper case is ASCII; every other letter stays outside
ASCII, as it does in the source. -/
def upper (c : Char) : List Char :=
  match c.toNat with
  | 0xdf => ['S', 'S']
  | 0x131 => ['I']
  | 0x17f => ['S']
  | 0xfb00 => ['F', 'F']
  | 0xfb01 => ['F', 'I']
  | 0xfb02 => ['F', 'L']
  | 0xfb03 => ['F', 'F', 'I']
  | 0xfb04 => ['F', 'F', 'L']
  | 0xfb05 => ['S', 'T']
  | 0xfb06 => ['S', 'T']
  | _ => [c.toUpper]

/-- A field of the payment as a token of evidence; a value without `strip` raises unless it is
falsy. -/
def errorToken : Json → Except ProcessingError (List String)
  | .str s =>
    let token := strip s.toList
    .ok (if token = [] then [] else [String.ofList (token.flatMap upper)])
  | .null | .bool false | .int 0 | .arr [] | .obj [] => .ok []
  | .num q =>
    if q = 0 then .ok [] else .error (.other "'float' object has no attribute 'strip'")
  | _ => .error (.other "object has no attribute 'strip'")

def riskBlock : List String :=
  ["RISK_CHECK_FAILED", "PAYMENT_RISK_REJECTED", "COMPLIANCE_BLOCK", "FRAUD_SUSPECTED"]

def merchantErrors : List String :=
  ["MERCHANT_CONFIGURATION_ERROR", "INVALID_MERCHANT_CONFIGURATION"]

def insufficientFundsCodes : List String :=
  ["BAD_REQUEST_PAYMENT_CARD_INSUFFICIENT_BALANCE", "INSUFFICIENT_FUNDS", "INSUFFICIENT_BALANCE"]

def authenticationCodes : List String :=
  ["BAD_REQUEST_PAYMENT_AUTHENTICATION_FAILED", "AUTHENTICATION_FAILED", "INCORRECT_OTP",
    "OTP_ATTEMPTS_EXCEEDED", "3DS_AUTHENTICATION_FAILED"]

def instrumentCodes : List String :=
  ["BAD_REQUEST_PAYMENT_CARD_EXPIRED", "BAD_REQUEST_PAYMENT_INVALID_CARD", "CARD_EXPIRED",
    "INVALID_CARD", "CARD_DECLINED"]

def transientCodes : List String :=
  ["GATEWAY_ERROR", "BAD_REQUEST_PAYMENT_PENDING", "BANK_SYSTEM_ERROR", "NETWORK_ERROR",
    "REQUEST_TIMED_OUT", "ISSUER_UNAVAILABLE"]

/-- `diagnose_failure` for a correlated `payment.failed`, by the tokens of its evidence. -/
def diagnose (tokens : List String) : Diagnosis :=
  let has := fun codes : List String => tokens.any (· ∈ codes)
  if has riskBlock then .riskOrComplianceBlock
  else if has merchantErrors || has ["MERCHANT"] then .merchantError
  else if has insufficientFundsCodes then .insufficientFunds
  else if has authenticationCodes || has ["PAYMENT_AUTHENTICATION"] then .authenticationRequired
  else if has instrumentCodes then .instrumentInvalid
  else if has transientCodes || has ["GATEWAY", "BANK"] then .transientRetryable
  else .unknown

/-- `_payment_entity`. -/
def paymentEntity (event : NormalizedRazorpayEvent) : List (String × Json) :=
  let payload := (Json.get event.providerPayload "payload").asObject
  (Json.get (Json.get payload "payment").asObject "entity").asObject

/-- `diagnose_failure` on the fields of the payment entity. -/
def diagnoseFailure (payment : List (String × Json)) : Except ProcessingError Diagnosis := do
  let tokens ← ["error_code", "error_source", "error_step", "error_reason"].mapM fun name =>
    errorToken (Json.get payment name)
  .ok (diagnose tokens.flatten)

end RecoveryOS.Webhook
