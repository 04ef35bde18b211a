import Mathlib.Tactic

/-!
# The shared vocabulary

The persisted enumerations of `domain/enums.py`, instants, and the JSON values that the transport
models carry.
-/

namespace RecoveryOS

/-- Microseconds since the epoch; an offset-aware `datetime` is compared as its instant. -/
abbrev Instant := ℤ

/-- Membership in a list of optional texts is decided by their equality. -/
instance lawfulBEqOptionString : LawfulBEq (Option String) := inferInstance

/-- A JSON value, as a `dict[str, Any]` holds it: an `int` is not a `float`. -/
inductive Json where
  | null
  | bool (b : Bool)
  | int (n : ℤ)
  | num (q : ℚ)
  | str (s : String)
  | arr (l : List Json)
  | obj (l : List (String × Json))

namespace Json

def ofOption : Option String → Json
  | none => .null
  | some s => .str s

/-- `value.get(name)`, with `null` for a missing key. -/
def get (fields : List (String × Json)) (name : String) : Json :=
  ((fields.find? fun f => f.1 = name).map (·.2)).getD .null

/-- The value as a `dict`, empty if it is none. -/
def asObject : Json → List (String × Json)
  | .obj fields => fields
  | _ => []

end Json

/-- What Python's `x or y` and `if x` see of an optional text: the empty one counts as absent. -/
def truthy (s : Option String) : Option String := s.filter (· ≠ "")

inductive CaseOutcome where
  | open
  | recovered
  | partiallyRecovered
  | escalated
  | disputed
  | stopped
  | expired
  deriving DecidableEq, Repr

inductive PaymentState where
  | unknown
  | failed
  | pending
  | authorized
  | captured
  | refunded
  deriving DecidableEq, Repr

def PaymentState.value : PaymentState → String
  | .unknown => "UNKNOWN"
  | .failed => "FAILED"
  | .pending => "PENDING"
  | .authorized => "AUTHORIZED"
  | .captured => "CAPTURED"
  | .refunded => "REFUNDED"

inductive SubscriptionState where
  | unknown
  | created
  | authenticated
  | active
  | pending
  | halted
  | paused
  | cancelled
  | completed
  deriving DecidableEq, Repr

def SubscriptionState.value : SubscriptionState → String
  | .unknown => "UNKNOWN"
  | .created => "CREATED"
  | .authenticated => "AUTHENTICATED"
  | .active => "ACTIVE"
  | .pending => "PENDING"
  | .halted => "HALTED"
  | .paused => "PAUSED"
  | .cancelled => "CANCELLED"
  | .completed => "COMPLETED"

inductive ContactDisposition where
  | notContacted
  | contactScheduled
  | noAnswer
  | busy
  | engaged
  | promiseToPay
  | optedOut
  | wrongPerson
  | dispute
  | alreadyPaid
  deriving DecidableEq, Repr

def ContactDisposition.value : ContactDisposition → String
  | .notContacted => "NOT_CONTACTED"
  | .contactScheduled => "CONTACT_SCHEDULED"
  | .noAnswer => "NO_ANSWER"
  | .busy => "BUSY"
  | .engaged => "ENGAGED"
  | .promiseToPay => "PROMISE_TO_PAY"
  | .optedOut => "OPTED_OUT"
  | .wrongPerson => "WRONG_PERSON"
  | .dispute => "DISPUTE"
  | .alreadyPaid => "ALREADY_PAID"

inductive RevenueAttribution where
  | none
  | simulated
  | razorpayTestVerified
  | verifiedExternal
  deriving DecidableEq, Repr

inductive RecoveryActionType where
  | waitForGatewayRetry
  | openCustomerPaymentSurface
  | startVoice
  | sendToCustomerAgent
  | escalateToHuman
  | stop
  deriving DecidableEq, Repr

def RecoveryActionType.value : RecoveryActionType → String
  | .waitForGatewayRetry => "WAIT_FOR_GATEWAY_RETRY"
  | .openCustomerPaymentSurface => "OPEN_CUSTOMER_PAYMENT_SURFACE"
  | .startVoice => "START_VOICE"
  | .sendToCustomerAgent => "SEND_TO_CUSTOMER_AGENT"
  | .escalateToHuman => "ESCALATE_TO_HUMAN"
  | .stop => "STOP"

/-- `RecoveryActionType(value)`. -/
def RecoveryActionType.ofValue (s : String) : Option RecoveryActionType :=
  [waitForGatewayRetry, openCustomerPaymentSurface, startVoice, sendToCustomerAgent,
    escalateToHuman, stop].find? fun a => a.value = s

inductive PaymentSurfaceType where
  | subscriptionCardUpdate
  | subscriptionInvoiceLink
  | standardPaymentLink
  deriving DecidableEq, Repr

def PaymentSurfaceType.value : PaymentSurfaceType → String
  | .subscriptionCardUpdate => "SUBSCRIPTION_CARD_UPDATE"
  | .subscriptionInvoiceLink => "SUBSCRIPTION_INVOICE_LINK"
  | .standardPaymentLink => "STANDARD_PAYMENT_LINK"

/-- `PaymentSurfaceType(value)`. -/
def PaymentSurfaceType.ofValue (s : String) : Option PaymentSurfaceType :=
  [subscriptionCardUpdate, subscriptionInvoiceLink, standardPaymentLink].find? fun t => t.value = s

inductive Diagnosis where
  | transientRetryable
  | insufficientFunds
  | authenticationRequired
  | instrumentInvalid
  | merchantError
  | riskOrComplianceBlock
  | unknown
  deriving DecidableEq, Repr

inductive PolicyDisposition where
  | allow
  | block
  | delay
  | requireManualApproval
  deriving DecidableEq, Repr

inductive ActionStatus where
  | proposed
  | awaitingApproval
  | scheduled
  | executing
  | succeeded
  | failed
  | cancelled
  deriving DecidableEq, Repr

end RecoveryOS
