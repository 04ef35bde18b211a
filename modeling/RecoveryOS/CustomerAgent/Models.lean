import RecoveryOS.A2A.Mandate

/-!
# The models of the customer's agent

`models.py` and `signing.py` of the agent: what it is asked for, the mandate it signs, the receipt
that tells it of the payment, and the task that records all three. `Packages` is what the agent takes
from elsewhere: the texts of timestamps, the validation of what is sent to it, and the keys.
-/

namespace RecoveryOS.CustomerAgent

open RecoveryOS.A2A (DateTime jsonText)

structure RecoveryDisplayContext where
  merchantDisplayName : String
  planName : String
  failureExplanation : String
  invoiceState : String
  paymentState : String
  subscriptionState : String
  providerSubscriptionState : String
  preferredLanguage : String
  invoiceDueAt : Option DateTime
  recoveryDeadline : DateTime
  deriving DecidableEq

structure RecoveryRequestData where
  idempotencyKey : String
  caseId : String
  merchantId : String
  customerId : String
  recoveryActionId : String
  failedInvoiceId : String
  exactAmountPaise : ℤ
  currency : String
  paymentSurfaceType : String
  paymentSurfaceReference : String
  expiresAt : DateTime
  context : RecoveryDisplayContext
  deriving DecidableEq

structure RecoveryReceiptData where
  receiptId : String
  signerKeyId : String
  taskId : String
  mandateId : String
  merchantId : String
  caseId : String
  recoveryActionId : String
  failedInvoiceId : String
  exactAmountPaise : ℤ
  currency : String
  providerReference : String
  observedAt : DateTime
  deriving DecidableEq

structure SignedRecoveryReceipt where
  data : RecoveryReceiptData
  signature : String

structure RecoveryMandateData where
  mandateId : String
  nonce : String
  signerKeyId : String
  taskId : String
  merchantId : String
  caseId : String
  customerId : String
  recoveryActionId : String
  failedInvoiceId : String
  exactAmountPaise : ℤ
  currency : String
  paymentSurfaceType : String
  paymentSurfaceReference : String
  issuedAt : DateTime
  expiresAt : DateTime
  deriving DecidableEq

structure SignedMandate where
  data : RecoveryMandateData
  signature : String

/-- `[A-Z]{3}`. -/
def currencyCode (currency : String) : Bool :=
  currency.length == 3 && currency.toList.all Char.isUpper

/-- What the constructor of `RecoveryMandateData` checks. -/
def RecoveryMandateData.valid (d : RecoveryMandateData) : Bool :=
  [d.mandateId, d.nonce, d.signerKeyId, d.taskId, d.merchantId, d.caseId, d.customerId,
    d.recoveryActionId, d.failedInvoiceId].all (· ≠ "")
  && decide (0 < d.exactAmountPaise) && currencyCode d.currency
  && decide (d.issuedAt.instant < d.expiresAt.instant)

inductive Decision where
  | approve
  | reject
  deriving DecidableEq

structure ApprovalDecision where
  decision : Decision
  merchantId : String
  caseId : String
  exactAmountPaise : ℤ
  paymentSurfaceReference : String

inductive Role where
  | user
  | agent

def Role.text : Role → String
  | .user => "ROLE_USER"
  | .agent => "ROLE_AGENT"

structure Message where
  messageId : String
  role : Role
  parts : List (List (String × Json))
  taskId : Option String
  contextId : Option String
  nonempty : parts ≠ []

inductive TaskState where
  | authRequired
  | working
  | completed
  | failed
  | canceled
  deriving DecidableEq

def TaskState.text : TaskState → String
  | .authRequired => "TASK_STATE_AUTH_REQUIRED"
  | .working => "TASK_STATE_WORKING"
  | .completed => "TASK_STATE_COMPLETED"
  | .failed => "TASK_STATE_FAILED"
  | .canceled => "TASK_STATE_CANCELED"

structure TaskRecord where
  id : String
  contextId : String
  state : TaskState
  status : Json
  artifacts : List Json := []
  history : List Json := []
  request : RecoveryRequestData
  createdAt : DateTime
  updatedAt : DateTime
  revision : ℕ := 1

/-- `datetime.isoformat`, the text of a timestamp in `mode="json"`, pydantic's validation of a request
and of a receipt, Ed25519 with its keys, the approval token of a task, and `==` on JSON. -/
structure Packages where
  isoformat : DateTime → String
  jsonTime : DateTime → String
  validateRequest : List (String × Json) → Option RecoveryRequestData
  validateReceipt : List (String × Json) → Option SignedRecoveryReceipt
  signerKeyId : String
  sign : String → String
  Key : Type
  pinnedKeys : List (String × Key)
  verify : Key → String → String → Bool
  approvalToken : TaskRecord → Option String
  sameDict : Json → Json → Bool

/-- A field of a model in `mode="json"`. -/
inductive Scalar where
  | text (s : String)
  | int (n : ℤ)

def Scalar.json : Scalar → Json
  | .text s => .str s
  | .int n => .int n

def Scalar.dumps : Scalar → String
  | .text s => jsonText s
  | .int n => toString n

/-- `json.dumps` of a model's fields, with sorted keys and no spaces. -/
def dumps (fields : List (String × Scalar)) : String :=
  "\x7b" ++ ",".intercalate ((fields.insertionSort fun f g => f.1 ≤ g.1).map fun f =>
    jsonText f.1 ++ ":" ++ f.2.dumps) ++ "\x7d"

variable (pkgs : Packages)

def RecoveryMandateData.modelDump (d : RecoveryMandateData) : List (String × Scalar) :=
  [("protocol_version", .text "recovery.mandate.v2"), ("mandate_id", .text d.mandateId),
    ("nonce", .text d.nonce), ("signer_key_id", .text d.signerKeyId), ("task_id", .text d.taskId),
    ("merchant_id", .text d.merchantId), ("case_id", .text d.caseId),
    ("customer_id", .text d.customerId), ("recovery_action_id", .text d.recoveryActionId),
    ("failed_invoice_id", .text d.failedInvoiceId),
    ("exact_amount_paise", .int d.exactAmountPaise), ("currency", .text d.currency),
    ("payment_surface_type", .text d.paymentSurfaceType),
    ("payment_surface_reference", .text d.paymentSurfaceReference),
    ("authorized_action", .text "OPEN_EXACT_PAYMENT_SURFACE"),
    ("issued_at", .text (pkgs.jsonTime d.issuedAt)),
    ("expires_at", .text (pkgs.jsonTime d.expiresAt))]

def RecoveryReceiptData.modelDump (d : RecoveryReceiptData) : List (String × Scalar) :=
  [("protocol_version", .text "recovery.receipt.v2"), ("receipt_id", .text d.receiptId),
    ("signer_key_id", .text d.signerKeyId), ("task_id", .text d.taskId),
    ("mandate_id", .text d.mandateId), ("merchant_id", .text d.merchantId),
    ("case_id", .text d.caseId), ("recovery_action_id", .text d.recoveryActionId),
    ("failed_invoice_id", .text d.failedInvoiceId),
    ("exact_amount_paise", .int d.exactAmountPaise), ("currency", .text d.currency),
    ("provider_reference", .text d.providerReference), ("payment_state", .text "CAPTURED"),
    ("observed_at", .text (pkgs.jsonTime d.observedAt))]

/-- `canonical_json` of a mandate. -/
def RecoveryMandateData.canonicalJson (d : RecoveryMandateData) : String := dumps (d.modelDump pkgs)

/-- `canonical_json` of a receipt. -/
def RecoveryReceiptData.canonicalJson (d : RecoveryReceiptData) : String := dumps (d.modelDump pkgs)

/-- A model as the object it is dumped to. -/
def object (fields : List (String × Scalar)) : Json := .obj (fields.map fun f => (f.1, f.2.json))

/-- `MandateSigner.sign`; it refuses data that name another key. -/
def signMandate (d : RecoveryMandateData) : Option SignedMandate :=
  if d.signerKeyId = pkgs.signerKeyId then
    some { data := d, signature := pkgs.sign (d.canonicalJson pkgs) }
  else none

def SignedMandate.modelDump (m : SignedMandate) : Json :=
  .obj [("algorithm", .str "Ed25519"), ("data", object (m.data.modelDump pkgs)),
    ("signature", .str m.signature)]

def SignedRecoveryReceipt.modelDump (r : SignedRecoveryReceipt) : Json :=
  .obj [("algorithm", .str "Ed25519"), ("data", object (r.data.modelDump pkgs)),
    ("signature", .str r.signature)]

def Message.modelDump (m : Message) : Json :=
  .obj ([("messageId", .str m.messageId), ("role", .str m.role.text),
      ("parts", .arr (m.parts.map fun data => .obj [("data", .obj data)]))]
    ++ (m.taskId.map fun id => ("taskId", Json.str id)).toList
    ++ (m.contextId.map fun id => ("contextId", Json.str id)).toList)

/-- `ReceiptVerifier.verify`, with the message of the error it raises. -/
def verifyReceipt (signed : SignedRecoveryReceipt) : Except String RecoveryReceiptData :=
  match (pkgs.pinnedKeys.find? fun k => k.1 = signed.data.signerKeyId) with
  | none => .error "payment receipt signer is not pinned"
  | some (_, key) =>
    if pkgs.verify key signed.signature (signed.data.canonicalJson pkgs) then .ok signed.data
    else .error "payment receipt signature is invalid"

/-- `_canonical_request`: the values that are dumped, in the order of their keys. -/
def RecoveryRequestData.canonical (r : RecoveryRequestData) : List (Option String) :=
  [r.caseId, r.context.failureExplanation, r.context.invoiceDueAt.map pkgs.jsonTime,
    r.context.invoiceState, r.context.merchantDisplayName, r.context.paymentState,
    r.context.planName, r.context.preferredLanguage, r.context.providerSubscriptionState,
    pkgs.jsonTime r.context.recoveryDeadline, r.context.subscriptionState, r.currency,
    r.customerId, toString r.exactAmountPaise, pkgs.jsonTime r.expiresAt, r.failedInvoiceId,
    r.idempotencyKey, r.merchantId, r.paymentSurfaceReference, r.paymentSurfaceType,
    r.recoveryActionId]

end RecoveryOS.CustomerAgent
