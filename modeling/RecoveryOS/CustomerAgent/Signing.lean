import RecoveryOS.A2A.NonceStore
import RecoveryOS.CustomerAgent.Wire
import RecoveryOS.Worker.Runtime

/-!
# From the agent's signature to its verification

The agent and RecoveryOS have a model of a mandate each, and a `canonical_json` each. A mandate that
the agent signs goes over the wire as text, is validated by the other model, and is verified over the
other text. Here both texts are the same for every mandate, and the text determines the data.

`Pairing` is what the two services rely on: pydantic, which writes timestamps and reads them again,
and a key pair of which the customer has one half and RecoveryOS has pinned the other.
-/

namespace RecoveryOS.A2A

open CustomerAgent (Scalar Part dumps)

section
variable (pkgs : Packages)

/-- `model_dump(mode="json")`. -/
def RecoveryMandateData.modelDump (d : RecoveryMandateData) : List (String × Scalar) :=
  [("protocol_version", .text protocolVersion), ("mandate_id", .text d.mandateId),
    ("nonce", .text d.nonce), ("signer_key_id", .text d.signerKeyId), ("task_id", .text d.taskId),
    ("merchant_id", .text d.merchantId), ("case_id", .text d.caseId),
    ("customer_id", .text d.customerId), ("recovery_action_id", .text d.recoveryActionId),
    ("failed_invoice_id", .text d.failedInvoiceId),
    ("exact_amount_paise", .int d.exactAmountPaise), ("currency", .text d.currency),
    ("payment_surface_type", .text d.paymentSurfaceType),
    ("payment_surface_reference", .text d.paymentSurfaceReference),
    ("authorized_action", .text authorizedAction),
    ("issued_at", .text (pkgs.isoformat d.issuedAt)),
    ("expires_at", .text (pkgs.isoformat d.expiresAt))]

/-- The envelope in `mode="json"`. -/
def SignedMandate.modelDump (m : SignedMandate) : List (String × Part) :=
  [("algorithm", .scalar (.text "Ed25519")), ("data", .model (m.data.modelDump pkgs)),
    ("signature", .scalar (.text m.signature))]

end

/-! ## Validation

What the declarations of `models.py` admit, with nothing converted. -/

def requireText (fields : List (String × Json)) (name : String) : Option String :=
  match Json.get fields name with
  | .str s => some s
  | _ => none

def requireInt (fields : List (String × Json)) (name : String) : Option ℤ :=
  match Json.get fields name with
  | .int n => some n
  | _ => none

/-- A `Literal`. -/
def requireLiteral (fields : List (String × Json)) (name literal : String) : Option Unit :=
  if requireText fields name = some literal then some () else none

/-- `extra="forbid"`. -/
def forbidExtra (fields : List (String × Json)) (names : List String) : Option Unit :=
  if ∀ f ∈ fields, f.1 ∈ names then some () else none

def RecoveryMandateData.fieldNames : List String :=
  ["protocol_version", "mandate_id", "nonce", "signer_key_id", "task_id", "merchant_id", "case_id",
    "customer_id", "recovery_action_id", "failed_invoice_id", "exact_amount_paise", "currency",
    "payment_surface_type", "payment_surface_reference", "authorized_action", "issued_at",
    "expires_at"]

section
variable (parseTime : String → Option DateTime)

/-- `RecoveryMandateData`; `parseTime` finds the timestamps that have an offset. -/
def RecoveryMandateData.validate (fields : List (String × Json)) : Option RecoveryMandateData := do
  forbidExtra fields fieldNames
  requireLiteral fields "protocol_version" protocolVersion
  let mandateId ← requireText fields "mandate_id"
  let nonce ← requireText fields "nonce"
  let signerKeyId ← requireText fields "signer_key_id"
  let taskId ← requireText fields "task_id"
  let merchantId ← requireText fields "merchant_id"
  let caseId ← requireText fields "case_id"
  let customerId ← requireText fields "customer_id"
  let recoveryActionId ← requireText fields "recovery_action_id"
  let failedInvoiceId ← requireText fields "failed_invoice_id"
  let exactAmountPaise ← requireInt fields "exact_amount_paise"
  let currency ← requireText fields "currency"
  let paymentSurfaceType ← requireText fields "payment_surface_type"
  let paymentSurfaceReference ← requireText fields "payment_surface_reference"
  requireLiteral fields "authorized_action" authorizedAction
  let issuedAt ← (requireText fields "issued_at").bind parseTime
  let expiresAt ← (requireText fields "expires_at").bind parseTime
  if h : (∀ text ∈ [mandateId, nonce, signerKeyId, taskId, merchantId, caseId, customerId,
        recoveryActionId, failedInvoiceId], text ≠ "") ∧ 0 < exactAmountPaise ∧
      (currency.length = 3 ∧ ∀ c ∈ currency.toList, c.isUpper = true) ∧
      issuedAt.instant < expiresAt.instant then
    some
      { mandateId, nonce, signerKeyId, taskId, merchantId, caseId, customerId, recoveryActionId,
        failedInvoiceId, exactAmountPaise, currency, paymentSurfaceType, paymentSurfaceReference,
        issuedAt, expiresAt, named := h.1, positive := h.2.1, currencyCode := h.2.2.1,
        window := h.2.2.2 }
  else none

/-- `SignedMandate`. -/
def SignedMandate.validate (fields : List (String × Json)) : Option SignedMandate := do
  forbidExtra fields ["algorithm", "data", "signature"]
  requireLiteral fields "algorithm" "Ed25519"
  let data ←
    match Json.get fields "data" with
    | .obj inner => RecoveryMandateData.validate parseTime inner
    | _ => none
  let signature ← requireText fields "signature"
  some { data, signature }

end

section
variable {pkgs : Packages}

/-- A model is validated as the model it was dumped from. -/
lemma RecoveryMandateData.validate_modelDump {parseTime : String → Option DateTime}
    (h : ∀ t, parseTime (pkgs.isoformat t) = some t) (d : RecoveryMandateData) :
    validate parseTime ((d.modelDump pkgs).map fun f => (f.1, f.2.json)) = some d := by
  obtain ⟨mandateId, nonce, signerKeyId, taskId, merchantId, caseId, customerId, actionId,
    invoiceId, amount, currency, surfaceType, surfaceReference, issuedAt, expiresAt, hnamed,
    hpositive, hcode, hwindow⟩ := d
  simp [validate, modelDump, forbidExtra, requireLiteral, requireText, requireInt, Json.get,
    fieldNames, Scalar.json, h]
  exact ⟨by simpa using hnamed, hpositive, hcode, hwindow⟩

theorem SignedMandate.validate_modelDump {parseTime : String → Option DateTime}
    (h : ∀ t, parseTime (pkgs.isoformat t) = some t) (m : SignedMandate) :
    validate parseTime ((m.modelDump pkgs).map fun f => (f.1, f.2.json)) = some m := by
  have hget : Json.get ((m.modelDump pkgs).map fun f => (f.1, f.2.json)) "data" =
      .obj ((m.data.modelDump pkgs).map fun f => (f.1, f.2.json)) := rfl
  have hextra : forbidExtra ((m.modelDump pkgs).map fun f => (f.1, f.2.json))
      ["algorithm", "data", "signature"] = some () := by
    simp [forbidExtra, modelDump]
  have hliteral : requireLiteral ((m.modelDump pkgs).map fun f => (f.1, f.2.json)) "algorithm"
      "Ed25519" = some () := rfl
  have htext : requireText ((m.modelDump pkgs).map fun f => (f.1, f.2.json)) "signature" =
      some m.signature := rfl
  simp only [validate, hget, hextra, hliteral, htext, RecoveryMandateData.validate_modelDump h,
    Option.bind_eq_bind, Option.bind_some]

/-! ## The canonical text -/

/-- Sorting by name moves the values along with the names. -/
lemma insertionSort_named {ι V : Type} (names : ι → String) (values : ι → V) {idx sorted : List ι}
    (h : (idx.insertionSort fun i j => names i ≤ names j) = sorted) :
    ((idx.map fun i => (names i, values i)).insertionSort fun f g => f.1 ≤ g.1) =
      sorted.map fun i => (names i, values i) := by
  subst h
  symm
  apply List.map_insertionSort
  intro a _ b _
  rfl

/-- The fields of a mandate in the order of their names. -/
def RecoveryMandateData.sortedFields (pkgs : Packages) (d : RecoveryMandateData) :
    List (String × Scalar) :=
  [("authorized_action", .text authorizedAction), ("case_id", .text d.caseId),
    ("currency", .text d.currency), ("customer_id", .text d.customerId),
    ("exact_amount_paise", .int d.exactAmountPaise),
    ("expires_at", .text (pkgs.isoformat d.expiresAt)),
    ("failed_invoice_id", .text d.failedInvoiceId),
    ("issued_at", .text (pkgs.isoformat d.issuedAt)), ("mandate_id", .text d.mandateId),
    ("merchant_id", .text d.merchantId), ("nonce", .text d.nonce),
    ("payment_surface_reference", .text d.paymentSurfaceReference),
    ("payment_surface_type", .text d.paymentSurfaceType),
    ("protocol_version", .text protocolVersion),
    ("recovery_action_id", .text d.recoveryActionId), ("signer_key_id", .text d.signerKeyId),
    ("task_id", .text d.taskId)]

lemma insertionSort_modelDump (d : RecoveryMandateData) :
    ((d.modelDump pkgs).insertionSort fun f g => f.1 ≤ g.1) = d.sortedFields pkgs := by
  have horder : ((List.range 17).insertionSort fun i j =>
      RecoveryMandateData.fieldNames.getD i "" ≤ RecoveryMandateData.fieldNames.getD j "") =
      [14, 6, 11, 7, 10, 16, 9, 15, 1, 5, 2, 13, 12, 0, 8, 3, 4] := by
    decide +kernel
  have hfields : d.modelDump pkgs = (List.range 17).map fun i =>
      (RecoveryMandateData.fieldNames.getD i "",
        ((d.modelDump pkgs).map Prod.snd).getD i (.int 0)) := rfl
  rw [hfields, insertionSort_named (fun i => RecoveryMandateData.fieldNames.getD i "") _ horder]
  rfl

lemma jsonText_eq_of_plain {s : String} (h : ∀ c ∈ s.toList, jsonEscape c = [c]) :
    jsonText s = "\"" ++ s ++ "\"" := by
  have hl : s.toList.flatMap jsonEscape = s.toList := by
    rw [List.flatMap_congr h]
    simp
  rw [jsonText, hl, String.ofList_toList]

/-- A literal that begins a field, as its separator and its name. -/
lemma append_field {literal sep name value rest rest' : String}
    (h : literal = sep ++ (jsonText name ++ ":")) (hr : rest = rest') :
    literal ++ (value ++ rest) = sep ++ (jsonText name ++ (":" ++ (value ++ rest'))) := by
  rw [h, hr]
  simp only [String.append_assoc]

theorem canonicalJson_eq_dumps (h : ∀ t, ∀ c ∈ (pkgs.isoformat t).toList, jsonEscape c = [c])
    (d : RecoveryMandateData) : canonicalJson pkgs d = dumps (d.modelDump pkgs) := by
  have htime : ∀ t, jsonText (pkgs.isoformat t) = jsonTime pkgs t := fun t =>
    jsonText_eq_of_plain (h t)
  rw [dumps, insertionSort_modelDump]
  unfold canonicalJson RecoveryMandateData.sortedFields
  simp only [List.map_cons, List.map_nil, Scalar.dumps, htime, String.intercalate_cons_cons,
    String.intercalate_singleton, String.append_assoc]
  iterate 17 refine append_field (by decide +kernel) ?_
  rfl

/-- `verify_and_consume`, undisturbed. -/
def Verifier.verifyAndConsume (v : Verifier pkgs) (rows : List A2AMandateNonceConsumption)
    (p : Presentation) : Except Failure VerifiedMandate × List A2AMandateNonceConsumption :=
  match v.check p with
  | .error e => (.error e, rows)
  | .ok c =>
    let consumed := consume rows (c.claim pkgs) (!c.expired)
    (conclude pkgs c consumed.1, consumed.2)

/-- No other mandate holds a key of the claim: no row has one of them, or a row is this claim's. -/
def Unclaimed (rows : List A2AMandateNonceConsumption) (c : MandateNonceClaim) : Prop :=
  (∀ row ∈ rows, row.collides c.columns = false) ∨ ∃ row ∈ rows, row.toClaimColumns = c.columns

end

end RecoveryOS.A2A

namespace RecoveryOS.CustomerAgent

open RecoveryOS.A2A (DateTime jsonEscape Verifier Envelope A2AMandateNonceConsumption
  MandateNonceClaim Unclaimed)

/-! ## The agent's side -/

/-- `_b64url_encode`. -/
def b64urlEncode (bytes : List UInt8) : String :=
  String.ofList (Base64.strip (Base64.encode bytes))

/-- `_decode` of `mandates.py`. -/
def b64urlDecode (text : String) : Option (List UInt8) :=
  Base64.decode (text.toList ++ Base64.filling text.toList.length)

lemma b64urlDecode_b64urlEncode (bytes : List UInt8) :
    b64urlDecode (b64urlEncode bytes) = some bytes := by
  rw [b64urlDecode, b64urlEncode, String.toList_ofList]
  exact Base64.decode_strip_encode bytes

/-- What the agent and RecoveryOS rely on together. -/
structure Pairing (agent : Packages) (api : A2A.Packages) where
  /-- How pydantic reads a timestamp with an offset. -/
  parseTime : String → Option DateTime
  parseTime_jsonTime : ∀ t, parseTime (agent.jsonTime t) = some t
  /-- The text of a timestamp has digits, letters, colons and signs. -/
  jsonTime_plain : ∀ t, ∀ c ∈ (agent.jsonTime t).toList, jsonEscape c = [c]
  /-- Both services write timestamps with pydantic. -/
  isoformat_eq : api.isoformat = agent.jsonTime
  /-- What the declarations of a model admit, pydantic takes as it is. -/
  modelValidate : ∀ fields m, A2A.SignedMandate.validate parseTime fields = some m →
    api.modelValidate fields = some m
  /-- The private key's `sign`, and the public key. -/
  privateSign : String → List UInt8
  publicKey : api.Key
  sign_eq : ∀ text, agent.sign text = b64urlEncode (privateSign text)
  decode_eq : api.decode = b64urlDecode
  verify_sign : ∀ text, api.verify publicKey (privateSign text) text = true

lemma RecoveryMandateData.valid_iff (d : RecoveryMandateData) : d.valid = true ↔
    (∀ text ∈ [d.mandateId, d.nonce, d.signerKeyId, d.taskId, d.merchantId, d.caseId,
      d.customerId, d.recoveryActionId, d.failedInvoiceId], text ≠ "") ∧ 0 < d.exactAmountPaise ∧
    (d.currency.length = 3 ∧ ∀ c ∈ d.currency.toList, c.isUpper = true) ∧
    d.issuedAt.instant < d.expiresAt.instant := by
  simp [valid, currencyCode, and_assoc]

/-- Valid data as the other model has them. -/
def RecoveryMandateData.received (d : RecoveryMandateData) (h : d.valid = true) :
    A2A.RecoveryMandateData where
  mandateId := d.mandateId
  nonce := d.nonce
  signerKeyId := d.signerKeyId
  taskId := d.taskId
  merchantId := d.merchantId
  caseId := d.caseId
  customerId := d.customerId
  recoveryActionId := d.recoveryActionId
  failedInvoiceId := d.failedInvoiceId
  exactAmountPaise := d.exactAmountPaise
  currency := d.currency
  paymentSurfaceType := d.paymentSurfaceType
  paymentSurfaceReference := d.paymentSurfaceReference
  issuedAt := d.issuedAt
  expiresAt := d.expiresAt
  named := (d.valid_iff.mp h).1
  positive := (d.valid_iff.mp h).2.1
  currencyCode := (d.valid_iff.mp h).2.2.1
  window := (d.valid_iff.mp h).2.2.2

/-- The scope that the agent's data name. -/
def RecoveryMandateData.scope (d : RecoveryMandateData) : A2A.ExpectedMandateScope where
  taskId := d.taskId
  merchantId := d.merchantId
  caseId := d.caseId
  customerId := d.customerId
  recoveryActionId := d.recoveryActionId
  failedInvoiceId := d.failedInvoiceId
  exactAmountPaise := d.exactAmountPaise
  currency := d.currency
  paymentSurfaceType := d.paymentSurfaceType
  paymentSurfaceReference := d.paymentSurfaceReference

variable (agent : Packages)

/-- The envelope in `mode="json"`, field by field. -/
def SignedMandate.parts (m : SignedMandate) : List (String × Part) :=
  [("algorithm", .scalar (.text "Ed25519")), ("data", .model (m.data.modelDump agent)),
    ("signature", .scalar (.text m.signature))]

lemma SignedMandate.modelDump_eq (m : SignedMandate) :
    m.modelDump agent = .obj ((m.parts agent).map fun f => (f.1, f.2.json)) := rfl

/-- The envelope on the wire. -/
def SignedMandate.text (m : SignedMandate) : String := envelopeText (m.parts agent)

/-! ## Acceptance -/

section
variable {agent} {rt : Worker.Runtime} (pair : Pairing agent rt.pkgs)

/-- A text is read, and validated as an envelope. -/
def receive (rt : Worker.Runtime) (text : String) : Option A2A.SignedMandate :=
  (loads text).bind fun fields => Worker.validateMandate rt (.obj fields)

/-- What a signed envelope is taken for, and that it is accepted: by every verifier that has pinned
the key, in the scope of the data, at a time at which they are valid, if the nonce store is `free`
for it. It is then stored, and what is handed on to the execution has the id of the stored claim. -/
structure Accepted (free : List A2AMandateNonceConsumption → MandateNonceClaim → Prop)
    (d : RecoveryMandateData) (m : SignedMandate) (signed : A2A.SignedMandate) : Prop where
  received : receive rt (m.text agent) = some signed
  canonical : A2A.canonicalJson rt.pkgs signed.data = d.canonicalJson agent
  verified : ∀ (v : Verifier rt.pkgs) (envelope : Envelope) (now : Instant)
    (rows : List A2AMandateNonceConsumption), v.keys d.signerKeyId = some pair.publicKey →
    envelope.parse rt.pkgs = some signed → d.issuedAt.instant ≤ now + v.maxClockSkew →
    now < d.expiresAt.instant → free rows (A2A.nonceClaim rt.pkgs signed.data now) →
    ∃ rows', v.verifyAndConsume rows ⟨envelope, d.scope, some now⟩ =
        (.ok ⟨signed.data, now, rt.pkgs.sha256 (d.canonicalJson agent)⟩, rows') ∧
      ∃ row ∈ rows', row.mandateId = d.mandateId ∧
        row.claimId = some (rt.pkgs.sha256 (d.canonicalJson agent))
  executed : ∃ signed', receive rt (envelopeText (signed.modelDump rt.pkgs)) = some signed' ∧
    signed'.data.mandateId = d.mandateId ∧
    rt.pkgs.sha256 (A2A.canonicalJson rt.pkgs signed'.data) =
      rt.pkgs.sha256 (d.canonicalJson agent)

include pair

lemma Pairing.api_parseTime (t : DateTime) : pair.parseTime (rt.pkgs.isoformat t) = some t := by
  rw [pair.isoformat_eq]
  exact pair.parseTime_jsonTime t

lemma Pairing.api_plain (t : DateTime) :
    ∀ c ∈ (rt.pkgs.isoformat t).toList, jsonEscape c = [c] := by
  rw [pair.isoformat_eq]
  exact pair.jsonTime_plain t

/-- Both models dump the same fields. -/
lemma Pairing.modelDump_received (d : RecoveryMandateData) (h : d.valid = true) :
    (d.received h).modelDump rt.pkgs = d.modelDump agent := by
  simp only [A2A.RecoveryMandateData.modelDump, RecoveryMandateData.modelDump, pair.isoformat_eq]
  rfl

/-- Both services sign and verify the same text. -/
lemma Pairing.canonicalJson_received (d : RecoveryMandateData) (h : d.valid = true) :
    A2A.canonicalJson rt.pkgs (d.received h) = d.canonicalJson agent := by
  rw [A2A.canonicalJson_eq_dumps pair.api_plain, pair.modelDump_received]
  rfl

end

section
open RecoveryOS.A2A (sampleIsoformat sampleText sampleKey sampleSignature sampleData)

/-- `sampleIsoformat` read backwards. -/
def sampleParseTime (text : String) : Option DateTime :=
  if text = "1970-01-01T00:00:00Z" then some ⟨0, 0⟩
  else if text = "1970-01-01T00:00:10Z" then some ⟨10000000, 0⟩
  else (Encodable.decode text.toList.length : Option (ℤ × ℤ)).map fun p => ⟨p.1, p.2⟩

lemma sampleParseTime_sampleIsoformat (t : DateTime) :
    sampleParseTime (sampleIsoformat t) = some t := by
  rcases A2A.sampleIsoformat_cases t with ⟨rfl, h⟩ | ⟨rfl, h⟩ | h
  · rw [h]
    rfl
  · rw [h]
    rfl
  · have hx : ∀ s : String, '1' ∈ s.toList → sampleIsoformat t ≠ s := by
      rintro s hs rfl
      rw [h] at hs
      exact absurd (List.eq_of_mem_replicate hs) (by decide)
    rw [sampleParseTime, if_neg (hx _ (by decide)), if_neg (hx _ (by decide)), h,
      List.length_replicate, Encodable.encodek]
    rfl

lemma plain_of_all {text : List Char} (h : (text.all fun c => jsonEscape c == [c]) = true) :
    ∀ c ∈ text, jsonEscape c = [c] := by
  intro c hc
  simpa using List.all_eq_true.mp h c hc

lemma sampleIsoformat_plain (t : DateTime) :
    ∀ c ∈ (sampleIsoformat t).toList, jsonEscape c = [c] := by
  rcases A2A.sampleIsoformat_cases t with ⟨-, h⟩ | ⟨-, h⟩ | h
  · rw [h]
    exact plain_of_all (by decide)
  · rw [h]
    exact plain_of_all (by decide)
  · rw [h]
    intro c hc
    rw [List.eq_of_mem_replicate hc]
    rfl

/-- The signature of `sampleText`, and some bytes for other texts. -/
def samplePrivateSign (text : String) : List UInt8 :=
  if text = sampleText then sampleSignature
  else text.toList.map fun c => UInt8.ofNat c.toNat

def pairedRuntime : Worker.Runtime where
  provider := .mock
  pkgs :=
    { Key := List UInt8
      modelValidate := A2A.SignedMandate.validate sampleParseTime
      decode := b64urlDecode
      verify := fun key sig text => Decidable.decide (key = sampleKey ∧ sig = samplePrivateSign text)
      sha256 := A2A.samplePackages.sha256
      isoformat := sampleIsoformat
      isoformat_injective := A2A.sampleIsoformat_injective
      isoformat_unquoted := A2A.sampleIsoformat_unquoted }
  parseInstant _ := none

def pairedAgent : Packages where
  isoformat := sampleIsoformat
  jsonTime := sampleIsoformat
  validateRequest _ := none
  validateReceipt _ := none
  signerKeyId := "agent_key"
  sign text := b64urlEncode (samplePrivateSign text)
  Key := Unit
  pinnedKeys := []
  verify _ _ _ := false
  approvalToken _ := none
  sameDict _ _ := false

def pairedVerifier : Verifier pairedRuntime.pkgs where
  keys keyId := if keyId = "agent_key" then some sampleKey else none

/-- What the customer approves: the data of `sampleData`. -/
def approvedData : RecoveryMandateData where
  mandateId := "mandate_1"
  nonce := "nonce_1"
  signerKeyId := "agent_key"
  taskId := "task_1"
  merchantId := "merchant_1"
  caseId := "case_1"
  customerId := "customer_1"
  recoveryActionId := "action_1"
  failedInvoiceId := "inv_1"
  exactAmountPaise := 49900
  currency := "INR"
  paymentSurfaceType := "SUBSCRIPTION_INVOICE_LINK"
  paymentSurfaceReference := "inv_1"
  issuedAt := ⟨0, 0⟩
  expiresAt := ⟨10000000, 0⟩

lemma approvedData_valid : approvedData.valid = true := by decide

end

end RecoveryOS.CustomerAgent
