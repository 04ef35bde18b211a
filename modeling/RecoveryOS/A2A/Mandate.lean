import RecoveryOS.Domain
import RecoveryOS.Lib.JsonText

/-!
# Signed mandates and their verification

`mandates.py` up to the nonce store: the signed data, the bytes that are signed, and the checks of
`verify_and_consume` in the order the code makes them. What the code takes from other packages is
`Packages`: base64 decoding, Ed25519, SHA-256, the validation of an unparsed envelope, and the text
a timestamp is serialised to.
-/

namespace RecoveryOS.A2A

/-- An offset-aware `datetime`, its offset in minutes; two are compared by their instants. -/
structure DateTime where
  instant : Instant
  offset : ℤ
  deriving DecidableEq

instance decidableUpper (text : String) : Decidable (∀ c ∈ text.toList, c.isUpper = true) :=
  List.decidableBAll _ _

/-- `RecoveryMandateData`: a validated one, so the checks of the model are fields. -/
structure RecoveryMandateData where
  mandateId : String
  nonce : String
  signerKeyId : String
  taskId : String
  merchantId : String
  caseId : String
  customerId : String
  recoveryActionId : String
  failedInvoiceId : String
  exactAmountPaise : ℤ
  currency : String
  paymentSurfaceType : String
  paymentSurfaceReference : String
  issuedAt : DateTime
  expiresAt : DateTime
  named : ∀ text ∈ [mandateId, nonce, signerKeyId, taskId, merchantId, caseId, customerId,
    recoveryActionId, failedInvoiceId], text ≠ ""
  positive : 0 < exactAmountPaise
  currencyCode : currency.length = 3 ∧ ∀ c ∈ currency.toList, c.isUpper = true
  window : issuedAt.instant < expiresAt.instant
  deriving DecidableEq

/-- The literal fields of the signed data. -/
def protocolVersion : String := "recovery.mandate.v2"

def authorizedAction : String := "OPEN_EXACT_PAYMENT_SURFACE"

structure SignedMandate where
  data : RecoveryMandateData
  signature : String

structure ExpectedMandateScope where
  taskId : String
  merchantId : String
  caseId : String
  customerId : String
  recoveryActionId : String
  failedInvoiceId : String
  exactAmountPaise : ℤ
  currency : String
  paymentSurfaceType : String
  paymentSurfaceReference : String
  deriving DecidableEq

/-- The scope that signed data names. -/
def RecoveryMandateData.scope (d : RecoveryMandateData) : ExpectedMandateScope where
  taskId := d.taskId
  merchantId := d.merchantId
  caseId := d.caseId
  customerId := d.customerId
  recoveryActionId := d.recoveryActionId
  failedInvoiceId := d.failedInvoiceId
  exactAmountPaise := d.exactAmountPaise
  currency := d.currency
  paymentSurfaceType := d.paymentSurfaceType
  paymentSurfaceReference := d.paymentSurfaceReference

/-- The packages the verification relies on, with what is assumed of the timestamps' text. -/
structure Packages where
  Key : Type
  modelValidate : List (String × Json) → Option SignedMandate
  decode : String → Option (List UInt8)
  verify : Key → List UInt8 → String → Bool
  sha256 : String → String
  isoformat : DateTime → String
  isoformat_injective : Function.Injective isoformat
  isoformat_unquoted : ∀ t, '"' ∉ (isoformat t).toList

/-! ## The signed bytes -/

/-- How `json.dumps` with `ensure_ascii=False` writes one character of a text. -/
def jsonEscape (c : Char) : List Char :=
  if c = '"' then ['\\', '"']
  else if c = '\\' then ['\\', '\\']
  else if c = '\n' then ['\\', 'n']
  else if c = '\r' then ['\\', 'r']
  else if c = '\t' then ['\\', 't']
  else if c.toNat = 12 then ['\\', 'f']
  else if c.toNat = 8 then ['\\', 'b']
  else if c.toNat < 32 then
    ['\\', 'u', '0', '0', JsonText.hexDigit (c.toNat / 16), JsonText.hexDigit (c.toNat % 16)]
  else [c]

def jsonText (s : String) : String := "\"" ++ String.ofList (s.toList.flatMap jsonEscape) ++ "\""

def jsonTime (pkgs : Packages) (t : DateTime) : String := "\"" ++ pkgs.isoformat t ++ "\""

/-- `canonical_json`: the keys in order, no spaces. -/
def canonicalJson (pkgs : Packages) (d : RecoveryMandateData) : String :=
  ("\x7b\"authorized_action\":" ++ jsonText authorizedAction
    ++ ",\"case_id\":" ++ jsonText d.caseId
    ++ ",\"currency\":" ++ jsonText d.currency
    ++ ",\"customer_id\":" ++ jsonText d.customerId
    ++ ",\"exact_amount_paise\":" ++ toString d.exactAmountPaise
    ++ ",\"expires_at\":") ++ jsonTime pkgs d.expiresAt ++
  (",\"failed_invoice_id\":" ++ jsonText d.failedInvoiceId
    ++ ",\"issued_at\":") ++ jsonTime pkgs d.issuedAt ++
  (",\"mandate_id\":" ++ jsonText d.mandateId
    ++ ",\"merchant_id\":" ++ jsonText d.merchantId
    ++ ",\"nonce\":" ++ jsonText d.nonce
    ++ ",\"payment_surface_reference\":" ++ jsonText d.paymentSurfaceReference
    ++ ",\"payment_surface_type\":" ++ jsonText d.paymentSurfaceType
    ++ ",\"protocol_version\":" ++ jsonText protocolVersion
    ++ ",\"recovery_action_id\":" ++ jsonText d.recoveryActionId
    ++ ",\"signer_key_id\":" ++ jsonText d.signerKeyId
    ++ ",\"task_id\":" ++ jsonText d.taskId ++ "\x7d")

/-- A text without quotes is read off up to the quote that ends it. -/
lemma append_quote_inj {q : Char} : ∀ {x y r r' : List Char}, q ∉ x → q ∉ y →
    x ++ q :: r = y ++ q :: r' → x = y ∧ r = r'
  | [], [], r, r', _, _, h => by simpa using h
  | [], c :: y, r, r', _, hy, h => by
    simp only [List.nil_append, List.cons_append, List.cons.injEq] at h
    exact absurd (h.1 ▸ List.mem_cons_self) hy
  | c :: x, [], r, r', hx, _, h => by
    simp only [List.nil_append, List.cons_append, List.cons.injEq] at h
    exact absurd (h.1 ▸ List.mem_cons_self) hx
  | c :: x, c' :: y, r, r', hx, hy, h => by
    simp only [List.cons_append, List.cons.injEq] at h
    obtain ⟨rfl, h⟩ := h
    obtain ⟨rfl, rfl⟩ := append_quote_inj (List.not_mem_of_not_mem_cons hx)
      (List.not_mem_of_not_mem_cons hy) h
    exact ⟨rfl, rfl⟩

lemma jsonTime_append_inj (pkgs : Packages) {t t' : DateTime} {r r' : List Char}
    (h : (jsonTime pkgs t).toList ++ r = (jsonTime pkgs t').toList ++ r') : t = t' ∧ r = r' := by
  have hq : "\"".toList = ['"'] := rfl
  simp only [jsonTime, String.toList_append, hq, List.append_assoc, List.cons_append,
    List.nil_append, List.cons.injEq, true_and] at h
  obtain ⟨ht, hr⟩ := append_quote_inj (pkgs.isoformat_unquoted t) (pkgs.isoformat_unquoted t') h
  exact ⟨pkgs.isoformat_injective (String.toList_inj.mp ht), hr⟩

/-- Two timestamps in the same surroundings. -/
lemma jsonTime_pair_inj (pkgs : Packages) {e e' i i' : DateTime} (a b c : String)
    (h : a ++ jsonTime pkgs e ++ b ++ jsonTime pkgs i ++ c =
      a ++ jsonTime pkgs e' ++ b ++ jsonTime pkgs i' ++ c) : e = e' ∧ i = i' := by
  have hl := congrArg String.toList h
  simp only [String.toList_append, List.append_assoc, List.append_cancel_left_eq] at hl
  obtain ⟨he, hl⟩ := jsonTime_append_inj pkgs hl
  exact ⟨he, (jsonTime_append_inj pkgs (List.append_cancel_left hl)).1⟩

/-- Data that agree in every field but the timestamps are equal if the same text was signed. -/
theorem eq_of_canonicalJson_eq (pkgs : Packages) {d d' : RecoveryMandateData}
    (hm : d.mandateId = d'.mandateId) (hn : d.nonce = d'.nonce)
    (hk : d.signerKeyId = d'.signerKeyId) (hs : d.scope = d'.scope)
    (hj : canonicalJson pkgs d = canonicalJson pkgs d') : d = d' := by
  obtain ⟨mandateId, nonce, signerKeyId, taskId, merchantId, caseId, customerId, actionId,
    invoiceId, amount, currency, surfaceType, surfaceReference, issuedAt, expiresAt⟩ := d
  obtain ⟨mandateId', nonce', signerKeyId', taskId', merchantId', caseId', customerId', actionId',
    invoiceId', amount', currency', surfaceType', surfaceReference', issuedAt', expiresAt'⟩ := d'
  simp only [RecoveryMandateData.scope, ExpectedMandateScope.mk.injEq] at hm hn hk hs
  obtain ⟨rfl, rfl, rfl, rfl, rfl, rfl, rfl, rfl, rfl, rfl⟩ := hs
  subst hm hn hk
  obtain ⟨rfl, rfl⟩ := jsonTime_pair_inj pkgs _ _ _ hj
  rfl

/-! ## The checks -/

structure MandateVerificationError where
  code : String
  message : String
  deriving DecidableEq

/-- How a verification fails: with a structured rejection, or with a `ValueError`. -/
inductive Failure where
  | rejected (error : MandateVerificationError)
  | valueError (message : String)
  deriving DecidableEq

/-- An envelope is a `SignedMandate`, or a `dict` still to be validated. -/
inductive Envelope where
  | signed (m : SignedMandate)
  | raw (fields : List (String × Json))

def Envelope.parse (pkgs : Packages) : Envelope → Option SignedMandate
  | .signed m => some m
  | .raw fields => pkgs.modelValidate fields

/-- The arguments of one call; a verification time without an offset is `none`. -/
structure Presentation where
  envelope : Envelope
  expected : ExpectedMandateScope
  observedAt : Option Instant

/-- `MandateVerifier`: the pinned keys and the clock skew that is tolerated, in microseconds. -/
structure Verifier (pkgs : Packages) where
  keys : String → Option pkgs.Key
  maxClockSkew : ℤ := 30000000

/-- The scope fields in which signed data differ from the expected scope. -/
def scopeMismatches (d : RecoveryMandateData) (e : ExpectedMandateScope) : List String :=
  [("task_id", decide (d.taskId = e.taskId)),
    ("merchant_id", decide (d.merchantId = e.merchantId)),
    ("case_id", decide (d.caseId = e.caseId)),
    ("customer_id", decide (d.customerId = e.customerId)),
    ("recovery_action_id", decide (d.recoveryActionId = e.recoveryActionId)),
    ("failed_invoice_id", decide (d.failedInvoiceId = e.failedInvoiceId)),
    ("exact_amount_paise", decide (d.exactAmountPaise = e.exactAmountPaise)),
    ("currency", decide (d.currency = e.currency)),
    ("payment_surface_type", decide (d.paymentSurfaceType = e.paymentSurfaceType)),
    ("payment_surface_reference",
      decide (d.paymentSurfaceReference = e.paymentSurfaceReference))].filterMap
    fun field => if field.2 then none else some field.1

/-- Nothing mismatches exactly if all ten fields of the scope are as expected. -/
theorem scopeMismatches_eq_nil {d : RecoveryMandateData} {e : ExpectedMandateScope} :
    scopeMismatches d e = [] ↔ d.scope = e := by
  obtain ⟨taskId, merchantId, caseId, customerId, actionId, invoiceId, amount, currency,
    surfaceType, surfaceReference⟩ := e
  simp [scopeMismatches, RecoveryMandateData.scope, List.filterMap_eq_nil_iff]

/-- `MandateNonceClaim`; its timestamps are compared as instants. -/
structure MandateNonceClaim where
  claimId : String
  nonce : String
  mandateId : String
  signerKeyId : String
  taskId : String
  merchantId : String
  caseId : String
  customerId : String
  recoveryActionId : String
  failedInvoiceId : String
  exactAmountPaise : ℤ
  currency : String
  paymentSurfaceType : String
  paymentSurfaceReference : String
  authorizedAction : String
  issuedAt : Instant
  expiresAt : Instant
  consumedAt : Instant

def nonceClaim (pkgs : Packages) (d : RecoveryMandateData) (observedAt : Instant) :
    MandateNonceClaim where
  claimId := pkgs.sha256 (canonicalJson pkgs d)
  nonce := d.nonce
  mandateId := d.mandateId
  signerKeyId := d.signerKeyId
  taskId := d.taskId
  merchantId := d.merchantId
  caseId := d.caseId
  customerId := d.customerId
  recoveryActionId := d.recoveryActionId
  failedInvoiceId := d.failedInvoiceId
  exactAmountPaise := d.exactAmountPaise
  currency := d.currency
  paymentSurfaceType := d.paymentSurfaceType
  paymentSurfaceReference := d.paymentSurfaceReference
  authorizedAction := authorizedAction
  issuedAt := d.issuedAt.instant
  expiresAt := d.expiresAt.instant
  consumedAt := observedAt

/-- What a call knows when it goes to the nonce store. -/
structure Checked where
  signed : SignedMandate
  observedAt : Instant
  expired : Bool

namespace Verifier
variable {pkgs : Packages} (v : Verifier pkgs)

/-- `verify_and_consume` up to the nonce store. -/
def check (p : Presentation) : Except Failure Checked :=
  match p.envelope.parse pkgs with
  | none =>
    .error (.rejected ⟨"MALFORMED_MANDATE",
      "mandate envelope does not match recovery.mandate.v2"⟩)
  | some signed =>
    match v.keys signed.data.signerKeyId with
    | none => .error (.rejected ⟨"UNKNOWN_SIGNER_KEY", "signer key is not pinned"⟩)
    | some key =>
      match pkgs.decode signed.signature with
      | none => .error (.rejected ⟨"INVALID_ENCODING", "invalid base64url value"⟩)
      | some signature =>
        if pkgs.verify key signature (canonicalJson pkgs signed.data) = false then
          .error (.rejected ⟨"INVALID_SIGNATURE", "mandate signature is invalid"⟩)
        else
          match p.observedAt with
          | none => .error (.valueError "verification time must be timezone-aware")
          | some now =>
            if now + v.maxClockSkew < signed.data.issuedAt.instant then
              .error (.rejected ⟨"NOT_YET_VALID", "mandate issue time is in the future"⟩)
            else if scopeMismatches signed.data p.expected ≠ [] then
              .error (.rejected ⟨"SCOPE_MISMATCH", "mandate does not match expected "
                ++ ", ".intercalate (scopeMismatches signed.data p.expected)⟩)
            else
              .ok { signed, observedAt := now
                    expired := decide (signed.data.expiresAt.instant ≤ now) }

/-- What is known of a call that passed every check. -/
structure Passed (p : Presentation) (c : Checked) : Prop where
  parsed : p.envelope.parse pkgs = some c.signed
  signature : ∃ key sig, v.keys c.signed.data.signerKeyId = some key ∧
    pkgs.decode c.signed.signature = some sig ∧
    pkgs.verify key sig (canonicalJson pkgs c.signed.data) = true
  observedAt : p.observedAt = some c.observedAt
  scope : c.signed.data.scope = p.expected
  expired : c.expired = true ↔ c.signed.data.expiresAt.instant ≤ c.observedAt

variable {v}

theorem passed_of_check {p : Presentation} {c : Checked} (h : v.check p = .ok c) :
    v.Passed p c := by
  unfold check at h
  cases hp : p.envelope.parse pkgs with
  | none => simp [hp] at h
  | some signed =>
  cases hk : v.keys signed.data.signerKeyId with
  | none => simp [hp, hk] at h
  | some key =>
  cases hd : pkgs.decode signed.signature with
  | none => simp [hp, hk, hd] at h
  | some sig =>
  cases ho : p.observedAt with
  | none =>
    simp only [hp, hk, hd, ho] at h
    split_ifs at h
  | some now =>
    simp only [hp, hk, hd, ho] at h
    split_ifs at h with hv hi hs
    obtain rfl := Except.ok.inj h
    refine ⟨hp, ⟨key, sig, hk, hd, by simpa using hv⟩, ho, ?_, by simp⟩
    exact scopeMismatches_eq_nil.mp (by simpa using hs)

end Verifier

/-! ## A signed mandate -/

/-- The text that is signed for `sampleData`. -/
def sampleText : String :=
  "\x7b\"authorized_action\":\"OPEN_EXACT_PAYMENT_SURFACE\",\"case_id\":\"case_1\","
    ++ "\"currency\":\"INR\",\"customer_id\":\"customer_1\",\"exact_amount_paise\":49900,"
    ++ "\"expires_at\":\"1970-01-01T00:00:10Z\",\"failed_invoice_id\":\"inv_1\","
    ++ "\"issued_at\":\"1970-01-01T00:00:00Z\",\"mandate_id\":\"mandate_1\","
    ++ "\"merchant_id\":\"merchant_1\",\"nonce\":\"nonce_1\","
    ++ "\"payment_surface_reference\":\"inv_1\","
    ++ "\"payment_surface_type\":\"SUBSCRIPTION_INVOICE_LINK\","
    ++ "\"protocol_version\":\"recovery.mandate.v2\",\"recovery_action_id\":\"action_1\","
    ++ "\"signer_key_id\":\"agent_key\",\"task_id\":\"task_1\"\x7d"

/-- The pinned key and the signature under it of `sampleText`. -/
def sampleKey : List UInt8 :=
  [215, 90, 152, 1, 130, 177, 10, 183, 213, 75, 254, 211, 201, 100, 7, 58, 14, 225, 114, 243,
    218, 166, 35, 37, 175, 2, 26, 104, 247, 7, 81, 26]

def sampleSignature : List UInt8 :=
  [66, 41, 104, 252, 65, 103, 180, 201, 51, 6, 69, 56, 124, 198, 31, 125, 187, 157, 18, 29, 4,
    30, 102, 229, 222, 180, 120, 224, 23, 9, 224, 124, 203, 186, 74, 19, 183, 102, 98, 25, 60,
    165, 61, 61, 215, 230, 125, 207, 90, 139, 246, 223, 111, 144, 136, 27, 233, 33, 54, 112, 211,
    4, 222, 4]

/-- A mandate issued at the epoch that expires ten seconds later. -/
def sampleData : RecoveryMandateData where
  mandateId := "mandate_1"
  nonce := "nonce_1"
  signerKeyId := "agent_key"
  taskId := "task_1"
  merchantId := "merchant_1"
  caseId := "case_1"
  customerId := "customer_1"
  recoveryActionId := "action_1"
  failedInvoiceId := "inv_1"
  exactAmountPaise := 49900
  currency := "INR"
  paymentSurfaceType := "SUBSCRIPTION_INVOICE_LINK"
  paymentSurfaceReference := "inv_1"
  issuedAt := ⟨0, 0⟩
  expiresAt := ⟨10000000, 0⟩
  named := by decide
  positive := by decide
  currencyCode := ⟨by decide, List.all_eq_true.mp (by decide)⟩
  window := by decide

def sampleMandate : SignedMandate where
  data := sampleData
  signature := "Qilo_EFntMkzBkU4fMYffbudEh0EHmbl3rR44BcJ4HzLukoTt2ZiGTylPT3X5n3PWov232-QiBvpITZw0wTeBA"

/-- The text of a timestamp: as it is for the two of `sampleData`, and some text for the others. -/
def sampleIsoformat (t : DateTime) : String :=
  if t = ⟨0, 0⟩ then "1970-01-01T00:00:00Z"
  else if t = ⟨10000000, 0⟩ then "1970-01-01T00:00:10Z"
  else String.ofList (List.replicate (Encodable.encode (t.instant, t.offset)) 'x')


lemma sampleIsoformat_cases (t : DateTime) :
    (t = ⟨0, 0⟩ ∧ sampleIsoformat t = "1970-01-01T00:00:00Z") ∨
    (t = ⟨10000000, 0⟩ ∧ sampleIsoformat t = "1970-01-01T00:00:10Z") ∨
    (sampleIsoformat t).toList = List.replicate (Encodable.encode (t.instant, t.offset)) 'x' := by
  unfold sampleIsoformat
  split_ifs with h₀ h₁
  · exact .inl ⟨h₀, rfl⟩
  · exact .inr (.inl ⟨h₁, rfl⟩)
  · exact .inr (.inr (by simp))

lemma sampleIsoformat_injective : Function.Injective sampleIsoformat := by
  have hx : ∀ (n : ℕ) (s : String), s.toList = List.replicate n 'x' → '1' ∉ s.toList := by
    intro n s hs h1
    rw [hs] at h1
    exact absurd (List.eq_of_mem_replicate h1) (by decide)
  have h0 : '1' ∈ "1970-01-01T00:00:00Z".toList := by decide
  have h1 : '1' ∈ "1970-01-01T00:00:10Z".toList := by decide
  intro t t' h
  rcases sampleIsoformat_cases t with ⟨rfl, e⟩ | ⟨rfl, e⟩ | e <;>
    rcases sampleIsoformat_cases t' with ⟨rfl, e'⟩ | ⟨rfl, e'⟩ | e'
  · rfl
  · rw [e, e'] at h
    exact absurd h (by decide)
  · exact absurd (h ▸ e ▸ h0) (hx _ _ e')
  · rw [e, e'] at h
    exact absurd h (by decide)
  · rfl
  · exact absurd (h ▸ e ▸ h1) (hx _ _ e')
  · exact absurd (h ▸ e' ▸ h0) (hx _ _ e)
  · exact absurd (h ▸ e' ▸ h1) (hx _ _ e)
  · have hn := congrArg List.length (e.symm.trans ((congrArg String.toList h).trans e'))
    simp only [List.length_replicate] at hn
    have := Encodable.encode_injective hn
    obtain ⟨i, o⟩ := t
    obtain ⟨i', o'⟩ := t'
    simpa using this

lemma sampleIsoformat_unquoted (t : DateTime) : '"' ∉ (sampleIsoformat t).toList := by
  rcases sampleIsoformat_cases t with ⟨-, e⟩ | ⟨-, e⟩ | e
  · rw [e]
    decide
  · rw [e]
    decide
  · rw [e]
    intro h
    exact absurd (List.eq_of_mem_replicate h) (by decide)

def samplePackages : Packages where
  Key := List UInt8
  modelValidate _ := none
  decode text := if text = sampleMandate.signature then some sampleSignature else none
  verify key sig text := decide (key = sampleKey ∧ sig = sampleSignature ∧ text = sampleText)
  sha256 text :=
    if text = sampleText then "db5796d0f813338fc854307eb1f0673c012c341b376b084dda04727b837a3322"
    else text
  isoformat := sampleIsoformat
  isoformat_injective := sampleIsoformat_injective
  isoformat_unquoted := sampleIsoformat_unquoted

def sampleVerifier : Verifier samplePackages where
  keys keyId := if keyId = "agent_key" then some sampleKey else none

lemma canonicalJson_sampleData : canonicalJson samplePackages sampleData = sampleText := by
  decide +kernel

/-- The sample, presented in its own scope, passes every check. -/
lemma sampleVerifier_check {t : Instant} (ht : 0 ≤ t) :
    sampleVerifier.check ⟨.signed sampleMandate, sampleData.scope, some t⟩ =
      .ok ⟨sampleMandate, t, decide (10000000 ≤ t)⟩ := by
  have hkey : sampleVerifier.keys sampleMandate.data.signerKeyId = some sampleKey := rfl
  have hdecode : samplePackages.decode sampleMandate.signature = some sampleSignature := rfl
  have hverify : samplePackages.verify sampleKey sampleSignature
      (canonicalJson samplePackages sampleMandate.data) = true := by
    rw [show sampleMandate.data = sampleData from rfl, canonicalJson_sampleData]
    simp [samplePackages]
  have hskew : ¬ t + sampleVerifier.maxClockSkew < sampleMandate.data.issuedAt.instant :=
    not_lt.mpr (add_nonneg ht (by decide))
  have hscope : scopeMismatches sampleMandate.data sampleData.scope = [] :=
    scopeMismatches_eq_nil.mpr rfl
  simp only [Verifier.check, Envelope.parse, hkey, hdecode, hverify, hskew, hscope,
    Bool.true_eq_false, ne_eq, not_true_eq_false, if_false]
  rfl

end RecoveryOS.A2A
