import RecoveryOS.Cases.Cursor
import RecoveryOS.Lib.JsonNumber
import RecoveryOS.Lib.Table

/-!
# Operator sessions

`api/operator_auth.py`. A login answers with a cookie that the server does not keep: a payload and a
code over it, under a secret. A request that needs an operator is let through with the credential
itself, or with a cookie whose code is right and the token that was handed out with it.

The server reads whatever a client sends, so a cookie is decoded here for every text. Of the code it
is assumed that nobody writes one without the secret (`Unforged`).
-/

namespace RecoveryOS.Api.OperatorAuth

open JsonText
open RecoveryOS.Cases.Cursor (ofString ofChars ascii ascii_ofChars merge_ofChars toChars_ofChars)

/-- What is taken from Python and the operating system: the code of a message under a secret, `json`
on bytes that are not ASCII, how deep `json` may go, and `strip` with `casefold`. -/
structure Platform where
  hmac : List UInt8 → List UInt8 → List UInt8
  foreignText : List UInt8 → Option (List Char)
  limit : ℕ
  normalize : String → String

/-- The environment, as it is read: texts are stripped, and empty where nothing is set. -/
structure Settings where
  paymentProvider : String := "mock"
  allowRealPaymentActions : Bool := false
  operatorAuthRequired : Bool := false
  operatorDemoToken : String := ""
  operatorSessionSecret : String := ""
  operatorDemoEmail : String := "demo@recoveryos.dev"
  hosted : Bool := false
  operatorCookieSecure : Option Bool := none
  operatorCookieSamesite : String := "lax"

inductive Raised where
  | authorizationRequired
  | notConfigured
  | typeError
  | recursionError
  | spent
  deriving DecidableEq

def localCredential : String := "recovery-demo"

def localSessionSecret : String := "recoveryos-local-session-v1"

section
variable (s : Settings)

/-- `_authorization_required`. -/
def Settings.authorizationRequired : Bool :=
  s.paymentProvider ≠ "mock" || s.allowRealPaymentActions || s.operatorAuthRequired

/-- `_configured_credential`. -/
def Settings.configuredCredential (required : Bool) : Except Raised String :=
  if s.operatorDemoToken ≠ "" then
    if required = true ∧ (s.operatorDemoToken = "change-me-locally"
        ∨ s.operatorDemoToken = localCredential) then .error .notConfigured
    else .ok s.operatorDemoToken
  else if required then .error .notConfigured
  else .ok localCredential

/-- `_session_secret`. -/
def Settings.sessionSecret (required : Bool) : Except Raised (List UInt8) :=
  if s.operatorSessionSecret ≠ "" then
    if required = true ∧ s.operatorSessionSecret = localSessionSecret then .error .notConfigured
    else .ok s.operatorSessionSecret.toUTF8.data.toList
  else if required then .error .notConfigured
  else .ok localSessionSecret.toUTF8.data.toList

/-- `_cookie_policy`: whether the cookie is `Secure`, and its `SameSite`. -/
def Settings.cookiePolicy : Except Raised (Bool × String) :=
  let secure := s.operatorCookieSecure.getD s.hosted
  let sameSite := s.operatorCookieSamesite
  if sameSite ≠ "lax" ∧ sameSite ≠ "strict" ∧ sameSite ≠ "none" then .error .notConfigured
  else if s.hosted = true ∧ secure = false then .error .notConfigured
  else if sameSite = "none" ∧ secure = false then .error .notConfigured
  else .ok (secure, sameSite)

end

/-! ## The cookie -/

def isAscii (text : String) : Bool := text.toList.all fun c => c.toNat < 128

/-- `hmac.compare_digest` of two texts, which takes only ASCII. -/
def compareDigest (a b : String) : Except Raised Bool :=
  if isAscii a && isAscii b then .ok (decide (a = b)) else .error .typeError

/-- The bytes of a text in ASCII. -/
def bytes (text : List Char) : List UInt8 := text.map fun c => UInt8.ofNat c.toNat

/-- `_encode`. -/
def encodeBytes (b : List UInt8) : List Char := Base64.strip (Base64.encode b)

/-- `_decode`. -/
def decodeChars (text : List Char) : Option (List UInt8) :=
  if text.all fun c => c.toNat < 128 then
    Base64.lenient (text ++ Base64.filling text.length)
  else none

/-- The payload of a session, with its keys in order. -/
def payloadText (csrf : String) (exp : ℕ) : List Char :=
  objectText [(ofString "csrf", dumpsText (ofString csrf)), (ofString "exp", Nat.toDigits 10 exp),
    (ofString "sub", dumpsText (ofString "demo-operator"))]

section
variable (p : Platform)

/-- `_sign_session`. -/
def signSession (csrf : String) (exp : ℕ) (secret : List UInt8) : List Char :=
  let encoded := encodeBytes (bytes (payloadText csrf exp))
  encoded ++ '.' :: encodeBytes (p.hmac secret (bytes encoded))

/-- How `json.loads` reads bytes: those of ASCII text without `NUL` as such. -/
def textOf (b : List UInt8) : Option (List Char) :=
  if b.all fun x => 0 < x.toNat ∧ x.toNat < 128 then some (b.map fun x => Char.ofNat x.toNat)
  else p.foreignText b

/-- What a verified session says. -/
structure Session where
  csrf : Text
  exp : ℤ

/-- `isinstance(value, int)`, which a `bool` is too. -/
def intOf : Option Value → Option ℤ
  | some (.int n) => some n
  | some (.bool b) => some (if b then 1 else 0)
  | _ => none

def isText (text : Text) : Option Value → Bool
  | some (.text t) => t = text
  | _ => false

def textValue? : Option Value → Option Text
  | some (.text t) => some t
  | _ => none

/-- The checks of a payload. -/
def readSession (payload : List (Text × Value)) (now : ℤ) : Option Session :=
  if isText (ofString "demo-operator") (Value.get payload (ofString "sub")) = false then none
  else
    match textValue? (Value.get payload (ofString "csrf")), intOf (Value.get payload (ofString "exp"))
      with
    | some csrf, some exp => if exp ≤ now then none else some { csrf, exp }
    | _, _ => none

/-- `json.loads`, where what is malformed is caught. -/
def readPayload (text : List Char) (now : ℤ) : Except Raised (Option Session) :=
  match loads p.limit text with
  | .ok (.object payload) => .ok (readSession payload now)
  | .ok _ => .ok none
  | .error .malformed => .ok none
  | .error .recursion => .error .recursionError
  | .error .spent => .error .spent

/-- The two sides of the first point, if there is one. -/
def splitToken (token : List Char) : Option (List Char × List Char) :=
  if '.' ∈ token then
    some (token.takeWhile (· ≠ '.'), (token.dropWhile (· ≠ '.')).tail)
  else none

/-- The code is the one for what it stands with. -/
def codeFits (secret : List UInt8) (encoded supplied : List Char) : Bool :=
  encoded.all (fun c => c.toNat < 128) && decodeChars supplied = some (p.hmac secret (bytes encoded))

/-- `_verify_session`; `now` is in whole seconds. -/
def verifySession (token : String) (secret : List UInt8) (now : ℤ) :
    Except Raised (Option Session) :=
  match splitToken token.toList with
  | none => .ok none
  | some (encoded, supplied) =>
    if codeFits p secret encoded supplied = false then .ok none
    else
      match (decodeChars encoded).bind (textOf p) with
      | none => .ok none
      | some text => readPayload p text now

end

/-! ## The endpoints -/

/-- `OperatorLoginRequest`, with the time in whole seconds, which is that of a `float`, and the random
bytes that are drawn. -/
structure Login where
  email : String
  password : String
  time : ℕ
  random : List UInt8
  email_length : 3 ≤ email.length ∧ email.length ≤ 320
  password_length : 1 ≤ password.length ∧ password.length ≤ 512
  time_lt : time < 2 ^ 1024

structure SessionResponse where
  csrfToken : String
  expiresAtEpoch : ℕ
  cookie : String
  secure : Bool
  sameSite : String

/-- A request that needs an operator, with its headers and its cookie. -/
structure Request where
  operatorToken : Option String
  csrfToken : Option String
  operatorSession : Option String
  time : ℤ

/-- `secrets.token_urlsafe`. -/
def tokenUrlsafe (random : List UInt8) : String := String.ofList (encodeBytes random)

def ttlSeconds : ℕ := 8 * 60 * 60

section
variable (p : Platform) (s : Settings)

/-- `create_operator_session`. -/
def createSession (l : Login) : Except Raised SessionResponse := do
  let required := s.authorizationRequired
  let credential ← s.configuredCredential required
  let sameEmail ← compareDigest (p.normalize l.email) s.operatorDemoEmail
  if sameEmail = false then throw .authorizationRequired
  let samePassword ← compareDigest l.password credential
  if samePassword = false then throw .authorizationRequired
  let csrf := tokenUrlsafe l.random
  let exp := l.time + ttlSeconds
  let secret ← s.sessionSecret required
  let (secure, sameSite) ← s.cookiePolicy
  pure { csrfToken := csrf, expiresAtEpoch := exp
         cookie := String.ofList (signSession p csrf exp secret), secure, sameSite }

/-- The session part of the guard: whether the request carries a session and its token. -/
def sessionAllows (r : Request) : Except Raised Bool :=
  match r.operatorSession with
  | none => .ok false
  | some token => do
    let secret ← s.sessionSecret true
    match (← verifySession p token secret r.time), r.csrfToken with
    | some session, some csrf =>
      if session.csrf.all fun c : CodePoint => c.val < 128 then
        compareDigest csrf (String.ofList (RecoveryOS.Cases.Cursor.toChars session.csrf))
      else .error .typeError
    | _, _ => pure false

/-- Whether the header carries the credential. -/
def headerAllows (r : Request) (credential : String) : Except Raised Bool :=
  match r.operatorToken with
  | none => .ok false
  | some token => compareDigest token credential

/-- `require_operator_for_non_mock_payment`. -/
def requireOperator (r : Request) : Except Raised Unit := do
  if s.authorizationRequired = false then pure ()
  else
    let credential ← s.configuredCredential true
    if (← headerAllows r credential) then pure ()
    else if (← sessionAllows p s r) then pure ()
    else throw .authorizationRequired

end

/-! ## A cookie that was written is read -/

lemma not_mem_encodeBytes (b : List UInt8) : '.' ∉ encodeBytes b := by
  have key : ∀ m : Fin 64, Base64.symbol m ≠ '.' := by decide
  have hall : ∀ c ∈ Base64.encode b, c ≠ '.' :=
    Base64.encode_forall (fun n h => key ⟨n, h⟩) (by decide) b
  intro hmem
  exact hall '.' (Base64.strip_subset _ _ hmem) rfl

lemma all_ascii_encodeBytes (b : List UInt8) :
    (encodeBytes b).all (fun c => c.toNat < 128) = true := by
  rw [List.all_eq_true]
  intro c hc
  exact decide_eq_true (Base64.strip_encode_ascii b c hc)

lemma decodeChars_encodeBytes (b : List UInt8) : decodeChars (encodeBytes b) = some b := by
  rw [decodeChars, if_pos (all_ascii_encodeBytes b)]
  exact Base64.lenient_strip_encode b

lemma isAscii_tokenUrlsafe (random : List UInt8) : isAscii (tokenUrlsafe random) = true := by
  rw [isAscii, tokenUrlsafe, String.toList_ofList]
  exact all_ascii_encodeBytes random

lemma splitToken_append {encoded : List Char} (h : '.' ∉ encoded) (supplied : List Char) :
    splitToken (encoded ++ '.' :: supplied) = some (encoded, supplied) := by
  have hall : ∀ c ∈ encoded, (decide (c ≠ '.')) = true := by
    intro c hc
    rw [decide_eq_true_eq]
    rintro rfl
    exact h hc
  rw [splitToken, if_pos (by simp), List.takeWhile_append_of_pos hall,
    List.dropWhile_append_of_pos hall]
  simp

section
variable (p : Platform) (csrf : String) (exp : ℕ)

/-- The members of the payload of a session. -/
def sessionMembers : List Member :=
  [⟨ofString "csrf", dumpsText (ofString csrf), .text (ofString csrf)⟩,
    ⟨ofString "exp", Nat.toDigits 10 exp, .int exp⟩,
    ⟨ofString "sub", dumpsText (ofString "demo-operator"), .text (ofString "demo-operator")⟩]

lemma scans_ofString (depth : ℕ) (s : String) :
    Scans ((ofString s).length + 2) depth (dumpsText (ofString s)) (.text (ofString s)) := by
  have h := scans_dumpsText depth (ofString s)
  rwa [ofString, merge_ofChars] at h

lemma loads_payloadText (limit : ℕ) (hexp : exp < 10 ^ maxStrDigits) :
    loads (limit + 1) (payloadText csrf exp)
      = .ok (.object ((sessionMembers csrf exp).map Member.entry)) := by
  have hcsrf := scans_ofString limit csrf
  have hsub := scans_ofString limit "demo-operator"
  have hlength : (ofString "demo-operator").length = 13 := rfl
  have hall : ∀ m ∈ sessionMembers csrf exp, m.Fits ((ofString csrf).length + 15) limit := by
    intro m hm
    simp only [sessionMembers, List.mem_cons, List.not_mem_nil, or_false] at hm
    rcases hm with rfl | rfl | rfl
    · refine ⟨?_, hcsrf.mono (by omega)⟩
      show 4 < _
      omega
    · refine ⟨?_, (scans_toDigits hexp limit).mono (by omega)⟩
      show 3 < _
      omega
    · refine ⟨?_, hsub.mono (by omega)⟩
      show 3 < _
      omega
  have hne : sessionMembers csrf exp ≠ [] := List.cons_ne_nil _ _
  refine loads_objectText hne hall ?_
  have hlength₁ := length_le_dumpsText (ofString csrf)
  have hlength₂ := length_le_dumpsText (ofString "demo-operator")
  simp only [sessionMembers, objectText, List.map_cons, List.map_nil, memberText,
    List.intercalate_cons_cons, List.intercalate_singleton, List.length_append, List.length_cons,
    List.length_nil]
  omega

lemma payloadText_printable :
    ∀ c ∈ payloadText csrf exp, 32 ≤ c.toNat ∧ c.toNat < 127 := by
  refine objectText_printable fun m hm => ?_
  simp only [List.mem_cons, List.not_mem_nil, or_false] at hm
  rcases hm with rfl | rfl | rfl
  · exact dumpsText_printable _
  · exact toDigits_printable exp
  · exact dumpsText_printable _

lemma textOf_bytes {text : List Char} (h : ∀ c ∈ text, 32 ≤ c.toNat ∧ c.toNat < 127) :
    textOf p (bytes text) = some text := by
  have hbyte : ∀ c ∈ text, (UInt8.ofNat c.toNat).toNat = c.toNat := fun c hc => by
    have hc' := h c hc
    rw [UInt8.toNat_ofNat']
    omega
  have hall : (bytes text).all (fun x => 0 < x.toNat ∧ x.toNat < 128) = true := by
    rw [bytes, List.all_map, List.all_eq_true]
    intro c hc
    have hc' := h c hc
    rw [Function.comp_apply, decide_eq_true_eq, hbyte c hc]
    omega
  rw [textOf, if_pos hall, bytes, List.map_map]
  congr 1
  refine (List.map_congr_left fun c hc => ?_).trans (List.map_id text)
  rw [Function.comp_apply, hbyte c hc, Char.ofNat_toNat, id]

/-- The part of a cookie before its point. -/
def encodedPayload : List Char := encodeBytes (bytes (payloadText csrf exp))

/-- A payload that was encoded here is verified until it expires, if the code fits. -/
lemma verifySession_of_fits (hlimit : 0 < p.limit) (hexp : exp < 10 ^ maxStrDigits)
    {secret : List UInt8} {token : String} {supplied : List Char}
    (hsplit : splitToken token.toList = some (encodedPayload csrf exp, supplied))
    (hfits : codeFits p secret (encodedPayload csrf exp) supplied = true) (now : ℤ) :
    verifySession p token secret now =
      .ok (if exp ≤ now then none else some ⟨ofString csrf, exp⟩) := by
  have htext : (decodeChars (encodedPayload csrf exp)).bind (textOf p)
      = some (payloadText csrf exp) := by
    rw [encodedPayload, decodeChars_encodeBytes, Option.bind_some,
      textOf_bytes p (payloadText_printable csrf exp)]
  obtain ⟨limit, hlimit⟩ := Nat.exists_eq_add_of_le' hlimit
  have hloads : loads p.limit (payloadText csrf exp)
      = .ok (.object ((sessionMembers csrf exp).map Member.entry)) := by
    rw [hlimit]
    exact loads_payloadText csrf exp limit hexp
  have hread : readSession ((sessionMembers csrf exp).map Member.entry) now =
      if (exp : ℤ) ≤ now then none else some ⟨ofString csrf, exp⟩ := rfl
  simp only [verifySession, hsplit, hfits, Bool.true_eq_false, if_false, htext, readPayload, hloads,
    hread]

lemma splitToken_signSession (secret : List UInt8) :
    splitToken (String.ofList (signSession p csrf exp secret)).toList =
      some (encodedPayload csrf exp,
        encodeBytes (p.hmac secret (bytes (encodedPayload csrf exp)))) := by
  rw [String.toList_ofList]
  exact splitToken_append (not_mem_encodeBytes _) _

lemma codeFits_hmac (secret : List UInt8) : codeFits p secret (encodedPayload csrf exp)
    (encodeBytes (p.hmac secret (bytes (encodedPayload csrf exp)))) = true := by
  rw [codeFits, encodedPayload, all_ascii_encodeBytes, decodeChars_encodeBytes, Bool.true_and,
    decide_eq_true_eq]

end

/-! ## What a login and a request need -/

section
variable {p : Platform} {s : Settings}

lemma compareDigest_eq_ok {a b : String} {r : Bool} (h : compareDigest a b = .ok r) :
    r = decide (a = b) := by
  unfold compareDigest at h
  split_ifs at h
  exact (Except.ok.inj h).symm

/-- A session is handed out for the credentials of the settings, with a cookie signed under their
secret. -/
structure Granted (p : Platform) (s : Settings) (l : Login) (resp : SessionResponse) : Prop where
  credential : s.configuredCredential s.authorizationRequired = .ok l.password
  email : p.normalize l.email = s.operatorDemoEmail
  csrfToken : resp.csrfToken = tokenUrlsafe l.random
  expires : resp.expiresAtEpoch = l.time + ttlSeconds
  secret : ∃ secret, s.sessionSecret s.authorizationRequired = .ok secret ∧
    resp.cookie = String.ofList (signSession p resp.csrfToken resp.expiresAtEpoch secret)
  policy : s.cookiePolicy = .ok (resp.secure, resp.sameSite)

lemma granted_of_createSession {l : Login} {resp : SessionResponse}
    (h : createSession p s l = .ok resp) : Granted p s l resp := by
  obtain ⟨credential, hcredential, h⟩ := Collected.of_bind_eq_ok h
  obtain ⟨sameEmail, hemail, h⟩ := Collected.of_bind_eq_ok h
  obtain rfl := compareDigest_eq_ok hemail
  by_cases he : p.normalize l.email = s.operatorDemoEmail
  · simp only [he, decide_true, Bool.true_eq_false, if_false] at h
    obtain ⟨-, -, h⟩ := Collected.of_bind_eq_ok h
    obtain ⟨samePassword, hpassword, h⟩ := Collected.of_bind_eq_ok h
    obtain rfl := compareDigest_eq_ok hpassword
    by_cases hp : l.password = credential
    · simp only [hp, decide_true, Bool.true_eq_false, if_false] at h
      obtain ⟨-, -, h⟩ := Collected.of_bind_eq_ok h
      obtain ⟨secret, hsecret, h⟩ := Collected.of_bind_eq_ok h
      obtain ⟨⟨secure, sameSite⟩, hpolicy, h⟩ := Collected.of_bind_eq_ok h
      obtain rfl := Except.ok.inj h
      exact ⟨hp ▸ hcredential, he, rfl, rfl, ⟨secret, hsecret, rfl⟩, hpolicy⟩
    · simp [hp] at h
      cases h
  · simp [he] at h
    cases h

lemma configuredCredential_true {credential : String}
    (h : s.configuredCredential true = .ok credential) :
    credential = s.operatorDemoToken ∧ credential ≠ "" ∧ credential ≠ "change-me-locally" ∧
      credential ≠ localCredential := by
  unfold Settings.configuredCredential at h
  simp only [if_true] at h
  split_ifs at h with hset hdefault
  obtain rfl := Except.ok.inj h
  rw [not_and_or, not_or] at hdefault
  rcases hdefault with hfalse | ⟨hchange, hlocal⟩
  · exact absurd trivial hfalse
  · exact ⟨rfl, hset, hchange, hlocal⟩

/-- A cookie is `Secure` wherever it has to be. -/
lemma cookiePolicy_secure {secure : Bool} {sameSite : String}
    (h : s.cookiePolicy = .ok (secure, sameSite)) (hneeds : s.hosted = true ∨ sameSite = "none") :
    secure = true := by
  unfold Settings.cookiePolicy at h
  simp only [] at h
  split_ifs at h with hsite hhosted hnone
  obtain ⟨rfl, rfl⟩ := Prod.mk.inj (Except.ok.inj h)
  rw [← Bool.not_eq_false]
  intro hfalse
  rcases hneeds with hneeds | hneeds
  · exact hhosted ⟨hneeds, hfalse⟩
  · exact hnone ⟨hneeds, hfalse⟩

lemma add_ttl_lt {t n m : ℕ} (ht : t < 2 ^ n) (hn : 15 ≤ n) (hm : n + 1 ≤ m) :
    t + ttlSeconds < 10 ^ m := by
  have hle : ttlSeconds ≤ 2 ^ n := le_trans (show ttlSeconds ≤ 2 ^ 15 by decide)
    (Nat.pow_le_pow_right (by decide) hn)
  calc t + ttlSeconds < 2 ^ n + 2 ^ n := Nat.add_lt_add_of_lt_of_le ht hle
    _ = 2 ^ (n + 1) := (Nat.two_pow_succ n).symm
    _ ≤ 10 ^ (n + 1) := Nat.pow_le_pow_left (by decide) _
    _ ≤ 10 ^ m := Nat.pow_le_pow_right (by decide) hm

lemma Login.expires_lt (l : Login) : l.time + ttlSeconds < 10 ^ maxStrDigits :=
  add_ttl_lt l.time_lt (by decide) (by decide)

/-- What comes of the session in a request whose payload was encoded here. -/
lemma sessionAllows_of_fits (hlimit : 0 < p.limit) {r : Request} {token csrf : String}
    {supplied : List Char} {secret : List UInt8} {exp : ℕ} (hexp : exp < 10 ^ maxStrDigits)
    (hascii : isAscii csrf = true) (htoken : r.operatorSession = some token)
    (hsecret : s.sessionSecret true = .ok secret)
    (hsplit : splitToken token.toList = some (encodedPayload csrf exp, supplied))
    (hfits : codeFits p secret (encodedPayload csrf exp) supplied = true) :
    sessionAllows p s r = .ok true ↔ r.csrfToken = some csrf ∧ r.time < exp := by
  have hverify := verifySession_of_fits p csrf exp hlimit hexp hsplit hfits r.time
  have hall : (ofString csrf).all (fun c : CodePoint => c.val < 128) = true := by
    rw [ofString, ofChars, List.all_map]
    exact hascii
  simp only [sessionAllows, htoken, hsecret, ok_bind, hverify]
  by_cases hexpired : (exp : ℤ) ≤ r.time
  · rw [if_pos hexpired]
    constructor
    · intro h
      cases h
    · intro h
      omega
  · rw [if_neg hexpired]
    cases hcsrf : r.csrfToken with
    | none =>
      constructor
      · intro h
        cases h
      · intro h
        cases h.1
    | some given =>
      have htext : String.ofList (RecoveryOS.Cases.Cursor.toChars (ofString csrf)) = csrf := by
        rw [ofString, toChars_ofChars, String.ofList_toList]
      simp only [hall, if_true, htext]
      constructor
      · intro h
        have heq := compareDigest_eq_ok h
        rw [eq_comm, decide_eq_true_eq] at heq
        exact ⟨congrArg some heq, by omega⟩
      · rintro ⟨hgiven, -⟩
        obtain rfl := Option.some.inj hgiven
        rw [compareDigest, hascii]
        simp

lemma requireOperator_eq_ok {r : Request} (hrequired : s.authorizationRequired = true)
    (h : requireOperator p s r = .ok ()) : ∃ credential,
      s.configuredCredential true = .ok credential ∧
        (r.operatorToken = some credential ∨ sessionAllows p s r = .ok true) := by
  simp only [requireOperator, hrequired, Bool.true_eq_false, if_false] at h
  obtain ⟨credential, hcredential, h⟩ := Collected.of_bind_eq_ok h
  refine ⟨credential, hcredential, ?_⟩
  obtain ⟨direct, hdirect, h⟩ := Collected.of_bind_eq_ok h
  cases direct with
  | true =>
    left
    unfold headerAllows at hdirect
    cases htoken : r.operatorToken with
    | none =>
      rw [htoken] at hdirect
      cases hdirect
    | some token =>
      rw [htoken] at hdirect
      have heq := compareDigest_eq_ok hdirect
      rw [eq_comm, decide_eq_true_eq] at heq
      rw [heq]
  | false =>
    right
    simp only [Bool.false_eq_true, if_false] at h
    obtain ⟨allowed, hallowed, h⟩ := Collected.of_bind_eq_ok h
    cases allowed with
    | true => exact hallowed
    | false =>
      simp only [Bool.false_eq_true, if_false] at h
      cases h

/-- The cookie of a login opens every request that carries its token with it, for eight hours, and no
other; it is `Secure` on a hosted server and across sites. -/
theorem session_opens (hlimit : 0 < p.limit) (hrequired : s.authorizationRequired = true)
    {l : Login} {resp : SessionResponse} (hl : createSession p s l = .ok resp) :
    (∀ r : Request, r.operatorToken = none → r.operatorSession = some resp.cookie →
      (requireOperator p s r = .ok () ↔
        r.csrfToken = some resp.csrfToken ∧ r.time < l.time + ttlSeconds)) ∧
      (s.hosted = true ∨ resp.sameSite = "none" → resp.secure = true) := by
  have hgranted := granted_of_createSession hl
  refine ⟨fun r hnone hcookie => ?_, cookiePolicy_secure hgranted.policy⟩
  obtain ⟨secret, hsecret, hsigned⟩ := hgranted.secret
  have hcredential := hgranted.credential
  rw [hrequired] at hsecret hcredential
  have hexp := l.expires_lt
  rw [← hgranted.expires] at hexp
  have hascii : isAscii resp.csrfToken = true := by
    rw [hgranted.csrfToken]
    exact isAscii_tokenUrlsafe l.random
  have hsplit := splitToken_signSession p resp.csrfToken resp.expiresAtEpoch secret
  rw [← hsigned] at hsplit
  have hallows := sessionAllows_of_fits hlimit hexp hascii hcookie hsecret hsplit
    (codeFits_hmac p resp.csrfToken resp.expiresAtEpoch secret)
  rw [hgranted.expires, Nat.cast_add] at hallows
  rw [← hallows]
  constructor
  · intro h
    obtain ⟨credential, -, htoken | hallowed⟩ := requireOperator_eq_ok hrequired h
    · rw [hnone] at htoken
      cases htoken
    · exact hallowed
  · intro hallowed
    have hheader : headerAllows r l.password = .ok false := by
      rw [headerAllows, hnone]
    simp only [requireOperator, hrequired, Bool.true_eq_false, if_false, hcredential, ok_bind, hheader,
      hallowed]
    rfl

end

section
variable (resp : SessionResponse)

def samplePlatform : Platform where
  hmac secret message := secret ++ message
  foreignText _ := none
  limit := 990
  normalize := id

def sampleSettings : Settings where
  paymentProvider := "razorpay"
  operatorDemoToken := "operator-token"
  operatorSessionSecret := "session-secret"

lemma lt_two_pow {t n m : ℕ} (ht : t < 2 ^ n) (hle : n ≤ m) : t < 2 ^ m :=
  ht.trans_le (Nat.pow_le_pow_right (by decide) hle)

def sampleLogin : Login where
  email := "demo@recoveryos.dev"
  password := "operator-token"
  time := 1000
  random := [1, 2, 3]
  email_length := by decide
  password_length := by decide
  time_lt := lt_two_pow (n := 10) (by decide) (by decide)

def sampleRequest (time : ℤ) : Request where
  operatorToken := none
  csrfToken := some resp.csrfToken
  operatorSession := some resp.cookie
  time

theorem session_opens_sample : ∃ resp, createSession samplePlatform sampleSettings sampleLogin = .ok resp ∧
    requireOperator samplePlatform sampleSettings (sampleRequest resp 29799) = .ok () ∧
    requireOperator samplePlatform sampleSettings (sampleRequest resp 29800) ≠ .ok () := by
  obtain ⟨resp, hl⟩ : ∃ resp, createSession samplePlatform sampleSettings sampleLogin = .ok resp :=
    ⟨_, rfl⟩
  have hopens := (session_opens (by decide) rfl hl).1
  have hlast : (29799 : ℤ) < sampleLogin.time + ttlSeconds := by decide
  have hover : ¬ (29800 : ℤ) < sampleLogin.time + ttlSeconds := by decide
  exact ⟨resp, hl, (hopens _ rfl rfl).mpr ⟨rfl, hlast⟩,
    fun h => hover ((hopens _ rfl rfl).mp h).2⟩

end

/-! ## Runs -/

/-- What is sent to the server. -/
inductive Event where
  | login (l : Login)
  | request (r : Request)

/-- Whoever presents a cookie with a fitting code has it of a login: the code over its payload was
made there. -/
def Unforged (p : Platform) (s : Settings) (before : List Event) (r : Request) : Prop :=
  ∀ token secret encoded supplied, r.operatorSession = some token → s.sessionSecret true = .ok secret →
    splitToken token.toList = some (encoded, supplied) → codeFits p secret encoded supplied = true →
      ∃ l resp, Event.login l ∈ before ∧ createSession p s l = .ok resp ∧
        encoded = encodedPayload resp.csrfToken resp.expiresAtEpoch

/-- Where authorization is required, every request that is let through, in whatever order logins and
requests come, carries the credential of the operator, or the token of a login with it that was made
before, less than eight hours ago; and the credential is none that everybody knows. -/
theorem request_authorized (p : Platform) (s : Settings) (hlimit : 0 < p.limit)
    (hrequired : s.authorizationRequired = true) {events : List Event}
    (hunforged : ∀ before r after, events = before ++ .request r :: after → Unforged p s before r)
    {before after : List Event} {r : Request} (hevents : events = before ++ .request r :: after)
    (h : requireOperator p s r = .ok ()) :
    (s.operatorDemoToken ≠ "" ∧ s.operatorDemoToken ≠ "change-me-locally" ∧
      s.operatorDemoToken ≠ localCredential) ∧
    (r.operatorToken = some s.operatorDemoToken ∨
      ∃ l resp, Event.login l ∈ before ∧ createSession p s l = .ok resp ∧
        l.password = s.operatorDemoToken ∧ p.normalize l.email = s.operatorDemoEmail ∧
        r.csrfToken = some resp.csrfToken ∧ r.time < l.time + ttlSeconds) := by
  obtain ⟨credential, hcredential, hallowed⟩ := requireOperator_eq_ok hrequired h
  obtain ⟨rfl, hdefaults⟩ := configuredCredential_true hcredential
  refine ⟨hdefaults, hallowed.imp id fun hallowed => ?_⟩
  -- a session that is allowed has a cookie with a fitting code
  have hverified := hallowed
  unfold sessionAllows at hverified
  cases htoken : r.operatorSession with
  | none =>
    rw [htoken] at hverified
    cases hverified
  | some token =>
    simp only [htoken] at hverified
    obtain ⟨secret, hsecret, hverified⟩ := Collected.of_bind_eq_ok hverified
    obtain ⟨session, hsession, hverified⟩ := Collected.of_bind_eq_ok hverified
    cases session with
    | none => cases hverified
    | some session =>
      unfold verifySession at hsession
      cases hsplit : splitToken token.toList with
      | none =>
        rw [hsplit] at hsession
        cases hsession
      | some parts =>
        obtain ⟨encoded, supplied⟩ := parts
        simp only [hsplit] at hsession
        by_cases hfits : codeFits p secret encoded supplied = false
        · rw [if_pos hfits] at hsession
          cases hsession
        · rw [Bool.not_eq_false] at hfits
          obtain ⟨l, resp, hmem, hl, rfl⟩ := hunforged before r after hevents token secret encoded
            supplied htoken hsecret hsplit hfits
          have hgranted := granted_of_createSession hl
          have hgiven := hgranted.credential
          rw [hrequired, hcredential] at hgiven
          have hexp := l.expires_lt
          rw [← hgranted.expires] at hexp
          have hascii : isAscii resp.csrfToken = true := by
            rw [hgranted.csrfToken]
            exact isAscii_tokenUrlsafe l.random
          have hopen := (sessionAllows_of_fits hlimit hexp hascii htoken hsecret hsplit hfits).mp hallowed
          refine ⟨l, resp, hmem, hl, (Except.ok.inj hgiven).symm, hgranted.email, hopen.1, ?_⟩
          rw [← Nat.cast_add, ← hgranted.expires]
          exact hopen.2

lemma sampleRun_unforged {resp : SessionResponse}
    (hl : createSession samplePlatform sampleSettings sampleLogin = .ok resp) (time : ℤ) :
    ∀ before r after, [.login sampleLogin, .request (sampleRequest resp time)] =
      before ++ Event.request r :: after → Unforged samplePlatform sampleSettings before r := by
  intro before r after hevents token secret encoded supplied htoken hsecret hsplit hfits
  have hlogin : before = [.login sampleLogin] ∧ r = sampleRequest resp time := by
    cases before with
    | nil => cases hevents
    | cons e before =>
      obtain ⟨rfl, htail⟩ := List.cons.inj hevents
      cases before with
      | nil =>
        obtain ⟨hr, -⟩ := List.cons.inj htail
        exact ⟨rfl, (Event.request.inj hr).symm⟩
      | cons e before =>
        have hlength := congrArg List.length htail
        simp at hlength
  obtain ⟨rfl, rfl⟩ := hlogin
  refine ⟨sampleLogin, resp, List.mem_cons_self, hl, ?_⟩
  obtain ⟨secret', -, hcookie⟩ := (granted_of_createSession hl).secret
  obtain rfl : resp.cookie = token := Option.some.inj htoken
  have hsigned := splitToken_signSession samplePlatform resp.csrfToken resp.expiresAtEpoch secret'
  rw [← hcookie, hsplit] at hsigned
  exact (Prod.mk.inj (Option.some.inj hsigned)).1

theorem request_authorized_sample : ∃ resp,
    createSession samplePlatform sampleSettings sampleLogin = .ok resp ∧
      ∃ l resp', Event.login l ∈ [.login sampleLogin] ∧
        createSession samplePlatform sampleSettings l = .ok resp' ∧
        l.password = "operator-token" ∧ l.email = "demo@recoveryos.dev" ∧
        resp.csrfToken = resp'.csrfToken ∧ (2000 : ℤ) < l.time + ttlSeconds := by
  obtain ⟨resp, hl⟩ : ∃ resp, createSession samplePlatform sampleSettings sampleLogin = .ok resp :=
    ⟨_, rfl⟩
  refine ⟨resp, hl, ?_⟩
  have hallowed : requireOperator samplePlatform sampleSettings (sampleRequest resp 2000) = .ok () := by
    obtain rfl := Except.ok.inj hl
    decide +kernel
  obtain ⟨-, htoken | ⟨l, resp', hmem, hl', hpassword, hemail, hcsrf, htime⟩⟩ :=
    request_authorized samplePlatform sampleSettings (by decide) rfl (sampleRun_unforged hl 2000)
      (List.singleton_append (l := [Event.request (sampleRequest resp 2000)])).symm hallowed
  · cases htoken
  · exact ⟨l, resp', hmem, hl', hpassword, hemail, Option.some.inj hcsrf, htime⟩

end RecoveryOS.Api.OperatorAuth
