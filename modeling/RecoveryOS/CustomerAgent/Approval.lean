import RecoveryOS.CustomerAgent.Stores
import RecoveryOS.CustomerAgent.Wire
import RecoveryOS.Lib.Base64

/-!
# The capability to approve

A task's approval token is an HMAC of the canonical JSON of its id, its context and its request. None
of these ever changes, so the token that was issued with a task in one state is good in the others and
after a restart. The JSON is read back, so the tokens of two tasks that differ in any of these differ,
if no two texts have the same HMAC.
-/

namespace RecoveryOS.CustomerAgent

open Resume Read
open RecoveryOS.A2A (DateTime)

/-! ## The identity of a task -/

inductive Leaf where
  | scalar (v : Scalar)
  | null

/-- A leaf, or an object of values. -/
inductive Node (V : Type) where
  | leaf (l : Leaf)
  | object (fields : List (String × V))

def Leaf.text : Leaf → List Char
  | .scalar v => v.dumps.toList
  | .null => ['n', 'u', 'l', 'l']

def Node.text {V : Type} (enc : V → List Char) : Node V → List Char
  | .leaf l => l.text
  | .object fields => objectText enc fields

section
variable (pkgs : Packages)

def textLeaf (s : String) : Leaf := .scalar (.text s)

def timeLeaf (t : DateTime) : Leaf := textLeaf (pkgs.jsonTime t)

/-- The context of a request in `mode="json"`, in the order of the names. -/
def RecoveryDisplayContext.modelDump (c : RecoveryDisplayContext) : List (String × Leaf) :=
  [("failure_explanation", textLeaf c.failureExplanation),
    ("invoice_due_at", (c.invoiceDueAt.map (timeLeaf pkgs)).getD .null),
    ("invoice_state", textLeaf c.invoiceState),
    ("merchant_display_name", textLeaf c.merchantDisplayName),
    ("payment_state", textLeaf c.paymentState),
    ("plan_name", textLeaf c.planName),
    ("preferred_language", textLeaf c.preferredLanguage),
    ("provider_subscription_state", textLeaf c.providerSubscriptionState),
    ("recovery_deadline", timeLeaf pkgs c.recoveryDeadline),
    ("subscription_state", textLeaf c.subscriptionState)]

/-- A request in `mode="json"`, in the order of the names. -/
def RecoveryRequestData.modelDump (r : RecoveryRequestData) : List (String × Node Leaf) :=
  [("case_id", .leaf (textLeaf r.caseId)),
    ("context", .object (r.context.modelDump pkgs)),
    ("currency", .leaf (textLeaf r.currency)),
    ("customer_id", .leaf (textLeaf r.customerId)),
    ("exact_amount_paise", .leaf (.scalar (.int r.exactAmountPaise))),
    ("expires_at", .leaf (timeLeaf pkgs r.expiresAt)),
    ("failed_invoice_id", .leaf (textLeaf r.failedInvoiceId)),
    ("idempotency_key", .leaf (textLeaf r.idempotencyKey)),
    ("merchant_id", .leaf (textLeaf r.merchantId)),
    ("payment_surface_reference", .leaf (textLeaf r.paymentSurfaceReference)),
    ("payment_surface_type", .leaf (textLeaf r.paymentSurfaceType)),
    ("protocol_version", .leaf (textLeaf "recovery.request.v2")),
    ("recovery_action_id", .leaf (textLeaf r.recoveryActionId))]

/-- `identity` of `_approval_token`. -/
def identity (task : TaskRecord) : List (String × Node (Node Leaf)) :=
  [("context_id", .leaf (textLeaf task.contextId)),
    ("request", .object (task.request.modelDump pkgs)),
    ("task_id", .leaf (textLeaf task.id)),
    ("version", .leaf (textLeaf "recoveryos.customer-approval-capability.v1"))]

def canonicalIdentity (task : TaskRecord) : String :=
  String.ofList (objectText (Node.text (Node.text Leaf.text)) (identity pkgs task))

/-- `_approval_token`, with HMAC-SHA256 of a key and a text; an empty secret is none. -/
def approvalTokenOf (hmac : String → String → List UInt8) (secret : Option String)
    (task : TaskRecord) : Option String :=
  (secret.filter (· ≠ "")).map fun key =>
    String.ofList (Base64.strip (Base64.encode (hmac key (canonicalIdentity pkgs task))))

/-- The agent with its secret. -/
def withSecret (hmac : String → String → List UInt8) (secret : Option String) : Packages :=
  { pkgs with approvalToken := approvalTokenOf pkgs hmac secret }

end

/-! ## The identity is read back -/

def readLeaf : Reader Char Leaf
  | 'n' :: 'u' :: 'l' :: 'l' :: rest => some (.null, rest)
  | text => (readScalar text).map fun r => (.scalar r.1, r.2)

def readNode {V : Type} (rd : Reader Char V) : Reader Char (Node V)
  | '\x7b' :: rest => (readObject rd ('\x7b' :: rest)).map fun r => (.object r.1, r.2)
  | text => (readLeaf text).map fun r => (.leaf r.1, r.2)

/-- A scalar begins with a quote, a digit or a sign. -/
lemma dumps_cons (v : Scalar) : ∃ c l, v.dumps.toList = c :: l ∧ c ≠ 'n' ∧ c ≠ '\x7b' := by
  cases v with
  | text s => exact ⟨_, _, toList_jsonText s, by decide, by decide⟩
  | int n =>
    obtain ⟨c, l, hl, hc⟩ := toString_cons n
    refine ⟨c, l, hl, ?_, ?_⟩
    · rintro rfl
      exact absurd hc (by decide)
    · rintro rfl
      exact absurd hc (by decide)

lemma readLeaf_text : Back readLeaf Leaf.text EndsField := by
  intro l rest hr
  cases l with
  | null => rfl
  | scalar v =>
    have hread := readScalar_dumps v rest hr
    obtain ⟨c, l, hl, hc, -⟩ := dumps_cons v
    have hnull : ∀ r, v.dumps.toList ++ rest ≠ 'n' :: 'u' :: 'l' :: 'l' :: r := by
      intro r he
      rw [hl] at he
      exact hc (List.cons.inj he).1
    show readLeaf (v.dumps.toList ++ rest) = some (.scalar v, rest)
    rw [readLeaf.eq_2 _ hnull, hread]
    rfl

theorem readNode_text {V : Type} {rd : Reader Char V} {enc : V → List Char}
    (h : Back rd enc EndsField) : Back (readNode rd) (Node.text enc) EndsField := by
  intro node rest hr
  cases node with
  | leaf l =>
    have hread := readLeaf_text l rest hr
    have hbrace : ∀ r, l.text ++ rest ≠ '\x7b' :: r := by
      intro r he
      cases l with
      | null => exact absurd (List.cons.inj he).1 (by decide)
      | scalar v =>
        obtain ⟨c, l, hl, -, hc⟩ := dumps_cons v
        rw [Leaf.text, hl] at he
        exact hc (List.cons.inj he).1
    show readNode rd (l.text ++ rest) = some (.leaf l, rest)
    rw [readNode.eq_2 _ _ hbrace, hread]
    rfl
  | object fields =>
    have hread := readObject_objectText h fields rest trivial
    show readNode rd (objectText enc fields ++ rest) = some (.object fields, rest)
    rw [objectText, List.cons_append] at hread ⊢
    simp only [readNode, hread, Option.map_some]

section
variable {pkgs : Packages} {a b : TaskRecord}

lemma identity_of_canonicalIdentity (h : canonicalIdentity pkgs a = canonicalIdentity pkgs b) :
    identity pkgs a = identity pkgs b := by
  have htext := String.ofList_injective h
  rw [← List.append_nil (objectText _ _), ← List.append_nil (objectText _ (identity pkgs b))]
    at htext
  exact ((readObject_objectText (readNode_text (readNode_text readLeaf_text))).inj trivial trivial
    htext).1

lemma textLeaf_inj {s s' : String} : textLeaf s = textLeaf s' ↔ s = s' := by
  simp [textLeaf]

section
variable (htime : Function.Injective pkgs.jsonTime)
include htime

lemma timeLeaf_inj {t t' : DateTime} : timeLeaf pkgs t = timeLeaf pkgs t' ↔ t = t' :=
  textLeaf_inj.trans htime.eq_iff

lemma optionalLeaf_inj {t t' : Option DateTime}
    (h : (t.map (timeLeaf pkgs)).getD .null = (t'.map (timeLeaf pkgs)).getD .null) : t = t' := by
  cases t with
  | none =>
    cases t' with
    | none => rfl
    | some t' => cases h
  | some t =>
    cases t' with
    | none => cases h
    | some t' => rw [(timeLeaf_inj htime).mp h]

lemma context_of_modelDump {c c' : RecoveryDisplayContext}
    (h : c.modelDump pkgs = c'.modelDump pkgs) : c = c' := by
  simp only [RecoveryDisplayContext.modelDump, List.cons.injEq, Prod.mk.injEq, true_and,
    textLeaf_inj, timeLeaf_inj htime] at h
  obtain ⟨h₁, h₂, h₃, h₄, h₅, h₆, h₇, h₈, h₉, h₁₀, -⟩ := h
  cases c
  cases c'
  exact RecoveryDisplayContext.mk.injEq .. ▸
    ⟨h₄, h₆, h₁, h₃, h₅, h₁₀, h₈, h₇, optionalLeaf_inj htime h₂, h₉⟩

lemma request_of_modelDump {r r' : RecoveryRequestData}
    (h : r.modelDump pkgs = r'.modelDump pkgs) : r = r' := by
  simp only [RecoveryRequestData.modelDump, List.cons.injEq, Prod.mk.injEq, true_and,
    Node.leaf.injEq, Node.object.injEq, Leaf.scalar.injEq, Scalar.int.injEq, textLeaf_inj,
    timeLeaf_inj htime] at h
  obtain ⟨h₁, h₂, h₃, h₄, h₅, h₆, h₇, h₈, h₉, h₁₀, h₁₁, h₁₂, -⟩ := h
  cases r
  cases r'
  exact RecoveryRequestData.mk.injEq .. ▸
    ⟨h₈, h₁, h₉, h₄, h₁₂, h₇, h₅, h₃, h₁₁, h₁₀, h₆, context_of_modelDump htime h₂⟩

/-- The text of a timestamp determines it, and so the identity determines the task. -/
lemma of_identity (h : identity pkgs a = identity pkgs b) :
    a.id = b.id ∧ a.contextId = b.contextId ∧ a.request = b.request := by
  simp only [identity, List.cons.injEq, Prod.mk.injEq, true_and, Node.leaf.injEq,
    Node.object.injEq, textLeaf_inj] at h
  exact ⟨h.2.2.1, h.1, request_of_modelDump htime h.2.1⟩

end

lemma identity_congr (h : a.id = b.id ∧ a.contextId = b.contextId ∧ a.request = b.request) :
    identity pkgs a = identity pkgs b := by
  obtain ⟨h₁, h₂, h₃⟩ := h
  rw [identity, identity, h₁, h₂, h₃]

end

/-! ## The token -/

section
variable {pkgs : Packages} {hmac : String → String → List UInt8} {secret : String}

lemma approvalTokenOf_some (hsecret : secret ≠ "") (task : TaskRecord) :
    approvalTokenOf pkgs hmac (some secret) task =
      some (String.ofList (Base64.strip (Base64.encode (hmac secret (canonicalIdentity pkgs task))))) := by
  rw [approvalTokenOf, Option.filter_some, if_pos (by simpa using hsecret)]
  rfl

/-- Base64 without its filling determines the bytes. -/
lemma strip_encode_inj {x y : List UInt8}
    (h : Base64.strip (Base64.encode x) = Base64.strip (Base64.encode y)) : x = y := by
  have hx := Base64.decode_strip_encode x
  rw [h, Base64.decode_strip_encode] at hx
  exact (Option.some.inj hx).symm

/-- Two tasks have one token exactly if they have one id, context and request. -/
lemma approvalTokenOf_eq_iff (hsecret : secret ≠ "") (hcollision : Function.Injective (hmac secret))
    (htime : Function.Injective pkgs.jsonTime) (a b : TaskRecord) :
    approvalTokenOf pkgs hmac (some secret) a = approvalTokenOf pkgs hmac (some secret) b ↔
      a.id = b.id ∧ a.contextId = b.contextId ∧ a.request = b.request := by
  rw [approvalTokenOf_some hsecret, approvalTokenOf_some hsecret]
  constructor
  · intro h
    have hbytes := strip_encode_inj (String.ofList_injective (Option.some.inj h))
    exact of_identity htime (identity_of_canonicalIdentity (hcollision hbytes))
  · intro h
    rw [canonicalIdentity, canonicalIdentity, identity_congr h]

end

/-! ## What a token opens -/

structure ApprovalSummary where
  taskId : String
  state : String
  merchantId : String
  caseId : String
  recoveryActionId : String
  failedInvoiceId : String
  exactAmountPaise : ℤ
  currency : String
  paymentSurfaceType : String
  paymentSurfaceReference : String
  expiresAt : DateTime
  merchantDisplayName : String
  planName : String
  failureExplanation : String
  invoiceState : String
  paymentState : String
  subscriptionState : String
  providerSubscriptionState : String
  preferredLanguage : String
  invoiceDueAt : Option DateTime
  recoveryDeadline : DateTime

/-- `_approval_summary`. -/
def summaryOf (task : TaskRecord) : ApprovalSummary :=
  let request := task.request
  { taskId := task.id, state := task.state.text, merchantId := request.merchantId,
    caseId := request.caseId, recoveryActionId := request.recoveryActionId,
    failedInvoiceId := request.failedInvoiceId, exactAmountPaise := request.exactAmountPaise,
    currency := request.currency, paymentSurfaceType := request.paymentSurfaceType,
    paymentSurfaceReference := request.paymentSurfaceReference, expiresAt := request.expiresAt,
    merchantDisplayName := request.context.merchantDisplayName,
    planName := request.context.planName,
    failureExplanation := request.context.failureExplanation,
    invoiceState := request.context.invoiceState, paymentState := request.context.paymentState,
    subscriptionState := request.context.subscriptionState,
    providerSubscriptionState := request.context.providerSubscriptionState,
    preferredLanguage := request.context.preferredLanguage,
    invoiceDueAt := request.context.invoiceDueAt,
    recoveryDeadline := request.context.recoveryDeadline }

structure LanguageModelInterpretation where
  intent : String
  confidenceBasisPoints : ℕ
  explanation : String

structure AuthoritativeApprovalScope where
  merchantId : String
  caseId : String
  recoveryActionId : String
  failedInvoiceId : String
  exactAmountPaise : ℤ
  currency : String
  paymentSurfaceType : String
  paymentSurfaceReference : String
  expiresAt : DateTime

def ApprovalSummary.scope (s : ApprovalSummary) : AuthoritativeApprovalScope where
  merchantId := s.merchantId
  caseId := s.caseId
  recoveryActionId := s.recoveryActionId
  failedInvoiceId := s.failedInvoiceId
  exactAmountPaise := s.exactAmountPaise
  currency := s.currency
  paymentSurfaceType := s.paymentSurfaceType
  paymentSurfaceReference := s.paymentSurfaceReference
  expiresAt := s.expiresAt

structure CustomerLanguageInterpretation extends LanguageModelInterpretation where
  taskId : String
  authoritativeScope : AuthoritativeApprovalScope

section
variable (pkgs : Packages)

/-- `approval_summary`. -/
def approvalSummary (taskId : String) (approvalToken : Option String) : Op ApprovalSummary := do
  let task ← authorizedTask pkgs taskId approvalToken
  if task.state ≠ .authRequired then
    raise (.conflict "task is not awaiting customer authorization")
  else
    pure (summaryOf task)

/-- `interpret_customer_language`, with what the model makes of it. -/
def interpretCustomerLanguage (interpretation : LanguageModelInterpretation) (taskId : String)
    (approvalToken : Option String) : Op CustomerLanguageInterpretation := do
  let task ← authorizedTask pkgs taskId approvalToken
  if task.state ≠ .authRequired then
    raise (.conflict "task is not awaiting customer authorization")
  else
    let latest ← getTask taskId
    if latest.revision ≠ task.revision ∨ latest.state ≠ .authRequired then
      raise (.conflict "authorization changed while language was interpreted")
    else
      pure { interpretation with taskId := task.id, authoritativeScope := (summaryOf task).scope }

end

section
variable {α : Type}

/-- An operation as it goes on once it has read a task. -/
def told (task : TaskRecord) :
    Proc Call Call.Reply (Option Raised) α → Proc Call Call.Reply (Option Raised) α
  | .await _ (.get _) k => k (some task)
  | p => p

/-- An operation as it goes on once it has read the clock, if it asks for that. -/
def timed (time : Instant) :
    Proc Call Call.Reply (Option Raised) α → Proc Call Call.Reply (Option Raised) α
  | .await _ .now k => k time
  | p => p

/-- An operation that reads this task at this time does not turn the capability down. -/
def Accepts (p : Proc Call Call.Reply (Option Raised) α) (task : TaskRecord) (time : Instant) :
    Prop :=
  ∀ message, timed time (told task p) ≠ .failed (some (.authorization message))

variable {pkgs : Packages} {task : TaskRecord} {taskId token expected : String} {time : Instant}

/-- `_authorized_task` of the task that was read. -/
def capability (pkgs : Packages) (approvalToken : Option String) (task : TaskRecord) :
    Op TaskRecord :=
  match pkgs.approvalToken task with
  | none => pure task
  | some expected =>
    if approvalToken.getD "" ≠ expected then
      raise (.authorization "invalid customer approval capability")
    else do
      let time ← now
      if task.request.expiresAt.instant ≤ time.instant then
        raise (.authorization "customer approval capability has expired")
      else
        pure task

lemma authorizedTask_eq (approvalToken : Option String) :
    authorizedTask pkgs taskId approvalToken = getTask taskId >>= capability pkgs approvalToken := rfl

lemma timed_now {g : DateTime → Op TaskRecord} {f : TaskRecord → Op α} :
    timed time (((now >>= g) >>= f) none) = (g { instant := time, offset := 0 } >>= f) none := rfl

lemma told_authorizedTask {f : TaskRecord → Op α} {approvalToken : Option String} :
    told task ((authorizedTask pkgs taskId approvalToken >>= f) none)
      = (capability pkgs approvalToken task >>= f) none := by
  rw [authorizedTask_eq]
  rfl

/-- The capability of a task that has a token. -/
lemma timed_capability {f : TaskRecord → Op α}
    (hexpected : pkgs.approvalToken task = some expected) :
    timed time ((capability pkgs (some token) task >>= f) none) =
      if token ≠ expected then .failed (some (.authorization "invalid customer approval capability"))
      else if task.request.expiresAt.instant ≤ time then
        .failed (some (.authorization "customer approval capability has expired"))
      else f task none := by
  simp only [capability, hexpected, Option.getD_some]
  split_ifs with htoken hexpired
  · rfl
  · rw [timed_now, if_pos hexpired]
    rfl
  · rw [timed_now, if_neg hexpired]
    rfl

/-- An operation that begins with the capability accepts the token of the task until it expires. -/
lemma accepts_iff {f : TaskRecord → Op α} (hexpected : pkgs.approvalToken task = some expected)
    (hf : ∀ message, f task none ≠ .failed (some (.authorization message))) :
    Accepts ((authorizedTask pkgs taskId (some token) >>= f) none) task time ↔
      token = expected ∧ time < task.request.expiresAt.instant := by
  rw [Accepts, told_authorizedTask, timed_capability hexpected]
  split_ifs with htoken hexpired
  · exact iff_of_false (fun h => h _ rfl) fun h => htoken h.1
  · exact iff_of_false (fun h => h _ rfl) fun h => absurd h.2 (not_lt.mpr hexpired)
  · exact iff_of_true hf ⟨not_not.mp htoken, not_le.mp hexpired⟩

end

section
variable {pkgs : Packages} {task : TaskRecord} {taskId token expected : String} {time : Instant}
  (hexpected : pkgs.approvalToken task = some expected)
include hexpected

lemma approvalSummary_accepts :
    Accepts (approvalSummary pkgs taskId (some token) none) task time ↔
      token = expected ∧ time < task.request.expiresAt.instant := by
  refine accepts_iff hexpected fun message h => ?_
  split_ifs at h
  cases h

lemma interpretCustomerLanguage_accepts (interpretation : LanguageModelInterpretation) :
    Accepts (interpretCustomerLanguage pkgs interpretation taskId (some token) none) task time ↔
      token = expected ∧ time < task.request.expiresAt.instant := by
  refine accepts_iff hexpected fun message h => ?_
  split_ifs at h
  · cases h
  · cases h

lemma decide_accepts (mandateTtl : ℤ) (decision : ApprovalDecision) :
    Accepts (decide pkgs mandateTtl taskId decision (some token) none) task time ↔
      token = expected ∧ time < task.request.expiresAt.instant := by
  refine accepts_iff hexpected fun message h => ?_
  dsimp only at h
  split_ifs at h
  · cases h
  · cases h
  · cases h
  · cases h

end

/-- The token of a task is accepted by each of the three operations. -/
def Opens (pkgs : Packages) (token taskId : String) (task : TaskRecord) (time : Instant) : Prop :=
  Accepts (approvalSummary pkgs taskId (some token) none) task time ∧
    (∀ interpretation, Accepts (interpretCustomerLanguage pkgs interpretation taskId (some token) none)
      task time) ∧
    ∀ mandateTtl decision, Accepts (decide pkgs mandateTtl taskId decision (some token) none) task time

/-- It is turned down by each of them. -/
def Refuses (pkgs : Packages) (token taskId : String) (task : TaskRecord) (time : Instant) : Prop :=
  ¬ Accepts (approvalSummary pkgs taskId (some token) none) task time ∧
    (∀ interpretation, ¬ Accepts (interpretCustomerLanguage pkgs interpretation taskId (some token)
      none) task time) ∧
    ∀ mandateTtl decision, ¬ Accepts (decide pkgs mandateTtl taskId decision (some token) none) task time

lemma opens_or_refuses (pkgs : Packages) {task : TaskRecord} (taskId : String) (time : Instant)
    {token expected : String} (hexpected : pkgs.approvalToken task = some expected) :
    ((token = expected ∧ time < task.request.expiresAt.instant) → Opens pkgs token taskId task time) ∧
      (¬ (token = expected ∧ time < task.request.expiresAt.instant) →
        Refuses pkgs token taskId task time) := by
  refine ⟨fun h => ⟨?_, fun interpretation => ?_, fun mandateTtl decision => ?_⟩,
    fun h => ⟨?_, fun interpretation => ?_, fun mandateTtl decision => ?_⟩⟩
  · exact (approvalSummary_accepts hexpected).mpr h
  · exact (interpretCustomerLanguage_accepts hexpected interpretation).mpr h
  · exact (decide_accepts hexpected mandateTtl decision).mpr h
  · exact fun ha => h ((approvalSummary_accepts hexpected).mp ha)
  · exact fun ha => h ((interpretCustomerLanguage_accepts hexpected interpretation).mp ha)
  · exact fun ha => h ((decide_accepts hexpected mandateTtl decision).mp ha)

/-- A token that was issued with a task opens that task and no other, in every later state and until
the request expires; tasks that differ in id, context or request have different tokens; and a task
that went through a row of the table has the token it had. -/
theorem approval_capability (pkgs : Packages) (hmac : String → String → List UInt8) (secret : String)
    (mandateTtl : ℤ) (hsecret : secret ≠ "") (hcollision : Function.Injective (hmac secret))
    (htime : Function.Injective pkgs.jsonTime) :
    (∀ {S S' : Agent},
      Relation.ReflTransGen (Agent.Step (withSecret pkgs hmac (some secret)) mandateTtl) ⟨{}, []⟩ S →
      Relation.ReflTransGen (Agent.Step (withSecret pkgs hmac (some secret)) mandateTtl) S S' →
      ∀ id t id' t', S.shared.tasks id = some t → S'.shared.tasks id' = some t' →
        ∃ token, (withSecret pkgs hmac (some secret)).approvalToken t = some token ∧ ∀ time,
          ((id' = id ∧ time < t.request.expiresAt.instant) →
            Opens (withSecret pkgs hmac (some secret)) token id' t' time) ∧
          (¬ (id' = id ∧ time < t.request.expiresAt.instant) →
            Refuses (withSecret pkgs hmac (some secret)) token id' t' time)) ∧
    (∀ a b, (withSecret pkgs hmac (some secret)).approvalToken a
        = (withSecret pkgs hmac (some secret)).approvalToken b ↔
      a.id = b.id ∧ a.contextId = b.contextId ∧ a.request = b.request) ∧
    ∀ j : TaskJson, j.RoundTrips → ∀ (row : CustomerAgentTaskRow j) (task : TaskRecord),
      row.payload = j.taskPayload task →
      (taskFromRow row).bind (withSecret pkgs hmac (some secret)).approvalToken
        = (withSecret pkgs hmac (some secret)).approvalToken task := by
  have hiff := fun a b => approvalTokenOf_eq_iff hsecret hcollision htime a b
  refine ⟨fun {S S'} hS hS' id t id' t' ht ht' => ?_, hiff, fun j hj row task hrow => ?_⟩
  · have hkept : Kept (withSecret pkgs hmac (some secret)) ({} : Store) :=
      ⟨fun h => (by cases h), fun h => (by cases h)⟩
    have hdisc := store_discipline (withSecret pkgs hmac (some secret)) mandateTtl
    obtain ⟨hsound, -⟩ := hdisc.run (.nil hkept) hS
    obtain ⟨hsound', hchanges⟩ := hdisc.run hsound hS'
    obtain ⟨-, hsucc⟩ := changes_succeeds hsound.inv.task hchanges
    have hid := (hsound.inv.task ht).1
    have hid' := (hsound'.inv.task ht').1
    have htoken : approvalTokenOf pkgs hmac (some secret) t = some _ := approvalTokenOf_some hsecret t
    have htoken' : approvalTokenOf pkgs hmac (some secret) t' = some _ :=
      approvalTokenOf_some hsecret t'
    -- the request of a task that is still the same one is the request it had
    have hsame : id' = id → t'.contextId = t.contextId ∧ t'.request = t.request := by
      rintro rfl
      obtain ⟨t₁, ht₁, hs⟩ := hsucc ht
      rw [ht'] at ht₁
      obtain rfl := Option.some.inj ht₁
      exact ⟨hs.contextId, hs.request⟩
    have hequal : approvalTokenOf pkgs hmac (some secret) t
        = approvalTokenOf pkgs hmac (some secret) t' ↔ id' = id := by
      rw [hiff, hid, hid']
      refine ⟨fun h => h.1.symm, fun h => ?_⟩
      obtain ⟨hcontext, hrequest⟩ := hsame h
      exact ⟨h.symm, hcontext.symm, hrequest.symm⟩
    rw [htoken, htoken', Option.some.injEq] at hequal
    refine ⟨_, htoken, fun time => ?_⟩
    obtain ⟨hopens, hrefuses⟩ :=
      opens_or_refuses (withSecret pkgs hmac (some secret)) id' time htoken'
    refine ⟨fun h => hopens ⟨hequal.mpr h.1, ?_⟩, fun h => hrefuses fun hok => h ?_⟩
    · rw [(hsame h.1).2]
      exact h.2
    · obtain ⟨heq, hlt⟩ := hok
      have hid'' := hequal.mp heq
      rw [(hsame hid'').2] at hlt
      exact ⟨hid'', hlt⟩
  · have hread : taskFromRow row = some { task with revision := row.version } := by
      rw [taskFromRow, hrow]
      exact hj task row.version row.version_positive
    rw [hread]
    exact (hiff _ _).mpr ⟨rfl, rfl, rfl⟩

/-- The sample with timestamps that are told apart. -/
def dated : Packages := { samplePackages with jsonTime := A2A.sampleIsoformat }

/-- The bytes of the text stand for its HMAC. -/
def plainHmac (_ text : String) : List UInt8 := text.toUTF8.data.toList

lemma plainHmac_injective (key : String) : Function.Injective (plainHmac key) := by
  intro a b h
  have hbytes : a.toUTF8 = b.toUTF8 := ByteArray.ext (Array.toList_inj.mp h)
  exact String.toByteArray_inj.mp hbytes

/-- The task for which the customer is asked, under a secret. -/
def secretAgent : Agent :=
  Agent.play (withSecret dated plainHmac (some "secret"))
    ⟨{}, [(sendMessage (withSecret dated plainHmac (some "secret")) sampleMessage none, [])]⟩
    [(0, ""), (0, "1"), (0, "2"), (0, "")]

/-- The token of the sample's task opens it until the request expires. -/
theorem approval_capability_sample : ∃ t token, secretAgent.shared.tasks "task_1" = some t ∧
    Opens (withSecret dated plainHmac (some "secret")) token "task_1" t 999 ∧
    Refuses (withSecret dated plainHmac (some "secret")) token "task_1" t 1000 := by
  have hrun : Relation.ReflTransGen (Agent.Step (withSecret dated plainHmac (some "secret")) 60)
      ⟨{}, []⟩ secretAgent :=
    .trans (.single (.start (.sendMessage sampleMessage))) (Agent.play_steps _ 60 _ _)
  have hexpires : (secretAgent.shared.tasks "task_1").map (·.request.expiresAt.instant) = some 1000 := by
    decide +kernel
  obtain ⟨t, ht, hlimit⟩ := Option.map_eq_some_iff.mp hexpires
  obtain ⟨token, -, htoken⟩ := (approval_capability dated plainHmac "secret" 60 (by decide)
    (plainHmac_injective "secret") A2A.sampleIsoformat_injective).1 hrun .refl "task_1" t "task_1" t
    ht ht
  refine ⟨t, token, ht, (htoken 999).1 ⟨rfl, ?_⟩, (htoken 1000).2 fun h => ?_⟩
  · rw [hlimit]
    decide
  · rw [hlimit] at h
    exact absurd h.2 (by decide)

end RecoveryOS.CustomerAgent
