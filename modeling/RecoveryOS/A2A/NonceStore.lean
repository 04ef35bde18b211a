import RecoveryOS.Lib.History
import RecoveryOS.A2A.Mandate

/-!
# Single use of a mandate

`SqlAlchemyNonceStore.consume` inserts a claim unless one of four unique keys is taken, and
otherwise reads the rows that take one. Calls of `verify_and_consume` interleave: the insertion is
one step, the read a later one, and between the two other calls insert, crash or mark a row as
executed (`Step`). A success always leaves a row with all the columns of its claim, and no two rows
share a key, so successes that share one are the same claim.

The insertion is switched off once a mandate has expired, while a retry is accepted at any time. So a
success needs a presentation before the expiry, this one or one before it.
-/

namespace RecoveryOS.A2A

open History

inductive NonceClaimOutcome where
  | claimed
  | alreadyClaimed
  | conflict
  deriving DecidableEq

inductive ExecutionStatus where
  | legacy
  | authorized
  | executing
  | succeeded
  | uncertain
  deriving DecidableEq

/-- The columns that a retry is compared on. -/
structure ClaimColumns where
  claimId : Option String
  nonce : String
  mandateId : String
  signerKeyId : String
  taskId : Option String
  merchantId : String
  caseId : String
  customerId : Option String
  recoveryActionId : Option String
  failedInvoiceId : Option String
  exactAmountPaise : Option ℤ
  currency : Option String
  paymentSurfaceType : Option String
  paymentSurfaceReference : Option String
  authorizedAction : Option String
  issuedAt : Option Instant
  expiresAt : Instant
  deriving DecidableEq

/-- A row of `a2a_mandate_nonce_consumptions`. -/
structure A2AMandateNonceConsumption extends ClaimColumns where
  consumedAt : Instant
  executionStatus : ExecutionStatus
  executionClaimedAt : Option Instant := none
  executedAt : Option Instant := none
  deriving DecidableEq

def MandateNonceClaim.columns (c : MandateNonceClaim) : ClaimColumns where
  claimId := some c.claimId
  nonce := c.nonce
  mandateId := c.mandateId
  signerKeyId := c.signerKeyId
  taskId := some c.taskId
  merchantId := c.merchantId
  caseId := c.caseId
  customerId := some c.customerId
  recoveryActionId := some c.recoveryActionId
  failedInvoiceId := some c.failedInvoiceId
  exactAmountPaise := some c.exactAmountPaise
  currency := some c.currency
  paymentSurfaceType := some c.paymentSurfaceType
  paymentSurfaceReference := some c.paymentSurfaceReference
  authorizedAction := some c.authorizedAction
  issuedAt := some c.issuedAt
  expiresAt := c.expiresAt

/-- The row that the `INSERT` of a claim writes. -/
def MandateNonceClaim.row (c : MandateNonceClaim) : A2AMandateNonceConsumption :=
  { c.columns with consumedAt := c.consumedAt, executionStatus := .authorized }

/-- One of the four unique keys is shared; a `NULL` is shared with nothing. -/
def ClaimColumns.collides (a b : ClaimColumns) : Bool :=
  decide (a.nonce = b.nonce) || decide (a.mandateId = b.mandateId)
    || (a.claimId.isSome && decide (a.claimId = b.claimId))
    || (a.recoveryActionId.isSome && decide (a.recoveryActionId = b.recoveryActionId))

/-- `INSERT … ON CONFLICT DO NOTHING`, as far as the unique keys go: the foreign keys, the widths of
the texts and the check that the claim is consumed before it expires are left out. -/
def insertClaim (rows : List A2AMandateNonceConsumption) (c : MandateNonceClaim) :
    Option (List A2AMandateNonceConsumption) :=
  if rows.any fun row => row.collides c.columns then none else some (rows ++ [c.row])

/-- What `consume` concludes from the rows that share a key with the claim. -/
def existingOutcome (rows : List A2AMandateNonceConsumption) (c : MandateNonceClaim) :
    NonceClaimOutcome :=
  if (rows.filter fun row => row.collides c.columns).any fun row =>
      decide (row.toClaimColumns = c.columns) then .alreadyClaimed
  else .conflict

/-- `consume`, undisturbed. -/
def consume (rows : List A2AMandateNonceConsumption) (c : MandateNonceClaim) (allowNew : Bool) :
    NonceClaimOutcome × List A2AMandateNonceConsumption :=
  match if allowNew then insertClaim rows c else none with
  | some rows' => (.claimed, rows')
  | none => (existingOutcome rows c, rows)

structure VerifiedMandate where
  data : RecoveryMandateData
  verifiedAt : Instant
  claimId : String

/-- The end of `verify_and_consume`. -/
def conclude (pkgs : Packages) (c : Checked) (outcome : NonceClaimOutcome) :
    Except Failure VerifiedMandate :=
  if outcome = .conflict then
    if c.expired then .error (.rejected ⟨"EXPIRED", "mandate has expired"⟩)
    else .error (.rejected ⟨"REPLAYED",
      "mandate nonce or ID was reused with different signed scope"⟩)
  else if c.expired = true ∧ outcome ≠ .alreadyClaimed then
    .error (.rejected ⟨"EXPIRED", "mandate has expired"⟩)
  else
    .ok { data := c.signed.data, verifiedAt := c.observedAt
          claimId := pkgs.sha256 (canonicalJson pkgs c.signed.data) }

/-- The claim of a call that passed the checks. -/
def Checked.claim (pkgs : Packages) (c : Checked) : MandateNonceClaim :=
  nonceClaim pkgs c.signed.data c.observedAt

/-! ## Interleaved calls -/

inductive Event where
  | presented (p : Presentation)
  | succeeded (p : Presentation) (m : VerifiedMandate)

/-- The store, the calls that have still to read it, and what happened so far. -/
structure System where
  rows : List A2AMandateNonceConsumption := []
  reading : List (Presentation × Checked) := []
  log : List Event := []

namespace System

/-- A call begins. -/
def present (s : System) (p : Presentation) : System :=
  { s with log := s.log ++ [.presented p] }

/-- A call returns. -/
def answer (s : System) (p : Presentation) : Except Failure VerifiedMandate → System
  | .ok m => { s with log := s.log ++ [.succeeded p m] }
  | .error _ => s

end System

section
variable {pkgs : Packages} (v : Verifier pkgs)

/-- One step of the calls in flight, or of another writer. -/
inductive Step : System → System → Prop where
  /-- A call fails in its checks. -/
  | rejected {s} (p e) (h : v.check p = .error e) : Step s (s.present p)
  /-- A call inserts its claim and returns. -/
  | claimed {s} (p c rows) (h : v.check p = .ok c) (hx : c.expired = false)
      (hr : insertClaim s.rows (c.claim pkgs) = some rows) :
      Step s (({ s.present p with rows } : System).answer p (conclude pkgs c .claimed))
  /-- A call inserts its claim and its completion is lost. -/
  | lost {s} (p c rows) (h : v.check p = .ok c) (hx : c.expired = false)
      (hr : insertClaim s.rows (c.claim pkgs) = some rows) :
      Step s { s.present p with rows }
  /-- A call does not insert, and will read. -/
  | deferred {s} (p c) (h : v.check p = .ok c)
      (hr : c.expired = true ∨ insertClaim s.rows (c.claim pkgs) = none) :
      Step s { s.present p with reading := s.reading ++ [(p, c)] }
  /-- A call reads and returns. -/
  | read {s} (l p c l') (h : s.reading = l ++ (p, c) :: l') :
      Step s (({ s with reading := l ++ l' } : System).answer p
        (conclude pkgs c (existingOutcome s.rows (c.claim pkgs))))
  /-- A call fails at the database. -/
  | raised {s} (p) : Step s (s.present p)
  | dropped {s} (l x l') (h : s.reading = l ++ x :: l') : Step s { s with reading := l ++ l' }
  /-- Another component marks rows as claimed for execution or executed. -/
  | marked {s} (f : A2AMandateNonceConsumption → A2AMandateNonceConsumption)
      (h : ∀ row, (f row).toClaimColumns = row.toClaimColumns) :
      Step s { s with rows := s.rows.map f }

/-- The states the calls reach from a table of rows that no call has written: legacy rows, which
have no claim. -/
def Reaches (s : System) : Prop :=
  ∃ rows : List A2AMandateNonceConsumption,
    (∀ row ∈ rows, row.claimId = none) ∧
    rows.Pairwise (fun a b => a.collides b.toClaimColumns = false) ∧
    Relation.ReflTransGen (Step v) { rows } s

/-- A mandate was presented at a time. -/
def PresentedAt (pkgs : Packages) (l : List Event) (d : RecoveryMandateData) (t : Instant) :
    Prop :=
  ∃ p signed, .presented p ∈ l ∧ p.envelope.parse pkgs = some signed ∧ signed.data = d ∧
    p.observedAt = some t

/-! ## The invariant -/

lemma collides_symm (a b : ClaimColumns) : a.collides b = b.collides a := by
  rw [Bool.eq_iff_iff]
  simp only [ClaimColumns.collides, Bool.or_eq_true, Bool.and_eq_true, decide_eq_true_eq,
    Option.isSome_iff_exists]
  constructor
  · rintro (((h | h) | ⟨⟨x, hx⟩, h⟩) | ⟨⟨x, hx⟩, h⟩)
    · exact .inl (.inl (.inl h.symm))
    · exact .inl (.inl (.inr h.symm))
    · exact .inl (.inr ⟨⟨x, h ▸ hx⟩, h.symm⟩)
    · exact .inr ⟨⟨x, h ▸ hx⟩, h.symm⟩
  · rintro (((h | h) | ⟨⟨x, hx⟩, h⟩) | ⟨⟨x, hx⟩, h⟩)
    · exact .inl (.inl (.inl h.symm))
    · exact .inl (.inl (.inr h.symm))
    · exact .inl (.inr ⟨⟨x, h ▸ hx⟩, h.symm⟩)
    · exact .inr ⟨⟨x, h ▸ hx⟩, h.symm⟩

/-- A row that carries a claim was inserted by a call that presented it in time. -/
def Inserted (l : List Event) (columns : ClaimColumns) : Prop :=
  ∃ p c, .presented p ∈ l ∧ v.check p = .ok c ∧ c.expired = false ∧
    columns = (c.claim pkgs).columns

/-- An entry of the log that the entries before it allow: a success is one of a call that passed
its checks, for a claim that a presentation in time has inserted. -/
def Backed (l : List Event) : Event → Prop
  | .presented _ => True
  | .succeeded p m => ∃ c, .presented p ∈ l ∧ v.check p = .ok c ∧ m.data = c.signed.data ∧
      m.claimId = (c.claim pkgs).claimId ∧ Inserted v l (c.claim pkgs).columns

/-- What every reachable state satisfies. -/
structure Inv (s : System) : Prop where
  unique : s.rows.Pairwise fun a b => a.collides b.toClaimColumns = false
  inserted : ∀ row ∈ s.rows, row.claimId = none ∨ Inserted v s.log row.toClaimColumns
  reading : ∀ x ∈ s.reading, .presented x.1 ∈ s.log ∧ v.check x.1 = .ok x.2
  stored : ∀ p m, .succeeded p m ∈ s.log → ∃ c, v.check p = .ok c ∧ m.data = c.signed.data ∧
    ∃ row ∈ s.rows, row.toClaimColumns = (c.claim pkgs).columns
  backed : Causal (Backed v) s.log

variable {v}

lemma Inserted.mono {l l' : List Event} {columns : ClaimColumns} (h : Inserted v l columns)
    (hl : l ⊆ l') : Inserted v l' columns := by
  obtain ⟨p, c, hp, hc, hx, he⟩ := h
  exact ⟨p, c, hl hp, hc, hx, he⟩

lemma Inv.present {s : System} (h : Inv v s) (p : Presentation) : Inv v (s.present p) where
  unique := h.unique
  inserted row hr := (h.inserted row hr).imp_right fun hi =>
    hi.mono (List.subset_append_left _ _)
  reading x hx := ⟨List.mem_append_left _ (h.reading x hx).1, (h.reading x hx).2⟩
  stored q m hm := h.stored q m (by simpa [System.present] using hm)
  backed := causal_snoc.mpr ⟨h.backed, trivial⟩

/-- Returning keeps the invariant if the claim is stored. -/
lemma Inv.answer {s : System} {p : Presentation} {c : Checked} {outcome : NonceClaimOutcome}
    (h : Inv v s) (hp : .presented p ∈ s.log) (hc : v.check p = .ok c)
    (hrow : outcome ≠ .conflict → ∃ row ∈ s.rows, row.toClaimColumns = (c.claim pkgs).columns) :
    Inv v (s.answer p (conclude pkgs c outcome)) := by
  unfold conclude
  split_ifs with ho he
  · exact h
  · exact h
  · exact h
  · obtain ⟨row, hr, hcol⟩ := hrow ho
    refine ⟨h.unique, fun row hr => (h.inserted row hr).imp_right fun hi =>
      hi.mono (List.subset_append_left _ _), fun x hx => ?_, fun q m hm => ?_,
      causal_snoc.mpr ⟨h.backed, c, hp, hc, rfl, rfl, ?_⟩⟩
    · exact ⟨List.mem_append_left _ (h.reading x hx).1, (h.reading x hx).2⟩
    · rcases List.mem_append.mp hm with hm | hm
      · exact h.stored q m hm
      · obtain ⟨rfl, rfl⟩ : q = p ∧ m = _ := by simpa using hm
        exact ⟨c, hc, rfl, row, hr, hcol⟩
    · rcases h.inserted row hr with hn | hi
      · have hclaim : row.claimId = some (c.claim pkgs).claimId :=
          congrArg ClaimColumns.claimId hcol
        rw [hn] at hclaim
        exact absurd hclaim (by simp)
      · exact hcol ▸ hi

/-- A claim is inserted only where none of its keys is taken. -/
lemma insertClaim_eq_some {rows rows' : List A2AMandateNonceConsumption} {c : MandateNonceClaim}
    (h : insertClaim rows c = some rows') :
    rows' = rows ++ [c.row] ∧ ∀ row ∈ rows, row.collides c.columns = false := by
  unfold insertClaim at h
  split_ifs at h with hany
  refine ⟨(Option.some.inj h).symm, fun row hr => ?_⟩
  simp only [List.any_eq_true, not_exists, not_and] at hany
  simpa using hany row hr

lemma Inv.insert {s : System} {p : Presentation} {c : Checked}
    {rows : List A2AMandateNonceConsumption} (h : Inv v s) (hc : v.check p = .ok c)
    (hx : c.expired = false) (hr : insertClaim s.rows (c.claim pkgs) = some rows) :
    Inv v { s.present p with rows } ∧
      ∃ row ∈ rows, row.toClaimColumns = (c.claim pkgs).columns := by
  obtain ⟨rfl, hfree⟩ := insertClaim_eq_some hr
  have hp := h.present p
  refine ⟨⟨?_, ?_, hp.reading, ?_, hp.backed⟩, (c.claim pkgs).row, by simp, rfl⟩
  · refine List.pairwise_append.mpr ⟨h.unique, by simp, fun a ha b hb => ?_⟩
    rw [List.mem_singleton.mp hb]
    exact hfree a ha
  · intro row hrow
    rcases List.mem_append.mp hrow with hrow | hrow
    · exact hp.inserted row hrow
    · rw [List.mem_singleton.mp hrow]
      exact .inr ⟨p, c, by simp [System.present], hc, hx, rfl⟩
  · intro q m hm
    obtain ⟨c', hc', hd, row, hrow, hcol⟩ := hp.stored q m hm
    exact ⟨c', hc', hd, row, List.mem_append_left _ hrow, hcol⟩

lemma exists_of_existingOutcome {rows : List A2AMandateNonceConsumption} {c : MandateNonceClaim}
    (h : existingOutcome rows c ≠ .conflict) : ∃ row ∈ rows, row.toClaimColumns = c.columns := by
  unfold existingOutcome at h
  split_ifs at h with hany
  · obtain ⟨row, hrow, hcol⟩ := List.any_eq_true.mp hany
    exact ⟨row, (List.mem_filter.mp hrow).1, by simpa using hcol⟩
  · exact absurd rfl h

/-- Every step keeps the invariant. -/
theorem Inv.step {s s' : System} (h : Inv v s) (hs : Step v s s') : Inv v s' := by
  cases hs with
  | rejected p e he => exact h.present p
  | claimed p c rows hc hx hr =>
    obtain ⟨hi, hrow⟩ := h.insert hc hx hr
    exact hi.answer (by simp [System.present]) hc fun _ => hrow
  | lost p c rows hc hx hr => exact (h.insert hc hx hr).1
  | deferred p c hc _ =>
    have hp := h.present p
    refine ⟨hp.unique, hp.inserted, fun x hx => ?_, hp.stored, hp.backed⟩
    rcases List.mem_append.mp hx with hx | hx
    · exact hp.reading x hx
    · rw [List.mem_singleton.mp hx]
      exact ⟨by simp [System.present], hc⟩
  | read l p c l' hr =>
    have hc := h.reading (p, c) (by simp [hr])
    have hi : Inv v ({ s with reading := l ++ l' } : System) :=
      ⟨h.unique, h.inserted, fun x hx => h.reading x (by rw [hr]; simp at hx ⊢; tauto),
        h.stored, h.backed⟩
    exact hi.answer hc.1 hc.2 exists_of_existingOutcome
  | raised p => exact h.present p
  | dropped l x l' hr =>
    exact ⟨h.unique, h.inserted, fun y hy => h.reading y (by rw [hr]; simp at hy ⊢; tauto),
      h.stored, h.backed⟩
  | marked f hf =>
    refine ⟨?_, fun row hrow => ?_, h.reading, fun q m hm => ?_, h.backed⟩
    · rw [List.pairwise_map]
      simpa only [hf] using h.unique
    · obtain ⟨row', hrow', rfl⟩ := List.mem_map.mp hrow
      simpa only [hf] using h.inserted row' hrow'
    · obtain ⟨c, hc, hd, row, hrow, hcol⟩ := h.stored q m hm
      exact ⟨c, hc, hd, f row, List.mem_map_of_mem hrow, by rw [hf, hcol]⟩

theorem inv_of_reaches {s : System} (h : Reaches v s) : Inv v s := by
  obtain ⟨rows, hclaim, huniq, hrun⟩ := h
  induction hrun with
  | refl =>
    exact ⟨huniq, fun row hr => .inl (hclaim row hr), by simp, by simp, causal_nil⟩
  | tail _ hstep ih => exact ih.step hstep

/-! ## Single use -/

/-- The first timed presentation of a mandate. -/
def FirstPresentedAt (pkgs : Packages) (log : List Event) (d : RecoveryMandateData)
    (t : Instant) : Prop :=
  ∃ l p l' signed, log = l ++ .presented p :: l' ∧ (∀ t', ¬ PresentedAt pkgs l d t') ∧
    p.envelope.parse pkgs = some signed ∧ signed.data = d ∧ p.observedAt = some t

/-- The verification times never go back. -/
def NonDecreasing (log : List Event) : Prop :=
  log.Pairwise fun e e' => ∀ p p' t t', e = .presented p → e' = .presented p' →
    p.observedAt = some t → p'.observedAt = some t' → t ≤ t'

/-- A mandate presented first at or after its expiry never succeeds. -/
def LateNeverSucceeds (pkgs : Packages) (log : List Event) : Prop :=
  ∀ d t, FirstPresentedAt pkgs log d t → d.expiresAt.instant ≤ t →
    ∀ p m, .succeeded p m ∈ log → m.data ≠ d

/-- Different texts that are presented have different digests. -/
def CollisionFree (pkgs : Packages) (log : List Event) : Prop :=
  ∀ d t d' t', PresentedAt pkgs log d t → PresentedAt pkgs log d' t' →
    pkgs.sha256 (canonicalJson pkgs d) = pkgs.sha256 (canonicalJson pkgs d') →
    canonicalJson pkgs d = canonicalJson pkgs d'

/-- Successes that share a key are one claim on one mandate; each is within the scope its caller
expected and signed under the pinned key it names; and a mandate succeeds only if it was presented
before its expiry, then or earlier. -/
structure SingleUse (v : Verifier pkgs) (log : List Event) : Prop where
  same : ∀ p m p' m', .succeeded p m ∈ log → .succeeded p' m' ∈ log →
    m.data.nonce = m'.data.nonce ∨ m.data.mandateId = m'.data.mandateId ∨
      m.data.recoveryActionId = m'.data.recoveryActionId →
    m.claimId = m'.claimId ∧ m.data = m'.data
  scope : ∀ p m, .succeeded p m ∈ log → m.data.scope = p.expected
  pinned : ∀ p m, .succeeded p m ∈ log → ∃ signed key sig,
    p.envelope.parse pkgs = some signed ∧ signed.data = m.data ∧
    v.keys m.data.signerKeyId = some key ∧ pkgs.decode signed.signature = some sig ∧
    pkgs.verify key sig (canonicalJson pkgs m.data) = true
  timely : Causal (fun l e => ∀ p m, e = .succeeded p m →
    ∃ t, PresentedAt pkgs l m.data t ∧ t < m.data.expiresAt.instant) log
  late : NonDecreasing log → LateNeverSucceeds pkgs log

/-- Claims with the same columns are of the same mandate. -/
lemma data_eq_of_columns_eq {log : List Event} (hsha : CollisionFree pkgs log)
    {d d' : RecoveryMandateData} {t t' : Instant} (hd : PresentedAt pkgs log d t)
    (hd' : PresentedAt pkgs log d' t')
    (h : (nonceClaim pkgs d t).columns = (nonceClaim pkgs d' t').columns) : d = d' := by
  simp only [MandateNonceClaim.columns, nonceClaim, ClaimColumns.mk.injEq,
    Option.some.injEq] at h
  obtain ⟨hclaim, hnonce, hmandate, hkey, htask, hmerchant, hcase, hcustomer, haction, hinvoice,
    hamount, hcurrency, htype, href, -⟩ := h
  refine eq_of_canonicalJson_eq pkgs hmandate hnonce hkey ?_ (hsha d t d' t' hd hd' hclaim)
  simp only [RecoveryMandateData.scope, htask, hmerchant, hcase, hcustomer, haction, hinvoice,
    hamount, hcurrency, htype, href]

lemma presentedAt_of_check {l : List Event} {p : Presentation} {c : Checked}
    (hp : .presented p ∈ l) (hc : v.check p = .ok c) :
    PresentedAt pkgs l c.signed.data c.observedAt :=
  have h := Verifier.passed_of_check hc
  ⟨p, c.signed, hp, h.parsed, rfl, h.observedAt⟩

/-- Rows that share a key are the same row. -/
lemma Inv.row_eq {s : System} (h : Inv v s) {a b : A2AMandateNonceConsumption}
    (ha : a ∈ s.rows) (hb : b ∈ s.rows) (hc : a.collides b.toClaimColumns = true) : a = b := by
  by_contra hne
  have : Std.Symm fun a b : A2AMandateNonceConsumption =>
      a.collides b.toClaimColumns = false := ⟨fun a b hab => (collides_symm _ _).trans hab⟩
  have hfalse := h.unique.forall ha hb hne
  rw [hc] at hfalse
  exact absurd hfalse (by simp)

lemma collides_of_shared {c c' : MandateNonceClaim} (h : c.nonce = c'.nonce ∨
    c.mandateId = c'.mandateId ∨ c.recoveryActionId = c'.recoveryActionId) :
    c.columns.collides c'.columns = true := by
  rcases h with h | h | h <;> simp [ClaimColumns.collides, MandateNonceClaim.columns, h]

/-- The mandate of a stored claim was presented in time. -/
lemma timely_of_inserted {l log : List Event} (hl : l ⊆ log) (hsha : CollisionFree pkgs log)
    {p : Presentation} {c : Checked} (hp : .presented p ∈ l) (hc : v.check p = .ok c)
    (hi : Inserted v l (c.claim pkgs).columns) :
    ∃ t, PresentedAt pkgs l c.signed.data t ∧ t < c.signed.data.expiresAt.instant := by
  obtain ⟨p', c', hp', hc', hx', hcol⟩ := hi
  have hmono : ∀ {d t}, PresentedAt pkgs l d t → PresentedAt pkgs log d t := by
    rintro d t ⟨q, signed, hq, h⟩
    exact ⟨q, signed, hl hq, h⟩
  have hd := presentedAt_of_check hp hc
  have hd' := presentedAt_of_check hp' hc'
  have heq : c.signed.data = c'.signed.data :=
    data_eq_of_columns_eq hsha (hmono hd) (hmono hd') hcol
  refine ⟨c'.observedAt, heq ▸ hd', ?_⟩
  have hexp := (Verifier.passed_of_check hc').expired
  rw [hx'] at hexp
  rw [heq]
  exact not_le.mp fun hle => absurd (hexp.mpr hle) (by simp)

/-- With times that never go back, a first presentation at or after the expiry is followed by none
before it. -/
lemma lateNeverSucceeds_of_nonDecreasing {log : List Event} (hnd : NonDecreasing log)
    (ht : ∀ p m, .succeeded p m ∈ log →
      ∃ t, PresentedAt pkgs log m.data t ∧ t < m.data.expiresAt.instant) :
    LateNeverSucceeds pkgs log := by
  rintro d t ⟨l, q, l', signed, rfl, hfirst, hparse, hdata, hobs⟩ hlate p m hm rfl
  obtain ⟨t', ⟨q', signed', hq', hparse', hdata', hobs'⟩, hlt⟩ := ht p m hm
  rcases List.mem_append.mp hq' with hq' | hq'
  · exact hfirst t' ⟨q', signed', hq', hparse', hdata', hobs'⟩
  · have hle : t ≤ t' := by
      rcases List.mem_cons.mp hq' with heq | hq'
      · obtain rfl : q' = q := by simpa using heq
        rw [hobs] at hobs'
        exact (Option.some.inj hobs').le
      · have hpair := (List.pairwise_append.mp hnd).2.1
        exact (List.pairwise_cons.mp hpair).1 _ hq' q q' t t' rfl rfl hobs hobs'
    exact absurd (hlate.trans hle) (not_le.mpr hlt)

/-- In every interleaving of verifications, mandates are used once. -/
theorem mandates_single_use (v : Verifier pkgs) (s : System) (h : Reaches v s)
    (hsha : CollisionFree pkgs s.log) : SingleUse v s.log := by
  have hi := inv_of_reaches h
  have hback : ∀ p m, .succeeded p m ∈ s.log → ∃ c, .presented p ∈ s.log ∧ v.check p = .ok c ∧
      m.data = c.signed.data ∧ m.claimId = (c.claim pkgs).claimId ∧
      Inserted v s.log (c.claim pkgs).columns := by
    intro p m hm
    obtain ⟨l, hl, c, hp, hc, hd, hid, hins⟩ := hi.backed.of_mem hm
    exact ⟨c, hl hp, hc, hd, hid, hins.mono hl⟩
  refine ⟨?_, ?_, ?_, ?_, fun hnd => ?_⟩
  · intro p m p' m' hm hm' hkey
    obtain ⟨c, hp, hc, hd, hid, -⟩ := hback p m hm
    obtain ⟨c', hp', hc', hd', hid', -⟩ := hback p' m' hm'
    obtain ⟨c₁, hc₁, -, row, hrow, hcol⟩ := hi.stored p m hm
    obtain ⟨c₂, hc₂, -, row', hrow', hcol'⟩ := hi.stored p' m' hm'
    obtain rfl : c = c₁ := Except.ok.inj (hc.symm.trans hc₁)
    obtain rfl : c' = c₂ := Except.ok.inj (hc'.symm.trans hc₂)
    have hcollide : row.collides row'.toClaimColumns = true := by
      rw [hcol, hcol']
      rw [hd, hd'] at hkey
      exact collides_of_shared hkey
    obtain rfl := hi.row_eq hrow hrow' hcollide
    have hcols : (c.claim pkgs).columns = (c'.claim pkgs).columns := hcol.symm.trans hcol'
    refine ⟨?_, ?_⟩
    · rw [hid, hid']
      exact Option.some.inj (congrArg ClaimColumns.claimId hcols)
    · rw [hd, hd']
      exact data_eq_of_columns_eq hsha (presentedAt_of_check hp hc) (presentedAt_of_check hp' hc')
        hcols
  · intro p m hm
    obtain ⟨c, -, hc, hd, -⟩ := hback p m hm
    rw [hd]
    exact (Verifier.passed_of_check hc).scope
  · intro p m hm
    obtain ⟨c, -, hc, hd, -⟩ := hback p m hm
    obtain ⟨key, sig, hk, hs, hv⟩ := (Verifier.passed_of_check hc).signature
    exact ⟨c.signed, key, sig, (Verifier.passed_of_check hc).parsed, hd.symm, hd ▸ hk, hs,
      hd ▸ hv⟩
  · intro l e l' he p m hpm
    subst hpm
    obtain ⟨c, hp, hc, hd, -, hins⟩ := hi.backed l _ l' he
    rw [hd]
    exact timely_of_inserted (he ▸ List.subset_append_left l _) hsha hp hc hins
  · refine lateNeverSucceeds_of_nonDecreasing hnd fun p m hm => ?_
    obtain ⟨c, hp, hc, hd, -, hins⟩ := hback p m hm
    rw [hd]
    exact timely_of_inserted (List.Subset.refl _) hsha hp hc hins

end

/-- The sample mandate, presented in its own scope. -/
def samplePresentation (t : Instant) : Presentation :=
  ⟨.signed sampleMandate, sampleData.scope, some t⟩

def sampleVerified (t : Instant) : VerifiedMandate :=
  ⟨sampleData, t, samplePackages.sha256 (canonicalJson samplePackages sampleData)⟩

/-- The sample mandate is presented a second after its expiry, and then five seconds before it, by
a clock that went back. -/
def clockWentBack : System where
  rows := [(nonceClaim samplePackages sampleData 5000000).row]
  log := [.presented (samplePresentation 11000000), .presented (samplePresentation 5000000),
    .succeeded (samplePresentation 5000000) (sampleVerified 5000000)]

lemma clockWentBack_reaches : Reaches sampleVerifier clockWentBack := by
  refine ⟨[], by simp, List.Pairwise.nil, ?_⟩
  let late := samplePresentation 11000000
  let checked : Checked := ⟨sampleMandate, 11000000, true⟩
  have s₁ : Step sampleVerifier {} ⟨[], [(late, checked)], [.presented late]⟩ :=
    Step.deferred late checked (sampleVerifier_check (by decide)) (.inl rfl)
  have s₂ : Step sampleVerifier ⟨[], [(late, checked)], [.presented late]⟩
      ⟨[], [], [.presented late]⟩ := Step.read [] late checked [] rfl
  have s₃ : Step sampleVerifier ⟨[], [], [.presented late]⟩ clockWentBack :=
    Step.claimed _ _ _ (sampleVerifier_check (t := 5000000) (by decide)) rfl rfl
  exact ((Relation.ReflTransGen.single s₁).tail s₂).tail s₃

lemma presentedAt_sample {log : List Event} {d : RecoveryMandateData} {t : Instant}
    (hlog : ∀ p, .presented p ∈ log → ∃ u, p = samplePresentation u)
    (h : PresentedAt samplePackages log d t) : d = sampleData := by
  obtain ⟨p, signed, hp, hparse, hd, -⟩ := h
  obtain ⟨u, rfl⟩ := hlog p hp
  obtain rfl : sampleMandate = signed := Option.some.inj hparse
  exact hd.symm

theorem clockWentBack_single_use : SingleUse sampleVerifier clockWentBack.log := by
  have hlog : ∀ p, .presented p ∈ clockWentBack.log → ∃ u, p = samplePresentation u := by
    intro p hp
    simp only [clockWentBack, List.mem_cons, Event.presented.injEq, reduceCtorEq,
      List.not_mem_nil, or_false] at hp
    rcases hp with rfl | rfl
    · exact ⟨_, rfl⟩
    · exact ⟨_, rfl⟩
  refine mandates_single_use _ _ clockWentBack_reaches fun d t d' t' hd hd' _ => ?_
  rw [presentedAt_sample hlog hd, presentedAt_sample hlog hd']

/-- With a clock that goes back, a mandate whose first presentation was late succeeds. -/
theorem late_mandate_succeeds :
    Reaches sampleVerifier clockWentBack ∧
      ¬ LateNeverSucceeds samplePackages clockWentBack.log := by
  refine ⟨clockWentBack_reaches, fun h => ?_⟩
  refine h sampleData 11000000 ⟨[], samplePresentation 11000000, _, sampleMandate, rfl, ?_, rfl, rfl,
    rfl⟩ (by decide) (samplePresentation 5000000) (sampleVerified 5000000)
    (by simp [clockWentBack]) rfl
  rintro t ⟨p, signed, hp, -⟩
  exact absurd hp (by simp)

end RecoveryOS.A2A
