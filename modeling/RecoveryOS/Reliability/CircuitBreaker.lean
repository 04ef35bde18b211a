import RecoveryOS.Domain

/-!
# The circuit breaker of the payment links

`reliability/circuit_breaker.py`, and the calls that share one breaker: the creates of
`RazorpayClient._open_standard_payment_link` and the lookups of
`reconcile_payment_link_by_reference`. The breaker has one flag for an uncertain submission and one
for a probe, and does not know whose they are.

While only the calls that they are about touch them, an uncertain reference blocks until its lookup
has answered and there is one probe at most (`uncertainty_blocks`). A call that was let through
earlier can clear either (`older_success_clears`).
-/

namespace RecoveryOS.Reliability

inductive CircuitState where
  | closed
  | open
  | halfOpen
  deriving DecidableEq, Repr

inductive FailureKind where
  | retryable
  | permanent
  | uncertainSubmission
  deriving DecidableEq, Repr

structure FallbackReason where
  code : String
  provider : String
  operation : String
  state : CircuitState
  failureCount : ℕ
  retryAfterSeconds : Option ℤ
  requiresReconciliation : Bool
  automaticRetryPermitted : Bool
  deriving DecidableEq

structure BreakerDecision where
  allowed : Bool
  reason : Option FallbackReason := none
  deriving DecidableEq

/-- `CircuitBreaker`: what it is made with, and its state. -/
structure CircuitBreaker where
  provider : String
  operation : String
  failureThreshold : ℕ := 3
  recoveryTimeout : ℤ := 30000000
  state : CircuitState := .closed
  failureCount : ℕ := 0
  openedAt : Option Instant := none
  probeInFlight : Bool := false
  uncertain : Bool := false
  threshold_pos : 1 ≤ failureThreshold := by decide
  timeout_pos : 0 < recoveryTimeout := by decide

namespace CircuitBreaker
variable (b : CircuitBreaker)

/-- `_code`. -/
def code (suffix : String) : String :=
  (b.provider ++ "_" ++ b.operation ++ "_" ++ suffix).toUpper.map fun c => if c = '-' then '_' else c

/-- `_fallback_reason`. -/
def fallbackReason (now : Instant) : FallbackReason where
  code := b.code (if b.uncertain then "SUBMISSION_UNCERTAIN_RECONCILE_REQUIRED" else "CIRCUIT_OPEN")
  provider := b.provider
  operation := b.operation
  state := b.state
  failureCount := b.failureCount
  retryAfterSeconds :=
    if b.uncertain then none
    else b.openedAt.map fun openedAt =>
      max 0 ((b.recoveryTimeout - (now - openedAt)).tdiv 1000000)
  requiresReconciliation := b.uncertain
  automaticRetryPermitted := !b.uncertain

/-- The first part of `before_call`: an open circuit is tried again when its time is up. -/
def halfOpened (now : Instant) : CircuitBreaker :=
  if b.state = .open ∧ b.uncertain = false ∧
      (b.openedAt.any fun openedAt => decide (b.recoveryTimeout ≤ now - openedAt)) then
    { b with state := .halfOpen, probeInFlight := false }
  else b

/-- `before_call`. -/
def beforeCall (now : Instant) : BreakerDecision × CircuitBreaker :=
  let b := b.halfOpened now
  if b.state = .closed then (⟨true, none⟩, b)
  else if b.state = .halfOpen ∧ b.probeInFlight = false then
    (⟨true, none⟩, { b with probeInFlight := true })
  else (⟨false, some (b.fallbackReason now)⟩, b)

/-- `record_success`. -/
def recordSuccess : CircuitBreaker :=
  { b with state := .closed, failureCount := 0, openedAt := none, probeInFlight := false
           uncertain := false }

/-- `record_failure`. -/
def recordFailure (kind : FailureKind) (now : Instant) : Option FallbackReason × CircuitBreaker :=
  let b := { b with probeInFlight := false }
  match kind with
  | .permanent =>
    (some
      { code := b.code "PERMANENT_REJECTION"
        provider := b.provider
        operation := b.operation
        state := b.state
        failureCount := b.failureCount
        retryAfterSeconds := none
        requiresReconciliation := false
        automaticRetryPermitted := false }, b)
  | .uncertainSubmission =>
    let b := { b with failureCount := b.failureCount + 1, uncertain := true, state := .open
                      openedAt := some now }
    (some (b.fallbackReason now), b)
  | .retryable =>
    let b := { b with failureCount := b.failureCount + 1 }
    if b.state = .halfOpen ∨ b.failureThreshold ≤ b.failureCount then
      let b := { b with state := .open, openedAt := some now }
      (some (b.fallbackReason now), b)
    else (none, b)

/-- `reconcile_uncertain`, which raises without an uncertain submission; both answers of the
provider close the circuit. -/
def reconcileUncertain (providerConfirmedAbsent : Bool) : Except String CircuitBreaker :=
  if b.uncertain = false then .error "there is no uncertain submission to reconcile"
  else if providerConfirmedAbsent = false then .ok b.recordSuccess
  else .ok b.recordSuccess

end CircuitBreaker

/-! ## The calls that share a breaker -/

/-- A create that was let through and has not reported, and whether it was let through as a
probe. -/
structure Submission where
  reference : String
  probe : Bool

/-- The breaker, the creates in flight, and the references with an uncertain submission whose lookup
has not answered since. -/
structure Shared where
  breaker : CircuitBreaker
  inFlight : List Submission := []
  unresolved : List String := []

/-- What the calls do: a create asks to be let through, reports success or a failure or ends without
a report, and the lookup of a reference answers. -/
inductive Act where
  | ask (reference : String) (now : Instant)
  | succeed (call : ℕ)
  | fail (call : ℕ) (kind : FailureKind) (now : Instant)
  | abandon (call : ℕ)
  | lookup (reference : String) (absent : Bool)

namespace Shared
variable (s : Shared)

/-- `_open_standard_payment_link` up to its request: it is a probe if the circuit is half open. -/
def ask (reference : String) (now : Instant) : Shared :=
  let (decision, breaker) := s.breaker.beforeCall now
  if decision.allowed then
    { s with breaker
             inFlight := s.inFlight ++ [⟨reference, decide (breaker.state = .halfOpen)⟩] }
  else { s with breaker }

/-- A create that is in flight reports a failure. -/
def fail (call : ℕ) (c : Submission) (kind : FailureKind) (now : Instant) : Shared where
  breaker := (s.breaker.recordFailure kind now).2
  inFlight := s.inFlight.eraseIdx call
  unresolved := if kind = .uncertainSubmission then s.unresolved ++ [c.reference] else s.unresolved

/-- The end of `reconcile_payment_link_by_reference`. -/
def lookup (reference : String) (absent : Bool) : Shared where
  breaker :=
    if s.breaker.uncertain then
      match s.breaker.reconcileUncertain absent with
      | .ok breaker => breaker
      | .error _ => s.breaker
    else s.breaker
  inFlight := s.inFlight
  unresolved := s.unresolved.filter (· ≠ reference)

def step : Act → Shared
  | .ask reference now => s.ask reference now
  | .succeed call =>
    if call < s.inFlight.length then
      { s with breaker := s.breaker.recordSuccess, inFlight := s.inFlight.eraseIdx call }
    else s
  | .fail call kind now =>
    match s.inFlight[call]? with
    | some c => s.fail call c kind now
    | none => s
  | .abandon call => { s with inFlight := s.inFlight.eraseIdx call }
  | .lookup reference absent => s.lookup reference absent

def run (acts : List Act) : Shared := acts.foldl step s

/-- The probes that are in flight. -/
def probes : List Submission := s.inFlight.filter (·.probe)

end Shared

/-! ## What each report does to the breaker -/

namespace CircuitBreaker
variable {b : CircuitBreaker}

/-- A call goes through a closed circuit, or as the probe of one that is half open or due to be;
else the breaker stays as it is. -/
lemma beforeCall_spec (now : Instant) :
    (b.state = .closed ∧ b.beforeCall now = (⟨true, none⟩, b)) ∨
    ((b.state = .open ∧ b.uncertain = false ∨ b.state = .halfOpen ∧ b.probeInFlight = false) ∧
      b.beforeCall now = (⟨true, none⟩, { b with state := .halfOpen, probeInFlight := true })) ∨
    (b.state ≠ .closed ∧ (b.beforeCall now).1.allowed = false ∧ (b.beforeCall now).2 = b) := by
  unfold beforeCall halfOpened
  dsimp only
  split_ifs with hdue hclosed hprobe hclosed hprobe
  · simp at hclosed
  · exact .inr (.inl ⟨.inl ⟨hdue.1, hdue.2.1⟩, rfl⟩)
  · simp at hprobe
  · exact .inl ⟨hclosed, rfl⟩
  · refine .inr (.inl ⟨.inr hprobe, ?_⟩)
    rw [← hprobe.1]
  · exact .inr (.inr ⟨hclosed, rfl, rfl⟩)

/-- An uncertain circuit stays open, whatever fails. -/
lemma recordFailure_uncertain {kind : FailureKind} {now : Instant}
    (h : b.uncertain = true → b.state = .open)
    (hu : (b.recordFailure kind now).2.uncertain = true) :
    (b.recordFailure kind now).2.state = .open := by
  cases kind with
  | permanent => exact h hu
  | uncertainSubmission => rfl
  | retryable =>
    unfold recordFailure at hu ⊢
    dsimp only at hu ⊢
    split_ifs at hu ⊢
    · rfl
    · exact h hu

lemma uncertain_recordFailure {kind : FailureKind} {now : Instant}
    (h : b.uncertain = true ∨ kind = .uncertainSubmission) :
    (b.recordFailure kind now).2.uncertain = true := by
  cases kind with
  | permanent => exact h.resolve_right (by decide)
  | uncertainSubmission => rfl
  | retryable =>
    have hb := h.resolve_right (by decide)
    unfold recordFailure
    dsimp only
    split_ifs
    · exact hb
    · exact hb

end CircuitBreaker

/-! ## Orderly runs -/

namespace Shared
variable {s : Shared}

/-- Only a probe reports while there is one, no success is reported and no other lookup answers
while a reference is unresolved. -/
def Orderly (s : Shared) : Act → Prop
  | .succeed call => ∀ c, s.inFlight[call]? = some c →
      s.unresolved = [] ∧ (c.probe = true ∨ s.probes = [])
  | .fail call _ _ => ∀ c, s.inFlight[call]? = some c → c.probe = true ∨ s.probes = []
  | .lookup reference _ => ∀ r ∈ s.unresolved, r = reference
  | .ask _ _ | .abandon _ => True

/-- Every act is orderly when it comes. -/
def OrderlyRun : Shared → List Act → Prop
  | _, [] => True
  | s, a :: acts => s.Orderly a ∧ OrderlyRun (s.step a) acts

/-- The breaker's flags are those of the calls. -/
structure Guarded (s : Shared) : Prop where
  unresolved : s.unresolved ≠ [] → s.breaker.uncertain = true
  uncertain : s.breaker.uncertain = true → s.breaker.state = .open
  probe : s.probes ≠ [] → s.breaker.state = .halfOpen ∧ s.breaker.probeInFlight = true
  one : s.probes.length ≤ 1

lemma probes_eraseIdx {call : ℕ} {c : Submission} (h : s.inFlight[call]? = some c) :
    s.probes.length =
      (if c.probe = true then 1 else 0) + ((s.inFlight.eraseIdx call).filter (·.probe)).length := by
  obtain ⟨hlt, hc⟩ := List.getElem?_eq_some_iff.mp h
  have hperm := (List.getElem_cons_eraseIdx_perm hlt).filter (·.probe)
  unfold probes
  rw [← hperm.length_eq, hc, List.filter_cons]
  split_ifs
  · rw [List.length_cons, Nat.add_comm]
  · rw [Nat.zero_add]

lemma probes_eraseIdx_sublist (call : ℕ) :
    ((s.inFlight.eraseIdx call).filter (·.probe)).Sublist s.probes :=
  (List.eraseIdx_sublist _ _).filter _

/-- When the only probe reports, or another call does without a probe, none is left. -/
lemma Guarded.probes_reported (h : s.Guarded) {call : ℕ} {c : Submission}
    (hc : s.inFlight[call]? = some c) (hprobe : c.probe = true ∨ s.probes = []) :
    (s.inFlight.eraseIdx call).filter (·.probe) = [] := by
  rcases hprobe with hprobe | hnone
  · have hlen := probes_eraseIdx hc
    have hone := h.one
    rw [if_pos hprobe] at hlen
    exact List.length_eq_zero_iff.mp (by omega)
  · have hsub := probes_eraseIdx_sublist (s := s) call
    rw [hnone] at hsub
    exact List.eq_nil_of_sublist_nil hsub

lemma Guarded.ask (h : s.Guarded) (reference : String) (now : Instant) :
    (s.ask reference now).Guarded := by
  rcases @CircuitBreaker.beforeCall_spec s.breaker now with
    ⟨hclosed, heq⟩ | ⟨hfree, heq⟩ | ⟨-, hblocked, heq⟩
  · have hprobes : (s.ask reference now).probes = s.probes := by
      simp [Shared.ask, probes, heq, hclosed]
    have hbreaker : (s.ask reference now).breaker = s.breaker := by simp [Shared.ask, heq]
    have hunresolved : (s.ask reference now).unresolved = s.unresolved := by
      simp [Shared.ask, heq]
    refine ⟨?_, ?_, ?_, ?_⟩
    · rw [hunresolved, hbreaker]
      exact h.unresolved
    · rw [hbreaker]
      exact h.uncertain
    · rw [hprobes, hbreaker]
      exact h.probe
    · rw [hprobes]
      exact h.one
  · -- a probe is let through, and none was in flight
    have hnone : s.probes = [] := by
      by_contra hsome
      obtain ⟨hstate, hflag⟩ := h.probe hsome
      rcases hfree with ⟨hopen, -⟩ | ⟨-, hfalse⟩
      · rw [hopen] at hstate
        cases hstate
      · rw [hfalse] at hflag
        cases hflag
    have hcertain : s.breaker.uncertain = false := by
      rcases hfree with ⟨-, hcertain⟩ | ⟨hhalf, -⟩
      · exact hcertain
      · rw [← Bool.not_eq_true]
        intro hu
        rw [h.uncertain hu] at hhalf
        cases hhalf
    have hresolved : s.unresolved = [] := by
      by_contra hne
      rw [h.unresolved hne] at hcertain
      cases hcertain
    have hprobes : (s.ask reference now).probes = [⟨reference, true⟩] := by
      unfold probes at hnone
      simp [Shared.ask, probes, heq, hnone]
    refine ⟨?_, ?_, ?_, ?_⟩
    · simp [Shared.ask, heq, hresolved]
    · simp [Shared.ask, heq, hcertain]
    · simp [Shared.ask, heq]
    · simp [hprobes]
  · have hsame : s.ask reference now = s := by
      simp [Shared.ask, hblocked, heq]
    rw [hsame]
    exact h

lemma Guarded.fail (h : s.Guarded) {call : ℕ} {c : Submission} (kind : FailureKind) (now : Instant)
    (hc : s.inFlight[call]? = some c) (hprobe : c.probe = true ∨ s.probes = []) :
    (s.fail call c kind now).Guarded := by
  have hnone : (s.fail call c kind now).probes = [] := h.probes_reported hc hprobe
  refine ⟨?_, ?_, ?_, ?_⟩
  · intro hne
    apply CircuitBreaker.uncertain_recordFailure
    by_cases hkind : kind = .uncertainSubmission
    · exact .inr hkind
    · left
      apply h.unresolved
      simpa [Shared.fail, hkind] using hne
  · exact CircuitBreaker.recordFailure_uncertain h.uncertain
  · rw [hnone]
    simp
  · rw [hnone]
    simp

/-- The breaker is closed again, with nothing unresolved and no probe. -/
lemma guarded_recordSuccess {inFlight : List Submission}
    (hnone : inFlight.filter (·.probe) = []) :
    Guarded { breaker := s.breaker.recordSuccess, inFlight := inFlight, unresolved := [] } where
  unresolved := by simp
  uncertain := by simp [CircuitBreaker.recordSuccess]
  probe := by
    intro hne
    exact absurd hnone hne
  one := by
    unfold probes
    simp [hnone]

lemma Guarded.lookup (h : s.Guarded) (reference : String) (absent : Bool)
    (honly : ∀ r ∈ s.unresolved, r = reference) : (s.lookup reference absent).Guarded := by
  have hresolved : s.unresolved.filter (· ≠ reference) = [] := by
    rw [List.filter_eq_nil_iff]
    intro r hr
    simp [honly r hr]
  unfold Shared.lookup
  rw [hresolved]
  by_cases hu : s.breaker.uncertain = true
  · have hclosed : s.breaker.reconcileUncertain absent = .ok s.breaker.recordSuccess := by
      unfold CircuitBreaker.reconcileUncertain
      rw [hu]
      cases absent <;> rfl
    rw [if_pos hu, hclosed]
    apply guarded_recordSuccess
    by_contra hsome
    obtain ⟨hhalf, -⟩ := h.probe hsome
    rw [h.uncertain hu] at hhalf
    cases hhalf
  · rw [if_neg hu]
    exact ⟨by simp, h.uncertain, h.probe, h.one⟩

theorem Guarded.step (h : s.Guarded) {a : Act} (ha : s.Orderly a) : (s.step a).Guarded := by
  cases a with
  | ask reference now => exact h.ask reference now
  | succeed call =>
    simp only [Shared.step]
    split_ifs with hlt
    · have hc : s.inFlight[call]? = some s.inFlight[call] := List.getElem?_eq_getElem hlt
      obtain ⟨hresolved, hprobe⟩ := ha _ hc
      rw [hresolved]
      exact guarded_recordSuccess (h.probes_reported hc hprobe)
    · exact h
  | fail call kind now =>
    simp only [Shared.step]
    cases hc : s.inFlight[call]? with
    | none => exact h
    | some c => exact h.fail kind now hc (ha c hc)
  | abandon call =>
    have hsub := probes_eraseIdx_sublist (s := s) call
    refine ⟨h.unresolved, h.uncertain, ?_, hsub.length_le.trans h.one⟩
    intro hne
    apply h.probe
    intro hnil
    rw [hnil] at hsub
    exact hne (List.eq_nil_of_sublist_nil hsub)
  | lookup reference absent => exact h.lookup reference absent ha

theorem Guarded.run {acts : List Act} (h : s.Guarded) (orderly : s.OrderlyRun acts) :
    (s.run acts).Guarded := by
  induction acts generalizing s with
  | nil => exact h
  | cons a acts ih => exact ih (h.step orderly.1) orderly.2

/-- An unresolved reference blocks every call, and a half open circuit has one probe at most. -/
structure Blocks (s : Shared) : Prop where
  unresolved : s.unresolved ≠ [] → ∀ now, (s.breaker.beforeCall now).1.allowed = false
  probes : s.breaker.state = .halfOpen → s.probes.length ≤ 1

lemma Guarded.blocks (h : s.Guarded) : s.Blocks := by
  refine ⟨?_, fun _ => h.one⟩
  intro hne now
  have hu := h.unresolved hne
  have hopen := h.uncertain hu
  rcases @CircuitBreaker.beforeCall_spec s.breaker now with
    ⟨hclosed, -⟩ | ⟨⟨-, hcertain⟩ | ⟨hhalf, -⟩, -⟩ | ⟨-, hblocked, -⟩
  · rw [hopen] at hclosed
    cases hclosed
  · rw [hu] at hcertain
    cases hcertain
  · rw [hopen] at hhalf
    cases hhalf
  · exact hblocked

/-- So it is in every orderly run of any number of calls on a new breaker. -/
theorem uncertainty_blocks {b : CircuitBreaker} (hcertain : b.uncertain = false) {acts : List Act}
    (orderly : OrderlyRun { breaker := b } acts) : (run { breaker := b } acts).Blocks := by
  apply Guarded.blocks
  refine Guarded.run ⟨by simp, ?_, by simp [probes], by simp [probes]⟩ orderly
  intro hu
  rw [hcertain] at hu
  cases hu

end Shared

/-- The breaker of the creates of one key. -/
def paymentLinkBreaker : CircuitBreaker where
  provider := "razorpay"
  operation := "create_payment_link"

/-- A create ends uncertain, its lookup answers, and the next one is let through. -/
def resolvedFirst : List Act :=
  [.ask "ref_1" 0, .fail 0 .uncertainSubmission 1000000, .ask "ref_2" 2000000,
    .lookup "ref_1" true, .ask "ref_2" 3000000]

theorem resolvedFirst_blocks :
    paymentLinkBreaker.uncertain = false ∧
      Shared.OrderlyRun { breaker := paymentLinkBreaker } resolvedFirst ∧
      (Shared.run { breaker := paymentLinkBreaker } resolvedFirst).Blocks := by
  have orderly : Shared.OrderlyRun { breaker := paymentLinkBreaker } resolvedFirst := by
    refine ⟨trivial, ?_, trivial, ?_, trivial, trivial⟩
    · intro c _
      exact .inr rfl
    · intro r hr
      exact List.mem_singleton.mp hr
  exact ⟨rfl, orderly, Shared.uncertainty_blocks rfl orderly⟩

/-- Two creates are let through, one ends uncertain and then the other succeeds. -/
def olderSuccess : List Act :=
  [.ask "ref_1" 0, .ask "ref_2" 0, .fail 0 .uncertainSubmission 1000000, .succeed 0]

/-- The success of the older create lets the next one through before the uncertain reference is
looked up. -/
theorem older_success_clears :
    ¬ (Shared.run { breaker := paymentLinkBreaker } olderSuccess).Blocks := by
  intro h
  have hne : (Shared.run { breaker := paymentLinkBreaker } olderSuccess).unresolved ≠ [] := by
    decide
  have hallowed := h.unresolved hne 2000000
  exact absurd hallowed (by decide)

end RecoveryOS.Reliability
