import RecoveryOS.Domain

/-!
# Deliveries of payment events

`reliability/payment_projection.py`, and the deliveries that `simulator/failure_scenarios.py` builds
for it. A provider may deliver its events in any order and any number of times; the projection is what
a case is believed to be worth after them.

What the projection ends with depends on which events were delivered and on nothing else
(`deliveries_converge`), as long as the events tell one story: deliveries of one event are the same, and
captures of one payment are of one amount.
-/

namespace RecoveryOS.Reliability

/-- `SimulatedDelivery`, with the parts of the payload that are read; an amount that is no integer, or a
`bool`, is none. -/
structure SimulatedDelivery where
  providerEventId : String
  occurredAt : Instant
  authoritativePaymentState : PaymentState
  paymentId : String
  amountPaise : Option ℤ
  deriving DecidableEq

namespace SimulatedDelivery

def Captured (d : SimulatedDelivery) : Prop := d.authoritativePaymentState = .captured

instance : DecidablePred Captured := fun d =>
  inferInstanceAs (Decidable (d.authoritativePaymentState = .captured))

end SimulatedDelivery

structure DeliveryEffect where
  providerEventId : String
  duplicate : Bool
  stale : Bool
  paymentState : PaymentState
  revenueRecorded : Bool
  deriving DecidableEq

/-- `PaymentEventProjection`. -/
structure PaymentEventProjection where
  paymentState : PaymentState := .unknown
  arrearsCollectedPaise : ℤ := 0
  latestOccurredAt : Option Instant := none
  providerEventIds : Finset String := ∅
  recognizedPaymentIds : Finset String := ∅

namespace PaymentEventProjection

def revenueEntries (p : PaymentEventProjection) : ℕ := p.recognizedPaymentIds.card

section
variable (p : PaymentEventProjection) (d : SimulatedDelivery)

def isStale : Bool := p.latestOccurredAt.any fun t => decide (d.occurredAt < t)

/-- The projection once the event is noted, with its payment state. -/
def note : PaymentEventProjection :=
  { p with
    providerEventIds := insert d.providerEventId p.providerEventIds
    latestOccurredAt := if p.isStale d then p.latestOccurredAt else some d.occurredAt
    paymentState := if p.paymentState ≠ .captured ∨ d.Captured then d.authoritativePaymentState
      else p.paymentState }

/-- `apply`: its effect, or `none` where it raises a `TypeError`; what was noted by then stays. -/
def apply : Option DeliveryEffect × PaymentEventProjection :=
  if d.providerEventId ∈ p.providerEventIds then
    (some ⟨d.providerEventId, true, false, p.paymentState, false⟩, p)
  else
    let noted := p.note d
    let stale := p.isStale d
    if d.Captured ∧ d.paymentId ∉ p.recognizedPaymentIds then
      let recognized :=
        { noted with recognizedPaymentIds := insert d.paymentId p.recognizedPaymentIds }
      match d.amountPaise with
      | none => (none, recognized)
      | some amount =>
        (some ⟨d.providerEventId, false, stale, noted.paymentState, true⟩,
          { recognized with arrearsCollectedPaise := p.arrearsCollectedPaise + amount })
    else (some ⟨d.providerEventId, false, stale, noted.paymentState, false⟩, noted)

end

/-- The projection after a sequence of deliveries. -/
def run (deliveries : List SimulatedDelivery) (p : PaymentEventProjection) : PaymentEventProjection :=
  deliveries.foldl (fun p d => (p.apply d).2) p

/-! ## What a delivery leaves -/

section
variable (p : PaymentEventProjection) (d : SimulatedDelivery)

lemma apply_of_mem (h : d.providerEventId ∈ p.providerEventIds) : (p.apply d).2 = p := by
  rw [apply, if_pos h]

lemma apply_of_counted (h : d.providerEventId ∉ p.providerEventIds) (hc : d.Captured)
    (hp : d.paymentId ∉ p.recognizedPaymentIds) : (p.apply d).2 =
      { p.note d with
        recognizedPaymentIds := insert d.paymentId p.recognizedPaymentIds
        arrearsCollectedPaise := p.arrearsCollectedPaise + d.amountPaise.getD 0 } := by
  rw [apply, if_neg h]
  simp only [if_pos (And.intro hc hp)]
  cases d.amountPaise with
  | none => simp only [Option.getD_none, add_zero, note]
  | some amount => rfl

lemma apply_of_not_counted (h : d.providerEventId ∉ p.providerEventIds)
    (hc : ¬ (d.Captured ∧ d.paymentId ∉ p.recognizedPaymentIds)) : (p.apply d).2 = p.note d := by
  rw [apply, if_neg h]
  simp only [if_neg hc]

end

/-! ## What a sequence of deliveries leaves -/

/-- The deliveries tell one story. -/
structure Consistent (deliveries : List SimulatedDelivery) : Prop where
  event : ∀ d ∈ deliveries, ∀ e ∈ deliveries, d.providerEventId = e.providerEventId →
    d.authoritativePaymentState = e.authoritativePaymentState ∧ d.paymentId = e.paymentId
  payment : ∀ d ∈ deliveries, ∀ e ∈ deliveries, d.Captured → e.Captured →
    d.paymentId = e.paymentId → d.amountPaise = e.amountPaise

/-- The payments that were captured, by the deliveries. -/
def capturedPayments (deliveries : List SimulatedDelivery) : Finset String :=
  ((deliveries.filter fun d => d.Captured).map (·.paymentId)).toFinset

/-- The amount of a captured payment. -/
def amountOf (deliveries : List SimulatedDelivery) (paymentId : String) : ℤ :=
  ((deliveries.find? fun d => d.Captured ∧ d.paymentId = paymentId).bind (·.amountPaise)).getD 0

/-- What the projection says of the deliveries it has seen. -/
structure Reflects (deliveries : List SimulatedDelivery) (p : PaymentEventProjection) : Prop where
  events : p.providerEventIds = (deliveries.map (·.providerEventId)).toFinset
  payments : p.recognizedPaymentIds = capturedPayments deliveries
  arrears : p.arrearsCollectedPaise = ∑ id ∈ capturedPayments deliveries, amountOf deliveries id
  captured : (∃ d ∈ deliveries, d.Captured) → p.paymentState = .captured
  state : (∀ d ∈ deliveries, ¬ d.Captured) → deliveries ≠ [] →
    ∃ d ∈ deliveries, p.paymentState = d.authoritativePaymentState
  initial : deliveries = [] → p.paymentState = .unknown

section
variable {deliveries : List SimulatedDelivery} {p : PaymentEventProjection} {d : SimulatedDelivery}
  {id : String}

lemma mem_capturedPayments :
    id ∈ capturedPayments deliveries ↔ ∃ d ∈ deliveries, d.Captured ∧ d.paymentId = id := by
  simp only [capturedPayments, List.mem_toFinset, List.mem_map, List.mem_filter, decide_eq_true_eq,
    and_assoc]

lemma amountOf_eq (h : Consistent deliveries) (hd : d ∈ deliveries) (hc : d.Captured) :
    amountOf deliveries d.paymentId = d.amountPaise.getD 0 := by
  unfold amountOf
  cases hf : deliveries.find? fun e => e.Captured ∧ e.paymentId = d.paymentId with
  | none => exact absurd (decide_eq_true ⟨hc, rfl⟩) (List.find?_eq_none.mp hf d hd)
  | some e =>
    have he := List.find?_some hf
    rw [decide_eq_true_eq] at he
    rw [Option.bind_some, h.payment e (List.mem_of_find?_eq_some hf) d hd he.1 hc he.2]

/-- A payment keeps the amount it was first captured with. -/
lemma amountOf_append (h : id ∈ capturedPayments deliveries) :
    amountOf (deliveries ++ [d]) id = amountOf deliveries id := by
  obtain ⟨e, he, hc⟩ := mem_capturedPayments.mp h
  unfold amountOf
  cases hf : deliveries.find? fun e => e.Captured ∧ e.paymentId = id with
  | none => exact absurd (decide_eq_true hc) (List.find?_eq_none.mp hf e he)
  | some x => rw [List.find?_append, hf, Option.some_or]

lemma sum_amountOf_append : ∑ id ∈ capturedPayments deliveries, amountOf (deliveries ++ [d]) id =
    ∑ id ∈ capturedPayments deliveries, amountOf deliveries id :=
  Finset.sum_congr rfl fun _ h => amountOf_append h

lemma capturedPayments_append_of_captured (h : d.Captured) :
    capturedPayments (deliveries ++ [d]) = insert d.paymentId (capturedPayments deliveries) := by
  ext id
  simp only [mem_capturedPayments, Finset.mem_insert, List.mem_append, List.mem_singleton]
  constructor
  · rintro ⟨e, he | rfl, hc, rfl⟩
    · exact .inr ⟨e, he, hc, rfl⟩
    · exact .inl rfl
  · rintro (rfl | ⟨e, he, hc, rfl⟩)
    · exact ⟨d, .inr rfl, h, rfl⟩
    · exact ⟨e, .inl he, hc, rfl⟩

lemma capturedPayments_append_of_not (h : ¬ d.Captured) :
    capturedPayments (deliveries ++ [d]) = capturedPayments deliveries := by
  ext id
  simp only [mem_capturedPayments, List.mem_append, List.mem_singleton]
  constructor
  · rintro ⟨e, he | rfl, hc, rfl⟩
    · exact ⟨e, he, hc, rfl⟩
    · exact absurd hc h
  · rintro ⟨e, he, hc, rfl⟩
    exact ⟨e, .inl he, hc, rfl⟩

lemma events_append : ((deliveries ++ [d]).map (·.providerEventId)).toFinset =
    insert d.providerEventId (deliveries.map (·.providerEventId)).toFinset := by
  ext id
  simp only [List.map_append, List.map_singleton, List.toFinset_append, Finset.mem_union,
    Finset.mem_insert, List.mem_toFinset, List.mem_singleton]
  exact or_comm

/-- A delivery of an event that was seen says nothing new. -/
lemma Reflects.again (h : Reflects deliveries p) (hs : Consistent (deliveries ++ [d]))
    {e : SimulatedDelivery} (he : e ∈ deliveries) (hid : d.providerEventId = e.providerEventId) :
    Reflects (deliveries ++ [d]) p := by
  obtain ⟨hstate, hpayment⟩ := hs.event d (by simp) e (by simp [he]) hid
  have hcaptured : d.Captured ↔ e.Captured := by
    unfold SimulatedDelivery.Captured
    rw [hstate]
  have hsame : capturedPayments (deliveries ++ [d]) = capturedPayments deliveries := by
    by_cases hc : d.Captured
    · rw [capturedPayments_append_of_captured hc, Finset.insert_eq_self, mem_capturedPayments]
      exact ⟨e, he, hcaptured.mp hc, hpayment.symm⟩
    · exact capturedPayments_append_of_not hc
  refine ⟨?_, ?_, ?_, ?_, ?_, ?_⟩
  · rw [events_append, h.events, eq_comm, Finset.insert_eq_self, List.mem_toFinset, hid]
    exact List.mem_map_of_mem he
  · rw [hsame, h.payments]
  · rw [hsame, sum_amountOf_append, h.arrears]
  · rintro ⟨x, hx, hc⟩
    rw [List.mem_append, List.mem_singleton] at hx
    rcases hx with hx | rfl
    · exact h.captured ⟨x, hx, hc⟩
    · exact h.captured ⟨e, he, hcaptured.mp hc⟩
  · intro hnone _
    obtain ⟨x, hx, hx'⟩ := h.state (fun x hx => hnone x (List.mem_append_left _ hx))
      (List.ne_nil_of_mem he)
    exact ⟨x, List.mem_append_left _ hx, hx'⟩
  · intro hnil
    simp at hnil

/-- The payment state after an event that is new. -/
lemma Reflects.noted (h : Reflects deliveries p) : ((∃ x ∈ deliveries ++ [d], x.Captured) →
      (p.note d).paymentState = .captured) ∧
    ((∀ x ∈ deliveries ++ [d], ¬ x.Captured) → ∃ x ∈ deliveries ++ [d],
      (p.note d).paymentState = x.authoritativePaymentState) := by
  have hd : d ∈ deliveries ++ [d] := by simp
  constructor
  · rintro ⟨x, hx, hc⟩
    by_cases hdc : d.Captured
    · rw [note, if_pos (.inr hdc)]
      exact hdc
    · rw [List.mem_append, List.mem_singleton] at hx
      rcases hx with hx | rfl
      · have hstate := h.captured ⟨x, hx, hc⟩
        simp only [note, hstate, ne_eq, not_true_eq_false, false_or, if_neg hdc]
      · exact absurd hc hdc
  · intro hnone
    refine ⟨d, hd, ?_⟩
    have hstate : p.paymentState ≠ .captured := by
      by_cases hnil : deliveries = []
      · rw [h.initial hnil]
        decide
      · obtain ⟨x, hx, hx'⟩ := h.state (fun x hx => hnone x (List.mem_append_left _ hx)) hnil
        rw [hx']
        exact hnone x (List.mem_append_left _ hx)
    rw [note, if_pos (.inl hstate)]

/-- One more delivery. -/
lemma Reflects.apply (h : Reflects deliveries p) (hs : Consistent (deliveries ++ [d])) :
    Reflects (deliveries ++ [d]) (p.apply d).2 := by
  by_cases hseen : d.providerEventId ∈ p.providerEventIds
  · rw [apply_of_mem p d hseen]
    rw [h.events, List.mem_toFinset, List.mem_map] at hseen
    obtain ⟨e, he, hid⟩ := hseen
    exact h.again hs he hid.symm
  · obtain ⟨hcaptured, hstate⟩ := h.noted (d := d)
    have hevents : insert d.providerEventId p.providerEventIds =
        ((deliveries ++ [d]).map (·.providerEventId)).toFinset := by
      rw [events_append, h.events]
    by_cases hcount : d.Captured ∧ d.paymentId ∉ p.recognizedPaymentIds
    · obtain ⟨hc, hnew⟩ := hcount
      rw [apply_of_counted p d hseen hc hnew]
      rw [h.payments] at hnew
      refine ⟨hevents, ?_, ?_, hcaptured, fun hnone _ => hstate hnone, fun hnil => by simp at hnil⟩
      · rw [capturedPayments_append_of_captured hc, h.payments]
      · rw [capturedPayments_append_of_captured hc, Finset.sum_insert hnew, sum_amountOf_append,
          amountOf_eq hs (by simp) hc, h.arrears, add_comm]
    · rw [apply_of_not_counted p d hseen hcount]
      have hsame : capturedPayments (deliveries ++ [d]) = capturedPayments deliveries := by
        by_cases hc : d.Captured
        · have hmem : d.paymentId ∈ p.recognizedPaymentIds := by
            by_contra hnew
            exact hcount ⟨hc, hnew⟩
          rw [capturedPayments_append_of_captured hc, Finset.insert_eq_self, ← h.payments]
          exact hmem
        · exact capturedPayments_append_of_not hc
      refine ⟨hevents, ?_, ?_, hcaptured, fun hnone _ => hstate hnone, fun hnil => by simp at hnil⟩
      · rw [hsame]
        exact h.payments
      · rw [hsame, sum_amountOf_append]
        exact h.arrears

lemma Consistent.of_subset {deliveries' : List SimulatedDelivery} (h : Consistent deliveries)
    (hsub : ∀ d ∈ deliveries', d ∈ deliveries) : Consistent deliveries' where
  event d hd e he := h.event d (hsub d hd) e (hsub e he)
  payment d hd e he := h.payment d (hsub d hd) e (hsub e he)

/-- All the deliveries that are left. -/
lemma Reflects.run : ∀ (rest : List SimulatedDelivery) {seen : List SimulatedDelivery}
    {p : PaymentEventProjection}, Consistent (seen ++ rest) → Reflects seen p →
    Reflects (seen ++ rest) (run rest p)
  | [], seen, p, _, h => by
    rw [List.append_nil]
    exact h
  | d :: rest, seen, p, hs, h => by
    have hsplit : seen ++ d :: rest = seen ++ [d] ++ rest := by simp
    rw [hsplit] at hs ⊢
    have hseen : Consistent (seen ++ [d]) :=
      hs.of_subset fun x hx => List.mem_append_left _ hx
    exact Reflects.run rest hs (h.apply hseen)

lemma run_reflects (hs : Consistent deliveries) : Reflects deliveries (run deliveries {}) :=
  Reflects.run deliveries (p := {}) (show Consistent ([] ++ deliveries) from hs)
    ⟨rfl, rfl, rfl, fun ⟨_, hx, _⟩ => absurd hx List.not_mem_nil, fun _ h => absurd rfl h, fun _ => rfl⟩

end

/-- However often events are delivered, and in whatever order, every captured payment counts once, with
its amount, and a capture that was delivered stands. -/
theorem deliveries_converge {xs ys : List SimulatedDelivery} (hs : Consistent xs)
    (hsame : ∀ d, d ∈ xs ↔ d ∈ ys) :
    (run xs {}).providerEventIds = (run ys {}).providerEventIds ∧
      (run xs {}).revenueEntries = (run ys {}).revenueEntries ∧
      (run xs {}).arrearsCollectedPaise = (run ys {}).arrearsCollectedPaise ∧
      ((∃ d ∈ xs, d.Captured) →
        (run xs {}).paymentState = .captured ∧ (run ys {}).paymentState = .captured) := by
  have hs' : Consistent ys := hs.of_subset fun d hd => (hsame d).mpr hd
  have hx := run_reflects hs
  have hy := run_reflects hs'
  have hpayments : capturedPayments xs = capturedPayments ys := by
    ext id
    simp only [mem_capturedPayments, hsame]
  refine ⟨?_, ?_, ?_, fun hc => ⟨hx.captured hc, hy.captured ?_⟩⟩
  · rw [hx.events, hy.events]
    ext id
    simp only [List.mem_toFinset, List.mem_map, hsame]
  · rw [revenueEntries, revenueEntries, hx.payments, hy.payments, hpayments]
  · rw [hx.arrears, hy.arrears, hpayments]
    refine Finset.sum_congr rfl fun id hid => ?_
    obtain ⟨d, hd, hc, rfl⟩ := mem_capturedPayments.mp hid
    rw [amountOf_eq hs ((hsame d).mpr hd) hc, amountOf_eq hs' hd hc]
  · obtain ⟨d, hd, hcaptured⟩ := hc
    exact ⟨d, (hsame d).mp hd, hcaptured⟩

def sampleFailure : SimulatedDelivery := ⟨"evt_failed", 0, .failed, "pay_1", some 149900⟩

def sampleCapture : SimulatedDelivery := ⟨"evt_captured", 60, .captured, "pay_1", some 149900⟩

lemma sample_mem {d : SimulatedDelivery}
    (h : d ∈ [sampleCapture, sampleFailure, sampleFailure, sampleCapture]) :
    d = sampleFailure ∨ d = sampleCapture := by
  simp only [List.mem_cons, List.not_mem_nil, or_false] at h
  rcases h with rfl | rfl | rfl | rfl
  · exact .inr rfl
  · exact .inl rfl
  · exact .inl rfl
  · exact .inr rfl

lemma sample_consistent :
    Consistent [sampleCapture, sampleFailure, sampleFailure, sampleCapture] := by
  refine ⟨fun d hd e he hid => ?_, fun d hd e he _ _ _ => ?_⟩
  · rcases sample_mem hd with rfl | rfl <;> rcases sample_mem he with rfl | rfl
    · exact ⟨rfl, rfl⟩
    · exact absurd hid (by decide)
    · exact absurd hid (by decide)
    · exact ⟨rfl, rfl⟩
  · rcases sample_mem hd with rfl | rfl <;> rcases sample_mem he with rfl | rfl <;> rfl

/-- The failure and the capture, each delivered twice, against each delivered once. -/
theorem deliveries_converge_sample :
    (run [sampleCapture, sampleFailure, sampleFailure, sampleCapture] {}).revenueEntries =
      (run [sampleFailure, sampleCapture] {}).revenueEntries :=
  (deliveries_converge sample_consistent fun d => by
    simp only [List.mem_cons, List.not_mem_nil, or_false]
    tauto).2.1

/-! ## One payment -/

section
variable {deliveries : List SimulatedDelivery} {paymentId : String} {amount : ℤ}

/-- The deliveries are all of one payment, with one amount. -/
def OfPayment (paymentId : String) (amount : ℤ) (deliveries : List SimulatedDelivery) : Prop :=
  ∀ d ∈ deliveries, d.paymentId = paymentId ∧ d.amountPaise = some amount

lemma capturedPayments_of_captured (h : OfPayment paymentId amount deliveries)
    (hc : ∃ d ∈ deliveries, d.Captured) : capturedPayments deliveries = {paymentId} := by
  obtain ⟨d, hd, hd'⟩ := hc
  ext id
  rw [mem_capturedPayments, Finset.mem_singleton]
  constructor
  · rintro ⟨e, he, -, rfl⟩
    exact (h e he).1
  · rintro rfl
    exact ⟨d, hd, hd', (h d hd).1⟩

lemma capturedPayments_of_none (hc : ∀ d ∈ deliveries, ¬ d.Captured) :
    capturedPayments deliveries = ∅ := by
  rw [Finset.eq_empty_iff_forall_notMem]
  intro id hid
  obtain ⟨d, hd, hd', -⟩ := mem_capturedPayments.mp hid
  exact hc d hd hd'

/-- A payment that was captured counts once. -/
lemma run_of_captured (hs : Consistent deliveries) (h : OfPayment paymentId amount deliveries)
    (hc : ∃ d ∈ deliveries, d.Captured) : (run deliveries {}).paymentState = .captured ∧
      (run deliveries {}).revenueEntries = 1 ∧
      (run deliveries {}).arrearsCollectedPaise = amount := by
  have hr := run_reflects hs
  have hpayments := capturedPayments_of_captured h hc
  refine ⟨hr.captured hc, ?_, ?_⟩
  · rw [revenueEntries, hr.payments, hpayments, Finset.card_singleton]
  · obtain ⟨d, hd, hd'⟩ := hc
    rw [hr.arrears, hpayments, Finset.sum_singleton, ← (h d hd).1, amountOf_eq hs hd hd', (h d hd).2,
      Option.getD_some]

/-- Without a capture nothing is collected. -/
lemma run_of_none (hs : Consistent deliveries) (hc : ∀ d ∈ deliveries, ¬ d.Captured)
    (hne : deliveries ≠ []) :
    (∃ d ∈ deliveries, (run deliveries {}).paymentState = d.authoritativePaymentState) ∧
      (run deliveries {}).revenueEntries = 0 ∧
      (run deliveries {}).arrearsCollectedPaise = 0 := by
  have hr := run_reflects hs
  have hpayments := capturedPayments_of_none hc
  refine ⟨hr.state hc hne, ?_, ?_⟩
  · rw [revenueEntries, hr.payments, hpayments, Finset.card_empty]
  · rw [hr.arrears, hpayments, Finset.sum_empty]

end

end PaymentEventProjection

/-! ## The scenarios -/

inductive FailureScenario where
  | duplicateWebhook
  | outOfOrderWebhook
  | lateSuccess
  | changedAuthoritativePaymentState
  deriving DecidableEq

/-- The identifiers that `_stable_id` makes of a seed and a scenario; its two events differ. -/
structure ScenarioIds where
  paymentId : String
  failedEventId : String
  capturedEventId : String
  events_ne : failedEventId ≠ capturedEventId

structure SimulationCase where
  paymentId : String
  amountPaise : ℤ
  deliveries : List SimulatedDelivery
  expectedFinalPaymentState : PaymentState
  expectedRevenueEntries : ℕ

section
variable (scenario : FailureScenario) (ids : ScenarioIds) (baseTime : Instant) (amountPaise : ℤ)

/-- `_delivery` of a scenario. -/
def scenarioDelivery (providerEventId : String) (occurredAt : Instant) (authoritative : PaymentState) :
    SimulatedDelivery :=
  ⟨providerEventId, occurredAt, authoritative, ids.paymentId, some amountPaise⟩

def failedAt : Instant := baseTime

def capturedAt : Instant := failedAt baseTime + 45 * 60 * 1000000

/-- The deliveries of a scenario, the final state and the number of revenue entries it expects. -/
def scenarioDeliveries : List SimulatedDelivery × PaymentState × ℕ :=
  let failed := scenarioDelivery ids amountPaise ids.failedEventId (failedAt baseTime)
  let captured := scenarioDelivery ids amountPaise ids.capturedEventId (capturedAt baseTime)
  match scenario with
  | .duplicateWebhook => ([failed .failed, failed .failed], .failed, 0)
  | .outOfOrderWebhook => ([captured .captured, failed .captured], .captured, 1)
  | .lateSuccess => ([failed .failed, captured .captured], .captured, 1)
  | .changedAuthoritativePaymentState => ([failed .captured], .captured, 1)

/-- `build_failure_scenario`; it refuses an amount that is not positive. -/
def buildFailureScenario : Option SimulationCase :=
  if amountPaise ≤ 0 then none
  else
    let built := scenarioDeliveries scenario ids baseTime amountPaise
    some ⟨ids.paymentId, amountPaise, built.1, built.2.1, built.2.2⟩

end

/-! ## What the scenarios expect -/

section
variable {scenario : FailureScenario} {ids : ScenarioIds} {baseTime : Instant} {amountPaise : ℤ}
  {case : SimulationCase} {d : SimulatedDelivery} {stream : List SimulatedDelivery}

/-- What the provider says of the payment in the failure event of a scenario. -/
def FailureScenario.failedEventState : FailureScenario → PaymentState
  | .duplicateWebhook | .lateSuccess => .failed
  | .outOfOrderWebhook | .changedAuthoritativePaymentState => .captured

lemma mem_scenarioDeliveries
    (h : d ∈ (scenarioDeliveries scenario ids baseTime amountPaise).1) :
    (d.paymentId = ids.paymentId ∧ d.amountPaise = some amountPaise) ∧
      (d.providerEventId = ids.failedEventId ∧
          d.authoritativePaymentState = scenario.failedEventState ∨
        d.providerEventId = ids.capturedEventId ∧ d.authoritativePaymentState = .captured) := by
  cases scenario <;> simp only [scenarioDeliveries, List.mem_cons, List.not_mem_nil, or_false] at h
  · rcases h with rfl | rfl <;> exact ⟨⟨rfl, rfl⟩, .inl ⟨rfl, rfl⟩⟩
  · rcases h with rfl | rfl
    · exact ⟨⟨rfl, rfl⟩, .inr ⟨rfl, rfl⟩⟩
    · exact ⟨⟨rfl, rfl⟩, .inl ⟨rfl, rfl⟩⟩
  · rcases h with rfl | rfl
    · exact ⟨⟨rfl, rfl⟩, .inl ⟨rfl, rfl⟩⟩
    · exact ⟨⟨rfl, rfl⟩, .inr ⟨rfl, rfl⟩⟩
  · subst h
    exact ⟨⟨rfl, rfl⟩, .inl ⟨rfl, rfl⟩⟩

/-- The deliveries of a scenario tell one story. -/
lemma scenario_consistent :
    PaymentEventProjection.Consistent (scenarioDeliveries scenario ids baseTime amountPaise).1 := by
  refine ⟨fun d hd e he hid => ?_, fun d hd e he _ _ _ => ?_⟩
  · obtain ⟨⟨hd, -⟩, hd'⟩ := mem_scenarioDeliveries hd
    obtain ⟨⟨he, -⟩, he'⟩ := mem_scenarioDeliveries he
    refine ⟨?_, hd.trans he.symm⟩
    rcases hd' with ⟨hdi, hds⟩ | ⟨hdi, hds⟩ <;> rcases he' with ⟨hei, hes⟩ | ⟨hei, hes⟩
    · rw [hds, hes]
    · exact absurd (hdi.symm.trans (hid.trans hei)) ids.events_ne
    · exact absurd (hei.symm.trans (hid.symm.trans hdi)) ids.events_ne
    · rw [hds, hes]
  · rw [(mem_scenarioDeliveries hd).1.2, (mem_scenarioDeliveries he).1.2]

/-- A scenario whose deliveries hold a capture expects it, once. -/
lemma scenario_expects (scenario : FailureScenario) (ids : ScenarioIds) (baseTime : Instant)
    (amountPaise : ℤ) :
    ((scenarioDeliveries scenario ids baseTime amountPaise).2 = (.captured, 1) ∧
        ∃ d ∈ (scenarioDeliveries scenario ids baseTime amountPaise).1, d.Captured) ∨
      ((scenarioDeliveries scenario ids baseTime amountPaise).2 = (.failed, 0) ∧
        ∀ d ∈ (scenarioDeliveries scenario ids baseTime amountPaise).1,
          d.authoritativePaymentState = .failed) := by
  cases scenario with
  | duplicateWebhook =>
    refine .inr ⟨rfl, fun d hd => ?_⟩
    simp only [scenarioDeliveries, List.mem_cons, List.not_mem_nil, or_false, or_self] at hd
    rw [hd]
    rfl
  | outOfOrderWebhook => exact .inl ⟨rfl, _, List.mem_cons_self, rfl⟩
  | lateSuccess => exact .inl ⟨rfl, _, List.mem_cons_of_mem _ List.mem_cons_self, rfl⟩
  | changedAuthoritativePaymentState => exact .inl ⟨rfl, _, List.mem_cons_self, rfl⟩

lemma scenarioDeliveries_ne_nil (scenario : FailureScenario) (ids : ScenarioIds) (baseTime : Instant)
    (amountPaise : ℤ) : (scenarioDeliveries scenario ids baseTime amountPaise).1 ≠ [] := by
  cases scenario <;> exact List.cons_ne_nil _ _

lemma buildFailureScenario_eq_some
    (h : buildFailureScenario scenario ids baseTime amountPaise = some case) :
    case.amountPaise = amountPaise ∧
      case.deliveries = (scenarioDeliveries scenario ids baseTime amountPaise).1 ∧
      (case.expectedFinalPaymentState, case.expectedRevenueEntries) =
        (scenarioDeliveries scenario ids baseTime amountPaise).2 := by
  unfold buildFailureScenario at h
  split_ifs at h
  injection h with h
  subst h
  exact ⟨rfl, rfl, rfl⟩

/-- However the deliveries of a scenario are repeated and reordered, the projection ends with the
payment state and the revenue entries that the scenario expects, and has collected its amount for each
entry. -/
theorem scenario_converges
    (h : buildFailureScenario scenario ids baseTime amountPaise = some case)
    (hstream : ∀ d, d ∈ stream ↔ d ∈ case.deliveries) :
    (PaymentEventProjection.run stream {}).paymentState = case.expectedFinalPaymentState ∧
      (PaymentEventProjection.run stream {}).revenueEntries = case.expectedRevenueEntries ∧
      (PaymentEventProjection.run stream {}).arrearsCollectedPaise =
        case.expectedRevenueEntries * case.amountPaise := by
  obtain ⟨hamount, hdeliveries, hexpected⟩ := buildFailureScenario_eq_some h
  rw [hdeliveries] at hstream
  have hs : PaymentEventProjection.Consistent stream :=
    scenario_consistent.of_subset fun d hd => (hstream d).mp hd
  have hof : PaymentEventProjection.OfPayment ids.paymentId amountPaise stream :=
    fun d hd => (mem_scenarioDeliveries ((hstream d).mp hd)).1
  rcases scenario_expects scenario ids baseTime amountPaise with ⟨hfinal, d, hd, hc⟩ | ⟨hfinal, hnone⟩
  · rw [hfinal, Prod.mk.injEq] at hexpected
    obtain ⟨hstate, hentries, harrears⟩ :=
      PaymentEventProjection.run_of_captured hs hof ⟨d, (hstream d).mpr hd, hc⟩
    refine ⟨hstate.trans hexpected.1.symm, hentries.trans hexpected.2.symm, ?_⟩
    rw [harrears, hexpected.2, hamount, Nat.cast_one, one_mul]
  · rw [hfinal, Prod.mk.injEq] at hexpected
    have hnone' : ∀ d ∈ stream, d.authoritativePaymentState = .failed :=
      fun d hd => hnone d ((hstream d).mp hd)
    have hne : stream ≠ [] := by
      obtain ⟨d, hd⟩ := List.exists_mem_of_ne_nil _
        (scenarioDeliveries_ne_nil scenario ids baseTime amountPaise)
      exact List.ne_nil_of_mem ((hstream d).mpr hd)
    have huncaptured : ∀ d ∈ stream, ¬ d.Captured := by
      intro d hd hc
      rw [SimulatedDelivery.Captured, hnone' d hd] at hc
      exact PaymentState.noConfusion hc
    obtain ⟨⟨d, hd, hstate⟩, hentries, harrears⟩ :=
      PaymentEventProjection.run_of_none hs huncaptured hne
    refine ⟨?_, hentries.trans hexpected.2.symm, ?_⟩
    · rw [hstate, hnone' d hd, hexpected.1]
    · rw [harrears, hexpected.2, Nat.cast_zero, zero_mul]

end

lemma sampleEvents_ne : "evt_failed" ≠ "evt_captured" := by decide

def sampleIds : ScenarioIds := ⟨"pay_1", "evt_failed", "evt_captured", sampleEvents_ne⟩

def sampleScenario : SimulationCase :=
  ⟨"pay_1", 149900, (scenarioDeliveries .lateSuccess sampleIds 0 149900).1, .captured, 1⟩

lemma sampleScenario_built :
    buildFailureScenario .lateSuccess sampleIds 0 149900 = some sampleScenario := rfl

/-- A late success whose deliveries arrive the other way round, one of them twice. -/
theorem scenario_converges_sample :
    (PaymentEventProjection.run (sampleScenario.deliveries.reverse ++ sampleScenario.deliveries)
      {}).arrearsCollectedPaise = 1 * 149900 :=
  (scenario_converges sampleScenario_built fun d => by
    rw [List.mem_append, List.mem_reverse, or_self]).2.2

end RecoveryOS.Reliability
