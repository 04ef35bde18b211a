import RecoveryOS.Webhook.Evolution

/-!
# The ledger of recovered revenue

Two totals count the same money: the amount paid of an invoice, and the arrears collected on the
case that was opened for it. The recognition records say which provider event and which provider
payment each part came from. `Balanced` is what ties the three together, and it survives every
sequence of deliveries and calls of `process_next`, whatever the provider answers and whichever
commits fail (`run_balanced`).

Three effects touch the ledger: a new invoice, a new case with nothing collected, and a recognition,
which moves the recognitions and both totals by the same amount.
-/

namespace RecoveryOS.Webhook

open Store Table

/-! ## What is kept -/

/-- What the recognitions of a case add up to. -/
def recognized (rows : List RevenueRecognitionRecord) (caseId : String) : ℤ :=
  ((rows.filter fun r => r.caseId = caseId).map (·.amountPaise)).sum

/-- Two recognitions of one event of a merchant's provider. -/
def SameEvent (r s : RevenueRecognitionRecord) : Prop :=
  r.merchantId = s.merchantId ∧ r.provider = s.provider ∧ r.providerEventId = s.providerEventId

/-- Two attempts at one payment of the provider. -/
def SameProviderPayment (p q : PaymentAttempt) : Prop :=
  p.merchantId = q.merchantId ∧ p.providerPaymentId.isSome = true ∧
    p.providerPaymentId = q.providerPaymentId

/-- Two recognitions of one payment of a merchant's provider. -/
def SamePayment (payments : List PaymentAttempt) (r s : RevenueRecognitionRecord) : Prop :=
  r.merchantId = s.merchantId ∧ r.provider = s.provider ∧
    ∃ p ∈ payments, ∃ q ∈ payments, r.paymentAttemptId = some p.id ∧
      s.paymentAttemptId = some q.id ∧ SameProviderPayment p q

structure Balanced (db : Database) : Prop where
  collected : ∀ c ∈ db.cases, recognized db.recognitions c.id = c.arrearsCollectedPaise
  collected_le : ∀ c ∈ db.cases, recognized db.recognitions c.id ≤ c.amountAtRiskPaise
  paid_le : ∀ i ∈ db.invoices, i.amountPaidPaise ≤ i.amountPaise
  event_once : db.recognitions.Pairwise fun r s => ¬ SameEvent r s
  payment_once : db.recognitions.Pairwise fun r s => ¬ SamePayment db.payments r s
  recovered_iff : ∀ c ∈ db.cases,
    c.caseRecovered = true ↔ c.amountAtRiskPaise ≤ c.arrearsCollectedPaise
  recovered_outcome : ∀ c ∈ db.cases, c.caseRecovered = true → c.caseOutcome = .recovered

/-- What the database itself guarantees of the tables that the ledger rests on. -/
structure Constrained (db : Database) : Prop where
  cases_keyed : Keyed (·.id) db.cases
  invoices_keyed : Keyed (·.id) db.invoices
  payments_keyed : Keyed (·.id) db.payments
  payment_unique : ∀ p ∈ db.payments, ∀ q ∈ db.payments, SameProviderPayment p q → p = q
  recognition_case : ∀ r ∈ db.recognitions, ∃ c ∈ db.cases, c.id = r.caseId
  recognition_payment : ∀ r ∈ db.recognitions, ∀ id, r.paymentAttemptId = some id →
    ∃ p ∈ db.payments, p.id = id

structure Sound (db : Database) : Prop where
  constrained : Constrained db
  balanced : Balanced db

/-! ## Writes to the tables -/

section
variable {db db' : Database}

/-- Writes to the other tables do not matter. -/
lemma Sound.congr (h : Sound db) (hi : db'.invoices = db.invoices) (hp : db'.payments = db.payments)
    (hc : db'.cases = db.cases) (hr : db'.recognitions = db.recognitions) : Sound db' := by
  obtain ⟨⟨k1, k2, k3, k4, k5, k6⟩, b1, b2, b3, b4, b5, b6, b7⟩ := h
  rw [← hi] at k2 b3
  rw [← hp] at k3 k4 k6 b5
  rw [← hc] at k1 k5 b1 b2 b6 b7
  rw [← hr] at k5 k6 b1 b2 b4 b5
  exact ⟨⟨k1, k2, k3, k4, k5, k6⟩, b1, b2, b3, b4, b5, b6, b7⟩

lemma recognized_append (rows : List RevenueRecognitionRecord) (r : RevenueRecognitionRecord)
    (caseId : String) :
    recognized (rows ++ [r]) caseId =
      recognized rows caseId + if r.caseId = caseId then r.amountPaise else 0 := by
  unfold recognized
  rw [List.filter_append, List.map_append, List.sum_append]
  by_cases h : r.caseId = caseId
  · simp [h]
  · simp [h]

lemma recognized_eq_zero {rows : List RevenueRecognitionRecord} {caseId : String}
    (h : ∀ r ∈ rows, r.caseId ≠ caseId) : recognized rows caseId = 0 := by
  have : rows.filter (fun r => r.caseId = caseId) = [] := by
    rw [List.filter_eq_nil_iff]
    intro r hr
    simpa using h r hr
  unfold recognized
  rw [this]
  rfl

/-- Attempts keep what they are attempts at; one that nothing refers to is free. -/
lemma SamePayment.of_payments {payments payments' : List PaymentAttempt}
    {r s : RevenueRecognitionRecord} (hs : SamePayment payments' r s)
    (hp : ∀ p ∈ payments',
      (∃ q ∈ payments, q.id = p.id ∧ q.merchantId = p.merchantId ∧
        q.providerPaymentId = p.providerPaymentId) ∨
      (r.paymentAttemptId ≠ some p.id ∧ s.paymentAttemptId ≠ some p.id)) :
    SamePayment payments r s := by
  obtain ⟨hm, hv, p, hpm, q, hqm, hrp, hsq, hpq⟩ := hs
  obtain ⟨p', hp', hpi, hpm', hpp⟩ | hfree := hp p hpm
  · obtain ⟨q', hq', hqi, hqm', hqp⟩ | hfree := hp q hqm
    · refine ⟨hm, hv, p', hp', q', hq', by rw [hpi]; exact hrp, by rw [hqi]; exact hsq, ?_⟩
      unfold SameProviderPayment at hpq ⊢
      rw [hpm', hqm', hpp, hqp]
      exact hpq
    · exact absurd hsq hfree.2
  · exact absurd hrp hfree.1

lemma Sound.putCase (h : Sound db) {c c' : RecoveryCase} (hc : c ∈ db.cases) (hid : c'.id = c.id)
    (hrisk : c'.amountAtRiskPaise = c.amountAtRiskPaise)
    (hcol : c'.arrearsCollectedPaise = c.arrearsCollectedPaise)
    (hrec : c'.caseRecovered = true ↔ c'.amountAtRiskPaise ≤ c'.arrearsCollectedPaise)
    (hout : c'.caseRecovered = true → c'.caseOutcome = .recovered) :
    Sound (db.putCase c') := by
  obtain ⟨hk, hb⟩ := h
  -- a row of the new table is the row written, or one that was there
  have hrow : ∀ x ∈ (db.putCase c').cases, x = c' ∨ x ∈ db.cases := fun x hx =>
    (mem_put hx).imp id And.left
  refine ⟨⟨hk.cases_keyed.put c', hk.invoices_keyed, hk.payments_keyed, hk.payment_unique, ?_,
    hk.recognition_payment⟩, ?_, ?_, hb.paid_le, hb.event_once, hb.payment_once, ?_, ?_⟩
  · intro r hr
    obtain ⟨x, hx, hxr⟩ := hk.recognition_case r hr
    by_cases hxc : x.id = c'.id
    · exact ⟨c', mem_put_self hx hxc, by rw [← hxc]; exact hxr⟩
    · exact ⟨x, mem_put_of_ne hx hxc, hxr⟩
  · intro x hx
    obtain rfl | hx := hrow x hx
    · rw [hid, hcol]
      exact hb.collected c hc
    · exact hb.collected x hx
  · intro x hx
    obtain rfl | hx := hrow x hx
    · rw [hid, hrisk]
      exact hb.collected_le c hc
    · exact hb.collected_le x hx
  · intro x hx
    obtain rfl | hx := hrow x hx
    · exact hrec
    · exact hb.recovered_iff x hx
  · intro x hx
    obtain rfl | hx := hrow x hx
    · exact hout
    · exact hb.recovered_outcome x hx

lemma Sound.insertInvoice (h : Sound db) {i : Invoice} (hi : db.insertInvoice i = some db') :
    Sound db' ∧ db'.cases = db.cases := by
  obtain ⟨rows, hrows, rfl⟩ := Option.map_eq_some_iff.mp hi
  obtain ⟨hcheck, hclash, rfl⟩ := insert_eq_some hrows
  simp only [Bool.and_eq_true, decide_eq_true_eq] at hcheck
  obtain ⟨hk, hb⟩ := h
  refine ⟨⟨⟨hk.cases_keyed, hk.invoices_keyed.append ?_, hk.payments_keyed, hk.payment_unique,
    hk.recognition_case, hk.recognition_payment⟩, hb.collected, hb.collected_le, ?_,
    hb.event_once, hb.payment_once, hb.recovered_iff, hb.recovered_outcome⟩, rfl⟩
  · intro x hx hxi
    have := hclash x hx
    simp [hxi] at this
  · intro x hx
    rcases List.mem_append.mp hx with hx | hx
    · exact hb.paid_le x hx
    · rw [List.mem_singleton.mp hx]
      exact hcheck.2

/-- A change of the attempts that keeps what each is an attempt at, and may add one. -/
lemma Sound.withPayments (h : Sound db) {payments : List PaymentAttempt}
    (hkeyed : Keyed (·.id) payments)
    (hunique : ∀ p ∈ payments, ∀ q ∈ payments, SameProviderPayment p q → p = q)
    (hold : ∀ p ∈ db.payments, ∃ q ∈ payments, q.id = p.id)
    (hnew : ∀ p ∈ payments,
      (∃ q ∈ db.payments, q.id = p.id ∧ q.merchantId = p.merchantId ∧
        q.providerPaymentId = p.providerPaymentId) ∨ ∀ q ∈ db.payments, q.id ≠ p.id) :
    Sound { db with payments := payments } := by
  obtain ⟨hk, hb⟩ := h
  -- nothing refers to an attempt that was not there
  have hfree : ∀ r ∈ db.recognitions, ∀ p : PaymentAttempt, (∀ q ∈ db.payments, q.id ≠ p.id) →
      r.paymentAttemptId ≠ some p.id := by
    intro r hr p hp hrp
    obtain ⟨q, hq, hqp⟩ := hk.recognition_payment r hr _ hrp
    exact hp q hq hqp
  refine ⟨⟨hk.cases_keyed, hk.invoices_keyed, hkeyed, hunique, hk.recognition_case, ?_⟩,
    hb.collected, hb.collected_le, hb.paid_le, hb.event_once, ?_, hb.recovered_iff,
    hb.recovered_outcome⟩
  · intro r hr id hid
    obtain ⟨p, hp, rfl⟩ := hk.recognition_payment r hr id hid
    exact hold p hp
  · refine hb.payment_once.imp_of_mem fun {r s} hr hs hn hsame => hn (hsame.of_payments ?_)
    intro p hp
    exact (hnew p hp).imp id fun hne => ⟨hfree r hr p hne, hfree s hs p hne⟩

lemma Sound.insertPayment (h : Sound db) {p : PaymentAttempt}
    (hp : db.insertPayment p = some db') :
    Sound db' ∧ db'.cases = db.cases := by
  obtain ⟨rows, hrows, rfl⟩ := Option.map_eq_some_iff.mp hp
  obtain ⟨-, hclash, rfl⟩ := insert_eq_some hrows
  simp only [Bool.or_eq_false_iff, decide_eq_false_iff_not] at hclash
  have hfresh : ∀ q ∈ db.payments, q.id ≠ p.id := fun q hq => (hclash q hq).1
  have hother : ∀ q ∈ db.payments, ¬ SameProviderPayment q p := by
    rintro q hq ⟨hm, hsome, he⟩
    have := (hclash q hq).2
    rw [he] at hsome
    simp [hm, hsome, he] at this
  refine ⟨h.withPayments (h.constrained.payments_keyed.append hfresh) ?_ ?_ ?_, rfl⟩
  · intro x hx y hy hxy
    rcases List.mem_append.mp hx with hx | hx <;> rcases List.mem_append.mp hy with hy | hy
    · exact h.constrained.payment_unique x hx y hy hxy
    · rw [List.mem_singleton.mp hy] at hxy
      exact absurd hxy (hother x hx)
    · rw [List.mem_singleton.mp hx] at hxy
      obtain ⟨hm, hsome, he⟩ := hxy
      exact absurd ⟨hm.symm, he ▸ hsome, he.symm⟩ (hother y hy)
    · rw [List.mem_singleton.mp hx, List.mem_singleton.mp hy]
  · intro q hq
    exact ⟨q, List.mem_append_left _ hq, rfl⟩
  · intro x hx
    rcases List.mem_append.mp hx with hx | hx
    · exact .inl ⟨x, hx, rfl, rfl, rfl⟩
    · rw [List.mem_singleton.mp hx]
      exact .inr hfresh

lemma Sound.putPayment (h : Sound db) {p p' : PaymentAttempt} (hp : p ∈ db.payments)
    (hid : p'.id = p.id) (hm : p'.merchantId = p.merchantId)
    (hpp : p'.providerPaymentId = p.providerPaymentId) : Sound (db.putPayment p') := by
  -- each new row stands for an old one with the same identity
  have hrow : ∀ x ∈ Table.put (·.id) db.payments p', ∃ y ∈ db.payments, y.id = x.id ∧
      y.merchantId = x.merchantId ∧ y.providerPaymentId = x.providerPaymentId := by
    intro x hx
    obtain rfl | ⟨hx, -⟩ := mem_put hx
    · exact ⟨p, hp, hid.symm, hm.symm, hpp.symm⟩
    · exact ⟨x, hx, rfl, rfl, rfl⟩
  have hkeyed := h.constrained.payments_keyed.put p'
  refine h.withPayments hkeyed ?_ ?_ fun x hx => .inl (hrow x hx)
  · intro x hx y hy hxy
    obtain ⟨x', hx', hxi, hxm, hxp⟩ := hrow x hx
    obtain ⟨y', hy', hyi, hym, hyp⟩ := hrow y hy
    have : x' = y' := by
      refine h.constrained.payment_unique x' hx' y' hy' ?_
      unfold SameProviderPayment at hxy ⊢
      rw [hxm, hym, hxp, hyp]
      exact hxy
    exact hkeyed.eq hx hy (by rw [← hxi, ← hyi, this])
  · intro q hq
    by_cases hqp : q.id = p'.id
    · exact ⟨p', mem_put_self hq hqp, hqp.symm⟩
    · exact ⟨q, mem_put_of_ne hq hqp, rfl⟩

/-- A new case has nothing collected, as no recognition can refer to it. -/
lemma Sound.insertCase (h : Sound db) {c : RecoveryCase} (hc : db.insertCase c = some db')
    (hzero : c.arrearsCollectedPaise = 0) (hrisk : 0 < c.amountAtRiskPaise)
    (hrec : c.caseRecovered = false) : Sound db' := by
  obtain ⟨rows, hrows, rfl⟩ := Option.map_eq_some_iff.mp hc
  obtain ⟨-, hclash, rfl⟩ := insert_eq_some hrows
  have hfresh : ∀ x ∈ db.cases, x.id ≠ c.id := by
    intro x hx hxc
    have := hclash x hx
    simp [hxc] at this
  obtain ⟨hk, hb⟩ := h
  have hsum : recognized db.recognitions c.id = 0 := by
    refine recognized_eq_zero fun r hr hrc => ?_
    obtain ⟨x, hx, hxr⟩ := hk.recognition_case r hr
    exact hfresh x hx (hxr.trans hrc)
  have hrow : ∀ x ∈ db.cases ++ [c], x ∈ db.cases ∨ x = c := fun x hx =>
    (List.mem_append.mp hx).imp id List.mem_singleton.mp
  refine ⟨⟨hk.cases_keyed.append hfresh, hk.invoices_keyed, hk.payments_keyed, hk.payment_unique,
    ?_, hk.recognition_payment⟩, ?_, ?_, hb.paid_le, hb.event_once, hb.payment_once, ?_, ?_⟩
  · intro r hr
    obtain ⟨x, hx, hxr⟩ := hk.recognition_case r hr
    exact ⟨x, List.mem_append_left _ hx, hxr⟩
  · intro x hx
    obtain hx | rfl := hrow x hx
    · exact hb.collected x hx
    · exact hsum.trans hzero.symm
  · intro x hx
    obtain hx | rfl := hrow x hx
    · exact hb.collected_le x hx
    · exact hsum.trans_le hrisk.le
  · intro x hx
    obtain hx | rfl := hrow x hx
    · exact hb.recovered_iff x hx
    · rw [hrec, hzero]
      simpa using hrisk
  · intro x hx
    obtain hx | rfl := hrow x hx
    · exact hb.recovered_outcome x hx
    · rw [hrec]
      simp

/-- The recognition, the invoice and the case move by the same amount. -/
lemma Sound.recognize (h : Sound db) {r : RevenueRecognitionRecord} {c c' : RecoveryCase}
    {i' : Invoice} {p : PaymentAttempt} (hr : db.insertRecognition r = some db')
    (hc : c ∈ db.cases) (hrc : r.caseId = c.id) (hrp : r.paymentAttemptId = some p.id)
    (hfirst : ∀ s ∈ db.recognitions, s.merchantId = r.merchantId → s.provider = r.provider →
      s.paymentAttemptId ≠ some p.id)
    (hrr : r.amountPaise ≤ c.amountAtRiskPaise - c.arrearsCollectedPaise)
    (hpaid : i'.amountPaidPaise ≤ i'.amountPaise) (hid : c'.id = c.id)
    (hrisk : c'.amountAtRiskPaise = c.amountAtRiskPaise)
    (hcol : c'.arrearsCollectedPaise = c.arrearsCollectedPaise + r.amountPaise)
    (hrec : c'.caseRecovered = true ↔ c'.amountAtRiskPaise ≤ c'.arrearsCollectedPaise)
    (hout : c'.caseRecovered = true → c'.caseOutcome = .recovered) :
    Sound ((db'.putInvoice i').putCase c') := by
  obtain ⟨rows, hrows, rfl⟩ := Option.map_eq_some_iff.mp hr
  obtain ⟨hcheck, hclash, rfl⟩ := insert_eq_some hrows
  simp only [Bool.and_eq_true, decide_eq_true_eq, List.any_eq_true] at hcheck
  obtain ⟨hk, hb⟩ := h
  have hnew : ∀ s ∈ db.recognitions, ¬ SameEvent s r := by
    rintro s hs ⟨hm, hv, he⟩
    have := hclash s hs
    simp [hm, hv, he] at this
  have hpay : ∀ s ∈ db.recognitions, ¬ SamePayment db.payments s r := by
    rintro s hs ⟨hm, hv, x, hx, y, hy, hsx, hry, hxy⟩
    refine hfirst s hs hm hv ?_
    rw [hsx, hk.payment_unique x hx y hy hxy, ← hry, hrp]
  have hold : ∀ x ∈ db.cases, x.id ≠ c.id →
      recognized (db.recognitions ++ [r]) x.id = recognized db.recognitions x.id := by
    intro x _ hx
    rw [recognized_append, if_neg (by rw [hrc]; exact hx.symm), add_zero]
  have hsum : recognized (db.recognitions ++ [r]) c'.id = c'.arrearsCollectedPaise := by
    rw [recognized_append, hid, if_pos hrc, hb.collected c hc, hcol]
  -- a case is the one written, or keeps its recognitions
  have hrow : ∀ x ∈ Table.put (·.id) db.cases c', x = c' ∨ (x ∈ db.cases ∧ x.id ≠ c.id) :=
    fun x hx => (mem_put hx).imp id fun hx => ⟨hx.1, by rw [← hid]; exact hx.2⟩
  have hcase : ∀ x ∈ db.cases, ∃ y ∈ Table.put (·.id) db.cases c', y.id = x.id := by
    intro x hx
    by_cases hxc : x.id = c'.id
    · exact ⟨c', mem_put_self hx hxc, hxc.symm⟩
    · exact ⟨x, mem_put_of_ne hx hxc, rfl⟩
  refine ⟨⟨hk.cases_keyed.put c', hk.invoices_keyed.put i', hk.payments_keyed, hk.payment_unique,
    ?_, ?_⟩, ?_, ?_, ?_, ?_, ?_, ?_, ?_⟩
  · intro s hs
    rcases List.mem_append.mp hs with hs | hs
    · obtain ⟨x, hx, hxs⟩ := hk.recognition_case s hs
      obtain ⟨y, hy, hyx⟩ := hcase x hx
      exact ⟨y, hy, hyx.trans hxs⟩
    · obtain ⟨y, hy, hyc⟩ := hcase c hc
      exact ⟨y, hy, by rw [List.mem_singleton.mp hs, hrc, hyc]⟩
  · intro s hs id hsid
    rcases List.mem_append.mp hs with hs | hs
    · exact hk.recognition_payment s hs id hsid
    · rw [List.mem_singleton.mp hs] at hsid
      have hp := hcheck.2
      rw [hsid] at hp
      have : ∃ x ∈ db.payments, x.id = id := by simpa [List.any_eq_true] using hp
      exact this
  · intro x hx
    obtain rfl | ⟨hx, hxc⟩ := hrow x hx
    · exact hsum
    · exact (hold x hx hxc).trans (hb.collected x hx)
  · intro x hx
    obtain rfl | ⟨hx, hxc⟩ := hrow x hx
    · refine hsum.trans_le ?_
      rw [hcol, hrisk]
      omega
    · exact (hold x hx hxc).trans_le (hb.collected_le x hx)
  · intro x hx
    obtain rfl | ⟨hx, -⟩ := mem_put hx
    · exact hpaid
    · exact hb.paid_le x hx
  · refine List.pairwise_append.mpr ⟨hb.event_once, List.pairwise_singleton _ _, fun s hs t ht => ?_⟩
    rw [List.mem_singleton.mp ht]
    exact hnew s hs
  · refine List.pairwise_append.mpr
      ⟨hb.payment_once, List.pairwise_singleton _ _, fun s hs t ht => ?_⟩
    rw [List.mem_singleton.mp ht]
    exact hpay s hs
  · intro x hx
    obtain rfl | ⟨hx, -⟩ := hrow x hx
    · exact hrec
    · exact hb.recovered_iff x hx
  · intro x hx
    obtain rfl | ⟨hx, -⟩ := hrow x hx
    · exact hout
    · exact hb.recovered_outcome x hx

end

/-! ## Every effect keeps the books -/

section
variable {db db' : Database}

lemma Sound.of_tables (h : Sound db) (hs : Core.SameTables db db') : Sound db' :=
  h.congr hs.invoices hs.payments hs.cases hs.recognitions

/-- The tables of the ledger that an insertion into another table leaves alone. -/
lemma Sound.of_insert (h : Sound db) {α : Type} {o : Option α} {f : α → Database}
    (hdb : o.map f = some db')
    (hf : ∀ a, (f a).invoices = db.invoices ∧ (f a).payments = db.payments ∧
      (f a).cases = db.cases ∧ (f a).recognitions = db.recognitions) : Sound db' := by
  obtain ⟨a, -, rfl⟩ := Option.map_eq_some_iff.mp hdb
  obtain ⟨hi, hp, hc, hr⟩ := hf a
  exact h.congr hi hp hc hr

lemma Sound.insertActionWithPolicy (h : Sound db) {a : RecoveryActionRecord}
    {p : PolicyDecisionRecord} (hdb : db.insertActionWithPolicy a p = some db') : Sound db' := by
  obtain ⟨db₁, ha, hp⟩ := Option.bind_eq_some_iff.mp hdb
  have h₁ : Sound db₁ := h.of_insert ha fun _ => ⟨rfl, rfl, rfl, rfl⟩
  exact h₁.of_insert hp fun _ => ⟨rfl, rfl, rfl, rfl⟩

lemma Sound.settle {c : RecoveryCase} (h : Sound (db.putCase c)) (t : Instant) :
    Sound (db.settle c t) := by
  unfold Database.settle
  split_ifs
  · exact h.congr rfl rfl rfl rfl
  · exact h

/-- The mark of an opt-out does not touch the money. -/
lemma Sound.mark (h : Sound db) (x : String) :
    Sound { db with cases := db.cases.map fun c =>
      if c.id = x then { c with contactDisposition := .optedOut } else c } := by
  obtain ⟨hk, hb⟩ := h
  -- a marked row has the money and the outcome of the row it was
  have hrow : ∀ y ∈ db.cases.map (fun c : RecoveryCase =>
      if c.id = x then { c with contactDisposition := .optedOut } else c), ∃ c ∈ db.cases,
      y.id = c.id ∧ y.arrearsCollectedPaise = c.arrearsCollectedPaise ∧
      y.amountAtRiskPaise = c.amountAtRiskPaise ∧ y.caseRecovered = c.caseRecovered ∧
      y.caseOutcome = c.caseOutcome := by
    intro y hy
    obtain ⟨c, hc, rfl⟩ := List.mem_map.mp hy
    refine ⟨c, hc, ?_⟩
    split_ifs <;> exact ⟨rfl, rfl, rfl, rfl, rfl⟩
  refine ⟨⟨?_, hk.invoices_keyed, hk.payments_keyed, hk.payment_unique, ?_,
    hk.recognition_payment⟩, ?_, ?_, hb.paid_le, hb.event_once, hb.payment_once, ?_, ?_⟩
  · unfold Keyed
    rw [List.map_map, List.map_congr_left (g := (·.id)) fun c _ => ?_]
    · exact hk.cases_keyed
    · simp only [Function.comp]
      split_ifs <;> rfl
  · intro r hr
    obtain ⟨c, hc, hcr⟩ := hk.recognition_case r hr
    refine ⟨_, List.mem_map_of_mem hc, ?_⟩
    split_ifs <;> exact hcr
  · intro y hy
    obtain ⟨c, hc, hid, hcol, -⟩ := hrow y hy
    rw [hid, hcol]
    exact hb.collected c hc
  · intro y hy
    obtain ⟨c, hc, hid, -, hrisk, -⟩ := hrow y hy
    rw [hid, hrisk]
    exact hb.collected_le c hc
  · intro y hy
    obtain ⟨c, hc, -, hcol, hrisk, hrec, -⟩ := hrow y hy
    rw [hrec, hrisk, hcol]
    exact hb.recovered_iff c hc
  · intro y hy
    obtain ⟨c, hc, -, -, -, hrec, hout⟩ := hrow y hy
    rw [hrec, hout]
    exact hb.recovered_outcome c hc

/-- An effect keeps the books. -/
theorem Sound.effect {W : Core.Scope} (he : Core.EffectOf W db db') (h : Sound db) : Sound db' := by
  cases he with
  | other hs => exact h.of_tables hs
  | event e hdb => exact h.of_insert hdb fun _ => ⟨rfl, rfl, rfl, rfl⟩
  | invoice i hdb => exact (h.insertInvoice hdb).1
  | payment p hdb => exact (h.insertPayment hdb).1
  | attempt hp hs => exact h.putPayment hp hs.id hs.merchantId hs.providerPaymentId
  | opened hdb hc => exact h.insertCase hdb hc.nothingCollected hc.atRisk hc.notRecovered
  | @noted c c' hc hn =>
    refine h.putCase hc hn.id hn.atRisk hn.collected ?_ ?_
    · rw [hn.recovered, hn.atRisk, hn.collected]
      exact h.balanced.recovered_iff c hc
    · rw [hn.recovered, hn.outcome]
      exact h.balanced.recovered_outcome c hc
  | captured t hc hcap =>
    refine Sound.settle (h.putCase hc hcap.id hcap.atRisk ?_ hcap.recovered hcap.outcome) t
    rw [hcap.collected, add_zero]
  | recognized t hr hrec =>
    obtain ⟨p, hp, hfirst⟩ := hrec.first
    have hcap := hrec.captured
    have hpaid := hrec.paid
    rw [← hrec.due] at hpaid
    exact Sound.settle (h.recognize hr hrec.mem hrec.caseId hp hfirst hrec.withinCase
      (hpaid.trans_le (min_le_left _ _)) hcap.id hcap.atRisk hcap.collected hcap.recovered
      hcap.outcome) t
  | marked x _ => exact h.mark x
  | @closed c c' t hc hcl _ =>
    -- an open case is not recovered, and closing it does not make it so
    have hnot : c.caseRecovered = false := by
      by_contra hrec
      have := h.balanced.recovered_outcome c hc (by simpa using hrec)
      rw [hcl.isOpen] at this
      cases this
    have hput : Sound (db.putCase c') := by
      refine h.putCase hc hcl.id hcl.atRisk hcl.collected ?_ ?_
      · rw [hcl.recovered, hcl.atRisk, hcl.collected]
        exact h.balanced.recovered_iff c hc
      · rw [hcl.recovered, hnot]
        simp
    exact hput.congr rfl rfl rfl rfl
  | added hdb hd => exact h.insertActionWithPolicy hdb
  | moved ha hm => exact h.congr rfl rfl rfl rfl
  | swept f hm => exact h.congr rfl rfl rfl rfl
  | stamped f hs => exact h.congr rfl rfl rfl rfl
  | consumed c hc => exact h.congr rfl rfl rfl rfl

theorem Sound.evolves {W : Core.Scope} (h : Sound db)
    (he : Core.EvolvesOf W db db') : Sound db' :=
  he.induct (fun he h => h.effect he) h

end

/-! ## Runs -/

/-- What happens to the outbox: a webhook is stored, or the processor is called. -/
inductive Step where
  | deliver (entry : WebhookInboxEntry) (message : OutboxMessage)
  | process (call : Call)

section
variable (platform : Platform)

def step (db : Database) : Step → Database
  | .deliver entry message =>
    { db with inbox := db.inbox ++ [entry], outbox := db.outbox ++ [message] }
  | .process call => (processNext platform call db).2

def run (db : Database) (steps : List Step) : Database := steps.foldl (step platform) db

lemma run_sound {db : Database} (h : Sound db) : ∀ steps, Sound (run platform db steps) := by
  intro steps
  induction steps generalizing db with
  | nil => exact h
  | cons s steps ih =>
    refine ih ?_
    cases s with
    | deliver entry message => exact h.congr rfl rfl rfl rfl
    | process call => exact h.evolves (processNext_evolves db)

/-- The books balance after every sequence of deliveries and calls. -/
theorem run_balanced {db : Database} (hk : Constrained db) (hb : Balanced db) (steps : List Step) :
    Balanced (run platform db steps) :=
  (run_sound platform ⟨hk, hb⟩ steps).balanced

end

/-- A failure, its capture, and the capture again after the signal was lost. -/
def sampleSteps : List Step :=
  let failed := sampleEvent "evt_1" "payment.failed" .failed 0
  let captured := sampleEvent "evt_2" "payment.captured" .captured 10
  [.deliver (sampleEntry failed) (sampleMessage failed), .process (sampleCall 5 true),
    .deliver (sampleEntry captured) (sampleMessage captured), .process (sampleCall 20 false),
    .process (sampleCall 400000000 true)]

theorem sampleSteps_balanced :
    Balanced (run samplePlatform sampleStore sampleSteps) ∧
      (run samplePlatform sampleStore sampleSteps).cases.map
        (fun c => (c.caseRecovered, c.arrearsCollectedPaise)) = [(true, 50000)] ∧
      (run samplePlatform sampleStore sampleSteps).outbox.map (·.attemptCount) = [1, 2] := by
  refine ⟨run_balanced samplePlatform ?_ ?_ sampleSteps, by decide +kernel, by decide +kernel⟩
  · constructor <;> simp [sampleStore, Keyed, SameProviderPayment]
  · constructor <;> simp [sampleStore]

end RecoveryOS.Webhook
