import RecoveryOS.Voice.Writers

/-!
# The progress of an attempt

What an attempt may go through (`Advanced`): its status follows the order of a call, a final status
stays but for the completion of a cancellation, and nothing that was recorded gets lost.

Only the callbacks compare a status with the one before it, and they compare it with the row as they
have read it. A start writes the reply of the provider over whatever is there by then. `Fits` says
of a statement, at the moment it is answered, that it writes over nothing newer than what it was
meant for; where all statements do, every attempt only advances (`attempts_advance`).
-/

namespace RecoveryOS.Voice

open Resume Store

/-! ## What an attempt may go through -/

/-- The order of a call; the final statuses come last. -/
def VoiceStatus.level : VoiceStatus → ℕ
  | .reserved | .uncertain => 0
  | .submitted => 1
  | .ringing => 2
  | .inProgress => 3
  | _ => 4

/-- The completion of a cancellation. -/
def VoiceStatus.completes : VoiceStatus → VoiceStatus → Bool
  | .cancelPending, .cancelUncertain => true
  | .cancelPending, .canceled => true
  | .cancelUncertain, .canceled => true
  | _, _ => false

def VoiceStatus.follows (s s' : VoiceStatus) : Bool :=
  decide (s = s') || VoiceStatus.completes s s' ||
    decide (VoiceStatus.level s < 4 ∧ VoiceStatus.level s ≤ VoiceStatus.level s')

/-- Some text is there. -/
def recorded (text : Option String) : Bool := text.any fun t => decide (t ≠ "")

structure Advanced (r r' : VoiceContactAttemptRecord) : Prop where
  status : VoiceStatus.follows r.status r'.status = true
  transcript : recorded r.transcript = true → recorded r'.transcript = true
  detectedIntent : r.detectedIntent.isSome = true → r'.detectedIntent.isSome = true
  disclosure : r.disclosureDeliveredAt.isSome = true → r'.disclosureDeliveredAt.isSome = true

/-- Every attempt is still there, and has advanced. -/
def Progress (db db' : Database) : Prop :=
  ∀ r ∈ db.voiceAttempts, ∃ r' ∈ db'.voiceAttempts, r'.id = r.id ∧ Advanced r r'

lemma follows_refl (s : VoiceStatus) : VoiceStatus.follows s s = true := by
  cases s <;> rfl

lemma follows_trans {s s' s'' : VoiceStatus} :
    VoiceStatus.follows s s' = true → VoiceStatus.follows s' s'' = true →
      VoiceStatus.follows s s'' = true := by
  cases s <;> cases s' <;> cases s'' <;> decide

lemma follows_of_canAdvance {s s' : VoiceStatus} :
    canAdvanceVoiceStatus s s' = true → VoiceStatus.follows s s' = true := by
  cases s <;> cases s' <;> decide

lemma Advanced.refl (r : VoiceContactAttemptRecord) : Advanced r r :=
  ⟨follows_refl _, id, id, id⟩

lemma Advanced.trans {r r' r'' : VoiceContactAttemptRecord} (h : Advanced r r')
    (h' : Advanced r' r'') : Advanced r r'' :=
  ⟨follows_trans h.status h'.status, fun ht => h'.transcript (h.transcript ht),
    fun hi => h'.detectedIntent (h.detectedIntent hi), fun hd => h'.disclosure (h.disclosure hd)⟩

lemma Progress.of_eq {db db' : Database} (he : db'.voiceAttempts = db.voiceAttempts) :
    Progress db db' := fun r hr => ⟨r, by rw [he]; exact hr, rfl, Advanced.refl r⟩

lemma Progress.trans {db db' db'' : Database} (h : Progress db db') (h' : Progress db' db'') :
    Progress db db'' := by
  intro r hr
  obtain ⟨r₁, hr₁, hid₁, ha₁⟩ := h r hr
  obtain ⟨r₂, hr₂, hid₂, ha₂⟩ := h' r₁ hr₁
  exact ⟨r₂, hr₂, hid₂.trans hid₁, ha₁.trans ha₂⟩

lemma Progress.run {db db' : Database} (hrun : Relation.ReflTransGen Progress db db') :
    Progress db db' := by
  induction hrun with
  | refl => exact .of_eq rfl
  | tail _ hstep ih => exact ih.trans hstep

/-! ## Writes that are in time -/

/-- What `save_attempt` writes over a row: a status that the row can advance to, and over nothing
that is recorded. A column that the session has not loaded otherwise is not written. -/
structure SaveFits (row loaded attempt : VoiceContactAttemptRecord) : Prop where
  status : attempt.status = loaded.status ∨ canAdvanceVoiceStatus row.status attempt.status = true
  transcript : recorded row.transcript = true → loaded.transcript = none
  detectedIntent : row.detectedIntent.isSome = true → loaded.detectedIntent = none
  disclosure : row.disclosureDeliveredAt.isSome = true → loaded.disclosureDeliveredAt = none

/-- What a callback writes over a row: a status that was admitted when the row was read can be
admitted still, and what is recorded is not blanked. -/
structure CallbackFits (row loaded : VoiceContactAttemptRecord) (changes : Changes) : Prop where
  status : ∀ s, changes.status = some s → canAdvanceVoiceStatus loaded.status s = true →
    s = loaded.status ∨ canAdvanceVoiceStatus row.status s = true
  transcript : changes.transcript = some "" → recorded row.transcript = true →
    loaded.transcript = some ""
  disclosure : changes.disclosureDeliveredAt = some none →
    row.disclosureDeliveredAt.isSome = true → loaded.disclosureDeliveredAt = none

/-- A statement that writes over nothing newer than what it was meant for. -/
def Fits (db : Database) : Statement → Prop
  | .contact (.updateAttempt loaded attempt) =>
    ∀ row ∈ db.voiceAttempts, row.id = attempt.id → SaveFits row loaded attempt
  | .writeCallback _ _ changes loaded =>
    ∀ row ∈ db.voiceAttempts, row.id = loaded.id → CallbackFits row loaded changes
  | .contact (.finalize attemptId _ false) =>
    ∀ row ∈ db.voiceAttempts, row.id = attemptId → row.status ≠ .canceled
  | _ => True

/-! ## What a statement does -/

/-- The attempt has a payment cancellation. -/
def VoiceStatus.cancelling (s : VoiceStatus) : Bool :=
  s ∈ [VoiceStatus.cancelPending, .cancelUncertain, .canceled]

/-- The receipt of a payment cancellation belongs to an attempt in cancellation, which has no
other. -/
structure Coherent (db : Database) : Prop where
  unique : Unique db
  cancelling : ∀ q ∈ db.voiceReceipts, q.provider = paymentCancellationReceiptProvider →
    ∃ a ∈ db.voiceAttempts, q.attemptId = some a.id ∧ VoiceStatus.cancelling a.status = true
  once : ∀ q ∈ db.voiceReceipts, ∀ q' ∈ db.voiceReceipts,
    q.provider = paymentCancellationReceiptProvider →
    q'.provider = paymentCancellationReceiptProvider → q.attemptId = q'.attemptId →
    q.providerEventId = q'.providerEventId

section Step
variable {db db' : Database}

lemma cancelling_of_follows {s s' : VoiceStatus} :
    VoiceStatus.cancelling s = true → VoiceStatus.follows s s' = true →
      VoiceStatus.cancelling s' = true := by
  cases s <;> cases s' <;> decide

/-- Progress keeps an attempt in cancellation, so only a new cancellation has to be looked at. -/
lemma Coherent.progress (hc : Coherent db) (hu : Unique db') (hp : Progress db db')
    (hr : ∀ q ∈ db'.voiceReceipts, q.provider = paymentCancellationReceiptProvider →
      q ∈ db.voiceReceipts) : Coherent db' := by
  refine ⟨hu, fun q hq hprov => ?_, fun q hq q' hq' hprov hprov' => ?_⟩
  · obtain ⟨a, ha, hid, hs⟩ := hc.cancelling q (hr q hq hprov) hprov
    obtain ⟨b, hb, hid', hadv⟩ := hp a ha
    exact ⟨b, hb, by rw [hid, hid'], cancelling_of_follows hs hadv.status⟩
  · exact hc.once q (hr q hq hprov) q' (hr q' hq' hprov') hprov hprov'

lemma updateAttempt_progress {loaded attempt : VoiceContactAttemptRecord}
    (h : ∀ row ∈ db.voiceAttempts, row.id = attempt.id →
      Advanced row (overwrite loaded attempt row)) :
    Progress db (updateAttempt db loaded attempt) := by
  intro r hr
  by_cases hid : r.id = attempt.id
  · exact ⟨overwrite loaded attempt r, List.mem_map.mpr ⟨r, hr, if_pos hid⟩, rfl, h r hr hid⟩
  · exact ⟨r, List.mem_map.mpr ⟨r, hr, if_neg hid⟩, rfl, Advanced.refl r⟩

/-- A column whose value is not the loaded one is written. -/
lemma assign_ind {α : Type} [DecidableEq α] {P : α → Prop} {loaded new current : α}
    (hkept : P current) (hwritten : new ≠ loaded → P new) : P (assign loaded new current) := by
  unfold assign
  split_ifs with h
  · exact hkept
  · exact hwritten h

lemma SaveFits.advanced {row loaded attempt : VoiceContactAttemptRecord}
    (hf : SaveFits row loaded attempt) (hb : Blank attempt) :
    Advanced row (overwrite loaded attempt row) where
  status := by
    refine assign_ind (P := fun s => VoiceStatus.follows row.status s = true) (follows_refl _) ?_
    intro hne
    exact follows_of_canAdvance (hf.status.resolve_left hne)
  transcript := by
    intro ht
    refine assign_ind (P := fun t => recorded t = true) ht fun hne => absurd ?_ hne
    rw [hb.transcript, hf.transcript ht]
  detectedIntent := by
    intro hi
    refine assign_ind (P := fun t : Option String => t.isSome = true) hi fun hne => absurd ?_ hne
    rw [hb.detectedIntent, hf.detectedIntent hi]
  disclosure := by
    intro hd
    refine assign_ind (P := fun t : Option Instant => t.isSome = true) hd fun hne => absurd ?_ hne
    rw [hb.disclosure, hf.disclosure hd]

lemma CallbackFits.advanced {row loaded : VoiceContactAttemptRecord} {changes : Changes}
    (hf : CallbackFits row loaded changes) :
    Advanced row (overwrite loaded (changes.apply loaded) row) where
  status := by
    refine assign_ind (P := fun s => VoiceStatus.follows row.status s = true) (follows_refl _) ?_
    intro hne
    simp only [Changes.apply] at hne ⊢
    cases hs : changes.status with
    | none => simp [hs] at hne
    | some s =>
      simp only [hs, Option.all_some, Option.getD_some] at hne ⊢
      by_cases hadv : canAdvanceVoiceStatus loaded.status s = true
      · rw [if_pos hadv] at hne ⊢
        exact follows_of_canAdvance ((hf.status s hs hadv).resolve_left hne)
      · rw [if_neg hadv] at hne
        exact absurd rfl hne
  transcript := by
    intro ht
    refine assign_ind (P := fun t => recorded t = true) ht fun hne => ?_
    simp only [Changes.apply] at hne ⊢
    cases hs : changes.transcript with
    | none => simp [hs] at hne
    | some text =>
      rw [hs, Option.some_or] at hne
      rw [Option.some_or]
      by_cases htext : text = ""
      · subst htext
        exact absurd (hf.transcript hs ht).symm hne
      · simpa [recorded] using htext
  detectedIntent := by
    intro hi
    refine assign_ind (P := fun t : Option String => t.isSome = true) hi fun hne => ?_
    simp only [Changes.apply] at hne ⊢
    cases hs : changes.detectedIntent with
    | none => simp [hs] at hne
    | some intent => rfl
  disclosure := by
    intro hd
    refine assign_ind (P := fun t : Option Instant => t.isSome = true) hd fun hne => ?_
    simp only [Changes.apply] at hne ⊢
    rcases hs : changes.disclosureDeliveredAt with _ | _ | at'
    · simp [hs] at hne
    · rw [hs, Option.getD_some] at hne
      exact absurd (hf.disclosure hs hd).symm hne
    · rfl

/-- A write of one row. -/
lemma putVoiceAttempt_progress (hu : Unique db) {a r : VoiceContactAttemptRecord}
    (ha : a ∈ db.voiceAttempts) (hid : r.id = a.id) (hadv : Advanced a r) :
    Progress db (db.putVoiceAttempt r) := by
  intro x hx
  by_cases hxr : x.id = r.id
  · obtain rfl : x = a := hu.ids.eq hx ha (hxr.trans hid)
    exact ⟨r, Table.mem_put_self hx hxr, hid, hadv⟩
  · exact ⟨x, Table.mem_put_of_ne hx hxr, rfl, Advanced.refl x⟩

lemma follows_cancelPending {s : VoiceStatus} :
    Database.activeVoice s = true → VoiceStatus.follows s .cancelPending = true := by
  cases s <;> decide

lemma not_cancelling_of_active {s : VoiceStatus} :
    Database.activeVoice s = true → VoiceStatus.cancelling s = false := by
  cases s <;> decide

/-- The claim of a cancellation ends an active call, which has no cancellation yet. -/
lemma claimActive_progress (hc : Coherent db) {caseId key : String} {claim : Claim}
    (h : (claim, db') = claimActive db caseId key) : Coherent db' ∧ Progress db db' := by
  have hu' : Unique db' := (claimActive_grows hc.unique h).1.2
  unfold claimActive at h
  cases hactive : activeAttempt db caseId with
  | none =>
    simp only [hactive, Prod.mk.injEq] at h
    obtain ⟨-, rfl⟩ := h
    exact ⟨hc, .of_eq rfl⟩
  | some record =>
    cases hinsert : db.insertVoiceReceipt
        ⟨paymentCancellationReceiptProvider, key, some record.id⟩ with
    | none =>
      simp only [hactive, hinsert, Prod.mk.injEq] at h
      obtain ⟨-, rfl⟩ := h
      exact ⟨hc, .of_eq rfl⟩
    | some claimed =>
      simp only [hactive, hinsert, Prod.mk.injEq] at h
      obtain ⟨-, rfl⟩ := h
      obtain ⟨rows, hrows, rfl⟩ := Option.map_eq_some_iff.mp hinsert
      obtain ⟨-, -, rfl⟩ := Table.insert_eq_some hrows
      obtain ⟨hmem, hcase⟩ := List.mem_filter.mp (Table.mem_of_first hactive)
      have hstatus : Database.activeVoice record.status = true := by
        simp only [decide_eq_true_eq] at hcase
        exact hcase.2
      -- the receipt of a cancellation would be one of an attempt that is no longer active
      have hfresh : ∀ q ∈ db.voiceReceipts, q.provider = paymentCancellationReceiptProvider →
          q.attemptId ≠ some record.id := by
        intro q hq hprov he
        obtain ⟨a, ha, hid, hs⟩ := hc.cancelling q hq hprov
        obtain rfl : a = record := hc.unique.ids.eq ha hmem (Option.some.inj (hid.symm.trans he))
        rw [not_cancelling_of_active hstatus] at hs
        cases hs
      have hreceived : Unique { db with voiceReceipts := db.voiceReceipts ++
          [⟨paymentCancellationReceiptProvider, key, some record.id⟩] } :=
        ⟨hc.unique.ids, hc.unique.keys⟩
      have hprogress := putVoiceAttempt_progress hreceived hmem rfl
        (r := { record with status := .cancelPending, disposition := some "PAYMENT_RECOVERED" })
        ⟨follows_cancelPending hstatus, id, id, id⟩
      refine ⟨⟨hu', fun q hq hprov => ?_, fun q hq q' hq' hprov hprov' he => ?_⟩, hprogress⟩
      · rcases List.mem_append.mp hq with hq | hq
        · obtain ⟨a, ha, hid, hs⟩ := hc.cancelling q hq hprov
          obtain ⟨b, hb, hid', hadv⟩ := hprogress a ha
          exact ⟨b, hb, by rw [hid, hid'], cancelling_of_follows hs hadv.status⟩
        · obtain rfl := List.mem_singleton.mp hq
          exact ⟨_, Table.mem_put_self hmem rfl, rfl, rfl⟩
      · rcases List.mem_append.mp hq with hq | hq
        · rcases List.mem_append.mp hq' with hq' | hq'
          · exact hc.once q hq q' hq' hprov hprov' he
          · obtain rfl := List.mem_singleton.mp hq'
            exact absurd he (hfresh q hq hprov)
        · obtain rfl := List.mem_singleton.mp hq
          rcases List.mem_append.mp hq' with hq' | hq'
          · exact absurd he.symm (hfresh q' hq' hprov')
          · rw [List.mem_singleton.mp hq']

lemma follows_finalized {s : VoiceStatus} {confirmed : Bool} :
    VoiceStatus.cancelling s = true → (confirmed = false → s ≠ .canceled) →
      VoiceStatus.follows s (if confirmed then .canceled else .cancelUncertain) = true := by
  cases s <;> cases confirmed <;> decide

/-- A finalization completes the cancellation of its attempt. -/
lemma finalize_progress (hc : Coherent db) {attemptId key : String} {confirmed : Bool}
    (hf : confirmed = false → ∀ row ∈ db.voiceAttempts, row.id = attemptId →
      row.status ≠ .canceled)
    (h : finalize db attemptId key confirmed = some db') : Coherent db' ∧ Progress db db' := by
  have hu' : Unique db' := (finalize_grows hc.unique h).2
  unfold finalize at h
  split at h
  · rename_i record receipt hrecord hreceipt
    by_cases hother : receipt.attemptId ≠ some attemptId
    · rw [if_pos hother] at h
      cases h
    rw [if_neg hother] at h
    obtain rfl := Option.some.inj h
    have hmem := List.mem_of_find?_eq_some hrecord
    have hid : record.id = attemptId := by simpa using List.find?_some hrecord
    have hprov : receipt.provider = paymentCancellationReceiptProvider ∧
        receipt.providerEventId = key := by simpa using List.find?_some hreceipt
    obtain ⟨a, ha, haid, hs⟩ :=
      hc.cancelling receipt (List.mem_of_find?_eq_some hreceipt) hprov.1
    obtain rfl : a = record := by
      rw [not_not.mp hother] at haid
      exact hc.unique.ids.eq ha hmem ((Option.some.inj haid).symm.trans hid.symm)
    have hprogress := putVoiceAttempt_progress (r := { a with
        status := if confirmed then .canceled else .cancelUncertain
        disposition := some "PAYMENT_RECOVERED", uncertainSubmission := !confirmed })
      hc.unique hmem rfl ⟨follows_finalized hs fun hfalse => hf hfalse a hmem hid, id, id, id⟩
    exact ⟨hc.progress hu' hprogress fun q hq _ => hq, hprogress⟩
  · simp at h

lemma insertVoiceAttempt_progress (hc : Coherent db) {attempt : VoiceContactAttemptRecord}
    (h : db.insertVoiceAttempt attempt = some db') : Coherent db' ∧ Progress db db' := by
  have hu' : Unique db' := (insertVoiceAttempt_grows hc.unique h).1.2
  obtain ⟨rows, hrows, rfl⟩ := Option.map_eq_some_iff.mp h
  obtain ⟨-, -, rfl⟩ := Table.insert_eq_some hrows
  have hprogress : Progress db { db with voiceAttempts := db.voiceAttempts ++ [attempt] } :=
    fun r hr => ⟨r, List.mem_append_left _ hr, rfl, Advanced.refl r⟩
  exact ⟨hc.progress hu' hprogress fun q hq _ => hq, hprogress⟩

lemma updateAttempt_coherent (hc : Coherent db) {loaded attempt : VoiceContactAttemptRecord}
    (hp : Progress db (updateAttempt db loaded attempt)) :
    Coherent (updateAttempt db loaded attempt) :=
  hc.progress (hc.unique.of_attemptKeys_eq (attemptKeys_updateAttempt loaded attempt)) hp
    fun _ hq _ => hq

/-- A callback adds a receipt of its own provider. -/
lemma writeCallback_progress (hc : Coherent db) {provider eventId : String} {changes : Changes}
    {loaded : VoiceContactAttemptRecord} {written : Written}
    (hprov : provider ≠ paymentCancellationReceiptProvider)
    (hf : ∀ row ∈ db.voiceAttempts, row.id = loaded.id → CallbackFits row loaded changes)
    (h : (written, db') = writeCallback db provider eventId changes loaded) :
    Coherent db' ∧ Progress db db' := by
  unfold writeCallback at h
  cases hinsert : db.insertVoiceReceipt ⟨provider, eventId, some loaded.id⟩ with
  | none =>
    simp only [hinsert, Prod.mk.injEq] at h
    obtain ⟨-, rfl⟩ := h
    exact ⟨hc, .of_eq rfl⟩
  | some received =>
    simp only [hinsert] at h
    obtain ⟨rows, hrows, rfl⟩ := Option.map_eq_some_iff.mp hinsert
    obtain ⟨-, -, rfl⟩ := Table.insert_eq_some hrows
    have hreceived : Coherent { db with voiceReceipts := db.voiceReceipts ++
        [⟨provider, eventId, some loaded.id⟩] } := by
      refine hc.progress ⟨hc.unique.ids, hc.unique.keys⟩ (.of_eq rfl) fun q hq hq' => ?_
      rcases List.mem_append.mp hq with hq | hq
      · exact hq
      · rw [List.mem_singleton.mp hq] at hq'
        exact absurd hq' hprov
    have hprogress : Progress db (updateAttempt { db with voiceReceipts := db.voiceReceipts ++
        [⟨provider, eventId, some loaded.id⟩] } loaded (changes.apply loaded)) :=
      updateAttempt_progress fun row hrow hid => (hf row hrow hid).advanced
    split_ifs at h
    · obtain ⟨-, rfl⟩ := Prod.mk.inj h
      exact ⟨hc, .of_eq rfl⟩
    · obtain ⟨-, rfl⟩ := Prod.mk.inj h
      exact ⟨updateAttempt_coherent hreceived hprogress, hprogress⟩
    · obtain ⟨-, rfl⟩ := Prod.mk.inj h
      exact ⟨hc, .of_eq rfl⟩

variable {service : VoiceContactService}

theorem Serve.progress (hc : Coherent db) {r : Statement} {x : r.Reply} (hg : r.WellFormed)
    (hs : Serve service db r x db') (hf : Fits db r) : Coherent db' ∧ Progress db db' := by
  have hsame : db' = db → Coherent db' ∧ Progress db db' := by
    rintro rfl
    exact ⟨hc, .of_eq rfl⟩
  cases r with
  | contact call =>
    cases call with
    | getByIdempotency key => exact hsame hs.2
    | loadSubject caseId => exact hsame hs.2
    | activeCount => exact hsame hs.2
    | callsToday now => exact hsame hs.2
    | sessionGet id => exact hsame hs.2
    | insertAttempt attempt =>
      rcases hs with ⟨-, hs⟩ | ⟨-, -, hs⟩
      · exact insertVoiceAttempt_progress hc hs
      · exact hsame hs
    | updateAttempt loaded attempt =>
      rcases hs with ⟨-, -, rfl⟩ | ⟨-, -, hs⟩
      · have hprogress : Progress db (updateAttempt db loaded attempt) :=
          updateAttempt_progress fun row hrow hid => (hf row hrow hid).advanced hg
        exact ⟨updateAttempt_coherent hc hprogress, hprogress⟩
      · exact hsame hs
    | startContact request => exact hsame hs
    | paymentCancellationReceipt key => exact hsame hs.2
    | claimActive caseId key => exact claimActive_progress hc hs
    | getAttempt id => exact hsame hs.2
    | cancelContact id key => exact hsame hs
    | finalize id key confirmed =>
      rcases hs with ⟨-, hs⟩ | ⟨-, -, hs⟩
      · refine finalize_progress hc ?_ hs
        rintro rfl
        exact hf
      · exact hsame hs
    | elsewhere =>
      refine ⟨hc.progress ?_ (.of_eq hs.1) fun q hq _ => hs.2 ▸ hq, .of_eq hs.1⟩
      exact hc.unique.of_attemptKeys_eq (by simp only [attemptKeys, hs.1])
  | refresh held => exact hsame hs.2
  | writeCallback provider eventId changes loaded => exact writeCallback_progress hc hg hf hs
  | fetchContact id => exact hsame hs

end Step

/-! ## The runs -/

variable (service : VoiceContactService)

/-- A step in which no statement writes over something newer. -/
def Traffic.FittingStep : Traffic → Traffic → Prop :=
  System.Step (fun db r x db' => Serve service db r x db' ∧ Fits db r) (Begins service)

lemma fitting_discipline :
    Discipline (fun db r x db' => Serve service db r x db' ∧ Fits db r) (Begins service) statements
      Coherent (fun _ _ => True) (fun _ _ => True) Progress where
  keeps _ hp := hp.sends
  told _ _ := trivial
  apart _ := ⟨trivial, trivial⟩
  own hc _ hg ha := by
    obtain ⟨hc', hp⟩ := Serve.progress hc hg ha.1 ha.2
    exact ⟨trivial, hc', trivial, hp⟩
  other _ _ _ _ _ _ _ := ⟨trivial, trivial, trivial⟩

/-- Where all statements fit, every attempt advances from any state of a run to any later one, and
none has two payment cancellations. -/
theorem attempts_advance {db : Database} (hdb : Coherent db) {S S' : Traffic}
    (hS : Relation.ReflTransGen (Traffic.FittingStep service) ⟨db, []⟩ S)
    (hS' : Relation.ReflTransGen (Traffic.FittingStep service) S S') :
    Progress S.shared S'.shared ∧ Coherent S'.shared := by
  have hsound := ((fitting_discipline service).run (System.Sound.nil hdb) hS).1
  obtain ⟨hsound', hrun⟩ := (fitting_discipline service).run hsound hS'
  exact ⟨Progress.run hrun, hsound'.inv⟩

/-! ## Schedules -/

instance (row loaded attempt : VoiceContactAttemptRecord) :
    Decidable (SaveFits row loaded attempt) :=
  decidable_of_iff
    ((attempt.status = loaded.status ∨ canAdvanceVoiceStatus row.status attempt.status = true) ∧
      (recorded row.transcript = true → loaded.transcript = none) ∧
      (row.detectedIntent.isSome = true → loaded.detectedIntent = none) ∧
      (row.disclosureDeliveredAt.isSome = true → loaded.disclosureDeliveredAt = none))
    ⟨fun h => ⟨h.1, h.2.1, h.2.2.1, h.2.2.2⟩, fun h => ⟨h.1, h.2, h.3, h.4⟩⟩

instance (row loaded : VoiceContactAttemptRecord) (changes : Changes) :
    Decidable (CallbackFits row loaded changes) :=
  decidable_of_iff
    ((∀ s ∈ changes.status, canAdvanceVoiceStatus loaded.status s = true →
        s = loaded.status ∨ canAdvanceVoiceStatus row.status s = true) ∧
      (changes.transcript = some "" → recorded row.transcript = true →
        loaded.transcript = some "") ∧
      (changes.disclosureDeliveredAt = some none → row.disclosureDeliveredAt.isSome = true →
        loaded.disclosureDeliveredAt = none))
    ⟨fun h => ⟨h.1, h.2.1, h.2.2⟩, fun h => ⟨h.1, h.2, h.3⟩⟩

def fits (db : Database) : Statement → Bool
  | .contact (.updateAttempt loaded attempt) =>
    decide (∀ row ∈ db.voiceAttempts, row.id = attempt.id → SaveFits row loaded attempt)
  | .writeCallback _ _ changes loaded =>
    decide (∀ row ∈ db.voiceAttempts, row.id = loaded.id → CallbackFits row loaded changes)
  | .contact (.finalize attemptId _ false) =>
    decide (∀ row ∈ db.voiceAttempts, row.id = attemptId → row.status ≠ .canceled)
  | _ => true

lemma fits_of_fits (db : Database) (r : Statement) (h : fits db r = true) : Fits db r := by
  cases r with
  | contact call =>
    cases call with
    | updateAttempt loaded attempt => simpa only [fits, Fits, decide_eq_true_eq] using h
    | finalize id key confirmed =>
      cases confirmed with
      | false => simpa only [fits, Fits, decide_eq_true_eq] using h
      | true => trivial
    | _ => trivial
  | writeCallback provider eventId changes loaded => simpa only [fits, Fits, decide_eq_true_eq] using h
  | refresh held => trivial
  | fetchContact id => trivial

def sampleTraffic : Traffic :=
  ⟨sampleDatabase, [(startRoutine sampleService sampleArguments, []),
    (callbackRoutine ringing "event_1" "voice_1", []),
    (callbackRoutine (.postCall "user: hello" "hello" none none 30 true 43260000000) "event_2"
      "voice_1", [])]⟩

lemma sampleTraffic_steps {Q : Database → Statement → Prop} :
    Relation.ReflTransGen
      (System.Step (fun db r x db' => Serve sampleService db r x db' ∧ Q db r)
        (Begins sampleService)) ⟨sampleDatabase, []⟩ sampleTraffic :=
  .tail (.tail (.single (.start (.start sampleArguments)))
    (.start (.callback ringing ringing_normalized "event_1" "voice_1")))
    (.start (.callback (.postCall "user: hello" "hello" none none 30 true 43260000000) trivial
      "event_2" "voice_1"))

lemma sampleDatabase_coherent : Coherent sampleDatabase :=
  ⟨sampleDatabase_unique, fun q hq => absurd hq (by simp [sampleDatabase]),
    fun q hq => absurd hq (by simp [sampleDatabase])⟩

/-- The start saves the reply before the call rings, and the call ends after that. -/
theorem sample_attempts_advance :
    let S := sampleTraffic.play sampleService [0, 0, 0, 0, 0, 0, 0, 0, 0, 0, 0, 1, 1]
    let S' := S.play sampleService [2, 2]
    S.shared.voiceAttempts.map (·.status) = [.ringing] ∧
      S'.shared.voiceAttempts.map (·.status) = [.completed] ∧
      Progress S.shared S'.shared ∧ Coherent S'.shared := by
  refine ⟨by decide +kernel, by decide +kernel,
    attempts_advance sampleService sampleDatabase_coherent ?_ ?_⟩
  · exact .trans sampleTraffic_steps (Traffic.play_steps fits_of_fits _ _ (by decide +kernel))
  · exact Traffic.play_steps fits_of_fits _ _ (by decide +kernel)

/-- The call rings before the start has saved the reply of the provider, which is written over
that. -/
theorem ringing_overwritten :
    let S := sampleTraffic.play sampleService [0, 0, 0, 0, 0, 0, 0, 0, 0, 1, 1]
    let S' := S.play sampleService [0, 0]
    Relation.ReflTransGen (Traffic.Step sampleService) ⟨sampleDatabase, []⟩ S ∧
      Relation.ReflTransGen (Traffic.Step sampleService) S S' ∧
      S.shared.voiceAttempts.map (·.status) = [.ringing] ∧
      S'.shared.voiceAttempts.map (·.status) = [.submitted] ∧ ¬ Progress S.shared S'.shared := by
  intro S S'
  have hS : S.shared.voiceAttempts.map (·.status) = [.ringing] := by decide +kernel
  have hS' : S'.shared.voiceAttempts.map (·.status) = [.submitted] := by decide +kernel
  refine ⟨?_, ?_, hS, hS', fun hp => ?_⟩
  · exact .trans (Traffic.runs_of_meeting (sampleTraffic_steps (Q := fun _ _ => True)))
      (Traffic.play_runs _ _)
  · exact Traffic.play_runs _ _
  · obtain ⟨r, hr, hring⟩ := List.mem_map.mp (hS ▸ List.mem_singleton_self VoiceStatus.ringing)
    obtain ⟨r', hr', -, hadv⟩ := hp r hr
    have hsub : r'.status ∈ [VoiceStatus.submitted] := hS' ▸ List.mem_map_of_mem hr'
    have hfollows := hadv.status
    rw [hring, List.mem_singleton.mp hsub] at hfollows
    exact absurd hfollows (by decide)

end RecoveryOS.Voice
