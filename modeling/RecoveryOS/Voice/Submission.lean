import RecoveryOS.Voice.Contact

/-!
# One submission for each key

A start calls the provider only after it has inserted the reservation itself, and a cancellation only
after it has inserted the receipt (`contract`). A unique key is inserted once in a run, so the two
calls are made once for each key, whatever the operations are interleaved with and wherever they
stop.

There is one other way to a reservation. If a row with the id of the attempt is found when the
reservation is saved, it is updated, and that counts as a reservation as well. Between the read by
key and the read by id another start can commit its own (`twice_submitted`); where no step reads such
a row (`Undisturbed`) the insertions are all there is.
-/

namespace RecoveryOS.Voice

open Resume Store

abbrev Exchanged := List (Exchange Call Call.Reply)

/-! ## What a client may call -/

def Call.callsProvider : Call → Bool
  | .startContact _ => true
  | .cancelContact _ _ => true
  | _ => false

/-- The client has inserted a reservation under this key. -/
def Reserved (h : Exchanged) (key : String) : Prop :=
  ∃ attempt, ⟨.insertAttempt attempt, (true : Bool)⟩ ∈ h ∧ attempt.idempotencyKey = key

/-- The client has inserted the receipt of this cancellation. -/
def Receipted (h : Exchanged) (key : String) : Prop :=
  ∃ caseId attempt, ⟨.claimActive caseId key, Claim.claimed attempt⟩ ∈ h

/-- No provider was called yet. -/
def Silent (h : Exchanged) : Prop := ∀ e ∈ h, e.1.callsProvider = false

def contract : Contract Call Call.Reply Unit where
  rely
    | .sessionGet _, x => x = (none : Option VoiceContactAttemptRecord)
    | _, _ => True
  guarantee h
    | .startContact request => Silent h ∧ Reserved h request.idempotencyKey
    | .cancelContact _ key => Silent h ∧ Receipted h key
    | _ => True
  fails _ := True

variable {h h' : Exchanged} {α β : Type} {Q : Exchanged → α → Prop}

lemma Silent.snoc (hs : Silent h) {r : Call} (hr : r.callsProvider = false) (x : r.Reply) :
    Silent (h ++ [⟨r, x⟩]) := by
  intro e he
  rcases List.mem_append.mp he with he | he
  · exact hs e he
  · rw [List.mem_singleton.mp he]
    exact hr

lemma guarantee_of_not_callsProvider {r : Call} (hr : r.callsProvider = false) :
    contract.guarantee h r := by
  cases r with
  | startContact request => exact absurd hr (by simp [Call.callsProvider])
  | cancelContact attemptId key => exact absurd hr (by simp [Call.callsProvider])
  | _ => trivial

/-- A request that is none to the provider. -/
lemma ask_keeps {r : Call} (hr : r.callsProvider = false) {f : r.Reply → Op α}
    (hf : ∀ x, contract.rely r x → (f x ()).Keeps contract Q (h ++ [⟨r, x⟩])) :
    ((Code.ask r >>= f) ()).Keeps contract Q h :=
  Code.ask_keeps (guarantee_of_not_callsProvider hr) hf

lemma raise_keeps : ((raise : Op α) ()).Keeps contract Q h := trivial

lemma ite_keeps {P : Prop} [Decidable P] {c d : Op α} (hc : P → (c ()).Keeps contract Q h)
    (hd : ¬ P → (d ()).Keeps contract Q h) :
    ((if P then c else d) ()).Keeps contract Q h := by
  by_cases hp : P
  · rw [if_pos hp]
    exact hc hp
  · rw [if_neg hp]
    exact hd hp

/-- Sequencing, with what the first part ensures. -/
lemma bind_keeps {R : Exchanged → β → Prop} {c : Op β} {f : β → Op α}
    (hc : (c ()).Keeps contract R h) (hf : ∀ h b, R h b → (f b ()).Keeps contract Q h) :
    ((c >>= f) ()).Keeps contract Q h :=
  Proc.Keeps.bind (fun h _ b hb => hf h b hb) hc

section Start
variable (service : VoiceContactService)

/-- A reservation that is saved was inserted, since no row of its id was found. -/
lemma saveReservation_keeps (hs : Silent h) (attempt : VoiceContactAttemptRecord) :
    (saveReservation attempt ()).Keeps contract
      (fun h b => Silent h ∧ (b = true → Reserved h attempt.idempotencyKey)) h := by
  refine ask_keeps rfl fun record hrecord => ?_
  obtain rfl : record = (none : Option VoiceContactAttemptRecord) := hrecord
  have hs₁ := hs.snoc (r := .sessionGet attempt.id) rfl (none : Option VoiceContactAttemptRecord)
  refine ask_keeps rfl fun subject _ => ?_
  have hs₂ := hs₁.snoc (r := .loadSubject attempt.caseId) rfl subject
  match subject with
  | none => exact raise_keeps
  | some none => exact raise_keeps
  | some (some subject) =>
    refine ite_keeps (fun _ => raise_keeps) fun _ => ⟨trivial, fun b _ => ⟨hs₂.snoc rfl b, ?_⟩⟩
    rintro rfl
    exact ⟨attempt, List.mem_append_right _ (List.mem_singleton.mpr rfl), rfl⟩

lemma reserveAttempt_keeps (hs : Silent h) (attempt : VoiceContactAttemptRecord) :
    (reserveAttempt attempt ()).Keeps contract
      (fun h r => Silent h ∧ (r.2 = true → Reserved h attempt.idempotencyKey)) h := by
  refine ask_keeps rfl fun existing _ => ?_
  have hs₁ := hs.snoc (r := .getByIdempotency attempt.idempotencyKey) rfl existing
  match existing with
  | some existing => exact ⟨hs₁, fun hf => absurd hf (by simp)⟩
  | none =>
    refine bind_keeps (saveReservation_keeps hs₁ attempt) fun h₂ b hb => ?_
    cases b with
    | true => exact ⟨hb.1, fun _ => hb.2 rfl⟩
    | false =>
      refine ask_keeps rfl fun existing _ => ?_
      have hs₃ := hb.1.snoc (r := .getByIdempotency attempt.idempotencyKey) rfl existing
      match existing with
      | some existing => exact ⟨hs₃, fun hf => absurd hf (by simp)⟩
      | none => exact raise_keeps

lemma saveAttempt_keeps (reserved attempt : VoiceContactAttemptRecord) :
    (saveAttempt reserved attempt ()).Keeps contract (fun _ _ => True) h := by
  refine ask_keeps rfl fun saved _ => ?_
  cases saved with
  | true => trivial
  | false => exact raise_keeps

lemma submit_keeps (hs : Silent h) {args : StartArguments} (hr : Reserved h args.idempotencyKey)
    (subject : VoiceSubject) (reserved : VoiceContactAttemptRecord) :
    (submit args subject reserved ()).Keeps contract (fun _ _ => True) h := by
  refine Code.ask_keeps ⟨hs, hr⟩ fun reply _ => ?_
  match reply with
  | none => exact bind_keeps (saveAttempt_keeps _ _) fun _ _ _ => trivial
  | some result => exact bind_keeps (saveAttempt_keeps _ _) fun _ _ _ => trivial

lemma reserveAndSubmit_keeps (hs : Silent h) (args : StartArguments) (subject : VoiceSubject)
    (zone : Safety.Zone) :
    (reserveAndSubmit service args subject zone ()).Keeps contract (fun _ _ => True) h := by
  refine ask_keeps rfl fun active _ => ask_keeps rfl fun today _ => ?_
  have hs₁ := (hs.snoc (r := .activeCount) rfl active).snoc (r := .callsToday args.now) rfl today
  refine ite_keeps (fun _ => trivial) fun _ => ?_
  refine bind_keeps (reserveAttempt_keeps hs₁ (reservation args subject)) ?_
  rintro h₂ ⟨attempt, claimed⟩ ⟨hs₂, hr⟩
  cases claimed with
  | true => exact submit_keeps hs₂ (hr rfl) subject _
  | false => trivial

theorem start_keeps (args : StartArguments) :
    (start service args ()).Keeps contract (fun _ _ => True) [] := by
  have hs : Silent [] := fun e he => absurd he (by simp)
  refine ask_keeps rfl fun existing _ => ?_
  have hs₁ := hs.snoc (r := .getByIdempotency args.idempotencyKey) rfl existing
  match existing with
  | some existing => trivial
  | none =>
    refine ask_keeps rfl fun subject _ => ?_
    have hs₂ := hs₁.snoc (r := .loadSubject args.caseId) rfl subject
    match subject with
    | none => exact raise_keeps
    | some none => trivial
    | some (some subject) =>
      dsimp only
      cases service.zoneInfo subject.timezone with
      | none => exact raise_keeps
      | some zone => exact reserveAndSubmit_keeps service hs₂ args subject zone

end Start

section Cancel
variable (service : VoiceContactService)

lemma receiptAttempt_keeps (hs : Silent h) (receipt : Option VoiceWebhookReceiptRecord) :
    (receiptAttempt receipt ()).Keeps contract (fun h _ => Silent h) h := by
  unfold receiptAttempt
  cases truthy (receipt.bind (·.attemptId)) with
  | none => exact hs
  | some id => exact ⟨trivial, fun x _ => hs.snoc rfl x⟩

lemma claimPaymentCancellation_keeps (hs : Silent h) (caseId key : String) :
    (claimPaymentCancellation caseId key ()).Keeps contract
      (fun h r => Silent h ∧ (r.2 = true → Receipted h key)) h := by
  refine ask_keeps rfl fun existing _ => ?_
  have hs₁ := hs.snoc (r := .paymentCancellationReceipt key) rfl existing
  match existing with
  | some receipt =>
    exact bind_keeps (receiptAttempt_keeps hs₁ _) fun h' _ hs' => ⟨hs', fun hf => absurd hf (by simp)⟩
  | none =>
    refine ask_keeps rfl fun claim _ => ?_
    have hs₂ := hs₁.snoc (r := .claimActive caseId key) rfl claim
    match claim with
    | .noActive => exact ⟨hs₂, fun hf => absurd hf (by simp)⟩
    | .integrityError =>
      refine ask_keeps rfl fun existing _ => ?_
      have hs₃ := hs₂.snoc (r := .paymentCancellationReceipt key) rfl existing
      exact bind_keeps (receiptAttempt_keeps hs₃ _) fun h' _ hs' =>
        ⟨hs', fun hf => absurd hf (by simp)⟩
    | .claimed attempt =>
      exact ⟨hs₂, fun _ => ⟨caseId, attempt, List.mem_append_right _ (List.mem_singleton.mpr rfl)⟩⟩

lemma finalizePaymentCancellation_keeps (attemptId key : String) (confirmed : Bool) :
    (finalizePaymentCancellation attemptId key confirmed ()).Keeps contract (fun _ _ => True) h := by
  refine ask_keeps rfl fun finalized _ => ?_
  cases finalized with
  | true => trivial
  | false => exact raise_keeps

theorem cancelForAuthoritativePayment_keeps (caseId key : String) :
    (cancelForAuthoritativePayment service caseId key ()).Keeps contract (fun _ _ => True) [] := by
  have hs : Silent [] := fun e he => absurd he (by simp)
  refine bind_keeps (claimPaymentCancellation_keeps hs caseId key) ?_
  rintro h₁ ⟨attempt, claimed⟩ ⟨hs₁, hr⟩
  match attempt with
  | none => trivial
  | some attempt =>
    refine ite_keeps (fun _ => trivial) fun hclaimed => ite_keeps (fun _ => ?_) fun _ => ?_
    · exact bind_keeps (finalizePaymentCancellation_keeps _ _ _) fun _ _ _ => trivial
    · refine Code.ask_keeps ⟨hs₁, hr (by simpa using hclaimed)⟩ fun cancelled _ => ?_
      refine bind_keeps (finalizePaymentCancellation_keeps _ _ _) fun _ _ _ => ?_
      cases cancelled with
      | true => trivial
      | false => trivial

end Cancel

theorem Starts.keeps {service : VoiceContactService} {p : Proc Call Call.Reply Unit Outcome}
    (hp : Starts service p) : p.Keeps contract (fun _ _ => True) [] := by
  cases hp with
  | start args => exact bind_keeps (start_keeps service args) fun _ _ _ => trivial
  | cancel caseId key =>
    exact bind_keeps (cancelForAuthoritativePayment_keeps service caseId key) fun _ _ _ => trivial
  | elsewhere => exact ask_keeps rfl fun _ _ => trivial

/-! ## What the database keeps -/

def attemptKeys (db : Database) : List (String × String) :=
  db.voiceAttempts.map fun a => (a.id, a.idempotencyKey)

/-- The unique columns of the attempts. -/
structure Unique (db : Database) : Prop where
  ids : Table.Keyed (·.id) db.voiceAttempts
  keys : Table.Keyed (·.idempotencyKey) db.voiceAttempts

/-- Attempts and receipts are only added. -/
structure Grows (db db' : Database) : Prop where
  attempts : attemptKeys db <+: attemptKeys db'
  receipts : db.voiceReceipts ⊆ db'.voiceReceipts

section
variable {db db' : Database}

lemma Grows.refl (db : Database) : Grows db db := ⟨List.prefix_refl _, List.Subset.refl _⟩

lemma Grows.trans {db'' : Database} (hg : Grows db db') (hg' : Grows db' db'') : Grows db db'' :=
  ⟨hg.attempts.trans hg'.attempts, List.Subset.trans hg.receipts hg'.receipts⟩

lemma Grows.mem (hg : Grows db db') {a : VoiceContactAttemptRecord} (ha : a ∈ db.voiceAttempts) :
    ∃ b ∈ db'.voiceAttempts, b.id = a.id ∧ b.idempotencyKey = a.idempotencyKey := by
  have hm : (a.id, a.idempotencyKey) ∈ attemptKeys db' :=
    hg.attempts.subset (List.mem_map.mpr ⟨a, ha, rfl⟩)
  obtain ⟨b, hb, he⟩ := List.mem_map.mp hm
  rw [Prod.mk.injEq] at he
  exact ⟨b, hb, he⟩

lemma Unique.of_attemptKeys_eq (hu : Unique db) (he : attemptKeys db' = attemptKeys db) :
    Unique db' := by
  have hid := congrArg (List.map Prod.fst) he
  have hkey := congrArg (List.map Prod.snd) he
  simp only [attemptKeys, List.map_map, Function.comp_def] at hid hkey
  refine ⟨?_, ?_⟩
  · unfold Table.Keyed
    rw [hid]
    exact hu.ids
  · unfold Table.Keyed
    rw [hkey]
    exact hu.keys

/-- A write that keeps the keys of the attempts. -/
lemma grows_of_eq (hu : Unique db) (he : attemptKeys db' = attemptKeys db)
    (hr : db.voiceReceipts ⊆ db'.voiceReceipts) : Grows db db' ∧ Unique db' :=
  ⟨⟨he ▸ List.prefix_refl _, hr⟩, hu.of_attemptKeys_eq he⟩

lemma attemptKeys_putVoiceAttempt (hu : Unique db) {a r : VoiceContactAttemptRecord}
    (ha : a ∈ db.voiceAttempts) (hid : r.id = a.id) (hkey : r.idempotencyKey = a.idempotencyKey) :
    attemptKeys (db.putVoiceAttempt r) = attemptKeys db :=
  Table.map_put hu.ids ha hid (by rw [hid, hkey])

lemma attemptKeys_updateAttempt (loaded attempt : VoiceContactAttemptRecord) :
    attemptKeys (updateAttempt db loaded attempt) = attemptKeys db := by
  simp only [attemptKeys, updateAttempt, List.map_map]
  refine List.map_congr_left fun r _ => ?_
  simp only [Function.comp]
  split_ifs <;> rfl

/-- A reservation is inserted only where its id and its key are new. -/
lemma insertVoiceAttempt_grows (hu : Unique db) {attempt : VoiceContactAttemptRecord}
    (h : db.insertVoiceAttempt attempt = some db') :
    (Grows db db' ∧ Unique db') ∧ attempt ∈ db'.voiceAttempts ∧
      ∀ a ∈ db.voiceAttempts, a.idempotencyKey ≠ attempt.idempotencyKey := by
  obtain ⟨rows, hrows, rfl⟩ := Option.map_eq_some_iff.mp h
  obtain ⟨-, hclash, rfl⟩ := Table.insert_eq_some hrows
  have hfree : ∀ a ∈ db.voiceAttempts, a.id ≠ attempt.id ∧
      a.idempotencyKey ≠ attempt.idempotencyKey := by
    intro a ha
    have hc := hclash a ha
    simp only [Bool.or_eq_false_iff, decide_eq_false_iff_not] at hc
    exact ⟨hc.1.1.1, hc.1.1.2⟩
  refine ⟨⟨⟨?_, List.Subset.refl _⟩, ?_, ?_⟩, ?_, fun a ha => (hfree a ha).2⟩
  · simp [attemptKeys]
  · exact hu.ids.append fun a ha => (hfree a ha).1
  · exact hu.keys.append fun a ha => (hfree a ha).2
  · simp

/-- A claim goes through only with a new receipt, on an attempt that is there. -/
lemma claimActive_grows (hu : Unique db) {caseId key : String} {claim : Claim}
    (h : (claim, db') = claimActive db caseId key) :
    (Grows db db' ∧ Unique db') ∧ ∀ attempt, claim = .claimed attempt →
      (∃ r ∈ db'.voiceReceipts, r.provider = paymentCancellationReceiptProvider ∧
        r.providerEventId = key) ∧
      ∀ r ∈ db.voiceReceipts, r.provider = paymentCancellationReceiptProvider →
        r.providerEventId ≠ key := by
  unfold claimActive at h
  cases hactive : activeAttempt db caseId with
  | none =>
    simp only [hactive, Prod.mk.injEq] at h
    obtain ⟨rfl, rfl⟩ := h
    exact ⟨⟨Grows.refl _, hu⟩, fun _ hc => by cases hc⟩
  | some record =>
    cases hinsert : db.insertVoiceReceipt
        ⟨paymentCancellationReceiptProvider, key, some record.id⟩ with
    | none =>
      simp only [hactive, hinsert, Prod.mk.injEq] at h
      obtain ⟨rfl, rfl⟩ := h
      exact ⟨⟨Grows.refl _, hu⟩, fun _ hc => by cases hc⟩
    | some claimed =>
      simp only [hactive, hinsert, Prod.mk.injEq] at h
      obtain ⟨rfl, rfl⟩ := h
      obtain ⟨rows, hrows, rfl⟩ := Option.map_eq_some_iff.mp hinsert
      obtain ⟨-, hclash, rfl⟩ := Table.insert_eq_some hrows
      have hmem : record ∈ db.voiceAttempts :=
        (List.mem_filter.mp (Table.mem_of_first hactive)).1
      refine ⟨grows_of_eq hu ?_ ?_, fun _ _ => ⟨?_, ?_⟩⟩
      · have hu' : Unique { db with voiceReceipts := db.voiceReceipts ++
            [⟨paymentCancellationReceiptProvider, key, some record.id⟩] } := ⟨hu.ids, hu.keys⟩
        exact attemptKeys_putVoiceAttempt hu' hmem rfl rfl
      · exact List.subset_append_left _ _
      · exact ⟨⟨paymentCancellationReceiptProvider, key, some record.id⟩,
          List.mem_append_right _ (List.mem_singleton.mpr rfl), rfl, rfl⟩
      · intro r hr hp he
        have hc := hclash r hr
        simp [hp, he] at hc

lemma finalize_grows (hu : Unique db) {attemptId key : String} {confirmed : Bool}
    (h : finalize db attemptId key confirmed = some db') : Grows db db' ∧ Unique db' := by
  unfold finalize at h
  split at h
  · rename_i record receipt hrecord hreceipt
    by_cases hother : receipt.attemptId ≠ some attemptId
    · rw [if_pos hother] at h
      cases h
    rw [if_neg hother] at h
    obtain rfl := Option.some.inj h
    exact grows_of_eq hu (attemptKeys_putVoiceAttempt hu (List.mem_of_find?_eq_some hrecord) rfl rfl)
      (List.Subset.refl _)
  · simp at h

variable {service : VoiceContactService}

theorem Answer.grows (hu : Unique db) {c : Call} {x : c.Reply} (h : Answer service db c x db') :
    Grows db db' ∧ Unique db' := by
  have hsame : db' = db → Grows db db' ∧ Unique db' := by
    rintro rfl
    exact ⟨Grows.refl _, hu⟩
  cases c with
  | getByIdempotency key => exact hsame h.2
  | loadSubject caseId => exact hsame h.2
  | activeCount => exact hsame h.2
  | callsToday now => exact hsame h.2
  | sessionGet id => exact hsame h.2
  | insertAttempt attempt =>
    rcases h with ⟨-, h⟩ | ⟨-, -, h⟩
    · exact (insertVoiceAttempt_grows hu h).1
    · exact hsame h
  | updateAttempt loaded attempt =>
    rcases h with ⟨-, rfl⟩ | ⟨-, h⟩
    · exact grows_of_eq hu (attemptKeys_updateAttempt loaded attempt) (List.Subset.refl _)
    · exact hsame h
  | startContact request => exact hsame h
  | paymentCancellationReceipt key => exact hsame h.2
  | claimActive caseId key => exact (claimActive_grows hu h).1
  | getAttempt id => exact hsame h.2
  | cancelContact id key => exact hsame h
  | finalize id key confirmed =>
    rcases h with ⟨-, h⟩ | ⟨-, -, h⟩
    · exact finalize_grows hu h
    · exact hsame h
  | elsewhere => exact grows_of_eq hu h.1 h.2

end

/-! ## The runs -/

/-- A read by id in `save_attempt` finds nothing: since the read by key just before it, nobody has
committed a reservation under this id. -/
def Undisturbed (db : Database) : Call → Prop
  | .sessionGet id => getAttempt id db = none
  | _ => True

variable (service : VoiceContactService)

def Platform.UndisturbedStep : Platform → Platform → Prop :=
  System.Step (fun db c x db' => Answer service db c x db' ∧ Undisturbed db c) (Starts service)

/-- What the exchanges of a client tell: what it has inserted is there, and it has called a provider
at most once, for a key of its own. -/
structure Told (db : Database) (h : Exchanged) : Prop where
  reserved : ∀ key, Reserved h key → ∃ a ∈ db.voiceAttempts, a.idempotencyKey = key
  receipted : ∀ key, Receipted h key → ∃ r ∈ db.voiceReceipts,
    r.provider = paymentCancellationReceiptProvider ∧ r.providerEventId = key
  started : ∀ request x, ⟨.startContact request, x⟩ ∈ h → Reserved h request.idempotencyKey
  cancelled : ∀ id key x, ⟨.cancelContact id key, x⟩ ∈ h → Receipted h key
  once : h.countP (fun e => e.1.callsProvider) ≤ 1

/-- No key was inserted by both. -/
structure Apart (h h' : Exchanged) : Prop where
  reserved : ∀ key, Reserved h key → ¬ Reserved h' key
  receipted : ∀ key, Receipted h key → ¬ Receipted h' key

variable {service} {db db' : Database}

lemma Reserved.mono {key : String} (hr : Reserved h key) (hh : h ⊆ h') : Reserved h' key := by
  obtain ⟨attempt, hm, hk⟩ := hr
  exact ⟨attempt, hh hm, hk⟩

lemma Receipted.mono {key : String} (hr : Receipted h key) (hh : h ⊆ h') : Receipted h' key := by
  obtain ⟨caseId, attempt, hm⟩ := hr
  exact ⟨caseId, attempt, hh hm⟩

/-- An exchange that adds a key was an insertion of it. -/
lemma reserved_snoc {r : Call} {x : r.Reply} {key : String} (hr : Reserved (h ++ [⟨r, x⟩]) key) :
    Reserved h key ∨ ∃ attempt, (⟨r, x⟩ : Exchange Call Call.Reply) =
      ⟨.insertAttempt attempt, (true : Bool)⟩ ∧ attempt.idempotencyKey = key := by
  obtain ⟨attempt, hm, hk⟩ := hr
  rcases List.mem_append.mp hm with hm | hm
  · exact .inl ⟨attempt, hm, hk⟩
  · exact .inr ⟨attempt, (List.mem_singleton.mp hm).symm, hk⟩

lemma receipted_snoc {r : Call} {x : r.Reply} {key : String} (hr : Receipted (h ++ [⟨r, x⟩]) key) :
    Receipted h key ∨ ∃ caseId attempt, (⟨r, x⟩ : Exchange Call Call.Reply) =
      ⟨.claimActive caseId key, Claim.claimed attempt⟩ := by
  obtain ⟨caseId, attempt, hm⟩ := hr
  rcases List.mem_append.mp hm with hm | hm
  · exact .inl ⟨caseId, attempt, hm⟩
  · exact .inr ⟨caseId, attempt, (List.mem_singleton.mp hm).symm⟩

lemma Told.grows (ht : Told db h) (hg : Grows db db') : Told db' h where
  reserved key hr := by
    obtain ⟨a, ha, hk⟩ := ht.reserved key hr
    obtain ⟨b, hb, -, he⟩ := hg.mem ha
    exact ⟨b, hb, he.trans hk⟩
  receipted key hr := by
    obtain ⟨r, hm, hp⟩ := ht.receipted key hr
    exact ⟨r, hg.receipts hm, hp⟩
  started := ht.started
  cancelled := ht.cancelled
  once := ht.once

/-- A key that a step inserts was not there before it, and is there afterwards. -/
lemma insert_reserved (hu : Unique db) {r : Call} {x : r.Reply}
    (ha : Answer service db r x db') {attempt : VoiceContactAttemptRecord}
    (he : (⟨r, x⟩ : Exchange Call Call.Reply) = ⟨.insertAttempt attempt, (true : Bool)⟩) :
    attempt ∈ db'.voiceAttempts ∧
      ∀ a ∈ db.voiceAttempts, a.idempotencyKey ≠ attempt.idempotencyKey := by
  cases he
  rcases ha with ⟨-, ha⟩ | ⟨hf, -, -⟩
  · exact (insertVoiceAttempt_grows hu ha).2
  · cases hf

lemma insert_receipted (hu : Unique db) {r : Call} {x : r.Reply}
    (ha : Answer service db r x db') {caseId key : String} {attempt : VoiceContactAttemptRecord}
    (he : (⟨r, x⟩ : Exchange Call Call.Reply) =
      ⟨.claimActive caseId key, Claim.claimed attempt⟩) :
    (∃ r ∈ db'.voiceReceipts, r.provider = paymentCancellationReceiptProvider ∧
      r.providerEventId = key) ∧
    ∀ r ∈ db.voiceReceipts, r.provider = paymentCancellationReceiptProvider →
      r.providerEventId ≠ key := by
  cases he
  exact (claimActive_grows hu ha).2 attempt rfl

lemma Silent.countP (hs : Silent h) : h.countP (fun e => e.1.callsProvider) = 0 := by
  rw [List.countP_eq_zero]
  intro e he
  simp [hs e he]

/-- What a client is told goes on to hold after its own request. -/
lemma Told.own (hu : Unique db) (ht : Told db h) {r : Call} {x : r.Reply}
    (hg : contract.guarantee h r) (ha : Answer service db r x db') :
    Told db' (h ++ [⟨r, x⟩]) := by
  have ht' := ht.grows (ha.grows hu).1
  have hsub : h ⊆ h ++ [⟨r, x⟩] := List.subset_append_left _ _
  refine ⟨fun key hr => ?_, fun key hr => ?_, fun request y hm => ?_, fun id key y hm => ?_, ?_⟩
  · rcases reserved_snoc hr with hr | ⟨attempt, he, rfl⟩
    · exact ht'.reserved key hr
    · exact ⟨attempt, (insert_reserved hu ha he).1, rfl⟩
  · rcases receipted_snoc hr with hr | ⟨caseId, attempt, he⟩
    · exact ht'.receipted key hr
    · exact (insert_receipted hu ha he).1
  · rcases List.mem_append.mp hm with hm | hm
    · exact (ht.started request y hm).mono hsub
    · cases List.mem_singleton.mp hm
      exact hg.2.mono hsub
  · rcases List.mem_append.mp hm with hm | hm
    · exact (ht.cancelled id key y hm).mono hsub
    · cases List.mem_singleton.mp hm
      exact hg.2.mono hsub
  · rw [List.countP_append]
    cases hp : r.callsProvider with
    | false =>
      have hone : List.countP (fun e => e.1.callsProvider) [(⟨r, x⟩ : Exchange Call Call.Reply)] = 0 := by
        simp [hp]
      rw [hone]
      exact ht.once
    | true =>
      have hs : Silent h := by
        cases r with
        | startContact request => exact hg.1
        | cancelContact id key => exact hg.1
        | _ => cases hp
      rw [hs.countP]
      simp [hp]

/-- The clients insert different keys. -/
lemma Told.other (hu : Unique db) (ht : Told db h') (hap : Apart h h') {r : Call} {x : r.Reply}
    (ha : Answer service db r x db') : Apart (h ++ [⟨r, x⟩]) h' := by
  refine ⟨fun key hr hr' => ?_, fun key hr hr' => ?_⟩
  · rcases reserved_snoc hr with hr | ⟨attempt, he, rfl⟩
    · exact hap.reserved key hr hr'
    · obtain ⟨a, hm, hk⟩ := ht.reserved _ hr'
      exact (insert_reserved hu ha he).2 a hm hk
  · rcases receipted_snoc hr with hr | ⟨caseId, attempt, he⟩
    · exact hap.receipted key hr hr'
    · obtain ⟨q, hm, hp, hk⟩ := ht.receipted _ hr'
      exact (insert_receipted hu ha he).2 q hm hp hk

lemma Apart.symm (hap : Apart h h') : Apart h' h :=
  ⟨fun key hr hr' => hap.reserved key hr' hr, fun key hr hr' => hap.receipted key hr' hr⟩

lemma not_reserved_nil (key : String) : ¬ Reserved [] key := by
  rintro ⟨attempt, hm, -⟩
  cases hm

lemma not_receipted_nil (key : String) : ¬ Receipted [] key := by
  rintro ⟨caseId, attempt, hm⟩
  cases hm

theorem submission_discipline :
    Discipline (fun db c x db' => Answer service db c x db' ∧ Undisturbed db c) (Starts service)
      contract Unique Told Apart Grows where
  keeps _ hp := hp.keeps
  told db _ := ⟨fun key hr => absurd hr (not_reserved_nil key),
    fun key hr => absurd hr (not_receipted_nil key), fun _ _ hm => (by cases hm),
    fun _ _ _ hm => (by cases hm), Nat.zero_le _⟩
  apart h := ⟨⟨fun key hr => absurd hr (not_reserved_nil key),
      fun key hr => absurd hr (not_receipted_nil key)⟩,
    ⟨fun key _ => not_reserved_nil key, fun key _ => not_receipted_nil key⟩⟩
  own := by
    rintro db db' h r x hu ht hg ⟨ha, hundisturbed⟩
    obtain ⟨hgrows, hu'⟩ := ha.grows hu
    refine ⟨?_, hu', ht.own hu hg ha, hgrows⟩
    cases r with
    | sessionGet id => exact ha.1.trans hundisturbed
    | _ => trivial
  other := by
    rintro db db' h h' r x hu ht ht' hap hap' hg ⟨ha, -⟩
    have hnew := ht'.other hu hap ha
    exact ⟨ht'.grows (ha.grows hu).1, hnew, hnew.symm⟩

/-! ## Once for each key -/

/-- The request that a client is stopped at. -/
def pending : Proc Call Call.Reply Unit Outcome → List Call
  | .await _ r _ => [r]
  | _ => []

/-- Every call that was made, also those that were not answered yet. -/
def Platform.calls (S : Platform) : List Call :=
  S.clients.flatMap fun c => c.2.map (·.1) ++ pending c.1

def Call.startsFor (key : String) : Call → Bool
  | .startContact request => decide (request.idempotencyKey = key)
  | _ => false

def Call.cancelsFor (key : String) : Call → Bool
  | .cancelContact _ cancellationKey => decide (cancellationKey = key)
  | _ => false

structure OncePerKey (S : Platform) : Prop where
  started : ∀ key, S.calls.countP (Call.startsFor key) ≤ 1
  cancelled : ∀ key, S.calls.countP (Call.cancelsFor key) ≤ 1

/-- If each part counts at most one, and no two parts count any, then so does the whole. -/
lemma countP_flatMap_le_one {γ δ : Type} {q : δ → Bool} {f : γ → List δ} :
    ∀ {l : List γ}, (∀ c ∈ l, (f c).countP q ≤ 1) →
      (l.Pairwise fun c d => (f c).countP q = 0 ∨ (f d).countP q = 0) →
      (l.flatMap f).countP q ≤ 1
  | [], _, _ => by simp
  | c :: l, hone, hpair => by
    obtain ⟨hc, hl⟩ := List.pairwise_cons.mp hpair
    have ih := countP_flatMap_le_one (fun d hd => hone d (List.mem_cons_of_mem _ hd)) hl
    rw [List.flatMap_cons, List.countP_append]
    by_cases hz : (f c).countP q = 0
    · omega
    · have hrest : (l.flatMap f).countP q = 0 := by
        rw [List.countP_eq_zero]
        intro x hx
        obtain ⟨d, hd, hxd⟩ := List.mem_flatMap.mp hx
        exact List.countP_eq_zero.mp ((hc d hd).resolve_left hz) x hxd
      have := hone c List.mem_cons_self
      omega

/-- What a client of a sound platform has called: the provider once, for a key it has inserted. -/
lemma calls_of_keeps {p : Proc Call Call.Reply Unit Outcome} {db : Database} (ht : Told db h)
    (hk : p.Keeps contract (fun _ _ => True) h) :
    (h.map (·.1) ++ pending p).countP Call.callsProvider ≤ 1 ∧
    (∀ request, .startContact request ∈ h.map (·.1) ++ pending p →
      Reserved h request.idempotencyKey) ∧
    ∀ id key, .cancelContact id key ∈ h.map (·.1) ++ pending p → Receipted h key := by
  have hold : (h.map (·.1)).countP Call.callsProvider ≤ 1 := by
    rw [List.countP_map]
    exact ht.once
  have hstarted : ∀ request, .startContact request ∈ h.map (·.1) →
      Reserved h request.idempotencyKey := by
    intro request hm
    obtain ⟨⟨r, x⟩, he, rfl⟩ := List.mem_map.mp hm
    exact ht.started request x he
  have hcancelled : ∀ id key, .cancelContact id key ∈ h.map (·.1) → Receipted h key := by
    intro id key hm
    obtain ⟨⟨r, x⟩, he, rfl⟩ := List.mem_map.mp hm
    exact ht.cancelled id key x he
  cases p with
  | done s a =>
    simp only [pending, List.append_nil]
    exact ⟨hold, hstarted, hcancelled⟩
  | failed s =>
    simp only [pending, List.append_nil]
    exact ⟨hold, hstarted, hcancelled⟩
  | spent s =>
    simp only [pending, List.append_nil]
    exact ⟨hold, hstarted, hcancelled⟩
  | await s r k =>
    have hg := hk.1
    refine ⟨?_, fun request hm => ?_, fun id key hm => ?_⟩
    · cases hp : r.callsProvider with
      | false =>
        have hz : (pending (.await s r k)).countP Call.callsProvider = 0 := by simp [pending, hp]
        rw [List.countP_append, hz]
        exact hold
      | true =>
        have hs : Silent h := by
          cases r with
          | startContact request => exact hg.1
          | cancelContact id key => exact hg.1
          | _ => cases hp
        have hz : (h.map (·.1)).countP Call.callsProvider = 0 := by
          rw [List.countP_map]
          exact hs.countP
        rw [List.countP_append, hz]
        simp [pending, hp]
    · rcases List.mem_append.mp hm with hm | hm
      · exact hstarted request hm
      · obtain rfl := List.mem_singleton.mp hm
        exact hg.2
    · rcases List.mem_append.mp hm with hm | hm
      · exact hcancelled id key hm
      · obtain rfl := List.mem_singleton.mp hm
        exact hg.2

/-- A kind of call to the provider that each client makes only for a key of its own is made once. -/
lemma countP_calls_le_one {S : Platform} (hS : S.Sound contract Unique Told Apart)
    {q : Call → Bool} (hq : ∀ r, q r = true → r.callsProvider = true)
    (hown : ∀ {i j : ℕ} {p p' : Proc Call Call.Reply Unit Outcome} {h h' : Exchanged},
      i ≠ j → S.clients[i]? = some (p, h) → S.clients[j]? = some (p', h') →
      ∀ r ∈ h.map (·.1) ++ pending p, ∀ r' ∈ h'.map (·.1) ++ pending p', q r = true →
        q r' = true → False) :
    S.calls.countP q ≤ 1 := by
  refine countP_flatMap_le_one ?_ ?_
  · rintro ⟨p, h⟩ hc
    obtain ⟨i, hi⟩ := List.getElem?_of_mem hc
    obtain ⟨ht, hk⟩ := hS.client hi
    exact (List.countP_mono_left fun r _ => hq r).trans (calls_of_keeps ht hk).1
  · rw [List.pairwise_iff_getElem]
    intro i j hi hj hij
    by_contra hne
    obtain ⟨hne₁, hne₂⟩ := not_or.mp hne
    obtain ⟨r, hr, hqr⟩ := List.countP_pos_iff.mp (Nat.pos_of_ne_zero hne₁)
    obtain ⟨r', hr', hqr'⟩ := List.countP_pos_iff.mp (Nat.pos_of_ne_zero hne₂)
    exact hown hij.ne (List.getElem?_eq_getElem hi) (List.getElem?_eq_getElem hj) r hr r' hr' hqr hqr'

theorem oncePerKey_of_sound {S : Platform} (hS : S.Sound contract Unique Told Apart) :
    OncePerKey S := by
  refine ⟨fun key => ?_, fun key => ?_⟩
  · refine countP_calls_le_one hS (fun r hr => ?_) fun hij hi hj r hr r' hr' hq hq' => ?_
    · cases r with
      | startContact request => rfl
      | _ => cases hr
    · obtain ⟨ht, hk⟩ := hS.client hi
      obtain ⟨ht', hk'⟩ := hS.client hj
      cases r with
      | startContact request =>
        cases r' with
        | startContact request' =>
          have hres := (calls_of_keeps ht hk).2.1 request hr
          have hres' := (calls_of_keeps ht' hk').2.1 request' hr'
          rw [of_decide_eq_true hq] at hres
          rw [of_decide_eq_true hq'] at hres'
          exact (hS.apart hij hi hj).reserved key hres hres'
        | _ => cases hq'
      | _ => cases hq
  · refine countP_calls_le_one hS (fun r hr => ?_) fun hij hi hj r hr r' hr' hq hq' => ?_
    · cases r with
      | cancelContact id k => rfl
      | _ => cases hr
    · obtain ⟨ht, hk⟩ := hS.client hi
      obtain ⟨ht', hk'⟩ := hS.client hj
      cases r with
      | cancelContact id k =>
        cases r' with
        | cancelContact id' k' =>
          have hres := (calls_of_keeps ht hk).2.2 id k hr
          have hres' := (calls_of_keeps ht' hk').2.2 id' k' hr'
          rw [of_decide_eq_true hq] at hres
          rw [of_decide_eq_true hq'] at hres'
          exact (hS.apart hij hi hj).receipted key hres hres'
        | _ => cases hq'
      | _ => cases hq

/-! ## Starts of a key that is reserved -/

/-- `start`, as a client begins it. -/
def startClient (service : VoiceContactService) (args : StartArguments) :
    Proc Call Call.Reply Unit Outcome :=
  (do pure (.contact (← start service args)) : Op Outcome) ()

/-- A start that is at its first read, or has returned a result for the attempt after that read. -/
def Replays (service : VoiceContactService) (args : StartArguments) (attemptId : String)
    (c : Proc Call Call.Reply Unit Outcome × Exchanged) : Prop :=
  c = (startClient service args, []) ∨
  ∃ existing, existing.id = attemptId ∧
    c = (.done () (.contact (replayResult existing)),
      [⟨.getByIdempotency args.idempotencyKey, some existing⟩])

lemma step_grows {S S' : Platform} (hu : Unique S.shared) (hs : Platform.Step service S S') :
    Grows S.shared S'.shared ∧ Unique S'.shared := by
  cases hs with
  | start hp => exact ⟨Grows.refl _, hu⟩
  | answer hi ha => exact Answer.grows hu ha

lemma run_unique {S S' : Platform} (hu : Unique S.shared)
    (hrun : Relation.ReflTransGen (Platform.Step service) S S') : Unique S'.shared := by
  induction hrun with
  | refl => exact hu
  | tail _ hs ih => exact (step_grows ih hs).2

/-- The read by key finds the attempt that has it. -/
lemma getByIdempotency_eq (hu : Unique db) {a : VoiceContactAttemptRecord}
    (ha : a ∈ db.voiceAttempts) : getByIdempotency db a.idempotencyKey = some a := by
  cases hf : getByIdempotency db a.idempotencyKey with
  | none =>
    have := List.find?_eq_none.mp hf a ha
    simp at this
  | some b =>
    have hb := List.mem_of_find?_eq_some hf
    have hk : b.idempotencyKey = a.idempotencyKey := by simpa using List.find?_some hf
    rw [hu.keys.eq hb ha hk]

/-- A start that replays goes on to, whoever takes a step. -/
lemma replays_step {S S' : Platform} (hu : Unique S.shared) (hs : Platform.Step service S S')
    {args : StartArguments} {a : VoiceContactAttemptRecord} (ha : a ∈ S.shared.voiceAttempts)
    (hk : a.idempotencyKey = args.idempotencyKey) {i : ℕ}
    (hr : ∃ c, S.clients[i]? = some c ∧ Replays service args a.id c) :
    ∃ c, S'.clients[i]? = some c ∧ Replays service args a.id c := by
  obtain ⟨c, hc, hr⟩ := hr
  cases hs with
  | start hp =>
    rename_i w cs p
    have hlt : i < cs.length := (List.getElem?_eq_some_iff.mp hc).1
    exact ⟨c, by rw [List.getElem?_append_left hlt]; exact hc, hr⟩
  | answer hj hans =>
    rename_i w w' cs j s r k h x
    by_cases hij : j = i
    · subst hij
      rw [hj] at hc
      obtain rfl := Option.some.inj hc
      have hlt : j < cs.length := (List.getElem?_eq_some_iff.mp hj).1
      refine ⟨_, List.getElem?_set_self hlt, .inr ⟨a, rfl, ?_⟩⟩
      rcases hr with he | ⟨existing, -, he⟩
      · cases he
        have hx : x = some a := hans.1.trans (by rw [← hk]; exact getByIdempotency_eq hu ha)
        subst hx
        rfl
      · cases he
    · exact ⟨c, by rw [List.getElem?_set_ne hij]; exact hc, hr⟩

theorem replays_run {S S' : Platform} (hu : Unique S.shared)
    (hrun : Relation.ReflTransGen (Platform.Step service) S S') {args : StartArguments}
    {a : VoiceContactAttemptRecord} (ha : a ∈ S.shared.voiceAttempts)
    (hk : a.idempotencyKey = args.idempotencyKey) {i : ℕ}
    (hr : ∃ c, S.clients[i]? = some c ∧ Replays service args a.id c) :
    ∃ c, S'.clients[i]? = some c ∧ Replays service args a.id c := by
  have key : Unique S'.shared ∧ (∃ b ∈ S'.shared.voiceAttempts, b.id = a.id ∧
      b.idempotencyKey = a.idempotencyKey) ∧
      ∃ c, S'.clients[i]? = some c ∧ Replays service args a.id c := by
    induction hrun with
    | refl => exact ⟨hu, ⟨a, ha, rfl, rfl⟩, hr⟩
    | tail _ hs ih =>
      obtain ⟨hu₁, ⟨b, hb, hid, hkey⟩, hr₁⟩ := ih
      obtain ⟨hg, hu₂⟩ := step_grows hu₁ hs
      obtain ⟨b', hb', hid', hkey'⟩ := hg.mem hb
      refine ⟨hu₂, ⟨b', hb', hid'.trans hid, hkey'.trans hkey⟩, ?_⟩
      rw [← hid] at hr₁ ⊢
      exact replays_step hu₁ hs hb (hkey.trans hk) hr₁
  exact key.2.2

/-- In every run in which no reservation is disturbed between its two reads, the provider is called
once for each key. And in every run, a start whose key is reserved returns a result for the attempt
that has it after one read. -/
theorem submitted_once (service : VoiceContactService) {db : Database} (hu : Unique db) :
    (∀ S, Relation.ReflTransGen (Platform.UndisturbedStep service) ⟨db, []⟩ S → OncePerKey S) ∧
    ∀ S, Relation.ReflTransGen (Platform.Step service) ⟨db, []⟩ S →
      ∀ args, ∀ a ∈ S.shared.voiceAttempts, a.idempotencyKey = args.idempotencyKey →
      ∀ S', Relation.ReflTransGen (Platform.Step service)
          ⟨S.shared, S.clients ++ [(startClient service args, [])]⟩ S' →
        ∃ c, S'.clients[S.clients.length]? = some c ∧ Replays service args a.id c := by
  refine ⟨fun S hrun => ?_, fun S hrun args a ha hk S' hrun' => ?_⟩
  · exact oncePerKey_of_sound (submission_discipline.run (System.Sound.nil hu) hrun).1
  · have hu' : Unique S.shared := run_unique hu hrun
    exact replays_run (S := ⟨S.shared, S.clients ++ [(startClient service args, [])]⟩) hu' hrun' ha hk
      ⟨_, List.getElem?_concat_length, .inl rfl⟩

/-! ## A schedule -/

/-- The answers of the database, with a provider that takes every call. -/
def respond (service : VoiceContactService) (db : Database) : (c : Call) → c.Reply × Database
  | .getByIdempotency key => (getByIdempotency db key, db)
  | .loadSubject caseId => (loadSubject service db caseId, db)
  | .activeCount => (activeCount db, db)
  | .callsToday now => (callsToday db now, db)
  | .sessionGet id => (getAttempt id db, db)
  | .insertAttempt attempt =>
    match db.insertVoiceAttempt attempt with
    | some db' => ((true : Bool), db')
    | none => ((false : Bool), db)
  | .updateAttempt loaded attempt => ((true : Bool), updateAttempt db loaded attempt)
  | .startContact request =>
    (some { provider := "twilio", contactAttemptId := request.idempotencyKey
            providerCallId := some "CA1", status := .submitted }, db)
  | .paymentCancellationReceipt key => (paymentCancellationReceipt db key, db)
  | .claimActive caseId key => claimActive db caseId key
  | .getAttempt id => (getAttempt id db, db)
  | .cancelContact _ _ => ((true : Bool), db)
  | .finalize id key confirmed =>
    match finalize db id key confirmed with
    | some db' => ((true : Bool), db')
    | none => ((false : Bool), db)
  | .elsewhere => ((), db)

lemma respond_answer (db : Database) (c : Call) :
    Answer service db c (respond service db c).1 (respond service db c).2 := by
  cases c with
  | insertAttempt attempt =>
    cases hi : db.insertVoiceAttempt attempt with
    | none =>
      rw [respond, hi]
      exact .inr ⟨rfl, hi, rfl⟩
    | some db' =>
      rw [respond, hi]
      exact .inl ⟨rfl, hi⟩
  | updateAttempt loaded attempt => exact .inl ⟨rfl, rfl⟩
  | claimActive caseId key => rfl
  | finalize id key confirmed =>
    cases hf : finalize db id key confirmed with
    | none =>
      rw [respond, hf]
      exact .inr ⟨rfl, hf, rfl⟩
    | some db' =>
      rw [respond, hf]
      exact .inl ⟨rfl, hf⟩
  | startContact request => rfl
  | cancelContact id key => rfl
  | elsewhere => exact ⟨rfl, List.Subset.refl _⟩
  | _ => exact ⟨rfl, rfl⟩

/-- The `i`-th client gets a turn. -/
def Platform.turn (service : VoiceContactService) (S : Platform) (i : ℕ) : Platform :=
  match S.clients[i]? with
  | some (.await _ c k, h) =>
    let reply := respond service S.shared c
    ⟨reply.2, S.clients.set i (k reply.1, h ++ [⟨c, reply.1⟩])⟩
  | _ => S

def Platform.play (service : VoiceContactService) (S : Platform) (turns : List ℕ) : Platform :=
  turns.foldl (Platform.turn service) S

/-- Whether no turn reads a reservation of another client by its id. -/
def Platform.calm (service : VoiceContactService) : Platform → List ℕ → Bool
  | _, [] => true
  | S, i :: turns =>
    (match S.clients[i]? with
      | some (.await _ (.sessionGet id) _, _) => (getAttempt id S.shared).isNone
      | _ => true) && calm service (S.turn service i) turns

lemma Platform.turn_steps (S : Platform) (i : ℕ) :
    Relation.ReflTransGen (Platform.Step service) S (S.turn service i) := by
  unfold Platform.turn
  split
  · next s c k h hi => exact .single (.answer hi (respond_answer S.shared c))
  · exact .refl

lemma Platform.play_steps : ∀ (turns : List ℕ) (S : Platform),
    Relation.ReflTransGen (Platform.Step service) S (S.play service turns)
  | [], _ => .refl
  | i :: turns, S => (Platform.turn_steps S i).trans (play_steps turns _)

lemma Platform.play_undisturbed : ∀ (turns : List ℕ) (S : Platform), S.calm service turns = true →
    Relation.ReflTransGen (Platform.UndisturbedStep service) S (S.play service turns)
  | [], _, _ => .refl
  | i :: turns, S, hcalm => by
    obtain ⟨hi, hrest⟩ := Bool.and_eq_true_iff.mp hcalm
    refine .trans ?_ (play_undisturbed turns (S.turn service i) hrest)
    unfold Platform.turn
    split
    · next s c k h hc =>
      refine .single (.answer hc ⟨respond_answer S.shared c, ?_⟩)
      rw [hc] at hi
      cases c with
      | sessionGet id => exact Option.isNone_iff_eq_none.mp hi
      | _ => trivial
    · exact .refl

/-- A service that may call one number, and a customer who consented. -/
def sampleService : VoiceContactService where
  realCallsEnabled := true
  operatorToken := "token"
  allowlistedDestinations := ["+10000000000"]
  disabled := false
  zoneInfo _ := some ⟨fun _ => 0, fun _ _ => 0⟩
  parseTime text := if text = "20:00" then some 72000000000 else some 32400000000

def sampleDatabase : Database where
  merchants := [⟨"merchant_1", "UTC"⟩]
  customers := [⟨"customer_1", "merchant_1", some "+10000000000", some 0, none, false, 0⟩]
  subscriptions := [⟨"sub_1", "merchant_1", "customer_1", "sub_provider", "INR", .pending, none⟩]
  cases :=
    [{ id := "case_1", merchantId := "merchant_1", customerId := "customer_1"
       subscriptionId := "sub_1", failedInvoiceId := some "inv_1", billingCycleKey := none
       failedPaymentId := none, caseOutcome := .open, paymentState := .failed
       subscriptionState := .pending, contactDisposition := .notContacted
       revenueAttribution := .none, diagnosis := .unknown, amountAtRiskPaise := 49900
       arrearsCollectedPaise := 0, caseRecovered := false, subscriptionReactivated := false
       openedAt := 0, recoveryDeadline := 86400000000, recoveredAt := none, version := 1 }]

/-- A call at noon. -/
def sampleArguments : StartArguments where
  caseId := "case_1"
  idempotencyKey := "voice_1"
  suppliedOperatorToken := some "token"
  maxDurationSeconds := 180
  now := 43200000000

lemma sampleDatabase_unique : Unique sampleDatabase := ⟨List.nodup_nil, List.nodup_nil⟩

/-- A single start, from its first read to its result. -/
def startedPlatform : Platform :=
  Platform.play sampleService ⟨sampleDatabase, [(startClient sampleService sampleArguments, [])]⟩
    [0, 0, 0, 0, 0, 0, 0, 0, 0, 0]

/-- It calls the provider, and nothing else does for its key. -/
theorem sample_submitted_once :
    startedPlatform.calls.countP (Call.startsFor "voice_1") = 1 ∧ OncePerKey startedPlatform := by
  refine ⟨by decide +kernel, (submitted_once sampleService sampleDatabase_unique).1 _ ?_⟩
  exact .trans (.single (.start (.start sampleArguments)))
    (Platform.play_undisturbed _ _ (by decide +kernel))

/-- Two starts with one key: the first has read by key and found nothing when the second commits its
reservation. The first then reads that one by its id. -/
def racedPlatform : Platform :=
  Platform.play sampleService ⟨sampleDatabase, [(startClient sampleService sampleArguments, []),
      (startClient sampleService sampleArguments, [])]⟩
    [0, 0, 0, 0, 0, 1, 1, 1, 1, 1, 1, 1, 1, 0, 0]

theorem twice_submitted :
    Relation.ReflTransGen (Platform.Step sampleService) ⟨sampleDatabase, []⟩ racedPlatform ∧
      ¬ OncePerKey racedPlatform := by
  refine ⟨.trans (.tail (.single (.start (.start sampleArguments))) (.start (.start sampleArguments)))
    (Platform.play_steps _ _), fun h => ?_⟩
  have htwo : racedPlatform.calls.countP (Call.startsFor "voice_1") = 2 := by decide +kernel
  have := h.started "voice_1"
  omega

end RecoveryOS.Voice
