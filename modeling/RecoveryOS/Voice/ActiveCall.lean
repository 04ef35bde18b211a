import RecoveryOS.Voice.Writers

/-!
# One active call

The gate of `start` counts the active calls without a lock, and a partial unique index has the last
word. A start that counts an active call is refused in good order. One that counts none and then
loses the race gets an integrity error, finds no attempt under its own key, and raises; and a
callback that brings an attempt back among the active ones is refused by the index as well.

`Clear` says of a statement that no other call is active when the index would have to be asked.
Where that is so throughout, the index never refuses anything (`one_active_call`).
-/

namespace RecoveryOS.Voice

open Resume Store

abbrev Statements := List (Exchange Statement Statement.Reply)

/-! ## Good order -/

/-- The start has counted an active call. -/
def Crowded (h : Statements) : Prop := ∃ n : ℕ, 1 ≤ n ∧ ⟨.contact .activeCount, n⟩ ∈ h

def Rejected (p : Proc Statement Statement.Reply Unit Ended) : Prop :=
  ∃ result, p = .done () (.contact result) ∧ result.status = .rejected

/-- The result is there, or one read away. -/
def Refused (p : Proc Statement Statement.Reply Unit Ended) : Prop :=
  Rejected p ∨ ∃ now k, p = .await () (.contact (.callsToday now)) k ∧ ∀ n, Rejected (k n)

/-- No provider was called. -/
def Uncalled (h : Statements) : Prop := ∀ request x, ⟨.contact (.startContact request), x⟩ ∉ h

/-- A start that is refused without a call of the provider. -/
structure Orderly (h : Statements) (p : Proc Statement Statement.Reply Unit Ended) : Prop where
  refused : Refused p
  uncalled : Uncalled h

/-- The index has refused neither a reservation nor a callback. -/
structure Unrefused (h : Statements) : Prop where
  reserved : ∀ attempt, ⟨.contact (.insertAttempt attempt), (false : Bool)⟩ ∉ h
  written : ∀ provider eventId changes loaded,
    ⟨.writeCallback provider eventId changes loaded, Written.secondActive⟩ ∉ h

structure OneActiveCall (S : Traffic) : Prop where
  active : activeCount S.shared ≤ 1
  orderly : ∀ q ∈ S.clients, Crowded q.2 → Orderly q.2 q.1
  unrefused : ∀ q ∈ S.clients, Unrefused q.2

/-! ## The conditions -/

/-- The starts have keys of their own: a reservation meets no other of its key. -/
def Distinct (db : Database) : Statement → Prop
  | .contact (.insertAttempt attempt) => ∀ a ∈ db.voiceAttempts,
    a.id ≠ attempt.id ∧ a.idempotencyKey ≠ attempt.idempotencyKey
  | _ => True

/-- No call is active when a reservation is inserted, and no other call when a callback brings its
attempt into an active status. -/
def Clear (db : Database) : Statement → Prop
  | .contact (.insertAttempt _) => ∀ a ∈ db.voiceAttempts, Database.activeVoice a.status = false
  | .writeCallback _ _ changes loaded => ∀ s ∈ changes.status,
    canAdvanceVoiceStatus loaded.status s = true → s ≠ loaded.status →
    Database.activeVoice s = true → ∀ a ∈ db.voiceAttempts, a.id ≠ loaded.id →
    Database.activeVoice a.status = false
  | _ => True

/-! ## The gate -/

/-- The gate lets nobody pass who has counted an active call. -/
lemma evaluateVoiceSafety_crowded {context : VoiceSafetyContext} (h : 1 ≤ context.activeCalls) :
    (evaluateVoiceSafety context).1 = false := by
  unfold evaluateVoiceSafety
  split
  · rfl
  · rename_i hnone
    rw [List.find?_eq_none] at hnone
    have hcalls := hnone (decide (1 ≤ context.activeCalls), "CONCURRENT_CALL_LIMIT") (by simp)
    simp [h] at hcalls

/-- As long as it has counted an active call, a client is refused in good order. -/
def Yields : Statements → Proc Statement Statement.Reply Unit Ended → Prop
  | h, .await s r k =>
    (Crowded h → Orderly h (.await s r k)) ∧ ∀ x, Yields (h ++ [⟨r, x⟩]) (k x)
  | h, p => Crowded h → Orderly h p

lemma Yields.orderly {h : Statements} : ∀ {p : Proc Statement Statement.Reply Unit Ended},
    Yields h p → Crowded h → Orderly h p
  | .await _ _ _, hy => hy.1
  | .done _ _, hy => hy
  | .failed _, hy => hy
  | .spent _, hy => hy

lemma not_crowded_snoc {h : Statements} {r : Statement} {x : r.Reply} (hh : ¬ Crowded h)
    (hr : r.counts = false) : ¬ Crowded (h ++ [⟨r, x⟩]) := by
  rintro ⟨n, hn, hm⟩
  rcases List.mem_append.mp hm with hm | hm
  · exact hh ⟨n, hn, hm⟩
  · cases List.mem_singleton.mp hm
    cases hr

/-- What does not count is never crowded. -/
lemma yields_of_plain : ∀ {p : Proc Statement Statement.Reply Unit Ended} {h : Statements},
    ¬ Crowded h → p.Asks Statement.Plain → Yields h p
  | .await _ _ _, _, hh, hp =>
    ⟨fun hc => absurd hc hh, fun x => yields_of_plain (not_crowded_snoc hh hp.1.2) (hp.2 x)⟩
  | .done _ _, _, hh, _ => fun hc => absurd hc hh
  | .failed _, _, hh, _ => fun hc => absurd hc hh
  | .spent _, _, hh, _ => fun hc => absurd hc hh

lemma Uncalled.snoc {h : Statements} (hh : Uncalled h) {r : Statement}
    (hr : ∀ request, r ≠ .contact (.startContact request)) (x : r.Reply) :
    Uncalled (h ++ [⟨r, x⟩]) := by
  intro request y hm
  rcases List.mem_append.mp hm with hm | hm
  · exact hh request y hm
  · exact hr request (congrArg Sigma.fst (List.mem_singleton.mp hm)).symm

lemma Rejected.yields {h : Statements} {p : Proc Statement Statement.Reply Unit Ended}
    (hp : Rejected p) (hh : Uncalled h) : Yields h p := by
  obtain ⟨result, rfl, hs⟩ := hp
  exact fun _ => ⟨.inl ⟨result, rfl, hs⟩, hh⟩

lemma reserveAndSubmit_yields (service : VoiceContactService) (args : StartArguments)
    (subject : VoiceSubject) (zone : Safety.Zone) {h : Statements} (hh : ¬ Crowded h)
    (huncalled : Uncalled h) :
    Yields h ((do pure (.contact (← (reserveAndSubmit service args subject zone).routine)) :
      Routine Ended) ()) := by
  refine ⟨fun hc => absurd hc hh, fun active => ?_⟩
  have huncalled₁ := huncalled.snoc (r := .contact .activeCount) (by simp) active
  by_cases hn : 1 ≤ (show ℕ from active)
  · -- whatever `calls_today` returns, the gate rejects
    have hreject : ∀ today : ℕ, Rejected ((do pure (.contact (← Op.routine (
        if (evaluateVoiceSafety (safetyContext service args subject zone active today)).1 = false then
          pure (rejected args (evaluateVoiceSafety
            (safetyContext service args subject zone active today)).2)
        else reserveThenSubmit args subject))) : Routine Ended) ()) := by
      intro today
      rw [if_pos (evaluateVoiceSafety_crowded hn)]
      exact ⟨_, rfl, rfl⟩
    refine ⟨fun _ => ⟨.inr ⟨args.now, _, rfl, hreject⟩, huncalled₁⟩, fun today => ?_⟩
    exact (hreject today).yields
      (huncalled₁.snoc (r := .contact (.callsToday args.now)) (by simp) today)
  · have h₁ : ¬ Crowded (h ++ [⟨.contact .activeCount, active⟩]) := by
      rintro ⟨n, hn', hm⟩
      rcases List.mem_append.mp hm with hm | hm
      · exact hh ⟨n, hn', hm⟩
      · cases List.mem_singleton.mp hm
        exact hn hn'
    refine ⟨fun hc => absurd hc h₁, fun today => ?_⟩
    have h₂ := not_crowded_snoc (r := .contact (.callsToday args.now)) (x := today) h₁ rfl
    refine yields_of_plain h₂ (Routine.asks_bind (Op.Asks.plain ?_) fun _ => trivial)
    exact asks_ite (asks_pure _) (reserveThenSubmit_asks args subject)

lemma zone_yields (service : VoiceContactService) (args : StartArguments) (subject : VoiceSubject)
    {h : Statements} (hh : ¬ Crowded h) (huncalled : Uncalled h) :
    Yields h ((do pure (.contact (← Op.routine (match service.zoneInfo subject.timezone with
      | none => raise
      | some zone => reserveAndSubmit service args subject zone))) : Routine Ended) ()) := by
  cases service.zoneInfo subject.timezone with
  | none => exact fun hc => absurd hc hh
  | some zone => exact reserveAndSubmit_yields service args subject zone hh huncalled

lemma start_yields (service : VoiceContactService) (args : StartArguments) :
    Yields [] (startRoutine service args) := by
  have h₀ : ¬ Crowded [] := fun ⟨_, _, hm⟩ => absurd hm (by simp)
  have u₀ : Uncalled [] := fun _ _ hm => absurd hm (by simp)
  refine ⟨fun hc => absurd hc h₀, fun existing => ?_⟩
  have h₁ := not_crowded_snoc (r := .contact (.getByIdempotency args.idempotencyKey))
    (x := existing) h₀ rfl
  have u₁ := u₀.snoc (r := .contact (.getByIdempotency args.idempotencyKey)) (by simp) existing
  match existing with
  | some existing => exact fun hc => absurd hc h₁
  | none =>
    refine ⟨fun hc => absurd hc h₁, fun subject => ?_⟩
    have h₂ := not_crowded_snoc (r := .contact (.loadSubject args.caseId)) (x := subject) h₁ rfl
    match subject with
    | none => exact fun hc => absurd hc h₂
    | some none => exact fun hc => absurd hc h₂
    | some (some subject) =>
      have huncalled := u₁.snoc (r := .contact (.loadSubject args.caseId)) (by simp)
        (some (some subject))
      exact zone_yields service args subject h₂ huncalled

/-! ## The index -/

section Index
variable {db db' : Database}

/-- An update that makes no attempt active. -/
lemma updateAttempt_activeCount {loaded attempt : VoiceContactAttemptRecord}
    (h : ∀ row ∈ db.voiceAttempts, row.id = attempt.id →
      Database.activeVoice (assign loaded.status attempt.status row.status) = true →
      Database.activeVoice row.status = true) :
    activeCount (updateAttempt db loaded attempt) ≤ activeCount db := by
  simp only [activeCount, updateAttempt, List.countP_map]
  refine List.countP_mono_left fun row hrow hactive => ?_
  simp only [Function.comp] at hactive
  split_ifs at hactive with hid
  · exact h row hrow hid hactive
  · exact hactive

lemma putVoiceAttempt_activeCount {r : VoiceContactAttemptRecord}
    (hr : Database.activeVoice r.status = false) :
    activeCount (db.putVoiceAttempt r) ≤ activeCount db := by
  simp only [activeCount, Database.putVoiceAttempt, Table.put, List.countP_map]
  refine List.countP_mono_left fun row _ hactive => ?_
  simp only [Function.comp] at hactive
  split_ifs at hactive with hid
  · rw [hr] at hactive
    cases hactive
  · exact hactive

lemma insertVoiceAttempt_activeCount (ha : activeCount db ≤ 1)
    {attempt : VoiceContactAttemptRecord} (h : db.insertVoiceAttempt attempt = some db') :
    activeCount db' ≤ 1 := by
  obtain ⟨rows, hrows, rfl⟩ := Option.map_eq_some_iff.mp h
  obtain ⟨-, hclash, rfl⟩ := Table.insert_eq_some hrows
  simp only [activeCount, List.countP_append, List.countP_singleton] at ha ⊢
  split_ifs with hactive
  · have hnone : db.voiceAttempts.countP (fun a => Database.activeVoice a.status) = 0 := by
      refine List.countP_eq_zero.mpr fun a hm hstatus => ?_
      have hc := hclash a hm
      simp [hactive, hstatus] at hc
    omega
  · omega

/-- A reservation under a key of its own goes through if no call is active. -/
lemma insertVoiceAttempt_clear {attempt : VoiceContactAttemptRecord}
    (hcall : attempt.providerCallId = none) (hd : Distinct db (.contact (.insertAttempt attempt)))
    (hc : Clear db (.contact (.insertAttempt attempt))) : db.insertVoiceAttempt attempt ≠ none := by
  intro h
  rw [Database.insertVoiceAttempt, Option.map_eq_none_iff, Table.insert_of_forall rfl] at h
  · cases h
  · intro a ha
    obtain ⟨hid, hkey⟩ := hd a ha
    have hactive := hc a ha
    cases hcallId : a.providerCallId <;> simp [hid, hkey, hactive, hcall]

lemma claimActive_activeCount {caseId key : String} {claim : Claim}
    (h : (claim, db') = claimActive db caseId key) : activeCount db' ≤ activeCount db := by
  unfold claimActive at h
  cases hactive : activeAttempt db caseId with
  | none =>
    simp only [hactive, Prod.mk.injEq] at h
    rw [h.2]
  | some record =>
    cases hinsert : db.insertVoiceReceipt
        ⟨paymentCancellationReceiptProvider, key, some record.id⟩ with
    | none =>
      simp only [hactive, hinsert, Prod.mk.injEq] at h
      rw [h.2]
    | some claimed =>
      simp only [hactive, hinsert, Prod.mk.injEq] at h
      obtain ⟨rows, -, rfl⟩ := Option.map_eq_some_iff.mp hinsert
      rw [h.2]
      exact putVoiceAttempt_activeCount rfl

lemma finalize_activeCount {attemptId key : String} {confirmed : Bool}
    (h : finalize db attemptId key confirmed = some db') : activeCount db' ≤ activeCount db := by
  unfold finalize at h
  split at h
  · split_ifs at h
    · rw [← Option.some.inj h]
      exact putVoiceAttempt_activeCount rfl
    · rw [← Option.some.inj h]
      exact putVoiceAttempt_activeCount rfl
  · simp at h

/-- A callback writes another status only if it brings one that the row it read can advance to. -/
lemma status_of_apply {changes : Changes} {loaded : VoiceContactAttemptRecord}
    (h : (changes.apply loaded).status ≠ loaded.status) :
    (changes.apply loaded).status ∈ changes.status ∧
      canAdvanceVoiceStatus loaded.status (changes.apply loaded).status = true := by
  simp only [Changes.apply] at h ⊢
  cases hs : changes.status with
  | none => simp [hs] at h
  | some s =>
    simp only [hs, Option.all_some, Option.getD_some] at h ⊢
    by_cases hadv : canAdvanceVoiceStatus loaded.status s = true
    · rw [if_pos hadv]
      exact ⟨rfl, hadv⟩
    · rw [if_neg hadv] at h
      exact absurd rfl h

lemma updateAttempt_clear (hu : Unique db) (ha : activeCount db ≤ 1) (provider eventId : String)
    {changes : Changes} {loaded : VoiceContactAttemptRecord}
    (hc : Clear db (.writeCallback provider eventId changes loaded)) :
    activeCount (updateAttempt db loaded (changes.apply loaded)) ≤ 1 := by
  by_cases hmove : (changes.apply loaded).status ≠ loaded.status ∧
      Database.activeVoice (changes.apply loaded).status = true
  · -- the attempt of the callback is the only one that is active then
    obtain ⟨hne, hactive⟩ := hmove
    obtain ⟨hs, hadv⟩ := status_of_apply hne
    have hu' : Unique (updateAttempt db loaded (changes.apply loaded)) :=
      hu.of_attemptKeys_eq (attemptKeys_updateAttempt _ _)
    refine hu'.ids.countP_le_one (k := loaded.id) fun x hx hxactive => ?_
    obtain ⟨row, hrow, rfl⟩ := List.mem_map.mp hx
    by_cases hid : row.id = (changes.apply loaded).id
    · rw [if_pos hid]
      exact hid
    · rw [if_neg hid] at hxactive
      rw [hc _ hs hadv hne hactive row hrow hid] at hxactive
      cases hxactive
  · refine (updateAttempt_activeCount fun row _ _ hrow => ?_).trans ha
    unfold assign at hrow
    split_ifs at hrow with hsame
    · exact hrow
    · exact absurd ⟨hsame, hrow⟩ hmove

/-- The callback of a clear statement leaves at most one active call, so the index lets it pass. -/
lemma writeCallback_clear (hu : Unique db) (ha : activeCount db ≤ 1) {provider eventId : String}
    {changes : Changes} {loaded : VoiceContactAttemptRecord} {written : Written}
    (hc : Clear db (.writeCallback provider eventId changes loaded))
    (h : (written, db') = writeCallback db provider eventId changes loaded) :
    Unique db' ∧ activeCount db' ≤ 1 ∧ written ≠ .secondActive := by
  unfold writeCallback at h
  cases hinsert : db.insertVoiceReceipt ⟨provider, eventId, some loaded.id⟩ with
  | none =>
    simp only [hinsert, Prod.mk.injEq] at h
    obtain ⟨rfl, rfl⟩ := h
    exact ⟨hu, ha, by simp⟩
  | some received =>
    simp only [hinsert] at h
    obtain ⟨rows, -, rfl⟩ := Option.map_eq_some_iff.mp hinsert
    have hreceived : Unique { db with voiceReceipts := rows } := ⟨hu.ids, hu.keys⟩
    have hbound := updateAttempt_clear hreceived ha provider eventId hc
    rw [if_neg (by omega)] at h
    split_ifs at h
    · obtain ⟨rfl, rfl⟩ := Prod.mk.inj h
      exact ⟨hreceived.of_attemptKeys_eq (attemptKeys_updateAttempt _ _), hbound, by simp⟩
    · obtain ⟨rfl, rfl⟩ := Prod.mk.inj h
      exact ⟨hu, ha, by simp⟩

variable {service : VoiceContactService}

lemma unrefused_of_ne {r : Statement} {x : r.Reply}
    (hi : ∀ attempt, r ≠ .contact (.insertAttempt attempt))
    (hw : ∀ provider eventId changes loaded, r ≠ .writeCallback provider eventId changes loaded) :
    Unrefused [⟨r, x⟩] where
  reserved attempt hm := hi attempt (congrArg Sigma.fst (List.mem_singleton.mp hm)).symm
  written provider eventId changes loaded hm :=
    hw provider eventId changes loaded (congrArg Sigma.fst (List.mem_singleton.mp hm)).symm

/-- A clear statement is not refused, and leaves one active call at most. -/
theorem Serve.active (hu : Unique db) (ha : activeCount db ≤ 1) {r : Statement} {x : r.Reply}
    (hg : r.WellFormed) (hs : Serve service db r x db') (hd : Distinct db r) (hc : Clear db r) :
    Unique db' ∧ activeCount db' ≤ 1 ∧ Unrefused [⟨r, x⟩] := by
  have hsame : db' = db → Unique db' ∧ activeCount db' ≤ 1 := by
    rintro rfl
    exact ⟨hu, ha⟩
  have hle : Unique db' → activeCount db' ≤ activeCount db → Unique db' ∧ activeCount db' ≤ 1 :=
    fun hu' hle => ⟨hu', hle.trans ha⟩
  have hkept : (∀ attempt, r ≠ .contact (.insertAttempt attempt)) →
      (∀ provider eventId changes loaded, r ≠ .writeCallback provider eventId changes loaded) →
      Unique db' ∧ activeCount db' ≤ 1 → Unique db' ∧ activeCount db' ≤ 1 ∧ Unrefused [⟨r, x⟩] :=
    fun hi hw h => ⟨h.1, h.2, unrefused_of_ne hi hw⟩
  cases r with
  | contact call =>
    cases call with
    | getByIdempotency key => exact hkept (by simp) (by simp) (hsame hs.2)
    | loadSubject caseId => exact hkept (by simp) (by simp) (hsame hs.2)
    | activeCount => exact hkept (by simp) (by simp) (hsame hs.2)
    | callsToday now => exact hkept (by simp) (by simp) (hsame hs.2)
    | sessionGet id => exact hkept (by simp) (by simp) (hsame hs.2)
    | insertAttempt attempt =>
      rcases hs with ⟨hx, hs⟩ | ⟨-, hs, -⟩
      · refine ⟨(insertVoiceAttempt_grows hu hs).1.2, insertVoiceAttempt_activeCount ha hs, ?_, ?_⟩
        · intro attempt' hm
          cases List.mem_singleton.mp hm
          cases hx
        · intro _ _ _ _ hm
          cases List.mem_singleton.mp hm
      · exact absurd hs (insertVoiceAttempt_clear hg hd hc)
    | updateAttempt loaded attempt =>
      refine hkept (by simp) (by simp) ?_
      rcases hs with ⟨-, hi, rfl⟩ | ⟨-, -, hs⟩
      · exact ⟨hu.of_attemptKeys_eq (attemptKeys_updateAttempt _ _), hi.1⟩
      · exact hsame hs
    | startContact request => exact hkept (by simp) (by simp) (hsame hs)
    | paymentCancellationReceipt key => exact hkept (by simp) (by simp) (hsame hs.2)
    | claimActive caseId key =>
      exact hkept (by simp) (by simp)
        (hle (claimActive_grows hu hs).1.2 (claimActive_activeCount hs))
    | getAttempt id => exact hkept (by simp) (by simp) (hsame hs.2)
    | cancelContact id key => exact hkept (by simp) (by simp) (hsame hs)
    | finalize id key confirmed =>
      refine hkept (by simp) (by simp) ?_
      rcases hs with ⟨-, hs⟩ | ⟨-, -, hs⟩
      · exact hle (finalize_grows hu hs).2 (finalize_activeCount hs)
      · exact hsame hs
    | elsewhere =>
      refine hkept (by simp) (by simp) (hle ?_ ?_)
      · exact hu.of_attemptKeys_eq (by simp only [attemptKeys, hs.1])
      · simp only [activeCount, hs.1, le_refl]
  | refresh held => exact hkept (by simp) (by simp) (hsame hs.2)
  | writeCallback provider eventId changes loaded =>
    obtain ⟨hu', ha', hx⟩ := writeCallback_clear hu ha hc hs
    refine ⟨hu', ha', ?_, ?_⟩
    · intro attempt hm
      cases List.mem_singleton.mp hm
    · intro _ _ _ _ hm
      cases List.mem_singleton.mp hm
      exact hx rfl
  | fetchContact id => exact hkept (by simp) (by simp) (hsame hs)

end Index

/-! ## The runs -/

variable (service : VoiceContactService)

/-- A step of starts with keys of their own, in which no other call is active where the index would
have to be asked. -/
def Traffic.ClearStep : Traffic → Traffic → Prop :=
  System.Step (fun db r x db' => Serve service db r x db' ∧ Distinct db r ∧ Clear db r)
    (Begins service)

lemma Unrefused.append {h h' : Statements} (hh : Unrefused h) (hh' : Unrefused h') :
    Unrefused (h ++ h') where
  reserved attempt hm := (List.mem_append.mp hm).elim (hh.reserved attempt) (hh'.reserved attempt)
  written provider eventId changes loaded hm := (List.mem_append.mp hm).elim
    (hh.written provider eventId changes loaded) (hh'.written provider eventId changes loaded)

lemma clear_discipline :
    Discipline (fun db r x db' => Serve service db r x db' ∧ Distinct db r ∧ Clear db r)
      (Begins service) statements (fun db => Unique db ∧ activeCount db ≤ 1)
      (fun _ h => Unrefused h) (fun _ _ => True) (fun _ _ => True) where
  keeps _ hp := hp.sends
  told _ _ := ⟨fun _ => List.not_mem_nil, fun _ _ _ _ => List.not_mem_nil⟩
  apart _ := ⟨trivial, trivial⟩
  own hw hh hg ha := by
    obtain ⟨hu, hactive, hr⟩ := Serve.active hw.1 hw.2 hg ha.1 ha.2.1 ha.2.2
    exact ⟨trivial, ⟨hu, hactive⟩, hh.append hr, trivial⟩
  other _ _ hh' _ _ _ _ := ⟨hh', trivial, trivial⟩

lemma Begins.yields {service : VoiceContactService} {p : Proc Statement Statement.Reply Unit Ended}
    (hp : Begins service p) : Yields [] p := by
  rcases hp.cases_plain with ⟨args, rfl⟩ | h
  · exact start_yields service args
  · exact yields_of_plain (fun ⟨_, _, hm⟩ => absurd hm (by simp)) h

/-- Where no other call is active when a reservation or an active status is written, there is at
most one active call, the starts that count one are rejected in good order, and the index refuses
nothing. -/
theorem one_active_call {db : Database} (hu : Unique db) (ha : activeCount db ≤ 1) {S : Traffic}
    (hS : Relation.ReflTransGen (Traffic.ClearStep service) ⟨db, []⟩ S) : OneActiveCall S := by
  have hsound := ((clear_discipline service).run (System.Sound.nil ⟨hu, ha⟩) hS).1
  have hyields : ∀ q ∈ S.clients, Yields q.2 q.1 :=
    System.clients_run (fun p hp => hp.yields) (fun h s r k x hy => hy.2 x)
      (fun q hq => absurd hq (by simp)) hS
  refine ⟨hsound.inv.2, fun q hq hc => (hyields q hq).orderly hc, fun q hq => ?_⟩
  obtain ⟨i, hi⟩ := List.mem_iff_getElem?.mp hq
  exact (hsound.client hi).1

/-! ## Schedules -/

def distinct (db : Database) : Statement → Bool
  | .contact (.insertAttempt attempt) => decide (∀ a ∈ db.voiceAttempts,
    a.id ≠ attempt.id ∧ a.idempotencyKey ≠ attempt.idempotencyKey)
  | _ => true

def clear (db : Database) : Statement → Bool
  | .contact (.insertAttempt _) =>
    decide (∀ a ∈ db.voiceAttempts, Database.activeVoice a.status = false)
  | .writeCallback _ _ changes loaded => decide (∀ s ∈ changes.status,
    canAdvanceVoiceStatus loaded.status s = true → s ≠ loaded.status →
    Database.activeVoice s = true → ∀ a ∈ db.voiceAttempts, a.id ≠ loaded.id →
    Database.activeVoice a.status = false)
  | _ => true

lemma distinct_of_distinct (db : Database) (r : Statement) (h : distinct db r = true) :
    Distinct db r := by
  cases r with
  | contact call =>
    cases call with
    | insertAttempt attempt => simpa only [distinct, Distinct, decide_eq_true_eq] using h
    | _ => trivial
  | _ => trivial

lemma clear_of_clear (db : Database) (r : Statement) (h : clear db r = true) : Clear db r := by
  cases r with
  | contact call =>
    cases call with
    | insertAttempt attempt => simpa only [clear, Clear, decide_eq_true_eq] using h
    | _ => trivial
  | writeCallback provider eventId changes loaded =>
    simpa only [clear, Clear, decide_eq_true_eq] using h
  | _ => trivial

/-- Two starts with keys of their own, and a callback that says that the first call rings. -/
def rivalTraffic (db : Database) : Traffic :=
  ⟨db, [(startRoutine sampleService sampleArguments, []),
    (startRoutine sampleService { sampleArguments with idempotencyKey := "voice_2" }, []),
    (callbackRoutine ringing "event_1" "voice_1", [])]⟩

lemma rivalTraffic_steps {Q : Database → Statement → Prop} (db : Database) :
    Relation.ReflTransGen
      (System.Step (fun db r x db' => Serve sampleService db r x db' ∧ Q db r)
        (Begins sampleService)) ⟨db, []⟩ (rivalTraffic db) :=
  .tail (.tail (.single (.start (.start sampleArguments)))
    (.start (.start { sampleArguments with idempotencyKey := "voice_2" })))
    (.start (.callback ringing ringing_normalized "event_1" "voice_1"))

/-- The second start counts the call of the first, which rings. -/
theorem sample_one_active_call :
    let S := (rivalTraffic sampleDatabase).play sampleService
      [0, 0, 0, 0, 0, 0, 0, 0, 0, 0, 0, 1, 1, 1, 1, 2, 2]
    S.shared.voiceAttempts.map (·.status) = [.ringing] ∧ OneActiveCall S := by
  refine ⟨by decide +kernel, one_active_call sampleService sampleDatabase_unique (by decide) ?_⟩
  refine .trans (rivalTraffic_steps sampleDatabase) ?_
  refine Traffic.play_steps (P := fun db r => distinct db r && clear db r) (fun db r h => ?_) _ _
    (by decide +kernel)
  obtain ⟨hd, hc⟩ := Bool.and_eq_true_iff.mp h
  exact ⟨distinct_of_distinct db r hd, clear_of_clear db r hc⟩

def Written.refused : Written → Bool
  | .secondActive => true
  | _ => false

/-- Whether the index has refused something. -/
def refusals (h : Statements) : Bool := h.any fun
  | ⟨.contact (.insertAttempt _), inserted⟩ => Bool.not inserted
  | ⟨.writeCallback _ _ _ _, written⟩ => Written.refused written
  | _ => false

lemma Unrefused.refusals {h : Statements} (hh : Unrefused h) : refusals h = false := by
  by_contra hr
  obtain ⟨⟨r, x⟩, hm, he⟩ := List.any_eq_true.mp (Bool.eq_true_of_not_eq_false hr)
  cases r with
  | contact call =>
    cases call with
    | insertAttempt attempt =>
      match x with
      | true => cases he
      | false => exact hh.reserved attempt hm
    | _ => cases he
  | writeCallback provider eventId changes loaded =>
    match x with
    | .secondActive => exact hh.written provider eventId changes loaded hm
    | .applied => cases he
    | .duplicate => cases he
    | .providerCallTaken => cases he
  | refresh held => cases he
  | fetchContact id => cases he

lemma not_oneActiveCall {S : Traffic} (h : S.clients.any (fun q => refusals q.2) = true) :
    ¬ OneActiveCall S := by
  intro hS
  obtain ⟨q, hq, hr⟩ := List.any_eq_true.mp h
  rw [(hS.unrefused q hq).refusals] at hr
  cases hr

def raised : Proc Statement Statement.Reply Unit Ended → Bool
  | .failed _ => true
  | _ => false

/-- An attempt whose submission is uncertain. -/
def uncertainDatabase : Database :=
  { sampleDatabase with
    voiceAttempts := [{ id := "voice_1", merchantId := "merchant_1", caseId := "case_1"
                        customerId := "customer_1", idempotencyKey := "voice_1"
                        provider := "twilio", status := .uncertain, uncertainSubmission := true
                        createdAt := 43100000000 }] }

/-- Two starts that both count no call: the second to insert its reservation raises. And an uncertain
call that rings while another is active: its callback raises. -/
theorem refused_by_index :
    let Step := System.Step (fun db r x db' => Serve sampleService db r x db' ∧ Distinct db r)
      (Begins sampleService)
    let S := (rivalTraffic sampleDatabase).play sampleService
      [0, 0, 0, 0, 1, 1, 1, 1, 0, 0, 0, 0, 1, 1, 1, 1, 1]
    let T := (rivalTraffic uncertainDatabase).play sampleService
      [1, 1, 1, 1, 1, 1, 1, 1, 1, 1, 1, 2, 2]
    (Relation.ReflTransGen Step ⟨sampleDatabase, []⟩ S ∧ ¬ OneActiveCall S ∧
        S.clients.map (fun q => raised q.1) = [false, true, false]) ∧
      Relation.ReflTransGen Step ⟨uncertainDatabase, []⟩ T ∧ ¬ OneActiveCall T ∧
        T.clients.map (fun q => raised q.1) = [false, false, true] := by
  refine ⟨⟨?_, not_oneActiveCall (by decide +kernel), by decide +kernel⟩, ?_,
    not_oneActiveCall (by decide +kernel), by decide +kernel⟩
  · exact .trans (rivalTraffic_steps sampleDatabase)
      (Traffic.play_steps distinct_of_distinct _ _ (by decide +kernel))
  · exact .trans (rivalTraffic_steps uncertainDatabase)
      (Traffic.play_steps distinct_of_distinct _ _ (by decide +kernel))

end RecoveryOS.Voice
