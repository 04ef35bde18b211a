import RecoveryOS.Core.Effects

/-!
# What effects do to rows

An effect moves the actions that are there, or it adds one with its decision; it changes the cases
that are there, or it opens one. From this the primary keys stay keys, and an action that is live
was live before or is new.
-/

namespace RecoveryOS.Core

open Store

variable {db db' : Database} {W : Scope}

lemma Move.refl (a : RecoveryActionRecord) : Move a a := ⟨rfl, rfl, rfl, rfl, rfl, .inl rfl⟩

/-! ## Actions -/

/-- The actions are those that were there, each moved or not, and no decision was added. -/
structure ActionsMoved (db db' : Database) : Prop where
  policies : db'.policies = db.policies
  ids : db'.actions.map (·.id) = db.actions.map (·.id)
  moved : ∀ a' ∈ db'.actions, ∃ a ∈ db.actions, Move a a'

lemma ActionsMoved.same (hp : db'.policies = db.policies) (ha : db'.actions = db.actions) :
    ActionsMoved db db' := by
  refine ⟨hp, by rw [ha], fun a' h => ?_⟩
  rw [ha] at h
  exact ⟨a', h, .refl a'⟩

lemma ActionsMoved.swept (hp : db'.policies = db.policies)
    {f : RecoveryActionRecord → RecoveryActionRecord} (ha : db'.actions = db.actions.map f)
    (hf : ∀ a ∈ db.actions, Move a (f a)) : ActionsMoved db db' := by
  refine ⟨hp, ?_, fun a' h => ?_⟩
  · rw [ha, List.map_map]
    exact List.map_congr_left fun a h => (hf a h).id
  · rw [ha] at h
    obtain ⟨a, ha, rfl⟩ := List.mem_map.mp h
    exact ⟨a, ha, hf a ha⟩

lemma ActionsMoved.closeCase (c : RecoveryCase) (t : Instant) :
    ActionsMoved db (db.closeCase c t) := by
  refine .swept rfl rfl fun a _ => ?_
  split_ifs
  · exact .cancelled a t
  · exact .refl a

lemma ActionsMoved.settle (c : RecoveryCase) (t : Instant) : ActionsMoved db (db.settle c t) := by
  unfold Database.settle
  split_ifs
  · exact .closeCase c t
  · exact .same rfl rfl

lemma insertRecognition_tables {r : RevenueRecognitionRecord}
    (h : db.insertRecognition r = some db') :
    db'.policies = db.policies ∧ db'.actions = db.actions ∧ db'.cases = db.cases := by
  obtain ⟨_, -, rfl⟩ := Option.map_eq_some_iff.mp h
  exact ⟨rfl, rfl, rfl⟩

/-- What an effect does to the actions. -/
theorem EffectOf.actions (h : EffectOf W db db') : ActionsMoved db db' ∨
    ∃ a p, db.insertActionWithPolicy a p = some db' ∧ Decided db a p := by
  cases h with
  | other h => exact .inl (.same h.policies h.actions)
  | event e h =>
    obtain ⟨_, -, rfl⟩ := Option.map_eq_some_iff.mp h
    exact .inl (.same rfl rfl)
  | invoice i h =>
    obtain ⟨_, -, rfl⟩ := Option.map_eq_some_iff.mp h
    exact .inl (.same rfl rfl)
  | payment p h =>
    obtain ⟨_, -, rfl⟩ := Option.map_eq_some_iff.mp h
    exact .inl (.same rfl rfl)
  | attempt hp h => exact .inl (.same rfl rfl)
  | opened h hc =>
    obtain ⟨_, -, rfl⟩ := Option.map_eq_some_iff.mp h
    exact .inl (.same rfl rfl)
  | noted hc h => exact .inl (.same rfl rfl)
  | captured t hc h => exact .inl (.settle _ t)
  | recognized t hr h =>
    rename_i db₁ r c c' i i'
    obtain ⟨hp, ha, -⟩ := insertRecognition_tables hr
    have hs : ActionsMoved (db₁.putInvoice i') ((db₁.putInvoice i').settle c' t) := .settle c' t
    refine .inl ⟨hs.policies.trans hp, hs.ids.trans (by rw [← ha]; rfl), fun a' h' => ?_⟩
    obtain ⟨a, h, hm⟩ := hs.moved a' h'
    exact ⟨a, ha ▸ h, hm⟩
  | marked caseId _ => exact .inl (.same rfl rfl)
  | closed t hc h _ => exact .inl (.closeCase _ t)
  | added h hd => exact .inr ⟨_, _, h, hd⟩
  | moved ha h =>
    rename_i a a'
    refine .inl ⟨rfl, Table.map_key_put, fun b hb => ?_⟩
    rcases Table.mem_put hb with rfl | ⟨hb, -⟩
    · exact ⟨a, ha, h⟩
    · exact ⟨b, hb, .refl b⟩
  | swept f h => exact .inl (.swept rfl rfl h)
  | stamped f h => exact .inl (.same rfl rfl)
  | consumed c h => exact .inl (.same rfl rfl)

/-- What adding an action with its decision does. -/
lemma insertActionWithPolicy_tables {a : RecoveryActionRecord} {p : PolicyDecisionRecord}
    (h : db.insertActionWithPolicy a p = some db') :
    (∀ x ∈ db.actions, x.id ≠ a.id) ∧ db'.actions = db.actions ++ [a] ∧
      db'.policies = db.policies ++ [p] ∧ db'.cases = db.cases := by
  obtain ⟨db₁, ha, hp⟩ := Option.bind_eq_some_iff.mp h
  obtain ⟨rows, hrows, rfl⟩ := Option.map_eq_some_iff.mp ha
  obtain ⟨rows', hrows', rfl⟩ := Option.map_eq_some_iff.mp hp
  obtain ⟨-, hnew, rfl⟩ := Table.insert_eq_some hrows
  obtain ⟨-, -, rfl⟩ := Table.insert_eq_some hrows'
  refine ⟨fun x hx he => ?_, rfl, rfl, rfl⟩
  have := hnew x hx
  simp [he] at this

/-! ## Cases -/

/-- What becomes of a row of the cases. -/
inductive CaseMove (c c' : RecoveryCase) : Prop where
  | noted (h : NotedCase c c')
  | captured (amount : ℤ) (h : CapturedCase c c' amount)
  | marked (h : c' = { c with contactDisposition := .optedOut })
  | closed (h : ClosedCase c c')

lemma CaseMove.refl (c : RecoveryCase) : CaseMove c c :=
  .noted ⟨⟨rfl, rfl, rfl, rfl, rfl, rfl, rfl, rfl, le_rfl, id⟩, rfl, rfl, rfl, rfl, id, id⟩

lemma CaseMove.same {c c' : RecoveryCase} (h : CaseMove c c') : SameCase c c' := by
  cases h with
  | noted h => exact h.toSameCase
  | captured amount h => exact h.toSameCase
  | marked h =>
    subst h
    exact ⟨rfl, rfl, rfl, rfl, rfl, rfl, rfl, rfl, le_rfl, id⟩
  | closed h => exact h.toSameCase

/-- The cases are those that were there, each changed as the code changes them. -/
structure CasesMoved (db db' : Database) : Prop where
  ids : db'.cases.map (·.id) = db.cases.map (·.id)
  moved : ∀ c' ∈ db'.cases, ∃ c ∈ db.cases, CaseMove c c'

lemma CasesMoved.same (h : db'.cases = db.cases) : CasesMoved db db' := by
  refine ⟨by rw [h], fun c' hc' => ?_⟩
  rw [h] at hc'
  exact ⟨c', hc', .refl c'⟩

lemma CasesMoved.put {c c' : RecoveryCase} (hc : c ∈ db.cases) (hm : CaseMove c c')
    (h : db'.cases = Table.put (·.id) db.cases c') : CasesMoved db db' := by
  refine ⟨by rw [h, Table.map_key_put], fun x hx => ?_⟩
  rw [h] at hx
  rcases Table.mem_put hx with rfl | ⟨hx, -⟩
  · exact ⟨c, hc, hm⟩
  · exact ⟨x, hx, .refl x⟩

lemma cases_settle (c : RecoveryCase) (t : Instant) :
    (db.settle c t).cases = Table.put (·.id) db.cases c := by
  unfold Database.settle
  split_ifs <;> rfl

/-- What opening a case does. -/
lemma insertCase_tables {c : RecoveryCase} (h : db.insertCase c = some db') :
    (∀ x ∈ db.cases, x.id ≠ c.id ∧ ¬ (x.merchantId = c.merchantId ∧
      c.failedInvoiceId.isSome = true ∧ x.failedInvoiceId = c.failedInvoiceId)) ∧
    c.openedAt < c.recoveryDeadline ∧ db'.cases = db.cases ++ [c] := by
  obtain ⟨rows, hrows, rfl⟩ := Option.map_eq_some_iff.mp h
  obtain ⟨hcheck, hnew, rfl⟩ := Table.insert_eq_some hrows
  simp only [Bool.and_eq_true, decide_eq_true_eq] at hcheck
  refine ⟨fun x hx => ?_, hcheck.2, rfl⟩
  have hclash := hnew x hx
  simp only [Bool.or_eq_false_iff, Bool.and_eq_false_iff, decide_eq_false_iff_not] at hclash
  refine ⟨hclash.1.1, fun ⟨hm, hs, hi⟩ => ?_⟩
  simp [hm, hs, hi] at hclash

/-- What an effect does to the cases. -/
theorem EffectOf.cases (h : EffectOf W db db') : CasesMoved db db' ∨
    ∃ c, NewCase c ∧ db.insertCase c = some db' := by
  cases h with
  | other h => exact .inl (.same h.cases)
  | event e h =>
    obtain ⟨_, -, rfl⟩ := Option.map_eq_some_iff.mp h
    exact .inl (.same rfl)
  | invoice i h =>
    obtain ⟨_, -, rfl⟩ := Option.map_eq_some_iff.mp h
    exact .inl (.same rfl)
  | payment p h =>
    obtain ⟨_, -, rfl⟩ := Option.map_eq_some_iff.mp h
    exact .inl (.same rfl)
  | attempt hp h => exact .inl (.same rfl)
  | opened h hc => exact .inr ⟨_, hc, h⟩
  | noted hc h => exact .inl (.put hc (.noted h) rfl)
  | captured t hc h => exact .inl (.put hc (.captured 0 h) (cases_settle _ t))
  | recognized t hr h =>
    refine .inl (.put h.mem (.captured _ h.captured) ?_)
    rw [cases_settle]
    exact congrArg (Table.put _ · _) (insertRecognition_tables hr).2.2
  | marked caseId _ =>
    refine .inl ⟨?_, fun c' hc' => ?_⟩
    · rw [List.map_map]
      refine List.map_congr_left fun c _ => ?_
      simp only [Function.comp]
      split_ifs <;> rfl
    · obtain ⟨c, hc, rfl⟩ := List.mem_map.mp hc'
      refine ⟨c, hc, ?_⟩
      split_ifs
      · exact .marked rfl
      · exact .refl c
  | closed t hc h _ => exact .inl (.put hc (.closed h) rfl)
  | added h hd => exact .inl (.same (insertActionWithPolicy_tables h).2.2.2)
  | moved ha h => exact .inl (.same rfl)
  | swept f h => exact .inl (.same rfl)
  | stamped f h => exact .inl (.same rfl)
  | consumed c h => exact .inl (.same rfl)

/-! ## Keys -/

/-- The primary keys of the cases and the actions. -/
structure Keys (db : Database) : Prop where
  cases : Table.Keyed (·.id) db.cases
  actions : Table.Keyed (·.id) db.actions

lemma ActionsMoved.keyed (h : ActionsMoved db db') (hk : Table.Keyed (·.id) db.actions) :
    Table.Keyed (·.id) db'.actions := by
  unfold Table.Keyed
  rw [h.ids]
  exact hk

lemma keyed_insertActionWithPolicy {a : RecoveryActionRecord} {p : PolicyDecisionRecord}
    (h : db.insertActionWithPolicy a p = some db') (hk : Table.Keyed (·.id) db.actions) :
    Table.Keyed (·.id) db'.actions := by
  obtain ⟨hnew, ha, -⟩ := insertActionWithPolicy_tables h
  rw [ha]
  exact hk.append hnew

lemma Keys.insertActionWithPolicy {a : RecoveryActionRecord} {p : PolicyDecisionRecord}
    (hk : Keys db) (h : db.insertActionWithPolicy a p = some db') : Keys db' := by
  refine ⟨?_, keyed_insertActionWithPolicy h hk.actions⟩
  rw [(insertActionWithPolicy_tables h).2.2.2]
  exact hk.cases

lemma EffectOf.keyedActions (h : EffectOf W db db') (hk : Table.Keyed (·.id) db.actions) :
    Table.Keyed (·.id) db'.actions := by
  rcases h.actions with hm | ⟨a, p, ha, -⟩
  · exact hm.keyed hk
  · exact keyed_insertActionWithPolicy ha hk

lemma EvolvesOf.keyedActions (h : EvolvesOf W db db') (hk : Table.Keyed (·.id) db.actions) :
    Table.Keyed (·.id) db'.actions :=
  h.induct (P := fun db => Table.Keyed (·.id) db.actions) EffectOf.keyedActions hk

lemma Keys.effect (h : EffectOf W db db') (hk : Keys db) : Keys db' := by
  refine ⟨?_, h.keyedActions hk.actions⟩
  rcases h.cases with hm | ⟨c, -, hins⟩
  · unfold Table.Keyed
    rw [hm.ids]
    exact hk.cases
  · obtain ⟨hnew, -, hc⟩ := insertCase_tables hins
    rw [hc]
    exact hk.cases.append fun x hx => (hnew x hx).1

lemma Keys.evolves (hk : Keys db) (h : EvolvesOf W db db') : Keys db' := h.induct Keys.effect hk

end RecoveryOS.Core
