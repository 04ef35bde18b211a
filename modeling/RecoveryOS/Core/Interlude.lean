import RecoveryOS.Core.Approval
import RecoveryOS.Core.Commands

/-!
# What other transactions leave

Between a command and its retry any transactions may commit: webhooks, other commands, the mock
provider, the worker's activities. Whatever they are, they take no case, customer, subscription or
action away, they open no case again, and they ask for no approval of an action that is there
(`Later`, `interlude_later`).
-/

namespace RecoveryOS.Core

open Store

/-- The case is the one it was, and open only if it was. -/
structure LaterCase (c c' : RecoveryCase) : Prop where
  id : c'.id = c.id
  merchantId : c'.merchantId = c.merchantId
  customerId : c'.customerId = c.customerId
  subscriptionId : c'.subscriptionId = c.subscriptionId
  opened : c'.caseOutcome = .open → c.caseOutcome = .open

/-- What every later database has in common with the one before. -/
structure Later (db db' : Database) : Prop where
  keys : Keys db'
  customers : db'.customers.map (·.id) = db.customers.map (·.id)
  subscriptions : db'.subscriptions.map (·.id) = db.subscriptions.map (·.id)
  cases : ∀ c ∈ db.cases, ∃ c' ∈ db'.cases, LaterCase c c'
  actionIds : ∀ a ∈ db.actions, ∃ a' ∈ db'.actions, a'.id = a.id
  awaiting : ∀ a' ∈ db'.actions, a'.status = .awaitingApproval →
    (∃ a ∈ db.actions, a.id = a'.id ∧ a.caseId = a'.caseId ∧ a.status = .awaitingApproval) ∨
      ∀ a ∈ db.actions, a.id ≠ a'.id

section
variable {db db' db'' : Database} {W : Scope}

lemma LaterCase.refl (c : RecoveryCase) : LaterCase c c := ⟨rfl, rfl, rfl, rfl, fun h => h⟩

lemma LaterCase.trans {c c' c'' : RecoveryCase} (h : LaterCase c c') (h' : LaterCase c' c'') :
    LaterCase c c'' where
  id := h'.id.trans h.id
  merchantId := h'.merchantId.trans h.merchantId
  customerId := h'.customerId.trans h.customerId
  subscriptionId := h'.subscriptionId.trans h.subscriptionId
  opened ho := h.opened (h'.opened ho)

lemma Later.trans (h : Later db db') (h' : Later db' db'') : Later db db'' where
  keys := h'.keys
  customers := h'.customers.trans h.customers
  subscriptions := h'.subscriptions.trans h.subscriptions
  cases c hc := by
    obtain ⟨c', hc', hl⟩ := h.cases c hc
    obtain ⟨c'', hc'', hl'⟩ := h'.cases c' hc'
    exact ⟨c'', hc'', hl.trans hl'⟩
  actionIds a ha := by
    obtain ⟨a', ha', hid⟩ := h.actionIds a ha
    obtain ⟨a'', ha'', hid'⟩ := h'.actionIds a' ha'
    exact ⟨a'', ha'', hid'.trans hid⟩
  awaiting a'' ha'' hs := by
    rcases h'.awaiting a'' ha'' hs with ⟨a', ha', hid, hcase, hs'⟩ | hnew
    · rcases h.awaiting a' ha' hs' with ⟨a, ha, hid', hcase', hs''⟩ | hnew
      · exact .inl ⟨a, ha, hid'.trans hid, hcase'.trans hcase, hs''⟩
      · exact .inr fun a ha => hid ▸ hnew a ha
    · refine .inr fun a ha he => ?_
      obtain ⟨a', ha', hid⟩ := h.actionIds a ha
      exact hnew a' ha' (hid.trans he)

/-- The tables that a command reads are as they were. -/
lemma Later.same (hk : Keys db) (hcustomers : db'.customers.map (·.id) = db.customers.map (·.id))
    (hsubscriptions : db'.subscriptions.map (·.id) = db.subscriptions.map (·.id))
    (hcases : db'.cases = db.cases) (hactions : db'.actions = db.actions) : Later db db' where
  keys := ⟨hcases ▸ hk.cases, hactions ▸ hk.actions⟩
  customers := hcustomers
  subscriptions := hsubscriptions
  cases c hc := ⟨c, hcases ▸ hc, .refl c⟩
  actionIds a ha := ⟨a, hactions ▸ ha, rfl⟩
  awaiting a ha hs := .inl ⟨a, hactions ▸ ha, rfl, rfl, hs⟩

lemma Later.refl (hk : Keys db) : Later db db := .same hk rfl rfl rfl rfl

/-! ## Effects -/

lemma CaseMove.later {c c' : RecoveryCase} (h : CaseMove c c') : LaterCase c c' := by
  obtain ⟨hid, hmerchant, hcustomer, hsubscription⟩ := h.same
  refine ⟨hid, hmerchant, hcustomer, hsubscription, fun ho => ?_⟩
  cases h with
  | noted h => rw [← h.outcome, ho]
  | captured amount h => exact h.openOnly ho
  | marked h =>
    subst h
    exact ho
  | closed h => exact h.isOpen

lemma CasesMoved.later (h : CasesMoved db db') (hk : Table.Keyed (·.id) db.cases) :
    ∀ c ∈ db.cases, ∃ c' ∈ db'.cases, LaterCase c c' := by
  intro c hc
  have hid : c.id ∈ db'.cases.map (·.id) := by
    rw [h.ids]
    exact List.mem_map_of_mem hc
  obtain ⟨c', hc', hid'⟩ := List.mem_map.mp hid
  obtain ⟨c₀, hc₀, hmove⟩ := h.moved c' hc'
  obtain rfl := hk.eq hc₀ hc (hmove.same.id.symm.trans hid')
  exact ⟨c', hc', hmove.later⟩

lemma Move.awaiting {a a' : RecoveryActionRecord} (h : Move a a')
    (hs : a'.status = .awaitingApproval) : a.status = .awaitingApproval := by
  rcases h.status with he | he | he | ⟨he, -⟩ | ⟨he, -⟩
  · rw [← he, hs]
  all_goals
    rw [hs] at he
    cases he

/-- No effect adds or removes a customer or a subscription. -/
lemma EffectOf.people (h : EffectOf W db db') :
    db'.customers.map (·.id) = db.customers.map (·.id) ∧
      db'.subscriptions.map (·.id) = db.subscriptions.map (·.id) := by
  cases h with
  | other h => exact ⟨h.customers, h.subscriptions⟩
  | event e h =>
    obtain ⟨_, -, rfl⟩ := Option.map_eq_some_iff.mp h
    exact ⟨rfl, rfl⟩
  | invoice i h =>
    obtain ⟨_, -, rfl⟩ := Option.map_eq_some_iff.mp h
    exact ⟨rfl, rfl⟩
  | payment p h =>
    obtain ⟨_, -, rfl⟩ := Option.map_eq_some_iff.mp h
    exact ⟨rfl, rfl⟩
  | opened h hc =>
    obtain ⟨_, -, rfl⟩ := Option.map_eq_some_iff.mp h
    exact ⟨rfl, rfl⟩
  | captured t hc h =>
    unfold Database.settle
    split_ifs <;> exact ⟨rfl, rfl⟩
  | recognized t hr h =>
    obtain ⟨_, -, rfl⟩ := Option.map_eq_some_iff.mp hr
    unfold Database.settle
    split_ifs <;> exact ⟨rfl, rfl⟩
  | added h hd =>
    obtain ⟨t, ha, hp⟩ := Option.bind_eq_some_iff.mp h
    obtain ⟨_, -, rfl⟩ := Option.map_eq_some_iff.mp ha
    obtain ⟨_, -, rfl⟩ := Option.map_eq_some_iff.mp hp
    exact ⟨rfl, rfl⟩
  | _ => exact ⟨rfl, rfl⟩

lemma ActionsMoved.actionIds (h : ActionsMoved db db') :
    ∀ a ∈ db.actions, ∃ a' ∈ db'.actions, a'.id = a.id := by
  intro a ha
  have hid : a.id ∈ db'.actions.map (·.id) := by
    rw [h.ids]
    exact List.mem_map_of_mem ha
  obtain ⟨a', ha', hid'⟩ := List.mem_map.mp hid
  exact ⟨a', ha', hid'⟩

lemma Later.added (hk : Keys db) {a : RecoveryActionRecord} {p : PolicyDecisionRecord}
    (h : db.insertActionWithPolicy a p = some db')
    (hcustomers : db'.customers.map (·.id) = db.customers.map (·.id))
    (hsubscriptions : db'.subscriptions.map (·.id) = db.subscriptions.map (·.id)) :
    Later db db' := by
  obtain ⟨hnew, hactions, -, hcases⟩ := insertActionWithPolicy_tables h
  refine ⟨hk.insertActionWithPolicy h, hcustomers, hsubscriptions, fun c hc => ?_, fun x hx => ?_,
    fun x hx hs => ?_⟩
  · exact ⟨c, hcases ▸ hc, .refl c⟩
  · exact ⟨x, by rw [hactions]; exact List.mem_append_left _ hx, rfl⟩
  · rw [hactions] at hx
    rcases List.mem_append.mp hx with hx | hx
    · exact .inl ⟨x, hx, rfl, rfl, hs⟩
    · rw [List.mem_singleton.mp hx]
      exact .inr hnew

/-- The cases and the actions are those that were there, each moved or not. -/
lemma Later.moved (hk : Keys db) (ha : ActionsMoved db db') (hc : CasesMoved db db')
    (hcustomers : db'.customers.map (·.id) = db.customers.map (·.id))
    (hsubscriptions : db'.subscriptions.map (·.id) = db.subscriptions.map (·.id)) :
    Later db db' := by
  refine ⟨⟨?_, ha.keyed hk.actions⟩, hcustomers, hsubscriptions, hc.later hk.cases, ha.actionIds,
    fun a' ha' hs => ?_⟩
  · unfold Table.Keyed
    rw [hc.ids]
    exact hk.cases
  · obtain ⟨a, ha, hmove⟩ := ha.moved a' ha'
    exact .inl ⟨a, ha, hmove.id.symm, hmove.caseId.symm, hmove.awaiting hs⟩

lemma Later.opened (hk : Keys db) {c : RecoveryCase} (h : db.insertCase c = some db') :
    Later db db' := by
  obtain ⟨hnew, -, hcases⟩ := insertCase_tables h
  obtain ⟨_, -, rfl⟩ := Option.map_eq_some_iff.mp h
  refine ⟨⟨?_, hk.actions⟩, rfl, rfl, fun x hx => ?_, fun a ha => ⟨a, ha, rfl⟩,
    fun a ha hs => .inl ⟨a, ha, rfl, rfl, hs⟩⟩
  · rw [hcases]
    exact hk.cases.append fun x hx => (hnew x hx).1
  · exact ⟨x, by rw [hcases]; exact List.mem_append_left _ hx, .refl x⟩

theorem EffectOf.later (h : EffectOf W db db') (hk : Keys db) : Later db db' := by
  obtain ⟨hcustomers, hsubscriptions⟩ := h.people
  rcases h.actions with ha | ⟨a, p, hadded, -⟩
  · rcases h.cases with hc | ⟨c, -, hopened⟩
    · exact .moved hk ha hc hcustomers hsubscriptions
    · exact .opened hk hopened
  · exact .added hk hadded hcustomers hsubscriptions

theorem EvolvesOf.later (h : EvolvesOf W db db') (hk : Keys db) : Later db db' :=
  h.induct (P := Later db) (fun he hl => hl.trans (he.later hl.keys)) (.refl hk)

/-! ## The writes that do not look -/

lemma Later.commit {ε α : Type} {tx : Tx ε Database α} (hk : Keys db)
    (h : Tx.Ensures (· = db) tx fun _ => Later db) : Later db (commit tx db) := by
  rcases commit_cases h with he | hl
  · rw [he]
    exact .refl hk
  · exact hl

lemma persistRecommendation_later (hk : Keys db) (pending : Cases.PendingRecommendation) :
    Tx.Ensures (· = db) (Cases.persistRecommendation pending) fun _ => Later db := by
  refine (persistRecommendation_spec pending db).weaken ?_
  rintro - t (rfl | ⟨t₁, hadded, he⟩)
  · exact .refl hk
  · obtain ⟨t₂, ha, hp⟩ := Option.bind_eq_some_iff.mp hadded
    obtain ⟨_, -, rfl⟩ := Option.map_eq_some_iff.mp ha
    obtain ⟨_, -, rfl⟩ := Option.map_eq_some_iff.mp hp
    have hl := Later.added hk hadded rfl rfl
    exact hl.trans (he.later hl.keys)

/-- An approval leaves its action scheduled. -/
lemma commitApproval_later (hk : Keys db) (pending : Cases.PendingApproval) (t : Instant) :
    Tx.Ensures (· = db) (Cases.commitApproval pending t) fun _ => Later db := by
  refine (commitApproval_spec pending t db).weaken ?_
  rintro - s ⟨row, hrow, -, hwritten⟩
  have hmem : row ∈ db.actions := List.mem_of_find?_eq_some hrow
  have hput : Later db (db.putAction (approved row pending)) := by
    refine ⟨⟨hk.cases, hk.actions.put _⟩, rfl, rfl, fun c hc => ⟨c, hc, .refl c⟩, fun a ha => ?_,
      fun a ha hs => ?_⟩
    · by_cases he : a.id = row.id
      · exact ⟨_, Table.mem_put_self hmem rfl, he.symm⟩
      · exact ⟨a, Table.mem_put_of_ne ha he, rfl⟩
    · rcases Table.mem_put ha with rfl | ⟨ha, -⟩
      · cases hs
      · exact .inl ⟨a, ha, rfl, rfl, hs⟩
  rw [hwritten]
  cases hevent : (db.putAction (approved row pending)).insertEvent (Cases.approvalEvent row t) with
  | none => exact hput
  | some s' => exact hput.trans ((EffectOf.event (W := .any) _ hevent).later hput.keys)

/-! ## The mock provider -/

/-- What is left of the case while the payment is written. -/
def Paying (db : Database) (c : RecoveryCase) (s : Database) : Prop := Later db s ∧ c ∈ s.cases

/-- A write to the tables of the money. -/
lemma Paying.same {c : RecoveryCase} {s s' : Database} (h : Paying db c s)
    (hcustomers : s'.customers = s.customers) (hsubscriptions : s'.subscriptions = s.subscriptions)
    (hcases : s'.cases = s.cases) (hactions : s'.actions = s.actions) : Paying db c s' :=
  ⟨h.1.trans (.same h.1.keys (by rw [hcustomers]) (by rw [hsubscriptions]) hcases hactions),
    hcases ▸ h.2⟩

lemma addInvoiceCollection_paying {c : RecoveryCase} {invoiceId : String} {amount : ℤ} :
    Tx.Keeps (Paying db c) (Cases.addInvoiceCollection invoiceId amount) :=
  .bind .query fun _ => .bind .expect fun _ => .modify fun _ h => h.same rfl rfl rfl rfl

lemma recognizeRevenueOnce_paying {c : RecoveryCase} {r : RevenueRecognitionRecord} :
    Tx.Keeps (Paying db c) (Cases.recognizeRevenueOnce r) := by
  refine .bind .query fun _ => .bind (.modify fun s h => ?_) fun _ => .pure
  cases hi : s.insertRecognition r with
  | none => exact h
  | some s' =>
    obtain ⟨_, -, rfl⟩ := Option.map_eq_some_iff.mp hi
    exact h.same rfl rfl rfl rfl

lemma addEvent_later {e : RecoveryEventRecord} : Tx.Keeps (Later db) (Cases.addEvent e) := by
  refine .modify fun s h => ?_
  cases hi : s.insertEvent e with
  | none => exact h
  | some s' => exact h.trans ((EffectOf.event (W := .any) _ hi).later h.keys)

/-- The case is closed by a success of the mock provider, whether it recovers it or not. -/
lemma closeCase_mockPaid_later {c : RecoveryCase} {s : Database} (h : Paying db c s)
    (request : Cases.MockSuccess) (amount : ℤ) :
    Later db (s.closeCase (Cases.mockPaid request c amount) request.recognizedAt) :=
  h.1.trans (.moved h.1.keys (.closeCase _ _) (.put h.2 (.captured amount mockPaid_captured) rfl)
    rfl rfl)

lemma applyMockPaymentSuccess_later (hk : Keys db) {sha256 : String → String}
    (request : Cases.MockSuccess) :
    Tx.Ensures (· = db) (Cases.applyMockPaymentSuccess sha256 request) fun _ => Later db := by
  refine .query_bind fun found => .expect_bind fun c hfound => .query_bind fun existing => ?_
  cases existing with
  | some r =>
    refine .pure ?_
    rintro s ⟨⟨rfl, -⟩, -⟩
    exact .refl hk
  | none =>
    dsimp only
    refine .require_bind fun _ => .require_bind fun _ => .expect_bind fun invoiceId _ =>
      .bind (Q := fun _ => Paying db c) (.attempt ?_) fun _ => .bind addInvoiceCollection_paying
        fun _ => .bind recognizeRevenueOnce_paying fun newly => ?_
    · rintro s ⟨⟨rfl, hf⟩, -⟩ s' hs'
      obtain ⟨_, -, rfl⟩ := Option.map_eq_some_iff.mp hs'
      have hpaying : Paying s c s := ⟨.refl hk, List.mem_of_find?_eq_some (hf.trans hfound)⟩
      exact hpaying.same rfl rfl rfl rfl
    · split_ifs
      · exact .bind (.modify (Q := fun _ => Later db) fun s h => closeCase_mockPaid_later h request _)
          fun _ => .bind addEvent_later fun _ => .pure fun _ h => h
      · exact .pure fun _ h => h.1

/-! ## Any other transaction -/

/-- A transaction of the service, or one of the mock provider and the settings. -/
inductive Other where
  | service (op : Op)
  | desk (op : CaseOp)

def World.other (d : Deployment) (w : World) : Other → World
  | .service op => w.step d op
  | .desk op => { w with db := caseStep d.platform w.db op }

/-- The world after transactions, whatever they are. -/
def World.interlude (d : Deployment) (w : World) (others : List Other) : World :=
  others.foldl (fun w o => w.other d o) w

lemma step_later {d : Deployment} {w : World} (hk : Keys w.db) (op : Op) :
    Later w.db (w.step d op).db := by
  by_cases hop : op.blind
  · cases op with
    | commitRecommendation i =>
      simp only [World.step]
      split
      · exact .refl hk
      · next pending _ => exact .commit hk (persistRecommendation_later hk pending)
    | commitApproval i t =>
      simp only [World.step]
      split
      · exact .refl hk
      · next pending _ => exact .commit hk (commitApproval_later hk pending t)
    | _ => exact absurd hop id
  · exact (step_evolves hk hop).later hk

lemma caseStep_later {platform : Webhook.Platform} (hk : Keys db) (op : CaseOp) :
    Later db (caseStep platform db op) := by
  have hcommand : ∀ {α : Type} {tx : Tx Cases.CaseError Database α},
      Tx.Ensures (Evolves db) tx (fun _ => Evolves db) → Later db (commit tx db) := fun h =>
    (evolves_commit h).later hk
  cases op with
  | receive receipt m id body =>
    simp only [caseStep]
    rcases commit_cases Webhook.ingest_spec with he | he | ⟨e, q, p, hr⟩
    · rw [he]
      exact .refl hk
    · rw [he]
      exact .refl hk
    · rw [hr.tables]
      exact .same hk rfl rfl rfl rfl
  | process call => exact (Webhook.processNext_evolves db).later hk
  | recommend pending => exact .commit hk (persistRecommendation_later hk pending)
  | approve pending t => exact .commit hk (commitApproval_later hk pending t)
  | reject m c a held t => exact hcommand rejectAction_evolves
  | stop m c t => exact hcommand (stopCase_evolves trivial)
  | escalate m c reason a p t t' => exact hcommand (escalateCase_evolves trivial)
  | recordDisposition m c disposition t => exact hcommand (recordSafetyDisposition_evolves trivial)
  | mockSuccess request => exact .commit hk (applyMockPaymentSuccess_later hk request)
  | lateFailure m c id t =>
    exact .commit hk (applyLateFailureEvent_evolves.weaken fun _ _ h => EvolvesOf.later (W := .any) h hk)
  | configure settings => exact .same hk rfl rfl rfl rfl

lemma other_later {d : Deployment} {w : World} (hk : Keys w.db) (o : Other) :
    Later w.db (w.other d o).db := by
  cases o with
  | service op => exact step_later hk op
  | desk op => exact caseStep_later hk op

/-- Whatever is committed in between, in whatever order. -/
theorem interlude_later (d : Deployment) {w : World} (hk : Keys w.db) (others : List Other) :
    Later w.db (w.interlude d others).db := by
  induction others generalizing w with
  | nil => exact .refl hk
  | cons o others ih =>
    have hstep := other_later (d := d) hk o
    exact hstep.trans (ih hstep.keys)

end

end RecoveryOS.Core
