import RecoveryOS.Webhook.Inbox

/-!
# Concurrent deliveries

`InboxOutboxStore.persist` statement by statement, for any number of deliveries at once. Between two
statements of one call the others may do any of theirs. The inserts of one call are committed
together, and a call that loses the race for them rolls back and reads what the winner stored.

The inbox is unique in the pair of merchant and event, the outbox in a digest of the two joined by a
colon. Where the digests of the delivered pairs are as distinct as the pairs, every pair ends up
with the two rows of one call and every other call returns their ids (`one_pair_per_event`). Where
two pairs are joined to the same text, the second is refused (`joined_pair_refused`).
-/

namespace RecoveryOS.Webhook

open Store Table

/-! ## The calls -/

/-- A delivery, with the ids that its rows would draw. -/
structure Delivery where
  merchantId : String
  event : NormalizedRazorpayEvent
  receipt : Receipt

namespace Delivery

def pair (d : Delivery) : String × String := (d.merchantId, d.event.providerEventId)

def entry (d : Delivery) : WebhookInboxEntry := receivedEntry d.receipt d.merchantId d.event

def message (platform : Platform) (d : Delivery) : OutboxMessage :=
  receivedMessage platform d.receipt d.merchantId d.event

/-- The key that the outbox is unique in. -/
def key (platform : Platform) (d : Delivery) : String :=
  "razorpay:" ++ eventDigest platform d.merchantId d.event.providerEventId

/-- `_find_existing`. -/
def findExisting (d : Delivery) (db : Database) : Option WebhookInboxEntry :=
  findInbox ⟨d.merchantId, d.event⟩ db

/-- `_find_outbox`. -/
def findOutbox (platform : Platform) (d : Delivery) (db : Database) : Option OutboxMessage :=
  db.outbox.find? fun m => m.deduplicationKey = d.key platform

end Delivery

/-- Where a call stands: what it does next, with what it has read. -/
inductive Stage where
  | looking
  | found (inboxId : String)
  | committing
  | lost
  | reread (inboxId : Option String)
  | returned (write : InboxOutboxWrite)
  | raised (error : ProcessingError)

/-- One statement of `persist`. -/
def advance (platform : Platform) (d : Delivery) (db : Database) : Stage → Stage × Database
  | .looking =>
    match d.findExisting db with
    | some existing => (.found existing.id, db)
    | none => (.committing, db)
  | .found inboxId =>
    match d.findOutbox platform db with
    | some outbox => (.returned ⟨inboxId, outbox.id, true⟩, db)
    | none => (.raised (.other "webhook inbox exists without its atomic outbox message"), db)
  | .committing =>
    match (insertInbox d.entry db).bind (insertOutbox (d.message platform)) with
    | some db' => (.returned ⟨d.receipt.inboxId, d.receipt.outboxId, false⟩, db')
    | none => (.lost, db)
  | .lost => (.reread ((d.findExisting db).map (·.id)), db)
  | .reread existing =>
    match existing, d.findOutbox platform db with
    | some inboxId, some outbox => (.returned ⟨inboxId, outbox.id, true⟩, db)
    | _, _ => (.raised integrityError, db)
  | .returned write => (.returned write, db)
  | .raised error => (.raised error, db)

/-- The database and where each call stands. -/
structure Deliveries (n : ℕ) where
  db : Database
  stage : Fin n → Stage

section
variable {n : ℕ} (platform : Platform) (deliveries : Fin n → Delivery)

/-- One of the calls does its next statement. -/
def turn (s : Deliveries n) (i : Fin n) : Deliveries n where
  db := (advance platform (deliveries i) s.db (s.stage i)).2
  stage := Function.update s.stage i (advance platform (deliveries i) s.db (s.stage i)).1

/-- The calls take turns in the order of a schedule. -/
def deliver (db : Database) (schedule : List (Fin n)) : Deliveries n :=
  schedule.foldl (turn platform deliveries) ⟨db, fun _ => .looking⟩

end

/-! ## A call that is not disturbed -/

section
variable {platform : Platform} {d : Delivery} {db : Database}

/-- Four statements of a call, with no other between them. -/
def alone (platform : Platform) (d : Delivery) (db : Database) : Stage × Database :=
  let (s₁, db₁) := advance platform d db .looking
  let (s₂, db₂) := advance platform d db₁ s₁
  let (s₃, db₃) := advance platform d db₂ s₂
  advance platform d db₃ s₃

/-- A call that is not disturbed does what `persist` does as one transaction. -/
theorem alone_eq_persist :
    alone platform d db = match persist platform d.receipt d.merchantId d.event db with
      | .ok (write, db') => (.returned write, db')
      | .error e => (.raised e, db) := by
  have hpersist : persist platform d.receipt d.merchantId d.event db =
      match d.findExisting db with
      | some existing =>
        match d.findOutbox platform db with
        | some outbox => .ok (⟨existing.id, outbox.id, true⟩, db)
        | none => .error (.other "webhook inbox exists without its atomic outbox message")
      | none =>
        match (insertInbox d.entry db).bind (insertOutbox (d.message platform)) with
        | some db' => .ok (⟨d.receipt.inboxId, d.receipt.outboxId, false⟩, db')
        | none => .error integrityError := by
    unfold persist Delivery.findExisting Delivery.findOutbox Delivery.key
    simp only [bind, Tx.query]
    cases findInbox ⟨d.merchantId, d.event⟩ db with
    | some existing =>
      simp only [Tx.expect]
      cases db.outbox.find? _ with
      | some outbox => rfl
      | none => rfl
    | none =>
      simp only [Tx.attempt, Delivery.entry, Delivery.message]
      cases insertInbox (receivedEntry d.receipt d.merchantId d.event) db with
      | none => rfl
      | some db₁ =>
        simp only [Option.bind_some]
        cases insertOutbox (receivedMessage platform d.receipt d.merchantId d.event) db₁ with
        | none => rfl
        | some db₂ => rfl
  rw [hpersist]
  unfold alone
  cases hex : d.findExisting db with
  | some existing =>
    cases hout : d.findOutbox platform db with
    | some outbox => simp [advance, hex, hout]
    | none => simp [advance, hex, hout]
  | none =>
    cases hins : (insertInbox d.entry db).bind (insertOutbox (d.message platform)) with
    | some db' => simp [advance, hex, hins]
    | none => simp [advance, hex, hins]

end

/-! ## Winners -/

section
variable {n : ℕ} (platform : Platform) (deliveries : Fin n → Delivery)

/-- What a call at a stage knows, when the calls in `winners` have committed. -/
def Stands (winners : List (Fin n)) (i : Fin n) : Stage → Prop
  | .looking | .committing => i ∉ winners
  | .found inboxId => i ∉ winners ∧ ∃ j ∈ winners, (deliveries j).pair = (deliveries i).pair ∧
      inboxId = (deliveries j).receipt.inboxId
  | .lost => i ∉ winners ∧ ∃ j ∈ winners, (deliveries j).pair = (deliveries i).pair
  | .reread inboxId => i ∉ winners ∧ ∃ j ∈ winners, (deliveries j).pair = (deliveries i).pair ∧
      inboxId = some (deliveries j).receipt.inboxId
  | .returned write => ∃ j ∈ winners, (deliveries j).pair = (deliveries i).pair ∧
      write = ⟨(deliveries j).receipt.inboxId, (deliveries j).receipt.outboxId, decide (j ≠ i)⟩
  | .raised _ => False

/-- The rows are those of the winners, one of each pair. -/
structure Recorded (winners : List (Fin n)) (s : Deliveries n) : Prop where
  inbox : s.db.inbox = winners.map fun i => (deliveries i).entry
  outbox : s.db.outbox = winners.map fun i => (deliveries i).message platform
  once : (winners.map fun i => (deliveries i).pair).Nodup
  stands : ∀ i, Stands deliveries winners i (s.stage i)

/-- The ids that are drawn are fresh. -/
structure FreshIds : Prop where
  inbox : ∀ i j, (deliveries i).receipt.inboxId = (deliveries j).receipt.inboxId → i = j
  outbox : ∀ i j, (deliveries i).receipt.outboxId = (deliveries j).receipt.outboxId → i = j

/-- Two deliveries have the same key in the outbox only if they are of the same pair. -/
def KeysApart : Prop :=
  ∀ i j, (deliveries i).key platform = (deliveries j).key platform →
    (deliveries i).pair = (deliveries j).pair

variable {platform deliveries} {winners : List (Fin n)} {s : Deliveries n} {i : Fin n}

lemma Recorded.eq_of_pair (h : Recorded platform deliveries winners s) {j k : Fin n}
    (hj : j ∈ winners) (hk : k ∈ winners) (hp : (deliveries j).pair = (deliveries k).pair) :
    j = k :=
  List.inj_on_of_nodup_map h.once hj hk hp

lemma Recorded.findExisting_some (h : Recorded platform deliveries winners s)
    {e : WebhookInboxEntry} (he : (deliveries i).findExisting s.db = some e) :
    ∃ j ∈ winners, (deliveries j).pair = (deliveries i).pair ∧
      e.id = (deliveries j).receipt.inboxId := by
  have hmem := List.mem_of_find?_eq_some he
  have hprop := List.find?_some he
  rw [h.inbox] at hmem
  obtain ⟨j, hj, rfl⟩ := List.mem_map.mp hmem
  simp only [decide_eq_true_eq] at hprop
  exact ⟨j, hj, Prod.ext hprop.1 hprop.2.2, rfl⟩

lemma Recorded.findExisting_none (h : Recorded platform deliveries winners s)
    (he : (deliveries i).findExisting s.db = none) {j : Fin n} (hj : j ∈ winners) :
    (deliveries j).pair ≠ (deliveries i).pair := by
  intro hp
  have hall := List.find?_eq_none.mp he (deliveries j).entry
    (by rw [h.inbox]; exact List.mem_map_of_mem hj)
  apply hall
  simp only [decide_eq_true_eq]
  exact ⟨congrArg Prod.fst hp, rfl, congrArg Prod.snd hp⟩

lemma key_eq_of_pair {j : Fin n} (hp : (deliveries j).pair = (deliveries i).pair) :
    (deliveries j).key platform = (deliveries i).key platform := by
  simp only [Delivery.pair, Prod.mk.injEq] at hp
  simp only [Delivery.key, eventDigest, hp.1, hp.2]

/-- The message of a pair is that of its winner. -/
lemma Recorded.findOutbox_eq (h : Recorded platform deliveries winners s)
    (apart : KeysApart platform deliveries) {j : Fin n} (hj : j ∈ winners)
    (hp : (deliveries j).pair = (deliveries i).pair) :
    (deliveries i).findOutbox platform s.db = some ((deliveries j).message platform) := by
  cases hf : (deliveries i).findOutbox platform s.db with
  | none =>
    have hall := List.find?_eq_none.mp hf ((deliveries j).message platform)
      (by rw [h.outbox]; exact List.mem_map_of_mem hj)
    apply absurd _ hall
    simp only [decide_eq_true_eq]
    exact key_eq_of_pair hp
  | some m =>
    have hmem := List.mem_of_find?_eq_some hf
    have hprop := List.find?_some hf
    rw [h.outbox] at hmem
    obtain ⟨k, hk, rfl⟩ := List.mem_map.mp hmem
    simp only [decide_eq_true_eq] at hprop
    have hpair : (deliveries k).pair = (deliveries i).pair := apart k i hprop
    rw [h.eq_of_pair hk hj (hpair.trans hp.symm)]

/-- A commit goes through exactly if the pair has no winner. -/
lemma Recorded.commit (h : Recorded platform deliveries winners s) (fresh : FreshIds deliveries)
    (apart : KeysApart platform deliveries) (hi : i ∉ winners) :
    ((∃ j ∈ winners, (deliveries j).pair = (deliveries i).pair) ∧
      (insertInbox (deliveries i).entry s.db).bind
        (insertOutbox ((deliveries i).message platform)) = none) ∨
    ((∀ j ∈ winners, (deliveries j).pair ≠ (deliveries i).pair) ∧
      (insertInbox (deliveries i).entry s.db).bind
        (insertOutbox ((deliveries i).message platform)) =
          some { s.db with
            inbox := s.db.inbox ++ [(deliveries i).entry]
            outbox := s.db.outbox ++ [(deliveries i).message platform] }) := by
  have hne : ∀ j ∈ winners, j ≠ i := fun j hj he => hi (he ▸ hj)
  by_cases hex : ∃ j ∈ winners, (deliveries j).pair = (deliveries i).pair
  · left
    refine ⟨hex, ?_⟩
    obtain ⟨j, hj, hp⟩ := hex
    simp only [Delivery.pair, Prod.mk.injEq] at hp
    have hclash : insertInbox (deliveries i).entry s.db = none := by
      unfold insertInbox Table.insert
      rw [if_neg, Option.map_none]
      simp only [Bool.true_and, List.all_eq_true, not_forall]
      refine ⟨(deliveries j).entry, by rw [h.inbox]; exact List.mem_map_of_mem hj, ?_⟩
      simp [Delivery.entry, receivedEntry, hp.1, hp.2]
    rw [hclash, Option.bind_none]
  · right
    push Not at hex
    refine ⟨hex, ?_⟩
    have hentry : insertInbox (deliveries i).entry s.db =
        some { s.db with inbox := s.db.inbox ++ [(deliveries i).entry] } := by
      unfold insertInbox Table.insert
      rw [if_pos, Option.map_some]
      simp only [Bool.true_and, List.all_eq_true]
      intro x hx
      rw [h.inbox] at hx
      obtain ⟨j, hj, rfl⟩ := List.mem_map.mp hx
      have hid : (deliveries j).receipt.inboxId ≠ (deliveries i).receipt.inboxId :=
        fun he => hne j hj (fresh.inbox j i he)
      have hpair := hex j hj
      simp only [Delivery.pair, ne_eq, Prod.mk.injEq] at hpair
      simp only [Delivery.entry, receivedEntry, hid, decide_false, Bool.false_or, decide_true,
        Bool.and_true, Bool.not_eq_true', Bool.and_eq_false_iff]
      exact (not_and_or.mp hpair).imp decide_eq_false decide_eq_false
    rw [hentry, Option.bind_some]
    unfold insertOutbox Table.insert
    rw [if_pos, Option.map_some]
    simp only [Bool.true_and, List.all_eq_true]
    intro x hx
    rw [h.outbox] at hx
    obtain ⟨j, hj, rfl⟩ := List.mem_map.mp hx
    have hid : (deliveries j).receipt.outboxId ≠ (deliveries i).receipt.outboxId :=
      fun he => hne j hj (fresh.outbox j i he)
    have hkey : (deliveries j).key platform ≠ (deliveries i).key platform :=
      fun he => hex j hj (apart j i he)
    simp only [Bool.not_eq_true', Bool.or_eq_false_iff, decide_eq_false_iff_not]
    exact ⟨hid, hkey⟩

/-- What a call knows stays true when another commits. -/
lemma Stands.append {stage : Stage} {k : Fin n} (hk : k ≠ i)
    (h : Stands deliveries winners k stage) : Stands deliveries (winners ++ [i]) k stage := by
  have hout : k ∉ winners → k ∉ winners ++ [i] := by
    intro hnot hmem
    rcases List.mem_append.mp hmem with hmem | hmem
    · exact hnot hmem
    · exact hk (List.mem_singleton.mp hmem)
  cases stage with
  | looking => exact hout h
  | committing => exact hout h
  | found inboxId =>
    obtain ⟨hnot, j, hj, hp⟩ := h
    exact ⟨hout hnot, j, List.mem_append_left _ hj, hp⟩
  | lost =>
    obtain ⟨hnot, j, hj, hp⟩ := h
    exact ⟨hout hnot, j, List.mem_append_left _ hj, hp⟩
  | reread inboxId =>
    obtain ⟨hnot, j, hj, hp⟩ := h
    exact ⟨hout hnot, j, List.mem_append_left _ hj, hp⟩
  | returned write =>
    obtain ⟨j, hj, hp⟩ := h
    exact ⟨j, List.mem_append_left _ hj, hp⟩
  | raised error => exact h

/-- The rows stay and a call moves on. -/
lemma Recorded.move (h : Recorded platform deliveries winners s) {stage : Stage}
    (hstands : Stands deliveries winners i stage) :
    Recorded platform deliveries winners ⟨s.db, Function.update s.stage i stage⟩ := by
  refine ⟨h.inbox, h.outbox, h.once, fun k => ?_⟩
  by_cases hk : k = i
  · subst hk
    simpa using hstands
  · simpa [hk] using h.stands k

theorem Recorded.turn (h : Recorded platform deliveries winners s) (fresh : FreshIds deliveries)
    (apart : KeysApart platform deliveries) (i : Fin n) :
    ∃ winners', Recorded platform deliveries winners' (turn platform deliveries s i) := by
  have hi := h.stands i
  unfold Webhook.turn
  cases hs : s.stage i with
  | looking =>
    rw [hs] at hi
    simp only [advance]
    cases he : (deliveries i).findExisting s.db with
    | some existing =>
      obtain ⟨j, hj, hp, hid⟩ := h.findExisting_some he
      exact ⟨winners, h.move ⟨hi, j, hj, hp, hid⟩⟩
    | none => exact ⟨winners, h.move hi⟩
  | found inboxId =>
    rw [hs] at hi
    obtain ⟨hnot, j, hj, hp, rfl⟩ := hi
    simp only [advance, h.findOutbox_eq apart hj hp]
    have hji : j ≠ i := fun he => hnot (he ▸ hj)
    refine ⟨winners, h.move ⟨j, hj, hp, ?_⟩⟩
    simp [hji, Delivery.message, receivedMessage]
  | committing =>
    rw [hs] at hi
    rcases h.commit fresh apart hi with ⟨⟨j, hj, hp⟩, hnone⟩ | ⟨hfree, hsome⟩
    · simp only [advance, hnone]
      exact ⟨winners, h.move ⟨hi, j, hj, hp⟩⟩
    · simp only [advance, hsome]
      refine ⟨winners ++ [i], ?_, ?_, ?_, fun k => ?_⟩
      · simp [h.inbox]
      · simp [h.outbox]
      · rw [List.map_append, List.nodup_append]
        refine ⟨h.once, List.nodup_singleton _, ?_⟩
        intro p hp q hq
        obtain ⟨j, hj, rfl⟩ := List.mem_map.mp hp
        rw [List.mem_singleton.mp hq]
        exact hfree j hj
      · by_cases hk : k = i
        · subst hk
          simp only [Function.update_self]
          exact ⟨k, List.mem_append_right _ List.mem_cons_self, rfl, by simp⟩
        · simp only [Function.update_of_ne hk]
          exact (h.stands k).append hk
  | lost =>
    rw [hs] at hi
    obtain ⟨hnot, j, hj, hp⟩ := hi
    simp only [advance]
    cases he : (deliveries i).findExisting s.db with
    | some existing =>
      obtain ⟨k, hk, hpk, hid⟩ := h.findExisting_some he
      exact ⟨winners, h.move ⟨hnot, k, hk, hpk, congrArg some hid⟩⟩
    | none => exact absurd hp (h.findExisting_none he hj)
  | reread inboxId =>
    rw [hs] at hi
    obtain ⟨hnot, j, hj, hp, rfl⟩ := hi
    simp only [advance, h.findOutbox_eq apart hj hp]
    have hji : j ≠ i := fun he => hnot (he ▸ hj)
    refine ⟨winners, h.move ⟨j, hj, hp, ?_⟩⟩
    simp [hji, Delivery.message, receivedMessage]
  | returned write =>
    rw [hs] at hi
    exact ⟨winners, h.move hi⟩
  | raised error =>
    rw [hs] at hi
    exact hi.elim

theorem recorded_deliver {db : Database} (hinbox : db.inbox = []) (houtbox : db.outbox = [])
    (fresh : FreshIds deliveries) (apart : KeysApart platform deliveries)
    (schedule : List (Fin n)) :
    ∃ winners, Recorded platform deliveries winners (deliver platform deliveries db schedule) := by
  have hrun : ∀ (schedule : List (Fin n)) (s : Deliveries n),
      (∃ winners, Recorded platform deliveries winners s) →
        ∃ winners, Recorded platform deliveries winners
          (schedule.foldl (turn platform deliveries) s) := by
    intro schedule
    induction schedule with
    | nil => exact fun _ h => h
    | cons i schedule ih =>
      rintro s ⟨winners, h⟩
      exact ih _ (h.turn fresh apart i)
  refine hrun schedule _ ⟨[], hinbox, houtbox, List.nodup_nil, fun i => ?_⟩
  show i ∉ []
  simp

/-! ## Every call ends -/

/-- How many statements a call has left at most. -/
def Stage.left : Stage → ℕ
  | .looking => 4
  | .committing => 3
  | .lost => 2
  | .found _ | .reread _ => 1
  | .returned _ | .raised _ => 0

lemma left_advance (platform : Platform) (d : Delivery) (db : Database) (stage : Stage) :
    (advance platform d db stage).1.left ≤ stage.left - 1 := by
  cases stage with
  | looking =>
    simp only [advance]
    split <;> simp [Stage.left]
  | found inboxId =>
    simp only [advance]
    split <;> simp [Stage.left]
  | committing =>
    simp only [advance]
    split <;> simp [Stage.left]
  | lost => simp [advance, Stage.left]
  | reread inboxId =>
    simp only [advance]
    split <;> simp [Stage.left]
  | returned write => simp [advance, Stage.left]
  | raised error => simp [advance, Stage.left]

lemma left_foldl (platform : Platform) (deliveries : Fin n → Delivery) (schedule : List (Fin n))
    (s : Deliveries n) (i : Fin n) :
    ((schedule.foldl (turn platform deliveries) s).stage i).left ≤
      (s.stage i).left - schedule.count i := by
  induction schedule generalizing s with
  | nil => simp
  | cons k schedule ih =>
    rw [List.foldl_cons]
    refine (ih _).trans ?_
    by_cases hk : k = i
    · subst hk
      have hstep := left_advance platform (deliveries k) s.db (s.stage k)
      simp only [turn, Function.update_self, List.count_cons_self]
      omega
    · have hne : i ≠ k := Ne.symm hk
      simp only [turn, Function.update_of_ne hne, List.count_cons_of_ne hk]
      exact le_rfl

/-! ## One pair of rows for each event -/

/-- The rows of the inbox and of the outbox that are about a pair. -/
def entriesOf (pair : String × String) (db : Database) : List WebhookInboxEntry :=
  db.inbox.filter fun e => (e.merchantId, e.providerEventId) = pair

def messagesOf (pair : String × String) (db : Database) : List OutboxMessage :=
  db.outbox.filter fun m =>
    m.payload.map (fun p => (p.merchantId, p.event.providerEventId)) = some pair

/-- Every delivered pair has the two rows of one call, which alone was told that they are new; the
other calls for the pair were told their ids. There are no other rows. -/
structure OnePairEach (platform : Platform) (deliveries : Fin n → Delivery) (s : Deliveries n) :
    Prop where
  pair : ∀ i, ∃ j, (deliveries j).pair = (deliveries i).pair ∧
    entriesOf (deliveries i).pair s.db = [(deliveries j).entry] ∧
    messagesOf (deliveries i).pair s.db = [(deliveries j).message platform] ∧
    s.stage j = .returned
      ⟨(deliveries j).receipt.inboxId, (deliveries j).receipt.outboxId, false⟩ ∧
    ∀ k, (deliveries k).pair = (deliveries i).pair → k ≠ j → s.stage k = .returned
      ⟨(deliveries j).receipt.inboxId, (deliveries j).receipt.outboxId, true⟩
  entries : ∀ e ∈ s.db.inbox, ∃ i, (deliveries i).entry = e
  messages : ∀ m ∈ s.db.outbox, ∃ i, (deliveries i).message platform = m

lemma Recorded.filter_eq (h : Recorded platform deliveries winners s) {j : Fin n}
    (hj : j ∈ winners) (hp : (deliveries j).pair = (deliveries i).pair) :
    (winners.filter fun k => (deliveries k).pair = (deliveries i).pair) = [j] := by
  rw [← List.perm_singleton]
  have hnodup : (winners.filter fun k => (deliveries k).pair = (deliveries i).pair).Nodup :=
    (List.Nodup.of_map _ h.once).filter _
  rw [List.perm_ext_iff_of_nodup hnodup (List.nodup_singleton j)]
  intro k
  rw [List.mem_filter, List.mem_singleton, decide_eq_true_eq]
  constructor
  · rintro ⟨hk, hpk⟩
    exact h.eq_of_pair hk hj (hpk.trans hp.symm)
  · rintro rfl
    exact ⟨hj, hp⟩

theorem one_pair_per_event {db : Database} (hinbox : db.inbox = []) (houtbox : db.outbox = [])
    (fresh : FreshIds deliveries) (apart : KeysApart platform deliveries)
    {schedule : List (Fin n)} (complete : ∀ i, 4 ≤ schedule.count i) :
    OnePairEach platform deliveries (deliver platform deliveries db schedule) := by
  obtain ⟨winners, h⟩ := recorded_deliver hinbox houtbox fresh apart schedule
  set s := deliver platform deliveries db schedule with hs
  have hreturned : ∀ i, ∃ j ∈ winners, (deliveries j).pair = (deliveries i).pair ∧
      s.stage i = .returned
        ⟨(deliveries j).receipt.inboxId, (deliveries j).receipt.outboxId, decide (j ≠ i)⟩ := by
    intro i
    have hleft : (s.stage i).left = 0 := by
      have hle : (s.stage i).left ≤ Stage.looking.left - schedule.count i :=
        left_foldl platform deliveries schedule ⟨db, fun _ => .looking⟩ i
      have hc := complete i
      have hlooking : Stage.looking.left = 4 := rfl
      omega
    have hstands := h.stands i
    cases hstage : s.stage i with
    | returned write =>
      rw [hstage] at hstands
      obtain ⟨j, hj, hp, rfl⟩ := hstands
      exact ⟨j, hj, hp, rfl⟩
    | raised error =>
      rw [hstage] at hstands
      exact hstands.elim
    | looking | found | committing | lost | reread =>
      rw [hstage] at hleft
      cases hleft
  refine ⟨fun i => ?_, ?_, ?_⟩
  · obtain ⟨j, hj, hp, -⟩ := hreturned i
    refine ⟨j, hp, ?_, ?_, ?_, ?_⟩
    · unfold entriesOf
      rw [h.inbox, List.filter_map]
      exact congrArg (List.map fun k => (deliveries k).entry) (h.filter_eq hj hp)
    · unfold messagesOf
      rw [h.outbox, List.filter_map]
      refine Eq.trans ?_
        (congrArg (List.map fun k => (deliveries k).message platform) (h.filter_eq hj hp))
      congr 2
      funext k
      simp [Delivery.message, receivedMessage, Delivery.pair]
    · obtain ⟨k, hk, hpk, hstage⟩ := hreturned j
      obtain rfl := h.eq_of_pair hk hj hpk
      simpa using hstage
    · intro k hpk hkj
      obtain ⟨l, hl, hpl, hstage⟩ := hreturned k
      obtain rfl := h.eq_of_pair hl hj (hpl.trans (hpk.trans hp.symm))
      simpa [Ne.symm hkj] using hstage
  · intro e he
    rw [h.inbox] at he
    obtain ⟨i, -, rfl⟩ := List.mem_map.mp he
    exact ⟨i, rfl⟩
  · intro m hm
    rw [h.outbox] at hm
    obtain ⟨i, -, rfl⟩ := List.mem_map.mp hm
    exact ⟨i, rfl⟩

end

/-- A failed payment, delivered for a merchant under an event id. -/
def failedDelivery (merchantId providerEventId inboxId outboxId : String) : Delivery where
  merchantId := merchantId
  event :=
    { providerEventId
      eventType := "payment.failed"
      occurredAt := 1000000
      paymentState := .failed
      correlationKind := .invoiceAndSubscriptionFromPayment
      requiresAuthoritativeFetch := false
      providerPayload := [] }
  receipt := ⟨inboxId, outboxId, 2000000, 2000000⟩

/-- One event delivered twice, and another. -/
def threeDeliveries : Fin 3 → Delivery :=
  ![failedDelivery "merchant_1" "evt_1" "inbox_1" "outbox_1",
    failedDelivery "merchant_1" "evt_1" "inbox_2" "outbox_2",
    failedDelivery "merchant_1" "evt_2" "inbox_3" "outbox_3"]

/-- The calls take turns at every statement. -/
def inTurns : List (Fin 3) := [0, 1, 2, 1, 0, 2, 0, 1, 2, 1, 0, 2]

theorem threeDeliveries_once :
    sampleStore.inbox = [] ∧ sampleStore.outbox = [] ∧ FreshIds threeDeliveries ∧
      KeysApart samplePlatform threeDeliveries ∧ (∀ i, 4 ≤ inTurns.count i) ∧
      OnePairEach samplePlatform threeDeliveries
        (deliver samplePlatform threeDeliveries sampleStore inTurns) := by
  have fresh : FreshIds threeDeliveries := ⟨by decide, by decide⟩
  have apart : KeysApart samplePlatform threeDeliveries := by
    unfold KeysApart
    decide +kernel
  have complete : ∀ i, 4 ≤ inTurns.count i := by decide
  exact ⟨rfl, rfl, fresh, apart, complete, one_pair_per_event rfl rfl fresh apart complete⟩

/-- Two pairs that are joined to the same text. -/
def joinedDeliveries : Fin 2 → Delivery :=
  ![failedDelivery "acme:eu" "evt_1" "inbox_1" "outbox_1",
    failedDelivery "acme" "eu:evt_1" "inbox_2" "outbox_2"]

def joinedStore : Database where
  merchants := [⟨"acme:eu", "Asia/Kolkata"⟩, ⟨"acme", "Asia/Kolkata"⟩]

/-- The digest of `acme:eu:evt_1`. -/
def joinedPlatform : Platform where
  sha256 s := if s = "acme:eu:evt_1" then
      "2cd2d7bd2bc289675467daae94a176efc24281ea82cd3a2c7db918dcc33f4163"
    else ""
  zoneInfo _ := none

/-- The delivery of the second pair is refused, although it is of another merchant. -/
theorem joined_pair_refused :
    joinedStore.inbox = [] ∧ joinedStore.outbox = [] ∧ FreshIds joinedDeliveries ∧
      (∀ i, 4 ≤ ([0, 0, 0, 0, 1, 1, 1, 1] : List (Fin 2)).count i) ∧
      ¬ OnePairEach joinedPlatform joinedDeliveries
        (deliver joinedPlatform joinedDeliveries joinedStore [0, 0, 0, 0, 1, 1, 1, 1]) := by
  refine ⟨rfl, rfl, ⟨by decide, by decide⟩, by decide, fun h => ?_⟩
  have hraised : (deliver joinedPlatform joinedDeliveries joinedStore
      [0, 0, 0, 0, 1, 1, 1, 1]).stage 1 = .raised integrityError := by rfl
  obtain ⟨j, hp, -, -, hj, -⟩ := h.pair 1
  have hsecond : ∀ k, (joinedDeliveries k).pair = (joinedDeliveries 1).pair → k = 1 := by decide
  rw [hsecond j hp, hraised] at hj
  cases hj

end RecoveryOS.Webhook
