import RecoveryOS.Webhook.Inbox

/-!
# Concurrent pollers

`process_next` as its transactions: the one that takes a message up, the dispatch of the signal, and
the one that publishes the message or records the failure. The first holds a lock on the row of the
message, which it gives up at its commit; from there on a lease keeps other pollers away, and a
lease ends. The last transaction writes what it has in hand, or reads the row anew to record a
failure, and looks neither time at whether the message is published.

So a publication is final in every run where no message is taken up while another poller has it in
hand (`publication_final`). Undisturbed, the transactions of a poller are the `processNext` of the
other modules (`alone_eq_processNext`).
-/

namespace RecoveryOS.Webhook

open Store Table

/-- What a poller has in hand between its transactions: the rows as it read them, or a failure that
is not yet recorded. -/
inductive Hand where
  | leased (call : Call) (outbox : OutboxMessage) (payload : RazorpayOutboxPayload)
      (inbox : WebhookInboxEntry) (effects : List (String × Json)) (caseId : Option String)
  | signalled (call : Call) (outbox : OutboxMessage) (payload : RazorpayOutboxPayload)
      (inbox : WebhookInboxEntry) (caseId : Option String)
  | failed (call : Call) (outboxId : String) (payload : Option RazorpayOutboxPayload)
      (caseId : Option String) (code : String)

def Hand.outboxId : Hand → String
  | .leased _ outbox _ _ _ _ => outbox.id
  | .signalled _ outbox _ _ _ => outbox.id
  | .failed _ id _ _ _ => id

def Hand.payload : Hand → Option RazorpayOutboxPayload
  | .leased _ _ payload _ _ _ => some payload
  | .signalled _ _ payload _ _ => some payload
  | .failed _ _ payload _ _ => payload

/-- The entry that a hand writes when it publishes. -/
def Hand.inbox : Hand → Option WebhookInboxEntry
  | .leased _ _ _ inbox _ _ => some inbox
  | .signalled _ _ _ inbox _ => some inbox
  | .failed _ _ _ _ _ => none

/-- The database, what each poller has in hand, and the messages whose signal was sent. -/
structure Pollers where
  db : Database
  hands : ℕ → Option Hand := fun _ => none
  dispatched : List String := []

inductive Poll where
  /-- A webhook is received. -/
  | receive (receipt : Receipt) (merchantId providerEventId : String) (body : List (String × Json))
  /-- The transactions of a poller, and the dispatch between them. -/
  | take (poller : ℕ) (call : Call)
  | signal (poller : ℕ)
  | complete (poller : ℕ)
  | record (poller : ℕ)
  /-- A poller dies. -/
  | crash (poller : ℕ)
  /-- Other components write to the other tables. -/
  | elsewhere (tables : Database)

/-- The signal that a message is dispatched with. -/
def signalOf (outbox : OutboxMessage) (payload : RazorpayOutboxPayload)
    (effects : List (String × Json)) (caseId : Option String) : RazorpayDownstreamSignal where
  idempotencyKey := outbox.deduplicationKey
  merchantId := payload.merchantId
  providerEventId := payload.event.providerEventId
  eventType := payload.event.eventType
  caseId := caseId
  normalizedEvent := payload.event
  effects := effects

/-- The columns that publishing writes. A column is written if the object in hand changes, so an
error that it did not have stays. -/
def publishedMessage (call : Call) (outbox row : OutboxMessage) : OutboxMessage :=
  { row with
    attemptCount := outbox.attemptCount + 1
    publishedAt := some call.completedAt
    lastErrorCode := if outbox.lastErrorCode.isSome then none else row.lastErrorCode }

def processedEntry (call : Call) (inbox row : WebhookInboxEntry) : WebhookInboxEntry :=
  { row with
    processedAt := some call.completedAt
    processingErrorCode :=
      if inbox.processingErrorCode.isSome then none else row.processingErrorCode }

/-- The commit at the end of `process_next`. -/
def publish (call : Call) (outbox : OutboxMessage) (inbox : WebhookInboxEntry) (db : Database) :
    Database :=
  { db with
    inbox := db.inbox.map fun row =>
      if row.id = inbox.id then processedEntry call inbox row else row
    outbox := db.outbox.map fun row =>
      if row.id = outbox.id then publishedMessage call outbox row else row }

namespace Pollers

variable (platform : Platform) (s : Pollers)

def hold (poller : ℕ) (hand : Hand) : Pollers :=
  { s with hands := Function.update s.hands poller (some hand) }

def release (poller : ℕ) : Pollers := { s with hands := Function.update s.hands poller none }

/-- The poller's transaction is rolled back. -/
def fail (poller : ℕ) (call : Call) (outboxId : String) (payload : Option RazorpayOutboxPayload)
    (caseId : Option String) (e : ProcessingError) : Pollers :=
  s.hold poller (.failed call outboxId payload caseId (errorCode e))

/-- The signal's receiver refused it. -/
def signalFailed : ProcessingError :=
  .integration "RAZORPAY_DOWNSTREAM_SIGNAL_FAILED" "The downstream recovery signal was not confirmed."

/-- A message that needs no authorization is dispatched and published under the lock of its row. -/
def finish (poller : ℕ) (call : Call) (outbox : OutboxMessage) (payload : RazorpayOutboxPayload)
    (inbox : WebhookInboxEntry) (effects : List (String × Json)) (caseId : Option String)
    (db : Database) : Pollers :=
  let s := { s with dispatched := s.dispatched ++ [outbox.id] }
  if call.downstreamSignal (signalOf outbox payload effects caseId) then
    if call.commits .completion then { s with db := publish call outbox inbox db }
    else s.fail poller call outbox.id payload caseId (.other "commit")
  else s.fail poller call outbox.id payload caseId signalFailed

/-- The first transaction of `process_next`, on the message that it takes up. -/
def takeUp (poller : ℕ) (call : Call) (outbox : OutboxMessage) : Pollers :=
  match outbox.payload with
  | none => s.fail poller call outbox.id none none (.other "ValidationError")
  | some payload =>
    match applyMessage platform call payload s.db with
    | .error e => s.fail poller call outbox.id payload none e
    | .ok ((inbox, effects, recoveryCase), applied) =>
      let caseId := recoveryCase.map (·.id)
      match authorize platform call payload effects recoveryCase applied with
      | .error e => s.fail poller call outbox.id payload caseId e
      | .ok (none, authorized) => s.finish poller call outbox payload inbox effects caseId authorized
      | .ok (some effects, authorized) =>
        if call.commits .authorization then
          let outbox := { outbox with availableAt := call.now + call.dispatchLease }
          { s with db := authorized.putOutbox outbox }.hold poller
            (.leased call outbox payload inbox effects caseId)
        else s.fail poller call outbox.id payload caseId (.other "commit")

def step : Poll → Pollers
  | .receive receipt merchantId providerEventId body =>
    match ingest platform receipt merchantId providerEventId body s.db with
    | .ok (_, db) => { s with db }
    | .error _ => s
  | .take poller call =>
    match s.hands poller, nextMessage call s.db with
    | none, some outbox => s.takeUp platform poller call outbox
    | _, _ => s
  | .signal poller =>
    match s.hands poller with
    | some (.leased call outbox payload inbox effects caseId) =>
      let s := { s with dispatched := s.dispatched ++ [outbox.id] }
      if call.downstreamSignal (signalOf outbox payload effects caseId) then
        s.hold poller (.signalled call outbox payload inbox caseId)
      else s.fail poller call outbox.id payload caseId signalFailed
    | _ => s
  | .complete poller =>
    match s.hands poller with
    | some (.signalled call outbox payload inbox caseId) =>
      if call.commits .completion then
        { s with db := publish call outbox inbox s.db }.release poller
      else s.fail poller call outbox.id payload caseId (.other "commit")
    | _ => s
  | .record poller =>
    match s.hands poller with
    | some (.failed call outboxId payload caseId code) =>
      { s with db := (recordFailure call outboxId payload caseId code s.db).2 }.release poller
    | _ => s
  | .crash poller => s.release poller
  | .elsewhere tables => { s with db := { tables with inbox := s.db.inbox, outbox := s.db.outbox } }

def run (polls : List Poll) : Pollers := polls.foldl (fun s poll => s.step platform poll) s

/-- The pollers after the first `k` steps of a run. -/
def after (polls : List Poll) (k : ℕ) : Pollers := s.run platform (polls.take k)

lemma after_succ {polls : List Poll} {k : ℕ} {poll : Poll} (h : polls[k]? = some poll) :
    s.after platform polls (k + 1) = (s.after platform polls k).step platform poll := by
  unfold after run
  rw [List.take_add_one, h]
  simp

end Pollers

/-! ## Steps -/

section
variable {platform : Platform}

lemma publish_touched {db : Database} (hm : Mail platform db) {call : Call} {outbox : OutboxMessage}
    {inbox row : WebhookInboxEntry} {payload : Option RazorpayOutboxPayload}
    {p : RazorpayOutboxPayload} (hp : payload = some p) (hrow : row ∈ db.inbox)
    (hid : row.id = inbox.id) (ho : EntryOf p row) :
    Touched outbox.id payload db (publish call outbox inbox db) := by
  refine ⟨⟨_, rfl, fun m _ => ?_⟩, ⟨_, rfl, fun e he => ?_⟩⟩
  · split_ifs with h
    · exact ⟨⟨rfl, rfl, rfl⟩, fun hne => absurd h hne⟩
    · exact ⟨.refl m, fun _ => rfl⟩
  · split_ifs with h
    · obtain rfl : e = row := hm.inbox_keyed.eq he hrow (h.trans hid.symm)
      exact ⟨⟨rfl, rfl, rfl, rfl, rfl, rfl, rfl⟩, fun hne => absurd ho (hne p hp)⟩
    · exact ⟨.refl e, fun _ => rfl⟩

/-- What a poller has in hand is unpublished, and the entry it holds is the message's. -/
structure InHand (db : Database) (h : Hand) : Prop where
  unpublished : ∃ m ∈ db.outbox, m.id = h.outboxId ∧ m.payload = h.payload ∧ m.publishedAt = none
  entry : ∀ e, h.inbox = some e → ∃ p row, h.payload = some p ∧ row ∈ db.inbox ∧ row.id = e.id ∧
    EntryOf p row

structure Orderly (platform : Platform) (s : Pollers) : Prop where
  mail : Mail platform s.db
  held : ∀ p h, s.hands p = some h → InHand s.db h
  apart : ∀ p q h h', s.hands p = some h → s.hands q = some h' → h.outboxId = h'.outboxId → p = q

/-- A poller works on an unpublished message: it changes the rows of that message alone. -/
structure Works (s s' : Pollers) (poller : ℕ) (id : String)
    (payload : Option RazorpayOutboxPayload) : Prop where
  unpublished : ∃ m ∈ s.db.outbox, m.id = id ∧ m.payload = payload ∧ m.publishedAt = none
  touched : Touched id payload s.db s'.db
  dispatched : s'.dispatched = s.dispatched ∨ s'.dispatched = s.dispatched ++ [id]
  others : ∀ q, q ≠ poller → s'.hands q = s.hands q
  hand : ∀ h, s'.hands poller = some h → h.outboxId = id ∧ InHand s'.db h

/-- What a step does: it works on a message, or receives one, or does nothing to the mail. -/
inductive Outcome (platform : Platform) (s s' : Pollers) : Prop where
  | quiet (hi : s'.db.inbox = s.db.inbox) (ho : s'.db.outbox = s.db.outbox)
      (hh : ∀ q h, s'.hands q = some h → s.hands q = some h) (hd : s'.dispatched = s.dispatched)
  | received (e : WebhookInboxEntry) (m : OutboxMessage) (p : RazorpayOutboxPayload)
      (hr : Received platform s.db s'.db e m p) (hh : s'.hands = s.hands)
      (hd : s'.dispatched = s.dispatched)
  | works (poller : ℕ) (id : String) (payload : Option RazorpayOutboxPayload)
      (hw : Works s s' poller id payload)
      (hmine : ∀ q h, s.hands q = some h → h.outboxId = id → q = poller)

variable {s s' : Pollers} {poller : ℕ} {call : Call}

/-- The poller works on and holds a hand, or none. -/
lemma works_of_update {m : OutboxMessage} {o : Option Hand} (hm : m ∈ s.db.outbox)
    (hopen : m.publishedAt = none) (ht : Touched m.id m.payload s.db s'.db)
    (hd : s'.dispatched = s.dispatched ∨ s'.dispatched = s.dispatched ++ [m.id])
    (hh : s'.hands = Function.update s.hands poller o)
    (ho : ∀ h, o = some h → h.outboxId = m.id ∧ InHand s'.db h) :
    Works s s' poller m.id m.payload := by
  refine ⟨⟨m, hm, rfl, rfl, hopen⟩, ht, hd, fun q hq => ?_, fun h hs => ?_⟩
  · rw [hh, Function.update_of_ne hq]
  · rw [hh, Function.update_self] at hs
    exact ho h hs

/-- The transaction is rolled back, and the failure is in hand. -/
lemma fail_works {m : OutboxMessage} (hm : m ∈ s.db.outbox) (hopen : m.publishedAt = none)
    (hdb : s'.db = s.db)
    (hd : s'.dispatched = s.dispatched ∨ s'.dispatched = s.dispatched ++ [m.id])
    (hh : s'.hands = s.hands) {caseId : Option String} {e : ProcessingError} :
    Works s (s'.fail poller call m.id m.payload caseId e) poller m.id m.payload := by
  refine works_of_update (o := some (.failed call m.id m.payload caseId (errorCode e))) hm hopen
    (.of_eq (congrArg _ hdb) (congrArg _ hdb)) hd ?_ ?_
  · show Function.update s'.hands poller _ = _
    rw [hh]
  · intro h hfailed
    obtain rfl := Option.some.inj hfailed
    refine ⟨rfl, ⟨m, ?_, rfl, rfl, hopen⟩, fun e he => by cases he⟩
    show m ∈ s'.db.outbox
    rw [hdb]
    exact hm

lemma finish_works (hs : Orderly platform s) {m : OutboxMessage} (hm : m ∈ s.db.outbox)
    (hopen : m.publishedAt = none) (hidle : s.hands poller = none) {p : RazorpayOutboxPayload}
    (hp : m.payload = some p) {inbox : WebhookInboxEntry} (hin : inbox ∈ s.db.inbox)
    (ho : EntryOf p inbox) {effects : List (String × Json)} {caseId : Option String} {db : Database}
    (hmail : MailIs s.db.inbox s.db.outbox db) :
    Works s (s.finish poller call m p inbox effects caseId db) poller m.id m.payload := by
  unfold Pollers.finish
  dsimp only
  split_ifs
  · have hm' : Mail platform db :=
      hs.mail.touched (Touched.of_eq hmail.1 hmail.2 : Touched m.id m.payload s.db db)
    refine works_of_update (o := none) hm hopen (.of_mail hmail ?_) (.inr rfl) ?_
      fun h hh => by cases hh
    · exact publish_touched hm' hp (hmail.1.symm ▸ hin) rfl ho
    · rw [← hidle, Function.update_eq_self]
  · rw [← hp]
    refine fail_works hm hopen ?_ (.inr ?_) ?_ <;> rfl
  · rw [← hp]
    refine fail_works hm hopen ?_ (.inr ?_) ?_ <;> rfl

lemma takeUp_works (hs : Orderly platform s) {m : OutboxMessage} (hm : m ∈ s.db.outbox)
    (hopen : m.publishedAt = none) (hidle : s.hands poller = none) :
    Works s (s.takeUp platform poller call m) poller m.id m.payload := by
  unfold Pollers.takeUp
  split
  · next hp =>
    rw [← hp]
    exact fail_works hm hopen rfl (.inl rfl) rfl
  · next p hp =>
    split
    · rw [← hp]
      exact fail_works hm hopen rfl (.inl rfl) rfl
    · next inbox effects recoveryCase applied happ =>
      obtain ⟨hin, ho⟩ := applyMessage_entry s.db rfl _ _ happ
      have hmail := applyMessage_mail s.db ⟨rfl, rfl⟩ _ _ happ
      dsimp only
      split
      · rw [← hp]
        exact fail_works hm hopen rfl (.inl rfl) rfl
      · next authorized hauth =>
        exact finish_works hs hm hopen hidle hp hin ho (authorize_mail applied hmail _ _ hauth)
      · next effects' authorized hauth =>
        have hmail' := authorize_mail applied hmail _ _ hauth
        split_ifs
        · -- the row is leased, and stays unpublished
          have hrow : { m with availableAt := call.now + call.dispatchLease } ∈
              (authorized.putOutbox { m with availableAt := call.now + call.dispatchLease }).outbox :=
            mem_put_self (y := m) (by rw [hmail'.2]; exact hm) rfl
          refine works_of_update hm hopen (.of_mail hmail' ?_) (.inl rfl) rfl ?_
          · refine touched_putOutbox ?_ (m := m) ?_ ⟨rfl, rfl, rfl⟩ rfl
            · rw [hmail'.2]
              exact hs.mail.outbox_keyed
            · rw [hmail'.2]
              exact hm
          · rintro h hh
            obtain rfl := Option.some.inj hh
            refine ⟨rfl, ⟨_, hrow, rfl, hp, hopen⟩, fun e he => ?_⟩
            obtain rfl := Option.some.inj he
            refine ⟨p, inbox, rfl, ?_, rfl, ho⟩
            show inbox ∈ authorized.inbox
            rw [hmail'.1]
            exact hin
        · rw [← hp]
          exact fail_works hm hopen rfl (.inl rfl) rfl

/-- No other poller has the message in hand that a call would take up. -/
def Pollers.Free (s : Pollers) (call : Call) : Prop :=
  ∀ m, nextMessage call s.db = some m → ∀ q h, s.hands q = some h → h.outboxId ≠ m.id

lemma quiet_self : Outcome platform s s := .quiet rfl rfl (fun _ _ h => h) rfl

/-- A poller that has a hand goes on with it. -/
lemma works_outcome (hs : Orderly platform s) {h : Hand} (hh : s.hands poller = some h)
    {m : OutboxMessage} (hm : m.id = h.outboxId) (hw : Works s s' poller m.id m.payload) :
    Outcome platform s s' :=
  .works poller m.id m.payload hw fun q h' hq hid => hs.apart q poller h' h hq hh (hid.trans hm)

theorem step_outcome (hs : Orderly platform s) {poll : Poll}
    (hfree : ∀ poller call, poll = .take poller call → s.hands poller = none → s.Free call) :
    Outcome platform s (s.step platform poll) := by
  cases poll with
  | receive receipt merchantId providerEventId body =>
    simp only [Pollers.step]
    split
    · next w db heq =>
      rcases ingest_spec s.db rfl w db heq with rfl | ⟨e, m, p, hr⟩
      · exact quiet_self
      · exact .received e m p hr rfl rfl
    · exact quiet_self
  | take poller call =>
    simp only [Pollers.step]
    split
    · next outbox hidle hnext =>
      obtain ⟨hm, hopen⟩ := nextMessage_spec hnext
      refine .works poller outbox.id outbox.payload (takeUp_works hs hm hopen hidle) ?_
      intro q h hq hid
      exact absurd hid (hfree poller call rfl hidle outbox hnext q h hq)
    · exact quiet_self
  | signal poller =>
    simp only [Pollers.step]
    split
    · next call outbox payload inbox effects caseId hh =>
      obtain ⟨⟨m, hm, hid, hp, hopen⟩, hentry⟩ := hs.held poller _ hh
      refine works_outcome hs hh hid ?_
      replace hid : m.id = outbox.id := hid
      replace hp : m.payload = some payload := hp
      split_ifs
      · refine works_of_update hm hopen (.of_eq rfl rfl)
          (.inr (congrArg (fun x => s.dispatched ++ [x]) hid.symm)) rfl fun h hsome => ?_
        obtain rfl := Option.some.inj hsome
        exact ⟨hid.symm, ⟨m, hm, hid, hp, hopen⟩, hentry⟩
      · rw [← hid, ← hp]
        refine fail_works hm hopen ?_ (.inr ?_) ?_ <;> rfl
    · exact quiet_self
  | complete poller =>
    simp only [Pollers.step]
    split
    · next call outbox payload inbox caseId hh =>
      obtain ⟨⟨m, hm, hid, hp, hopen⟩, hentry⟩ := hs.held poller _ hh
      refine works_outcome hs hh hid ?_
      replace hid : m.id = outbox.id := hid
      replace hp : m.payload = some payload := hp
      obtain ⟨p, row, hpp, hrow, hrid, hof⟩ := hentry inbox rfl
      obtain rfl : payload = p := Option.some.inj hpp
      split_ifs
      · refine works_of_update (o := none) hm hopen ?_ (.inl rfl) rfl fun h hsome => by cases hsome
        rw [hid]
        exact publish_touched hs.mail hp hrow hrid hof
      · rw [← hid, ← hp]
        refine fail_works hm hopen ?_ (.inl ?_) ?_ <;> rfl
    · exact quiet_self
  | record poller =>
    simp only [Pollers.step]
    split
    · next call outboxId payload caseId code hh =>
      obtain ⟨⟨m, hm, hid, hp, hopen⟩, -⟩ := hs.held poller _ hh
      refine works_outcome hs hh hid ?_
      refine works_of_update (o := none) hm hopen ?_ (.inl rfl) rfl fun h hsome => by cases hsome
      replace hid : m.id = outboxId := hid
      replace hp : m.payload = payload := hp
      rw [hid, hp]
      exact recordFailure_touched hs.mail
    · exact quiet_self
  | crash poller =>
    refine .quiet rfl rfl (fun q h hq => ?_) rfl
    by_cases hqp : q = poller
    · subst hqp
      simp [Pollers.step, Pollers.release] at hq
    · simpa [Pollers.step, Pollers.release, Function.update_of_ne hqp] using hq
  | elsewhere tables => exact .quiet rfl rfl (fun _ _ h => h) rfl

/-! ## What a step keeps -/

/-- Rows that a step works on stay what they are about, and the others stay as they are. -/
lemma InHand.touched {db db' : Database} {h : Hand} (hh : InHand db h) {id : String}
    {payload : Option RazorpayOutboxPayload} (ht : Touched id payload db db')
    (hne : h.outboxId ≠ id) : InHand db' h := by
  obtain ⟨⟨m, hm, hid, hp, hopen⟩, hentry⟩ := hh
  obtain ⟨⟨g, hg, hgm⟩, ⟨f, hf, hfe⟩⟩ := ht
  refine ⟨⟨m, ?_, hid, hp, hopen⟩, fun e he => ?_⟩
  · rw [hg, ← (hgm m hm).2 (by rw [hid]; exact hne)]
    exact List.mem_map_of_mem hm
  · obtain ⟨p, row, hpp, hrow, hrid, hof⟩ := hentry e he
    have hs := (hfe row hrow).1
    refine ⟨p, f row, hpp, ?_, hs.id.trans hrid, ?_⟩
    · rw [hf]
      exact List.mem_map_of_mem hrow
    · exact ⟨hs.merchantId.trans hof.merchantId, hs.provider.trans hof.provider,
        hs.providerEventId.trans hof.providerEventId⟩

lemma Orderly.outcome (hs : Orderly platform s) (ho : Outcome platform s s') :
    Orderly platform s' := by
  cases ho with
  | quiet hi hout hh hd =>
    have ht : Touched "" none s.db s'.db := .of_eq hi hout
    refine ⟨hs.mail.touched ht, fun p h hp => ?_, fun p q h h' hp hq => ?_⟩
    · obtain ⟨⟨m, hm, hrest⟩, hentry⟩ := hs.held p h (hh p h hp)
      refine ⟨⟨m, hout ▸ hm, hrest⟩, fun e he => ?_⟩
      rw [hi]
      exact hentry e he
    · exact hs.apart p q h h' (hh p h hp) (hh q h' hq)
  | received e m p hr hh hd =>
    refine ⟨hs.mail.received hr, fun q h hq => ?_, fun q r h h' hq hr' => ?_⟩
    · obtain ⟨⟨x, hx, hrest⟩, hentry⟩ := hs.held q h (hh ▸ hq)
      rw [hr.tables]
      refine ⟨⟨x, List.mem_append_left _ hx, hrest⟩, fun f hf => ?_⟩
      obtain ⟨pl, row, hpl, hrow, hrid⟩ := hentry f hf
      exact ⟨pl, row, hpl, List.mem_append_left _ hrow, hrid⟩
    · rw [hh] at hq hr'
      exact hs.apart q r h h' hq hr'
  | works poller id payload hw hmine =>
    -- another poller's hand is at another message
    have hother : ∀ q h, q ≠ poller → s'.hands q = some h →
        s.hands q = some h ∧ h.outboxId ≠ id := by
      intro q h hq hh
      rw [hw.others q hq] at hh
      exact ⟨hh, fun hid => hq (hmine q h hh hid)⟩
    refine ⟨hs.mail.touched hw.touched, fun q h hq => ?_, fun q r h h' hq hr hid => ?_⟩
    · by_cases hqp : q = poller
      · exact (hw.hand h (hqp ▸ hq)).2
      · obtain ⟨hold, hne⟩ := hother q h hqp hq
        exact (hs.held q h hold).touched hw.touched hne
    · by_cases hqp : q = poller <;> by_cases hrp : r = poller
      · rw [hqp, hrp]
      · obtain ⟨-, hne⟩ := hother r h' hrp hr
        exact absurd (hid.symm.trans (hw.hand h (hqp ▸ hq)).1) hne
      · obtain ⟨-, hne⟩ := hother q h hqp hq
        exact absurd (hid.trans (hw.hand h' (hrp ▸ hr)).1) hne
      · exact hs.apart q r h h' (hother q h hqp hq).1 (hother r h' hrp hr).1 hid

/-- A published message and its entry stay as they are, and it is not dispatched again. -/
lemma final_outcome (hs : Orderly platform s) (ho : Outcome platform s s') {m : OutboxMessage}
    {p : RazorpayOutboxPayload} {e : WebhookInboxEntry} (hm : m ∈ s.db.outbox)
    (hp : m.payload = some p) (hpub : m.publishedAt ≠ none) (he : e ∈ s.db.inbox)
    (hof : EntryOf p e) :
    m ∈ s'.db.outbox ∧ e ∈ s'.db.inbox ∧ s'.dispatched.count m.id = s.dispatched.count m.id := by
  cases ho with
  | quiet hi hout hh hd =>
    rw [hi, hout, hd]
    exact ⟨hm, he, rfl⟩
  | received e' m' p' hr hh hd =>
    rw [hr.tables, hd]
    exact ⟨List.mem_append_left _ hm, List.mem_append_left _ he, rfl⟩
  | works poller id payload hw hmine =>
    obtain ⟨x, hx, hxid, hxp, hxopen⟩ := hw.unpublished
    have hxm : x ≠ m := by
      rintro rfl
      exact hpub hxopen
    have hid : m.id ≠ id := fun h => hxm (hs.mail.outbox_keyed.eq hx hm (hxid.trans h.symm))
    obtain ⟨⟨g, hg, hgm⟩, ⟨f, hf, hfe⟩⟩ := hw.touched
    refine ⟨?_, ?_, ?_⟩
    · rw [hg, ← (hgm m hm).2 hid]
      exact List.mem_map_of_mem hm
    · -- the entry is another message's
      have hsame : f e = e := by
        refine (hfe e he).2 fun q hq hoq => hxm ?_
        refine hs.mail.eq_of_sameSource hx hm (hxp.trans hq) hp ⟨?_, ?_⟩
        · rw [← hoq.merchantId, hof.merchantId]
        · rw [← hoq.providerEventId, hof.providerEventId]
      rw [hf, ← hsame]
      exact List.mem_map_of_mem he
    · rcases hw.dispatched with hd | hd
      · rw [hd]
      · rw [hd, List.count_append, List.count_singleton, if_neg (by simpa using hid.symm), add_zero]

end

/-! ## A poller alone -/

section
variable {platform : Platform} {s : Pollers} {poller : ℕ} {call : Call}

/-- Publishing rows that are still as they were read writes them back. -/
lemma publish_eq {db : Database} (hi : Keyed (·.id) db.inbox) (ho : Keyed (·.id) db.outbox)
    {outbox : OutboxMessage} {inbox : WebhookInboxEntry} (hin : inbox ∈ db.inbox)
    (hout : outbox ∈ db.outbox) :
    publish call outbox inbox db =
      (db.putInbox { inbox with
        processedAt := some call.completedAt
        processingErrorCode := none }).putOutbox { outbox with
          attemptCount := outbox.attemptCount + 1
          publishedAt := some call.completedAt
          lastErrorCode := none } := by
  have hnone : ∀ code : Option String, (if code.isSome then none else code) = none := by
    intro code
    cases code <;> rfl
  have hinbox : db.inbox.map (fun row => if row.id = inbox.id then processedEntry call inbox row
      else row) = Table.put (·.id) db.inbox { inbox with
        processedAt := some call.completedAt, processingErrorCode := none } := by
    refine List.map_congr_left fun row hrow => ?_
    split_ifs with hid
    · obtain rfl := hi.eq hrow hin hid
      simp [processedEntry, hnone]
    · rfl
  have houtbox : db.outbox.map (fun row => if row.id = outbox.id then
      publishedMessage call outbox row else row) = Table.put (·.id) db.outbox { outbox with
        attemptCount := outbox.attemptCount + 1
        publishedAt := some call.completedAt
        lastErrorCode := none } := by
    refine List.map_congr_left fun row hrow => ?_
    split_ifs with hid
    · obtain rfl := ho.eq hrow hout hid
      simp [publishedMessage, hnone]
    · rfl
  unfold publish
  rw [hinbox, houtbox]
  rfl

/-- The rest of a poller's call, from what it has in hand. -/
def Pollers.goOn (platform : Platform) (s : Pollers) (poller : ℕ) : Pollers :=
  s.run platform [.signal poller, .complete poller, .record poller]

lemma goOn_idle (h : s.hands poller = none) : (s.goOn platform poller).db = s.db := by
  simp [Pollers.goOn, Pollers.run, Pollers.step, h]

lemma goOn_failed {id : String} {payload : Option RazorpayOutboxPayload} {caseId : Option String}
    {e : ProcessingError} :
    ((s.fail poller call id payload caseId e).goOn platform poller).db =
      (recordFailure call id payload caseId (errorCode e) s.db).2 := by
  simp [Pollers.goOn, Pollers.run, Pollers.step, Pollers.fail, Pollers.hold, Pollers.release]

lemma finish_eq_dispatch (hidle : s.hands poller = none) {outbox : OutboxMessage}
    {payload : RazorpayOutboxPayload} {inbox : WebhookInboxEntry}
    {effects : List (String × Json)} {caseId : Option String} {db : Database}
    (hi : Keyed (·.id) db.inbox) (ho : Keyed (·.id) db.outbox) (hin : inbox ∈ db.inbox)
    (hout : outbox ∈ db.outbox) :
    ((s.finish poller call outbox payload inbox effects caseId db).goOn platform poller).db =
      (dispatch call outbox payload inbox effects caseId db s.db).2 := by
  unfold Pollers.finish dispatch signalOf
  dsimp only
  split_ifs
  · rw [goOn_idle]
    · exact publish_eq hi ho hin hout
    · exact hidle
  · exact goOn_failed
  · exact goOn_failed

lemma goOn_leased {outbox : OutboxMessage} {payload : RazorpayOutboxPayload}
    {inbox : WebhookInboxEntry} {effects : List (String × Json)} {caseId : Option String}
    (hi : Keyed (·.id) s.db.inbox) (ho : Keyed (·.id) s.db.outbox) (hin : inbox ∈ s.db.inbox)
    (hout : outbox ∈ s.db.outbox) :
    ((s.hold poller (.leased call outbox payload inbox effects caseId)).goOn platform poller).db =
      (dispatch call outbox payload inbox effects caseId s.db s.db).2 := by
  unfold dispatch
  dsimp only
  split_ifs with hsignal hcommit
  · rw [← publish_eq hi ho hin hout]
    simp [Pollers.goOn, Pollers.run, Pollers.step, Pollers.hold, Pollers.release, signalOf, hsignal,
      hcommit]
  · simp [Pollers.goOn, Pollers.run, Pollers.step, Pollers.hold, Pollers.release, Pollers.fail,
      signalOf, hsignal, hcommit]
  · simp [Pollers.goOn, Pollers.run, Pollers.step, Pollers.hold, Pollers.release, Pollers.fail,
      signalOf, hsignal]
    rfl

/-- The transactions of a poller that nobody disturbs are `process_next`. -/
theorem alone_eq_processNext (hmail : Mail platform s.db) (hidle : s.hands poller = none) :
    (s.run platform [.take poller call, .signal poller, .complete poller, .record poller]).db =
      (processNext platform call s.db).2 := by
  show ((s.step platform (.take poller call)).goOn platform poller).db = _
  unfold processNext
  simp only [Pollers.step, hidle]
  cases hnext : nextMessage call s.db with
  | none => exact goOn_idle hidle
  | some outbox =>
    obtain ⟨hout, -⟩ := nextMessage_spec hnext
    dsimp only
    unfold Pollers.takeUp
    cases hp : outbox.payload with
    | none => exact goOn_failed
    | some payload =>
      dsimp only
      cases happ : applyMessage platform call payload s.db with
      | error e => exact goOn_failed
      | ok result =>
        obtain ⟨⟨inbox, effects, recoveryCase⟩, applied⟩ := result
        obtain ⟨hin, -⟩ := applyMessage_entry s.db rfl _ _ happ
        have hmail₁ := applyMessage_mail s.db ⟨rfl, rfl⟩ _ _ happ
        dsimp only
        cases hauth : authorize platform call payload effects recoveryCase applied with
        | error e => exact goOn_failed
        | ok result =>
          obtain ⟨o, authorized⟩ := result
          have hmail₂ := authorize_mail applied hmail₁ _ _ hauth
          cases o with
          | none =>
            refine finish_eq_dispatch hidle ?_ ?_ ?_ ?_
            · rw [hmail₂.1]
              exact hmail.inbox_keyed
            · rw [hmail₂.2]
              exact hmail.outbox_keyed
            · rw [hmail₂.1]
              exact hin
            · rw [hmail₂.2]
              exact hout
          | some effects' =>
            dsimp only
            split_ifs
            · refine goOn_leased ?_ ?_ ?_ ?_
              · show Keyed _ authorized.inbox
                rw [hmail₂.1]
                exact hmail.inbox_keyed
              · refine Keyed.put ?_ _
                rw [hmail₂.2]
                exact hmail.outbox_keyed
              · show inbox ∈ authorized.inbox
                rw [hmail₂.1]
                exact hin
              · exact mem_put_self (y := outbox) (hmail₂.2.symm ▸ hout) rfl
            · exact goOn_failed

end

/-! ## Runs -/

section
variable (platform : Platform) (s : Pollers) (polls : List Poll)

/-- Every message that is taken up is in no other poller's hand. -/
def TakenAlone : Prop :=
  ∀ k poller call, polls[k]? = some (.take poller call) →
    (s.after platform polls k).hands poller = none → (s.after platform polls k).Free call

end

section
variable {platform : Platform} {s : Pollers} {polls : List Poll}

lemma orderly_of_idle (hmail : Mail platform s.db) (hidle : ∀ p, s.hands p = none) :
    Orderly platform s := by
  refine ⟨hmail, fun p h hp => ?_, fun p q h h' hp => ?_⟩
  · rw [hidle] at hp
    cases hp
  · rw [hidle] at hp
    cases hp

lemma after_orderly (hs : Orderly platform s) (halone : TakenAlone platform s polls) :
    ∀ k ≤ polls.length, Orderly platform (s.after platform polls k) := by
  intro k
  induction k with
  | zero => exact fun _ => hs
  | succ k ih =>
    intro hk
    have hpoll := List.getElem?_eq_getElem hk
    rw [Pollers.after_succ platform s hpoll]
    have h := ih (Nat.le_of_succ_le hk)
    exact h.outcome (step_outcome h fun poller call he => halone k poller call (hpoll.trans
      (congrArg some he)))

/-- In a run where no message is taken up while another poller has it in hand, a message that is
published with its entry processed stays so, unchanged, and is not dispatched again. -/
theorem publication_final (hmail : Mail platform s.db) (hidle : ∀ p, s.hands p = none)
    (halone : TakenAlone platform s polls) {j k : ℕ} (hjk : j ≤ k) (hk : k ≤ polls.length)
    {m : OutboxMessage} {p : RazorpayOutboxPayload} {e : WebhookInboxEntry}
    (hm : m ∈ (s.after platform polls j).db.outbox) (hp : m.payload = some p)
    (hpub : m.publishedAt ≠ none) (he : e ∈ (s.after platform polls j).db.inbox)
    (hof : EntryOf p e) :
    (∀ m' ∈ (s.after platform polls k).db.outbox, m'.id = m.id → m'.publishedAt = m.publishedAt) ∧
    (∀ e' ∈ (s.after platform polls k).db.inbox, e'.id = e.id → e'.processedAt = e.processedAt) ∧
    (s.after platform polls k).dispatched.count m.id =
      (s.after platform polls j).dispatched.count m.id := by
  have hall := after_orderly (orderly_of_idle hmail hidle) halone
  -- the two rows are there at every later point
  have hkept : m ∈ (s.after platform polls k).db.outbox ∧ e ∈ (s.after platform polls k).db.inbox ∧
      (s.after platform polls k).dispatched.count m.id =
        (s.after platform polls j).dispatched.count m.id := by
    induction k, hjk using Nat.le_induction with
    | base => exact ⟨hm, he, rfl⟩
    | succ k hjk ih =>
      obtain ⟨hm', he', hcount⟩ := ih (Nat.le_of_succ_le hk)
      have hpoll := List.getElem?_eq_getElem hk
      have h := hall k (Nat.le_of_succ_le hk)
      have hout := step_outcome h fun poller call heq => halone k poller call (hpoll.trans
        (congrArg some heq))
      rw [Pollers.after_succ platform s hpoll]
      obtain ⟨hm'', he'', hcount'⟩ := final_outcome h hout hm' hp hpub he' hof
      exact ⟨hm'', he'', hcount'.trans hcount⟩
  have hmailk := (hall k hk).mail
  refine ⟨fun m' hm' hid => ?_, fun e' he' hid => ?_, hkept.2.2⟩
  · rw [hmailk.outbox_keyed.eq hm' hkept.1 hid]
  · rw [hmailk.inbox_keyed.eq he' hkept.2.1 hid]

end

/-- The body of a webhook about a failed payment of the sample's invoice, sent at the first second
of the epoch. -/
def failedBody : List (String × Json) :=
  [("event", .str "payment.failed"), ("created_at", .int 1),
    ("payload", .obj [("payment", .obj [("entity", .obj [("id", .str "pay_1"),
      ("invoice_id", .str "inv_1"), ("amount", .int 50000), ("currency", .str "INR")])])])]

def pollersStart : Pollers := { db := sampleStore }

def receiveFailed : Poll :=
  .receive ⟨"inbox_1", "outbox_1", 1000000, 1000000⟩ "merchant_1" "evt_1" failedBody

/-- A poller publishes the message, and another looks for work. -/
def inTurn : List Poll :=
  [receiveFailed, .take 1 (sampleCall 2000000 true), .signal 1, .complete 1,
    .take 2 (sampleCall 3000000 true)]

lemma sampleStore_mail : Mail samplePlatform sampleStore := by
  constructor <;> simp [sampleStore, Keyed]

/-- Nobody has the message in hand once it is published. -/
lemma inTurn_hands (q : ℕ) : (pollersStart.after samplePlatform inTurn 4).hands q = none := by
  obtain ⟨x, y, h⟩ : ∃ x y, (pollersStart.after samplePlatform inTurn 4).hands =
      Function.update (Function.update (Function.update (fun _ => none) 1 (some x)) 1 (some y)) 1
        none := ⟨_, _, rfl⟩
  rw [h, Function.update_idem, Function.update_idem, Function.update_apply]
  split_ifs <;> rfl

theorem inTurn_final : ∃ t, t = 2000000 ∧
    (pollersStart.after samplePlatform inTurn 4).db.outbox.map (·.publishedAt) = [some t] ∧
    (pollersStart.after samplePlatform inTurn 4).db.inbox.map (·.processedAt) = [some t] ∧
    (∀ m ∈ (pollersStart.after samplePlatform inTurn 5).db.outbox, m.id = "outbox_1" →
      m.publishedAt = some t) ∧
    (∀ e ∈ (pollersStart.after samplePlatform inTurn 5).db.inbox, e.id = "inbox_1" →
      e.processedAt = some t) ∧
    (pollersStart.after samplePlatform inTurn 5).dispatched.count "outbox_1" = 1 := by
  have halone : TakenAlone samplePlatform pollersStart inTurn := by
    intro k poller call hk hidle m hnext q h hq
    rcases k with _ | _ | _ | _ | _ | k
    all_goals try (cases hk; done)
    · cases hq
    · have hnone := (inTurn_hands q).symm.trans hq
      cases hnone
  obtain ⟨m, hm, hmid, hmp, hmt⟩ : ∃ m ∈ (pollersStart.after samplePlatform inTurn 4).db.outbox,
      m.id = "outbox_1" ∧ (∃ p, m.payload = some p ∧ ∃ e ∈
        (pollersStart.after samplePlatform inTurn 4).db.inbox, EntryOf p e ∧ e.id = "inbox_1" ∧
          e.processedAt = some 2000000) ∧ m.publishedAt = some 2000000 :=
    ⟨_, List.mem_cons_self, rfl, ⟨_, rfl, _, List.mem_cons_self, ⟨rfl, rfl, rfl⟩, rfl, rfl⟩, rfl⟩
  obtain ⟨p, hp, e, he, hof, heid, het⟩ := hmp
  have hfinal := publication_final sampleStore_mail (fun _ => rfl) halone (j := 4) (k := 5)
    (by decide) (by decide) hm hp (by rw [hmt]; simp) he hof
  rw [hmid, hmt, heid, het] at hfinal
  refine ⟨2000000, rfl, by decide +kernel, by decide +kernel, hfinal.1, hfinal.2.1, ?_⟩
  rw [hfinal.2.2]
  decide +kernel

/-- The first poller's signal hangs beyond its lease. A second poller takes the message up and
publishes it; then the first one's signal fails. -/
def expiredLease : List Poll :=
  [receiveFailed, .take 1 (sampleCall 2000000 false), .take 2 (sampleCall 400000000 true), .signal 2,
    .complete 2, .signal 1, .record 1]

/-- The message is published and its entry processed after five steps, and neither after seven; it
was dispatched twice. -/
theorem expired_lease_unpublishes :
    (pollersStart.after samplePlatform expiredLease 5).db.outbox.map (·.publishedAt) =
      [some 400000000] ∧
    (pollersStart.after samplePlatform expiredLease 5).db.inbox.map (·.processedAt) =
      [some 400000000] ∧
    (pollersStart.after samplePlatform expiredLease 5).dispatched = ["outbox_1"] ∧
    (pollersStart.after samplePlatform expiredLease 7).db.outbox.map (·.publishedAt) = [none] ∧
    (pollersStart.after samplePlatform expiredLease 7).db.inbox.map (·.processedAt) = [none] ∧
    (pollersStart.after samplePlatform expiredLease 7).dispatched = ["outbox_1", "outbox_1"] := by
  refine ⟨?_, ?_, ?_, ?_, ?_, ?_⟩ <;> decide +kernel

end RecoveryOS.Webhook
