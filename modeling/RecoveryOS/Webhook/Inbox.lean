import RecoveryOS.Webhook.Frame

/-!
# The inbox and the outbox

`webhooks/repository.py` and the ingestion in `webhooks/razorpay.py`. A webhook is stored as an
entry of the inbox and a message of the outbox, in one transaction, unless an entry of its event is
there already. So each event of a merchant has one entry and one message (`Mail`), and the
processor only ever changes the columns of the two that say how far it has got.
-/

namespace RecoveryOS.Webhook

open Store Table

/-! ## Ingestion -/

/-- `InboxOutboxStore._event_digest`. -/
def eventDigest (platform : Platform) (merchantId providerEventId : String) : String :=
  platform.sha256 (merchantId ++ ":" ++ providerEventId)

/-- The row's place under its unique key. The foreign key to the merchant and the widths of the texts
are left out. -/
def insertInbox (r : WebhookInboxEntry) (db : Database) : Option Database :=
  (Table.insert (fun _ => true)
    (fun x r => decide (x.id = r.id) || decide (x.merchantId = r.merchantId) &&
      decide (x.provider = r.provider) && decide (x.providerEventId = r.providerEventId))
    db.inbox r).map fun rows => { db with inbox := rows }

def insertOutbox (r : OutboxMessage) (db : Database) : Option Database :=
  (Table.insert (fun _ => true)
    (fun x r => decide (x.id = r.id) || decide (x.deduplicationKey = r.deduplicationKey))
    db.outbox r).map fun rows => { db with outbox := rows }

/-- The ids and the times that the columns' defaults draw for the two rows. -/
structure Receipt where
  inboxId : String
  outboxId : String
  availableAt : Instant
  createdAt : Instant

structure InboxOutboxWrite where
  inboxId : String
  outboxId : String
  duplicate : Bool

section
variable (platform : Platform) (receipt : Receipt) (merchantId : String)

def receivedEntry (event : NormalizedRazorpayEvent) : WebhookInboxEntry where
  id := receipt.inboxId
  merchantId := merchantId
  provider := "razorpay"
  providerEventId := event.providerEventId
  eventType := event.eventType
  payload := event.providerPayload
  occurredAt := some event.occurredAt
  processedAt := none
  processingErrorCode := none

def receivedMessage (event : NormalizedRazorpayEvent) : OutboxMessage where
  id := receipt.outboxId
  aggregateType := "razorpay_webhook"
  eventType := "RAZORPAY_WEBHOOK_RECEIVED"
  payload := some ⟨merchantId, event⟩
  deduplicationKey := "razorpay:" ++ eventDigest platform merchantId event.providerEventId
  availableAt := receipt.availableAt
  publishedAt := none
  attemptCount := 0
  lastErrorCode := none
  createdAt := receipt.createdAt

/-- `InboxOutboxStore.persist`. A competing request that wins the race is one that comes first, as
the loser then finds what the winner stored. -/
def persist (event : NormalizedRazorpayEvent) : Work InboxOutboxWrite := do
  let existing ← Tx.query (findInbox ⟨merchantId, event⟩)
  match existing with
  | some entry => do
    let found ← Tx.query fun db : Database => db.outbox.find? fun m => m.deduplicationKey =
      "razorpay:" ++ eventDigest platform merchantId event.providerEventId
    let message ← Tx.expect found
      (.other "webhook inbox exists without its atomic outbox message")
    pure ⟨entry.id, message.id, true⟩
  | none => do
    Tx.attempt (insertInbox (receivedEntry receipt merchantId event)) integrityError
    Tx.attempt (insertOutbox (receivedMessage platform receipt merchantId event)) integrityError
    pure ⟨receipt.inboxId, receipt.outboxId, false⟩

/-- `RazorpayWebhookIngestionService.ingest`, for a body whose signature holds and an event id
without its blanks. -/
def ingest (providerEventId : String) (body : List (String × Json)) : Work InboxOutboxWrite := do
  let event ← Tx.call (normalizeWebhook providerEventId body)
  persist platform receipt merchantId event

end

/-! ## One entry and one message for an event -/

/-- The entry is about the message's event. -/
structure EntryOf (payload : RazorpayOutboxPayload) (e : WebhookInboxEntry) : Prop where
  merchantId : e.merchantId = payload.merchantId
  provider : e.provider = "razorpay"
  providerEventId : e.providerEventId = payload.event.providerEventId

/-- Two messages about one event of a merchant. -/
def SameSource (p q : RazorpayOutboxPayload) : Prop :=
  p.merchantId = q.merchantId ∧ p.event.providerEventId = q.event.providerEventId

/-- What the processor never changes of an entry. -/
structure SameEntry (e e' : WebhookInboxEntry) : Prop where
  id : e'.id = e.id
  merchantId : e'.merchantId = e.merchantId
  provider : e'.provider = e.provider
  providerEventId : e'.providerEventId = e.providerEventId
  eventType : e'.eventType = e.eventType
  payload : e'.payload = e.payload
  occurredAt : e'.occurredAt = e.occurredAt

/-- What the processor never changes of a message. -/
structure SameMessage (m m' : OutboxMessage) : Prop where
  id : m'.id = m.id
  payload : m'.payload = m.payload
  deduplicationKey : m'.deduplicationKey = m.deduplicationKey

lemma SameEntry.refl (e : WebhookInboxEntry) : SameEntry e e := ⟨rfl, rfl, rfl, rfl, rfl, rfl, rfl⟩

lemma SameMessage.refl (m : OutboxMessage) : SameMessage m m := ⟨rfl, rfl, rfl⟩

structure Mail (platform : Platform) (db : Database) : Prop where
  inbox_keyed : Keyed (·.id) db.inbox
  entry_unique : Keyed (fun e => (e.merchantId, e.provider, e.providerEventId)) db.inbox
  outbox_keyed : Keyed (·.id) db.outbox
  message_unique : Keyed (·.deduplicationKey) db.outbox
  digest : ∀ m ∈ db.outbox, ∀ p, m.payload = some p → m.deduplicationKey =
    "razorpay:" ++ eventDigest platform p.merchantId p.event.providerEventId
  genuine : ∀ m ∈ db.outbox, ∀ p, m.payload = some p →
    normalizeWebhook p.event.providerEventId p.event.providerPayload = .ok p.event
  entry : ∀ m ∈ db.outbox, ∀ p, m.payload = some p → ∃ e ∈ db.inbox, EntryOf p e ∧
    e.eventType = p.event.eventType ∧ e.payload = p.event.providerPayload ∧
    e.occurredAt = some p.event.occurredAt

section
variable {platform : Platform} {db db' : Database}

/-- An event has one message. -/
lemma Mail.eq_of_sameSource (h : Mail platform db) {m n : OutboxMessage}
    {p q : RazorpayOutboxPayload} (hm : m ∈ db.outbox) (hn : n ∈ db.outbox)
    (hp : m.payload = some p) (hq : n.payload = some q) (hs : SameSource p q) : m = n := by
  refine h.message_unique.eq hm hn ?_
  rw [h.digest m hm p hp, h.digest n hn q hq, hs.1, hs.2]

lemma findInbox_eq_some {p : RazorpayOutboxPayload} {e : WebhookInboxEntry}
    (h : findInbox p db = some e) : e ∈ db.inbox ∧ EntryOf p e := by
  refine ⟨List.mem_of_find?_eq_some h, ?_⟩
  have := List.find?_some h
  simp only [decide_eq_true_eq] at this
  exact ⟨this.1, this.2.1, this.2.2⟩

/-- What the processor does to the mail: rows keep what they are about, and only those of one
message change. -/
structure Touched (id : String) (payload : Option RazorpayOutboxPayload) (db db' : Database) :
    Prop where
  outbox : ∃ g, db'.outbox = db.outbox.map g ∧
    ∀ m ∈ db.outbox, SameMessage m (g m) ∧ (m.id ≠ id → g m = m)
  inbox : ∃ f, db'.inbox = db.inbox.map f ∧
    ∀ e ∈ db.inbox, SameEntry e (f e) ∧ ((∀ p, payload = some p → ¬ EntryOf p e) → f e = e)

lemma Touched.of_eq {id : String} {payload : Option RazorpayOutboxPayload}
    (hi : db'.inbox = db.inbox) (ho : db'.outbox = db.outbox) : Touched id payload db db' :=
  ⟨⟨fun m => m, by simpa using ho, fun m _ => ⟨.refl m, fun _ => rfl⟩⟩,
    ⟨fun e => e, by simpa using hi, fun e _ => ⟨.refl e, fun _ => rfl⟩⟩⟩

lemma Mail.touched (h : Mail platform db) {id : String} {payload : Option RazorpayOutboxPayload}
    (ht : Touched id payload db db') : Mail platform db' := by
  obtain ⟨⟨g, hg, hgm⟩, ⟨f, hf, hfe⟩⟩ := ht
  have hmessage : ∀ m' ∈ db'.outbox, ∃ m ∈ db.outbox, SameMessage m m' := by
    intro m' hm'
    rw [hg] at hm'
    obtain ⟨m, hm, rfl⟩ := List.mem_map.mp hm'
    exact ⟨m, hm, (hgm m hm).1⟩
  constructor
  · rw [hf]
    exact h.inbox_keyed.map fun e he => (hfe e he).1.id
  · rw [hf]
    refine h.entry_unique.map fun e he => ?_
    have hs := (hfe e he).1
    rw [hs.merchantId, hs.provider, hs.providerEventId]
  · rw [hg]
    exact h.outbox_keyed.map fun m hm => (hgm m hm).1.id
  · rw [hg]
    exact h.message_unique.map fun m hm => (hgm m hm).1.deduplicationKey
  · intro m' hm' p hp
    obtain ⟨m, hm, hs⟩ := hmessage m' hm'
    rw [hs.deduplicationKey]
    exact h.digest m hm p (hs.payload ▸ hp)
  · intro m' hm' p hp
    obtain ⟨m, hm, hs⟩ := hmessage m' hm'
    exact h.genuine m hm p (hs.payload ▸ hp)
  · intro m' hm' p hp
    obtain ⟨m, hm, hs⟩ := hmessage m' hm'
    obtain ⟨e, he, heo, ht, hpl, hoc⟩ := h.entry m hm p (hs.payload ▸ hp)
    have hse := (hfe e he).1
    refine ⟨f e, ?_, ⟨?_, ?_, ?_⟩, ?_, ?_, ?_⟩
    · rw [hf]
      exact List.mem_map_of_mem he
    · rw [hse.merchantId, heo.merchantId]
    · rw [hse.provider, heo.provider]
    · rw [hse.providerEventId, heo.providerEventId]
    · rw [hse.eventType, ht]
    · rw [hse.payload, hpl]
    · rw [hse.occurredAt, hoc]

/-! ## A webhook is received -/

/-- What ingestion does: nothing, or it adds an entry and a message of a new event. -/
structure Received (platform : Platform) (db db' : Database) (e : WebhookInboxEntry)
    (m : OutboxMessage) (p : RazorpayOutboxPayload) : Prop where
  tables : db' = { db with inbox := db.inbox ++ [e], outbox := db.outbox ++ [m] }
  entry_new : ∀ x ∈ db.inbox, x.id ≠ e.id ∧
    (x.merchantId, x.provider, x.providerEventId) ≠ (e.merchantId, e.provider, e.providerEventId)
  message_new : ∀ x ∈ db.outbox, x.id ≠ m.id ∧ x.deduplicationKey ≠ m.deduplicationKey
  payload : m.payload = some p
  unpublished : m.publishedAt = none
  unprocessed : e.processedAt = none
  digest : m.deduplicationKey =
    "razorpay:" ++ eventDigest platform p.merchantId p.event.providerEventId
  genuine : normalizeWebhook p.event.providerEventId p.event.providerPayload = .ok p.event
  entry : EntryOf p e ∧ e.eventType = p.event.eventType ∧ e.payload = p.event.providerPayload ∧
    e.occurredAt = some p.event.occurredAt

/-- A normalized event remembers what it was made from. -/
lemma normalizeWebhook_source {id : String} {body : List (String × Json)}
    {event : NormalizedRazorpayEvent} (h : normalizeWebhook id body = .ok event) :
    event.providerEventId = id ∧ event.providerPayload = body := by
  unfold normalizeWebhook at h
  dsimp only at h
  split at h
  · cases h
  · split_ifs at h
    split at h
    · split at h
      · cases h
      · split_ifs at h
        obtain rfl := Except.ok.inj h
        exact ⟨rfl, rfl⟩
    · cases h

theorem ingest_spec {receipt : Receipt} {merchantId providerEventId : String}
    {body : List (String × Json)} :
    Tx.Ensures (· = db) (ingest platform receipt merchantId providerEventId body) fun _ db' =>
      db' = db ∨ ∃ e m p, Received platform db db' e m p := by
  refine .call_bind fun event hevent => .query_bind fun existing => ?_
  obtain ⟨hid, hbody⟩ := normalizeWebhook_source hevent
  cases existing with
  | some entry =>
    refine .query_bind fun found => .expect_bind fun message _ => .pure ?_
    exact fun t ht => .inl ht.1.1
  | none =>
    refine .bind (Q := fun _ t => insertInbox (receivedEntry receipt merchantId event) db = some t)
      (.attempt ?_) fun _ => .bind (Q := fun _ t => ∃ db₁,
        insertInbox (receivedEntry receipt merchantId event) db = some db₁ ∧
        insertOutbox (receivedMessage platform receipt merchantId event) db₁ = some t)
      (.attempt fun t ht t' ht' => ⟨t, ht, ht'⟩) fun _ => .pure ?_
    · rintro t ⟨rfl, -⟩ t' ht'
      exact ht'
    · rintro t ⟨db₁, hin, hout⟩
      obtain ⟨rows, hrows, rfl⟩ := Option.map_eq_some_iff.mp hin
      obtain ⟨rows', hrows', rfl⟩ := Option.map_eq_some_iff.mp hout
      obtain ⟨-, hentry, rfl⟩ := insert_eq_some hrows
      obtain ⟨-, hmessage, rfl⟩ := insert_eq_some hrows'
      refine .inr ⟨_, _, ⟨merchantId, event⟩,
        { tables := rfl
          entry_new := fun x hx => ?_
          message_new := fun x hx => ?_
          payload := rfl
          unpublished := rfl
          unprocessed := rfl
          digest := rfl
          genuine := by rw [hid, hbody]; exact hevent
          entry := ⟨⟨rfl, rfl, rfl⟩, rfl, rfl, rfl⟩ }⟩
      · have := hentry x hx
        simp only [Bool.or_eq_false_iff, decide_eq_false_iff_not] at this
        refine ⟨this.1, fun he => ?_⟩
        simp only [Prod.mk.injEq] at he
        simp [he.1, he.2.1, he.2.2] at this
      · have := hmessage x hx
        simpa [Bool.or_eq_false_iff] using this

lemma Mail.received (h : Mail platform db) {e : WebhookInboxEntry} {m : OutboxMessage}
    {p : RazorpayOutboxPayload} (hr : Received platform db db' e m p) : Mail platform db' := by
  rw [hr.tables]
  have hmessage : ∀ x ∈ db.outbox ++ [m], x ∈ db.outbox ∨ x = m := fun x hx =>
    (List.mem_append.mp hx).imp id List.mem_singleton.mp
  have hmine : ∀ {q}, m.payload = some q → q = p := fun hq =>
    Option.some.inj (hq.symm.trans hr.payload)
  constructor
  · exact h.inbox_keyed.append fun x hx => (hr.entry_new x hx).1
  · exact h.entry_unique.append fun x hx => (hr.entry_new x hx).2
  · exact h.outbox_keyed.append fun x hx => (hr.message_new x hx).1
  · exact h.message_unique.append fun x hx => (hr.message_new x hx).2
  · intro x hx q hq
    rcases hmessage x hx with hx | rfl
    · exact h.digest x hx q hq
    · rw [hmine hq]
      exact hr.digest
  · intro x hx q hq
    rcases hmessage x hx with hx | rfl
    · exact h.genuine x hx q hq
    · rw [hmine hq]
      exact hr.genuine
  · intro x hx q hq
    rcases hmessage x hx with hx | rfl
    · obtain ⟨f, hf, hof⟩ := h.entry x hx q hq
      exact ⟨f, List.mem_append_left _ hf, hof⟩
    · rw [hmine hq]
      exact ⟨e, List.mem_append_right _ List.mem_cons_self, hr.entry⟩

end

/-! ## The first transaction leaves the mail alone -/

section
variable {platform : Platform} {call : Call} {payload : RazorpayOutboxPayload}
  {entries : List WebhookInboxEntry} {messages : List OutboxMessage} {db db' : Database}

/-- The mail is as it was. -/
def MailIs (entries : List WebhookInboxEntry) (messages : List OutboxMessage) (db : Database) :
    Prop := db.inbox = entries ∧ db.outbox = messages

lemma MailIs.insert {α : Type} {o : Option α} {f : α → Database} (h : MailIs entries messages db)
    (ho : o.map f = some db') (hf : ∀ a, MailIs db.inbox db.outbox (f a)) :
    MailIs entries messages db' := by
  obtain ⟨a, -, rfl⟩ := Option.map_eq_some_iff.mp ho
  exact ⟨(hf a).1.trans h.1, (hf a).2.trans h.2⟩

lemma mailIs_unseen : Unseen (MailIs entries messages) where
  subscriptions := fun _ _ h => h
  invoices := fun _ _ h => h
  payments := fun _ _ h => h
  cases := fun _ _ h => h
  events := fun _ _ h => h
  recognitions := fun _ _ h => h
  cancelled := fun _ _ _ h => h

lemma applyMessage_mail :
    Tx.Keeps (MailIs entries messages) (applyMessage platform call payload) :=
  applyMessage_keeps mailIs_unseen

lemma insertActionWithPolicy_mail {a : RecoveryActionRecord} {p : PolicyDecisionRecord}
    (h : MailIs entries messages db) (hi : db.insertActionWithPolicy a p = some db') :
    MailIs entries messages db' := by
  obtain ⟨db₁, ha, hp⟩ := Option.bind_eq_some_iff.mp hi
  have h₁ : MailIs entries messages db₁ := h.insert ha fun _ => ⟨rfl, rfl⟩
  exact h₁.insert hp fun _ => ⟨rfl, rfl⟩

lemma authorize_mail {effects : List (String × Json)} {recoveryCase : Option RecoveryCase} :
    Tx.Keeps (MailIs entries messages) (authorize platform call payload effects recoveryCase) := by
  unfold authorize
  split_ifs
  · refine .bind .expect fun c => .bind (.bind .query fun existing => ?_) fun _ => .pure
    cases existing with
    | some action =>
      exact .bind .require fun _ => .bind .query fun _ => .bind .require fun _ => .pure
    | none =>
      refine .bind (.bind ?_ fun _ => .call) fun ranked =>
        .bind (.attempt fun _ h _ hi => insertActionWithPolicy_mail h hi) fun _ =>
        .bind (.attempt fun db h db' ho => h.insert ho fun _ => ⟨rfl, rfl⟩) fun _ => .pure
      refine .bind .query fun _ => .bind .expect fun _ => .bind .query fun _ => .bind .expect fun _ =>
        .bind .call fun _ => .bind .query fun _ => .bind .expect fun _ => ?_
      split_ifs
      · exact .pure
      · exact .throw
  · refine .bind .expect fun c => .bind (.bind .query fun existing => ?_) fun _ => .pure
    cases existing with
    | some action =>
      exact .bind .query fun _ => .bind .require fun _ => .bind (.modify fun _ h => h) fun _ => .pure
    | none =>
      exact .bind .query fun _ => .bind
        (.attempt fun _ h _ hi => insertActionWithPolicy_mail h hi) fun _ => .pure
  · exact .pure

end

/-! ## Writes to the mail -/

section
variable {platform : Platform} {call : Call} {db db' db'' : Database} {id : String}
  {payload : Option RazorpayOutboxPayload}

lemma Touched.trans (h : Touched id payload db db') (h' : Touched id payload db' db'') :
    Touched id payload db db'' := by
  obtain ⟨⟨g, hg, hgm⟩, ⟨f, hf, hfe⟩⟩ := h
  obtain ⟨⟨g', hg', hgm'⟩, ⟨f', hf', hfe'⟩⟩ := h'
  refine ⟨⟨g' ∘ g, by rw [hg', hg, List.map_map], fun m hm => ?_⟩,
    ⟨f' ∘ f, by rw [hf', hf, List.map_map], fun e he => ?_⟩⟩
  · obtain ⟨hs, hsame⟩ := hgm m hm
    obtain ⟨hs', hsame'⟩ := hgm' (g m) (by rw [hg]; exact List.mem_map_of_mem hm)
    refine ⟨⟨hs'.id.trans hs.id, hs'.payload.trans hs.payload,
      hs'.deduplicationKey.trans hs.deduplicationKey⟩, fun hne => ?_⟩
    rw [Function.comp, hsame' (by rw [hs.id]; exact hne), hsame hne]
  · obtain ⟨hs, hsame⟩ := hfe e he
    obtain ⟨hs', hsame'⟩ := hfe' (f e) (by rw [hf]; exact List.mem_map_of_mem he)
    refine ⟨⟨hs'.id.trans hs.id, hs'.merchantId.trans hs.merchantId, hs'.provider.trans hs.provider,
      hs'.providerEventId.trans hs.providerEventId, hs'.eventType.trans hs.eventType,
      hs'.payload.trans hs.payload, hs'.occurredAt.trans hs.occurredAt⟩, fun hne => ?_⟩
    rw [Function.comp, hsame' fun p hp ho => hne p hp ?_, hsame hne]
    rw [hsame hne] at ho
    exact ho

/-- The transaction of the domain comes before the write. -/
lemma Touched.of_mail (hi : MailIs db.inbox db.outbox db') (h : Touched id payload db' db'') :
    Touched id payload db db'' := (Touched.of_eq hi.1 hi.2).trans h

/-- The row of another message stays. -/
lemma Touched.published (hmail : Mail platform db) {m : OutboxMessage}
    {payload : Option RazorpayOutboxPayload} (ht : Touched m.id payload db db') (hm : m ∈ db.outbox)
    (hopen : m.publishedAt = none) : ∀ x ∈ db.outbox, x.publishedAt ≠ none → x ∈ db'.outbox := by
  intro x hx hpub
  obtain ⟨g, hg, hgm⟩ := ht.outbox
  have hne : x.id ≠ m.id := by
    intro hid
    obtain rfl := hmail.outbox_keyed.eq hx hm hid
    exact hpub hopen
  rw [hg, ← (hgm x hx).2 hne]
  exact List.mem_map_of_mem hx

lemma touched_putOutbox (hk : Keyed (·.id) db.outbox) {m m' : OutboxMessage} (hm : m ∈ db.outbox)
    (hs : SameMessage m m') (hid : m.id = id) : Touched id payload db (db.putOutbox m') := by
  refine ⟨⟨_, rfl, fun x hx => ?_⟩, ⟨fun e => e, by simp [Database.putOutbox],
    fun e _ => ⟨.refl e, fun _ => rfl⟩⟩⟩
  dsimp only
  split_ifs with hxm
  · obtain rfl : x = m := hk.eq hx hm (hxm.trans hs.id)
    exact ⟨hs, fun hne => absurd hid hne⟩
  · exact ⟨.refl x, fun _ => rfl⟩

lemma touched_putInbox (hk : Keyed (·.id) db.inbox) {e e' : WebhookInboxEntry} (he : e ∈ db.inbox)
    (hs : SameEntry e e') {p : RazorpayOutboxPayload} (hp : payload = some p) (ho : EntryOf p e) :
    Touched id payload db (db.putInbox e') := by
  refine ⟨⟨fun m => m, by simp [Database.putInbox], fun m _ => ⟨.refl m, fun _ => rfl⟩⟩,
    ⟨_, rfl, fun x hx => ?_⟩⟩
  dsimp only
  split_ifs with hxe
  · obtain rfl : x = e := hk.eq hx he (hxe.trans hs.id)
    exact ⟨hs, fun hne => absurd ho (hne p hp)⟩
  · exact ⟨.refl x, fun _ => rfl⟩

lemma noteError_touched (hk : Keyed (·.id) db.inbox) {code : String} :
    Touched id payload db (noteError payload code db) := by
  unfold noteError
  split
  · exact .of_eq rfl rfl
  · next inbox hinbox =>
    obtain ⟨p, hp, hfind⟩ := Option.bind_eq_some_iff.mp hinbox
    obtain ⟨hmem, ho⟩ := findInbox_eq_some hfind
    exact touched_putInbox hk hmem ⟨rfl, rfl, rfl, rfl, rfl, rfl, rfl⟩ hp ho

lemma recordFailure_touched (hm : Mail platform db) {caseId : Option String} {code : String} :
    Touched id payload db (recordFailure call id payload caseId code db).2 := by
  unfold recordFailure
  split
  · exact .of_eq rfl rfl
  · next outbox hfound =>
    have hid : outbox.id = id := by simpa using List.find?_some hfound
    split_ifs
    · dsimp only
      refine Touched.trans ?_ (noteError_touched ?_)
      · exact touched_putOutbox hm.outbox_keyed (List.mem_of_find?_eq_some hfound) ⟨rfl, rfl, rfl⟩ hid
      · exact hm.inbox_keyed
    · exact .of_eq rfl rfl

end

/-! ## `process_next` -/

section
variable {platform : Platform}

lemma nextMessage_spec {call : Call} {db : Database} {m : OutboxMessage}
    (h : nextMessage call db = some m) : m ∈ db.outbox ∧ m.publishedAt = none := by
  obtain ⟨hm, hf⟩ := List.mem_filter.mp (mem_of_first h)
  simp only [Bool.and_eq_true, Option.isNone_iff_eq_none] at hf
  exact ⟨hm, hf.1.1.2⟩

/-- The entry that a message is applied under is its own. -/
lemma applyMessage_entry {call : Call} {payload : RazorpayOutboxPayload} {db : Database} :
    Tx.Ensures (· = db) (applyMessage platform call payload) fun r _ =>
      r.1 ∈ db.inbox ∧ EntryOf payload r.1 := by
  refine .bind (Q := fun inbox t => t = db ∧ inbox ∈ db.inbox ∧ EntryOf payload inbox) ?_
    fun inbox => .bind (Q := fun _ _ => inbox ∈ db.inbox ∧ EntryOf payload inbox) ?_ fun _ =>
    .bind (Q := fun _ _ => inbox ∈ db.inbox ∧ EntryOf payload inbox) ?_ fun _ =>
    .pure fun _ h => h
  · refine .query_bind fun found => .expect_bind fun inbox hfound => .require_bind fun _ => .pure ?_
    rintro t ⟨rfl, hq⟩
    exact ⟨rfl, findInbox_eq_some (hq.trans hfound)⟩
  · exact fun t ht _ _ _ => ht.2
  · exact fun t ht _ _ _ => ht

/-- The database with its mail as it is in another. -/
def withMail (db mail : Database) : Database := { db with inbox := mail.inbox, outbox := mail.outbox }

/-- What a call of `process_next` does: nothing, or it only notes that the message failed, or it
commits what the event does, and perhaps publishes the message. -/
inductive Processed (platform : Platform) (call : Call) (db db' : Database) : Prop where
  | idle (hnext : nextMessage call db = none) (hdb : db' = db)
  | failed (m : OutboxMessage) (hnext : nextMessage call db = some m) (hdb : db' = withMail db db')
      (ht : Touched m.id m.payload db db')
  | done (m : OutboxMessage) (payload : RazorpayOutboxPayload) (inbox : WebhookInboxEntry)
      (effects : List (String × Json)) (recoveryCase : Option RecoveryCase)
      (authorization : Option (List (String × Json))) (applied authorized : Database)
      (hnext : nextMessage call db = some m) (hp : m.payload = some payload)
      (happ : applyMessage platform call payload db = .ok ((inbox, effects, recoveryCase), applied))
      (hauth : authorize platform call payload effects recoveryCase applied =
        .ok (authorization, authorized))
      (hdb : db' = withMail authorized db') (ht : Touched m.id m.payload db db')
      (hsent : authorization = none → db' = (authorized.putInbox { inbox with
        processedAt := some call.completedAt
        processingErrorCode := none }).putOutbox { m with
          attemptCount := m.attemptCount + 1
          publishedAt := some call.completedAt
          lastErrorCode := none })

variable {call : Call} {db db' : Database}

lemma noteError_withMail (payload : Option RazorpayOutboxPayload) (code : String) :
    noteError payload code db = withMail db (noteError payload code db) := by
  unfold noteError
  split <;> rfl

lemma recordFailure_withMail (id : String) (payload : Option RazorpayOutboxPayload)
    (caseId : Option String) (code : String) : (recordFailure call id payload caseId code db).2 =
      withMail db (recordFailure call id payload caseId code db).2 := by
  unfold recordFailure
  split
  · rfl
  · split_ifs
    · dsimp only
      rw [noteError_withMail]
      rfl
    · rfl

lemma Processed.of_failure (hmail : Mail platform db) {m : OutboxMessage}
    (hnext : nextMessage call db = some m) (caseId : Option String) (code : String) :
    Processed platform call db (recordFailure call m.id m.payload caseId code db).2 :=
  .failed m hnext (recordFailure_withMail _ _ _ _) (recordFailure_touched hmail)

/-- What the end of a call does to the mail. -/
lemma dispatch_spec (call : Call) {authorized : Database} (committed : Database)
    (hmail : Mail platform authorized) {m : OutboxMessage} {payload : RazorpayOutboxPayload}
    {inbox : WebhookInboxEntry} (hm : m ∈ authorized.outbox) (hp : m.payload = some payload)
    (hi : inbox ∈ authorized.inbox) (ho : EntryOf payload inbox) (effects : List (String × Json))
    (caseId : Option String) :
    (∃ code, (dispatch call m payload inbox effects caseId authorized committed).2 =
      (recordFailure call m.id m.payload caseId code committed).2) ∨
    (dispatch call m payload inbox effects caseId authorized committed).2 =
      (authorized.putInbox { inbox with
        processedAt := some call.completedAt
        processingErrorCode := none }).putOutbox { m with
          attemptCount := m.attemptCount + 1
          publishedAt := some call.completedAt
          lastErrorCode := none } ∧
    Touched m.id m.payload authorized
      (dispatch call m payload inbox effects caseId authorized committed).2 := by
  dsimp only [dispatch]
  split_ifs
  · refine .inr ⟨rfl, Touched.trans (touched_putInbox hmail.inbox_keyed hi ?_ hp ho)
      (touched_putOutbox ?_ hm ?_ rfl)⟩
    · exact ⟨rfl, rfl, rfl, rfl, rfl, rfl, rfl⟩
    · exact hmail.outbox_keyed
    · exact ⟨rfl, rfl, rfl⟩
  · exact .inl ⟨_, by rw [hp]⟩
  · exact .inl ⟨_, by rw [hp]⟩

theorem processNext_processed (hmail : Mail platform db) :
    Processed platform call db (processNext platform call db).2 := by
  unfold processNext
  split
  · next hnext => exact .idle hnext rfl
  · next m hnext =>
    obtain ⟨hm, -⟩ := nextMessage_spec hnext
    split
    · next hp =>
      rw [← hp]
      exact .of_failure hmail hnext _ _
    · next payload hp =>
      split
      · rw [← hp]
        exact .of_failure hmail hnext _ _
      · next inbox effects recoveryCase applied happ =>
        obtain ⟨hin, ho⟩ := applyMessage_entry db rfl _ _ happ
        have happlied := applyMessage_mail db ⟨rfl, rfl⟩ _ _ happ
        dsimp only
        split
        · rw [← hp]
          exact .of_failure hmail hnext _ _
        · next authorized hauth =>
          have hmail₁ := authorize_mail applied happlied _ _ hauth
          have hmail' : Mail platform authorized :=
            hmail.touched (Touched.of_eq hmail₁.1 hmail₁.2 : Touched m.id m.payload db authorized)
          rw [← hmail₁.1] at hin
          rcases dispatch_spec call db hmail' (hmail₁.2 ▸ hm) hp hin ho effects
            (recoveryCase.map (·.id)) with ⟨code, h⟩ | ⟨h, ht⟩
          · rw [h]
            exact .of_failure hmail hnext _ _
          · refine .done m payload inbox effects recoveryCase none applied authorized hnext hp happ
              hauth ?_ (.of_mail hmail₁ ht) fun _ => h
            rw [h]
            rfl
        · next effects' authorized hauth =>
          have hmail₁ := authorize_mail applied happlied _ _ hauth
          split_ifs
          · -- the authorization is committed under a lease, whatever becomes of the signal
            set leased : OutboxMessage := { m with availableAt := call.now + call.dispatchLease }
            have hm₁ : m ∈ authorized.outbox := hmail₁.2 ▸ hm
            have hlease : Touched m.id m.payload db (authorized.putOutbox leased) :=
              .of_mail hmail₁ (touched_putOutbox (by rw [hmail₁.2]; exact hmail.outbox_keyed) hm₁
                ⟨rfl, rfl, rfl⟩ rfl)
            have hmail' := hmail.touched hlease
            have hin₁ : inbox ∈ (authorized.putOutbox leased).inbox := hmail₁.1.symm ▸ hin
            rcases dispatch_spec call (authorized.putOutbox leased) hmail'
              (mem_put_self (r := leased) hm₁ rfl) hp hin₁ ho effects' (recoveryCase.map (·.id))
              with ⟨code, h⟩ | ⟨h, ht⟩
            · refine .done m payload inbox effects recoveryCase (some effects') applied authorized
                hnext hp happ hauth ?_ ?_ fun hnone => by cases hnone
              · rw [h, recordFailure_withMail]
                rfl
              · rw [h]
                exact hlease.trans (recordFailure_touched hmail')
            · refine .done m payload inbox effects recoveryCase (some effects') applied authorized
                hnext hp happ hauth ?_ (hlease.trans ht) fun hnone => by cases hnone
              rw [h]
              rfl
          · rw [← hp]
            exact .of_failure hmail hnext _ _

end

end RecoveryOS.Webhook
