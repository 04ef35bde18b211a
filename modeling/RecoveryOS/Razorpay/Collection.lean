import RecoveryOS.Lib.Clients
import RecoveryOS.Lib.Rounds
import RecoveryOS.Webhook.Event

/-!
# Reading a collection

`RazorpayClient._list_objects` reads a collection page by page, each page from where the last one
stopped. A page that is shorter than it may be is the last one. The read asks for one item more than
its bound, so that a collection beyond the bound is seen to be.

Whatever the pages are, each one that is not the last adds an item, so the read ends after as many
replies as there is room for items, and the loop is left from within (`listObjects_exact`).
-/

namespace RecoveryOS.Razorpay

open Resume

/-- An object of the provider's JSON. -/
abbrev JsonObject : Type := List (String × Json)

/-- A `GET` for a page; `count` and `skip` are among the parameters. -/
structure PageRequest where
  path : String
  params : List (String × String)
  count : ℤ
  skip : ℕ

/-- What ends the read other than by returning. -/
inductive CollectionError where
  | request (e : Webhook.ProcessingError)
  | contract (code message : String) (maximumItems : Option ℤ)
  | assertion (message : String)

/-- What `_request_json` returns or raises. -/
abbrev PageReply (_ : PageRequest) : Type := Except Webhook.ProcessingError JsonObject

/-- The arguments of `_list_objects`. -/
structure ListArguments where
  path : String
  params : List (String × String)
  collectionField : String
  invalidCode : String
  maximumItems : ℤ

/-- The items that were read, and what the read ended with. -/
structure Reading where
  items : List JsonObject := []
  outcome : Option (Except CollectionError (List JsonObject)) := none

abbrev Read := Code PageRequest PageReply Reading

def isObject : Json → Bool
  | .obj _ => true
  | _ => false

/-- `str.removesuffix`. -/
def removeSuffix (s suffix : String) : String :=
  if suffix.toList <:+ s.toList then String.ofList (s.toList.take (s.length - suffix.length)) else s

namespace ListArguments
variable (a : ListArguments)

def noArray : CollectionError :=
  .contract a.invalidCode ("Razorpay collection has no " ++ a.collectionField ++ " array.") none

def invalidPage : CollectionError :=
  .contract a.invalidCode "Razorpay collection returned an invalid page." none

def tooLarge : CollectionError :=
  .contract (removeSuffix a.invalidCode "_INVALID" ++ "_TOO_LARGE")
    "Razorpay collection exceeds the bounded read limit." (some a.maximumItems)

end ListArguments

/-- The read is over. -/
def leave (outcome : Except CollectionError (List JsonObject)) : Read Bool := do
  Code.modify ({ · with outcome := some outcome })
  pure true

/-- A page is checked and added to the items; the read is over if they are too many or if the page
is not full. -/
def takePage (a : ListArguments) (pageSize : ℤ) (page : List Json) : Read Bool :=
  if pageSize < page.length ∨ page.any (fun item => !isObject item) = true then
    leave (.error a.invalidPage)
  else do
    Code.modify fun s => { s with items := s.items ++ page.map Json.asObject }
    let s ← Code.read
    if a.maximumItems < s.items.length then leave (.error a.tooLarge)
    else if page.length < pageSize then leave (.ok s.items)
    else pure false

def receive (a : ListArguments) (pageSize : ℤ) :
    Except Webhook.ProcessingError JsonObject → Read Bool
  | .error e => leave (.error (.request e))
  | .ok collection =>
    match Json.get collection a.collectionField with
    | .arr page => takePage a pageSize page
    | _ => leave (.error a.noArray)

/-- A round of the loop of `_list_objects`; it answers whether it leaves the loop. -/
def readPage (a : ListArguments) : Read Bool := do
  let s ← Code.read
  let pageSize := min 100 (a.maximumItems + 1 - s.items.length)
  let reply ← Code.ask
    { path := a.path, params := a.params, count := pageSize, skip := s.items.length }
  receive a pageSize reply

/-- What the `while` of `_list_objects` looks at. -/
def underway (a : ListArguments) (s : Reading) : Bool := s.items.length ≤ a.maximumItems

/-- `_list_objects`, with at most `rounds` rounds of its loop. -/
def listObjects (a : ListArguments) (rounds : ℕ) :
    Read (Except CollectionError (List JsonObject)) := do
  Code.loop (underway a) (readPage a) rounds
  match (← Code.read).outcome with
  | some outcome => pure outcome
  | none => pure (.error (.assertion "bounded Razorpay collection read did not return"))

/-! ## One page -/

/-- How many more items may be read. -/
def room (m : ℕ) (s : Reading) : ℕ := m + 1 - s.items.length

/-- The read goes on, with at most `m` items. -/
structure Going (m : ℕ) (s : Reading) : Prop where
  open_ : s.outcome = none
  items : s.items.length ≤ m

/-- The read ended within its loop, with at most `m` items if it returned any. -/
def Ended (m : ℕ) (s : Reading) : Prop :=
  (∃ items, s.outcome = some (.ok items) ∧ items.length ≤ m) ∨
  (∃ e, s.outcome = some (.error (.request e))) ∨
  ∃ code message maximum, s.outcome = some (.error (.contract code message maximum))

/-- The reply is the slice of `c` that was asked for. -/
def Slices (field : String) (c : List JsonObject) (r : PageRequest) (x : PageReply r) : Prop :=
  ∃ collection, x = .ok collection ∧
    Json.get collection field = .arr (((c.drop r.skip).take r.count.toNat).map Json.obj)

/-- What a read of `c` ends with. -/
def ListArguments.collected (a : ListArguments) (c : List JsonObject) :
    Except CollectionError (List JsonObject) :=
  if c.length ≤ a.maximumItems then .ok c else .error a.tooLarge

section
variable {a : ListArguments} {m : ℕ} {s : Reading} {n : ℤ} {page : List Json}

lemma takePage_invalid (h : n < page.length ∨ page.any (fun item => !isObject item) = true) :
    takePage a n page s = .done { s with outcome := some (.error a.invalidPage) } true := by
  rw [takePage, if_pos h]
  rfl

lemma takePage_valid (h : ¬ (n < page.length ∨ page.any (fun item => !isObject item) = true)) :
    takePage a n page s =
      if a.maximumItems < (s.items.length + page.length : ℤ) then
        .done ⟨s.items ++ page.map Json.asObject, some (.error a.tooLarge)⟩ true
      else if page.length < n then
        .done ⟨s.items ++ page.map Json.asObject,
          some (.ok (s.items ++ page.map Json.asObject))⟩ true
      else .done ⟨s.items ++ page.map Json.asObject, s.outcome⟩ false := by
  have hlen : ((s.items ++ page.map Json.asObject).length : ℤ) = s.items.length + page.length := by
    rw [List.length_append, List.length_map, Nat.cast_add]
  rw [takePage, if_neg h]
  simp only [Code.bind_apply, Code.modify_apply, Code.read_apply, Proc.bind, hlen]
  split_ifs <;> rfl

lemma receive_page {collection : JsonObject}
    (h : Json.get collection a.collectionField = .arr page) :
    receive a n (.ok collection) = takePage a n page := by
  simp only [receive, h]

lemma receive_cases (a : ListArguments) (n : ℤ) (x : Except Webhook.ProcessingError JsonObject) :
    (∃ e, receive a n x = leave (.error (.request e))) ∨
    receive a n x = leave (.error a.noArray) ∨ ∃ page, receive a n x = takePage a n page := by
  cases x with
  | error e => exact .inl ⟨e, rfl⟩
  | ok collection =>
    right
    cases hpage : Json.get collection a.collectionField with
    | arr page => exact .inr ⟨page, receive_page hpage⟩
    | _ => exact .inl (by simp only [receive, hpage])

/-- Whatever the reply is, a round leaves the loop or adds an item. -/
lemma readPage_bounded (hm : a.maximumItems = m) (h : Going m s) :
    (readPage a s).Finishes (fun _ _ => True) (fun s' leaves =>
      if leaves = true then Ended m s' else Going m s' ∧ room m s' < room m s) 1 := by
  intro x _
  show (receive a _ x s).Finishes _ _ 0
  rcases receive_cases a (min 100 (a.maximumItems + 1 - s.items.length)) x
    with ⟨e, hx⟩ | hx | ⟨page, hx⟩
  · rw [hx]
    exact .inr (.inl ⟨e, rfl⟩)
  · rw [hx]
    exact .inr (.inr ⟨_, _, _, rfl⟩)
  · rw [hx]
    by_cases hinvalid : min 100 (a.maximumItems + 1 - s.items.length) < page.length ∨
        page.any (fun item => !isObject item) = true
    · rw [takePage_invalid hinvalid]
      exact .inr (.inr ⟨_, _, _, rfl⟩)
    · rw [takePage_valid hinvalid]
      have hitems := h.items
      have hlen : (s.items ++ page.map Json.asObject).length = s.items.length + page.length := by
        rw [List.length_append, List.length_map]
      split_ifs with hlarge hshort
      · exact .inr (.inr ⟨_, _, _, rfl⟩)
      · refine .inl ⟨_, rfl, ?_⟩
        omega
      · refine ⟨⟨h.open_, ?_⟩, ?_⟩
        · show (s.items ++ page.map Json.asObject).length ≤ m
          omega
        · -- the page is full, and a full page is not empty
          show m + 1 - (s.items ++ page.map Json.asObject).length < m + 1 - s.items.length
          omega

/-- What was read of `c` so far. -/
structure Part (c : List JsonObject) (m : ℕ) (s : Reading) : Prop extends Going m s where
  items_eq : s.items = c.take s.items.length
  within : s.items.length ≤ c.length

/-- A page of `c` that is not full is the rest of it. -/
lemma readPage_slice {c : List JsonObject} (hm : a.maximumItems = m) (h : Part c m s) :
    (readPage a s).Finishes (Slices a.collectionField c) (fun s' leaves =>
      if leaves = true then s'.outcome = some (a.collected c)
      else Part c m s' ∧ room m s' < room m s) 1 := by
  rintro x ⟨collection, rfl, hget⟩
  show (receive a _ (.ok collection) s).Finishes _ _ 0
  rw [receive_page hget]
  have hitems := h.items
  have hwithin := h.within
  set n := min 100 (a.maximumItems + 1 - s.items.length) with hn
  set slice := (c.drop s.items.length).take n.toNat with hslice
  have hlength : slice.length = min n.toNat (c.length - s.items.length) := by
    rw [hslice, List.length_take, List.length_drop]
  have hread : s.items ++ (slice.map Json.obj).map Json.asObject
      = c.take (s.items.length + slice.length) := by
    have hobjects : (slice.map Json.obj).map Json.asObject = slice := by
      simp [Function.comp_def, Json.asObject]
    have hrest : (c.drop s.items.length).take slice.length = slice := by
      rw [hlength, ← List.length_drop, ← List.take_take, List.take_length]
    rw [hobjects, List.take_add, ← h.items_eq, hrest]
  have hvalid : ¬ (n < (slice.map Json.obj).length ∨
      (slice.map Json.obj).any (fun item => !isObject item) = true) := by
    rw [List.length_map]
    refine not_or.mpr ⟨by omega, ?_⟩
    simp [isObject]
  rw [takePage_valid hvalid, hread, List.length_map]
  have hsize : (c.take (s.items.length + slice.length)).length = s.items.length + slice.length := by
    rw [List.length_take]
    omega
  split_ifs with hlarge hshort
  · -- more items than the bound were read
    show some _ = some _
    rw [ListArguments.collected, if_neg]
    omega
  · show some _ = some _
    rw [ListArguments.collected, if_pos, List.take_of_length_le]
    · omega
    · omega
  · refine ⟨⟨⟨h.open_, ?_⟩, ?_, ?_⟩, ?_⟩
    · show (c.take _).length ≤ m
      omega
    · show c.take _ = c.take (c.take _).length
      rw [hsize]
    · show (c.take _).length ≤ c.length
      omega
    · show m + 1 - (c.take _).length < m + 1 - s.items.length
      omega

end

/-! ## The read -/

section
variable {a : ListArguments} {m : ℕ} {ok : (r : PageRequest) → PageReply r → Prop}
  {P B : Reading → Prop}

/-- A read whose rounds leave by `B`, or go on with less room, ends by `B`. -/
lemma listObjects_finishes (hm : a.maximumItems = m) (hP : ∀ s, P s → Going m s)
    (hb : ∀ s, P s → (readPage a s).Finishes ok
      (fun s' leaves => if leaves = true then B s' else P s' ∧ room m s' < room m s) 1)
    (hstart : P {}) {rounds : ℕ} (hrounds : m < rounds) :
    (listObjects a rounds {}).Finishes ok
      (fun s outcome => B s ∧ ∀ o, s.outcome = some o → outcome = o) (m + 1) := by
  have hroom : ∀ s, P s → underway a s = true → 0 < room m s := fun s hs _ => by
    have hitems := (hP s hs).items
    show 0 < m + 1 - s.items.length
    omega
  refine Proc.Finishes.bind (m := 0) (fun s _ hs k _ => ?_)
    (Code.loop_finishes hroom (fun s hs _ => hb s hs) rounds {} (m + 1) hstart hrounds le_rfl)
  -- the items of a read that goes on are within the bound, so its loop is left from within
  have hleft : B s := by
    refine hs.resolve_left fun hover => ?_
    have hitems := (hP s hover.1).items
    have hopen := hover.2
    rw [underway, hm] at hopen
    simp only [Nat.cast_le, decide_eq_false_iff_not] at hopen
    exact hopen hitems
  simp only [Code.bind_apply, Code.read_apply, Proc.bind]
  cases houtcome : s.outcome with
  | none => exact .done k ⟨hleft, fun o ho => by cases houtcome.symm.trans ho⟩
  | some o => exact .done k ⟨hleft, fun o' ho => Option.some.inj (houtcome.symm.trans ho)⟩

end

/-- Whatever the replies are, a read with the bound `m` ends after at most `m + 1` of them, within its
loop and with at most `m` items. If each reply is the slice of `c` that was asked for, it ends with
`c` if that is within the bound, and with the error for too large a collection else. -/
theorem listObjects_exact (path : String) (params : List (String × String))
    (collectionField invalidCode : String) (m k : ℕ)
    (env : ℕ → (r : PageRequest) → PageReply r) :
    ∃ s outcome,
      (listObjects ⟨path, params, collectionField, invalidCode, m⟩ (m + 1 + k) {}).follow env (m + 1)
        = .done s outcome ∧
      (∀ message, outcome ≠ .error (.assertion message)) ∧
      (∀ items, outcome = .ok items → items.length ≤ m) ∧
      ∀ c, (∀ i r, Slices collectionField c r (env i r)) →
        outcome = if c.length ≤ m then .ok c else .error (.contract
          (removeSuffix invalidCode "_INVALID" ++ "_TOO_LARGE")
          "Razorpay collection exceeds the bounded read limit." (some m)) := by
  set a : ListArguments := ⟨path, params, collectionField, invalidCode, m⟩
  have hrounds : m < m + 1 + k := by omega
  have hstart : Going m {} := ⟨rfl, Nat.zero_le m⟩
  obtain ⟨s, outcome, hend, hended, houtcome⟩ := (listObjects_finishes rfl (fun _ hs => hs)
    (fun s hs => readPage_bounded (a := a) rfl hs) hstart hrounds).follow fun i r => trivial
  refine ⟨s, outcome, hend, fun message hmessage => ?_, fun items hitems => ?_, fun c hc => ?_⟩
  · rcases hended with ⟨items, hs, -⟩ | ⟨e, hs⟩ | ⟨code, text, maximum, hs⟩
    · cases hmessage.symm.trans (houtcome _ hs)
    · cases hmessage.symm.trans (houtcome _ hs)
    · cases hmessage.symm.trans (houtcome _ hs)
  · rcases hended with ⟨items', hs, hlen⟩ | ⟨e, hs⟩ | ⟨code, text, maximum, hs⟩
    · cases hitems.symm.trans (houtcome _ hs)
      exact hlen
    · cases hitems.symm.trans (houtcome _ hs)
    · cases hitems.symm.trans (houtcome _ hs)
  · have hpart : Part c m {} := ⟨hstart, rfl, Nat.zero_le _⟩
    obtain ⟨s', outcome', hend', hcollected, houtcome'⟩ := (listObjects_finishes rfl
      (fun _ hs => hs.toGoing) (fun s hs => readPage_slice (a := a) rfl hs) hpart
      hrounds).follow hc
    cases hend.symm.trans hend'
    have hbound : (c.length : ℤ) ≤ a.maximumItems ↔ c.length ≤ m := Nat.cast_le
    rw [houtcome' _ hcollected, ListArguments.collected]
    simp only [hbound]
    rfl

end RecoveryOS.Razorpay
