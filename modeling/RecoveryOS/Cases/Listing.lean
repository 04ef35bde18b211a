import RecoveryOS.Cases.Cursor
import RecoveryOS.Cases.Service
import RecoveryOS.Lib.Keyset
import Mathlib.Data.Prod.Lex
import Mathlib.Data.String.Basic

/-!
# Listing the cases of a merchant

`list_cases` of `repositories/cases.py`. The cases are ordered by when they were opened and then by
their id, the latest first. A page is read with one row more than it holds, and its cursor is the
place of its last case. The next page is of the cases below that place.
-/

namespace RecoveryOS.Cases

open Store
open JsonText (Text)
open Calendar (Aware)
open Cursor (ofString ofChars characters cursorText decodeCursor)

/-! ## The listing -/

/-- `CaseFilters`: what is empty or missing filters nothing. The times are aware of their offset, as
the column raises on others. -/
structure CaseFilters where
  outcomes : List CaseOutcome := []
  diagnoses : List Diagnosis := []
  subscriptionStates : List SubscriptionState := []
  openedFrom : Option Instant := none
  openedTo : Option Instant := none

abbrev CasePage := Keyset.Page Text RecoveryCase

/-- The cursor that leads to the cases below one; the column is in UTC. -/
def cursorOf (c : RecoveryCase) : Text :=
  cursorText (Calendar.isoformat c.openedAt).toList (ofString c.id)

/-- What `list_cases` raises: what `_decode_cursor` does, and what the driver does of a text with half
of a pair in it. -/
inductive ListError where
  | cursor (e : Cursor.Raised)
  | unencodable

/-- The cases of the merchant that the filters leave. -/
def CaseFilters.admits (filters : CaseFilters) (merchantId : String) (c : RecoveryCase) : Bool :=
  decide (c.merchantId = merchantId)
    && (filters.outcomes.isEmpty || filters.outcomes.contains c.caseOutcome)
    && (filters.diagnoses.isEmpty || filters.diagnoses.contains c.diagnosis)
    && (filters.subscriptionStates.isEmpty
      || filters.subscriptionStates.contains c.subscriptionState)
    && filters.openedFrom.all (· ≤ c.openedAt)
    && filters.openedTo.all (c.openedAt ≤ ·)

/-- What the cases are ordered by. -/
def place (c : RecoveryCase) : ℤ ×ₗ String := toLex (c.openedAt, c.id)

/-- The query of `list_cases`, below a place if there is one. -/
def queryCases (merchantId : String) (filters : CaseFilters) (after : Option (Instant × String))
    (limit : ℕ) (db : Database) : CasePage :=
  let rows := (Keyset.descending place (db.cases.filter fun c =>
    filters.admits merchantId c && after.all fun (openedAt, caseId) =>
      c.openedAt < openedAt || c.openedAt = openedAt && c.id < caseId)).take (limit + 1)
  let hasMore := decide (limit < rows.length)
  let items := rows.take limit
  let nextCursor := if hasMore then items.getLast?.map cursorOf else none
  ⟨items, nextCursor, hasMore⟩

/-- `list_cases`, where `json.loads` may open `depth` containers inside the first one. -/
def listCases (depth : ℕ) (merchantId : String) (filters : CaseFilters) (cursor : Option Text)
    (limit : ℕ) (db : Database) : Except ListError CasePage :=
  match cursor.filter (· ≠ []) with
  | none => .ok (queryCases merchantId filters none limit db)
  | some cursor =>
    match decodeCursor depth cursor with
    | .error e => .error (.cursor e)
    | .ok (openedAt, caseId) =>
      match characters caseId with
      | none => .error .unencodable
      | some caseId =>
        .ok (queryCases merchantId filters (some (openedAt.instant, String.ofList caseId)) limit db)

/-- The time of a cursor is read back as its instant in UTC. -/
lemma fromisoformat_utc {t : Instant} (h : Calendar.InRange t) :
    Calendar.fromisoformat (Calendar.isoformat t).toList
      = some (.aware (⟨t, 0, h, by decide⟩ : Aware)) := by
  have htext : (⟨t, 0, h, by decide⟩ : Aware).isoformat = (Calendar.isoformat t).toList := by
    simp only [Aware.isoformat, Calendar.isoformat, Calendar.wallText, String.toList_ofList,
      List.append_assoc, List.cons_append]
    rfl
  rw [← htext, Calendar.fromisoformat_isoformat]
  rfl

/-- The cursor of a case leads to the query below its place. -/
lemma listCases_cursorOf {c : RecoveryCase} (h : Calendar.InRange c.openedAt) (depth : ℕ)
    (merchantId : String) (filters : CaseFilters) (limit : ℕ) (db : Database) :
    listCases depth merchantId filters (some (cursorOf c)) limit db =
      .ok (queryCases merchantId filters (some (c.openedAt, c.id)) limit db) := by
  have hdecode : decodeCursor depth (cursorOf c)
      = .ok (⟨c.openedAt, 0, h, by decide⟩, ofString c.id) := by
    rw [cursorOf, Cursor.decodeCursor_cursorText depth _ _ (fromisoformat_utc h), ofString,
      Cursor.merge_ofChars]
  have hne : cursorOf c ≠ [] := by
    intro he
    rw [he] at hdecode
    have hempty : decodeCursor depth [] = .error (.invalidCursor "invalid recovery-case cursor") := by
      rfl
    rw [hempty] at hdecode
    cases hdecode
  have hid : characters (ofString c.id) = some c.id.toList := Cursor.characters_ofChars _
  have hfilter : (some (cursorOf c)).filter (· ≠ []) = some (cursorOf c) := by
    simp [hne]
  simp only [listCases, hfilter, hdecode, hid, String.ofList_toList, Aware.instant, Int.sub_zero]

section
variable {db : Database} {merchantId : String} {filters : CaseFilters} {limit : ℕ}

/-- The conditions of the query, with the place that the cursor stands for. -/
lemma below_iff (c d : RecoveryCase) :
    (decide (c.openedAt < d.openedAt) || decide (c.openedAt = d.openedAt) && decide (c.id < d.id))
      = decide (place c < place d) := by
  rw [Bool.eq_iff_iff]
  simp [place, Prod.Lex.toLex_lt_toLex]

lemma nodup_place (hk : Table.Keyed RecoveryCase.id db.cases) : (db.cases.map place).Nodup := by
  refine List.Nodup.of_map (fun p : ℤ ×ₗ String => (ofLex p).2) ?_
  rw [List.map_map]
  exact hk

/-- The cases that a listing goes through, the latest first. -/
def listed (merchantId : String) (filters : CaseFilters) (db : Database) : List RecoveryCase :=
  Keyset.descending place (db.cases.filter (filters.admits merchantId))

/-- A page is cut from the cases below the place of the case that its cursor was made of. -/
lemma listCases_eq {depth : ℕ} {cursor : Option Text} {after : Option RecoveryCase}
    (hcursor : cursor = after.map cursorOf) (hr : ∀ c ∈ after, Calendar.InRange c.openedAt) :
    listCases depth merchantId filters cursor limit db =
      .ok (Keyset.cut cursorOf limit
        (Keyset.descending place (db.cases.filter fun c =>
          filters.admits merchantId c && after.all fun x => place c < place x))) := by
  cases after with
  | none =>
    subst hcursor
    simp only [listCases, queryCases, Option.map_none, Option.filter_none, Option.all_none,
      Keyset.cut, decide_eq_true_eq]
  | some x =>
    subst hcursor
    rw [Option.map_some, listCases_cursorOf (hr x rfl)]
    simp only [queryCases, Option.all_some, below_iff, Keyset.cut, decide_eq_true_eq]

/-- The cases below the place of one that was seen are the ones that are left. -/
lemma descending_below (hk : Table.Keyed RecoveryCase.id db.cases) {seen rest : List RecoveryCase}
    (hall : listed merchantId filters db = seen ++ rest) :
    Keyset.descending place (db.cases.filter fun c =>
      filters.admits merchantId c && seen.getLast?.all fun x => place c < place x) = rest := by
  have hkeys : ((db.cases.filter (filters.admits merchantId)).map place).Nodup :=
    (nodup_place hk).sublist (List.filter_sublist.map place)
  cases hx : seen.getLast? with
  | none =>
    rw [List.getLast?_eq_none_iff] at hx
    subst hx
    simpa [listed] using hall
  | some x =>
    have hsplit : (db.cases.filter fun c =>
        filters.admits merchantId c && (some x).all fun x => place c < place x)
        = (db.cases.filter (filters.admits merchantId)).filter fun c => place c < place x := by
      rw [List.filter_filter]
      refine List.filter_congr fun c _ => ?_
      rw [Option.all_some, Bool.and_comm]
    have hpairs := Keyset.pairwise_descending hkeys
    have hlisted : Keyset.descending place (db.cases.filter (filters.admits merchantId))
        = seen ++ rest := hall
    rw [hlisted] at hpairs
    rw [hsplit, Keyset.descending_filter hkeys, hlisted]
    exact Keyset.filter_lt_of_pairwise hpairs hx

variable (merchantId filters limit) in
/-- Every page is cut from what is left of the listed cases. -/
theorem listCases_cuts (depth : ℕ) (hk : Table.Keyed RecoveryCase.id db.cases)
    (hr : ∀ c ∈ db.cases, Calendar.InRange c.openedAt) :
    Keyset.Cuts cursorOf limit (listed merchantId filters db)
      fun cursor => listCases depth merchantId filters cursor limit db := by
  intro seen rest hall
  have hmem : ∀ c ∈ seen.getLast?, c ∈ db.cases := by
    intro c hc
    have hin : c ∈ listed merchantId filters db :=
      hall ▸ List.mem_append_left _ (List.mem_of_mem_getLast? hc)
    exact (List.mem_filter.mp (Keyset.mem_descending.mp hin)).1
  show listCases depth merchantId filters _ limit db = _
  rw [listCases_eq rfl fun c hc => hr c (hmem c hc), descending_below hk hall]

/-- The pages show every case of the merchant that the filters leave, once and the latest first. All
but the last one are full, and a page tells whether there is a case that was not shown so far. -/
structure ListsAll (merchantId : String) (filters : CaseFilters) (limit : ℕ) (db : Database)
    (pages : List CasePage) : Prop where
  mem : ∀ c, c ∈ pages.flatMap (·.items) ↔ c ∈ db.cases ∧ filters.admits merchantId c = true
  once : (pages.flatMap (·.items)).Nodup
  descending : (pages.flatMap (·.items)).Pairwise fun a b =>
    b.openedAt < a.openedAt ∨ b.openedAt = a.openedAt ∧ b.id < a.id
  full : ∀ page ∈ pages.dropLast, page.items.length = limit
  more : ∀ before page after, pages = before ++ page :: after →
    (page.hasMore = true ↔ ∃ c ∈ db.cases, filters.admits merchantId c = true ∧
      ∀ shown ∈ before ++ [page], c ∉ shown.items)

/-- Pages that cover the listed cases show them as they should. -/
lemma ListsAll.of_covers (hk : Table.Keyed RecoveryCase.id db.cases) {pages : List CasePage}
    (h : Keyset.Covers limit (listed merchantId filters db) pages) :
    ListsAll merchantId filters limit db pages := by
  have hmem : ∀ c, c ∈ pages.flatMap (·.items) ↔
      c ∈ db.cases ∧ filters.admits merchantId c = true := by
    intro c
    rw [h.items, listed, Keyset.mem_descending, List.mem_filter]
  have hpairs : (pages.flatMap (·.items)).Pairwise fun a b => place b < place a := by
    rw [h.items]
    exact Keyset.pairwise_descending ((nodup_place hk).sublist (List.filter_sublist.map place))
  have honce : (pages.flatMap (·.items)).Nodup := hpairs.imp fun hlt he => by
    rw [he] at hlt
    exact lt_irrefl _ hlt
  refine ⟨hmem, honce, hpairs.imp fun hlt => ?_, h.full, ?_⟩
  · simpa [place, Prod.Lex.toLex_lt_toLex] using hlt
  · intro before page after hpages
    rw [h.more before page after hpages]
    have hsplit : pages.flatMap (·.items)
        = (before ++ [page]).flatMap (·.items) ++ after.flatMap (·.items) := by
      rw [hpages]
      simp
    constructor
    · intro hne
      obtain ⟨c, hc⟩ := List.exists_mem_of_ne_nil _ hne
      obtain ⟨hdb, hadmits⟩ := (hmem c).mp (hsplit ▸ List.mem_append_right _ hc)
      refine ⟨c, hdb, hadmits, fun shown hshown hin => ?_⟩
      rw [hsplit, List.nodup_append] at honce
      exact honce.2.2 c (List.mem_flatMap.mpr ⟨shown, hshown, hin⟩) c hc rfl
    · rintro ⟨c, hdb, hadmits, hnew⟩ hnil
      have hc := (hmem c).mpr ⟨hdb, hadmits⟩
      rw [hsplit, hnil, List.append_nil] at hc
      obtain ⟨shown, hshown, hin⟩ := List.mem_flatMap.mp hc
      exact hnew shown hshown hin

/-- Following the cursors of a listing over a database that stays as it is, with ids that are a key
and times that are `datetime`s, comes to an end and shows every case once. -/
theorem listing_complete (depth : ℕ) (db : Database) (hk : Table.Keyed RecoveryCase.id db.cases)
    (hr : ∀ c ∈ db.cases, Calendar.InRange c.openedAt) (merchantId : String)
    (filters : CaseFilters) (limit : ℕ) (hl : 1 ≤ limit) :
    (∃ pages,
      Keyset.Walk (fun cursor => listCases depth merchantId filters cursor limit db) none pages) ∧
      ∀ pages,
        Keyset.Walk (fun cursor => listCases depth merchantId filters cursor limit db) none pages →
        ListsAll merchantId filters limit db pages := by
  have hcuts := listCases_cuts merchantId filters limit depth hk hr
  constructor
  · exact Keyset.exists_walk hcuts hl [] _ rfl
  · intro pages hw
    exact .of_covers hk (hw.covers hcuts hl [] _ rfl rfl)

end

/-- A case that was opened in the first instant of 1970. -/
def tiedCase (id : String) : RecoveryCase where
  id := id
  merchantId := "merchant_1"
  customerId := "customer_1"
  subscriptionId := "subscription_1"
  failedInvoiceId := some id
  billingCycleKey := none
  failedPaymentId := none
  caseOutcome := .open
  paymentState := .failed
  subscriptionState := .halted
  contactDisposition := .notContacted
  revenueAttribution := .none
  diagnosis := .unknown
  amountAtRiskPaise := 49900
  arrearsCollectedPaise := 0
  caseRecovered := false
  subscriptionReactivated := false
  openedAt := 0
  recoveryDeadline := 1
  recoveredAt := none
  version := 1

/-- Three cases of one instant. -/
def tiedDatabase : Database where
  cases := [tiedCase "case_2", tiedCase "case_1", tiedCase "case_3"]

/-- A page ends between cases of one instant. -/
theorem tied_listing_complete :
    (1 : ℕ) ≤ 2 ∧
    (∃ pages, Keyset.Walk (fun cursor => listCases 1000 "merchant_1" {} cursor 2 tiedDatabase) none
      pages) ∧
      ∀ pages, Keyset.Walk (fun cursor => listCases 1000 "merchant_1" {} cursor 2 tiedDatabase) none
        pages → ListsAll "merchant_1" {} 2 tiedDatabase pages := by
  have hkeyed : Table.Keyed RecoveryCase.id tiedDatabase.cases := by
    unfold Table.Keyed
    decide
  have hrange : ∀ c ∈ tiedDatabase.cases, Calendar.InRange c.openedAt := by
    intro c hc
    have hopened : c.openedAt = 0 := by
      simp only [tiedDatabase, List.mem_cons, List.not_mem_nil, or_false] at hc
      rcases hc with rfl | rfl | rfl <;> rfl
    rw [hopened]
    exact ⟨by decide, by decide⟩
  exact ⟨by decide, listing_complete 1000 tiedDatabase hkeyed hrange "merchant_1" {} 2 (by decide)⟩

end RecoveryOS.Cases
