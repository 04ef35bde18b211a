import Mathlib.Data.List.Sort
import Mathlib.Tactic

/-!
# Listing by pages

A listing in pages hands out at most `limit` rows at a time, with a token of the last row of a page
from which the next page goes on. If each page is cut from what is left of one list of rows, the
pages that the tokens lead through are that list (`Walk.covers`), and they come to an end
(`exists_walk`). A query that orders by a key and goes on below the key of a row is cut from one
list in this way, if no two rows have the same key.
-/

namespace Keyset

/-- A page of rows with the token of the next one. -/
structure Page (γ ρ : Type*) where
  items : List ρ
  nextCursor : Option γ
  hasMore : Bool

section Walk
variable {γ ρ ε : Type*}

/-- The pages that are seen by following the tokens, from one on to a page without. -/
inductive Walk (fetch : Option γ → Except ε (Page γ ρ)) : Option γ → List (Page γ ρ) → Prop
  | last {cursor : Option γ} {page : Page γ ρ} (h : fetch cursor = .ok page)
      (hlast : page.nextCursor = none) : Walk fetch cursor [page]
  | next {cursor : Option γ} {page : Page γ ρ} {c : γ} {pages : List (Page γ ρ)}
      (h : fetch cursor = .ok page) (hnext : page.nextCursor = some c)
      (rest : Walk fetch (some c) pages) : Walk fetch cursor (page :: pages)

/-- The page that is cut from what is left, by looking at one row more than it holds. -/
def cut (token : ρ → γ) (limit : ℕ) (rest : List ρ) : Page γ ρ :=
  let rows := rest.take (limit + 1)
  let items := rows.take limit
  ⟨items, if limit < rows.length then items.getLast?.map token else none, limit < rows.length⟩

variable {token : ρ → γ} {limit : ℕ} {rest : List ρ}

lemma cut_items : (cut token limit rest).items = rest.take limit := by
  simp [cut, List.take_take]

lemma cut_hasMore : (cut token limit rest).hasMore = true ↔ limit < rest.length := by
  simp [cut]

lemma cut_nextCursor : (cut token limit rest).nextCursor =
    if limit < rest.length then (rest.take limit).getLast?.map token else none := by
  simp [cut, List.take_take]

variable (token) in
/-- A page that is not the last one has a token, of its last row. -/
lemma cut_nextCursor_isSome (hl : 1 ≤ limit) :
    (cut token limit rest).nextCursor.isSome = true ↔ limit < rest.length := by
  rw [cut_nextCursor]
  split_ifs with h
  · have hne : rest.take limit ≠ [] := by
      rw [← List.length_pos_iff, List.length_take]
      omega
    simp [h, List.getLast?_eq_some_getLast hne]
  · simp [h]

/-- The pages hold the rows that are left, all but the last one are full, and each says whether
rows come after it. -/
structure Covers (limit : ℕ) (rest : List ρ) (pages : List (Page γ ρ)) : Prop where
  items : pages.flatMap (·.items) = rest
  full : ∀ page ∈ pages.dropLast, page.items.length = limit
  more : ∀ before page after, pages = before ++ page :: after →
    (page.hasMore = true ↔ after.flatMap (·.items) ≠ [])

variable {fetch : Option γ → Except ε (Page γ ρ)} {all : List ρ}

/-- Each page is cut from what is left after the row that the token is of. -/
def Cuts (token : ρ → γ) (limit : ℕ) (all : List ρ) (fetch : Option γ → Except ε (Page γ ρ)) :
    Prop :=
  ∀ seen rest, all = seen ++ rest → fetch (seen.getLast?.map token) = .ok (cut token limit rest)

/-- What is left after a page that is not the last one, and where its token stands. -/
lemma Cuts.step (h : Cuts token limit all fetch) {seen : List ρ} (hl : 1 ≤ limit)
    (hall : all = seen ++ rest) (hmore : limit < rest.length) :
    all = (seen ++ rest.take limit) ++ rest.drop limit ∧
      (cut token limit rest).nextCursor = (seen ++ rest.take limit).getLast?.map token ∧
      fetch (seen.getLast?.map token) = .ok (cut token limit rest) := by
  refine ⟨?_, ?_, h seen rest hall⟩
  · rw [List.append_assoc, List.take_append_drop, hall]
  · have hne : rest.take limit ≠ [] := by
      rw [← List.length_pos_iff, List.length_take]
      omega
    rw [cut_nextCursor, if_pos hmore, List.getLast?_append_of_ne_nil _ hne]

lemma Walk.ne_nil {cursor : Option γ} {pages : List (Page γ ρ)} (hw : Walk fetch cursor pages) :
    pages ≠ [] := by
  cases hw <;> simp

theorem Walk.covers (h : Cuts token limit all fetch) (hl : 1 ≤ limit) {cursor : Option γ}
    {pages : List (Page γ ρ)} (hw : Walk fetch cursor pages) :
    ∀ seen rest, all = seen ++ rest → cursor = seen.getLast?.map token →
      Covers limit rest pages := by
  induction hw with
  | last hpage hlast =>
    intro seen rest hall hcursor
    rw [hcursor, h seen rest hall] at hpage
    obtain rfl := Except.ok.inj hpage
    have hmore : ¬ limit < rest.length := by
      intro hmore
      have hsome := (cut_nextCursor_isSome token hl).mpr hmore
      rw [hlast] at hsome
      exact absurd hsome (by simp)
    refine ⟨?_, ?_, ?_⟩
    · rw [List.flatMap_singleton, cut_items, List.take_of_length_le (by omega)]
    · simp
    · intro before page after hpages
      obtain ⟨rfl, rfl, rfl⟩ : before = [] ∧ page = cut token limit rest ∧ after = [] := by
        cases before with
        | nil => simpa [eq_comm] using hpages
        | cons b before => simp at hpages
      rw [cut_hasMore]
      simp [hmore]
  | next hpage hnext hrest ih =>
    intro seen rest hall hcursor
    rw [hcursor, h seen rest hall] at hpage
    obtain rfl := Except.ok.inj hpage
    have hmore : limit < rest.length := by
      rw [← cut_nextCursor_isSome token hl, hnext]
      rfl
    obtain ⟨hall', hcursor', -⟩ := h.step hl hall hmore
    have ih := ih _ _ hall' (hnext ▸ hcursor')
    refine ⟨?_, ?_, ?_⟩
    · rw [List.flatMap_cons, cut_items, ih.items, List.take_append_drop]
    · intro page hpage
      rw [List.dropLast_cons_of_ne_nil hrest.ne_nil, List.mem_cons] at hpage
      rcases hpage with rfl | hpage
      · rw [cut_items, List.length_take]
        omega
      · exact ih.full page hpage
    · intro before page after hpages
      cases before with
      | nil =>
        obtain ⟨rfl, rfl⟩ := List.cons.inj hpages
        rw [cut_hasMore, ih.items, ne_eq, List.drop_eq_nil_iff]
        omega
      | cons b before => exact ih.more before page after (List.cons.inj hpages).2

/-- The tokens come to an end: each page takes rows off what is left. -/
theorem exists_walk (h : Cuts token limit all fetch) (hl : 1 ≤ limit) (seen rest : List ρ)
    (hall : all = seen ++ rest) : ∃ pages, Walk fetch (seen.getLast?.map token) pages := by
  induction hn : rest.length using Nat.strong_induction_on generalizing seen rest with
  | _ n ih =>
    by_cases hmore : limit < rest.length
    · obtain ⟨hall', hcursor', hpage⟩ := h.step hl hall hmore
      obtain ⟨pages, hpages⟩ := ih _ (by rw [List.length_drop]; omega) _ _ hall' rfl
      obtain ⟨c, hc⟩ := Option.isSome_iff_exists.mp ((cut_nextCursor_isSome token hl).mpr hmore)
      rw [← hcursor', hc] at hpages
      exact ⟨_, .next hpage hc hpages⟩
    · have hnone : (cut token limit rest).nextCursor = none := by
        rw [cut_nextCursor, if_neg hmore]
      exact ⟨_, .last (h seen rest hall) hnone⟩

end Walk

section Order
variable {ρ κ : Type*} [LinearOrder κ] (key : ρ → κ)

/-- The rows from the highest key to the lowest. -/
def descending (rows : List ρ) : List ρ := rows.insertionSort fun a b => key b ≤ key a

variable {key} {rows : List ρ}

lemma perm_descending : (descending key rows).Perm rows := List.perm_insertionSort _ rows

lemma mem_descending {r : ρ} : r ∈ descending key rows ↔ r ∈ rows := perm_descending.mem_iff

/-- No two rows have the same key, so each is strictly above the next. -/
lemma pairwise_descending (h : (rows.map key).Nodup) :
    (descending key rows).Pairwise fun a b => key b < key a := by
  have hsorted : (descending key rows).Pairwise fun a b => key b ≤ key a :=
    List.pairwise_insertionSort _ rows
  have hkeys : ((descending key rows).map key).Nodup :=
    (perm_descending.map key).nodup_iff.mpr h
  rw [List.Nodup, List.pairwise_map] at hkeys
  exact hsorted.imp₂ (fun _ _ hle hne => lt_of_le_of_ne hle (Ne.symm hne)) hkeys

/-- Some of the rows are in the order that all of them are in. -/
lemma descending_filter (h : (rows.map key).Nodup) (p : ρ → Bool) :
    descending key (rows.filter p) = (descending key rows).filter p := by
  have hsub : ((rows.filter p).map key).Nodup := h.sublist (List.filter_sublist.map key)
  have hperm : (descending key (rows.filter p)).Perm ((descending key rows).filter p) :=
    perm_descending.trans (perm_descending.filter p).symm
  exact hperm.eq_of_pairwise (fun a b _ _ hab hba => absurd hab (lt_asymm hba))
    (pairwise_descending hsub) ((pairwise_descending h).filter p)

/-- Below the key of a row are the rows that come after it. -/
lemma filter_lt_of_pairwise {seen rest : List ρ} {x : ρ}
    (h : (seen ++ rest).Pairwise fun a b => key b < key a) (hx : seen.getLast? = some x) :
    ((seen ++ rest).filter fun r => key r < key x) = rest := by
  obtain ⟨seen, rfl⟩ := List.getLast?_eq_some_iff.mp hx
  rw [List.append_assoc, List.pairwise_append] at h
  obtain ⟨-, hrest, hcross⟩ := h
  rw [List.filter_append, List.filter_append]
  have hseen : seen.filter (fun r => decide (key r < key x)) = [] := by
    rw [List.filter_eq_nil_iff]
    intro r hr
    have := hcross r hr x (by simp)
    simpa using this.le
  have hbelow : rest.filter (fun r => decide (key r < key x)) = rest := by
    rw [List.filter_eq_self]
    intro r hr
    rw [List.singleton_append, List.pairwise_cons] at hrest
    exact decide_eq_true (hrest.1 r hr)
  rw [hseen, hbelow]
  simp

/-- A row is among the first ones if fewer rows have a higher key. -/
lemma mem_take_descending (h : (rows.map key).Nodup) {n : ℕ} {x : ρ} (hx : x ∈ rows) :
    x ∈ (descending key rows).take n ↔ (rows.filter fun r => key x < key r).length < n := by
  have hin : x ∈ descending key rows := mem_descending.mpr hx
  obtain ⟨seen, rest, hsplit⟩ := List.append_of_mem hin
  have hpairs := pairwise_descending h
  rw [hsplit, List.pairwise_append, List.pairwise_cons] at hpairs
  obtain ⟨-, ⟨hbelow, -⟩, habove⟩ := hpairs
  have hseen : seen.filter (fun r => decide (key x < key r)) = seen := by
    rw [List.filter_eq_self]
    exact fun r hr => decide_eq_true (habove r hr x (by simp))
  have hrest : (x :: rest).filter (fun r => decide (key x < key r)) = [] := by
    rw [List.filter_eq_nil_iff]
    intro r hr
    rcases List.mem_cons.mp hr with rfl | hr
    · simp
    · simpa using (hbelow r hr).le
  have hcount : (rows.filter fun r => key x < key r).length = seen.length := by
    have hperm : ((descending key rows).filter fun r => key x < key r).Perm
        (rows.filter fun r => key x < key r) := perm_descending.filter _
    rw [← hperm.length_eq, hsplit, List.filter_append, hseen, hrest, List.append_nil]
  have hnew : x ∉ seen := fun hin => lt_irrefl _ (habove x hin x (by simp))
  rw [hcount, hsplit]
  constructor
  · intro hin
    by_contra hle
    rw [List.take_append_of_le_length (by omega)] at hin
    exact hnew (List.mem_of_mem_take hin)
  · intro hlt
    rw [List.take_append, List.take_of_length_le hlt.le]
    obtain ⟨k, hk⟩ : ∃ k, n - seen.length = k + 1 := ⟨n - seen.length - 1, by omega⟩
    rw [hk]
    simp

end Order

end Keyset
