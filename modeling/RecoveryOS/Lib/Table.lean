import Mathlib.Tactic

/-!
# Tables and transactions

A table is a list of rows with a key; `put` writes a row back under its key, and `insert` adds a row
unless a constraint forbids it. A `Tx` is a transaction: code on a state that may raise, and a state
that a failed one leaves as it was. The triple `Ensures P c Q` speaks of the runs that succeed, as a
failed run changes nothing.
-/

namespace Table

section
variable {ρ κ : Type*} [DecidableEq κ] (key : ρ → κ) {rows : List ρ} {r x y : ρ}

/-- Write a row back: it replaces the row that has its key. -/
def put (rows : List ρ) (r : ρ) : List ρ :=
  rows.map fun x => if key x = key r then r else x

/-- No two rows have the same key. -/
def Keyed (rows : List ρ) : Prop := (rows.map key).Nodup

variable {key}

omit [DecidableEq κ] in
lemma Keyed.eq (h : Keyed key rows) (hx : x ∈ rows) (hy : y ∈ rows) (he : key x = key y) :
    x = y :=
  List.inj_on_of_nodup_map h hx hy he

/-- The row of a key is the one that is found under it. -/
lemma Keyed.find?_eq (h : Keyed key rows) (hr : r ∈ rows) :
    rows.find? (fun x => key x = key r) = some r := by
  cases hf : rows.find? (fun x => key x = key r) with
  | none => exact absurd (List.find?_eq_none.mp hf r hr) (by simp)
  | some x =>
    have hx := List.find?_some hf
    rw [h.eq (List.mem_of_find?_eq_some hf) hr (by simpa using hx)]

lemma map_key_put : (put key rows r).map key = rows.map key := by
  simp only [put, List.map_map]
  refine List.map_congr_left fun x _ => ?_
  simp only [Function.comp]
  split_ifs with h
  · exact h.symm
  · rfl

lemma Keyed.put (h : Keyed key rows) (r : ρ) : Keyed key (put key rows r) := by
  unfold Keyed
  rw [map_key_put]
  exact h

lemma mem_put (hx : x ∈ put key rows r) : x = r ∨ (x ∈ rows ∧ key x ≠ key r) := by
  obtain ⟨y, hy, rfl⟩ := List.mem_map.mp hx
  split_ifs with h
  · exact .inl rfl
  · exact .inr ⟨hy, h⟩

lemma mem_put_self (hy : y ∈ rows) (h : key y = key r) : r ∈ put key rows r :=
  List.mem_map.mpr ⟨y, hy, if_pos h⟩

lemma mem_put_of_ne (hx : x ∈ rows) (h : key x ≠ key r) : x ∈ put key rows r :=
  List.mem_map.mpr ⟨x, hx, if_neg h⟩

/-- A column that a write leaves alone. -/
lemma map_put {β : Type*} {g : ρ → β} (h : Keyed key rows) {x r : ρ} (hx : x ∈ rows)
    (hid : key r = key x) (hg : g r = g x) : (put key rows r).map g = rows.map g := by
  simp only [put, List.map_map]
  refine List.map_congr_left fun y hy => ?_
  simp only [Function.comp]
  split_ifs with hy'
  · rw [h.eq hy hx (hy'.trans hid), hg]
  · rfl

/-- The row that is found is still found after it was written back. -/
lemma find?_put {p : ρ → Bool} (hx : rows.find? p = some x) (hid : key r = key x)
    (hr : p r = true) : (put key rows r).find? p = some r := by
  induction rows with
  | nil => cases hx
  | cons y rows ih =>
    simp only [put, List.map_cons] at ih ⊢
    by_cases hkey : key y = key r
    · rw [if_pos hkey, List.find?_cons_of_pos hr]
    · by_cases hy : p y = true
      · rw [List.find?_cons_of_pos hy] at hx
        obtain rfl := Option.some.inj hx
        exact absurd hid.symm hkey
      · rw [List.find?_cons_of_neg hy] at hx
        rw [if_neg hkey, List.find?_cons_of_neg hy]
        exact ih hx

lemma mem_put_iff (hr : ∃ y ∈ rows, key y = key r) :
    x ∈ put key rows r ↔ x = r ∨ (x ∈ rows ∧ key x ≠ key r) := by
  refine ⟨mem_put, ?_⟩
  obtain ⟨y, hy, he⟩ := hr
  rintro (rfl | ⟨hx, hne⟩)
  · exact mem_put_self hy he
  · exact mem_put_of_ne hx hne

/-- Writing back several rows, each under a key of its own that is there. -/
theorem mem_foldl_put {written : List ρ} (hnodup : Keyed key written) :
    ∀ {rows : List ρ}, (∀ r ∈ written, ∃ y ∈ rows, key y = key r) →
      (x ∈ written.foldl (put key) rows ↔
        x ∈ written ∨ (x ∈ rows ∧ ∀ r ∈ written, key x ≠ key r)) := by
  induction written with
  | nil => simp
  | cons r written ih =>
    intro rows hthere
    unfold Keyed at hnodup
    rw [List.map_cons, List.nodup_cons] at hnodup
    have hne : ∀ s ∈ written, key s ≠ key r := fun s hs he =>
      hnodup.1 (he ▸ List.mem_map_of_mem hs)
    have hr := hthere r List.mem_cons_self
    rw [List.foldl_cons, ih hnodup.2 fun s hs => ?_, mem_put_iff hr]
    · simp only [List.mem_cons, forall_eq_or_imp]
      constructor
      · rintro (h | ⟨rfl | ⟨h, hxr⟩, hall⟩)
        · exact .inl (.inr h)
        · exact .inl (.inl rfl)
        · exact .inr ⟨h, hxr, hall⟩
      · rintro ((rfl | h) | ⟨h, hxr, hall⟩)
        · exact .inr ⟨.inl rfl, fun s hs he => hne s hs he.symm⟩
        · exact .inl h
        · exact .inr ⟨.inr ⟨h, hxr⟩, hall⟩
    · obtain ⟨y, hy, he⟩ := hthere s (List.mem_cons_of_mem _ hs)
      exact ⟨y, mem_put_of_ne hy (he ▸ hne s hs), he⟩

omit [DecidableEq κ] in
/-- Rows that all have one key are one row at most. -/
lemma Keyed.countP_le_one (h : Keyed key rows) {p : ρ → Bool} {k : κ}
    (hp : ∀ x ∈ rows, p x = true → key x = k) : rows.countP p ≤ 1 := by
  rw [List.countP_eq_length_filter]
  have hsub : ((rows.filter p).map key).Nodup := h.sublist (List.filter_sublist.map key)
  have hrep : (rows.filter p).map key = List.replicate (rows.filter p).length k := by
    refine List.eq_replicate_iff.mpr ⟨List.length_map _, fun y hy => ?_⟩
    obtain ⟨x, hx, rfl⟩ := List.mem_map.mp hy
    exact hp x (List.mem_filter.mp hx).1 (List.mem_filter.mp hx).2
  rw [hrep, List.nodup_replicate] at hsub
  exact hsub

omit [DecidableEq κ] in
lemma Keyed.append (h : Keyed key rows) (hr : ∀ x ∈ rows, key x ≠ key r) :
    Keyed key (rows ++ [r]) := by
  unfold Keyed
  rw [List.map_append, List.nodup_append]
  refine ⟨h, by simp, fun a ha b hb => ?_⟩
  obtain ⟨x, hx, rfl⟩ := List.mem_map.mp ha
  simp only [List.map_cons, List.map_nil, List.mem_singleton] at hb
  exact hb ▸ hr x hx

omit [DecidableEq κ] in
lemma Keyed.map (h : Keyed key rows) {f : ρ → ρ} (hf : ∀ r ∈ rows, key (f r) = key r) :
    Keyed key (rows.map f) := by
  unfold Keyed
  rw [List.map_map, List.map_congr_left (f := key ∘ f) (g := key) hf]
  exact h

/-- Add a row that passes its checks and shares no unique key with a row that is there. -/
def insert (check : ρ → Bool) (clash : ρ → ρ → Bool) (rows : List ρ) (r : ρ) : Option (List ρ) :=
  if check r && rows.all (fun x => !clash x r) then some (rows ++ [r]) else none

/-- The row that comes first in an order, as `order_by` with `limit(1)` selects it. -/
def first (le : ρ → ρ → Bool) (rows : List ρ) : Option ρ :=
  (rows.insertionSort fun a b => le a b = true).head?

omit [DecidableEq κ] in
lemma mem_of_first {le : ρ → ρ → Bool} (h : first le rows = some r) : r ∈ rows := by
  have hm := List.mem_of_head? h
  rwa [List.mem_insertionSort] at hm

omit [DecidableEq κ] in
lemma first_eq_none {le : ρ → ρ → Bool} : first le rows = none ↔ rows = [] := by
  unfold first
  rw [List.head?_eq_none_iff, ← List.length_eq_zero_iff, List.length_insertionSort,
    List.length_eq_zero_iff]

omit [DecidableEq κ] in
lemma first_map {σ : Type*} {le : ρ → ρ → Bool} {le' : σ → σ → Bool} {f : ρ → σ}
    (h : ∀ a b, le' (f a) (f b) = le a b) : first le' (rows.map f) = (first le rows).map f := by
  unfold first
  rw [← List.head?_map, List.map_insertionSort (fun a b => le a b = true)
    (fun a b => le' a b = true) f rows fun a _ b _ => by rw [h]]

omit [DecidableEq κ] in
/-- The first row comes before all others. -/
lemma le_of_first {le : ρ → ρ → Bool} (htotal : ∀ a b, le a b = true ∨ le b a = true)
    (htrans : ∀ a b c, le a b = true → le b c = true → le a c = true) (h : first le rows = some r)
    (hx : x ∈ rows) : le r x = true := by
  have : Std.Total fun a b => le a b = true := ⟨htotal⟩
  have : IsTrans ρ fun a b => le a b = true := ⟨htrans⟩
  have hsorted := List.pairwise_insertionSort (fun a b => le a b = true) rows
  have hin := (List.mem_insertionSort fun a b => le a b = true).mpr hx
  obtain ⟨rest, hrest⟩ := List.head?_eq_some_iff.mp h
  rw [hrest] at hsorted hin
  rcases List.mem_cons.mp hin with rfl | hin
  · exact (htotal x x).elim id id
  · exact (List.pairwise_cons.mp hsorted).1 x hin

omit [DecidableEq κ] in
/-- A row that comes before all others is the first, if no other does. -/
lemma first_eq_some {le : ρ → ρ → Bool} (htotal : ∀ a b, le a b = true ∨ le b a = true)
    (htrans : ∀ a b c, le a b = true → le b c = true → le a c = true) (hr : r ∈ rows)
    (hall : ∀ x ∈ rows, le r x = true) (hanti : ∀ x ∈ rows, le x r = true → le r x = true → x = r) :
    first le rows = some r := by
  cases hf : first le rows with
  | none =>
    rw [first_eq_none.mp hf] at hr
    cases hr
  | some y =>
    have hy := mem_of_first hf
    rw [hanti y hy (le_of_first htotal htrans hf hr) (hall y hy)]

omit [DecidableEq κ] in
lemma insert_eq_some {check : ρ → Bool} {clash : ρ → ρ → Bool} {rows' : List ρ}
    (h : insert check clash rows r = some rows') :
    check r = true ∧ (∀ x ∈ rows, clash x r = false) ∧ rows' = rows ++ [r] := by
  unfold insert at h
  split_ifs at h with hc
  simp only [Bool.and_eq_true, List.all_eq_true, Bool.not_eq_true'] at hc
  exact ⟨hc.1, hc.2, (Option.some.inj h).symm⟩

omit [DecidableEq κ] in
lemma insert_of_forall {check : ρ → Bool} {clash : ρ → ρ → Bool} (hc : check r = true)
    (h : ∀ x ∈ rows, clash x r = false) : insert check clash rows r = some (rows ++ [r]) := by
  have hall : rows.all (fun x => !clash x r) = true := by
    rw [List.all_eq_true]
    intro x hx
    simp [h x hx]
  unfold insert
  rw [hc, hall]
  rfl

omit [DecidableEq κ] in
/-- What passes its checks is refused only for a row that is there. -/
lemma exists_clash {check : ρ → Bool} {clash : ρ → ρ → Bool} (hc : check r = true)
    (h : insert check clash rows r = none) : ∃ x ∈ rows, clash x r = true := by
  by_contra hnone
  push Not at hnone
  have hall : rows.all (fun x => !clash x r) = true := by
    rw [List.all_eq_true]
    intro x hx
    simpa using hnone x hx
  unfold insert at h
  rw [hc, hall] at h
  cases h

end

end Table

/-! Results that are collected from calls that all succeed. -/

namespace Collected

variable {ε α β γ : Type} {f : α → Except ε β}

lemma of_bind_eq_ok {x : Except ε γ} {f : γ → Except ε β} {b : β} (h : x >>= f = .ok b) :
    ∃ a, x = .ok a ∧ f a = .ok b := by
  cases x with
  | error e => cases h
  | ok a => exact ⟨a, rfl, h⟩

lemma cons_eq_ok {x : α} {xs : List α} {ys : List β} (h : (x :: xs).mapM f = .ok ys) :
    ∃ y ys', f x = .ok y ∧ xs.mapM f = .ok ys' ∧ ys = y :: ys' := by
  rw [List.mapM_cons] at h
  cases hx : f x with
  | error e => simp [hx, bind, Except.bind] at h
  | ok y =>
    cases hxs : xs.mapM f with
    | error e => simp [hx, hxs, bind, Except.bind] at h
    | ok ys' =>
      refine ⟨y, ys', rfl, rfl, ?_⟩
      simpa [hx, hxs, bind, Except.bind, pure, Except.pure, eq_comm] using h

lemma nil_eq_ok {ys : List β} (h : [].mapM f = .ok ys) : ys = [] := by
  simpa [pure, Except.pure, eq_comm] using h

theorem exists_of_mem : ∀ {xs : List α} {ys : List β}, xs.mapM f = .ok ys →
    ∀ y ∈ ys, ∃ x ∈ xs, f x = .ok y
  | [], ys, h, y, hy => by
    rw [nil_eq_ok h] at hy
    cases hy
  | x :: xs, ys, h, y, hy => by
    obtain ⟨z, zs, hz, hzs, rfl⟩ := cons_eq_ok h
    rcases List.mem_cons.mp hy with rfl | hy
    · exact ⟨x, List.mem_cons_self, hz⟩
    · obtain ⟨w, hw, hfw⟩ := exists_of_mem hzs y hy
      exact ⟨w, List.mem_cons_of_mem _ hw, hfw⟩

theorem exists_of_mem_left : ∀ {xs : List α} {ys : List β}, xs.mapM f = .ok ys →
    ∀ x ∈ xs, ∃ y ∈ ys, f x = .ok y
  | [], _, _, x, hx => by cases hx
  | x :: xs, ys, h, z, hz => by
    obtain ⟨y, ys', hy, hys', rfl⟩ := cons_eq_ok h
    rcases List.mem_cons.mp hz with rfl | hz
    · exact ⟨y, List.mem_cons_self, hy⟩
    · obtain ⟨w, hw, hfw⟩ := exists_of_mem_left hys' z hz
      exact ⟨w, List.mem_cons_of_mem _ hw, hfw⟩

/-- What each call keeps, the list keeps. -/
theorem map_eq {g : α → γ} {k : β → γ} (hk : ∀ x y, f x = .ok y → k y = g x) :
    ∀ {xs : List α} {ys : List β}, xs.mapM f = .ok ys → ys.map k = xs.map g
  | [], ys, h => by rw [nil_eq_ok h]; rfl
  | x :: xs, ys, h => by
    obtain ⟨z, zs, hz, hzs, rfl⟩ := cons_eq_ok h
    rw [List.map_cons, List.map_cons, hk x z hz, map_eq hk hzs]

/-- What is done to each result is done to the list. -/
theorem map_ok {g : β → γ} : ∀ {xs : List α} {ys : List β}, xs.mapM f = .ok ys →
    (xs.mapM fun x => (f x).map g) = .ok (ys.map g)
  | [], ys, hys => by
    rw [nil_eq_ok hys]
    rfl
  | x :: xs, ys, hys => by
    obtain ⟨z, zs, hz, hzs, rfl⟩ := cons_eq_ok hys
    rw [List.mapM_cons, hz, map_ok hzs]
    rfl

theorem zip_ok {k : α → γ} : ∀ {xs : List α} {ys : List β}, xs.mapM f = .ok ys →
    (xs.mapM fun x => (f x).map (Prod.mk (k x))) = .ok ((xs.map k).zip ys)
  | [], ys, hys => by
    rw [nil_eq_ok hys]
    rfl
  | x :: xs, ys, hys => by
    obtain ⟨z, zs, hz, hzs, rfl⟩ := cons_eq_ok hys
    rw [List.mapM_cons, hz, zip_ok hzs]
    rfl

end Collected

/-- A transaction on `σ`: it raises, or returns with a new state. -/
def Tx (ε σ α : Type) : Type := σ → Except ε (α × σ)

namespace Tx

variable {ε σ α β : Type}

instance : Monad (Tx ε σ) where
  pure a := fun s => .ok (a, s)
  bind c f := fun s =>
    match c s with
    | .ok (a, s') => f a s'
    | .error e => .error e

def modify (f : σ → σ) : Tx ε σ Unit := fun s => .ok ((), f s)

def modifyIf (b : Bool) (f : σ → σ) : Tx ε σ Unit := modify fun s => if b then f s else s

def throw (e : ε) : Tx ε σ α := fun _ => .error e

/-- Raise unless the condition holds. -/
def require (b : Bool) (e : ε) : Tx ε σ Unit := if b then pure () else throw e

/-- Read the state. -/
def query (f : σ → α) : Tx ε σ α := fun s => .ok (f s, s)

/-- A write that the database may refuse. -/
def attempt (f : σ → Option σ) (e : ε) : Tx ε σ Unit := fun s =>
  match f s with
  | some s' => .ok ((), s')
  | none => .error e

/-- Call code that does not touch the state. -/
def call (r : Except ε α) : Tx ε σ α :=
  match r with
  | .ok a => pure a
  | .error e => throw e

/-- Raise if there is nothing. -/
def expect (o : Option α) (e : ε) : Tx ε σ α :=
  match o with
  | some a => pure a
  | none => throw e

/-! What a run does when its first step succeeds. -/

section
variable {f : α → Tx ε σ β} {s s' : σ}

lemma run_bind {c : Tx ε σ α} {a : α} (h : c s = .ok (a, s')) : (c >>= f) s = f a s' := by
  show (match c s with
    | .ok (a, s') => f a s'
    | .error e => .error e) = f a s'
  rw [h]

lemma run_bind_error {c : Tx ε σ α} {e : ε} (h : c s = .error e) : (c >>= f) s = .error e := by
  show (match c s with
    | .ok (a, s') => f a s'
    | .error e => .error e) = .error e
  rw [h]

/-- A run that succeeds is a run of its first step and one of the rest. -/
lemma bind_eq_ok {c : Tx ε σ α} {b : β} (h : (c >>= f) s = .ok (b, s')) :
    ∃ a t, c s = .ok (a, t) ∧ f a t = .ok (b, s') := by
  simp only [Bind.bind] at h
  cases hc : c s with
  | error e => simp [hc] at h
  | ok p =>
    rw [hc] at h
    exact ⟨p.1, p.2, rfl, h⟩

lemma call_eq_ok {r : Except ε α} {a : α} (h : call r s = .ok (a, s')) : r = .ok a ∧ s' = s := by
  unfold call at h
  cases r with
  | error e => cases h
  | ok a' =>
    obtain ⟨rfl, rfl⟩ : a' = a ∧ s = s' := by simpa [pure] using h
    exact ⟨rfl, rfl⟩

lemma run_query (g : σ → α) : (query g >>= f : Tx ε σ β) s = f (g s) s := rfl

lemma run_expect {a : α} {o : Option α} {e : ε} (h : o = some a) : (expect o e >>= f) s = f a s := by
  subst h
  rfl

lemma run_require {b : Bool} {e : ε} {f : Unit → Tx ε σ β} (h : b = true) :
    (require b e >>= f) s = f () s := by
  subst h
  rfl

lemma run_modify {g : σ → σ} {f : Unit → Tx ε σ β} : (modify g >>= f) s = f () (g s) := rfl

lemma run_attempt {g : σ → Option σ} {e : ε} {f : Unit → Tx ε σ β} (h : g s = some s') :
    (attempt g e >>= f) s = f () s' := by
  refine run_bind ?_
  unfold attempt
  rw [h]

end

/-- From a state in `P`, every run that succeeds ends in `Q`. -/
def Ensures (P : σ → Prop) (c : Tx ε σ α) (Q : α → σ → Prop) : Prop :=
  ∀ s, P s → ∀ a s', c s = .ok (a, s') → Q a s'

section
variable {P : σ → Prop} {Q Q' : α → σ → Prop} {R : β → σ → Prop}

lemma Ensures.weaken {c : Tx ε σ α} (h : Ensures P c Q) (hQ : ∀ a s, Q a s → Q' a s) :
    Ensures P c Q' :=
  fun s hs a s' he => hQ a s' (h s hs a s' he)

lemma Ensures.strengthen {P' : σ → Prop} {c : Tx ε σ α} (h : Ensures P c Q)
    (hP : ∀ s, P' s → P s) : Ensures P' c Q :=
  fun s hs a s' he => h s (hP s hs) a s' he

lemma Ensures.pure {a : α} (h : ∀ s, P s → Q a s) : Ensures P (pure a : Tx ε σ α) Q := by
  intro s hs a' s' he
  obtain ⟨rfl, rfl⟩ : a = a' ∧ s = s' := by simpa [Pure.pure] using he
  exact h s hs

lemma Ensures.throw {e : ε} : Ensures P (throw e : Tx ε σ α) Q := by
  intro s _ a s' he
  exact absurd he (by simp [Tx.throw])

lemma Ensures.call {r : Except ε α} (h : ∀ a, r = .ok a → ∀ s, P s → Q a s) :
    Ensures P (call r : Tx ε σ α) Q := by
  unfold Tx.call
  cases r with
  | ok a => exact .pure (h a rfl)
  | error e => exact .throw

lemma Ensures.query {f : σ → α} (h : ∀ s, P s → Q (f s) s) :
    Ensures P (query f : Tx ε σ α) Q := by
  intro s hs a s' he
  obtain ⟨rfl, rfl⟩ : f s = a ∧ s = s' := by simpa [Tx.query] using he
  exact h s hs

lemma Ensures.modify {f : σ → σ} {Q : Unit → σ → Prop} (h : ∀ s, P s → Q () (f s)) :
    Ensures P (modify f : Tx ε σ Unit) Q := by
  intro s hs a s' he
  obtain rfl : f s = s' := by simpa [Tx.modify] using he
  exact h s hs

lemma Ensures.modifyIf {b : Bool} {f : σ → σ} {Q : Unit → σ → Prop} (h : ∀ s, P s → Q () (f s))
    (h' : ∀ s, P s → Q () s) : Ensures P (modifyIf b f : Tx ε σ Unit) Q := by
  refine .modify fun s hs => ?_
  split_ifs
  · exact h s hs
  · exact h' s hs

lemma Ensures.attempt {f : σ → Option σ} {e : ε} {Q : Unit → σ → Prop}
    (h : ∀ s, P s → ∀ s', f s = some s' → Q () s') :
    Ensures P (attempt f e : Tx ε σ Unit) Q := by
  intro s hs a s' he
  unfold Tx.attempt at he
  split at he
  · next t ht =>
    obtain rfl : t = s' := by simpa using he
    exact h s hs t ht
  · cases he

/-- The rule of sequencing. -/
theorem Ensures.bind {c : Tx ε σ α} {f : α → Tx ε σ β} (hc : Ensures P c Q)
    (hf : ∀ a, Ensures (Q a) (f a) R) : Ensures P (c >>= f) R := by
  intro s hs b s' he
  simp only [Bind.bind] at he
  cases hcs : c s with
  | error e => simp [hcs] at he
  | ok p =>
    obtain ⟨a, t⟩ := p
    rw [hcs] at he
    exact hf a t (hc s hs a t hcs) b s' he

/-- The rest of a run from a given state starts where its first step ended. -/
lemma Ensures.run_bind {c : Tx ε σ α} {f : α → Tx ε σ β} {s : σ}
    (h : ∀ a t, c s = .ok (a, t) → Ensures (· = t) (f a) R) : Ensures (· = s) (c >>= f) R := by
  rintro _ rfl b s' he
  obtain ⟨a, t, hc, hf⟩ := bind_eq_ok he
  exact h a t hc t rfl b s' hf

/-- A step of which nothing is used. -/
lemma Ensures.skip {c : Tx ε σ α} {f : α → Tx ε σ β} (h : ∀ a, Ensures (fun _ => True) (f a) R) :
    Ensures P (c >>= f) R :=
  .bind (Q := fun _ _ => True) (fun _ _ _ _ _ => trivial) h

/-! What a step finds out about values alone, the steps after it may assume. -/

lemma Ensures.expect_bind {o : Option α} {e : ε} {f : α → Tx ε σ β}
    (h : ∀ a, o = some a → Ensures P (f a) R) : Ensures P (expect o e >>= f) R := by
  unfold expect
  cases o with
  | none => exact .bind (Q := fun _ _ => False) .throw fun a s hs => hs.elim
  | some a => exact h a rfl

lemma Ensures.call_bind {r : Except ε α} {f : α → Tx ε σ β}
    (h : ∀ a, r = .ok a → Ensures P (f a) R) : Ensures P (Tx.call r >>= f) R := by
  unfold Tx.call
  cases r with
  | ok a => exact h a rfl
  | error e => exact .bind (Q := fun _ _ => False) .throw fun a s hs => hs.elim

lemma Ensures.require_bind {b : Bool} {e : ε} {f : Unit → Tx ε σ β}
    (h : b = true → Ensures P (f ()) R) : Ensures P (require b e >>= f) R := by
  unfold require
  split_ifs with hb
  · exact h hb
  · exact .bind (Q := fun _ _ => False) .throw fun a s hs => hs.elim

lemma Ensures.query_bind {g : σ → α} {f : α → Tx ε σ β}
    (h : ∀ a, Ensures (fun s => P s ∧ g s = a) (f a) R) : Ensures P (Tx.query g >>= f) R :=
  .bind (.query fun _ hs => ⟨hs, rfl⟩) h

lemma Ensures.attempt_bind {g : σ → Option σ} {e : ε} {f : Unit → Tx ε σ β}
    (h : Ensures (fun t => ∃ s, P s ∧ g s = some t) (f ()) R) :
    Ensures P (Tx.attempt g e >>= f) R :=
  .bind (.attempt fun s hs _ ht => ⟨s, hs, ht⟩) fun _ => h

/-- Code that leaves the state as it is. -/
def ReadOnly (c : Tx ε σ α) : Prop := ∀ s a s', c s = .ok (a, s') → s' = s

lemma ReadOnly.ensures {c : Tx ε σ α} (h : ReadOnly c) (hP : ∀ s, P s → ∀ a, Q a s) :
    Ensures P c Q := by
  intro s hs a s' he
  rw [h s a s' he]
  exact hP s hs a

lemma readOnly_iff {c : Tx ε σ α} : ReadOnly c ↔ ∀ s, Ensures (· = s) c fun _ t => t = s := by
  constructor
  · rintro h s t rfl a s' he
    exact h t a s' he
  · intro h s a s' he
    exact h s s rfl a s' he

/-- Code whose successful runs keep `P`. -/
def Keeps (P : σ → Prop) (c : Tx ε σ α) : Prop := Ensures P c fun _ => P

lemma Keeps.bind {c : Tx ε σ α} {f : α → Tx ε σ β} (hc : Keeps P c) (hf : ∀ a, Keeps P (f a)) :
    Keeps P (c >>= f) := Ensures.bind hc hf

lemma Keeps.pure {a : α} : Keeps P (pure a : Tx ε σ α) := Ensures.pure fun _ h => h

lemma Keeps.throw {e : ε} : Keeps P (throw e : Tx ε σ α) := Ensures.throw

lemma Keeps.call {r : Except ε α} : Keeps P (call r : Tx ε σ α) := Ensures.call fun _ _ _ h => h

lemma Keeps.query {f : σ → α} : Keeps P (query f : Tx ε σ α) := Ensures.query fun _ h => h

lemma Keeps.require {b : Bool} {e : ε} : Keeps P (require b e : Tx ε σ Unit) := by
  unfold Tx.require
  split_ifs
  · exact .pure
  · exact .throw

lemma Keeps.expect {o : Option α} {e : ε} : Keeps P (expect o e : Tx ε σ α) := by
  unfold Tx.expect
  split
  · exact .pure
  · exact .throw

lemma ReadOnly.keeps {c : Tx ε σ α} (h : ReadOnly c) : Keeps P c := h.ensures fun _ hs _ => hs

end

end Tx
