import Mathlib.Tactic

/-!
# Histories

A history lists what happened, oldest first. `Causal P h` says of every entry that what came before
it allows it: `P l x` for the entry `x` and the entries `l` before it. A history grows at its end, so
a causal property is kept by showing it for the entry that is added (`causal_snoc`). Of the entries
with one key, the first one is in `firsts`.
-/

namespace History

variable {α : Type*} {P Q : List α → α → Prop} {h l : List α} {x : α}

/-- Every entry is allowed by the entries before it. -/
def Causal (P : List α → α → Prop) (h : List α) : Prop :=
  ∀ l x l', h = l ++ x :: l' → P l x

lemma causal_nil : Causal P [] := by
  intro l x l' h
  simp at h

lemma Causal.left (hc : Causal P (h ++ l)) : Causal P h := by
  intro l₁ y l₂ he
  exact hc l₁ y (l₂ ++ l) (by rw [he]; simp)

lemma Causal.mono (hPQ : ∀ l x, P l x → Q l x) (hc : Causal P h) : Causal Q h :=
  fun l x l' he => hPQ l x (hc l x l' he)

lemma Causal.split {l' : List α} (hc : Causal P (l ++ x :: l')) : P l x := hc l x l' rfl

/-- An entry is somewhere in the history, with its past before it. -/
lemma Causal.of_mem (hc : Causal P h) (hx : x ∈ h) : ∃ l, l ⊆ h ∧ P l x := by
  obtain ⟨l, l', rfl⟩ := List.append_of_mem hx
  exact ⟨l, List.subset_append_left l _, hc.split⟩

/-- A history is causal if it was before its last entry, and that entry is allowed. -/
theorem causal_snoc : Causal P (h ++ [x]) ↔ Causal P h ∧ P h x := by
  constructor
  · intro hc
    exact ⟨hc.left, hc.split⟩
  · rintro ⟨hc, hx⟩ l y l' he
    rcases List.eq_nil_or_concat l' with rfl | ⟨l'', z, rfl⟩
    · obtain ⟨rfl, rfl⟩ : h = l ∧ x = y := by simpa using List.append_inj' he rfl
      exact hx
    · have he' : h ++ [x] = (l ++ y :: l'') ++ [z] := by simpa using he
      exact hc l y l'' (List.append_inj' he' rfl).1

/-- Entries can be added that are allowed after the history and any of them. -/
theorem Causal.append (hc : Causal P h) :
    ∀ {l : List α}, (∀ x ∈ l, ∀ l', l' <+: l → P (h ++ l') x) → Causal P (h ++ l) := by
  intro l
  induction l using List.reverseRecOn with
  | nil =>
    intro _
    simpa using hc
  | append_singleton l x ih =>
    intro hl
    rw [← List.append_assoc, causal_snoc]
    refine ⟨ih fun y hy l' hl' => hl y (by simp [hy]) l' ?_, hl x (by simp) l ?_⟩
    · exact hl'.trans (List.prefix_append l [x])
    · exact List.prefix_append l [x]

theorem causal_iff_forall_fin :
    Causal P h ↔ ∀ i : Fin h.length, P (h.take i) (h.get i) := by
  constructor
  · intro hc i
    refine hc (h.take i) (h.get i) (h.drop (i + 1)) ?_
    simp
  · rintro hc l x l' rfl
    simpa using hc ⟨l.length, by simp⟩

instance [∀ l x, Decidable (P l x)] : Decidable (Causal P h) :=
  decidable_of_iff' _ causal_iff_forall_fin

/-! ## The first entry of each key -/

section Firsts
variable {κ : Type*} [DecidableEq κ] {key : α → κ}

variable (key) in
/-- The entries whose key no earlier entry has. -/
def firsts : List α → List α
  | [] => []
  | x :: h => x :: (firsts h).filter fun y => key y ≠ key x

/-- Every key of the history is that of one entry. -/
lemma mem_map_firsts {k : κ} : ∀ {h : List α}, k ∈ (firsts key h).map key ↔ k ∈ h.map key
  | [] => Iff.rfl
  | x :: h => by
    have ih := mem_map_firsts (k := k) (h := h)
    by_cases hk : k = key x
    · simp [firsts, hk]
    · have hfilter : k ∈ ((firsts key h).filter fun y => key y ≠ key x).map key
          ↔ k ∈ (firsts key h).map key := by
        simp only [List.mem_map, List.mem_filter, decide_eq_true_eq]
        constructor
        · rintro ⟨y, ⟨hy, -⟩, rfl⟩
          exact ⟨y, hy, rfl⟩
        · rintro ⟨y, hy, rfl⟩
          exact ⟨y, ⟨hy, hk⟩, rfl⟩
      rw [firsts, List.map_cons, List.mem_cons, hfilter, ih, List.map_cons, List.mem_cons]

lemma nodup_firsts : ∀ h : List α, ((firsts key h).map key).Nodup
  | [] => List.nodup_nil
  | x :: h => by
    rw [firsts, List.map_cons, List.nodup_cons]
    refine ⟨fun hx => ?_, (nodup_firsts h).sublist (List.filter_sublist.map key)⟩
    obtain ⟨y, hy, he⟩ := List.mem_map.mp hx
    exact of_decide_eq_true (List.mem_filter.mp hy).2 he

/-- An entry that is added is a first one if its key is new. -/
theorem firsts_snoc (x : α) : ∀ h : List α, firsts key (h ++ [x]) =
    if key x ∈ h.map key then firsts key h else firsts key h ++ [x]
  | [] => rfl
  | y :: h => by
    have ih := firsts_snoc x h
    rw [List.cons_append, firsts, ih]
    by_cases hmem : key x ∈ h.map key
    · have hmem' : key x ∈ (y :: h).map key := List.mem_cons_of_mem _ hmem
      rw [if_pos hmem, if_pos hmem', firsts]
    · rw [if_neg hmem, List.filter_append]
      by_cases hxy : key x = key y
      · have hmem' : key x ∈ (y :: h).map key := by simp [hxy]
        rw [if_pos hmem', firsts]
        simp [hxy]
      · have hmem' : key x ∉ (y :: h).map key := by
          rw [List.map_cons, List.mem_cons, not_or]
          exact ⟨hxy, hmem⟩
        rw [if_neg hmem', firsts]
        simp [hxy]

/-- There are as many as there are keys. -/
lemma length_firsts (h : List α) : (firsts key h).length = (h.map key).dedup.length := by
  have hperm : ((firsts key h).map key).Perm (h.map key).dedup := by
    refine (List.perm_ext_iff_of_nodup (nodup_firsts h) (List.nodup_dedup _)).mpr fun k => ?_
    rw [mem_map_firsts, List.mem_dedup]
  rw [← hperm.length_eq, List.length_map]

end Firsts

end History
