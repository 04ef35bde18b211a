import Mathlib.Tactic

/-!
# Sums over groups of rows

Rows are grouped by a key and an amount is summed in each group. The sum over some of the groups is
the sum over the rows in them (`sum_groups`). Two sums over the same keys that differ at one key
only differ by what they differ there (`sum_change`), and of two sums one of which is below the
other term by term, they are equal only if all terms are (`sum_eq_iff_of_le`).
-/

namespace Groups

variable {ρ κ : Type*}

lemma sum_filter_or (p q : ρ → Bool) (f : ρ → ℤ) (rows : List ρ)
    (h : ∀ r ∈ rows, p r = true → q r = false) :
    ((rows.filter fun r => p r || q r).map f).sum
      = ((rows.filter p).map f).sum + ((rows.filter q).map f).sum := by
  induction rows with
  | nil => rfl
  | cons r rows ih =>
    have ih := ih fun x hx => h x (List.mem_cons_of_mem _ hx)
    have hr := h r List.mem_cons_self
    cases hp : p r with
    | true =>
      simp only [List.filter_cons, hp, hr hp, Bool.or_false, if_true, List.map_cons, List.sum_cons,
        ih]
      simp only [Bool.false_eq_true, if_false]
      ring
    | false =>
      cases hq : q r with
      | true =>
        simp only [List.filter_cons, hp, hq, Bool.or_true, if_true, List.map_cons, List.sum_cons,
          ih]
        simp only [Bool.false_eq_true, if_false]
        ring
      | false =>
        simp only [List.filter_cons, hp, hq, Bool.or_false, Bool.false_eq_true, if_false, ih]

/-- The sum over groups is the sum over the rows in them. -/
theorem sum_groups [DecidableEq κ] (key : ρ → κ) (f : ρ → ℤ) (rows : List ρ) {groups : List κ}
    (h : groups.Nodup) :
    (groups.map fun g => ((rows.filter fun r => key r = g).map f).sum).sum
      = ((rows.filter fun r => groups.any fun g => key r = g).map f).sum := by
  induction groups with
  | nil => simp
  | cons g groups ih =>
    obtain ⟨hg, hgroups⟩ := List.nodup_cons.mp h
    rw [List.map_cons, List.sum_cons, ih hgroups, ← sum_filter_or]
    · congr 2
    · intro r _ hr
      rw [of_decide_eq_true hr, List.any_eq_false]
      intro g' hg' heq
      exact hg (of_decide_eq_true heq ▸ hg')

/-- The change of a sum when one term changes. -/
theorem sum_change {f g : κ → ℤ} {keys : List κ} {k : κ} (h : keys.Nodup) (hk : k ∈ keys)
    (heq : ∀ x ∈ keys, x ≠ k → g x = f x) :
    (keys.map g).sum = (keys.map f).sum + (g k - f k) := by
  induction keys with
  | nil => cases hk
  | cons x keys ih =>
    obtain ⟨hx, hkeys⟩ := List.nodup_cons.mp h
    rw [List.map_cons, List.map_cons, List.sum_cons, List.sum_cons]
    by_cases hxk : x = k
    · subst hxk
      have hrest : keys.map g = keys.map f := List.map_congr_left fun y hy =>
        heq y (List.mem_cons_of_mem _ hy) fun he => hx (he ▸ hy)
      rw [hrest]
      ring
    · have hmem : k ∈ keys := (List.mem_cons.mp hk).resolve_left fun he => hxk he.symm
      rw [ih hkeys hmem fun y hy => heq y (List.mem_cons_of_mem _ hy),
        heq x List.mem_cons_self hxk]
      ring

theorem sum_eq_iff_of_le {f g : κ → ℤ} {keys : List κ} (h : ∀ x ∈ keys, f x ≤ g x) :
    (keys.map f).sum = (keys.map g).sum ↔ ∀ x ∈ keys, f x = g x := by
  induction keys with
  | nil => simp
  | cons x keys ih =>
    have hx := h x List.mem_cons_self
    have hrest := fun y hy => h y (List.mem_cons_of_mem _ hy)
    have hle := List.sum_le_sum hrest
    rw [List.map_cons, List.map_cons, List.sum_cons, List.sum_cons, List.forall_mem_cons,
      ← ih hrest]
    constructor
    · intro heq
      exact ⟨by linarith, by linarith⟩
    · rintro ⟨hfx, hsum⟩
      rw [hfx, hsum]

end Groups
