import RecoveryOS.Lib.Resume

/-!
# The rounds of a loop

A loop looks at its condition in the state it is entered in, and again in every state that a round of
it ends in without a break (`Code.Head`). So what holds where it is entered and is kept by every
round holds at every head.

`Proc.Comes ok K Q` is for computations of which something is known along some replies only: as long
as the replies are `ok` where they are given, the computation comes to a node in `K` unless it
finishes in `Q` before. `Proc.Finishes ok Q n` is total: along replies that are `ok` it comes to its
end after `n` of them at most, without an exception. A loop does if a number decreases with every
round.
-/

namespace Resume

variable {Req : Type} {Reply : Req → Type} {σ α β : Type}

namespace Proc

/-- The computation can come to its end in `s` with the result `a`. -/
def CanEnd (p : Proc Req Reply σ α) (s : σ) (a : α) : Prop :=
  ∃ (env : ℕ → (r : Req) → Reply r) (n : ℕ), p.follow env n = .done s a

theorem Meets.canEnd {I : σ → Prop} {Q : σ → α → Prop} {p : Proc Req Reply σ α} {s : σ} {a : α}
    (h : p.Meets I Q) (he : p.CanEnd s a) : Q s a := by
  obtain ⟨env, n, hn⟩ := he
  have hend := h.follow n env
  rw [hn] at hend
  exact hend

/-- Along replies that are `ok`, a node in `K` is reached, or the end in `Q`. -/
def Comes (ok : σ → (r : Req) → Reply r → Prop) (K : Proc Req Reply σ α → Prop)
    (Q : σ → α → Prop) : Proc Req Reply σ α → Prop
  | .done s a => Q s a
  | .failed _ => True
  | .spent _ => True
  | .await s r k => K (.await s r k) ∨ ∀ x, ok s r x → (k x).Comes ok K Q

section
variable {ok : σ → (r : Req) → Reply r → Prop} {K : Proc Req Reply σ α → Prop}
  {K' : Proc Req Reply σ β → Prop} {P : σ → α → Prop} {Q : σ → β → Prop}
  {f : σ → α → Proc Req Reply σ β}

theorem Comes.bind (hK : ∀ p : Proc Req Reply σ α, K p → K' (p.bind f))
    (hf : ∀ s a, P s a → (f s a).Comes ok K' Q) :
    ∀ {p : Proc Req Reply σ α}, p.Comes ok K P → (p.bind f).Comes ok K' Q
  | .done s a, h => hf s a h
  | .failed _, _ => trivial
  | .spent _, _ => trivial
  | .await s r k, h => by
    rcases h with h | h
    · exact .inl (hK _ h)
    · exact .inr fun x hx => Comes.bind hK hf (h x hx)

/-- A first part that comes to its end. -/
theorem Comes.andThen (hf : ∀ s a, P s a → (f s a).Comes ok K' Q) {p : Proc Req Reply σ α}
    (h : p.Comes ok (fun _ => False) P) : (p.bind f).Comes ok K' Q :=
  h.bind (fun _ hk => hk.elim) hf

end

/-- Along replies that are `ok`, the end is reached after `n` of them at most, and in `Q`. -/
def Finishes (ok : (r : Req) → Reply r → Prop) (Q : σ → α → Prop) : ℕ → Proc Req Reply σ α → Prop
  | _, .done s a => Q s a
  | n + 1, .await _ r k => ∀ x, ok r x → (k x).Finishes ok Q n
  | _, _ => False

section
variable {ok : (r : Req) → Reply r → Prop} {P : σ → α → Prop} {Q : σ → β → Prop}
  {f : σ → α → Proc Req Reply σ β}

theorem Finishes.done {s : σ} {a : α} (n : ℕ) (h : P s a) :
    (done s a : Proc Req Reply σ α).Finishes ok P n := by
  cases n <;> exact h

theorem Finishes.bind {m n : ℕ} (hf : ∀ s a, P s a → ∀ k ≥ m, (f s a).Finishes ok Q k) :
    ∀ {p : Proc Req Reply σ α}, p.Finishes ok P n → (p.bind f).Finishes ok Q (n + m) := by
  induction n with
  | zero =>
    intro p h
    cases p with
    | done s a => exact hf s a h _ (Nat.le_add_left m 0)
    | failed s => exact h.elim
    | spent s => exact h.elim
    | await s r k => exact h.elim
  | succ n ih =>
    intro p h
    cases p with
    | done s a => exact hf s a h _ (Nat.le_add_left m (n + 1))
    | failed s => exact h.elim
    | spent s => exact h.elim
    | await s r k =>
      rw [Nat.succ_add]
      exact fun x hx => ih (h x hx)

theorem Finishes.follow {n : ℕ} : ∀ {env : ℕ → (r : Req) → Reply r} {p : Proc Req Reply σ α},
    p.Finishes ok P n → (∀ i r, ok r (env i r)) → ∃ s a, p.follow env n = .done s a ∧ P s a := by
  induction n with
  | zero =>
    intro env p h _
    cases p with
    | done s a => exact ⟨s, a, rfl, h⟩
    | failed s => exact h.elim
    | spent s => exact h.elim
    | await s r k => exact h.elim
  | succ n ih =>
    intro env p h hok
    cases p with
    | done s a => exact ⟨s, a, rfl, h⟩
    | failed s => exact h.elim
    | spent s => exact h.elim
    | await s r k => exact ih (h _ (hok 0 r)) fun i => hok (i + 1)

end

end Proc

namespace Code

/-- The states in which a loop that is entered in `s₀` looks at its condition. -/
inductive Head (cond : σ → Bool) (body : Code Req Reply σ Bool) (s₀ : σ) : σ → Prop
  | entered : Head cond body s₀ s₀
  | again {s s' : σ} (hs : Head cond body s₀ s) (hc : cond s = true)
      (hend : (body s).CanEnd s' false) : Head cond body s₀ s'

section
variable {cond : σ → Bool} {body : Code Req Reply σ Bool} {s₀ s : σ} {P B : σ → Prop}

/-- What every round keeps holds at every head. -/
theorem Head.keeps {I : σ → Prop} (h : Head cond body s₀ s) (h₀ : P s₀)
    (hb : ∀ t, P t → cond t = true → (body t).Meets I fun t' _ => P t') : P s := by
  induction h with
  | entered => exact h₀
  | again hs hc hend ih => exact (hb _ ih hc).canEnd hend

/-- A loop comes to its end in `P` if its rounds do. -/
theorem loop_comes {ok : σ → (r : Req) → Reply r → Prop}
    (hb : ∀ s, P s → cond s = true → (body s).Comes ok (fun _ => False) fun s' _ => P s') :
    ∀ (n : ℕ) (s : σ), P s → (loop cond body n s).Comes ok (fun _ => False) fun s' _ => P s'
  | 0, s, h => by
    unfold loop
    split_ifs
    · trivial
    · exact h
  | n + 1, s, h => by
    unfold loop
    split_ifs with hc
    · refine (hb s h hc).andThen fun s' leaves hs => ?_
      split_ifs
      · exact hs
      · exact loop_comes hb n s' hs
    · exact h

/-- A loop in whose rounds, of one request each, a number decreases. -/
theorem loop_finishes {ok : (r : Req) → Reply r → Prop} {room : σ → ℕ}
    (hroom : ∀ s, P s → cond s = true → 0 < room s)
    (hb : ∀ s, P s → cond s = true → (body s).Finishes ok
      (fun s' leaves => if leaves = true then B s' else P s' ∧ room s' < room s) 1) :
    ∀ (n : ℕ) (s : σ) (m : ℕ), P s → room s ≤ n → room s ≤ m →
      (loop cond body n s).Finishes ok (fun s' _ => (P s' ∧ cond s' = false) ∨ B s') m
  | 0, s, m, h, hn, _ => by
    unfold loop
    split_ifs with hc
    · exact absurd hn (not_le.mpr (hroom s h hc))
    · exact .done m (.inl ⟨h, by simpa using hc⟩)
  | n + 1, s, m, h, hn, hm => by
    unfold loop
    split_ifs with hc
    · have hpositive := hroom s h hc
      obtain ⟨m, rfl⟩ := Nat.exists_eq_add_of_le (hpositive.trans_le hm)
      refine Proc.Finishes.bind (fun s' leaves hs k hk => ?_) (hb s h hc)
      by_cases hleaves : leaves = true
      · rw [if_pos hleaves] at hs ⊢
        exact .done k (.inr hs)
      · rw [if_neg hleaves] at hs ⊢
        exact loop_finishes hroom hb n s' k hs.1 (by omega) (by omega)
    · exact .done m (.inl ⟨h, by simpa using hc⟩)

end

end Code

end Resume
