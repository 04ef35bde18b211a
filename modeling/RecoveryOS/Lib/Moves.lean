import RecoveryOS.Lib.Clients

/-!
# What one reply does

`Proc.Moves T` is about two successive nodes of a computation: the reply `x` to the request `r`
takes the state of the node that asked by `T r x` to the state of the next node. Along a run it
relates the states before and after every reply (`Proc.Moves.reply`), whatever the computation is.

Code moves by `T` if its parts do, provided that the silent steps between two requests, which stay
inside a preorder `Q`, can be added to a `T` at its end (`Moving.bind`). Code that stays inside a
relation and makes no request of a certain kind is `Tame`.
-/

namespace Resume

variable {Req : Type} {Reply : Req → Type} {σ α β : Type}

/-- Silent steps may be added to a move at its end. -/
def Absorbs (T : (r : Req) → Reply r → σ → σ → Prop) (Q : σ → σ → Prop) : Prop :=
  ∀ r x s s' s'', T r x s s' → Q s' s'' → T r x s s''

namespace Proc

/-- Every reply takes the state of the node that asked by `T` to the state of the next node. -/
def Moves (T : (r : Req) → Reply r → σ → σ → Prop) : Proc Req Reply σ α → Prop
  | .done _ _ => True
  | .failed _ => True
  | .spent _ => True
  | .await s r k => ∀ x, T r x s (k x).state ∧ (k x).Moves T

section
variable {T : (r : Req) → Reply r → σ → σ → Prop} {Q R : σ → σ → Prop} {ok : Req → Prop}
  {f : σ → α → Proc Req Reply σ β} {env : ℕ → (r : Req) → Reply r}

theorem Moves.follow : ∀ (n : ℕ) (env : ℕ → (r : Req) → Reply r) {p : Proc Req Reply σ α},
    p.Moves T → (p.follow env n).Moves T
  | 0, _, p, h => by cases p <;> exact h
  | n + 1, env, p, h => by
    cases p with
    | done s a => exact h
    | failed s => exact h
    | spent s => exact h
    | await s r k => exact Moves.follow n _ (h (env 0 r)).2

/-- The states of a run before and after a reply. -/
theorem Moves.reply {p : Proc Req Reply σ α} (h : p.Moves T) {i : ℕ} {s : σ} {r : Req}
    {k : Reply r → Proc Req Reply σ α} (hi : p.follow env i = .await s r k) :
    T r (env i r) s (p.follow env (i + 1)).state := by
  have hm := h.follow i env
  rw [hi] at hm
  have hnext : p.follow env (i + 1) = k (env i r) := by
    rw [follow_reply hi 0]
    cases k (env i r) <;> rfl
  rw [hnext]
  exact (hm (env i r)).1

lemma follow_zero (p : Proc Req Reply σ α) : p.follow env 0 = p := by cases p <;> rfl

/-- A run that has stopped stays where it is. -/
lemma follow_stopped {p : Proc Req Reply σ α} {i : ℕ}
    (h : ∀ s r k, p.follow env i ≠ .await s r k) : p.follow env (i + 1) = p.follow env i := by
  rw [follow_add]
  cases hp : p.follow env i with
  | done s a => rfl
  | failed s => rfl
  | spent s => rfl
  | await s r k => exact absurd hp (h s r k)

/-- What follows a computation moves, if it does from the states that the computation ends in. -/
theorem Moves.bind_meets [Std.Refl Q] (hT : Absorbs T Q) {I : σ → Prop} {P : σ → α → Prop}
    (hf : ∀ s a, P s a → Q s (f s a).state ∧ (f s a).Moves T) :
    ∀ {p : Proc Req Reply σ α}, p.Meets I P → p.Moves T →
      Q p.state (p.bind f).state ∧ (p.bind f).Moves T
  | .done s a, hp, _ => hf s a hp
  | .failed s, _, _ => ⟨refl_of Q s, trivial⟩
  | .spent s, _, _ => ⟨refl_of Q s, trivial⟩
  | .await s r k, hp, h => by
    refine ⟨refl_of Q s, fun x => ?_⟩
    obtain ⟨hq, hm⟩ := Moves.bind_meets hT hf (hp.2 x) (h x).2
    exact ⟨hT r x _ _ _ (h x).1 hq, hm⟩

lemma meets_true : ∀ p : Proc Req Reply σ α, p.Meets (fun _ => True) fun _ _ => True
  | .done _ _ => trivial
  | .failed _ => trivial
  | .spent _ => trivial
  | .await _ _ k => ⟨trivial, fun x => meets_true (k x)⟩

theorem Moves.bind [Std.Refl Q] (hT : Absorbs T Q)
    (hf : ∀ s a, Q s (f s a).state ∧ (f s a).Moves T) {p : Proc Req Reply σ α} (h : p.Moves T) :
    Q p.state (p.bind f).state ∧ (p.bind f).Moves T :=
  Moves.bind_meets hT (fun s a _ => hf s a) (meets_true p) h

/-- What the replies of a run tell, with the state they led to. -/
theorem Moves.told {P : List (Exchange Req Reply) → σ → Prop}
    (hT : ∀ h r x s s', P h s → T r x s s' → P (h ++ [⟨r, x⟩]) s') :
    ∀ (n : ℕ) (env : ℕ → (r : Req) → Reply r) {p : Proc Req Reply σ α}
      {h : List (Exchange Req Reply)}, p.Moves T → P h p.state →
      P (h ++ p.exchanges env n) (p.follow env n).state
  | 0, _, p, h, _, hp => by
    rw [follow_zero, show p.exchanges _ 0 = [] by cases p <;> rfl, List.append_nil]
    exact hp
  | n + 1, env, p, h, hm, hp => by
    cases p with
    | done s a => simpa [exchanges, Proc.follow] using hp
    | failed s => simpa [exchanges, Proc.follow] using hp
    | spent s => simpa [exchanges, Proc.follow] using hp
    | await s r k =>
      obtain ⟨ht, hk⟩ := hm (env 0 r)
      have hnext := Moves.told hT n (fun i => env (i + 1)) hk (hT _ _ _ _ _ hp ht)
      rw [List.append_assoc, List.singleton_append] at hnext
      exact hnext

/-- A property of states that every reply keeps. -/
theorem Moves.meets {P : σ → Prop} (hT : ∀ r x s s', P s → T r x s s' → P s') :
    ∀ {p : Proc Req Reply σ α}, p.Moves T → P p.state → p.Meets P fun s _ => P s
  | .done _ _, _, hp => hp
  | .failed _, _, hp => hp
  | .spent _, _, hp => hp
  | .await _ _ _, hm, hp => ⟨hp, fun x => Moves.meets hT (hm x).2 (hT _ x _ _ hp (hm x).1)⟩

/-- What every move tells about its request is true of every request. -/
theorem Moves.asks [∀ r, Nonempty (Reply r)] (hT : ∀ r x s s', T r x s s' → ok r) :
    ∀ {p : Proc Req Reply σ α}, p.Moves T → p.Asks ok
  | .done _ _, _ => trivial
  | .failed _, _ => trivial
  | .spent _, _ => trivial
  | .await _ r _, hm => by
    obtain ⟨x⟩ : Nonempty (Reply r) := inferInstance
    exact ⟨hT r x _ _ (hm x).1, fun y => Moves.asks hT (hm y).2⟩

/-- The state of an earlier point of a run and that of a later one. -/
theorem Moves.later [Std.Refl R] [IsTrans σ R] (hR : ∀ r x s s', T r x s s' → R s s')
    {p : Proc Req Reply σ α} (hm : p.Moves T) {m n : ℕ} (h : m ≤ n) :
    R (p.follow env m).state (p.follow env n).state := by
  obtain ⟨k, rfl⟩ := Nat.exists_eq_add_of_le h
  rw [follow_add]
  have hrun := Moves.told (P := fun _ s => R (p.follow env m).state s) (h := [])
    (fun _ r x s s' hs ht => trans_of R hs (hR r x s s' ht)) k (fun n => env (m + n))
    (hm.follow m env) (refl_of R _)
  exact hrun

/-- A computation that stays `R`-after `s` moves between states that are. -/
theorem Meets.moves {s : σ} (hT : ∀ r x t t', ok r → R s t → R s t' → T r x t t') :
    ∀ {p : Proc Req Reply σ α}, p.Meets (R s) (fun s' _ => R s s') → p.Asks ok →
      R s p.state ∧ p.Moves T
  | .done _ _, h, _ => ⟨h, trivial⟩
  | .failed _, h, _ => ⟨h, trivial⟩
  | .spent _, h, _ => ⟨h, trivial⟩
  | .await _ _ _, h, ha => by
    refine ⟨h.1, fun x => ?_⟩
    obtain ⟨hr, hm⟩ := Meets.moves hT (h.2 x) (ha.2 x)
    exact ⟨hT _ x _ _ ha.1 h.1 hr, hm⟩

end

end Proc

/-- Code that stays within `R` and makes only requests that are `ok`. -/
structure Tame (ok : Req → Prop) (R : σ → σ → Prop) (c : Code Req Reply σ α) : Prop where
  within : Within R c
  asks : ∀ s, (c s).Asks ok

/-- Code that moves by `T`, and is in `Q` up to its first request. -/
structure Moving (Q : σ → σ → Prop) (T : (r : Req) → Reply r → σ → σ → Prop)
    (c : Code Req Reply σ α) : Prop where
  silent : ∀ s, Q s (c s).state
  moves : ∀ s, (c s).Moves T

section
variable {ok : Req → Prop} {R Q : σ → σ → Prop} {T : (r : Req) → Reply r → σ → σ → Prop}
  {c : Code Req Reply σ α} {f : α → Code Req Reply σ β}

lemma Tame.pure [Std.Refl R] (a : α) : Tame ok R (Pure.pure a : Code Req Reply σ α) :=
  ⟨.pure a, fun _ => trivial⟩

lemma Tame.read [Std.Refl R] : Tame ok R (Code.read : Code Req Reply σ σ) :=
  ⟨.read, fun _ => trivial⟩

lemma Tame.fail [Std.Refl R] : Tame ok R (Code.fail : Code Req Reply σ α) :=
  ⟨.fail, fun _ => trivial⟩

lemma Tame.modify {g : σ → σ} (h : ∀ s, R s (g s)) :
    Tame ok R (Code.modify g : Code Req Reply σ Unit) :=
  ⟨.modify h, fun _ => trivial⟩

lemma Tame.bind [IsTrans σ R] (hc : Tame ok R c) (hf : ∀ a, Tame ok R (f a)) :
    Tame ok R (c >>= f) :=
  ⟨.bind hc.within fun a => (hf a).within, fun s => (hc.asks s).bind fun s' a => (hf a).asks s'⟩

/-- Tame code moves by whatever its relation allows between two states. -/
lemma Tame.moving (hc : Tame ok R c) (hQ : ∀ s s', R s s' → Q s s')
    (hT : ∀ s r x t t', ok r → R s t → R s t' → T r x t t') : Moving Q T c :=
  ⟨fun s => hQ _ _ ((hc.within s).moves (hT s) (hc.asks s)).1,
    fun s => ((hc.within s).moves (hT s) (hc.asks s)).2⟩

lemma Moving.pure [Std.Refl Q] (a : α) : Moving Q T (Pure.pure a : Code Req Reply σ α) :=
  ⟨fun s => refl_of Q s, fun _ => trivial⟩

lemma Moving.read [Std.Refl Q] : Moving Q T (Code.read : Code Req Reply σ σ) :=
  ⟨fun s => refl_of Q s, fun _ => trivial⟩

lemma Moving.fail [Std.Refl Q] : Moving Q T (Code.fail : Code Req Reply σ α) :=
  ⟨fun s => refl_of Q s, fun _ => trivial⟩

lemma Moving.modify {g : σ → σ} (h : ∀ s, Q s (g s)) :
    Moving Q T (Code.modify g : Code Req Reply σ Unit) :=
  ⟨h, fun _ => trivial⟩

variable [Std.Refl Q] [IsTrans σ Q] (hT : Absorbs T Q)
include hT

theorem Moving.bind (hc : Moving Q T c) (hf : ∀ a, Moving Q T (f a)) : Moving Q T (c >>= f) := by
  have hboth : ∀ s, Q (c s).state ((c >>= f) s).state ∧ ((c >>= f) s).Moves T := fun s =>
    (hc.moves s).bind hT fun s' a => ⟨(hf a).silent s', (hf a).moves s'⟩
  exact ⟨fun s => trans_of Q (hc.silent s) (hboth s).1, fun s => (hboth s).2⟩

/-- A loop moves if its body does wherever the condition holds. -/
theorem Code.loop_moves {cond : σ → Bool} {body : Code Req Reply σ Bool}
    (hb : ∀ s, cond s = true → Q s (body s).state ∧ (body s).Moves T) :
    ∀ (n : ℕ) (s : σ), Q s (loop cond body n s).state ∧ (loop cond body n s).Moves T
  | 0, s => by
    unfold loop
    split_ifs
    · exact ⟨refl_of Q s, trivial⟩
    · exact ⟨refl_of Q s, trivial⟩
  | n + 1, s => by
    unfold loop
    split_ifs with hc
    · obtain ⟨hq, hm⟩ := hb s hc
      have hround := hm.bind hT (f := fun s' brk =>
          if brk then .done s' () else loop cond body n s') fun s' brk => by
        split_ifs
        · exact ⟨refl_of Q s', trivial⟩
        · exact Code.loop_moves hb n s'
      exact ⟨trans_of Q hq hround.1, hround.2⟩
    · exact ⟨refl_of Q s, trivial⟩

theorem Moving.loop (cond : σ → Bool) {body : Code Req Reply σ Bool} (hb : Moving Q T body)
    (n : ℕ) : Moving Q T (Code.loop cond body n) := by
  have hloop : ∀ s, Q s (Code.loop cond body n s).state ∧ (Code.loop cond body n s).Moves T :=
    Code.loop_moves hT (fun s _ => ⟨hb.silent s, hb.moves s⟩) n
  exact ⟨fun s => (hloop s).1, fun s => (hloop s).2⟩

end

end Resume
