import Mathlib.Tactic

/-!
# Computations that stop at requests

A `Proc` has run up to its next request and holds the rest as a function of the reply; `Code` is a
`Proc` waiting for its state. A run against an environment answers one request after another
(`Proc.follow`), so what holds at every node of the tree (`Proc.Meets`) holds at every point of
every run, whatever the replies are (`Proc.Meets.follow`).

`Within R` is for code whose every step stays inside a preorder `R`, and `Leads R T` for code that
does so up to its end, where it has gone through `T`: both are read off the primitive steps of a
program, along its sequencing.

`Tells I Q` is `Meets` for properties that also speak of the exchanges a run has had, its requests
with their replies.

`Watch T ok P Q` is about the first reply of a kind `T`. From that reply on the computation `Ends`:
it finishes in `Q` unless one of its requests is refused, and asks for nothing that could be
answered by another `T`.
-/

namespace Resume

/-- A computation on states `σ`: finished, failed, out of loop rounds, or stopped at a request. -/
inductive Proc (Req : Type) (Reply : Req → Type) (σ α : Type) where
  | done (s : σ) (a : α)
  | failed (s : σ)
  | spent (s : σ)
  | await (s : σ) (r : Req) (k : Reply r → Proc Req Reply σ α)

/-- Code is a computation that waits for its state. -/
def Code (Req : Type) (Reply : Req → Type) (σ α : Type) : Type :=
  σ → Proc Req Reply σ α

/-- A request with its reply. -/
abbrev Exchange (Req : Type) (Reply : Req → Type) : Type := (r : Req) × Reply r

variable {Req : Type} {Reply : Req → Type} {σ α β : Type}

namespace Proc

/-- The state at the node a computation has reached. -/
def state : Proc Req Reply σ α → σ
  | .done s _ => s
  | .failed s => s
  | .spent s => s
  | .await s _ _ => s

def bind : Proc Req Reply σ α → (σ → α → Proc Req Reply σ β) → Proc Req Reply σ β
  | .done s a, f => f s a
  | .failed s, _ => .failed s
  | .spent s, _ => .spent s
  | .await s r k, f => .await s r fun x => (k x).bind f

/-- The node reached after at most `n` replies of the environment. -/
def follow : (ℕ → (r : Req) → Reply r) → ℕ → Proc Req Reply σ α → Proc Req Reply σ α
  | env, n + 1, .await _ r k => follow (fun i => env (i + 1)) n (k (env 0 r))
  | _, _, p => p

/-- `I` at every node that is not finished, `Q` where the computation finishes. -/
def Meets (I : σ → Prop) (Q : σ → α → Prop) : Proc Req Reply σ α → Prop
  | .done s a => Q s a
  | .failed s => I s
  | .spent s => I s
  | .await s _ k => I s ∧ ∀ x, (k x).Meets I Q

theorem Meets.follow {I : σ → Prop} {Q : σ → α → Prop} :
    ∀ (n : ℕ) (env : ℕ → (r : Req) → Reply r) {p : Proc Req Reply σ α},
      p.Meets I Q → (p.follow env n).Meets I Q
  | 0, _, p, h => by cases p <;> exact h
  | n + 1, env, p, h => by
    cases p with
    | done s a => exact h
    | failed s => exact h
    | spent s => exact h
    | await s r k => exact Meets.follow n _ (h.2 (env 0 r))

theorem Meets.mono {I I' : σ → Prop} {Q Q' : σ → α → Prop} (hI : ∀ s, I s → I' s)
    (hQ : ∀ s a, Q s a → Q' s a) :
    ∀ {p : Proc Req Reply σ α}, p.Meets I Q → p.Meets I' Q'
  | .done s a, h => hQ s a h
  | .failed s, h => hI s h
  | .spent s, h => hI s h
  | .await s _ _, h => ⟨hI s h.1, fun x => Meets.mono hI hQ (h.2 x)⟩

theorem Meets.bind {I : σ → Prop} {Q : σ → α → Prop} {Q' : σ → β → Prop}
    {f : σ → α → Proc Req Reply σ β} (hf : ∀ s a, Q s a → (f s a).Meets I Q') :
    ∀ {p : Proc Req Reply σ α}, p.Meets I Q → (p.bind f).Meets I Q'
  | .done s a, h => hf s a h
  | .failed _, h => h
  | .spent _, h => h
  | .await _ _ _, h => ⟨h.1, fun x => Meets.bind hf (h.2 x)⟩

theorem Meets.and {I J : σ → Prop} {Q R : σ → α → Prop} :
    ∀ {p : Proc Req Reply σ α}, p.Meets I Q → p.Meets J R →
      p.Meets (fun s => I s ∧ J s) fun s a => Q s a ∧ R s a
  | .done _ _, h, h' => ⟨h, h'⟩
  | .failed _, h, h' => ⟨h, h'⟩
  | .spent _, h, h' => ⟨h, h'⟩
  | .await _ _ _, h, h' => ⟨⟨h.1, h'.1⟩, fun x => Meets.and (h.2 x) (h'.2 x)⟩

/-- `I` and `Q` together hold at whatever node a computation is at. -/
theorem Meets.state {I : σ → Prop} {Q : σ → α → Prop} {p : Proc Req Reply σ α}
    (h : p.Meets I Q) (hQ : ∀ s a, Q s a → I s) : I p.state := by
  cases p with
  | done s a => exact hQ s a h
  | failed s => exact h
  | spent s => exact h
  | await s r k => exact h.1

section Tells
variable {I I' : List (Exchange Req Reply) → σ → Prop}
  {Q Q' : List (Exchange Req Reply) → σ → α → Prop} {h : List (Exchange Req Reply)}

/-- The exchanges of a run up to its `n`-th reply. -/
def exchanges : (ℕ → (r : Req) → Reply r) → ℕ → Proc Req Reply σ α → List (Exchange Req Reply)
  | env, n + 1, .await _ r k => ⟨r, env 0 r⟩ :: exchanges (fun i => env (i + 1)) n (k (env 0 r))
  | _, _, _ => []

/-- `I` at every node that is not finished, `Q` where the computation finishes, of the state and of
the exchanges that led there. -/
def Tells (I : List (Exchange Req Reply) → σ → Prop)
    (Q : List (Exchange Req Reply) → σ → α → Prop) :
    List (Exchange Req Reply) → Proc Req Reply σ α → Prop
  | h, .done s a => Q h s a
  | h, .failed s => I h s
  | h, .spent s => I h s
  | h, .await s r k => I h s ∧ ∀ x, (k x).Tells I Q (h ++ [⟨r, x⟩])

theorem Tells.follow : ∀ (n : ℕ) (env : ℕ → (r : Req) → Reply r) {p : Proc Req Reply σ α}
    {h : List (Exchange Req Reply)}, p.Tells I Q h →
    (p.follow env n).Tells I Q (h ++ p.exchanges env n)
  | 0, _, p, h, hp => by
    rw [show p.exchanges _ 0 = [] by cases p <;> rfl, List.append_nil]
    cases p <;> exact hp
  | n + 1, env, p, h, hp => by
    cases p with
    | done s a => simpa [exchanges, Proc.follow] using hp
    | failed s => simpa [exchanges, Proc.follow] using hp
    | spent s => simpa [exchanges, Proc.follow] using hp
    | await s r k =>
      have hk := Tells.follow n (fun i => env (i + 1)) (hp.2 (env 0 r))
      rw [List.append_assoc, List.singleton_append] at hk
      exact hk

theorem Tells.mono (hI : ∀ h s, I h s → I' h s) (hQ : ∀ h s a, Q h s a → Q' h s a) :
    ∀ {p : Proc Req Reply σ α} {h : List (Exchange Req Reply)}, p.Tells I Q h → p.Tells I' Q' h
  | .done s a, h, hp => hQ h s a hp
  | .failed s, h, hp => hI h s hp
  | .spent s, h, hp => hI h s hp
  | .await s _ _, h, hp => ⟨hI h s hp.1, fun x => Tells.mono hI hQ (hp.2 x)⟩

theorem Tells.bind {R : List (Exchange Req Reply) → σ → β → Prop}
    {f : σ → α → Proc Req Reply σ β} (hf : ∀ h s a, Q h s a → (f s a).Tells I R h) :
    ∀ {p : Proc Req Reply σ α} {h : List (Exchange Req Reply)}, p.Tells I Q h →
      (p.bind f).Tells I R h
  | .done s a, h, hp => hf h s a hp
  | .failed _, _, hp => hp
  | .spent _, _, hp => hp
  | .await _ _ _, _, hp => ⟨hp.1, fun x => Tells.bind hf (hp.2 x)⟩

/-- `I` and `Q` together hold at whatever node a computation is at. -/
theorem Tells.state {p : Proc Req Reply σ α} (hp : p.Tells I Q h)
    (hQ : ∀ h s a, Q h s a → I h s) : I h p.state := by
  cases p with
  | done s a => exact hQ h s a hp
  | failed s => exact hp
  | spent s => exact hp
  | await s r k => exact hp.1

/-- What is known without the exchanges, beside that they only grow. -/
theorem Meets.tells {J : σ → Prop} {R : σ → α → Prop} :
    ∀ {p : Proc Req Reply σ α} (h : List (Exchange Req Reply)), p.Meets J R →
      p.Tells (fun h' s => h <+: h' ∧ J s) (fun h' s a => h <+: h' ∧ R s a) h
  | .done _ _, h, hp => ⟨List.prefix_refl h, hp⟩
  | .failed _, h, hp => ⟨List.prefix_refl h, hp⟩
  | .spent _, h, hp => ⟨List.prefix_refl h, hp⟩
  | .await s r k, h, hp => by
    refine ⟨⟨List.prefix_refl h, hp.1⟩, fun x => ?_⟩
    have hgrow : h <+: h ++ [⟨r, x⟩] := List.prefix_append h _
    refine Tells.mono (fun h' s' hs => ?_) (fun h' s' a hs => ?_) (Meets.tells (h ++ [⟨r, x⟩]) (hp.2 x))
    · exact ⟨hgrow.trans hs.1, hs.2⟩
    · exact ⟨hgrow.trans hs.1, hs.2⟩

/-- A property that does not look at the exchanges. -/
theorem tells_iff_meets {J : σ → Prop} {R : σ → α → Prop} :
    ∀ {p : Proc Req Reply σ α} {h : List (Exchange Req Reply)},
      p.Tells (fun _ => J) (fun _ => R) h ↔ p.Meets J R
  | .done _ _, _ => Iff.rfl
  | .failed _, _ => Iff.rfl
  | .spent _, _ => Iff.rfl
  | .await _ _ _, _ => and_congr Iff.rfl (forall_congr' fun _ => tells_iff_meets)

end Tells

/-- Total correctness: no reply can be in `T`, a reply that is not `ok` fails the computation, and
without one it finishes in `Q`. -/
def Ends (T ok : (r : Req) → Reply r → Prop) (Q : σ → α → Prop) : Proc Req Reply σ α → Prop
  | .done s a => Q s a
  | .failed _ => False
  | .spent _ => False
  | .await _ r k => ∀ x, ¬ T r x ∧ (ok r x → (k x).Ends T ok Q) ∧
    (¬ ok r x → ∃ s, k x = .failed s)

/-- Without a reply in `T` the computation finishes in `P` if it finishes; from the first such reply
on it ends, in the `Q` of that reply. -/
def Watch (T ok : (r : Req) → Reply r → Prop) (P : σ → α → Prop)
    (Q : (r : Req) → Reply r → σ → α → Prop) : Proc Req Reply σ α → Prop
  | .done s a => P s a
  | .failed _ => True
  | .spent _ => True
  | .await _ r k => ∀ x, (T r x → (k x).Ends T ok (Q r x)) ∧ (¬ T r x → (k x).Watch T ok P Q)

section Watch
variable {T ok : (r : Req) → Reply r → Prop} {P Q : σ → α → Prop} {P' Q' : σ → β → Prop}
  {f : σ → α → Proc Req Reply σ β} {W : (r : Req) → Reply r → σ → α → Prop}
  {W' : (r : Req) → Reply r → σ → β → Prop}

theorem Ends.bind (hf : ∀ s a, Q s a → (f s a).Ends T ok Q') :
    ∀ {p : Proc Req Reply σ α}, p.Ends T ok Q → (p.bind f).Ends T ok Q'
  | .done s a, h => hf s a h
  | .failed _, h => h
  | .spent _, h => h
  | .await s r k, h => by
    intro x
    obtain ⟨hT, hok, hno⟩ := h x
    refine ⟨hT, fun hx => Ends.bind hf (hok hx), fun hx => ?_⟩
    obtain ⟨t, ht⟩ := hno hx
    refine ⟨t, ?_⟩
    show (k x).bind f = .failed t
    rw [ht]
    rfl

theorem Ends.mono {R : σ → α → Prop} (hQ : ∀ s a, Q s a → R s a) :
    ∀ {p : Proc Req Reply σ α}, p.Ends T ok Q → p.Ends T ok R
  | .done s a, h => hQ s a h
  | .failed _, h => h
  | .spent _, h => h
  | .await _ _ _, h => fun x => ⟨(h x).1, fun hx => Ends.mono hQ ((h x).2.1 hx), (h x).2.2⟩

theorem Watch.bind (hP : ∀ s a, P s a → (f s a).Watch T ok P' W')
    (hW : ∀ r x s a, W r x s a → (f s a).Ends T ok (W' r x)) :
    ∀ {p : Proc Req Reply σ α}, p.Watch T ok P W → (p.bind f).Watch T ok P' W'
  | .done s a, h => hP s a h
  | .failed _, _ => trivial
  | .spent _, _ => trivial
  | .await _ _ _, h => fun x =>
    ⟨fun hx => ((h x).1 hx).bind (hW _ x), fun hx => Watch.bind hP hW ((h x).2 hx)⟩

theorem Watch.mono {P₂ : σ → α → Prop} {W₂ : (r : Req) → Reply r → σ → α → Prop}
    (hP : ∀ s a, P s a → P₂ s a) (hW : ∀ r x s a, W r x s a → W₂ r x s a) :
    ∀ {p : Proc Req Reply σ α}, p.Watch T ok P W → p.Watch T ok P₂ W₂
  | .done s a, h => hP s a h
  | .failed _, _ => trivial
  | .spent _, _ => trivial
  | .await _ _ _, h => fun x =>
    ⟨fun hx => ((h x).1 hx).mono (hW _ x), fun hx => Watch.mono hP hW ((h x).2 hx)⟩

/-- A run whose requests are all granted reaches the end. -/
theorem Ends.follow : ∀ {p : Proc Req Reply σ α} (env : ℕ → (r : Req) → Reply r),
    p.Ends T ok Q → (∀ j s r k, p.follow env j = .await s r k → ok r (env j r)) →
    ∃ m s a, p.follow env m = .done s a ∧ Q s a
  | .done s a, _, h, _ => ⟨0, s, a, rfl, h⟩
  | .failed _, _, h, _ => h.elim
  | .spent _, _, h, _ => h.elim
  | .await s r k, env, h, hok => by
    have h0 : ok r (env 0 r) := hok 0 s r k rfl
    obtain ⟨m, t, a, hm, hq⟩ := Ends.follow (fun i => env (i + 1)) ((h (env 0 r)).2.1 h0)
      fun j t q l hj => hok (j + 1) t q l hj
    exact ⟨m + 1, t, a, hm, hq⟩

/-- A run that has reached the end is in `Q`. -/
theorem Ends.done : ∀ (n : ℕ) {p : Proc Req Reply σ α} (env : ℕ → (r : Req) → Reply r),
    p.Ends T ok Q → ∀ {s a}, p.follow env n = .done s a → Q s a
  | n, .done s' a', env, h, s, a, hn => by
    obtain ⟨rfl, rfl⟩ : s' = s ∧ a' = a := by cases n <;> simpa [Proc.follow] using hn
    exact h
  | _, .failed _, _, h, _, _, _ => h.elim
  | _, .spent _, _, h, _, _, _ => h.elim
  | 0, .await s' r k, env, h, s, a, hn => by simp [Proc.follow] at hn
  | n + 1, .await s' r k, env, h, s, a, hn => by
    obtain ⟨-, hok, hno⟩ := h (env 0 r)
    by_cases hx : ok r (env 0 r)
    · exact Ends.done n (fun i => env (i + 1)) (hok hx) hn
    · obtain ⟨t, ht⟩ := hno hx
      cases n <;> simp [Proc.follow, ht] at hn

/-- A computation that ends makes no request that a reply in `T` could answer. -/
theorem Ends.no_request : ∀ (j : ℕ) {p : Proc Req Reply σ α} (env : ℕ → (r : Req) → Reply r),
    p.Ends T ok Q → ∀ {s r k}, p.follow env j = .await s r k → ∀ x, ¬ T r x
  | 0, p, env, h, s, r, k, hj => by
    cases p with
    | await s' r' k' =>
      obtain ⟨rfl, rfl, -⟩ : s' = s ∧ r' = r ∧ HEq k' k := by simpa [Proc.follow] using hj
      exact fun x => (h x).1
    | done s' a => simp [Proc.follow] at hj
    | failed s' => simp [Proc.follow] at hj
    | spent s' => simp [Proc.follow] at hj
  | j + 1, p, env, h, s, r, k, hj => by
    cases p with
    | await s' r' k' =>
      obtain ⟨-, hok, hno⟩ := h (env 0 r')
      by_cases hx : ok r' (env 0 r')
      · exact Ends.no_request j (fun i => env (i + 1)) (hok hx) hj
      · obtain ⟨t, ht⟩ := hno hx
        simp [Proc.follow, ht] at hj
    | done s' a => simp [Proc.follow] at hj
    | failed s' => simp [Proc.follow] at hj
    | spent s' => simp [Proc.follow] at hj

/-- Where every request can be granted, a computation that ends has an end. -/
theorem Ends.exists_end (hok : ∀ r, ∃ x, ok r x) :
    ∀ {p : Proc Req Reply σ α}, p.Ends T ok Q → ∃ s a, Q s a
  | .done s a, h => ⟨s, a, h⟩
  | .failed _, h => h.elim
  | .spent _, h => h.elim
  | .await _ r _, h => by
    obtain ⟨x, hx⟩ := hok r
    exact Ends.exists_end hok ((h x).2.1 hx)

/-- From a reply in `T` on, the run ends. -/
theorem Watch.ends : ∀ (i : ℕ) {p : Proc Req Reply σ α} (env : ℕ → (r : Req) → Reply r),
    p.Watch T ok P W → ∀ {s r k}, p.follow env i = .await s r k → T r (env i r) →
    (k (env i r)).Ends T ok (W r (env i r))
  | 0, p, env, h, s, r, k, hi, hT => by
    cases p with
    | await s' r' k' =>
      obtain ⟨rfl, rfl, hk⟩ : s' = s ∧ r' = r ∧ HEq k' k := by simpa [Proc.follow] using hi
      obtain rfl := eq_of_heq hk
      exact (h _).1 hT
    | done s' a => simp [Proc.follow] at hi
    | failed s' => simp [Proc.follow] at hi
    | spent s' => simp [Proc.follow] at hi
  | i + 1, p, env, h, s, r, k, hi, hT => by
    cases p with
    | await s' r' k' =>
      by_cases hx : T r' (env 0 r')
      · exact absurd hT (Ends.no_request i (fun j => env (j + 1)) ((h _).1 hx) hi _)
      · exact Watch.ends i (fun j => env (j + 1)) ((h _).2 hx) hi hT
    | done s' a => simp [Proc.follow] at hi
    | failed s' => simp [Proc.follow] at hi
    | spent s' => simp [Proc.follow] at hi

/-- A run that makes a request which a reply in `T` could answer has had no such reply before. -/
theorem Watch.undecided : ∀ (i : ℕ) {p : Proc Req Reply σ α} (env : ℕ → (r : Req) → Reply r),
    p.Watch T ok P W → ∀ {s r k}, p.follow env i = .await s r k → ∀ x, T r x →
    (k x).Ends T ok (W r x) ∧
      ∀ j < i, ∀ s' r' k', p.follow env j = .await s' r' k' → ¬ T r' (env j r')
  | 0, p, env, h, s, r, k, hi, x, hT => by
    cases p with
    | await s' r' k' =>
      obtain ⟨rfl, rfl, hk⟩ : s' = s ∧ r' = r ∧ HEq k' k := by simpa [Proc.follow] using hi
      obtain rfl := eq_of_heq hk
      exact ⟨(h x).1 hT, fun j hj => absurd hj (Nat.not_lt_zero j)⟩
    | done s' a => simp [Proc.follow] at hi
    | failed s' => simp [Proc.follow] at hi
    | spent s' => simp [Proc.follow] at hi
  | i + 1, p, env, h, s, r, k, hi, x, hT => by
    cases p with
    | await s' r' k' =>
      by_cases hx : T r' (env 0 r')
      · exact absurd hT (Ends.no_request i (fun j => env (j + 1)) ((h _).1 hx) hi x)
      · obtain ⟨hends, hbefore⟩ := Watch.undecided i (fun j => env (j + 1)) ((h _).2 hx) hi x hT
        refine ⟨hends, fun j hj t q l hl => ?_⟩
        cases j with
        | zero =>
          obtain ⟨rfl, rfl, -⟩ : s' = t ∧ r' = q ∧ HEq k' l := by simpa [Proc.follow] using hl
          exact hx
        | succ j => exact hbefore j (Nat.lt_of_succ_lt_succ hj) t q l hl
    | done s' a => simp [Proc.follow] at hi
    | failed s' => simp [Proc.follow] at hi
    | spent s' => simp [Proc.follow] at hi

/-- A run that finishes outside `P` has had a reply in `T`. -/
theorem Watch.replied : ∀ (n : ℕ) {p : Proc Req Reply σ α} (env : ℕ → (r : Req) → Reply r),
    p.Watch T ok P W → ∀ {s a}, p.follow env n = .done s a → ¬ P s a →
    ∃ i < n, ∃ t r k, p.follow env i = .await t r k ∧ T r (env i r)
  | 0, p, env, h, s, a, hn, hP => by
    cases p with
    | done s' a' =>
      obtain ⟨rfl, rfl⟩ : s' = s ∧ a' = a := by simpa [Proc.follow] using hn
      exact absurd h hP
    | await s' r' k' => simp [Proc.follow] at hn
    | failed s' => simp [Proc.follow] at hn
    | spent s' => simp [Proc.follow] at hn
  | n + 1, p, env, h, s, a, hn, hP => by
    cases p with
    | done s' a' =>
      obtain ⟨rfl, rfl⟩ : s' = s ∧ a' = a := by simpa [Proc.follow] using hn
      exact absurd h hP
    | await s' r' k' =>
      by_cases hx : T r' (env 0 r')
      · exact ⟨0, Nat.succ_pos n, s', r', k', rfl, hx⟩
      · obtain ⟨i, hi, t, r, k, hk, hT⟩ :=
          Watch.replied n (fun j => env (j + 1)) ((h _).2 hx) hn hP
        exact ⟨i + 1, Nat.succ_lt_succ hi, t, r, k, hk, hT⟩
    | failed s' => simp [Proc.follow] at hn
    | spent s' => simp [Proc.follow] at hn

end Watch

/-- A run goes on from the node it has reached. -/
theorem follow_add (j : ℕ) : ∀ (i : ℕ) (env : ℕ → (r : Req) → Reply r)
    (p : Proc Req Reply σ α),
    p.follow env (i + j) = (p.follow env i).follow (fun n => env (i + n)) j
  | 0, env, p => by
    have he : (fun n => env (0 + n)) = env := by
      funext n
      rw [Nat.zero_add]
    have hp : p.follow env 0 = p := by cases p <;> rfl
    rw [he, hp, Nat.zero_add]
  | i + 1, env, p => by
    cases p with
    | await s r k =>
      have he : (fun n => env (i + 1 + n)) = fun n => env (i + n + 1) := by
        funext n
        rw [Nat.add_right_comm]
      rw [he, Nat.add_right_comm]
      exact follow_add j i (fun n => env (n + 1)) (k (env 0 r))
    | done s a => cases j <;> rfl
    | failed s => cases j <;> rfl
    | spent s => cases j <;> rfl

/-- A run goes on from the reply to the request it stopped at. -/
lemma follow_reply {env : ℕ → (r : Req) → Reply r} {p : Proc Req Reply σ α} {i : ℕ} {s : σ}
    {r : Req} {k : Reply r → Proc Req Reply σ α} (h : p.follow env i = .await s r k) (j : ℕ) :
    p.follow env (i + 1 + j) = (k (env i r)).follow (fun n => env (i + 1 + n)) j := by
  have he : (fun n => env (i + 1 + n)) = fun n => env (i + (n + 1)) := by
    funext n
    rw [Nat.add_assoc, Nat.add_comm 1 n]
  rw [Nat.add_assoc, follow_add, h, Nat.add_comm 1 j, he]
  rfl

theorem bind_assoc {γ : Type} {f : σ → α → Proc Req Reply σ β} {g : σ → β → Proc Req Reply σ γ} :
    ∀ p : Proc Req Reply σ α, (p.bind f).bind g = p.bind fun s a => (f s a).bind g
  | .done _ _ => rfl
  | .failed _ => rfl
  | .spent _ => rfl
  | .await s r k => by
    show Proc.await s r (fun x => ((k x).bind f).bind g) = _
    simp only [bind_assoc]
    rfl

/-- A run of a sequence is still in its first part, or that has ended and the run goes on with the
second. -/
theorem follow_bind {f : σ → α → Proc Req Reply σ β} : ∀ (n : ℕ) (env : ℕ → (r : Req) → Reply r)
    (p : Proc Req Reply σ α),
    ((p.bind f).follow env n = (p.follow env n).bind f ∧
      (p.bind f).exchanges env n = p.exchanges env n ∧ ∀ s a, p.follow env n ≠ .done s a) ∨
    ∃ m ≤ n, ∃ s a, p.follow env m = .done s a ∧
      (p.bind f).follow env n = (f s a).follow (fun i => env (m + i)) (n - m) ∧
      (p.bind f).exchanges env n =
        p.exchanges env m ++ (f s a).exchanges (fun i => env (m + i)) (n - m)
  | n, env, .done s a => by
    refine .inr ⟨0, Nat.zero_le n, s, a, rfl, ?_, ?_⟩
    · simp only [Nat.zero_add, Nat.sub_zero]
      rfl
    · simp only [Nat.zero_add, Nat.sub_zero]
      rfl
  | n, _, .failed s => .inl (by cases n <;> exact ⟨rfl, rfl, by simp [follow]⟩)
  | n, _, .spent s => .inl (by cases n <;> exact ⟨rfl, rfl, by simp [follow]⟩)
  | 0, _, .await s r k => .inl ⟨rfl, rfl, by simp [follow]⟩
  | n + 1, env, .await s r k => by
    rcases follow_bind n (fun i => env (i + 1)) (k (env 0 r)) with ⟨hf, he, hd⟩ |
      ⟨m, hm, t, a, hd, hf, he⟩
    · refine .inl ⟨hf, ?_, hd⟩
      exact congrArg (List.cons _) he
    · refine .inr ⟨m + 1, Nat.succ_le_succ hm, t, a, hd, ?_, ?_⟩
      · simp only [Nat.add_right_comm m 1, Nat.add_sub_add_right]
        exact hf
      · simp only [Nat.add_right_comm m 1, Nat.add_sub_add_right]
        exact congrArg (List.cons _) he

lemma bind_state {f : σ → α → Proc Req Reply σ β} {p : Proc Req Reply σ α}
    (h : ∀ s a, p ≠ .done s a) : (p.bind f).state = p.state := by
  cases p with
  | done s a => exact absurd rfl (h s a)
  | failed s => rfl
  | spent s => rfl
  | await s r k => rfl

end Proc

namespace Code

instance : Monad (Code Req Reply σ) where
  pure a := fun s => .done s a
  bind c f := fun s => (c s).bind fun s' a => f a s'

/-- The current state. -/
def read : Code Req Reply σ σ := fun s => .done s s

def modify (f : σ → σ) : Code Req Reply σ Unit := fun s => .done (f s) ()

def fail : Code Req Reply σ α := fun s => .failed s

/-- `while cond: body` with at most `n` rounds; a body that returns `true` breaks. -/
def loop (cond : σ → Bool) (body : Code Req Reply σ Bool) : ℕ → Code Req Reply σ Unit
  | 0 => fun s => if cond s then .spent s else .done s ()
  | n + 1 => fun s =>
    if cond s then
      (body s).bind fun s' brk => if brk then .done s' () else loop cond body n s'
    else .done s ()

/-- `while cond: body` with at most `n` rounds, for a body that never breaks. -/
def repeatWhile (cond : σ → Bool) (body : Code Req Reply σ Unit) (n : ℕ) :
    Code Req Reply σ Unit :=
  loop cond (body >>= fun _ => pure false) n

@[simp] theorem pure_apply (a : α) (s : σ) :
    (pure a : Code Req Reply σ α) s = .done s a := rfl

@[simp] theorem bind_apply (c : Code Req Reply σ α) (f : α → Code Req Reply σ β) (s : σ) :
    (c >>= f) s = (c s).bind fun s' a => f a s' := rfl

@[simp] theorem read_apply (s : σ) : (read : Code Req Reply σ σ) s = .done s s := rfl

@[simp] theorem modify_apply (f : σ → σ) (s : σ) :
    (modify f : Code Req Reply σ Unit) s = .done (f s) () := rfl

@[simp] theorem fail_apply (s : σ) : (fail : Code Req Reply σ α) s = .failed s := rfl

lemma modify_then {I : σ → Prop} {Q : σ → β → Prop} {g : σ → σ} {f : Unit → Code Req Reply σ β}
    {s : σ} (h : (f () (g s)).Meets I Q) : ((modify g >>= f) s).Meets I Q := h

lemma modify_then_tells {I : List (Exchange Req Reply) → σ → Prop}
    {Q : List (Exchange Req Reply) → σ → β → Prop} {g : σ → σ} {f : Unit → Code Req Reply σ β}
    {s : σ} {h : List (Exchange Req Reply)} (hs : (f () (g s)).Tells I Q h) :
    ((modify g >>= f) s).Tells I Q h := hs

lemma modify_then_watch {T ok : (r : Req) → Reply r → Prop} {P : σ → β → Prop}
    {W : (r : Req) → Reply r → σ → β → Prop} {g : σ → σ} {f : Unit → Code Req Reply σ β} {s : σ}
    (h : (f () (g s)).Watch T ok P W) : ((modify g >>= f) s).Watch T ok P W := h

/-- A loop keeps `P` if its body does, leaving by `B` where the body breaks. -/
theorem loop_meets {I P B : σ → Prop} {cond : σ → Bool} {body : Code Req Reply σ Bool}
    (hI : ∀ s, P s → cond s = true → I s)
    (hb : ∀ s, P s → cond s = true →
      (body s).Meets I fun s' brk => if brk = true then B s' else P s') :
    ∀ (n : ℕ) (s : σ), P s →
      (loop cond body n s).Meets I fun s' _ => (P s' ∧ cond s' = false) ∨ B s'
  | 0, s, h => by
    unfold loop
    split_ifs with hc
    · exact hI s h hc
    · exact .inl ⟨h, by simpa using hc⟩
  | n + 1, s, h => by
    unfold loop
    split_ifs with hc
    · refine (hb s h hc).bind fun s' brk hs => ?_
      split_ifs with hbrk
      · exact .inr (by simpa [hbrk] using hs)
      · exact loop_meets hI hb n s' (by simpa [hbrk] using hs)
    · exact .inl ⟨h, by simpa using hc⟩

/-- A loop that never breaks keeps what its body keeps. -/
theorem repeatWhile_meets {I P : σ → Prop} {cond : σ → Bool} {body : Code Req Reply σ Unit}
    (hI : ∀ s, P s → cond s = true → I s)
    (hb : ∀ s, P s → cond s = true → (body s).Meets I fun s' _ => P s') (n : ℕ) (s : σ)
    (h : P s) : (repeatWhile cond body n s).Meets I fun s' _ => P s' ∧ cond s' = false := by
  refine (loop_meets (B := fun _ => False) hI (fun s hs hc => ?_) n s h).mono
    (fun _ h => h) fun s' _ hs => hs.resolve_right id
  refine Proc.Meets.bind (fun s' _ hs' => ?_) (hb s hs hc)
  simpa [Proc.Meets] using hs'

/-- A loop, of the exchanges and the state: it keeps `P` if its body does, leaving by `B` where the
body breaks. -/
theorem loop_tells {I P B : List (Exchange Req Reply) → σ → Prop} {cond : σ → Bool}
    {body : Code Req Reply σ Bool} (hI : ∀ h s, P h s → cond s = true → I h s)
    (hb : ∀ h s, P h s → cond s = true →
      (body s).Tells I (fun h' s' brk => if brk = true then B h' s' else P h' s') h) :
    ∀ (n : ℕ) (h : List (Exchange Req Reply)) (s : σ), P h s →
      (loop cond body n s).Tells I (fun h' s' _ => (P h' s' ∧ cond s' = false) ∨ B h' s') h
  | 0, h, s, hs => by
    unfold loop
    split_ifs with hc
    · exact hI h s hs hc
    · exact .inl ⟨hs, by simpa using hc⟩
  | n + 1, h, s, hs => by
    unfold loop
    split_ifs with hc
    · refine (hb h s hs hc).bind fun h' s' brk hs' => ?_
      split_ifs with hbrk
      · exact .inr (by simpa [hbrk] using hs')
      · exact loop_tells hI hb n h' s' (by simpa [hbrk] using hs')
    · exact .inl ⟨hs, by simpa using hc⟩

theorem repeatWhile_tells {I P : List (Exchange Req Reply) → σ → Prop} {cond : σ → Bool}
    {body : Code Req Reply σ Unit} (hI : ∀ h s, P h s → cond s = true → I h s)
    (hb : ∀ h s, P h s → cond s = true → (body s).Tells I (fun h' s' _ => P h' s') h) (n : ℕ)
    (h : List (Exchange Req Reply)) (s : σ) (hs : P h s) :
    (repeatWhile cond body n s).Tells I (fun h' s' _ => P h' s' ∧ cond s' = false) h := by
  refine (loop_tells (B := fun _ _ => False) hI (fun h s hs hc => ?_) n h s hs).mono
    (fun _ _ h => h) fun h' s' _ hs => hs.resolve_right id
  refine Proc.Tells.bind (fun h' s' _ hs' => ?_) (hb h s hs hc)
  simpa [Proc.Tells] using hs'

/-- A loop that stops once `W` holds, for a body that keeps `P` until it reaches `W`. -/
theorem loop_watch {T ok : (r : Req) → Reply r → Prop} {P : σ → Prop}
    {W : (r : Req) → Reply r → σ → Prop} {cond : σ → Bool} {body : Code Req Reply σ Bool}
    (hW : ∀ r x s, W r x s → cond s = false)
    (hb : ∀ s, P s → cond s = true →
      (body s).Watch T ok (fun s' _ => P s') fun r x s' _ => W r x s') :
    ∀ (n : ℕ) (s : σ), P s →
      (loop cond body n s).Watch T ok (fun s' _ => P s') fun r x s' _ => W r x s'
  | 0, s, h => by
    unfold loop
    split_ifs with hc
    · trivial
    · exact h
  | n + 1, s, h => by
    unfold loop
    split_ifs with hc
    · refine (hb s h hc).bind (fun s' brk hs => ?_) fun r x s' brk hs => ?_
      · split_ifs
        · exact hs
        · exact loop_watch hW hb n s' hs
      · have hstop : loop cond body n s' = .done s' () := by
          cases n <;> simp [loop, hW r x s' hs]
        split_ifs
        · exact hs
        · rw [hstop]
          exact hs
    · exact h

end Code

/-- Every node the code reaches from `s` is `R`-after `s`; where it finishes, `T`-after. -/
def Leads (R T : σ → σ → Prop) (c : Code Req Reply σ α) : Prop :=
  ∀ s, (c s).Meets (R s) fun s' _ => T s s'

/-- Code whose every node and every final state is `R`-after its start. -/
def Within (R : σ → σ → Prop) (c : Code Req Reply σ α) : Prop := Leads R R c

section Leads
variable {R T : σ → σ → Prop} {c : Code Req Reply σ α} {f : α → Code Req Reply σ β}

lemma Leads.mono {T' : σ → σ → Prop} (hT : ∀ s s', T s s' → T' s s') (h : Leads R T c) :
    Leads R T' c :=
  fun s => (h s).mono (fun _ h => h) fun s' _ h => hT s s' h

lemma Leads.modify {g : σ → σ} (h : ∀ s, T s (g s)) :
    Leads R T (Code.modify g : Code Req Reply σ Unit) := fun s => h s

lemma Leads.fail [Std.Refl R] : Leads R T (Code.fail : Code Req Reply σ α) :=
  fun s => refl_of R s

variable [IsTrans σ R]

/-- What a sequence leads to, if its first part stays within `R` and `R` before `T` is `T`. -/
theorem Leads.bind (hT : ∀ {s s' s''}, R s s' → T s' s'' → T s s'') (hc : Within R c)
    (hf : ∀ a, Leads R T (f a)) : Leads R T (c >>= f) := by
  intro s
  refine Proc.Meets.bind (fun s' a h => ?_) (hc s)
  exact (hf a s').mono (fun t ht => trans_of R h ht) fun t _ ht => hT h ht

lemma Within.bind (hc : Within R c) (hf : ∀ a, Within R (f a)) : Within R (c >>= f) :=
  Leads.bind (trans_of R) hc hf

variable [Std.Refl R]

omit [IsTrans σ R] in
lemma Within.pure (a : α) : Within R (pure a : Code Req Reply σ α) := fun s => refl_of R s

omit [IsTrans σ R] in
lemma Within.read : Within R (Code.read : Code Req Reply σ σ) := fun s => refl_of R s

end Leads

end Resume
