import RecoveryOS.Lib.Resume

/-!
# Clients of a shared object

Any number of computations take turns at one shared object: whenever a client is stopped at a
request, the object may answer it and change by that. A client may be started at any time, and may
never be given a turn again.

A client keeps a contract if each of its requests is one that its exchanges so far entitle it to,
provided that the replies are as it relies on (`Proc.Keeps`). `Discipline` says of an object that it
answers such requests well: that it keeps its invariant, that a client may go on relying on what its
exchanges tell, and that the other clients may too. Then this is so in every run
(`Discipline.run`).
-/

namespace Resume

variable {Req : Type} {Reply : Req → Type} {σ α β W : Type}

/-- What a client may rely on in a reply, which requests its exchanges entitle it to, and the states
it may fail in. -/
structure Contract (Req : Type) (Reply : Req → Type) (σ : Type) where
  rely : (r : Req) → Reply r → Prop
  guarantee : List (Exchange Req Reply) → Req → Prop
  fails : σ → Prop

namespace Proc
variable {c : Contract Req Reply σ} {Q Q' : List (Exchange Req Reply) → α → Prop}

/-- Every request is one that the client is entitled to, as long as the replies are as it relies on;
it finishes in `Q`. -/
def Keeps (c : Contract Req Reply σ) (Q : List (Exchange Req Reply) → α → Prop) :
    List (Exchange Req Reply) → Proc Req Reply σ α → Prop
  | h, .done _ a => Q h a
  | _, .failed s => c.fails s
  | _, .spent _ => True
  | h, .await _ r k => c.guarantee h r ∧ ∀ x, c.rely r x → (k x).Keeps c Q (h ++ [⟨r, x⟩])

theorem Keeps.bind {R : List (Exchange Req Reply) → β → Prop} {f : σ → α → Proc Req Reply σ β}
    (hf : ∀ h s a, Q h a → (f s a).Keeps c R h) :
    ∀ {p : Proc Req Reply σ α} {h : List (Exchange Req Reply)}, p.Keeps c Q h →
      (p.bind f).Keeps c R h
  | .done s a, h, hp => hf h s a hp
  | .failed _, _, hp => hp
  | .spent _, _, _ => trivial
  | .await _ _ _, _, hp => ⟨hp.1, fun x hx => Keeps.bind hf (hp.2 x hx)⟩

theorem Keeps.mono (hQ : ∀ h a, Q h a → Q' h a) :
    ∀ {p : Proc Req Reply σ α} {h : List (Exchange Req Reply)}, p.Keeps c Q h → p.Keeps c Q' h
  | .done _ a, h, hp => hQ h a hp
  | .failed _, _, hp => hp
  | .spent _, _, _ => trivial
  | .await _ _ _, _, hp => ⟨hp.1, fun x hx => Keeps.mono hQ (hp.2 x hx)⟩

/-- Every request meets a condition, whatever the replies. -/
def Asks (P : Req → Prop) : Proc Req Reply σ α → Prop
  | .await _ r k => P r ∧ ∀ x, (k x).Asks P
  | _ => True

theorem Asks.bind {P : Req → Prop} {f : σ → α → Proc Req Reply σ β}
    (hf : ∀ s a, (f s a).Asks P) : ∀ {p : Proc Req Reply σ α}, p.Asks P → (p.bind f).Asks P
  | .done s a, _ => hf s a
  | .failed _, _ => trivial
  | .spent _, _ => trivial
  | .await _ _ _, hp => ⟨hp.1, fun x => Asks.bind hf (hp.2 x)⟩

theorem Asks.mono {P P' : Req → Prop} (hP : ∀ r, P r → P' r) :
    ∀ {p : Proc Req Reply σ α}, p.Asks P → p.Asks P'
  | .done _ _, _ => trivial
  | .failed _, _ => trivial
  | .spent _, _ => trivial
  | .await _ _ _, hp => ⟨hP _ hp.1, fun x => Asks.mono hP (hp.2 x)⟩

/-- A contract that does not depend on the exchanges. -/
theorem Asks.keeps {P : Req → Prop} (hP : ∀ h r, P r → c.guarantee h r) (hfails : ∀ s, c.fails s) :
    ∀ {p : Proc Req Reply σ α} {h : List (Exchange Req Reply)}, p.Asks P →
      p.Keeps c (fun _ _ => True) h
  | .done _ _, _, _ => trivial
  | .failed s, _, _ => hfails s
  | .spent _, _, _ => trivial
  | .await _ _ _, h, hp => ⟨hP h _ hp.1, fun x _ => Asks.keeps hP hfails (hp.2 x)⟩

/-- What a computation has come to when it was answered as in some exchanges. -/
inductive Follows (p₀ : Proc Req Reply σ α) :
    List (Exchange Req Reply) → Proc Req Reply σ α → Prop
  | start : Follows p₀ [] p₀
  | reply {h s r k} (x : Reply r) (hf : Follows p₀ h (.await s r k)) :
      Follows p₀ (h ++ [⟨r, x⟩]) (k x)

section
variable {p₀ p : Proc Req Reply σ α} {h : List (Exchange Req Reply)}

/-- What is left of a computation keeps the contract, if the replies were as it relies on. -/
theorem Follows.keeps (hf : Follows p₀ h p) (hk : p₀.Keeps c Q []) :
    (∀ e ∈ h, c.rely e.1 e.2) → p.Keeps c Q h := by
  induction hf with
  | start => exact fun _ => hk
  | reply x _ ih =>
    intro hr
    have hawait := ih fun e he => hr e (List.mem_append_left _ he)
    exact hawait.2 x (hr _ (List.mem_append_right _ List.mem_cons_self))

/-- A computation that is stopped at a request has had no reply yet, or one to it first. -/
lemma Follows.await {s : σ} {r : Req} {k : Reply r → Proc Req Reply σ α}
    (hf : Follows (.await s r k) h p) :
    (h = [] ∧ p = .await s r k) ∨ ∃ x h', h = ⟨r, x⟩ :: h' ∧ Follows (k x) h' p := by
  induction hf with
  | start => exact .inl ⟨rfl, rfl⟩
  | reply x _ ih =>
    rcases ih with ⟨rfl, he⟩ | ⟨x', h', rfl, hf'⟩
    · cases he
      exact .inr ⟨x, [], rfl, .start⟩
    · exact .inr ⟨x', _, rfl, .reply x hf'⟩

lemma Follows.failed {s : σ} (hf : Follows (.failed s) h p) : h = [] ∧ p = .failed s := by
  induction hf with
  | start => exact ⟨rfl, rfl⟩
  | reply x _ ih => cases ih.2

lemma Follows.done {s : σ} {a : α} (hf : Follows (.done s a) h p) : h = [] ∧ p = .done s a := by
  induction hf with
  | start => exact ⟨rfl, rfl⟩
  | reply x _ ih => cases ih.2

/-- As long as it is not done, its exchanges are as they should be. -/
def Pending (F : List (Exchange Req Reply) → Prop) :
    List (Exchange Req Reply) → Proc Req Reply σ α → Prop
  | _, .done _ _ => True
  | h, .await _ r k => F h ∧ ∀ x, (k x).Pending F (h ++ [⟨r, x⟩])
  | h, _ => F h

theorem Follows.pending {F : List (Exchange Req Reply) → Prop} (hf : Follows p₀ h p)
    (hk : p₀.Pending F []) : p.Pending F h := by
  induction hf with
  | start => exact hk
  | reply x _ ih => exact ih.2 x

/-- A computation that is pending has only had exchanges as they should be. -/
lemma Pending.now {F : List (Exchange Req Reply) → Prop} (hp : p.Pending F h)
    (hd : ∀ s a, p ≠ .done s a) : F h := by
  cases p with
  | done s a => exact absurd rfl (hd s a)
  | failed s => exact hp
  | spent s => exact hp
  | await s r k => exact hp.1

end

end Proc

/-- A request, with its reply as the result. -/
def Code.ask (r : Req) : Code Req Reply σ (Reply r) := fun s => .await s r fun x => .done s x

/-- A request and what follows its reply. -/
lemma Code.ask_keeps {c : Contract Req Reply σ} {Q : List (Exchange Req Reply) → α → Prop}
    {r : Req} {f : Reply r → Code Req Reply σ α} {s : σ} {h : List (Exchange Req Reply)}
    (hr : c.guarantee h r)
    (hf : ∀ x, c.rely r x → (f x s).Keeps c Q (h ++ [⟨r, x⟩])) :
    ((Code.ask r >>= f) s).Keeps c Q h := ⟨hr, hf⟩

/-- The shared object, and its clients with the exchanges they have had. -/
structure System (Req : Type) (Reply : Req → Type) (σ α W : Type) where
  shared : W
  clients : List (Proc Req Reply σ α × List (Exchange Req Reply))

section
variable (Answer : W → (r : Req) → Reply r → W → Prop) (Starts : Proc Req Reply σ α → Prop)

/-- A client is started, or one that is stopped at a request is answered. -/
inductive System.Step : System Req Reply σ α W → System Req Reply σ α W → Prop
  | start {w cs p} (hp : Starts p) : Step ⟨w, cs⟩ ⟨w, cs ++ [(p, [])]⟩
  | answer {w w' cs i s r k h x} (hi : cs[i]? = some (.await s r k, h)) (ha : Answer w r x w') :
      Step ⟨w, cs⟩ ⟨w', cs.set i (k x, h ++ [⟨r, x⟩])⟩

/-- The object keeps `Inv`, changes by `R` only, and keeps what the exchanges of each client tell
about it (`K`) and about those of another (`Apart`). -/
structure Discipline (c : Contract Req Reply σ) (Inv : W → Prop)
    (K : W → List (Exchange Req Reply) → Prop)
    (Apart : List (Exchange Req Reply) → List (Exchange Req Reply) → Prop)
    (R : W → W → Prop) : Prop where
  keeps : ∀ p, Starts p → p.Keeps c (fun _ _ => True) []
  told : ∀ w, Inv w → K w []
  apart : ∀ h, Apart [] h ∧ Apart h []
  own : ∀ {w w' h r x}, Inv w → K w h → c.guarantee h r → Answer w r x w' →
    c.rely r x ∧ Inv w' ∧ K w' (h ++ [⟨r, x⟩]) ∧ R w w'
  other : ∀ {w w' h h' r x}, Inv w → K w h → K w h' → Apart h h' → Apart h' h →
    c.guarantee h r → Answer w r x w' →
    K w' h' ∧ Apart (h ++ [⟨r, x⟩]) h' ∧ Apart h' (h ++ [⟨r, x⟩])

/-- What holds of a system in every run. -/
structure System.Sound (c : Contract Req Reply σ) (Inv : W → Prop)
    (K : W → List (Exchange Req Reply) → Prop)
    (Apart : List (Exchange Req Reply) → List (Exchange Req Reply) → Prop)
    (S : System Req Reply σ α W) : Prop where
  inv : Inv S.shared
  client : ∀ {i : ℕ} {p h}, S.clients[i]? = some (p, h) →
    K S.shared h ∧ Proc.Keeps c (fun _ _ => True) h p
  apart : ∀ {i j : ℕ} {p p' h h'}, i ≠ j → S.clients[i]? = some (p, h) → S.clients[j]? = some (p', h') →
    Apart h h'

variable {Answer Starts} {c : Contract Req Reply σ} {Inv : W → Prop}
  {K : W → List (Exchange Req Reply) → Prop}
  {Apart : List (Exchange Req Reply) → List (Exchange Req Reply) → Prop} {R : W → W → Prop}
  {S S' : System Req Reply σ α W}

/-- A client that is started has had no exchange yet. -/
lemma Discipline.start (hd : Discipline Answer Starts c Inv K Apart R) {w : W}
    {cs : List (Proc Req Reply σ α × List (Exchange Req Reply))} {p : Proc Req Reply σ α}
    (hS : System.Sound c Inv K Apart ⟨w, cs⟩) (hp : Starts p) :
    System.Sound c Inv K Apart ⟨w, cs ++ [(p, [])]⟩ := by
  have hnew : ∀ {i : ℕ} {q h}, (cs ++ [(p, [])])[i]? = some (q, h) →
      cs[i]? = some (q, h) ∨ i = cs.length ∧ q = p ∧ h = [] := by
    intro i q h hi
    rcases Nat.lt_trichotomy i cs.length with hlt | rfl | hgt
    · rw [List.getElem?_append_left hlt] at hi
      exact .inl hi
    · rw [List.getElem?_concat_length] at hi
      cases hi
      exact .inr ⟨rfl, rfl, rfl⟩
    · rw [List.getElem?_eq_none (by simp; omega)] at hi
      cases hi
  refine ⟨hS.inv, fun {i q h} hi => ?_, fun {i j q q' h h'} hne hi hj => ?_⟩
  · rcases hnew hi with hi | ⟨-, rfl, rfl⟩
    · exact hS.client hi
    · exact ⟨hd.told w hS.inv, hd.keeps q hp⟩
  · rcases hnew hi with hi | ⟨rfl, rfl, rfl⟩
    · rcases hnew hj with hj | ⟨rfl, rfl, rfl⟩
      · exact hS.apart hne hi hj
      · exact (hd.apart h).2
    · exact (hd.apart h').1

lemma Discipline.answer (hd : Discipline Answer Starts c Inv K Apart R) {w w' : W}
    {cs : List (Proc Req Reply σ α × List (Exchange Req Reply))} {i : ℕ} {s : σ} {r : Req}
    {k : Reply r → Proc Req Reply σ α} {h : List (Exchange Req Reply)} {x : Reply r}
    (hS : System.Sound c Inv K Apart ⟨w, cs⟩) (hi : cs[i]? = some (.await s r k, h))
    (ha : Answer w r x w') :
    System.Sound c Inv K Apart ⟨w', cs.set i (k x, h ++ [⟨r, x⟩])⟩ ∧ R w w' := by
  obtain ⟨hK, hkeeps⟩ := hS.client hi
  obtain ⟨hrely, hinv, hK', hR⟩ := hd.own hS.inv hK hkeeps.1 ha
  have hset : ∀ {j : ℕ} {q h'}, (cs.set i (k x, h ++ [⟨r, x⟩]))[j]? = some (q, h') →
      (j = i ∧ q = k x ∧ h' = h ++ [⟨r, x⟩]) ∨ (j ≠ i ∧ cs[j]? = some (q, h')) := by
    intro j q h' hj
    rw [List.getElem?_set] at hj
    split_ifs at hj with he hlt
    · cases hj
      exact .inl ⟨he.symm, rfl, rfl⟩
    · exact .inr ⟨fun hji => he hji.symm, hj⟩
  have hother : ∀ {j : ℕ} {q h'}, j ≠ i → cs[j]? = some (q, h') → K w' h' ∧
      Apart (h ++ [⟨r, x⟩]) h' ∧ Apart h' (h ++ [⟨r, x⟩]) := fun hne hj =>
    hd.other hS.inv hK (hS.client hj).1 (hS.apart (Ne.symm hne) hi hj) (hS.apart hne hj hi)
      hkeeps.1 ha
  refine ⟨⟨hinv, fun {j q h'} hj => ?_, fun {j j' q q' h₁ h₂} hne hj hj' => ?_⟩, hR⟩
  · rcases hset hj with ⟨rfl, rfl, rfl⟩ | ⟨hji, hj⟩
    · exact ⟨hK', hkeeps.2 x hrely⟩
    · exact ⟨(hother hji hj).1, (hS.client hj).2⟩
  · rcases hset hj with ⟨rfl, rfl, rfl⟩ | ⟨hji, hold⟩
    · rcases hset hj' with ⟨rfl, -, -⟩ | ⟨hji', hold'⟩
      · exact absurd rfl hne
      · exact (hother hji' hold').2.1
    · rcases hset hj' with ⟨rfl, rfl, rfl⟩ | ⟨hji', hold'⟩
      · exact (hother hji hold).2.2
      · exact hS.apart hne hold hold'

/-- In every run the system stays sound, and the object changes by `R` only. -/
theorem Discipline.run (hd : Discipline Answer Starts c Inv K Apart R)
    (hS : S.Sound c Inv K Apart)
    (hrun : Relation.ReflTransGen (System.Step Answer Starts) S S') :
    S'.Sound c Inv K Apart ∧ Relation.ReflTransGen R S.shared S'.shared := by
  induction hrun with
  | refl => exact ⟨hS, .refl⟩
  | tail _ hstep ih =>
    obtain ⟨hS₁, hR₁⟩ := ih
    cases hstep with
    | start hp => exact ⟨hd.start hS₁ hp, hR₁⟩
    | answer hi ha =>
      obtain ⟨hS₂, hR₂⟩ := hd.answer hS₁ hi ha
      exact ⟨hS₂, hR₁.tail hR₂⟩

/-- What holds of a client before its first exchange and is kept by every reply holds of all clients
in every run. -/
theorem System.clients_run {P : List (Exchange Req Reply) → Proc Req Reply σ α → Prop}
    (hstart : ∀ p, Starts p → P [] p)
    (hreply : ∀ h s r k x, P h (.await s r k) → P (h ++ [⟨r, x⟩]) (k x))
    (hS : ∀ q ∈ S.clients, P q.2 q.1)
    (hrun : Relation.ReflTransGen (System.Step Answer Starts) S S') :
    ∀ q ∈ S'.clients, P q.2 q.1 := by
  induction hrun with
  | refl => exact hS
  | tail _ hstep ih =>
    cases hstep with
    | start hp =>
      intro q hq
      rcases List.mem_append.mp hq with hq | hq
      · exact ih q hq
      · rw [List.mem_singleton.mp hq]
        exact hstart _ hp
    | answer hi ha =>
      intro q hq
      rcases List.mem_or_eq_of_mem_set hq with hq | rfl
      · exact ih q hq
      · exact hreply _ _ _ _ _ (ih _ (List.mem_of_getElem? hi))

/-- What the object answers at every state of a run holds of all exchanges of the clients that were
started in the run. -/
theorem System.since_run {P : Exchange Req Reply → Prop}
    (hP : ∀ S₁ : System Req Reply σ α W, Relation.ReflTransGen (System.Step Answer Starts) S S₁ →
      ∀ r x w', Answer S₁.shared r x w' → P ⟨r, x⟩)
    (hrun : Relation.ReflTransGen (System.Step Answer Starts) S S') :
    S.clients.length ≤ S'.clients.length ∧ ∀ i p h, S.clients.length ≤ i →
      S'.clients[i]? = some (p, h) → ∀ e ∈ h, P e := by
  induction hrun with
  | refl =>
    refine ⟨le_refl _, fun i p h hi hp => ?_⟩
    rw [List.getElem?_eq_none hi] at hp
    cases hp
  | tail hprefix hstep ih =>
    obtain ⟨hlen, hold⟩ := ih
    cases hstep with
    | @start w cs q hq =>
      refine ⟨by rw [List.length_append]; exact Nat.le_add_right_of_le hlen,
        fun i p h hi hp e he => ?_⟩
      rcases Nat.lt_or_ge i cs.length with hlt | hge
      · rw [List.getElem?_append_left hlt] at hp
        exact hold i p h hi hp e he
      · rw [List.getElem?_append_right hge] at hp
        obtain ⟨-, rfl⟩ := Prod.mk.inj (List.mem_singleton.mp (List.mem_of_getElem? hp))
        cases he
    | @answer w w' cs j s r k h₀ x hj ha =>
      refine ⟨by rw [List.length_set]; exact hlen, fun i p h hi hp e he => ?_⟩
      rw [List.getElem?_set] at hp
      split_ifs at hp with hji hlt
      · subst hji
        cases hp
        rcases List.mem_append.mp he with he | he
        · exact hold j _ _ hi hj e he
        · rw [List.mem_singleton.mp he]
          exact hP _ hprefix r x w' ha
      · exact hold i p h hi hp e he

lemma System.Sound.nil {w : W} (hw : Inv w) :
    System.Sound (α := α) c Inv K Apart ⟨w, []⟩ :=
  ⟨hw, fun h => by simp at h, fun _ h => by simp at h⟩

end

end Resume
