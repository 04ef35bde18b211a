import Mathlib.Logic.Basic
import Mathlib.Data.List.Basic

/-!
# Machines that answer alike

A machine answers a call and moves on. Two machines whose states are related answer a whole list of
calls alike exactly if every call of the list meets, in the state it finds, the condition under
which a single call is answered alike (`answers_eq_iff`). Where a condition is only enough for that
(`answers_eq`), there is a first call that does not meet it (`along_or_split`).
-/

namespace Machines

variable {σ τ ι ω : Type*}

/-- The answers to a list of calls. -/
def answers (step : σ → ι → ω × σ) : σ → List ι → List ω
  | _, [] => []
  | s, c :: cs => (step s c).1 :: answers step (step s c).2 cs

/-- The state after a list of calls. -/
def after (step : σ → ι → ω × σ) (s : σ) (calls : List ι) : σ :=
  calls.foldl (fun s c => (step s c).2) s

/-- Every call meets a condition in the state that it finds. -/
def Along (step : σ → ι → ω × σ) (P : σ → ι → Prop) : σ → List ι → Prop
  | _, [] => True
  | s, c :: cs => P s c ∧ Along step P (step s c).2 cs

section
variable {f : σ → ι → ω × σ} {g : τ → ι → ω × τ} {P Q : σ → ι → Prop} {R : σ → τ → Prop}

lemma along_of_forall : ∀ {calls : List ι} {s : σ}, (∀ s, ∀ c ∈ calls, P s c) → Along f P s calls
  | [], _, _ => trivial
  | c :: _, s, h => ⟨h s c List.mem_cons_self,
      along_of_forall fun s' c' hc' => h s' c' (List.mem_cons_of_mem c hc')⟩

lemma after_append (s : σ) (l l' : List ι) : after f s (l ++ l') = after f (after f s l) l' := by
  simp [after, List.foldl_append]

lemma after_concat (s : σ) (l : List ι) (c : ι) : after f s (l ++ [c]) = (f (after f s l) c).2 := by
  rw [after_append]
  rfl

/-- The condition holds of each call in the state that the calls before it leave. -/
lemma Along.split : ∀ {l : List ι} {c : ι} {l' : List ι} {s : σ}, Along f P s (l ++ c :: l') →
    Along f P s l ∧ P (after f s l) c
  | [], _, _, _, h => ⟨trivial, h.1⟩
  | _ :: _, _, _, _, h => ⟨⟨h.1, h.2.split.1⟩, h.2.split.2⟩

lemma Along.left : ∀ {l l' : List ι} {s : σ}, Along f P s (l ++ l') → Along f P s l
  | [], _, _, _ => trivial
  | _ :: _, _, _, h => ⟨h.1, h.2.left⟩

lemma Along.and : ∀ {l : List ι} {s : σ}, Along f P s l → Along f Q s l →
    Along f (fun s c => P s c ∧ Q s c) s l
  | [], _, _, _ => trivial
  | _ :: _, _, hP, hQ => ⟨⟨hP.1, hQ.1⟩, hP.2.and hQ.2⟩

/-- Related machines stay related along calls that meet a condition. -/
theorem related_after (hstep : ∀ s t c, P s c → R s t → R (f s c).2 (g t c).2) :
    ∀ {calls : List ι} {s : σ} {t : τ}, Along f P s calls → R s t →
      R (after f s calls) (after g t calls) := by
  intro calls
  induction calls with
  | nil => exact fun _ hR => hR
  | cons c cs ih => exact fun hP hR => ih hP.2 (hstep _ _ c hP.1 hR)

/-- Related machines answer alike as long as the calls meet the condition `P`, which decides it for
one call, among the calls that meet `Q`. -/
theorem answers_eq_iff
    (hstep : ∀ s t c, Q s c → R s t →
      ((f s c).1 = (g t c).1 ↔ P s c) ∧ (P s c → R (f s c).2 (g t c).2)) :
    ∀ {calls : List ι} {s : σ} {t : τ}, Along f Q s calls → R s t →
      (answers f s calls = answers g t calls ↔ Along f P s calls)
  | [], _, _, _, _ => ⟨fun _ => trivial, fun _ => rfl⟩
  | c :: cs, s, t, hQ, hR => by
    obtain ⟨hanswer, hnext⟩ := hstep s t c hQ.1 hR
    simp only [answers, Along, List.cons.injEq]
    constructor
    · rintro ⟨hc, hcs⟩
      have hP := hanswer.mp hc
      exact ⟨hP, (answers_eq_iff hstep hQ.2 (hnext hP)).mp hcs⟩
    · rintro ⟨hP, hcs⟩
      exact ⟨hanswer.mpr hP, (answers_eq_iff hstep hQ.2 (hnext hP)).mpr hcs⟩

/-- Related machines answer alike along calls that meet a condition. -/
theorem answers_eq
    (hstep : ∀ s t c, P s c → R s t → (f s c).1 = (g t c).1 ∧ R (f s c).2 (g t c).2) :
    ∀ {calls : List ι} {s : σ} {t : τ}, Along f P s calls → R s t →
      answers f s calls = answers g t calls
  | [], _, _, _, _ => rfl
  | c :: _, s, t, hP, hR => by
    obtain ⟨hanswer, hnext⟩ := hstep s t c hP.1 hR
    simp only [answers, hanswer, answers_eq hstep hP.2 hnext]

variable (f P) in
/-- Either every call meets a condition, or there is a first one that does not. -/
lemma along_or_split : ∀ (calls : List ι) (s : σ), Along f P s calls ∨
    ∃ b c rest, calls = b ++ c :: rest ∧ Along f P s b ∧ ¬ P (after f s b) c
  | [], _ => .inl trivial
  | c :: cs, s => by
    by_cases hc : P s c
    · rcases along_or_split cs (f s c).2 with h | ⟨b, d, rest, rfl, hb, hd⟩
      · exact .inl ⟨hc, h⟩
      · exact .inr ⟨c :: b, d, rest, rfl, ⟨hc, hb⟩, hd⟩
    · exact .inr ⟨[], c, cs, rfl, trivial, hc⟩

lemma answers_append (s : σ) (l l' : List ι) :
    answers f s (l ++ l') = answers f s l ++ answers f (after f s l) l' := by
  induction l generalizing s with
  | nil => rfl
  | cons c cs ih =>
    rw [List.cons_append, answers, ih, answers, List.cons_append]
    rfl

lemma length_answers (s : σ) (l : List ι) : (answers f s l).length = l.length := by
  induction l generalizing s with
  | nil => rfl
  | cons c cs ih => rw [answers, List.length_cons, ih, List.length_cons]

/-- Machines that answer a list of calls alike answer each call of it alike. -/
lemma answer_eq_of_answers_eq {s : σ} {t : τ} {b : List ι} {c : ι} {rest : List ι}
    (h : answers f s (b ++ c :: rest) = answers g t (b ++ c :: rest)) :
    (f (after f s b) c).1 = (g (after g t b) c).1 := by
  rw [answers_append, answers_append] at h
  have hlength : (answers f s b).length = (answers g t b).length := by
    rw [length_answers, length_answers]
  exact (List.cons.inj (List.append_inj h hlength).2).1

end

end Machines
