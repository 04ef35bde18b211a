import Mathlib.Data.List.Basic

/-!
# Readers of written values

A reader takes one value off the front of a text. It reads a format back if it finds every value
that was written, whatever follows, up to what the format needs to be followed by. Two values that
were written to the same text are then equal, so reading back is how a format is shown to be
injective. A sequence is read back if its items are: one that ends at a symbol that no item begins
with, and one whose items are separated.
-/

namespace Read

variable {α β γ : Type*}

abbrev Reader (α β : Type*) := List α → Option (β × List α)

/-- `rd` reads what `enc` writes, if what follows is as it should be. -/
def Back (rd : Reader α β) (enc : β → List α) (follow : List α → Prop) : Prop :=
  ∀ b rest, follow rest → rd (enc b ++ rest) = some (b, rest)

variable {rd : Reader α β} {enc : β → List α} {follow : List α → Prop}

theorem Back.inj (h : Back rd enc follow) {b b' : β} {rest rest' : List α} (hr : follow rest)
    (hr' : follow rest') (he : enc b ++ rest = enc b' ++ rest') : b = b' ∧ rest = rest' := by
  have hb := h b rest hr
  rw [he, h b' rest' hr'] at hb
  have hp := Option.some.inj hb
  exact ⟨(congrArg Prod.fst hp).symm, (congrArg Prod.snd hp).symm⟩

lemma Back.mono {follow' : List α → Prop} (h : Back rd enc follow)
    (hf : ∀ rest, follow' rest → follow rest) : Back rd enc follow' :=
  fun b rest hr => h b rest (hf rest hr)

lemma length_le_flatMap (h : ∀ b, enc b ≠ []) (bs : List β) :
    bs.length ≤ (bs.flatMap enc).length := by
  induction bs with
  | nil => simp
  | cons b bs ih =>
    have hb := List.length_pos_of_ne_nil (h b)
    rw [List.flatMap_cons, List.length_append, List.length_cons]
    omega

lemma length_le_intercalate (sep : α) (h : ∀ b, enc b ≠ []) (bs : List β) :
    bs.length ≤ ([sep].intercalate (bs.map enc)).length := by
  induction bs with
  | nil => simp
  | cons b bs ih =>
    have hb := List.length_pos_of_ne_nil (h b)
    cases bs with
    | nil =>
      rw [List.map_singleton, List.intercalate_singleton, List.length_singleton]
      exact hb
    | cons b' bs =>
      rw [List.map_cons, List.map_cons, List.intercalate_cons_cons] at *
      simp only [List.length_append, List.length_cons, List.length_nil] at ih ⊢
      omega

section
variable [DecidableEq α] (rd)

/-- Items up to a symbol that ends them; the number bounds how many are read. -/
def upTo (stop : α) : ℕ → Reader α (List β)
  | 0, _ => none
  | _ + 1, [] => none
  | n + 1, c :: rest =>
    if c = stop then some ([], rest)
    else
      match rd (c :: rest) with
      | some (b, rest') => (upTo stop n rest').map fun r => (b :: r.1, r.2)
      | none => none

/-- At least one item, with a symbol between two and one after the last. -/
def separated (sep stop : α) : ℕ → Reader α (List β)
  | 0, _ => none
  | n + 1, text =>
    match rd text with
    | some (b, c :: rest) =>
      if c = stop then some ([b], rest)
      else if c = sep then (separated sep stop n rest).map fun r => (b :: r.1, r.2)
      else none
    | _ => none

variable {rd}

theorem upTo_flatMap {stop : α} (h : Back rd enc fun _ => True)
    (hstop : ∀ b, ∃ c l, enc b = c :: l ∧ c ≠ stop) (rest : List α) :
    ∀ (bs : List β) (n : ℕ), bs.length < n →
      upTo rd stop n (bs.flatMap enc ++ stop :: rest) = some (bs, rest)
  | [], n + 1, _ => by simp [upTo]
  | b :: bs, n + 1, hn => by
    obtain ⟨c, l, hb, hc⟩ := hstop b
    have hread := h b (bs.flatMap enc ++ stop :: rest) trivial
    have ih := upTo_flatMap h hstop rest bs n (by simpa using hn)
    rw [List.flatMap_cons, List.append_assoc]
    rw [hb, List.cons_append] at hread ⊢
    simp only [upTo, hc, if_false, hread, ih, Option.map_some]

theorem separated_intercalate (sep stop : α) (hne : sep ≠ stop)
    (h : Back rd enc fun rest => ∃ c l, rest = c :: l ∧ (c = sep ∨ c = stop)) (rest : List α) :
    ∀ (bs : List β) (n : ℕ), bs ≠ [] → bs.length < n →
      separated rd sep stop n ([sep].intercalate (bs.map enc) ++ stop :: rest) = some (bs, rest)
  | [b], n + 1, _, _ => by
    have hread := h b (stop :: rest) ⟨_, _, rfl, .inr rfl⟩
    rw [List.map_singleton, List.intercalate_singleton]
    simp [separated, hread]
  | b :: b' :: bs, n + 1, _, hn => by
    have ih := separated_intercalate sep stop hne h rest (b' :: bs) n (by simp) (by simpa using hn)
    have hread := h b (sep :: ([sep].intercalate ((b' :: bs).map enc) ++ stop :: rest))
      ⟨_, _, rfl, .inl rfl⟩
    have htext : [sep].intercalate ((b :: b' :: bs).map enc) ++ stop :: rest
        = enc b ++ sep :: ([sep].intercalate ((b' :: bs).map enc) ++ stop :: rest) := by
      simp [List.map_cons, List.intercalate_cons_cons]
    rw [htext]
    simp only [separated, hread, hne, if_false, if_true, ih, Option.map_some]

end

end Read
