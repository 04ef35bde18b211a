import RecoveryOS.Domain
import Mathlib.Tactic

/-!
# `==` on JSON

What Python finds equal in two values that were read from JSON: numbers by their value, with `True`
and `False` as 1 and 0 among them, and objects by what every name is looked up to, in any order.
-/

namespace RecoveryOS

namespace Json

/-- The number that a number or a truth value is. -/
def number? : Json → Option ℚ
  | .bool b => some (if b then 1 else 0)
  | .int n => some n
  | .num q => some q
  | _ => none

/-- What is no container. -/
def sameLeaf : Json → Json → Bool
  | .null, .null => true
  | .str s, .str t => s = t
  | a, b => (number? a).isSome && decide (number? a = number? b)

def lookup (fields : List (String × Json)) (name : String) : Option Json :=
  (fields.find? fun f => f.1 = name).map (·.2)

mutual

/-- `a == b`. -/
def same : Json → Json → Bool
  | .arr l, b =>
    match b with
    | .arr l' => sameItems l l'
    | _ => false
  | .obj l, b =>
    match b with
    | .obj l' => sameFields [] l l' && l'.all fun f => (lookup l f.1).isSome
    | _ => false
  | a, b => sameLeaf a b

def sameItems : List Json → List Json → Bool
  | [], l' => l'.isEmpty
  | a :: l, l' =>
    match l' with
    | b :: l' => same a b && sameItems l l'
    | [] => false

/-- The fields whose names were not seen before. -/
def sameFields : List String → List (String × Json) → List (String × Json) → Bool
  | _, [], _ => true
  | seen, f :: l, l' => sameField seen f l' && sameFields (f.1 :: seen) l l'

def sameField : List String → String × Json → List (String × Json) → Bool
  | seen, (name, v), l' =>
    seen.contains name ||
      match lookup l' name with
      | some v' => same v v'
      | none => false

end

/-! ## Every value is equal to itself -/

lemma lookup_append {pre l : List (String × Json)} {name : String} {v : Json}
    (h : ∀ f ∈ pre, f.1 ≠ name) : lookup (pre ++ (name, v) :: l) name = some v := by
  have hpre : pre.find? (fun f => f.1 = name) = none := by
    rw [List.find?_eq_none]
    intro f hf
    simpa using h f hf
  rw [lookup, List.find?_append, hpre, Option.none_or, List.find?_cons_of_pos (by simp)]
  rfl

lemma lookup_isSome {l : List (String × Json)} {f : String × Json} (h : f ∈ l) :
    (lookup l f.1).isSome = true := by
  rw [lookup, Option.isSome_map, List.find?_isSome]
  exact ⟨f, h, by simp⟩

mutual

theorem same_refl : ∀ a : Json, same a a = true
  | .null => by simp [same, sameLeaf]
  | .bool b => by simp [same, sameLeaf, number?]
  | .int n => by simp [same, sameLeaf, number?]
  | .num q => by simp [same, sameLeaf, number?]
  | .str s => by simp [same, sameLeaf]
  | .arr l => by
    rw [same]
    exact sameItems_refl l
  | .obj l => by
    rw [same, Bool.and_eq_true]
    exact ⟨sameFields_refl l [] [] (by simp), List.all_eq_true.mpr fun f hf => lookup_isSome hf⟩

theorem sameItems_refl : ∀ l : List Json, sameItems l l = true
  | [] => by simp [sameItems]
  | a :: l => by
    rw [sameItems, Bool.and_eq_true]
    exact ⟨same_refl a, sameItems_refl l⟩

/-- The fields from some place on; the names before it were seen. -/
theorem sameFields_refl : ∀ (l : List (String × Json)) (seen : List String)
    (pre : List (String × Json)), (∀ f ∈ pre, f.1 ∈ seen) → sameFields seen l (pre ++ l) = true
  | [], _, _, _ => by simp [sameFields]
  | f :: l, seen, pre, h => by
    have hrest := sameFields_refl l (f.1 :: seen) (pre ++ [f]) (by
      intro g hg
      rcases List.mem_append.mp hg with hg | hg
      · exact List.mem_cons_of_mem _ (h g hg)
      · rw [List.mem_singleton.mp hg]
        exact List.mem_cons_self)
    rw [List.append_assoc, List.singleton_append] at hrest
    rw [sameFields, Bool.and_eq_true]
    exact ⟨sameField_refl f seen pre l h, hrest⟩

theorem sameField_refl : ∀ (f : String × Json) (seen : List String) (pre l : List (String × Json)),
    (∀ g ∈ pre, g.1 ∈ seen) → sameField seen f (pre ++ f :: l) = true
  | (name, v), seen, pre, l, h => by
    rw [sameField]
    by_cases hseen : name ∈ seen
    · rw [List.contains_iff_mem.mpr hseen, Bool.true_or]
    · have hpre : ∀ g ∈ pre, g.1 ≠ name := fun g hg he => hseen (he ▸ h g hg)
      simp only [lookup_append hpre, same_refl v, Bool.or_true]

end

/-! ## What equal values have in common -/

lemma lookup_cons {l : List (String × Json)} {f : String × Json} {name : String} :
    lookup (f :: l) name = if f.1 = name then some f.2 else lookup l name := by
  unfold lookup
  by_cases h : f.1 = name
  · rw [List.find?_cons_of_pos (by simpa using h), if_pos h]
    rfl
  · rw [List.find?_cons_of_neg (by simpa using h), if_neg h]

lemma lookup_of_sameFields : ∀ {l l' : List (String × Json)} {seen : List String},
    sameFields seen l l' = true → ∀ {name v}, name ∉ seen → lookup l name = some v →
      ∃ v', lookup l' name = some v' ∧ same v v' = true
  | [], _, _, _, _, _, _, h => by cases h
  | (name', v) :: l, l', seen, hs, name, w, hn, h => by
    rw [sameFields, Bool.and_eq_true] at hs
    rw [lookup_cons] at h
    by_cases he : name' = name
    · subst he
      rw [if_pos rfl] at h
      obtain rfl := Option.some.inj h
      have hfield := hs.1
      rw [sameField, Bool.or_eq_true, List.contains_iff_mem] at hfield
      have hvalue := hfield.resolve_left hn
      cases hl' : lookup l' name' with
      | none =>
        rw [hl'] at hvalue
        cases hvalue
      | some v' =>
        rw [hl'] at hvalue
        exact ⟨v', rfl, hvalue⟩
    · rw [if_neg he] at h
      refine lookup_of_sameFields hs.2 ?_ h
      rw [List.mem_cons, not_or]
      exact ⟨fun h => he h.symm, hn⟩

section
variable {l l' : List (String × Json)} (h : same (.obj l) (.obj l') = true)
include h

/-- A name is in both of two equal objects or in neither. -/
lemma lookup_of_same (name : String) :
    (lookup l name = none ∧ lookup l' name = none) ∨
      ∃ v v', lookup l name = some v ∧ lookup l' name = some v' ∧ same v v' = true := by
  rw [same, Bool.and_eq_true] at h
  cases hl : lookup l name with
  | some v =>
    obtain ⟨v', hv', hsame⟩ := lookup_of_sameFields h.1 List.not_mem_nil hl
    exact .inr ⟨v, v', rfl, hv', hsame⟩
  | none =>
    refine .inl ⟨rfl, ?_⟩
    by_contra hne
    obtain ⟨v', hv'⟩ := Option.ne_none_iff_exists'.mp hne
    obtain ⟨f, hf, -⟩ := Option.map_eq_some_iff.mp hv'
    have hname : f.1 = name := by simpa using List.find?_some hf
    have hthere := List.all_eq_true.mp h.2 f (List.mem_of_find?_eq_some hf)
    rw [hname, hl] at hthere
    cases hthere

lemma get_of_same (name : String) : same (get l name) (get l' name) = true := by
  rcases lookup_of_same h name with ⟨hl, hl'⟩ | ⟨v, v', hl, hl', hsame⟩
  · show same ((lookup l name).getD .null) ((lookup l' name).getD .null) = true
    rw [hl, hl']
    exact same_refl .null
  · show same ((lookup l name).getD .null) ((lookup l' name).getD .null) = true
    rw [hl, hl']
    exact hsame

end

end Json

end RecoveryOS
