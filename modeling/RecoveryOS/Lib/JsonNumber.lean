import RecoveryOS.Lib.JsonScan

/-!
# Integers in the text of a JSON value

The decimal digits of a number are scanned as that number, as long as there are no more of them than a
conversion is made of. No number but zero begins with a zero, which the scanner would end at.
-/

namespace JsonText

lemma head_toDigits {n : ℕ} (hn : 0 < n) : (Nat.toDigits 10 n).head? ≠ some '0' := by
  induction n using Nat.strong_induction_on with
  | _ n ih =>
    rcases Nat.lt_or_ge n 10 with hlt | hge
    · rw [Nat.toDigits_of_lt_base hlt]
      interval_cases n <;> decide
    · rw [Nat.toDigits_of_base_le (by decide) hge, List.head?_append_of_ne_nil _ Nat.toDigits_ne_nil]
      exact ih (n / 10) (by omega) (by omega)

/-- What ends a member is no part of a number. -/
lemma not_digit_of_end {c : Char} (hc : c = ',' ∨ c = '\x7d') : c.isDigit = false := by
  rcases hc with rfl | rfl <;> rfl

lemma takeWhile_digits {text : List Char} (h : ∀ c ∈ text, c.isDigit = true) {c : Char}
    (hc : c.isDigit = false) (rest : List Char) :
    (text ++ c :: rest).takeWhile Char.isDigit = text := by
  rw [List.takeWhile_append_of_pos h, List.takeWhile_cons, hc]
  simp

lemma dropWhile_digits {text : List Char} (h : ∀ c ∈ text, c.isDigit = true) {c : Char}
    (hc : c.isDigit = false) (rest : List Char) :
    (text ++ c :: rest).dropWhile Char.isDigit = c :: rest := by
  rw [List.dropWhile_append_of_pos h, List.dropWhile_cons, hc]
  simp

/-- Nothing of a number stands where a member ends. -/
lemma scan_end {c : Char} (hc : c = ',' ∨ c = '\x7d') (rest : List Char) :
    scanFraction (c :: rest) = (none, c :: rest) ∧ scanExponent (c :: rest) = (none, c :: rest) := by
  rcases hc with rfl | rfl
  · exact ⟨rfl, rfl⟩
  · exact ⟨rfl, rfl⟩

lemma digit_ne {c : Char} (h : c.isDigit = true) : c ≠ '"' ∧ c ≠ '\x7b' ∧ c ≠ '[' ∧ c ≠ '-' ∧
    isSpace c = false ∧ ∀ l ∈ literals, l.1.head? ≠ some c := by
  refine ⟨?_, ?_, ?_, ?_, ?_, fun l hl he => ?_⟩
  · rintro rfl
    cases h
  · rintro rfl
    cases h
  · rintro rfl
    cases h
  · rintro rfl
    cases h
  · rw [Bool.eq_false_iff]
    intro hs
    simp only [isSpace, Bool.or_eq_true, decide_eq_true_eq] at hs
    rcases hs with ((rfl | rfl) | rfl) | rfl <;> cases h
  · have hnone : (literals.all fun l => !(l.1.head?.map Char.isDigit).getD true) = true := by decide
    have hl' := List.all_eq_true.mp hnone l hl
    rw [he] at hl'
    simp [h] at hl'

/-- A text that begins with a digit is no literal. -/
lemma scanPlain_digit {c : Char} (h : c.isDigit = true) (text : List Char) :
    scanPlain (c :: text) = scanUnsigned false (c :: text) := by
  have hfind : literals.find? (fun l => l.1.isPrefixOf (c :: text)) = none := by
    refine List.find?_eq_none.mpr fun l hl hp => ?_
    have hne := (digit_ne h).2.2.2.2.2 l hl
    obtain ⟨name, v⟩ := l
    cases name with
    | nil =>
      have hnone : (literals.all fun l => !l.1.isEmpty) = true := by decide
      simpa using List.all_eq_true.mp hnone _ hl
    | cons d name =>
      rw [List.isPrefixOf_iff_prefix] at hp
      obtain ⟨rest, he⟩ := hp
      rw [List.cons_append] at he
      exact hne (congrArg some (List.cons.inj he).1)
  rw [scanPlain, hfind]
  have hminus := (digit_ne h).2.2.2.1
  simp only [scanNumber]
  split
  · next he => exact absurd (List.cons.inj he).1 hminus
  · rfl

/-- The digits of a number are scanned as it. -/
theorem scans_toDigits {n : ℕ} (hn : n < 10 ^ maxStrDigits) (depth : ℕ) :
    Scans 1 depth (Nat.toDigits 10 n) (.int n) := by
  obtain ⟨d, l, hd⟩ := List.exists_cons_of_ne_nil (Nat.toDigits_ne_nil (n := n) (b := 10))
  have hall : ∀ c ∈ Nat.toDigits 10 n, c.isDigit = true := fun c hc =>
    Nat.isDigit_of_mem_toDigits (by decide) (by decide) hc
  have hdigit : d.isDigit = true := hall d (hd ▸ List.mem_cons_self)
  have hl : ∀ c ∈ l, c.isDigit = true := fun c hc => hall c (hd ▸ List.mem_cons_of_mem d hc)
  have hlength : ¬ maxStrDigits < (d :: l).length := by
    rw [← hd]
    exact not_lt.mpr ((Nat.length_toDigits_le_iff (by decide) (by decide)).mpr hn)
  -- a zero stands alone
  have hzero : d = '0' → l = [] := by
    rintro rfl
    rcases Nat.eq_zero_or_pos n with rfl | hpos
    · rw [Nat.toDigits_zero] at hd
      exact (List.cons.inj hd).2.symm
    · exact absurd (by rw [hd]; rfl) (head_toDigits hpos)
  refine ⟨fun m hm c rest hc => ?_, d, l, hd, (digit_ne hdigit).2.2.2.2.1⟩
  obtain ⟨m, rfl⟩ := Nat.exists_eq_add_of_le' hm
  obtain ⟨hquote, hbrace, hbracket, -⟩ := digit_ne hdigit
  have hcd := not_digit_of_end hc
  obtain ⟨hfraction, hexponent⟩ := scan_end hc rest
  have hwhole : (if d = '0' then ['0'] else d :: (l ++ c :: rest).takeWhile Char.isDigit) = d :: l := by
    split_ifs with h
    · rw [h, hzero h]
    · rw [takeWhile_digits hl hcd]
  have hrest : (if d = '0' then l ++ c :: rest else (l ++ c :: rest).dropWhile Char.isDigit) =
      c :: rest := by
    split_ifs with h
    · rw [hzero h]
      rfl
    · exact dropWhile_digits hl hcd rest
  have hvalue : Nat.ofDigitChars 10 (d :: l) 0 = n := by
    rw [← hd]
    exact Nat.ofDigitChars_ten_toDigits
  rw [hd, List.cons_append]
  simp only [scanOnce, if_neg hquote, if_neg hbrace, if_neg hbracket, scanPlain_digit hdigit,
    scanUnsigned, hdigit, if_true, hwhole, hrest, hfraction, hexponent, numberValue, if_neg hlength,
    hvalue]
  rfl

/-! ## What is written is printable -/

lemma hexDigit_printable {n : ℕ} (h : n < 16) :
    32 ≤ (hexDigit n).toNat ∧ (hexDigit n).toNat < 127 := by
  have key : ∀ m : Fin 16, 32 ≤ (hexDigit m).toNat ∧ (hexDigit m).toNat < 127 := by decide
  exact key ⟨n, h⟩

lemma escapeCode_printable {n : ℕ} (h : n < 65536) :
    ∀ c ∈ escapeCode n, 32 ≤ c.toNat ∧ c.toNat < 127 := by
  simp only [escapeCode, List.forall_mem_cons]
  exact ⟨by decide, by decide, hexDigit_printable (by omega), hexDigit_printable (by omega),
    hexDigit_printable (by omega), hexDigit_printable (by omega), List.forall_mem_nil _⟩

lemma escape_printable (n : CodePoint) : ∀ c ∈ escape n, 32 ≤ c.toNat ∧ c.toNat < 127 := by
  have hn : n.val < 1114112 := n.isLt
  unfold escape
  split
  · next c hs =>
    have hc : 32 ≤ c.toNat ∧ c.toNat < 127 := by
      unfold shortEscape at hs
      split_ifs at hs
      all_goals
        obtain rfl := Option.some.inj hs
        decide
    simp only [List.forall_mem_cons]
    exact ⟨by decide, hc, List.forall_mem_nil _⟩
  · split_ifs with hplain hsmall
    · have key : ∀ m : Fin 127, 32 ≤ m.val → 32 ≤ (Char.ofNat m).toNat ∧ (Char.ofNat m).toNat < 127 :=
        by decide
      rw [List.forall_mem_singleton]
      exact key ⟨n, hplain.2⟩ hplain.1
    · exact escapeCode_printable hsmall
    · rw [List.forall_mem_append]
      exact ⟨escapeCode_printable (by omega), escapeCode_printable (by omega)⟩

lemma dumpsText_printable (text : Text) :
    ∀ c ∈ dumpsText text, 32 ≤ c.toNat ∧ c.toNat < 127 := by
  rw [dumpsText, List.forall_mem_cons, List.forall_mem_append, List.forall_mem_singleton]
  refine ⟨by decide, fun c hc => ?_, by decide⟩
  obtain ⟨n, -, hn⟩ := List.mem_flatMap.mp hc
  exact escape_printable n c hn

lemma toDigits_printable (n : ℕ) : ∀ c ∈ Nat.toDigits 10 n, 32 ≤ c.toNat ∧ c.toNat < 127 := by
  intro c hc
  have hdigit := Nat.isDigit_of_mem_toDigits (by decide) (by decide) hc
  rw [Char.isDigit_iff_toNat] at hdigit
  have hzero : ('0' : Char).toNat = 48 := rfl
  have hnine : ('9' : Char).toNat = 57 := rfl
  omega

lemma forall_mem_intercalate {P : Char → Prop} {c : Char} (hc : P c) :
    ∀ {lists : List (List Char)}, (∀ l ∈ lists, ∀ x ∈ l, P x) → ∀ x ∈ [c].intercalate lists, P x
  | [], _ => List.forall_mem_nil _
  | [l], h => by
    rw [List.intercalate_singleton]
    exact h l List.mem_cons_self
  | l :: l' :: lists, h => by
    rw [List.intercalate_cons_cons, List.forall_mem_append, List.forall_mem_append,
      List.forall_mem_singleton]
    exact ⟨⟨h l List.mem_cons_self, hc⟩,
      forall_mem_intercalate hc fun x hx => h x (List.mem_cons_of_mem l hx)⟩

/-- An object is printable if its values are. -/
lemma objectText_printable {members : List (Text × List Char)}
    (h : ∀ m ∈ members, ∀ c ∈ m.2, 32 ≤ c.toNat ∧ c.toNat < 127) :
    ∀ c ∈ objectText members, 32 ≤ c.toNat ∧ c.toNat < 127 := by
  have hmember : ∀ m ∈ members.map memberText, ∀ c ∈ m, 32 ≤ c.toNat ∧ c.toNat < 127 := by
    intro text htext
    obtain ⟨m, hm, rfl⟩ := List.mem_map.mp htext
    rw [memberText, List.forall_mem_append, List.forall_mem_cons]
    exact ⟨dumpsText_printable m.1, by decide, h m hm⟩
  rw [objectText, List.forall_mem_cons, List.forall_mem_append, List.forall_mem_singleton]
  exact ⟨by decide, forall_mem_intercalate (by decide) hmember, by decide⟩

end JsonText
