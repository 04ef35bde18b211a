import Mathlib.Tactic

/-!
# The text of a JSON value

A text is a list of code points, halves of surrogate pairs among them. It is written in ASCII: what is
not printable is an escape of sixteen bits, or two of them beyond that. Reading joins two escapes that
are a pair, so a text is read back up to the pairs that were in it as halves (`merge`).

The scanner takes a value off the front of a text. It fails where the text is malformed, and where
containers are nested deeper than it may recurse. Every step of it takes something off the text, so it
comes to an end (`loads_ne_spent`).
-/

namespace JsonText

/-! ## Code points -/

abbrev CodePoint : Type := Fin 1114112

abbrev Text : Type := List CodePoint

/-- The first half of a surrogate pair. -/
def isHigh (n : ℕ) : Bool := decide (55296 ≤ n) && decide (n < 56320)

def isLow (n : ℕ) : Bool := decide (56320 ≤ n) && decide (n < 57344)

/-- The code point of a pair. -/
def join (n m : ℕ) : CodePoint := Fin.ofNat 1114112 (65536 + (n - 55296) * 1024 + (m - 56320))

/-- The halves of pairs are joined. -/
def merge : Text → Text
  | c :: d :: text =>
    if isHigh c && isLow d then join c d :: merge text else c :: merge (d :: text)
  | text => text

/-- No first half of a pair has a second half behind it. -/
def Unpaired (text : Text) : Prop :=
  text.IsChain fun c d : CodePoint => (isHigh c && isLow d) = false

lemma length_merge_le (text : Text) : (merge text).length ≤ text.length := by
  induction text using merge.induct with
  | case1 c d text h ih =>
    rw [merge, if_pos h, List.length_cons, List.length_cons, List.length_cons]
    omega
  | case2 c d text h ih =>
    rw [merge, if_neg h, List.length_cons, List.length_cons]
    omega
  | case3 text h =>
    rw [merge.eq_2 _ h]

/-- A text is its own merge if and only if it has no pair in halves. -/
theorem merge_eq_self_iff (text : Text) : merge text = text ↔ Unpaired text := by
  induction text using merge.induct with
  | case1 c d text h ih =>
    rw [merge, if_pos h, Unpaired, List.isChain_cons_cons]
    refine iff_of_false (fun he => ?_) fun hc => ?_
    · have hlen := congrArg List.length he
      have hle := length_merge_le text
      rw [List.length_cons, List.length_cons, List.length_cons] at hlen
      omega
    · exact absurd (h.symm.trans hc.1) (by simp)
  | case2 c d text h ih =>
    rw [merge, if_neg h, Unpaired, List.isChain_cons_cons, List.cons.injEq, ih, Unpaired]
    simp only [true_and, eq_false_of_ne_true h]
  | case3 text h =>
    rw [merge.eq_2 _ h]
    refine iff_of_true rfl ?_
    cases text with
    | nil => exact .nil
    | cons c text =>
      cases text with
      | nil => exact .singleton c
      | cons d text => exact (h c d text rfl).elim

/-! ## Writing -/

def hexDigit (n : ℕ) : Char := Char.ofNat (if n < 10 then 48 + n else 87 + n)

/-- An escape of sixteen bits. -/
def escapeCode (n : ℕ) : List Char :=
  ['\\', 'u', hexDigit (n / 4096), hexDigit (n / 256 % 16), hexDigit (n / 16 % 16),
    hexDigit (n % 16)]

/-- The escapes that have a letter. -/
def shortEscape (n : ℕ) : Option Char :=
  if n = 34 then some '"'
  else if n = 92 then some '\\'
  else if n = 10 then some 'n'
  else if n = 13 then some 'r'
  else if n = 9 then some 't'
  else if n = 12 then some 'f'
  else if n = 8 then some 'b'
  else none

def escape (n : ℕ) : List Char :=
  match shortEscape n with
  | some c => ['\\', c]
  | none =>
    if 32 ≤ n ∧ n < 127 then [Char.ofNat n]
    else if n < 65536 then escapeCode n
    else escapeCode (55296 + (n - 65536) / 1024) ++ escapeCode (56320 + (n - 65536) % 1024)

def escapes (text : Text) : List Char := text.flatMap fun c : CodePoint => escape c

/-- A text with its quotes. -/
def dumpsText (text : Text) : List Char := '"' :: (escapes text ++ ['"'])

/-! ## Reading a text -/

inductive ScanError where
  | malformed
  | recursion
  | spent
  deriving DecidableEq

abbrev Scan (α : Type) : Type := Except ScanError (α × List Char)

def hexValue (c : Char) : Option ℕ :=
  if c.isDigit then some (c.toNat - 48)
  else if 97 ≤ c.toNat ∧ c.toNat ≤ 102 then some (c.toNat - 87)
  else if 65 ≤ c.toNat ∧ c.toNat ≤ 70 then some (c.toNat - 55)
  else none

def scanCode : List Char → Option (ℕ × List Char)
  | '\\' :: 'u' :: a :: b :: c :: d :: text => do
    some ((((← hexValue a) * 16 + (← hexValue b)) * 16 + (← hexValue c)) * 16 + (← hexValue d), text)
  | _ => none

/-- What a backslash and one more character stand for. -/
def unescape (c : Char) : Option ℕ :=
  if c = '"' ∨ c = '\\' ∨ c = '/' then some c.toNat
  else if c = 'n' then some 10
  else if c = 'r' then some 13
  else if c = 't' then some 9
  else if c = 'f' then some 12
  else if c = 'b' then some 8
  else none

/-- One code point; two escapes that are a pair are one. -/
def scanLetter (text : List Char) : Option (CodePoint × List Char) :=
  match scanCode text with
  | some (n, rest) =>
    if isHigh n then
      match scanCode rest with
      | some (m, rest') => if isLow m then some (join n m, rest') else some (Fin.ofNat _ n, rest)
      | none => some (Fin.ofNat _ n, rest)
    else some (Fin.ofNat _ n, rest)
  | none =>
    match text with
    | '\\' :: c :: rest => (unescape c).map fun n => (Fin.ofNat _ n, rest)
    | c :: rest => if c = '\\' ∨ c.toNat < 32 then none else some (Fin.ofNat _ c.toNat, rest)
    | [] => none

/-- The rest of a text, after the quote that it begins with. -/
def scanString : ℕ → List Char → Scan Text
  | 0, _ => .error .spent
  | _ + 1, [] => .error .malformed
  | n + 1, c :: text =>
    if c = '"' then .ok ([], text)
    else
      match scanLetter (c :: text) with
      | some (d, rest) => (scanString n rest).map fun r => (d :: r.1, r.2)
      | none => .error .malformed

/-! ## What is written is read back -/

lemma hexValue_hexDigit {n : ℕ} (h : n < 16) : hexValue (hexDigit n) = some n := by
  have key : ∀ m : Fin 16, hexValue (hexDigit m) = some (m : ℕ) := by decide
  exact key ⟨n, h⟩

lemma scanCode_escapeCode {n : ℕ} (h : n < 65536) (rest : List Char) :
    scanCode (escapeCode n ++ rest) = some (n, rest) := by
  have ha := hexValue_hexDigit (n := n / 4096) (by omega)
  have hb := hexValue_hexDigit (n := n / 256 % 16) (by omega)
  have hc := hexValue_hexDigit (n := n / 16 % 16) (by omega)
  have hd := hexValue_hexDigit (n := n % 16) (by omega)
  have hn : ((n / 4096 * 16 + n / 256 % 16) * 16 + n / 16 % 16) * 16 + n % 16 = n := by omega
  simp only [escapeCode, List.cons_append, List.nil_append, scanCode, ha, hb, hc, hd,
    Option.bind_eq_bind, Option.bind_some, hn]

lemma scanCode_none {c : Char} {text : List Char} (h : c ≠ '\\') : scanCode (c :: text) = none := by
  refine scanCode.eq_2 _ ?_
  rintro a b d e l he
  exact h (List.cons.inj he).1

lemma scanCode_short {c : Char} {text : List Char} (h : c ≠ 'u') :
    scanCode ('\\' :: c :: text) = none := by
  refine scanCode.eq_2 _ ?_
  rintro a b d e l he
  exact h (List.cons.inj (List.cons.inj he).2).1

/-- The letters of the short escapes. -/
lemma shortEscape_spec {n : ℕ} {c : Char} (h : shortEscape n = some c) :
    c ≠ 'u' ∧ unescape c = some n := by
  unfold shortEscape at h
  split_ifs at h with h₁ h₂ h₃ h₄ h₅ h₆ h₇
  all_goals
    obtain rfl := Option.some.inj h
    subst n
    decide

lemma printable_spec {n : ℕ} (h : 32 ≤ n ∧ n < 127) (hs : shortEscape n = none) :
    Char.ofNat n ≠ '\\' ∧ Char.ofNat n ≠ '"' ∧ (Char.ofNat n).toNat = n := by
  have key : ∀ m : Fin 127, shortEscape m = none →
      Char.ofNat m ≠ '\\' ∧ Char.ofNat m ≠ '"' ∧ (Char.ofNat m).toNat = (m : ℕ) := by decide
  exact key ⟨n, h.2⟩ hs

lemma escape_cons (n : ℕ) : ∃ c l, escape n = c :: l ∧ c ≠ '"' := by
  unfold escape
  cases hs : shortEscape n with
  | some c => exact ⟨_, _, rfl, by decide⟩
  | none =>
    dsimp only
    split_ifs with hprintable
    · exact ⟨_, _, rfl, (printable_spec hprintable hs).2.1⟩
    · exact ⟨_, _, rfl, by decide⟩
    · exact ⟨_, _, rfl, by decide⟩

lemma shortEscape_none {n : ℕ} (h : 127 ≤ n) : shortEscape n = none := by
  unfold shortEscape
  split_ifs <;> first | omega | rfl

lemma isHigh_iff {n : ℕ} : isHigh n = true ↔ 55296 ≤ n ∧ n < 56320 := by
  simp only [isHigh, Bool.and_eq_true, decide_eq_true_eq]

lemma isLow_iff {n : ℕ} : isLow n = true ↔ 56320 ≤ n ∧ n < 57344 := by
  simp only [isLow, Bool.and_eq_true, decide_eq_true_eq]

/-- What the escape of a code point begins with is a second half only if that is one. -/
lemma isLow_of_scanCode {c : CodePoint} {m : ℕ} {rest rest' : List Char}
    (h : scanCode (escape c ++ rest) = some (m, rest')) : isLow m = isLow c := by
  unfold escape at h
  cases hs : shortEscape c with
  | some d =>
    simp only [hs, List.cons_append, List.nil_append, scanCode_short (shortEscape_spec hs).1] at h
    cases h
  | none =>
    simp only [hs] at h
    split_ifs at h with hprintable hshort
    · rw [List.singleton_append, scanCode_none (printable_spec hprintable hs).1] at h
      cases h
    · rw [scanCode_escapeCode hshort] at h
      obtain rfl := congrArg Prod.fst (Option.some.inj h)
      rfl
    · have hmax := c.isLt
      rw [List.append_assoc, scanCode_escapeCode (by omega)] at h
      obtain rfl := congrArg Prod.fst (Option.some.inj h)
      rw [Bool.eq_iff_iff, isLow_iff, isLow_iff]
      omega

lemma escape_surrogate {n : ℕ} (h : 55296 ≤ n ∧ n < 57344) : escape n = escapeCode n := by
  have hplain : ¬ (32 ≤ n ∧ n < 127) := by omega
  have hshort : n < 65536 := by omega
  simp only [escape, shortEscape_none (n := n) (by omega), if_neg hplain, if_pos hshort]

/-- A first half that has no second half behind it is read as it is. -/
lemma scanLetter_escapeCode {n : ℕ} (hn : n < 65536) {rest : List Char}
    (h : isHigh n = true → ∀ m rest', scanCode rest = some (m, rest') → isLow m = false) :
    scanLetter (escapeCode n ++ rest) = some (Fin.ofNat _ n, rest) := by
  simp only [scanLetter, scanCode_escapeCode hn]
  split_ifs with hhigh
  · cases hrest : scanCode rest with
    | none => rfl
    | some r =>
      obtain ⟨m, rest'⟩ := r
      have hlow := h hhigh m rest' hrest
      simp only [hlow]
      rfl
  · rfl

lemma scanLetter_pair {n m : ℕ} (hn : isHigh n = true) (hm : isLow m = true) (rest : List Char) :
    scanLetter (escapeCode n ++ (escapeCode m ++ rest)) = some (join n m, rest) := by
  have hn' := isHigh_iff.mp hn
  have hm' := isLow_iff.mp hm
  simp only [scanLetter, scanCode_escapeCode (n := n) (by omega),
    scanCode_escapeCode (n := m) (by omega), hn, hm, if_true]

lemma scanLetter_plain {c : Char} {rest : List Char} (h : c ≠ '\\') (hc : 32 ≤ c.toNat) :
    scanLetter (c :: rest) = some (Fin.ofNat _ c.toNat, rest) := by
  have hplain : ¬ (c = '\\' ∨ c.toNat < 32) := not_or.mpr ⟨h, not_lt.mpr hc⟩
  unfold scanLetter
  rw [scanCode_none h]
  dsimp only
  split
  · rename_i he
    exact absurd (List.cons.inj he).1 h
  · rename_i he
    obtain ⟨rfl, rfl⟩ := List.cons.inj he
    rw [if_neg hplain]
  · rename_i he
    cases he

/-- A code point is read back, unless it is joined to what follows. -/
lemma scanLetter_escape (c : CodePoint) {rest : List Char}
    (h : isHigh c = true → ∀ m rest', scanCode rest = some (m, rest') → isLow m = false) :
    scanLetter (escape c ++ rest) = some (c, rest) := by
  have hmax := c.isLt
  unfold escape
  cases hs : shortEscape c with
  | some d =>
    obtain ⟨hd, hunescape⟩ := shortEscape_spec hs
    simp only [List.cons_append, List.nil_append, scanLetter, scanCode_short hd, hunescape,
      Option.map_some, Fin.ofNat_val_eq_self]
  | none =>
    dsimp only
    split_ifs with hprintable hshort
    · obtain ⟨hslash, -, hvalue⟩ := printable_spec hprintable hs
      rw [List.singleton_append, scanLetter_plain hslash (by omega), hvalue,
        Fin.ofNat_val_eq_self]
    · rw [scanLetter_escapeCode hshort h, Fin.ofNat_val_eq_self]
    · have hhigh : isHigh (55296 + (c - 65536) / 1024) = true := isHigh_iff.mpr (by omega)
      have hlow : isLow (56320 + (c - 65536) % 1024) = true := isLow_iff.mpr (by omega)
      have hsum : 65536 + (55296 + (c.val - 65536) / 1024 - 55296) * 1024
          + (56320 + (c.val - 65536) % 1024 - 56320) = c.val := by omega
      rw [List.append_assoc, scanLetter_pair hhigh hlow, join, hsum, Fin.ofNat_val_eq_self]

lemma escapes_nil : escapes [] = [] := rfl

lemma escapes_cons (c : CodePoint) (text : Text) : escapes (c :: text) = escape c ++ escapes text :=
  List.flatMap_cons

lemma length_le_dumpsText (text : Text) : text.length + 2 ≤ (dumpsText text).length := by
  have hle : text.length ≤ (escapes text).length := by
    induction text with
    | nil => exact le_rfl
    | cons c text ih =>
      obtain ⟨d, l, he, -⟩ := escape_cons c
      rw [escapes_cons, he, List.cons_append, List.length_cons, List.length_cons, List.length_append]
      omega
  rw [dumpsText, List.length_cons, List.length_append, List.length_singleton]
  omega

/-- A text is read back, with the halves in it joined. -/
theorem scanString_escape (rest : List Char) : ∀ (text : Text) {n : ℕ}, text.length < n →
    scanString n (escapes text ++ '"' :: rest) = .ok (merge text, rest) := by
  -- one round of the scan, of a letter that does not begin with a quote
  have hround : ∀ {c : CodePoint} {d : CodePoint} {text l : List Char} {n : ℕ},
      scanLetter (escape c ++ text) = some (d, l) →
      scanString (n + 1) (escape c ++ text) = (scanString n l).map fun r => (d :: r.1, r.2) := by
    intro c d text l n h
    obtain ⟨x, xs, hx, hquote⟩ := escape_cons c
    rw [hx, List.cons_append] at h ⊢
    simp only [scanString, if_neg hquote, h]
  have hquote : ∀ n, scanString (n + 1) ('"' :: rest) = .ok ([], rest) := fun _ => rfl
  intro text
  induction text using merge.induct with
  | case1 c d text hpair ih =>
    rintro (_ | n) hn
    · exact absurd hn (Nat.not_lt_zero _)
    · have hboth := Bool.and_eq_true _ _ ▸ hpair
      have hc := isHigh_iff.mp hboth.1
      have hd := isLow_iff.mp hboth.2
      have hletter := scanLetter_pair hboth.1 hboth.2
        (escapes text ++ '"' :: rest)
      rw [← escape_surrogate (by omega), ← escape_surrogate (by omega)] at hletter
      rw [List.length_cons, List.length_cons] at hn
      rw [escapes_cons, escapes_cons, List.append_assoc, List.append_assoc,
        hround hletter, ih (by omega), merge, if_pos hpair]
      rfl
  | case2 c d text hnot ih =>
    rintro (_ | n) hn
    · exact absurd hn (Nat.not_lt_zero _)
    · have hletter : scanLetter (escape c ++ (escapes (d :: text) ++ '"' :: rest))
          = some (c, escapes (d :: text) ++ '"' :: rest) := by
        refine scanLetter_escape c fun hhigh m l hm => ?_
        rw [escapes_cons, List.append_assoc] at hm
        rw [isLow_of_scanCode hm]
        simpa [hhigh] using hnot
      rw [List.length_cons] at hn
      rw [escapes_cons, List.append_assoc, hround hletter, ih (by omega), merge, if_neg hnot]
      rfl
  | case3 text hshort =>
    rintro (_ | n) hn
    · exact absurd hn (Nat.not_lt_zero _)
    · cases text with
      | nil => exact hquote n
      | cons c text =>
        cases text with
        | cons d text => exact (hshort c d text rfl).elim
        | nil =>
          obtain ⟨n, rfl⟩ := Nat.exists_eq_succ_of_ne_zero (n := n) (by simp at hn; omega)
          have hletter : scanLetter (escape c ++ '"' :: rest) = some (c, '"' :: rest) := by
            refine scanLetter_escape c fun _ m l hm => ?_
            rw [scanCode_none (by decide)] at hm
            cases hm
          rw [escapes_cons, escapes_nil, List.append_nil, hround hletter, hquote]
          rfl

end JsonText
