import Mathlib.Data.List.DropRight

/-!
# Base64 with the URL alphabet

Three bytes are four symbols of six bits each; what is left over at the end is filled up with `=`.
The decoder is the strict one, which takes the symbols of both alphabets. A text whose filling was
taken off, and put back by the length alone, is decoded to the bytes it was made from.
-/

namespace Base64

/-- The symbol of a number below 64. -/
def symbol (n : ℕ) : Char :=
  if n < 26 then Char.ofNat (65 + n)
  else if n < 52 then Char.ofNat (97 + (n - 26))
  else if n < 62 then Char.ofNat (48 + (n - 52))
  else if n = 62 then '-' else '_'

/-- The number of a symbol, in either alphabet. -/
def value (c : Char) : Option ℕ :=
  if c.isUpper then some (c.toNat - 65)
  else if c.isLower then some (c.toNat - 97 + 26)
  else if c.isDigit then some (c.toNat - 48 + 52)
  else if c = '-' ∨ c = '+' then some 62
  else if c = '_' ∨ c = '/' then some 63
  else none

def encode : List UInt8 → List Char
  | a :: b :: c :: rest =>
    symbol (a.toNat / 4) :: symbol (a.toNat % 4 * 16 + b.toNat / 16)
      :: symbol (b.toNat % 16 * 4 + c.toNat / 64) :: symbol (c.toNat % 64) :: encode rest
  | [a, b] =>
    [symbol (a.toNat / 4), symbol (a.toNat % 4 * 16 + b.toNat / 16), symbol (b.toNat % 16 * 4), '=']
  | [a] => [symbol (a.toNat / 4), symbol (a.toNat % 4 * 16), '=', '=']
  | [] => []

/-- The bits that are left over in a last group are dropped. -/
def decode : List Char → Option (List UInt8)
  | [] => some []
  | p :: q :: r :: s :: rest =>
    if r = '=' then
      if s = '=' ∧ rest = [] then do
        let x ← value p
        let y ← value q
        some [UInt8.ofNat (x * 4 + y / 16)]
      else none
    else if s = '=' then
      if rest = [] then do
        let x ← value p
        let y ← value q
        let z ← value r
        some [UInt8.ofNat (x * 4 + y / 16), UInt8.ofNat (y % 16 * 16 + z / 4)]
      else none
    else do
      let x ← value p
      let y ← value q
      let z ← value r
      let w ← value s
      let bytes ← decode rest
      some (UInt8.ofNat (x * 4 + y / 16) :: UInt8.ofNat (y % 16 * 16 + z / 4)
        :: UInt8.ofNat (z % 4 * 64 + w) :: bytes)
  | _ => none

/-- The filling that a length calls for. -/
def filling (n : ℕ) : List Char := List.replicate ((4 - n % 4) % 4) '='

lemma value_symbol {n : ℕ} (h : n < 64) : value (symbol n) = some n := by
  have key : ∀ m : Fin 64, value (symbol m) = some (m : ℕ) := by decide
  exact key ⟨n, h⟩

lemma symbol_ne_fill {n : ℕ} (h : n < 64) : symbol n ≠ '=' := by
  have key : ∀ m : Fin 64, symbol m ≠ '=' := by decide
  exact key ⟨n, h⟩

theorem decode_encode (bytes : List UInt8) : decode (encode bytes) = some bytes := by
  induction bytes using encode.induct with
  | case1 a b c rest ih =>
    have ha : a.toNat < 256 := a.toNat_lt
    have hb : b.toNat < 256 := b.toNat_lt
    have hc : c.toNat < 256 := c.toNat_lt
    have hx := value_symbol (n := a.toNat / 4) (by omega)
    have hy := value_symbol (n := a.toNat % 4 * 16 + b.toNat / 16) (by omega)
    have hz := value_symbol (n := b.toNat % 16 * 4 + c.toNat / 64) (by omega)
    have hw := value_symbol (n := c.toNat % 64) (by omega)
    have hz' := symbol_ne_fill (n := b.toNat % 16 * 4 + c.toNat / 64) (by omega)
    have hw' := symbol_ne_fill (n := c.toNat % 64) (by omega)
    have ea : a.toNat / 4 * 4 + (a.toNat % 4 * 16 + b.toNat / 16) / 16 = a.toNat := by omega
    have eb : (a.toNat % 4 * 16 + b.toNat / 16) % 16 * 16
        + (b.toNat % 16 * 4 + c.toNat / 64) / 4 = b.toNat := by omega
    have ec : (b.toNat % 16 * 4 + c.toNat / 64) % 4 * 64 + c.toNat % 64 = c.toNat := by omega
    simp only [encode, decode, hz', hw', if_false, hx, hy, hz, hw, ih, Option.bind_eq_bind,
      Option.bind_some, ea, eb, ec, UInt8.ofNat_toNat]
  | case2 a b =>
    have ha : a.toNat < 256 := a.toNat_lt
    have hb : b.toNat < 256 := b.toNat_lt
    have hx := value_symbol (n := a.toNat / 4) (by omega)
    have hy := value_symbol (n := a.toNat % 4 * 16 + b.toNat / 16) (by omega)
    have hz := value_symbol (n := b.toNat % 16 * 4) (by omega)
    have hz' := symbol_ne_fill (n := b.toNat % 16 * 4) (by omega)
    have ea : a.toNat / 4 * 4 + (a.toNat % 4 * 16 + b.toNat / 16) / 16 = a.toNat := by omega
    have eb : (a.toNat % 4 * 16 + b.toNat / 16) % 16 * 16 + b.toNat % 16 * 4 / 4 = b.toNat := by
      omega
    simp only [encode, decode, hz', if_false, if_true, hx, hy, hz, Option.bind_eq_bind,
      Option.bind_some, ea, eb, UInt8.ofNat_toNat]
  | case3 a =>
    have ha : a.toNat < 256 := a.toNat_lt
    have hx := value_symbol (n := a.toNat / 4) (by omega)
    have hy := value_symbol (n := a.toNat % 4 * 16) (by omega)
    have ea : a.toNat / 4 * 4 + a.toNat % 4 * 16 / 16 = a.toNat := by omega
    simp only [encode, decode, and_self, if_true, hx, hy, Option.bind_eq_bind, Option.bind_some,
      ea, UInt8.ofNat_toNat]
  | case4 => rfl

/-- What is left when the filling is taken off has no `=`, and its length says what was there. -/
lemma encode_eq_append_filling (bytes : List UInt8) : ∃ text : List Char,
    '=' ∉ text ∧ encode bytes = text ++ filling text.length := by
  induction bytes using encode.induct with
  | case1 a b c rest ih =>
    have ha : a.toNat < 256 := a.toNat_lt
    have hb : b.toNat < 256 := b.toNat_lt
    have hc : c.toNat < 256 := c.toNat_lt
    obtain ⟨text, hn, ht⟩ := ih
    refine ⟨symbol (a.toNat / 4) :: symbol (a.toNat % 4 * 16 + b.toNat / 16)
      :: symbol (b.toNat % 16 * 4 + c.toNat / 64) :: symbol (c.toNat % 64) :: text, ?_, ?_⟩
    · simp only [List.mem_cons, not_or]
      exact ⟨(symbol_ne_fill (by omega)).symm, (symbol_ne_fill (by omega)).symm,
        (symbol_ne_fill (by omega)).symm, (symbol_ne_fill (by omega)).symm, hn⟩
    · have hl : (text.length + 1 + 1 + 1 + 1) % 4 = text.length % 4 := by omega
      simp only [encode, ht, List.cons_append, List.length_cons, filling, hl]
  | case2 a b =>
    have ha : a.toNat < 256 := a.toNat_lt
    have hb : b.toNat < 256 := b.toNat_lt
    refine ⟨[symbol (a.toNat / 4), symbol (a.toNat % 4 * 16 + b.toNat / 16),
      symbol (b.toNat % 16 * 4)], ?_, rfl⟩
    simp only [List.mem_cons, List.not_mem_nil, or_false, not_or]
    exact ⟨(symbol_ne_fill (by omega)).symm, (symbol_ne_fill (by omega)).symm,
      (symbol_ne_fill (by omega)).symm⟩
  | case3 a =>
    have ha : a.toNat < 256 := a.toNat_lt
    refine ⟨[symbol (a.toNat / 4), symbol (a.toNat % 4 * 16)], ?_, rfl⟩
    simp only [List.mem_cons, List.not_mem_nil, or_false, not_or]
    exact ⟨(symbol_ne_fill (by omega)).symm, (symbol_ne_fill (by omega)).symm⟩
  | case4 => exact ⟨[], by simp, rfl⟩

lemma symbol_ascii {n : ℕ} (h : n < 64) : (symbol n).toNat < 128 := by
  have key : ∀ m : Fin 64, (symbol m).toNat < 128 := by decide
  exact key ⟨n, h⟩

/-- What holds of the symbols and of the filling holds of all that is encoded. -/
lemma encode_forall {P : Char → Prop} (hsymbol : ∀ n < 64, P (symbol n)) (hfill : P '=')
    (bytes : List UInt8) : ∀ c ∈ encode bytes, P c := by
  induction bytes using encode.induct with
  | case1 a b c rest ih =>
    have ha : a.toNat < 256 := a.toNat_lt
    have hb : b.toNat < 256 := b.toNat_lt
    have hc : c.toNat < 256 := c.toNat_lt
    rw [encode]
    simp only [List.forall_mem_cons]
    exact ⟨hsymbol _ (by omega), hsymbol _ (by omega), hsymbol _ (by omega), hsymbol _ (by omega), ih⟩
  | case2 a b =>
    have ha : a.toNat < 256 := a.toNat_lt
    have hb : b.toNat < 256 := b.toNat_lt
    rw [encode]
    simp only [List.forall_mem_cons]
    exact ⟨hsymbol _ (by omega), hsymbol _ (by omega), hsymbol _ (by omega), hfill,
      List.forall_mem_nil _⟩
  | case3 a =>
    have ha : a.toNat < 256 := a.toNat_lt
    rw [encode]
    simp only [List.forall_mem_cons]
    exact ⟨hsymbol _ (by omega), hsymbol _ (by omega), hfill, hfill, List.forall_mem_nil _⟩
  | case4 => exact List.forall_mem_nil _

lemma encode_ascii (bytes : List UInt8) : ∀ c ∈ encode bytes, c.toNat < 128 :=
  encode_forall (fun _ h => symbol_ascii h) (by decide) bytes

/-- Taking the filling off. -/
def strip (text : List Char) : List Char := text.rdropWhile (· = '=')

lemma strip_append_filling {text : List Char} (n : ℕ) (h : '=' ∉ text) :
    strip (text ++ List.replicate n '=') = text := by
  induction n with
  | zero =>
    rw [List.replicate_zero, List.append_nil, strip, List.rdropWhile_eq_self_iff]
    intro hl hlast
    exact h ((of_decide_eq_true hlast) ▸ List.getLast_mem hl)
  | succ n ih =>
    rw [List.replicate_succ', ← List.append_assoc, strip, List.rdropWhile_concat_pos _ _ _ (by simp)]
    exact ih

/-- The filling that was taken off is put back by the length of what is left. -/
theorem strip_encode_append_filling (bytes : List UInt8) :
    strip (encode bytes) ++ filling (strip (encode bytes)).length = encode bytes := by
  obtain ⟨text, hn, ht⟩ := encode_eq_append_filling bytes
  have hs : strip (encode bytes) = text := by
    rw [ht]
    exact strip_append_filling _ hn
  rw [hs, ← ht]

lemma strip_subset (text : List Char) : ∀ c ∈ strip text, c ∈ text := fun _ hc =>
  List.IsPrefix.subset ( List.rdropWhile_prefix (· = '=') text) hc

lemma strip_encode_ascii (bytes : List UInt8) : ∀ c ∈ strip (encode bytes), c.toNat < 128 := by
  intro c hc
  exact encode_ascii bytes c (strip_subset _ c hc)

theorem decode_strip_encode (bytes : List UInt8) :
    decode (strip (encode bytes) ++ filling (strip (encode bytes)).length) = some bytes := by
  rw [strip_encode_append_filling]
  exact decode_encode bytes

/-! ## The lenient decoder -/

/-- The decoder that is not strict, at one of the four places in a group, with the bits that are left
over and the `=` since the last symbol. It skips what is no symbol, and stops at a filling that ends
a group. -/
def lenientFrom : ℕ → ℕ → ℕ → List Char → Option (List UInt8)
  | place, _, _, [] => if place = 0 then some [] else none
  | place, left, pads, c :: text =>
    if c = '=' then
      if 2 ≤ place then
        if 4 ≤ place + (pads + 1) then some [] else lenientFrom place left (pads + 1) text
      else lenientFrom place left pads text
    else
      match value c with
      | none => lenientFrom place left pads text
      | some v =>
        if place = 0 then lenientFrom 1 v 0 text
        else if place = 1 then
          (lenientFrom 2 (v % 16) 0 text).map (UInt8.ofNat (left * 4 + v / 16) :: ·)
        else if place = 2 then
          (lenientFrom 3 (v % 4) 0 text).map (UInt8.ofNat (left * 16 + v / 4) :: ·)
        else (lenientFrom 0 0 0 text).map (UInt8.ofNat (left * 64 + v) :: ·)

/-- `base64.urlsafe_b64decode` of a text in ASCII. -/
def lenient (text : List Char) : Option (List UInt8) := lenientFrom 0 0 0 text

section
variable {n left pads : ℕ} (text : List Char)

lemma lenientFrom_first (h : n < 64) :
    lenientFrom 0 left pads (symbol n :: text) = lenientFrom 1 n 0 text := by
  simp only [lenientFrom, if_neg (symbol_ne_fill h), value_symbol h, if_true]

lemma lenientFrom_second (h : n < 64) : lenientFrom 1 left pads (symbol n :: text)
    = (lenientFrom 2 (n % 16) 0 text).map (UInt8.ofNat (left * 4 + n / 16) :: ·) := by
  simp only [lenientFrom, if_neg (symbol_ne_fill h), value_symbol h]
  rfl

lemma lenientFrom_third (h : n < 64) : lenientFrom 2 left pads (symbol n :: text)
    = (lenientFrom 3 (n % 4) 0 text).map (UInt8.ofNat (left * 16 + n / 4) :: ·) := by
  simp only [lenientFrom, if_neg (symbol_ne_fill h), value_symbol h]
  rfl

lemma lenientFrom_fourth (h : n < 64) : lenientFrom 3 left pads (symbol n :: text)
    = (lenientFrom 0 0 0 text).map (UInt8.ofNat (left * 64 + n) :: ·) := by
  simp only [lenientFrom, if_neg (symbol_ne_fill h), value_symbol h]
  rfl

end

theorem lenient_encode (bytes : List UInt8) : lenient (encode bytes) = some bytes := by
  rw [lenient]
  induction bytes using encode.induct with
  | case1 a b c rest ih =>
    have ha : a.toNat < 256 := a.toNat_lt
    have hb : b.toNat < 256 := b.toNat_lt
    have hc : c.toNat < 256 := c.toNat_lt
    have ea : a.toNat / 4 * 4 + (a.toNat % 4 * 16 + b.toNat / 16) / 16 = a.toNat := by omega
    have eb : (a.toNat % 4 * 16 + b.toNat / 16) % 16 * 16
        + (b.toNat % 16 * 4 + c.toNat / 64) / 4 = b.toNat := by omega
    have ec : (b.toNat % 16 * 4 + c.toNat / 64) % 4 * 64 + c.toNat % 64 = c.toNat := by omega
    rw [encode, lenientFrom_first _ (by omega), lenientFrom_second _ (by omega),
      lenientFrom_third _ (by omega), lenientFrom_fourth _ (by omega), ih, ea, eb, ec]
    simp only [UInt8.ofNat_toNat]
    rfl
  | case2 a b =>
    have ha : a.toNat < 256 := a.toNat_lt
    have hb : b.toNat < 256 := b.toNat_lt
    have ea : a.toNat / 4 * 4 + (a.toNat % 4 * 16 + b.toNat / 16) / 16 = a.toNat := by omega
    have eb : (a.toNat % 4 * 16 + b.toNat / 16) % 16 * 16 + b.toNat % 16 * 4 / 4 = b.toNat := by
      omega
    rw [encode, lenientFrom_first _ (by omega), lenientFrom_second _ (by omega),
      lenientFrom_third _ (by omega), ea, eb]
    simp only [UInt8.ofNat_toNat]
    rfl
  | case3 a =>
    have ha : a.toNat < 256 := a.toNat_lt
    have ea : a.toNat / 4 * 4 + a.toNat % 4 * 16 / 16 = a.toNat := by omega
    rw [encode, lenientFrom_first _ (by omega), lenientFrom_second _ (by omega), ea]
    simp only [UInt8.ofNat_toNat]
    rfl
  | case4 => rfl

theorem lenient_strip_encode (bytes : List UInt8) :
    lenient (strip (encode bytes) ++ filling (strip (encode bytes)).length) = some bytes := by
  rw [strip_encode_append_filling]
  exact lenient_encode bytes

end Base64
