import RecoveryOS.Lib.JsonText

/-!
# The scanner of JSON values

`loads` is the scanner of Python's `json`: beyond the grammar it takes `NaN` and the infinities, it
refuses integers of more digits than a conversion is made of, and it raises where containers are nested
deeper than it may recurse, which it notices before anything behind the bracket. Of a key that is there
twice a lookup finds the last value.

Every part of the scanner takes something off the text, so it comes to an end (`loads_ne_spent`).
-/

namespace JsonText

/-- A value, as it is read; a `float` by the number that is written, before it is rounded. -/
inductive Value where
  | null
  | bool (b : Bool)
  | int (n : ℤ)
  | float (q : ℚ)
  | nan
  | infinity (negative : Bool)
  | text (t : Text)
  | array (items : List Value)
  | object (fields : List (Text × Value))

/-! ## Numbers and literals -/

def isSpace (c : Char) : Bool := c = ' ' || c = '\t' || c = '\n' || c = '\r'

def skip (text : List Char) : List Char := text.dropWhile isSpace

/-- A point with digits behind it. -/
def scanFraction : List Char → Option (List Char) × List Char
  | '.' :: text =>
    if text.takeWhile Char.isDigit = [] then (none, '.' :: text)
    else (some (text.takeWhile Char.isDigit), text.dropWhile Char.isDigit)
  | text => (none, text)

/-- An `e` with digits behind it. -/
def scanExponent : List Char → Option ℤ × List Char
  | [] => (none, [])
  | e :: text =>
    if e = 'e' ∨ e = 'E' then
      let digits := if text.head? = some '-' ∨ text.head? = some '+' then text.tail else text
      let number : ℤ := Nat.ofDigitChars 10 (digits.takeWhile Char.isDigit) 0
      if digits.takeWhile Char.isDigit = [] then (none, e :: text)
      else (some (if text.head? = some '-' then -number else number),
        digits.dropWhile Char.isDigit)
    else (none, e :: text)

/-- The digits of an integer are at most this many. -/
def maxStrDigits : ℕ := 4300

/-- What the parts of a number are converted to. -/
def numberValue (negative : Bool) (whole : List Char) :
    Option (List Char) → Option ℤ → Except ScanError Value
  | none, none =>
    if maxStrDigits < whole.length then .error .malformed
    else
      let number : ℤ := Nat.ofDigitChars 10 whole 0
      .ok (.int (if negative then -number else number))
  | fraction, exponent =>
    let digits := fraction.getD []
    let number : ℚ := (Nat.ofDigitChars 10 (whole ++ digits) 0 : ℕ)
    let scaled := number * 10 ^ (exponent.getD 0 - digits.length)
    .ok (.float (if negative then -scaled else scaled))

/-- A number after its sign. -/
def scanUnsigned (negative : Bool) : List Char → Scan Value
  | [] => .error .malformed
  | c :: text =>
    if c.isDigit then
      let whole := if c = '0' then ['0'] else c :: text.takeWhile Char.isDigit
      let rest := if c = '0' then text else text.dropWhile Char.isDigit
      let (fraction, rest) := scanFraction rest
      let (exponent, rest) := scanExponent rest
      (numberValue negative whole fraction exponent).map fun v => (v, rest)
    else .error .malformed

def scanNumber : List Char → Scan Value
  | '-' :: text => scanUnsigned true text
  | text => scanUnsigned false text

def literals : List (List Char × Value) :=
  [(['n', 'u', 'l', 'l'], .null), (['t', 'r', 'u', 'e'], .bool true),
    (['f', 'a', 'l', 's', 'e'], .bool false), (['N', 'a', 'N'], .nan),
    (['I', 'n', 'f', 'i', 'n', 'i', 't', 'y'], .infinity false),
    (['-', 'I', 'n', 'f', 'i', 'n', 'i', 't', 'y'], .infinity true)]

/-- What is no text and no container. -/
def scanPlain (text : List Char) : Scan Value :=
  match literals.find? fun l => l.1.isPrefixOf text with
  | some (name, v) => .ok (v, text.drop name.length)
  | none => scanNumber text

/-! ## Values -/

mutual

/-- One value, with `depth` more containers that may be opened. -/
def scanOnce : ℕ → ℕ → List Char → Scan Value
  | 0, _, _ => .error .spent
  | _ + 1, _, [] => .error .malformed
  | n + 1, depth, c :: text =>
    if c = '"' then (scanString n text).map fun r => (.text r.1, r.2)
    else if c = '\x7b' then
      match depth with
      | 0 => .error .recursion
      | depth + 1 =>
        if (skip text).head? = some '\x7d' then .ok (.object [], (skip text).tail)
        else (scanMembers n depth (skip text)).map fun r => (.object r.1, r.2)
    else if c = '[' then
      match depth with
      | 0 => .error .recursion
      | depth + 1 =>
        if (skip text).head? = some ']' then .ok (.array [], (skip text).tail)
        else (scanItems n depth (skip text)).map fun r => (.array r.1, r.2)
    else scanPlain (c :: text)

/-- The items of an array, with the bracket behind them. -/
def scanItems : ℕ → ℕ → List Char → Except ScanError (List Value × List Char)
  | 0, _, _ => .error .spent
  | n + 1, depth, text => do
    let (v, rest) ← (scanOnce n depth text : Except ScanError (Value × List Char))
    match skip rest with
    | ']' :: rest => .ok ([v], rest)
    | ',' :: rest => (scanItems n depth (skip rest)).map fun r => (v :: r.1, r.2)
    | _ => .error .malformed

/-- The members of an object, with the bracket behind them. -/
def scanMembers : ℕ → ℕ → List Char → Except ScanError (List (Text × Value) × List Char)
  | 0, _, _ => .error .spent
  | n + 1, depth, text =>
    match text with
    | '"' :: text => do
      let (name, rest) ← scanString n text
      match skip rest with
      | ':' :: rest => do
        let (v, rest) ← scanOnce n depth (skip rest)
        match skip rest with
        | '\x7d' :: rest => .ok ([(name, v)], rest)
        | ',' :: rest => (scanMembers n depth (skip rest)).map fun r => ((name, v) :: r.1, r.2)
        | _ => .error .malformed
      | _ => .error .malformed
    | _ => .error .malformed

end

/-- `json.loads`, with `depth` containers that may be opened inside one another. -/
def loads (depth : ℕ) (text : List Char) : Except ScanError Value := do
  let (v, rest) ← scanOnce (2 * text.length + 1) depth (skip text)
  if skip rest = [] then .ok v else .error .malformed

/-- `payload.get(name)`. -/
def Value.get (fields : List (Text × Value)) (name : Text) : Option Value :=
  (fields.reverse.find? fun f => f.1 = name).map (·.2)

/-! ## Every part takes something off the text -/

/-- The scan did not run out of rounds, and what it left of the text is shorter. -/
def Consumes {α : Type} (text : List Char) : Except ScanError (α × List Char) → Prop
  | .error e => e ≠ .spent
  | .ok r => r.2.length < text.length

section
variable {α β : Type} {text text' : List Char} {r : Except ScanError (α × List Char)}

lemma Consumes.mono (h : Consumes text r) (hle : text.length ≤ text'.length) : Consumes text' r := by
  cases r with
  | error e => exact h
  | ok p => exact lt_of_lt_of_le h hle

lemma Consumes.map (h : Consumes text r) (f : α → β) :
    Consumes text (r.map fun p => (f p.1, p.2)) := by
  cases r with
  | error e => exact h
  | ok p => exact h

lemma Consumes.bind {f : α × List Char → Except ScanError (β × List Char)} (h : Consumes text r)
    (hf : ∀ v rest, rest.length < text.length → Consumes text (f (v, rest))) :
    Consumes text (r >>= f) := by
  cases r with
  | error e => exact h
  | ok p => exact hf p.1 p.2 h

lemma malformed_consumes : Consumes text (.error .malformed : Except ScanError (α × List Char)) := by
  intro h
  cases h

end

lemma length_skip_le (text : List Char) : (skip text).length ≤ text.length :=
  (List.dropWhile_suffix _).length_le

lemma scanCode_length {text rest : List Char} {n : ℕ} (h : scanCode text = some (n, rest)) :
    rest.length < text.length := by
  unfold scanCode at h
  split at h
  · simp only [Option.bind_eq_bind, Option.bind_eq_some_iff, Option.some.injEq, Prod.mk.injEq] at h
    obtain ⟨_, -, _, -, _, -, _, -, -, rfl⟩ := h
    simp only [List.length_cons]
    omega
  · cases h

lemma scanLetter_length {text rest : List Char} {c : CodePoint}
    (h : scanLetter text = some (c, rest)) : rest.length < text.length := by
  unfold scanLetter at h
  cases hcode : scanCode text with
  | some r =>
    obtain ⟨n, rest₁⟩ := r
    have hlen := scanCode_length hcode
    simp only [hcode] at h
    split_ifs at h with hhigh
    · cases hnext : scanCode rest₁ with
      | some r' =>
        obtain ⟨m, rest₂⟩ := r'
        have hlen' := scanCode_length hnext
        simp only [hnext] at h
        split_ifs at h
        · obtain rfl := congrArg Prod.snd (Option.some.inj h)
          exact hlen'.trans hlen
        · obtain rfl := congrArg Prod.snd (Option.some.inj h)
          exact hlen
      | none =>
        simp only [hnext] at h
        obtain rfl := congrArg Prod.snd (Option.some.inj h)
        exact hlen
    · obtain rfl := congrArg Prod.snd (Option.some.inj h)
      exact hlen
  | none =>
    simp only [hcode] at h
    split at h
    · obtain ⟨n, -, hn⟩ := Option.map_eq_some_iff.mp h
      obtain rfl := congrArg Prod.snd hn
      simp only [List.length_cons]
      omega
    · split_ifs at h
      obtain rfl := congrArg Prod.snd (Option.some.inj h)
      exact Nat.lt_succ_self _
    · cases h

lemma scanString_consumes : ∀ {n : ℕ} {text : List Char}, text.length < n →
    Consumes text (scanString n text)
  | n + 1, [], _ => malformed_consumes
  | n + 1, c :: text, h => by
    rw [List.length_cons] at h
    unfold scanString
    split_ifs
    · exact Nat.lt_succ_self _
    · cases hletter : scanLetter (c :: text) with
      | none => exact malformed_consumes
      | some r =>
        have hlen := scanLetter_length hletter
        rw [List.length_cons] at hlen
        have hrest : Consumes r.2 (scanString n r.2) := scanString_consumes (by omega)
        refine (hrest.map (r.1 :: ·)).mono ?_
        rw [List.length_cons]
        omega

lemma scanFraction_length (text : List Char) : (scanFraction text).2.length ≤ text.length := by
  unfold scanFraction
  split
  · split_ifs
    · exact le_refl _
    · exact (List.dropWhile_suffix _).length_le.trans (Nat.le_succ _)
  · exact le_refl _

lemma scanExponent_length (text : List Char) : (scanExponent text).2.length ≤ text.length := by
  unfold scanExponent
  split
  · exact le_refl _
  · rename_i e text
    have htail : text.tail.length ≤ text.length := by simp
    dsimp only
    split_ifs
    all_goals first
      | exact le_refl _
      | exact (List.dropWhile_suffix _).length_le.trans (htail.trans (Nat.le_succ _))
      | exact (List.dropWhile_suffix _).length_le.trans (Nat.le_succ _)

lemma numberValue_consumes {text rest : List Char} (h : rest.length < text.length)
    (negative : Bool) (whole : List Char) (fraction : Option (List Char)) (exponent : Option ℤ) :
    Consumes text ((numberValue negative whole fraction exponent).map fun v => (v, rest)) := by
  unfold numberValue
  split
  · by_cases hlong : maxStrDigits < whole.length
    · rw [if_pos hlong]
      exact malformed_consumes
    · rw [if_neg hlong]
      exact h
  · exact h

lemma scanUnsigned_consumes (negative : Bool) (text : List Char) :
    Consumes text (scanUnsigned negative text) := by
  unfold scanUnsigned
  split
  · exact malformed_consumes
  · rename_i c text
    have hparts : ∀ rest : List Char, rest.length ≤ text.length →
        (scanExponent (scanFraction rest).2).2.length < (c :: text).length := fun rest hrest =>
      Nat.lt_succ_of_le
        (((scanExponent_length _).trans (scanFraction_length rest)).trans hrest)
    dsimp only
    split_ifs with hdigit hzero
    · exact numberValue_consumes (hparts text le_rfl) _ _ _ _
    · exact numberValue_consumes (hparts _ (List.dropWhile_suffix _).length_le) _ _ _ _
    · exact malformed_consumes

lemma scanNumber_consumes (text : List Char) : Consumes text (scanNumber text) := by
  unfold scanNumber
  split
  · exact (scanUnsigned_consumes true _).mono (Nat.le_succ _)
  · exact scanUnsigned_consumes false _

lemma scanPlain_consumes (text : List Char) : Consumes text (scanPlain text) := by
  unfold scanPlain
  cases hfound : literals.find? fun l => l.1.isPrefixOf text with
  | none => exact scanNumber_consumes text
  | some l =>
    have hname : ∀ l ∈ literals, 0 < l.1.length := by simp [literals]
    have hpositive := hname l (List.mem_of_find?_eq_some hfound)
    have hprefix : l.1 <+: text := List.isPrefixOf_iff_prefix.mp (by simpa using List.find?_some hfound)
    have hle := hprefix.length_le
    show (text.drop l.1.length).length < text.length
    rw [List.length_drop]
    omega

/-- The parts of the scan, each with the rounds that it may take. -/
theorem scan_consumes (n : ℕ) :
    (∀ depth text, 2 * text.length + 1 ≤ n → Consumes text (scanOnce n depth text)) ∧
    (∀ depth text, 2 * text.length + 2 ≤ n → Consumes text (scanItems n depth text)) ∧
    ∀ depth text, 2 * text.length + 2 ≤ n → Consumes text (scanMembers n depth text) := by
  induction n with
  | zero =>
    refine ⟨fun _ _ h => ?_, fun _ _ h => ?_, fun _ _ h => ?_⟩
    all_goals omega
  | succ n ih =>
    obtain ⟨honce, hitems, hmembers⟩ := ih
    refine ⟨fun depth text h => ?_, fun depth text h => ?_, fun depth text h => ?_⟩
    · cases text with
      | nil =>
        unfold scanOnce
        exact malformed_consumes
      | cons c text =>
        have hskip := length_skip_le text
        have htail : (skip text).tail.length ≤ (skip text).length := by simp
        rw [List.length_cons] at h
        unfold scanOnce
        by_cases hquote : c = '"'
        · rw [if_pos hquote]
          exact ((scanString_consumes (by omega)).map Value.text).mono (Nat.le_succ _)
        · rw [if_neg hquote]
          by_cases hbrace : c = '\x7b'
          · rw [if_pos hbrace]
            cases depth with
            | zero => exact fun he => by cases he
            | succ depth =>
              dsimp only
              split_ifs
              · exact Nat.lt_succ_of_le (htail.trans hskip)
              · exact ((hmembers depth (skip text) (by omega)).map Value.object).mono
                  (hskip.trans (Nat.le_succ _))
          · rw [if_neg hbrace]
            by_cases hbracket : c = '['
            · rw [if_pos hbracket]
              cases depth with
              | zero => exact fun he => by cases he
              | succ depth =>
                dsimp only
                split_ifs
                · exact Nat.lt_succ_of_le (htail.trans hskip)
                · exact ((hitems depth (skip text) (by omega)).map Value.array).mono
                    (hskip.trans (Nat.le_succ _))
            · rw [if_neg hbracket]
              exact scanPlain_consumes _
    · unfold scanItems
      refine (honce depth text (by omega)).bind fun v rest hrest => ?_
      have hskip := length_skip_le rest
      dsimp only
      split
      · rename_i l hl
        rw [hl, List.length_cons] at hskip
        show l.length < text.length
        omega
      · rename_i l hl
        have hskip' := length_skip_le l
        rw [hl, List.length_cons] at hskip
        exact ((hitems depth (skip l) (by omega)).map (v :: ·)).mono (by omega)
      · exact malformed_consumes
    · unfold scanMembers
      split
      · rename_i text
        rw [List.length_cons] at h
        refine Consumes.bind ((scanString_consumes (by omega)).mono (Nat.le_succ _))
          fun name rest hrest => ?_
        rw [List.length_cons] at hrest
        have hskip := length_skip_le rest
        dsimp only
        split
        · rename_i l hl
          have hskip' := length_skip_le l
          rw [hl, List.length_cons] at hskip
          refine Consumes.bind ((honce depth (skip l) (by omega)).mono ?_) fun v rest' hrest' => ?_
          · rw [List.length_cons]
            omega
          · have hskip'' := length_skip_le rest'
            rw [List.length_cons] at hrest'
            dsimp only
            split
            · rename_i k hk
              rw [hk, List.length_cons] at hskip''
              show k.length < ('"' :: text).length
              rw [List.length_cons]
              omega
            · rename_i k hk
              have hskip₃ := length_skip_le k
              rw [hk, List.length_cons] at hskip''
              exact ((hmembers depth (skip k) (by omega)).map ((name, v) :: ·)).mono
                (by rw [List.length_cons]; omega)
            · exact malformed_consumes
        · exact malformed_consumes
      · exact malformed_consumes

/-- A scan comes to an end. -/
theorem loads_ne_spent (depth : ℕ) (text : List Char) : loads depth text ≠ .error .spent := by
  have hskip := length_skip_le text
  have hscan := (scan_consumes (2 * text.length + 1)).1 depth (skip text) (by omega)
  unfold loads
  cases hr : scanOnce (2 * text.length + 1) depth (skip text) with
  | error e =>
    rw [hr] at hscan
    exact fun h => hscan (Except.error.inj h)
  | ok r =>
    intro h
    change (if skip r.2 = [] then Except.ok r.1 else Except.error ScanError.malformed)
      = Except.error ScanError.spent at h
    split_ifs at h
    cases h

/-! ## Objects that were written -/

/-- The text of a value is scanned as it, from `bound` rounds on, whatever ends a member. -/
structure Scans (bound depth : ℕ) (value : List Char) (v : Value) : Prop where
  once : ∀ n ≥ bound, ∀ c rest, (c = ',' ∨ c = '\x7d') →
    scanOnce n depth (value ++ c :: rest) = .ok (v, c :: rest)
  head : ∃ c l, value = c :: l ∧ isSpace c = false

lemma skip_cons {c : Char} (h : isSpace c = false) (l : List Char) : skip (c :: l) = c :: l := by
  rw [skip, List.dropWhile_cons, h]
  rfl

lemma scans_dumpsText (depth : ℕ) (text : Text) :
    Scans (text.length + 2) depth (dumpsText text) (.text (merge text)) where
  once n hn c rest _ := by
    obtain ⟨n, rfl⟩ := Nat.exists_eq_add_of_le hn
    have hread := scanString_escape (c :: rest) text (n := text.length + 1 + n) (by omega)
    rw [dumpsText, List.cons_append, List.append_assoc, List.singleton_append,
      show text.length + 2 + n = text.length + 1 + n + 1 by omega]
    simp only [scanOnce, if_true, hread]
    rfl
  head := ⟨_, _, rfl, rfl⟩

/-- A member, of its name and the text of its value. -/
def memberText (m : Text × List Char) : List Char := dumpsText m.1 ++ ':' :: m.2

/-- An object, without spaces. -/
def objectText (members : List (Text × List Char)) : List Char :=
  '\x7b' :: ([','].intercalate (members.map memberText) ++ ['\x7d'])

section
variable {bound depth n : ℕ} {name : Text} {value : List Char} {v : Value}

lemma ok_bind {ε α β : Type} (a : α) (f : α → Except ε β) : (Except.ok a >>= f) = f a := rfl

/-- One member, up to what ends it. -/
lemma scanMembers_member (hname : name.length < bound) (hv : Scans bound depth value v)
    (hn : bound ≤ n) {c : Char} (hc : c = ',' ∨ c = '\x7d') (rest : List Char) :
    scanMembers (n + 1) depth (memberText (name, value) ++ c :: rest) =
      if c = '\x7d' then .ok ([(merge name, v)], rest)
      else (scanMembers n depth (skip rest)).map fun r => ((merge name, v) :: r.1, r.2) := by
  have hstring := scanString_escape (':' :: (value ++ c :: rest)) name (n := n) (by omega)
  have honce := hv.once n hn c rest hc
  have hvalue : skip (value ++ c :: rest) = value ++ c :: rest := by
    obtain ⟨d, l, hd, hspace⟩ := hv.head
    rw [hd, List.cons_append, skip_cons hspace]
  have htext : memberText (name, value) ++ c :: rest
      = '"' :: (escapes name ++ '"' :: ':' :: (value ++ c :: rest)) := by
    simp only [memberText, dumpsText, List.cons_append, List.append_assoc, List.nil_append]
  have hcolon : skip (':' :: (value ++ c :: rest)) = ':' :: (value ++ c :: rest) := skip_cons rfl _
  rw [htext]
  simp only [scanMembers, hstring, ok_bind, hcolon, hvalue, honce]
  rcases hc with rfl | rfl
  · rw [skip_cons rfl, if_neg (by decide)]
    rfl
  · rw [skip_cons rfl, if_pos rfl]
    rfl

end

/-- A member, with the value that its text is scanned as. -/
structure Member where
  name : Text
  value : List Char
  scanned : Value

namespace Member

/-- Its text is scanned, within as many rounds. -/
def Fits (bound depth : ℕ) (m : Member) : Prop :=
  m.name.length < bound ∧ Scans bound depth m.value m.scanned

def text (m : Member) : List Char := memberText (m.name, m.value)

def entry (m : Member) : Text × Value := (merge m.name, m.scanned)

end Member

/-- The members of an object are read back, their names with the halves in them joined. -/
theorem scanMembers_text {bound depth : ℕ} (rest : List Char) :
    ∀ (members : List Member) {n : ℕ}, members ≠ [] → (∀ m ∈ members, m.Fits bound depth) →
      bound + members.length ≤ n →
      scanMembers n depth ([','].intercalate (members.map Member.text) ++ '\x7d' :: rest)
        = .ok (members.map Member.entry, rest)
  | [m], n, _, hall, hn => by
    obtain ⟨hname, hscans⟩ := hall m List.mem_cons_self
    rw [List.length_singleton] at hn
    obtain ⟨n, rfl⟩ := Nat.exists_eq_add_of_le hn
    rw [List.map_singleton, List.intercalate_singleton, show bound + 1 + n = bound + n + 1 by omega,
      Member.text, scanMembers_member hname hscans (Nat.le_add_right _ _) (.inr rfl), if_pos rfl]
    rfl
  | m :: m' :: members, n, _, hall, hn => by
    obtain ⟨hname, hscans⟩ := hall m List.mem_cons_self
    rw [List.length_cons] at hn
    obtain ⟨n, rfl⟩ := Nat.exists_eq_add_of_le hn
    have ih := scanMembers_text rest (m' :: members) (n := bound + (m' :: members).length + n)
      (by simp) (fun x hx => hall x (List.mem_cons_of_mem m hx)) (by omega)
    have hskip : skip ([','].intercalate ((m' :: members).map Member.text) ++ '\x7d' :: rest)
        = [','].intercalate ((m' :: members).map Member.text) ++ '\x7d' :: rest := by
      cases members with
      | nil => exact skip_cons rfl _
      | cons m'' members => exact skip_cons rfl _
    have htext : [','].intercalate ((m :: m' :: members).map Member.text) ++ '\x7d' :: rest
        = memberText (m.name, m.value) ++ ',' ::
          ([','].intercalate ((m' :: members).map Member.text) ++ '\x7d' :: rest) := by
      simp [List.map_cons, List.intercalate_cons_cons, Member.text]
    rw [htext, show bound + ((m' :: members).length + 1) + n
        = bound + (m' :: members).length + n + 1 by omega,
      scanMembers_member hname hscans (by omega) (.inl rfl), if_neg (by decide), hskip, ih]
    rfl

lemma scans_one (depth : ℕ) : Scans 1 depth ['1'] (.int 1) where
  once n hn c rest hc := by
    obtain ⟨n, rfl⟩ := Nat.exists_eq_add_of_le' hn
    rcases hc with rfl | rfl
    · rfl
    · rfl
  head := ⟨_, _, rfl, rfl⟩

lemma Scans.mono {bound bound' depth : ℕ} {value : List Char} {v : Value}
    (h : Scans bound depth value v) (hle : bound ≤ bound') : Scans bound' depth value v :=
  ⟨fun n hn => h.once n (hle.trans hn), h.head⟩

/-- An object that was written is loaded, if one container may be opened. -/
theorem loads_objectText {bound depth : ℕ} {members : List Member} (hne : members ≠ [])
    (hall : ∀ m ∈ members, m.Fits bound depth)
    (hbound : bound + members.length
      ≤ 2 * (objectText (members.map fun m => (m.name, m.value))).length) :
    loads (depth + 1) (objectText (members.map fun m => (m.name, m.value)))
      = .ok (.object (members.map Member.entry)) := by
  have htext : objectText (members.map fun m => (m.name, m.value))
      = '\x7b' :: ([','].intercalate (members.map Member.text) ++ ['\x7d']) := by
    rw [objectText, List.map_map]
    rfl
  rw [htext] at hbound ⊢
  have hmembers := scanMembers_text [] members hne hall hbound
  have hskip : skip ([','].intercalate (members.map Member.text) ++ ['\x7d'])
      = [','].intercalate (members.map Member.text) ++ ['\x7d'] := by
    cases members with
    | nil => exact absurd rfl hne
    | cons m members => cases members <;> exact skip_cons rfl _
  have hhead : ([','].intercalate (members.map Member.text) ++ ['\x7d']).head? ≠ some '\x7d' := by
    cases members with
    | nil => exact absurd rfl hne
    | cons m members => cases members <;> exact fun h => absurd (Option.some.inj h) (by decide)
  rw [loads, skip_cons rfl]
  simp only [scanOnce, hskip, if_neg hhead, hmembers]
  rfl

end JsonText
