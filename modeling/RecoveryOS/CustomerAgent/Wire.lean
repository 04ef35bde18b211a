import RecoveryOS.Lib.Base64
import RecoveryOS.Lib.Reader
import RecoveryOS.CustomerAgent.Models

/-!
# The text of a model on the wire

A model in `mode="json"` is an object of texts and integers, and the signed envelope one more object
around it. This is how `json.dumps` writes them, without spaces, and how `json.loads` reads what was
written. All of it is read back, over all of Unicode, so the text of an object determines its fields.
-/

namespace RecoveryOS.CustomerAgent

open Read
open JsonText (hexValue hexValue_hexDigit unescape)
open RecoveryOS.A2A (jsonEscape jsonText)

/-! ## Texts -/

/-- One character of a text; half of a surrogate pair is none. -/
def readLetter : Reader Char Char
  | '\\' :: 'u' :: a :: b :: c :: d :: rest => do
    let n := ((← hexValue a) * 16 + (← hexValue b)) * 256 + (← hexValue c) * 16 + (← hexValue d)
    if n.isValidChar then some (Char.ofNat n, rest) else none
  | '\\' :: c :: rest => (unescape c).map fun n => (Char.ofNat n, rest)
  | c :: rest => if c = '\\' ∨ c.toNat < 32 then none else some (c, rest)
  | [] => none

lemma readLetter_escape : Back readLetter jsonEscape fun _ => True := by
  intro c rest _
  unfold jsonEscape
  split_ifs with h₁ h₂ h₃ h₄ h₅ h₆ h₇ h₈
  · subst h₁
    rfl
  · subst h₂
    rfl
  · subst h₃
    rfl
  · subst h₄
    rfl
  · subst h₅
    rfl
  · have hc : c = Char.ofNat 12 := by rw [← h₆, Char.ofNat_toNat]
    subst hc
    rfl
  · have hc : c = Char.ofNat 8 := by rw [← h₇, Char.ofNat_toNat]
    subst hc
    rfl
  · have hn : (0 * 16 + 0) * 256 + c.toNat / 16 * 16 + c.toNat % 16 = c.toNat := by omega
    have hvalid : c.toNat.isValidChar := c.valid
    have h0 : hexValue '0' = some 0 := rfl
    have hhi := hexValue_hexDigit (n := c.toNat / 16) (by omega)
    have hlo := hexValue_hexDigit (n := c.toNat % 16) (by omega)
    simp only [List.cons_append, List.nil_append, readLetter, h0, hhi, hlo, Option.bind_eq_bind,
      Option.bind_some, hn, hvalid, if_true, Char.ofNat_toNat]
  · rw [List.singleton_append, readLetter]
    · rw [if_neg (not_or.mpr ⟨h₂, h₈⟩)]
    · rintro a b c d r rfl
      exact absurd rfl h₂
    · rintro a r rfl
      exact absurd rfl h₂

lemma jsonEscape_cons (c : Char) : ∃ d l, jsonEscape c = d :: l ∧ d ≠ '"' := by
  unfold jsonEscape
  split_ifs with h₁
  all_goals first
    | exact ⟨_, _, rfl, h₁⟩
    | exact ⟨_, _, rfl, by decide⟩

/-- A text with its quotes. -/
def readText : Reader Char String
  | '"' :: rest =>
    (upTo readLetter '"' (rest.length + 1) rest).map fun r => (String.ofList r.1, r.2)
  | _ => none

lemma toList_jsonText (s : String) :
    (jsonText s).toList = '"' :: (s.toList.flatMap jsonEscape ++ ['"']) := by
  simp [jsonText]

theorem readText_jsonText : Back readText (fun s => (jsonText s).toList) fun _ => True := by
  intro s rest _
  have hne : ∀ c, jsonEscape c ≠ [] := by
    intro c
    obtain ⟨d, l, h, -⟩ := jsonEscape_cons c
    simp [h]
  have hlen := length_le_flatMap hne s.toList
  have hread := upTo_flatMap readLetter_escape jsonEscape_cons rest s.toList
    ((s.toList.flatMap jsonEscape ++ '"' :: rest).length + 1)
    (by rw [List.length_append]; omega)
  show readText ((jsonText s).toList ++ rest) = some (s, rest)
  rw [toList_jsonText, List.cons_append, List.append_assoc, List.singleton_append]
  simp only [readText, hread, Option.map_some, String.ofList_toList]

/-! ## Integers -/

def readNat : Reader Char ℕ := fun text =>
  if text.takeWhile Char.isDigit = [] then none
  else some (Nat.ofDigitChars 10 (text.takeWhile Char.isDigit) 0, text.dropWhile Char.isDigit)

def readInt : Reader Char ℤ
  | '-' :: text => (readNat text).map fun r => (-(r.1 : ℤ), r.2)
  | text => (readNat text).map fun r => ((r.1 : ℤ), r.2)

/-- What may follow an integer. -/
def EndsInt (rest : List Char) : Prop := ∃ c l, rest = c :: l ∧ c.isDigit = false

lemma readNat_toString : Back readNat (fun n => (toString n).toList) EndsInt := by
  rintro n _ ⟨c, l, rfl, hc⟩
  have hs : (toString n).toList = Nat.toDigits 10 n := by simp [Nat.toString_eq_repr, Nat.repr]
  have hall : ∀ c ∈ Nat.toDigits 10 n, c.isDigit = true := fun c h =>
    Nat.isDigit_of_mem_toDigits (by decide) (by decide) h
  show readNat ((toString n).toList ++ c :: l) = some (n, c :: l)
  have htake : (Nat.toDigits 10 n ++ c :: l).takeWhile Char.isDigit = Nat.toDigits 10 n := by
    rw [List.takeWhile_append_of_pos hall, List.takeWhile_cons, hc]
    simp
  have hdrop : (Nat.toDigits 10 n ++ c :: l).dropWhile Char.isDigit = c :: l := by
    rw [List.dropWhile_append_of_pos hall, List.dropWhile_cons, hc]
    simp
  rw [hs, readNat, htake, hdrop, if_neg Nat.toDigits_ne_nil, Nat.ofDigitChars_ten_toDigits]

lemma toString_cons (n : ℤ) : ∃ c l, (toString n).toList = c :: l ∧ (c.isDigit = true ∨ c = '-') := by
  cases n with
  | ofNat k =>
    have hs : (toString (Int.ofNat k)).toList = Nat.toDigits 10 k := by
      rw [show toString (Int.ofNat k) = toString k from rfl]
      simp [Nat.toString_eq_repr, Nat.repr]
    obtain ⟨c, l, h⟩ := List.exists_cons_of_ne_nil (Nat.toDigits_ne_nil (n := k) (b := 10))
    have hc : c ∈ Nat.toDigits 10 k := h ▸ List.mem_cons_self
    exact ⟨c, l, hs.trans h, .inl (Nat.isDigit_of_mem_toDigits (by decide) (by decide) hc)⟩
  | negSucc k =>
    refine ⟨'-', (toString (k + 1)).toList, ?_, .inr rfl⟩
    rw [show toString (Int.negSucc k) = "-" ++ toString (k + 1) from rfl]
    simp

/-- An integer is read back if no digit follows. -/
lemma readInt_toString : Back readInt (fun n => (toString n).toList) EndsInt := by
  intro n rest hr
  cases n with
  | ofNat k =>
    have hread := readNat_toString k rest hr
    show readInt ((toString k).toList ++ rest) = some ((k : ℤ), rest)
    have hminus : ∀ r, (toString k).toList ++ rest ≠ '-' :: r := by
      intro r he
      have hread' : readNat ('-' :: r) = some (k, rest) := he ▸ hread
      have hnone : readNat ('-' :: r) = none := rfl
      rw [hnone] at hread'
      simp at hread'
    rw [readInt.eq_2 _ hminus, hread]
    rfl
  | negSucc k =>
    have hread := readNat_toString (k + 1) rest hr
    have hs : (toString (Int.negSucc k)).toList = '-' :: (toString (k + 1)).toList := by
      rw [show toString (Int.negSucc k) = "-" ++ toString (k + 1) from rfl]
      simp
    show readInt ((toString (Int.negSucc k)).toList ++ rest) = some (Int.negSucc k, rest)
    rw [hs, List.cons_append, readInt.eq_1, hread]
    rfl

/-! ## Fields and objects -/

def readScalar : Reader Char Scalar
  | '"' :: rest => (readText ('"' :: rest)).map fun r => (.text r.1, r.2)
  | text => (readInt text).map fun r => (.int r.1, r.2)

/-- What follows a field. -/
def EndsField (rest : List Char) : Prop := ∃ c l, rest = c :: l ∧ (c = ',' ∨ c = '\x7d')

lemma EndsField.endsInt {rest : List Char} (h : EndsField rest) : EndsInt rest := by
  obtain ⟨c, l, rfl, rfl | rfl⟩ := h
  · exact ⟨_, _, rfl, rfl⟩
  · exact ⟨_, _, rfl, rfl⟩

theorem readScalar_dumps : Back readScalar (fun v => v.dumps.toList) EndsField := by
  intro v rest hr
  cases v with
  | text s =>
    have hread := readText_jsonText s rest trivial
    show readScalar ((jsonText s).toList ++ rest) = some (.text s, rest)
    simp only [toList_jsonText, List.cons_append] at hread ⊢
    simp only [readScalar, hread, Option.map_some]
  | int n =>
    have hread := readInt_toString n rest hr.endsInt
    show readScalar ((toString n).toList ++ rest) = some (.int n, rest)
    have hquote : ∀ r, (toString n).toList ++ rest ≠ '"' :: r := by
      intro r he
      obtain ⟨c, l, hs, hc⟩ := toString_cons n
      rw [hs, List.cons_append] at he
      obtain ⟨rfl, -⟩ := List.cons.inj he
      exact absurd hc (by decide)
    rw [readScalar.eq_2 _ hquote, hread]
    rfl

section Objects
variable {V : Type} (rd : Reader Char V) (enc : V → List Char)

/-- `"name":value`. -/
def fieldText (f : String × V) : List Char := (jsonText f.1).toList ++ ':' :: enc f.2

def objectText (fields : List (String × V)) : List Char :=
  '\x7b' :: ([','].intercalate (fields.map (fieldText enc)) ++ ['\x7d'])

def readField : Reader Char (String × V) := fun text =>
  match readText text with
  | some (name, ':' :: rest) => (rd rest).map fun r => ((name, r.1), r.2)
  | _ => none

def readObject : Reader Char (List (String × V))
  | '\x7b' :: '\x7d' :: rest => some ([], rest)
  | '\x7b' :: rest => separated (readField rd) ',' '\x7d' (rest.length + 1) rest
  | _ => none

variable {rd enc}

lemma readField_fieldText (h : Back rd enc EndsField) :
    Back (readField rd) (fieldText enc) EndsField := by
  intro f rest hr
  have htext := readText_jsonText f.1 (':' :: (enc f.2 ++ rest)) trivial
  have hvalue := h f.2 rest hr
  simp only [fieldText, List.append_assoc, List.cons_append, readField, htext, hvalue,
    Option.map_some, Prod.mk.eta]

theorem readObject_objectText (h : Back rd enc EndsField) :
    Back (readObject rd) (objectText enc) fun _ => True := by
  intro fields rest _
  cases fields with
  | nil => rfl
  | cons f fields =>
    have hne : ∀ f : String × V, fieldText enc f ≠ [] := by simp [fieldText]
    have hlen := length_le_intercalate ',' hne (f :: fields)
    have hread := separated_intercalate ',' '\x7d' (by decide)
      (readField_fieldText h) rest (f :: fields)
      (([','].intercalate ((f :: fields).map (fieldText enc)) ++ '\x7d' :: rest).length + 1)
      (by simp) (by rw [List.length_append]; omega)
    rw [objectText, List.cons_append, List.append_assoc, List.singleton_append]
    rw [readObject, hread]
    intro r hr
    cases fields with
    | nil => simp [fieldText, toList_jsonText] at hr
    | cons g fields => simp [fieldText, toList_jsonText, List.intercalate_cons_cons] at hr

end Objects

/-! ## The envelope -/

/-- A field of the envelope: a scalar, or the model inside. -/
inductive Part where
  | scalar (v : Scalar)
  | model (fields : List (String × Scalar))

def Part.json : Part → Json
  | .scalar v => v.json
  | .model fields => object fields

def Part.text : Part → List Char
  | .scalar v => v.dumps.toList
  | .model fields => objectText (fun v => v.dumps.toList) fields

def readPart : Reader Char Part
  | '\x7b' :: rest => (readObject readScalar ('\x7b' :: rest)).map fun r => (.model r.1, r.2)
  | text => (readScalar text).map fun r => (.scalar r.1, r.2)

/-- `json.dumps` of an envelope. -/
def envelopeText (parts : List (String × Part)) : String := String.ofList (objectText Part.text parts)

/-- `json.loads` of a text that is an envelope and nothing more. -/
def loads (text : String) : Option (List (String × Json)) :=
  match readObject readPart text.toList with
  | some (parts, []) => some (parts.map fun f => (f.1, f.2.json))
  | _ => none

end RecoveryOS.CustomerAgent
