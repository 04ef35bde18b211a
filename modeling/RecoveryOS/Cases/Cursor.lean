import RecoveryOS.Lib.Base64
import RecoveryOS.Lib.IsoFormat
import RecoveryOS.Lib.JsonScan

/-!
# The cursor of the cases

`_encode_cursor` and `_decode_cursor` of `repositories/cases.py`, for every text that a client may
send, halves of surrogate pairs among it. What the decoder raises is translated where its `except`
names it; a payload that is no object has no `get`, and one that is nested too deep ends the recursion
of `json.loads`, and neither is named there.
-/

namespace RecoveryOS.Cases.Cursor

open JsonText
open Calendar (Aware Datetime fromisoformat)

/-! ## Texts -/

lemma toNat_lt (c : Char) : c.toNat < 1114112 := by
  have hvalid : c.toNat.isValidChar := c.valid
  rcases hvalid with h | h <;> omega

def ofChars (text : List Char) : Text := text.map fun c => ⟨c.toNat, toNat_lt c⟩

def ofString (s : String) : Text := ofChars s.toList

/-- The characters of a text that has no half of a pair in it. -/
def toChars (text : Text) : List Char := text.map fun c : CodePoint => Char.ofNat c

/-- `str.encode`, which refuses half of a pair, as its characters. -/
def characters (text : Text) : Option (List Char) :=
  if text.any fun c : CodePoint => isHigh c || isLow c then none else some (toChars text)

/-- The characters that `fromisoformat` goes through: half of a pair where a time may begin is taken
for a `T`. -/
def sanitized (text : Text) : Option (List Char) :=
  match [7, 8, 10].find? fun i => (text[i]?).any fun c : CodePoint => isHigh c || isLow c with
  | some i => characters (text.set i ⟨84, by decide⟩)
  | none => characters text

/-- `str.encode('ascii')`. -/
def ascii (text : Text) : Option (List Char) :=
  if text.all fun c : CodePoint => c.val < 128 then some (toChars text) else none

/-! ## The codec -/

/-- What is raised in `_decode_cursor`. -/
inductive Raised where
  | keyError
  | typeError
  | valueError
  | jsonDecodeError
  | attributeError
  | recursionError
  | invalidCursor (message : String)
  | spent
  deriving DecidableEq

/-- The `except` of `_decode_cursor`; an `InvalidCursorError` is a `ValueError`. -/
def Raised.caught : Raised → Bool
  | .keyError | .typeError | .valueError | .jsonDecodeError | .invalidCursor _ => true
  | .attributeError | .recursionError | .spent => false

/-- The cursor of the text of a time, and of an id. -/
def cursorText (openedAt : List Char) (caseId : Text) : Text :=
  let payload := String.ofList (objectText [(ofString "v", ['1']),
    (ofString "opened_at", dumpsText (ofChars openedAt)), (ofString "id", dumpsText caseId)])
  ofChars (Base64.strip (Base64.encode payload.toUTF8.data.toList))

/-- `_encode_cursor`. -/
def encodeCursor (openedAt : Aware) (caseId : Text) : Text := cursorText openedAt.isoformat caseId

/-- What the bytes of a cursor are decoded to. -/
def decodedText (cursor : Text) : Option (List Char) := do
  let chars ← ascii cursor
  let bytes ← Base64.lenient (chars ++ Base64.filling chars.length)
  (String.fromUTF8? ⟨bytes.toArray⟩).map String.toList

/-- `json.loads`; an integer of too many digits is a `ValueError` too. -/
def readJson (limit : ℕ) (text : List Char) : Except Raised Value :=
  match loads (limit + 1) text with
  | .ok v => .ok v
  | .error .malformed => .error .jsonDecodeError
  | .error .recursion => .error .recursionError
  | .error .spent => .error .spent

/-- The values that are equal to 1; a `float` is rounded to it from up to half a unit away. -/
def isOne : Value → Bool
  | .int n => n = 1
  | .bool b => b
  | .float q => 1 - 1 / 2 ^ 54 ≤ q ∧ q ≤ 1 + 1 / 2 ^ 53
  | _ => false

def readOpenedAt (payload : List (Text × Value)) : Except Raised Aware :=
  match Value.get payload (ofString "opened_at") with
  | none => .error .keyError
  | some (.text t) =>
    match (sanitized t).bind fromisoformat with
    | none => .error .valueError
    | some (.naive _) => .error (.invalidCursor "cursor timestamp must be timezone-aware")
    | some (.aware t) => .ok t
  | some _ => .error .typeError

def readPayload (payload : List (Text × Value)) : Except Raised (Aware × Text) :=
  match Value.get payload (ofString "v"), Value.get payload (ofString "id") with
  | some v, some (.text caseId) =>
    if isOne v then (readOpenedAt payload).map fun t => (t, caseId)
    else .error (.invalidCursor "unsupported cursor")
  | _, _ => .error (.invalidCursor "unsupported cursor")

/-- The body of the `try` of `_decode_cursor`. -/
def decodeBody (limit : ℕ) (cursor : Text) : Except Raised (Aware × Text) :=
  match decodedText cursor with
  | none => .error .valueError
  | some text =>
    match readJson limit text with
    | .error e => .error e
    | .ok (.object payload) => readPayload payload
    | .ok _ => .error .attributeError

/-- `_decode_cursor`, where the scanner of `json` may open `limit` containers inside the first one. -/
def decodeCursor (limit : ℕ) (cursor : Text) : Except Raised (Aware × Text) :=
  match decodeBody limit cursor with
  | .ok r => .ok r
  | .error e => .error (if e.caught then .invalidCursor "invalid recovery-case cursor" else e)

/-! ## What a cursor is read back as -/

lemma fromUTF8?_toUTF8 (s : String) : String.fromUTF8? ⟨s.toUTF8.data.toList.toArray⟩ = some s := by
  have hbytes : (⟨s.toUTF8.data.toList.toArray⟩ : ByteArray) = s.toUTF8 := by simp
  rw [hbytes]
  exact dif_pos s.isValidUTF8

lemma toChars_ofChars (text : List Char) : toChars (ofChars text) = text := by
  rw [toChars, ofChars, List.map_map]
  exact (List.map_congr_left fun c _ => Char.ofNat_toNat c).trans (List.map_id text)

lemma ascii_ofChars {text : List Char} (h : ∀ c ∈ text, c.toNat < 128) :
    ascii (ofChars text) = some text := by
  have hall : (ofChars text).all (fun c : CodePoint => c.val < 128) = true := by
    rw [ofChars, List.all_map, List.all_eq_true]
    intro c hc
    simp only [Function.comp_apply, h c hc, decide_true]
  rw [ascii, if_pos hall, toChars_ofChars]

lemma not_half (c : Char) : isHigh c.toNat = false ∧ isLow c.toNat = false := by
  have hvalid : c.toNat.isValidChar := c.valid
  constructor
  · rw [Bool.eq_false_iff, Ne, isHigh_iff]
    rcases hvalid with h | h <;> omega
  · rw [Bool.eq_false_iff, Ne, isLow_iff]
    rcases hvalid with h | h <;> omega

/-- Characters are no halves of pairs. -/
lemma not_half_of_mem {text : List Char} {c : CodePoint} (hc : c ∈ ofChars text) :
    isHigh c.val = false ∧ isLow c.val = false := by
  obtain ⟨a, -, rfl⟩ := List.mem_map.mp hc
  exact not_half a

lemma merge_ofChars (text : List Char) : merge (ofChars text) = ofChars text := by
  refine (merge_eq_self_iff _).mpr (List.pairwise_of_forall_mem_list fun c hc d _ => ?_).isChain
  simp only [(not_half_of_mem hc).1, Bool.false_and]

lemma characters_ofChars (text : List Char) : characters (ofChars text) = some text := by
  have hnone : (ofChars text).any (fun c : CodePoint => isHigh c || isLow c) = false := by
    rw [List.any_eq_false]
    intro c hc
    simp [not_half_of_mem hc]
  simp only [characters, hnone, Bool.false_eq_true, if_false, toChars_ofChars]

lemma sanitized_ofChars (text : List Char) : sanitized (ofChars text) = some text := by
  have hnone : ([7, 8, 10].find? fun i =>
      ((ofChars text)[i]?).any fun c : CodePoint => isHigh c || isLow c) = none := by
    rw [List.find?_eq_none]
    rintro i - hi
    obtain ⟨c, hc, hhalf⟩ := (Option.any_eq_true _ _).mp hi
    simp [not_half_of_mem (List.mem_of_getElem? hc)] at hhalf
  simp only [sanitized, hnone, characters_ofChars]

section
variable (limit : ℕ) (openedAt : List Char) (caseId : Text)

/-- The members of the payload of a cursor. -/
def cursorMembers : List Member :=
  [⟨ofString "v", ['1'], .int 1⟩,
    ⟨ofString "opened_at", dumpsText (ofChars openedAt), .text (ofChars openedAt)⟩,
    ⟨ofString "id", dumpsText caseId, .text (merge caseId)⟩]

lemma decodedText_cursorText : decodedText (cursorText openedAt caseId)
    = some (objectText ((cursorMembers openedAt caseId).map fun m => (m.name, m.value))) := by
  have hascii := ascii_ofChars (Base64.strip_encode_ascii (String.ofList (objectText
    ((cursorMembers openedAt caseId).map fun m => (m.name, m.value)))).toUTF8.data.toList)
  simp only [decodedText, cursorText, cursorMembers, List.map_cons, List.map_nil] at hascii ⊢
  simp only [hascii, Option.bind_eq_bind, Option.bind_some, Base64.lenient_strip_encode,
    fromUTF8?_toUTF8, Option.map_some, String.toList_ofList]

lemma loads_cursorMembers :
    loads (limit + 1) (objectText ((cursorMembers openedAt caseId).map fun m => (m.name, m.value)))
      = .ok (.object ((cursorMembers openedAt caseId).map Member.entry)) := by
  have htime := scans_dumpsText limit (ofChars openedAt)
  have hid := scans_dumpsText limit caseId
  rw [merge_ofChars] at htime
  have hall : ∀ m ∈ cursorMembers openedAt caseId,
      m.Fits (openedAt.length + caseId.length + 12) limit := by
    intro m hm
    simp only [cursorMembers, List.mem_cons, List.not_mem_nil, or_false] at hm
    rcases hm with rfl | rfl | rfl
    · refine ⟨?_, (scans_one limit).mono (by omega)⟩
      show 1 < _
      omega
    · refine ⟨?_, htime.mono (by rw [ofChars, List.length_map]; omega)⟩
      show 9 < _
      omega
    · refine ⟨?_, hid.mono (by omega)⟩
      show 2 < _
      omega
  refine loads_objectText (List.cons_ne_nil _ _) hall ?_
  have hlength := length_le_dumpsText (ofChars openedAt)
  have hlength' := length_le_dumpsText caseId
  rw [ofChars, List.length_map] at hlength
  simp only [cursorMembers, objectText, List.map_cons, List.map_nil, memberText,
    List.intercalate_cons_cons, List.intercalate_singleton, List.length_append, List.length_cons,
    List.length_nil]
  rw [ofChars]
  omega

/-- A cursor leads to the time that its text is read as, and to its id, but for the halves of pairs in
that. -/
theorem decodeCursor_cursorText {t : Aware} (h : fromisoformat openedAt = some (.aware t)) :
    decodeCursor limit (cursorText openedAt caseId) = .ok (t, merge caseId) := by
  set payload := (cursorMembers openedAt caseId).map Member.entry with hpayload
  have hv : Value.get payload (ofString "v") = some (.int 1) := rfl
  have hid : Value.get payload (ofString "id") = some (.text (merge caseId)) := rfl
  have hopened : Value.get payload (ofString "opened_at") = some (.text (ofChars openedAt)) := rfl
  have htime : readOpenedAt payload = .ok t := by
    simp only [readOpenedAt, hopened, sanitized_ofChars, Option.bind_some, h]
  simp only [decodeCursor, decodeBody, decodedText_cursorText, readJson, loads_cursorMembers,
    ← hpayload, readPayload, hv, hid, htime]
  rfl

end

theorem decodeCursor_encodeCursor (limit : ℕ) (openedAt : Aware) (caseId : Text) :
    decodeCursor limit (encodeCursor openedAt caseId) = .ok (openedAt.readBack, merge caseId) :=
  decodeCursor_cursorText limit _ caseId (Calendar.fromisoformat_isoformat openedAt)

/-! ## What a client's text leads to -/

/-- The result, or the error that the routes of the application know. -/
def Handled {α : Type} (r : Except Raised α) : Prop :=
  (∃ a, r = .ok a) ∨ ∃ message, r = .error (.invalidCursor message)

/-- A text of a JSON value that is no object, or of containers inside one another beyond the limit. -/
def Misfit (limit : ℕ) (text : List Char) : Prop :=
  (∃ v, loads (limit + 1) text = .ok v ∧ ∀ payload, v ≠ .object payload) ∨
    loads (limit + 1) text = .error .recursion

lemma readOpenedAt_caught {payload : List (Text × Value)} {e : Raised}
    (h : readOpenedAt payload = .error e) : e.caught = true := by
  unfold readOpenedAt at h
  split at h
  · cases h
    rfl
  · split at h
    · cases h
      rfl
    · cases h
      rfl
    · cases h
  · cases h
    rfl

/-- Whatever an object is raised for is caught. -/
lemma readPayload_caught {payload : List (Text × Value)} {e : Raised}
    (h : readPayload payload = .error e) : e.caught = true := by
  unfold readPayload at h
  split at h
  · split_ifs at h
    · cases ht : readOpenedAt payload with
      | ok t =>
        rw [ht] at h
        cases h
      | error e' =>
        rw [ht] at h
        cases h
        exact readOpenedAt_caught ht
    · cases h
      rfl
  · cases h
    rfl

/-- The decoder answers, or raises what it means to, unless its body raises what it does not catch. -/
lemma handled_decodeCursor_iff (limit : ℕ) (cursor : Text) :
    Handled (decodeCursor limit cursor) ↔
      ∀ e, decodeBody limit cursor = .error e → e.caught = true := by
  unfold decodeCursor
  cases hbody : decodeBody limit cursor with
  | ok r => exact iff_of_true (.inl ⟨r, rfl⟩) fun e he => by cases he
  | error e =>
    cases hcaught : e.caught with
    | true =>
      refine iff_of_true (.inr ⟨"invalid recovery-case cursor", ?_⟩) fun e' he => ?_
      · simp only [hcaught, if_true]
      · cases he
        exact hcaught
    | false =>
      refine iff_of_false ?_ fun h => ?_
      · rintro (⟨r, hr⟩ | ⟨message, hr⟩)
        · cases hr
        · simp only [hcaught] at hr
          cases hr
          cases hcaught
      · have htrue := h e rfl
        rw [hcaught] at htrue
        cases htrue

/-- An object is the one value of which nothing is raised that is not caught. -/
lemma decodeBody_of_loads {limit : ℕ} {cursor : Text} {text : List Char} {v : Value}
    (htext : decodedText cursor = some text) (hv : loads (limit + 1) text = .ok v) :
    (∃ payload, v = .object payload ∧ decodeBody limit cursor = readPayload payload) ∨
      ((∀ payload, v ≠ .object payload) ∧ decodeBody limit cursor = .error .attributeError) := by
  simp only [decodeBody, htext, readJson, hv]
  cases v with
  | object payload => exact .inl ⟨payload, rfl, rfl⟩
  | _ => exact .inr ⟨fun payload he => (by cases he), rfl⟩

lemma decodeBody_caught_iff (limit : ℕ) (cursor : Text) :
    (∀ e, decodeBody limit cursor = .error e → e.caught = true) ↔
      ∀ text, decodedText cursor = some text → ¬ Misfit limit text := by
  cases htext : decodedText cursor with
  | none =>
    refine iff_of_true (fun e he => ?_) fun text ht => by cases ht
    simp only [decodeBody, htext] at he
    cases he
    rfl
  | some text =>
    simp only [Option.some.injEq, forall_eq']
    cases hloads : loads (limit + 1) text with
    | ok v =>
      have hmisfit : Misfit limit text ↔ ∀ payload, v ≠ .object payload := by
        simp only [Misfit, hloads, Except.ok.injEq, exists_eq_left', reduceCtorEq, or_false]
      rw [hmisfit]
      rcases decodeBody_of_loads htext hloads with ⟨payload, hv, hbody⟩ | ⟨hv, hbody⟩
      · rw [hbody]
        exact iff_of_true (fun e he => readPayload_caught he) fun hne => hne payload hv
      · rw [hbody]
        exact iff_of_false (fun h => absurd (h _ rfl) (by decide)) fun h => h hv
    | error e =>
      have hmisfit : Misfit limit text ↔ e = .recursion := by
        simp only [Misfit, hloads, reduceCtorEq, false_and, exists_false, false_or,
          Except.error.injEq]
      have hspent : e ≠ .spent := fun he => loads_ne_spent _ _ (he ▸ hloads)
      rw [hmisfit]
      cases e with
      | malformed =>
        have hbody : decodeBody limit cursor = .error .jsonDecodeError := by
          simp only [decodeBody, htext, readJson, hloads]
        rw [hbody]
        refine iff_of_true (fun e he => ?_) (by decide)
        cases he
        rfl
      | recursion =>
        have hbody : decodeBody limit cursor = .error .recursionError := by
          simp only [decodeBody, htext, readJson, hloads]
        rw [hbody]
        exact iff_of_false (fun h => absurd (h _ rfl) (by decide)) fun h => h rfl
      | spent => exact absurd rfl hspent

/-- A cursor leads back to its place exactly if no first half of a pair in the id has a second half
behind it, and the offset of the time is not less than a second but zero. Any text at all leads to a
place or to the error that is meant exactly if it is not made of a JSON value other than an object,
nor of one that is nested beyond the limit. -/
theorem cursorCodec_iff (limit : ℕ) :
    (∀ openedAt caseId,
      (∃ t, decodeCursor limit (encodeCursor openedAt caseId) = .ok (t, caseId) ∧
        t.instant = openedAt.instant) ↔
      Unpaired caseId ∧ (openedAt.offset = 0 ∨ 1000000 ≤ openedAt.offset.natAbs)) ∧
    ∀ cursor, Handled (decodeCursor limit cursor) ↔
      ∀ text, decodedText cursor = some text → ¬ Misfit limit text := by
  refine ⟨fun openedAt caseId => ?_, fun cursor => ?_⟩
  · rw [decodeCursor_encodeCursor, ← merge_eq_self_iff, ← openedAt.readBack_instant_iff]
    constructor
    · rintro ⟨t, ht, hinstant⟩
      obtain ⟨rfl, hid⟩ := Prod.mk.inj (Except.ok.inj ht)
      exact ⟨hid, hinstant⟩
    · rintro ⟨hid, hinstant⟩
      exact ⟨openedAt.readBack, by rw [hid], hinstant⟩
  · rw [handled_decodeCursor_iff, decodeBody_caught_iff]

/-- The text of an empty array has no `get`. -/
theorem cursorCodec_counterexample : ¬ Handled (decodeCursor 1000 (ofString "W10")) := by
  have hraised : decodeCursor 1000 (ofString "W10") = .error .attributeError := by rfl
  rw [hraised]
  rintro (⟨r, hr⟩ | ⟨message, hr⟩)
  · cases hr
  · cases hr

end RecoveryOS.Cases.Cursor
