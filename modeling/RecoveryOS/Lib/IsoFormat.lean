import RecoveryOS.Lib.Calendar
import Mathlib.Data.List.TakeWhile

/-!
# Texts of times with an offset

`isoformat` of a wall time and its offset from UTC, of up to a day in either direction and to the
microsecond, and `fromisoformat` as CPython 3.12 has it. It takes a date of the calendar or of a week,
with its dashes or without, any character between the date and the time, a time down to the hour, the
minute, the second or a fraction of any of them, and an offset of the same forms. A time is read back
from its text, but an offset of less than a second is read as UTC.
-/

namespace Calendar

open Read

/-- A wall time of the years from 1 to 9999, and its offset from UTC. -/
@[ext]
structure Aware where
  wall : ℤ
  offset : ℤ
  wall_range : InRange wall
  offset_range : -86400000000 < offset ∧ offset < 86400000000

/-- A `datetime`. -/
inductive Datetime where
  | naive (wall : ℤ)
  | aware (t : Aware)

namespace Aware

def instant (t : Aware) : ℤ := t.wall - t.offset

/-- What a time is read back as: an offset of less than a second is lost. -/
def readBack (t : Aware) : Aware where
  wall := t.wall
  offset := if t.offset.natAbs < 1000000 then 0 else t.offset
  wall_range := t.wall_range
  offset_range := by
    split_ifs
    · omega
    · exact t.offset_range

lemma readBack_instant_iff (t : Aware) :
    t.readBack.instant = t.instant ↔ t.offset = 0 ∨ 1000000 ≤ t.offset.natAbs := by
  simp only [instant, readBack]
  split_ifs
  · omega
  · omega

/-- The minutes of an offset, and the seconds if there are any. -/
def offsetText (n : ℕ) : List Char :=
  if n % 60000000 = 0 then digits 2 (n / 3600000000) ++ ':' :: digits 2 (n / 60000000 % 60)
  else timeText n

/-- `isoformat`. -/
def isoformat (t : Aware) : List Char :=
  wallText t.wall ++ (if t.offset < 0 then '-' else '+') :: offsetText t.offset.natAbs

end Aware

/-! ## Dates -/

/-- `YYYYMMDD`. -/
def readBasicDate : Reader Char ℕ := fun text => do
  let (year, text) ← readDigits 4 text
  let (month, text) ← readDigits 2 text
  let (day, text) ← readDigits 2 text
  if 1 ≤ year ∧ 1 ≤ month ∧ month ≤ 12 ∧ 1 ≤ day ∧ day ≤ daysInMonth (isLeap year) month then
    some (daysBeforeYear year + daysBeforeMonth (isLeap year) month + (day - 1), text)
  else none

/-- The day of a week of a year, the first week of which has its fourth of January. -/
def weekDate (year week day : ℕ) : Option ℕ :=
  let first := daysBeforeYear year % 7
  let monday := daysBeforeYear year - first + if first ≤ 3 then 0 else 7
  let weeks := if first = 3 ∨ (first = 2 ∧ isLeap year) then 53 else 52
  if 1 ≤ year ∧ 1 ≤ week ∧ week ≤ weeks ∧ 1 ≤ day ∧ day ≤ 7 then
    some (monday + (week - 1) * 7 + (day - 1))
  else none

/-- `YYYY-Www-D` or `YYYYWwwD`, and the Monday where the day is left out. -/
def readWeekDate (dashes : Bool) : Reader Char ℕ := fun text => do
  let (year, text) ← readDigits 4 text
  let (_, text) ← if dashes then expect (· = '-') text else some ('-', text)
  let (_, text) ← expect (· = 'W') text
  let (week, text) ← readDigits 2 text
  if text = [] then (weekDate year week 1).map fun n => (n, text)
  else do
    let (_, text) ← if dashes then expect (· = '-') text else some ('-', text)
    let (day, text) ← readDigits 1 text
    (weekDate year week day).map fun n => (n, text)

/-- Where the date ends and a time may begin. -/
def separatorLocation (text : List Char) : ℕ :=
  if text.length = 7 then 7
  else if text[4]? = some '-' then
    if text[5]? = some 'W' then
      if text[8]? = some '-' then if (text[10]?).any Char.isDigit then 8 else 10 else 8
    else 10
  else if text[4]? = some 'W' then
    let run := ((text.drop 7).takeWhile Char.isDigit).length
    if run < 2 then 7 + run else if run % 2 = 1 then 7 else 8
  else 8

def wholeDate (text : List Char) : Option ℕ :=
  [readDate, readBasicDate, readWeekDate true, readWeekDate false].findSome? fun rd =>
    match rd text with
    | some (n, []) => some n
    | _ => none

/-! ## Times -/

/-- Hours, minutes, seconds and microseconds. -/
structure Clock where
  hour : ℕ
  minute : ℕ := 0
  second : ℕ := 0
  microsecond : ℕ := 0

def Clock.seconds (c : Clock) : ℕ := (c.hour * 60 + c.minute) * 60 + c.second

def Clock.microseconds (c : Clock) : ℕ := c.seconds * 1000000 + c.microsecond

/-- An offset of less than a second is read as none. -/
def Clock.offset (c : Clock) : ℤ := if c.seconds = 0 then 0 else c.microseconds

/-- Whether a text goes on; a zero character ends it. -/
def goesOn : List Char → Bool
  | [] => false
  | c :: _ => c ≠ '\x00'

/-- The microseconds of a fraction, of which further digits are dropped, and whether the text goes on
after it. -/
def readMicroseconds (text : List Char) : Option (ℕ × Bool) :=
  let first := text.take 6
  if first.all Char.isDigit then
    (readDigits 6 (first ++ List.replicate (6 - first.length) '0')).map fun r =>
      (r.1, goesOn ((text.drop 6).dropWhile Char.isDigit))
  else none

/-- Parts of two digits, at most `n`, and a fraction after them, and whether the text goes on. Whether
there are colons between the parts is settled after the first one, and a last character behind a part
is taken for its end, whatever it is. -/
def readParts (colons : Option Bool) : ℕ → List Char → Option (List ℕ × ℕ × Bool)
  | 0, text => (readMicroseconds text).map fun r => ([], r)
  | n + 1, text => do
    let (part, text) ← readDigits 2 text
    match text with
    | [] => some ([part], 0, false)
    | [c] => if c.toNat < 128 then some ([part], 0, goesOn [c]) else none
    | c :: rest =>
      let colons := colons.getD (c = ':')
      if colons ∧ c = ':' then (readParts (some colons) n rest).map fun r => (part :: r.1, r.2)
      else if c = '.' ∨ c = ',' then (readMicroseconds rest).map fun r => ([part], r)
      else if colons then none
      else (readParts (some colons) n (c :: rest)).map fun r => (part :: r.1, r.2)

/-- A time of any form, and whether the text goes on after it. -/
def readClock (text : List Char) : Option (Clock × Bool) :=
  (readParts none 3 text).map fun r =>
    (⟨r.1.getD 0 0, r.1.getD 1 0, r.1.getD 2 0, r.2.1⟩, r.2.2)

def isZone (c : Char) : Bool := c = '+' || c = '-' || c = 'Z'

/-- A time and its offset. What is left between the time and the offset is skipped. -/
def readTimeZone (text : List Char) : Option (Clock × Option ℤ) := do
  let clock := text.takeWhile fun c => !isZone c
  let (time, more) ← readClock clock
  match text.drop clock.length with
  | [] => if more then none else some (time, none)
  | sign :: zone =>
    if sign = 'Z' then if goesOn zone then none else some (time, some 0)
    else do
      let (offset, more) ← readClock zone
      if more then none
      else some (time, some (if sign = '-' then -offset.offset else offset.offset))

/-- The `datetime` of a day, a time of it and an offset, if they are in range. -/
def mkDatetime (day : ℕ) (time : Clock) (offset : Option ℤ) : Option Datetime :=
  let wall := day * 86400000000 + time.microseconds - epoch
  if h : (time.hour < 24 ∧ time.minute < 60 ∧ time.second < 60) ∧
      0 ≤ wall + epoch ∧ wall + epoch < 3652059 * 86400000000 then
    match offset with
    | none => some (.naive wall)
    | some offset =>
      if ho : -86400000000 < offset ∧ offset < 86400000000 then
        some (.aware ⟨wall, offset, h.2, ho⟩)
      else none
  else none

/-- `fromisoformat`; a date alone is midnight. -/
def fromisoformat (text : List Char) : Option Datetime :=
  if text.length < 7 then none
  else do
    let location := separatorLocation text
    let day ← wholeDate (text.take location)
    if text.length ≤ location then mkDatetime day { hour := 0 } none
    else do
      let (time, offset) ← readTimeZone (text.drop (location + 1))
      mkDatetime day time offset

/-! ## A time is read back -/

lemma digit_isDigit {n : ℕ} (h : n < 10) : (digit n).isDigit = true := (digit_spec h).1

lemma isDigit_digits : ∀ {w n : ℕ}, n < 10 ^ w → ∀ c ∈ digits w n, c.isDigit = true
  | 0, _, _, c, hc => by cases hc
  | w + 1, n, h, c, hc => by
    have hpos : 0 < 10 ^ w := by positivity
    rw [digits, List.mem_cons] at hc
    rcases hc with rfl | hc
    · refine digit_isDigit ?_
      rw [Nat.div_lt_iff_lt_mul hpos]
      rwa [pow_succ, mul_comm] at h
    · exact isDigit_digits (Nat.mod_lt n hpos) c hc

lemma ne_of_isDigit {c d : Char} (hc : c.isDigit = true) (hd : d.isDigit = false) : c ≠ d := by
  rintro rfl
  rw [hc] at hd
  cases hd

lemma length_digits : ∀ (w n : ℕ), (digits w n).length = w
  | 0, _ => rfl
  | w + 1, n => by rw [digits, List.length_cons, length_digits]

/-- The hours, the minutes and the seconds of a time of day. -/
def mainText (n : ℕ) : List Char :=
  digits 2 (n / 3600000000) ++ ':' :: (digits 2 (n / 60000000 % 60) ++ ':' ::
    digits 2 (n / 1000000 % 60))

lemma readMicroseconds_digits {n : ℕ} (h : n < 1000000) :
    readMicroseconds (digits 6 n) = some (n, false) := by
  have hall : (digits 6 n).all Char.isDigit = true :=
    List.all_eq_true.mpr (isDigit_digits (w := 6) h)
  have hlength := length_digits 6 n
  have htake : (digits 6 n).take 6 = digits 6 n := List.take_of_length_le (by omega)
  have hdrop : (digits 6 n).drop 6 = [] := List.drop_of_length_le (by omega)
  have hread := readDigits_digits [] (w := 6) (n := n) h
  rw [List.append_nil] at hread
  simp only [readMicroseconds, htake, hall, if_true, hlength, Nat.sub_self, List.replicate_zero,
    List.append_nil, hread, hdrop]
  rfl

section
variable {colons : Option Bool} {n v : ℕ} (hv : v < 100)
include hv

lemma readParts_digits : readParts colons (n + 1) (digits 2 v) = some ([v], 0, false) := by
  have hread := readDigits_digits [] (w := 2) (n := v) (by omega)
  rw [List.append_nil] at hread
  simp only [readParts, hread, Option.bind_eq_bind, Option.bind_some]

/-- A part with a colon behind it, if there was none before it that had none. -/
lemma readParts_colon (hc : colons.getD true = true) (c : Char) (rest : List Char) :
    readParts colons (n + 1) (digits 2 v ++ ':' :: c :: rest)
      = (readParts (some true) n (c :: rest)).map fun r => (v :: r.1, r.2) := by
  have hread := readDigits_digits (':' :: c :: rest) (w := 2) (n := v) (by omega)
  simp [readParts, hread, hc]

lemma readParts_fraction (c : Char) (rest : List Char) :
    readParts (some true) (n + 1) (digits 2 v ++ '.' :: c :: rest)
      = (readMicroseconds (c :: rest)).map fun r => ([v], r) := by
  have hread := readDigits_digits ('.' :: c :: rest) (w := 2) (n := v) (by omega)
  simp [readParts, hread]

end

lemma timeText_eq (n : ℕ) : timeText n = mainText n ++ fractionText (n % 1000000) := by
  simp [timeText, mainText]

/-- The parts of a time of day. -/
def clockOf (n : ℕ) : Clock :=
  ⟨n / 3600000000, n / 60000000 % 60, n / 1000000 % 60, n % 1000000⟩

lemma microseconds_clockOf (n : ℕ) : (clockOf n).microseconds = n := by
  simp only [clockOf, Clock.microseconds, Clock.seconds]
  omega

section
variable {n : ℕ} (h : n < 86400000000)
include h

lemma mainText_symbols : ∀ c ∈ mainText n, c.isDigit = true ∨ c = ':' := by
  have hhour := isDigit_digits (w := 2) (n := n / 3600000000) (by omega)
  have hminute := isDigit_digits (w := 2) (n := n / 60000000 % 60) (by omega)
  have hsecond := isDigit_digits (w := 2) (n := n / 1000000 % 60) (by omega)
  intro c hc
  simp only [mainText, List.mem_append, List.mem_cons] at hc
  rcases hc with hc | rfl | hc | rfl | hc
  · exact .inl (hhour c hc)
  · exact .inr rfl
  · exact .inl (hminute c hc)
  · exact .inr rfl
  · exact .inl (hsecond c hc)

lemma timeText_symbols : ∀ c ∈ timeText n, c.isDigit = true ∨ c = ':' ∨ c = '.' := by
  intro c hc
  rw [timeText_eq, List.mem_append] at hc
  rcases hc with hc | hc
  · rcases mainText_symbols h c hc with hc | hc
    · exact .inl hc
    · exact .inr (.inl hc)
  · unfold fractionText at hc
    split_ifs at hc
    · cases hc
    · rcases List.mem_cons.mp hc with rfl | hc
      · exact .inr (.inr rfl)
      · exact .inl (isDigit_digits (w := 6) (by omega) c hc)

/-- The hours and the minutes, with the rest of a text. -/
lemma readParts_hourMinute (c : Char) (rest : List Char) :
    readParts none 3 (digits 2 (n / 3600000000) ++ ':' ::
        (digits 2 (n / 60000000 % 60) ++ ':' :: c :: rest))
      = (readParts (some true) 1 (c :: rest)).map fun r =>
          (n / 3600000000 :: n / 60000000 % 60 :: r.1, r.2) := by
  have hminute : readParts (some true) 2 (digits 2 (n / 60000000 % 60) ++ ':' :: c :: rest)
      = (readParts (some true) 1 (c :: rest)).map fun r => (n / 60000000 % 60 :: r.1, r.2) :=
    readParts_colon (by omega) rfl c rest
  obtain ⟨d, l, htext⟩ : ∃ d l, digits 2 (n / 60000000 % 60) ++ ':' :: c :: rest = d :: l :=
    ⟨_, _, rfl⟩
  rw [htext] at hminute ⊢
  rw [readParts_colon (v := n / 3600000000) (by omega) rfl, hminute, Option.map_map]
  rfl

theorem readClock_timeText : readClock (timeText n) = some (clockOf n, false) := by
  have hhead := readParts_hourMinute h
  obtain ⟨d, l, htext⟩ : ∃ d l, digits 2 (n / 1000000 % 60) ++ fractionText (n % 1000000) = d :: l :=
    ⟨_, _, rfl⟩
  have hlast : readParts (some true) 1 (d :: l)
      = some ([n / 1000000 % 60], n % 1000000, false) := by
    rw [← htext]
    unfold fractionText
    split_ifs with hfraction
    · rw [List.append_nil, readParts_digits (by omega), hfraction]
    · obtain ⟨a, k, hdigits⟩ : ∃ a k, digits 6 (n % 1000000) = a :: k := ⟨_, _, rfl⟩
      rw [hdigits, readParts_fraction (by omega), ← hdigits, readMicroseconds_digits (by omega)]
      rfl
  simp only [readClock, timeText, htext, hhead d l, hlast]
  rfl

end

lemma Clock.offset_eq {c : Clock} {n : ℕ} (hn : c.microseconds = n) (hmicro : c.microsecond < 1000000) :
    c.offset = if n < 1000000 then 0 else (n : ℤ) := by
  unfold Clock.offset
  unfold Clock.microseconds at hn ⊢
  split_ifs
  · rfl
  · omega
  · omega
  · omega

/-- An offset is read back, in either of its forms, but for one of less than a second. -/
theorem readClock_offsetText {n : ℕ} (h : n < 86400000000) :
    ∃ c, readClock (Aware.offsetText n) = some (c, false) ∧
      c.offset = if n < 1000000 then 0 else (n : ℤ) := by
  unfold Aware.offsetText
  by_cases hseconds : n % 60000000 = 0
  · rw [if_pos hseconds]
    refine ⟨⟨n / 3600000000, n / 60000000 % 60, 0, 0⟩, ?_, Clock.offset_eq ?_ (by simp)⟩
    · obtain ⟨d, l, htext⟩ : ∃ d l, digits 2 (n / 60000000 % 60) = d :: l := ⟨_, _, rfl⟩
      have hminute : readParts (some true) 2 (digits 2 (n / 60000000 % 60))
          = some ([n / 60000000 % 60], 0, false) := readParts_digits (by omega)
      rw [htext] at hminute
      rw [readClock, htext, readParts_colon (by omega) rfl, hminute]
      rfl
    · simp only [Clock.microseconds, Clock.seconds]
      omega
  · rw [if_neg hseconds]
    refine ⟨_, readClock_timeText h, Clock.offset_eq (microseconds_clockOf n) ?_⟩
    simp only [clockOf]
    omega

theorem readTimeZone_timeText {n : ℕ} (h : n < 86400000000) {offset : ℤ}
    (ho : -86400000000 < offset ∧ offset < 86400000000) :
    readTimeZone (timeText n ++ (if offset < 0 then '-' else '+') :: Aware.offsetText offset.natAbs)
      = some (clockOf n, some (if offset.natAbs < 1000000 then 0 else offset)) := by
  have hplain : ∀ c ∈ timeText n, (!isZone c) = true := by
    intro c hc
    rcases timeText_symbols h c hc with hd | rfl | rfl
    · simp [isZone, ne_of_isDigit hd (d := '+') rfl, ne_of_isDigit hd (d := '-') rfl,
        ne_of_isDigit hd (d := 'Z') rfl]
    · decide
    · decide
  obtain ⟨c, hc, hvalue⟩ := readClock_offsetText (n := offset.natAbs) (by omega)
  have htime := readClock_timeText h
  have key : ∀ sign : Char, (!isZone sign) = false → sign ≠ 'Z' →
      readTimeZone (timeText n ++ sign :: Aware.offsetText offset.natAbs)
        = some (clockOf n, some (if sign = '-' then -c.offset else c.offset)) := by
    intro sign hsign hz
    have htake : (timeText n ++ sign :: Aware.offsetText offset.natAbs).takeWhile
        (fun c => !isZone c) = timeText n := by
      rw [List.takeWhile_append_of_pos hplain, List.takeWhile_cons_of_neg (by simp [hsign]),
        List.append_nil]
    simp only [readTimeZone, htake, List.drop_left, htime, hc, if_neg hz, Option.bind_eq_bind,
      Option.bind_some, Bool.false_eq_true, if_false]
  by_cases hneg : offset < 0
  · have hoffset : -c.offset = if offset.natAbs < 1000000 then 0 else offset := by
      rw [hvalue]
      split_ifs
      · rfl
      · omega
    rw [if_pos hneg, key '-' rfl (by decide), if_pos rfl, hoffset]
  · have hoffset : c.offset = if offset.natAbs < 1000000 then 0 else offset := by
      rw [hvalue]
      split_ifs
      · rfl
      · omega
    rw [if_neg hneg, key '+' rfl (by decide), if_neg (by decide), hoffset]

/-- The ten characters of a day; the sixth is no `W`. -/
lemma dayText_eq (n : ℕ) : ∃ a b c d e f g k : Char,
    dayText n = [a, b, c, d, '-', e, f, '-', g, k] ∧ e ≠ 'W' := by
  obtain ⟨-, hmonth, -, -⟩ := monthOf_spec (yearOf_day_lt n)
  refine ⟨_, _, _, _, _, _, _, _, rfl, ?_⟩
  refine ne_of_isDigit (digit_isDigit ?_) rfl
  rw [pow_one]
  omega

lemma separatorLocation_dayText (n : ℕ) (rest : List Char) :
    separatorLocation (dayText n ++ 'T' :: rest) = 10 := by
  obtain ⟨a, b, c, d, e, f, g, k, htext, he⟩ := dayText_eq n
  have hlength : (dayText n ++ 'T' :: rest).length ≠ 7 := by
    rw [htext, List.length_append, List.length_cons]
    show 10 + (rest.length + 1) ≠ 7
    omega
  have hdash : (dayText n ++ 'T' :: rest)[4]? = some '-' := by rw [htext]; rfl
  have hsixth : (dayText n ++ 'T' :: rest)[5]? ≠ some 'W' := by
    rw [htext]
    exact fun hw => he (Option.some.inj hw)
  rw [separatorLocation, if_neg hlength, if_pos hdash, if_neg hsixth]

lemma length_dayText (n : ℕ) : (dayText n).length = 10 := by
  obtain ⟨a, b, c, d, e, f, g, k, htext, -⟩ := dayText_eq n
  rw [htext]
  rfl

lemma wholeDate_dayText {n : ℕ} (h : n < 3652059) : wholeDate (dayText n) = some n := by
  have hread := readDate_dayText h []
  rw [List.append_nil] at hread
  simp only [wholeDate, List.findSome?_cons, hread]

/-- The date of a text is its first ten characters. -/
lemma fromisoformat_dayText {n : ℕ} (h : n < 3652059) (rest : List Char) :
    fromisoformat (dayText n ++ 'T' :: rest) =
      (readTimeZone rest).bind fun r => mkDatetime n r.1 r.2 := by
  have hlength := length_dayText n
  have htotal : (dayText n ++ 'T' :: rest).length = 11 + rest.length := by
    rw [List.length_append, hlength, List.length_cons]
    omega
  have htake : (dayText n ++ 'T' :: rest).take 10 = dayText n := List.take_left' hlength
  have hdrop : (dayText n ++ 'T' :: rest).drop 11 = rest := by
    rw [← List.drop_drop (i := 1) (j := 10), List.drop_left' hlength]
    rfl
  simp only [fromisoformat, if_neg (show ¬ (dayText n ++ 'T' :: rest).length < 7 by omega),
    separatorLocation_dayText n rest, htake, wholeDate_dayText h, hdrop, Option.bind_eq_bind,
    if_neg (show ¬ (dayText n ++ 'T' :: rest).length ≤ 10 by omega), Option.bind_some]

/-- Every time with its offset is read back from its text, but for an offset of less than a second. -/
theorem fromisoformat_isoformat (t : Aware) :
    fromisoformat t.isoformat = some (.aware t.readBack) := by
  obtain ⟨hlow, hhigh⟩ := t.wall_range
  obtain ⟨n, hn⟩ := Int.eq_ofNat_of_zero_le hlow
  have hlt : n < 3652059 * 86400000000 := by omega
  have hday : n / 86400000000 < 3652059 := by omega
  have htime : n % 86400000000 < 86400000000 := by omega
  have hzone := readTimeZone_timeText htime t.offset_range
  have hsum : ((n / 86400000000 : ℕ) : ℤ) * 86400000000 + ((n % 86400000000 : ℕ) : ℤ) - epoch
      = t.wall := by omega
  have htext : t.isoformat = dayText (n / 86400000000) ++ 'T' :: (timeText (n % 86400000000)
      ++ (if t.offset < 0 then '-' else '+') :: Aware.offsetText t.offset.natAbs) := by
    simp only [Aware.isoformat, wallText, hn, Int.toNat_natCast, List.append_assoc,
      List.cons_append]
  have hvalid : ((clockOf (n % 86400000000)).hour < 24 ∧ (clockOf (n % 86400000000)).minute < 60 ∧
      (clockOf (n % 86400000000)).second < 60) ∧
      0 ≤ t.wall + epoch ∧ t.wall + epoch < 3652059 * 86400000000 := by
    refine ⟨?_, t.wall_range⟩
    simp only [clockOf]
    omega
  rw [htext, fromisoformat_dayText hday, hzone]
  simp only [Option.bind_some, mkDatetime, microseconds_clockOf, hsum, dif_pos hvalid]
  exact dif_pos t.readBack.offset_range

end Calendar
