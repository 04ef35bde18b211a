import RecoveryOS.Lib.Reader
import Mathlib.Tactic

/-!
# The calendar and the text of an instant

The proleptic Gregorian calendar, as days counted from the first of January of year 1, and the text
of an instant in it: `YYYY-MM-DDTHH:MM:SS`, a fraction of six digits if there is one, and an offset
from UTC. An instant is a number of microseconds since 1970. Of the years that have four digits,
every instant is read back from its text.
-/

namespace Calendar

open Read

/-! ## Days and dates -/

def isLeap (y : ℕ) : Bool := y % 4 == 0 && (y % 100 != 0 || y % 400 == 0)

/-- The days before a year, the first of which is 1. -/
def daysBeforeYear (y : ℕ) : ℕ := (y - 1) * 365 + (y - 1) / 4 - (y - 1) / 100 + (y - 1) / 400

/-- The days of a year before a month, the first of which is 1. -/
def daysBeforeMonth (leap : Bool) (m : ℕ) : ℕ :=
  [0, 0, 31, 59, 90, 120, 151, 181, 212, 243, 273, 304, 334, 365].getD m 0
    + if leap ∧ 2 < m then 1 else 0

def daysInMonth (leap : Bool) (m : ℕ) : ℕ := daysBeforeMonth leap (m + 1) - daysBeforeMonth leap m

/-- The year and the day in it, from 0, of a number of days. -/
def yearOf (n : ℕ) : ℕ × ℕ :=
  let century := min 3 (n % 146097 / 36524)
  let inCentury := n % 146097 - century * 36524
  let single := min 3 (inCentury % 1461 / 365)
  (n / 146097 * 400 + century * 100 + inCentury / 1461 * 4 + single + 1,
    inCentury % 1461 - single * 365)

/-- The last month that begins by a day of the year. -/
def monthOf (leap : Bool) (day : ℕ) : ℕ :=
  (List.range 12).countP fun m => daysBeforeMonth leap (m + 1) ≤ day

/-- A cycle of 400 years has four centuries, each of them 25 times four years but for a day. -/
lemma daysBeforeYear_eq {a b c d : ℕ} (hb : b ≤ 3) (hc : c ≤ 24) (hd : d ≤ 3) :
    daysBeforeYear (a * 400 + b * 100 + c * 4 + d + 1)
      = a * 146097 + b * 36524 + c * 1461 + d * 365 := by
  have h400 : (a * 400 + b * 100 + c * 4 + d) / 400 = a := by omega
  have h100 : (a * 400 + b * 100 + c * 4 + d) / 100 = a * 4 + b := by omega
  have h4 : (a * 400 + b * 100 + c * 4 + d) / 4 = a * 100 + b * 25 + c := by omega
  rw [daysBeforeYear, Nat.add_sub_cancel, h400, h100, h4]
  omega

/-- The parts of a number of days: cycles, centuries, spans of four years, and years. -/
lemma yearOf_eq (n : ℕ) : ∃ a b c d r : ℕ, b ≤ 3 ∧ c ≤ 24 ∧ d ≤ 3 ∧
    yearOf n = (a * 400 + b * 100 + c * 4 + d + 1, r) ∧
    n = a * 146097 + b * 36524 + c * 1461 + d * 365 + r ∧
    (r < 365 ∨ r = 365 ∧ d = 3 ∧ (c ≠ 24 ∨ b = 3)) := by
  obtain ⟨b, hb⟩ : ∃ b, b = min 3 (n % 146097 / 36524) := ⟨_, rfl⟩
  obtain ⟨k, hk⟩ : ∃ k, k = n % 146097 - b * 36524 := ⟨_, rfl⟩
  obtain ⟨d, hd⟩ : ∃ d, d = min 3 (k % 1461 / 365) := ⟨_, rfl⟩
  have hcycle : n = n / 146097 * 146097 + b * 36524 + k := by omega
  have hspan : k = k / 1461 * 1461 + d * 365 + (k % 1461 - d * 365) := by omega
  refine ⟨n / 146097, b, k / 1461, d, k % 1461 - d * 365, by omega, by omega, by omega, ?_, ?_, ?_⟩
  · simp only [yearOf, ← hb, ← hk, ← hd]
  · linarith only [hcycle, hspan]
  · omega

lemma daysBeforeYear_yearOf (n : ℕ) : daysBeforeYear (yearOf n).1 + (yearOf n).2 = n := by
  obtain ⟨a, b, c, d, r, hb, hc, hd, hy, hn, -⟩ := yearOf_eq n
  rw [hy, daysBeforeYear_eq hb hc hd, hn]

/-- The last day of a year is there in a leap year only. -/
lemma yearOf_day_lt (n : ℕ) : (yearOf n).2 < if isLeap (yearOf n).1 then 366 else 365 := by
  obtain ⟨a, b, c, d, r, hb, hc, hd, hy, -, hr⟩ := yearOf_eq n
  have hleap : isLeap (a * 400 + b * 100 + c * 4 + d + 1) = true ↔ d = 3 ∧ (c ≠ 24 ∨ b = 3) := by
    simp only [isLeap, Bool.and_eq_true, Bool.or_eq_true, beq_iff_eq, bne_iff_ne]
    omega
  rw [hy]
  split_ifs with h
  · show r < 366
    omega
  · rw [hleap] at h
    show r < 365
    omega

lemma year_pos (n : ℕ) : 1 ≤ (yearOf n).1 := by
  simp only [yearOf]
  omega

lemma year_le {n : ℕ} (h : n < 3652059) : (yearOf n).1 ≤ 9999 := by
  simp only [yearOf]
  omega

/-- The month of a day is one of the twelve, and the day is in it. -/
lemma monthOf_spec {leap : Bool} {day : ℕ} (h : day < if leap then 366 else 365) :
    1 ≤ monthOf leap day ∧ monthOf leap day ≤ 12 ∧
      daysBeforeMonth leap (monthOf leap day) ≤ day ∧
      day - daysBeforeMonth leap (monthOf leap day) < daysInMonth leap (monthOf leap day) := by
  have key : ∀ leap : Bool, ∀ d : Fin (if leap then 366 else 365),
      1 ≤ monthOf leap d ∧ monthOf leap d ≤ 12 ∧
        daysBeforeMonth leap (monthOf leap d) ≤ d ∧
        (d : ℕ) - daysBeforeMonth leap (monthOf leap d) < daysInMonth leap (monthOf leap d) := by
    decide +kernel
  exact key leap ⟨day, h⟩

/-! ## Numbers of a fixed width -/

def digit (n : ℕ) : Char := Char.ofNat (48 + n)

def digits : ℕ → ℕ → List Char
  | 0, _ => []
  | w + 1, n => digit (n / 10 ^ w) :: digits w (n % 10 ^ w)

def readDigits : ℕ → Reader Char ℕ
  | 0, text => some (0, text)
  | w + 1, c :: text =>
    if c.isDigit then
      (readDigits w text).map fun r => ((c.toNat - 48) * 10 ^ w + r.1, r.2)
    else none
  | _ + 1, [] => none

lemma digit_spec {n : ℕ} (h : n < 10) : (digit n).isDigit = true ∧ (digit n).toNat - 48 = n := by
  have key : ∀ m : Fin 10, (digit m).isDigit = true ∧ (digit m).toNat - 48 = (m : ℕ) := by decide
  exact key ⟨n, h⟩

theorem readDigits_digits (rest : List Char) :
    ∀ {w n : ℕ}, n < 10 ^ w → readDigits w (digits w n ++ rest) = some (n, rest)
  | 0, n, h => by
    have hn : n = 0 := by simpa using h
    subst hn
    rfl
  | w + 1, n, h => by
    have hpos : 0 < 10 ^ w := by positivity
    have hlt : n / 10 ^ w < 10 := by
      rw [Nat.div_lt_iff_lt_mul hpos]
      rwa [pow_succ, mul_comm] at h
    obtain ⟨hd, hv⟩ := digit_spec hlt
    have ih := readDigits_digits rest (Nat.mod_lt n hpos)
    rw [digits, List.cons_append, readDigits, if_pos hd, ih, Option.map_some, hv,
      Nat.div_add_mod']

/-- One symbol. -/
def expect (p : Char → Bool) : Reader Char Char
  | c :: text => if p c then some (c, text) else none
  | [] => none

/-! ## Dates and times of day -/

/-- `YYYY-MM-DD`. -/
def dateText (year month day : ℕ) : List Char :=
  digits 4 year ++ '-' :: (digits 2 month ++ '-' :: digits 2 day)

/-- A day of a year by its month and the day in it. -/
def dayText (n : ℕ) : List Char :=
  let leap := isLeap (yearOf n).1
  let month := monthOf leap (yearOf n).2
  dateText (yearOf n).1 month ((yearOf n).2 - daysBeforeMonth leap month + 1)

/-- The number of days of a date that is there. -/
def readDate : Reader Char ℕ := fun text => do
  let (year, text) ← readDigits 4 text
  let (_, text) ← expect (· = '-') text
  let (month, text) ← readDigits 2 text
  let (_, text) ← expect (· = '-') text
  let (day, text) ← readDigits 2 text
  if 1 ≤ year ∧ 1 ≤ month ∧ month ≤ 12 ∧ 1 ≤ day ∧ day ≤ daysInMonth (isLeap year) month then
    some (daysBeforeYear year + daysBeforeMonth (isLeap year) month + (day - 1), text)
  else none

lemma daysInMonth_le {leap : Bool} {m : ℕ} (h : m ≤ 12) : daysInMonth leap m ≤ 31 := by
  have key : ∀ leap : Bool, ∀ m : Fin 13, daysInMonth leap m ≤ 31 := by decide
  exact key leap ⟨m, by omega⟩

lemma readDate_dateText {y m d : ℕ} (hy : 1 ≤ y) (hy' : y ≤ 9999) (hm : 1 ≤ m) (hm' : m ≤ 12)
    (hd : 1 ≤ d) (hd' : d ≤ daysInMonth (isLeap y) m) (rest : List Char) :
    readDate (dateText y m d ++ rest)
      = some (daysBeforeYear y + daysBeforeMonth (isLeap y) m + (d - 1), rest) := by
  have hmax : daysInMonth (isLeap y) m ≤ 31 := daysInMonth_le hm'
  have hyear := fun rest => readDigits_digits rest (w := 4) (n := y) (by omega)
  have hmonth := fun rest => readDigits_digits rest (w := 2) (n := m) (by omega)
  have hday := readDigits_digits rest (w := 2) (n := d) (by omega)
  have hvalid : 1 ≤ y ∧ 1 ≤ m ∧ m ≤ 12 ∧ 1 ≤ d ∧ d ≤ daysInMonth (isLeap y) m :=
    ⟨hy, hm, hm', hd, hd'⟩
  simp [readDate, dateText, expect, hyear, hmonth, hday, hvalid]

/-- Every day of the years up to 9999 is read back. -/
theorem readDate_dayText {n : ℕ} (h : n < 3652059) (rest : List Char) :
    readDate (dayText n ++ rest) = some (n, rest) := by
  obtain ⟨hm, hm', hbefore, hin⟩ := monthOf_spec (yearOf_day_lt n)
  have hdays := daysBeforeYear_yearOf n
  rw [dayText, readDate_dateText (year_pos n) (year_le h) hm hm' (by omega) (by omega)]
  congr 2
  omega

/-- The digits after the second, if there are any. -/
def fractionText (n : ℕ) : List Char := if n = 0 then [] else '.' :: digits 6 n

def readFraction : Reader Char ℕ
  | '.' :: text => readDigits 6 text
  | text => some (0, text)

/-- `HH:MM:SS` and a fraction, of the microseconds of a day. -/
def timeText (n : ℕ) : List Char :=
  digits 2 (n / 3600000000) ++ ':' :: (digits 2 (n / 60000000 % 60) ++ ':' ::
    (digits 2 (n / 1000000 % 60) ++ fractionText (n % 1000000)))

def readTime : Reader Char ℕ := fun text => do
  let (hour, text) ← readDigits 2 text
  let (_, text) ← expect (· = ':') text
  let (minute, text) ← readDigits 2 text
  let (_, text) ← expect (· = ':') text
  let (second, text) ← readDigits 2 text
  let (fraction, text) ← readFraction text
  if hour < 24 ∧ minute < 60 ∧ second < 60 then
    some (((hour * 60 + minute) * 60 + second) * 1000000 + fraction, text)
  else none

lemma readFraction_fractionText {n : ℕ} (h : n < 1000000) {rest : List Char}
    (hr : ∀ text, rest ≠ '.' :: text) :
    readFraction (fractionText n ++ rest) = some (n, rest) := by
  unfold fractionText
  split_ifs with hn
  · rw [List.nil_append, readFraction.eq_2 _ hr, hn]
  · exact readDigits_digits rest (w := 6) h

/-- Every time of a day is read back, if no fraction follows it. -/
theorem readTime_timeText {n : ℕ} (h : n < 86400000000) {rest : List Char}
    (hr : ∀ text, rest ≠ '.' :: text) : readTime (timeText n ++ rest) = some (n, rest) := by
  have hhour := fun rest => readDigits_digits rest (w := 2) (n := n / 3600000000) (by omega)
  have hminute := fun rest => readDigits_digits rest (w := 2) (n := n / 60000000 % 60) (by omega)
  have hsecond := fun rest => readDigits_digits rest (w := 2) (n := n / 1000000 % 60) (by omega)
  have hfraction := readFraction_fractionText (n := n % 1000000) (by omega) hr
  have hvalid : n / 3600000000 < 24 ∧ n / 60000000 % 60 < 60 ∧ n / 1000000 % 60 < 60 := by omega
  have hsum : ((n / 3600000000 * 60 + n / 60000000 % 60) * 60 + n / 1000000 % 60) * 1000000
      + n % 1000000 = n := by omega
  simp [readTime, timeText, expect, hhour, hminute, hsecond, hfraction, hvalid, hsum]

/-! ## Instants -/

/-- The microseconds from the beginning of year 1 to that of 1970. -/
def epoch : ℤ := 719162 * 86400000000

/-- The instants of the years from 1 to 9999. -/
def InRange (t : ℤ) : Prop := 0 ≤ t + epoch ∧ t + epoch < 3652059 * 86400000000

instance (t : ℤ) : Decidable (InRange t) := inferInstanceAs (Decidable (_ ∧ _))

/-- An instant in UTC. -/
def isoformat (t : ℤ) : String :=
  let n := (t + epoch).toNat
  String.ofList (dayText (n / 86400000000) ++ 'T' :: (timeText (n % 86400000000) ++
    ['+', '0', '0', ':', '0', '0']))

/-- The minutes of an offset; `none` if there is none. -/
def readOffset : List Char → Option (Option ℤ)
  | [] => some none
  | ['Z'] => some (some 0)
  | sign :: text => do
    let (hour, text) ← readDigits 2 text
    let (_, text) ← expect (· = ':') text
    let (minute, text) ← readDigits 2 text
    if hour < 24 ∧ minute < 60 ∧ text = [] then
      if sign = '+' then some (some (hour * 60 + minute))
      else if sign = '-' then some (some (-(hour * 60 + minute)))
      else none
    else none

/-- The wall time of a text of the forms that are written here, and its offset. -/
def readTimestamp (text : String) : Option (ℤ × Option ℤ) := do
  let (days, text) ← readDate text.toList
  let (_, text) ← expect (fun _ => true) text
  let (time, text) ← readTime text
  let offset ← readOffset text
  some (days * 86400000000 + time - epoch, offset)

/-- A wall time, without an offset. -/
def wallText (t : ℤ) : List Char :=
  let n := (t + epoch).toNat
  dayText (n / 86400000000) ++ 'T' :: timeText (n % 86400000000)

/-- A wall time is read back whatever its offset is. -/
theorem readTimestamp_wallText {t : ℤ} (h : InRange t) {suffix : List Char} {offset : Option ℤ}
    (hfraction : ∀ text, suffix ≠ '.' :: text) (hoffset : readOffset suffix = some offset) :
    readTimestamp (String.ofList (wallText t ++ suffix)) = some (t, offset) := by
  obtain ⟨hlow, hhigh⟩ := h
  obtain ⟨n, hn⟩ := Int.eq_ofNat_of_zero_le hlow
  have hlt : n < 3652059 * 86400000000 := by omega
  have hdate := fun rest => readDate_dayText (n := n / 86400000000) (by omega) rest
  have htime : readTime (timeText (n % 86400000000) ++ suffix)
      = some (n % 86400000000, suffix) := readTime_timeText (by omega) hfraction
  have hsum : ((n / 86400000000 : ℕ) : ℤ) * 86400000000 + ((n % 86400000000 : ℕ) : ℤ) - epoch
      = t := by omega
  simp only [readTimestamp, wallText, hn, Int.toNat_natCast, String.toList_ofList, hdate,
    List.append_assoc, List.cons_append, Option.bind_eq_bind, Option.bind_some, expect, if_true,
    htime, hoffset, hsum]

/-- An instant in UTC, as `Z`. -/
def zuluText (t : ℤ) : String := String.ofList (wallText t ++ ['Z'])

theorem readTimestamp_zuluText {t : ℤ} (h : InRange t) :
    readTimestamp (zuluText t) = some (t, some 0) :=
  readTimestamp_wallText h (by simp) rfl

end Calendar
