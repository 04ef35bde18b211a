import RecoveryOS.Lib.Clock
import RecoveryOS.Safety.Policy
import RecoveryOS.Voice.Contact

/-!
# Quiet hours through clock changes

`ZoneInfo` reads a wall time at the offsets of a list of clock changes: fold 0 is the earlier
reading and fold 1 the later one. `_resolve_quiet_end` moves through a skipped hour a minute at a
time and takes the later reading of a repeated one, so the instant it finds is the last that shows
the wall time it stops at (`quietEnd_spec`), and it comes after every instant that shows an earlier
wall time. The search is studied where time has no ends (`Zone.quietEnd`): what the code finds it
finds there too, and within a week of the ends of the years 1 to 9999 is all that it can miss.

This needs the changes to be a minute apart on the wall. A clock that goes back and, while it
repeats an hour, forward again has quiet hours that end before they are asked about
(`quiet_end_before_now`).
-/

namespace RecoveryOS.Safety

open Clock

/-- `ZoneInfo`, of a zone with these clock changes: each is an instant and the offset from it on. -/
def zoneInfo (first : ℤ) (changes : List (Instant × ℤ)) : Zone where
  offset := offsetAt first changes
  wallOffset := readingOffset first changes

/-! ## The end of the quiet hours -/

namespace Zone

/-- `_valid_local_candidates` where time has no ends. -/
def candidates (z : Zone) (naive : ℤ) : List Instant :=
  ([false, true].map fun fold => naive - z.wallOffset naive fold).filter fun t =>
    z.wall t = naive

/-- `resolveFrom` where time has no ends. -/
def firstShown (z : Zone) (naive : ℤ) : ℕ → Option Instant
  | 0 => none
  | n + 1 =>
    match z.candidates naive with
    | [] => z.firstShown (naive + minute) n
    | t :: rest => some (rest.foldl max t)

/-- `_resolve_quiet_end` where time has no ends. -/
def quietEnd (z : Zone) (localDate endTime : ℤ) : Option Instant :=
  z.firstShown (localDate * day + endTime) 181

end Zone

section
variable {first : ℤ} {changes : List (Instant × ℤ)} {w : ℤ}

/-- Three hours of minutes show some candidate if no change skips more. -/
def ShortGaps (first : ℤ) (changes : List (Instant × ℤ)) : Prop :=
  ∀ c ∈ shifts first changes, c.after - c.before < 180 * minute

lemma mem_candidates {z : Zone} {t : Instant} :
    t ∈ z.candidates w ↔
      (t = w - z.wallOffset w false ∨ t = w - z.wallOffset w true) ∧ z.wall t = w := by
  simp [Zone.candidates]

lemma firstShown_of_last {n : ℕ}
    (h : Last first changes w (w - readingOffset first changes w true)) :
    (zoneInfo first changes).firstShown w (n + 1) =
      some (w - readingOffset first changes w true) := by
  set z := zoneInfo first changes with hz
  set late := w - readingOffset first changes w true with hlate
  set early := w - readingOffset first changes w false with hearly
  have hcand : z.candidates w =
      (if z.wall early = w then [early] else []) ++ [late] := by
    have hshows : z.wall late = w := h.shows
    have hlist : z.candidates w = [early, late].filter fun t => z.wall t = w := rfl
    rw [hlist]
    by_cases he : z.wall early = w
    · simp [he, hshows]
    · simp [he, hshows]
  unfold Zone.firstShown
  rw [hcand]
  split_ifs with he
  · have hle : early ≤ late := h.le_of_wall early he
    show some (max early late) = some late
    rw [max_eq_right hle]
  · rfl

lemma firstShown_of_none {n : ℕ} (h : ∀ t, wall first changes t ≠ w) :
    (zoneInfo first changes).firstShown w (n + 1) =
      (zoneInfo first changes).firstShown (w + minute) n := by
  have hnil : (zoneInfo first changes).candidates w = [] := by
    rw [List.eq_nil_iff_forall_not_mem]
    intro t ht
    exact h t (mem_candidates.mp ht).2
  conv_lhs => unfold Zone.firstShown
  rw [hnil]

/-- From a skipped wall time the search goes on to the first minute after the gap. -/
lemma firstShown_of_skips (apart : Apart minute first changes) {c : Shift}
    (hc : c ∈ shifts first changes) : ∀ {n : ℕ} {w : ℤ}, c.Skips w → c.high - w ≤ n * minute →
      ∃ t w', (zoneInfo first changes).firstShown w (n + 1) = some t ∧ Last first changes w' t ∧
        w ≤ w' ∧ w' < c.high + minute := by
  have hm : (0 : ℤ) ≤ minute := by decide
  intro n
  induction n with
  | zero =>
    intro w hskip hn
    have := hskip.lt_high
    simp only [Nat.cast_zero, zero_mul] at hn
    omega
  | succ n ih =>
    intro w hskip hn
    rw [firstShown_of_none (wall_ne_of_skips hm hskip apart hc)]
    rcases lt_or_ge (w + minute) c.high with hlt | hge
    · have hnext : c.Skips (w + minute) := by
        refine ⟨?_, ?_⟩
        · have := hskip.1
          omega
        · rw [← hskip.high_eq]
          exact hlt
      have hfuel : c.high - (w + minute) ≤ n * minute := by
        push_cast at hn
        linarith
      obtain ⟨t, w', hres, hlast, hle, hlt'⟩ := ih hnext hfuel
      exact ⟨t, w', hres, hlast, by omega, hlt'⟩
    · have hlt := hskip.lt_high
      rcases later_reading hm (w + minute) apart with hlast | ⟨d, hd, hskipd⟩
      · exact ⟨_, w + minute, firstShown_of_last hlast, hlast, by omega, by omega⟩
      · exact absurd hskipd (not_skips_of_high_le apart hc hd hge (by omega))

/-- The end of the quiet hours is found, as the last instant that shows the wall time they end at
or, if a change skips that, one that is less than a minute past the gap. -/
theorem quietEnd_spec (apart : Apart minute first changes)
    (short : ShortGaps first changes) (date stop : ℤ) :
    ∃ t w', (zoneInfo first changes).quietEnd date stop = some t ∧
      Last first changes w' t ∧ date * day + stop ≤ w' ∧
      (w' = date * day + stop ∨ ∃ c ∈ shifts first changes, c.Skips (date * day + stop) ∧
        w' < date * day + stop + (c.after - c.before + minute)) := by
  rcases later_reading (by decide) (date * day + stop) apart with hlast | ⟨c, hc, hskip⟩
  · exact ⟨_, _, firstShown_of_last hlast, hlast, le_rfl, .inl rfl⟩
  · have hlen := short c hc
    have hlow := hskip.1
    have hhigh := hskip.high_eq
    have hfuel : c.high - (date * day + stop) ≤ ((180 : ℕ) : ℤ) * minute := by
      push_cast
      omega
    obtain ⟨t, w', hres, hlast, hle, hlt⟩ := firstShown_of_skips apart hc hskip hfuel
    exact ⟨t, w', hres, hlast, hle, .inr ⟨c, hc, hskip, by omega⟩⟩

end

/-! ## The search within the years 1 to 9999 -/

lemma datetime_of_inRange {t : ℤ} (h : Calendar.InRange t) : datetime t = .ok t := if_pos h

lemma datetime_eq_ok_iff {t t' : ℤ} : datetime t = .ok t' ↔ Calendar.InRange t ∧ t = t' := by
  unfold datetime
  split_ifs with h
  · simp [h]
  · simp [h]

/-- What `tzinfo` demands of a zone: its offsets are under a day. -/
structure Zone.Bounded (z : Zone) : Prop where
  offset : ∀ t, -day < z.offset t ∧ z.offset t < day
  wallOffset : ∀ w fold, -day < z.wallOffset w fold ∧ z.wallOffset w fold < day

lemma zoneInfo_bounded {first : ℤ} {changes : List (Instant × ℤ)}
    (h : ∀ o ∈ first :: changes.map Prod.snd, -day < o ∧ o < day) :
    (zoneInfo first changes).Bounded where
  offset t := h _ (offsetAt_mem t first changes)
  wallOffset w fold := h _ (readingOffset_mem w fold first changes)

/-- An instant a week or more from the ends of the years 1 to 9999. -/
def Amid (now : Instant) : Prop :=
  Calendar.InRange (now - 7 * day) ∧ Calendar.InRange (now + 7 * day)

section
variable {z : Zone} {w : ℤ} {t : Instant}

lemma Zone.Bounded.astimezone (hz : z.Bounded) (hlow : Calendar.InRange (t - day))
    (hhigh : Calendar.InRange (t + day)) : z.astimezone t = .ok (z.wall t) := by
  obtain ⟨hmin, hmax⟩ := hz.offset t
  apply datetime_of_inRange
  unfold Zone.wall
  exact ⟨by linarith [hlow.1], by linarith [hhigh.2]⟩

lemma Zone.Bounded.roundtrip (hz : z.Bounded) (fold : Bool)
    (hlow : Calendar.InRange (w - 2 * day)) (hhigh : Calendar.InRange (w + 2 * day)) :
    z.roundtrip w fold = .ok (w - z.wallOffset w fold, z.wall (w - z.wallOffset w fold)) := by
  obtain ⟨hmin, hmax⟩ := hz.wallOffset w fold
  have hday : 0 < day := by decide
  have hutc : datetime (w - z.wallOffset w fold) = .ok (w - z.wallOffset w fold) :=
    datetime_of_inRange ⟨by linarith [hlow.1], by linarith [hhigh.2]⟩
  have hshown : z.astimezone (w - z.wallOffset w fold) =
      .ok (z.wall (w - z.wallOffset w fold)) :=
    hz.astimezone ⟨by linarith [hlow.1], by linarith [hhigh.2]⟩
      ⟨by linarith [hlow.1], by linarith [hhigh.2]⟩
  unfold Zone.roundtrip
  simp only [bind, Except.bind, hutc, hshown]
  rfl

lemma Zone.Bounded.validLocalCandidates (hz : z.Bounded)
    (hlow : Calendar.InRange (w - 2 * day)) (hhigh : Calendar.InRange (w + 2 * day)) :
    z.validLocalCandidates w = .ok (z.candidates w) := by
  unfold Zone.validLocalCandidates
  simp only [bind, Except.bind, hz.roundtrip false hlow hhigh, hz.roundtrip true hlow hhigh]
  simp only [Zone.candidates, List.map_cons, List.map_nil, List.filter_cons, List.filter_nil]
  split_ifs <;> rfl

/-- Two days from the ends the search finds what there is. -/
lemma Zone.Bounded.resolveFrom (hz : z.Bounded) :
    ∀ {n : ℕ} {w : ℤ}, Calendar.InRange (w - 2 * day) →
      Calendar.InRange (w + n * minute + 2 * day) → z.firstShown w n = some t →
      z.resolveFrom w n = .ok t := by
  have hmin : 0 < minute := by decide
  have hday : minute < day := by decide
  intro n
  induction n with
  | zero =>
    intro w _ _ h
    cases h
  | succ n ih =>
    intro w hlow hhigh h
    have hn : (0 : ℤ) ≤ n * minute := by positivity
    push_cast at hhigh
    have hat : Calendar.InRange (w + 2 * day) :=
      ⟨by linarith [hlow.1], by linarith [hhigh.2]⟩
    have hw : datetime w = .ok w :=
      datetime_of_inRange ⟨by linarith [hlow.1], by linarith [hat.2]⟩
    unfold Zone.firstShown at h
    unfold Zone.resolveFrom
    rw [hw]
    dsimp only
    rw [hz.validLocalCandidates hlow hat]
    cases hc : z.candidates w with
    | nil =>
      rw [hc] at h
      refine ih ⟨by linarith [hlow.1], by linarith [hat.2]⟩ ?_ h
      exact ⟨by linarith [hlow.1], by linarith [hhigh.2]⟩
    | cons x rest =>
      rw [hc] at h
      exact congrArg Except.ok (Option.some.inj h)

lemma roundtrip_sound {fold : Bool} {p : Instant × ℤ} (h : z.roundtrip w fold = .ok p) :
    p = (w - z.wallOffset w fold, z.wall (w - z.wallOffset w fold)) := by
  unfold Zone.roundtrip at h
  simp only [bind, Except.bind] at h
  split at h
  · cases h
  · next utc hutc =>
    obtain ⟨-, rfl⟩ := datetime_eq_ok_iff.mp hutc
    split at h
    · cases h
    · next shown hshown =>
      obtain ⟨-, rfl⟩ := datetime_eq_ok_iff.mp hshown
      exact (Except.ok.inj h).symm

lemma validLocalCandidates_sound {found : List Instant}
    (h : z.validLocalCandidates w = .ok found) : found = z.candidates w := by
  unfold Zone.validLocalCandidates at h
  simp only [bind, Except.bind] at h
  split at h
  · cases h
  · next earlier hearlier =>
    split at h
    · cases h
    · next later hlater =>
      obtain rfl := roundtrip_sound hearlier
      obtain rfl := roundtrip_sound hlater
      rw [← Except.ok.inj h]
      simp only [Zone.candidates, List.map_cons, List.map_nil, List.filter_cons, List.filter_nil]
      split_ifs <;> rfl

/-- What the search finds is there. -/
lemma resolveFrom_sound : ∀ {n : ℕ} {w : ℤ}, z.resolveFrom w n = .ok t →
    z.firstShown w n = some t := by
  intro n
  induction n with
  | zero =>
    intro w h
    cases h
  | succ n ih =>
    intro w h
    unfold Zone.resolveFrom at h
    unfold Zone.firstShown
    split at h
    · cases h
    · next naive hnaive =>
      obtain ⟨-, rfl⟩ := datetime_eq_ok_iff.mp hnaive
      split at h
      · cases h
      · next hnil =>
        rw [← validLocalCandidates_sound hnil]
        exact ih h
      · next x rest hcons =>
        rw [← validLocalCandidates_sound hcons]
        exact congrArg some (Except.ok.inj h)

end

/-! ## The interval -/

namespace QuietHours

/-- Both bounds are times of the day. -/
def InDay (q : QuietHours) : Prop :=
  (0 ≤ q.start ∧ q.start < day) ∧ 0 ≤ q.stop ∧ q.stop < day

/-- How long the day is outside the quiet hours. -/
def window (q : QuietHours) : ℤ :=
  if q.start < q.stop then day - (q.stop - q.start) else q.start - q.stop

/-- The window is a minute longer than any gap. -/
def OutlastsGaps (q : QuietHours) (first : ℤ) (changes : List (Instant × ℤ)) : Prop :=
  ∀ c ∈ shifts first changes, c.before < c.after → c.after - c.before + minute ≤ q.window

/-- The voice gate's reading of an instant. -/
def Inside (q : QuietHours) (z : Zone) (now : Instant) : Prop :=
  Voice.insideQuietHours (z.wall now % day) q.start q.stop = true

instance (q : QuietHours) (z : Zone) (now : Instant) : Decidable (q.Inside z now) :=
  inferInstanceAs (Decidable (_ = true))

variable {q : QuietHours} {z : Zone} {now : Instant}

lemma inside_iff : q.Inside z now ↔
    if q.start < q.stop then q.start ≤ z.wall now % day ∧ z.wall now % day < q.stop
    else q.start ≤ z.wall now % day ∨ z.wall now % day < q.stop := by
  unfold Inside Voice.insideQuietHours
  rw [if_neg q.ne]
  split_ifs <;> simp

lemma endDate_eq_none_iff : q.endDate z now = none ↔ ¬ q.Inside z now := by
  rw [inside_iff]
  simp only [endDate]
  split_ifs with h1 h2 h3 h4
  · simp [h2]
  · simp [h2]
  · simp [h3]
  · simp [h4]
  · simp [h3, h4]

lemma wall_lt_of_endDate (hd : q.InDay) {date : ℤ} (h : q.endDate z now = some date) :
    z.wall now < date * day + q.stop := by
  obtain ⟨-, hs, -⟩ := hd
  have hdm := Int.mul_ediv_add_emod (z.wall now) day
  have hlt := Int.emod_lt_of_pos (z.wall now) (by decide : (0 : ℤ) < day)
  simp only [endDate] at h
  split_ifs at h with h1 h2 h3 h4
  · obtain rfl := Option.some.inj h
    linarith [h2.2]
  · obtain rfl := Option.some.inj h
    linarith
  · obtain rfl := Option.some.inj h
    linarith

/-- The quiet hours end today or tomorrow. -/
lemma near_endDate {date : ℤ} (h : q.endDate z now = some date) :
    z.wall now - day < date * day ∧ date * day ≤ z.wall now + day := by
  have hdm := Int.mul_ediv_add_emod (z.wall now) day
  have hnonneg := Int.emod_nonneg (z.wall now) (by decide : day ≠ 0)
  have hlt := Int.emod_lt_of_pos (z.wall now) (by decide : (0 : ℤ) < day)
  have hday : 0 < day := by decide
  simp only [endDate] at h
  split_ifs at h
  · obtain rfl := Option.some.inj h
    exact ⟨by linarith, by linarith⟩
  · obtain rfl := Option.some.inj h
    exact ⟨by linarith, by linarith⟩
  · obtain rfl := Option.some.inj h
    exact ⟨by linarith, by linarith⟩

/-- Within the window from the end of the quiet hours on, a wall time is outside them. -/
lemma not_inside_of_window (hd : q.InDay) {date : ℤ} (hle : date * day + q.stop ≤ z.wall now)
    (hlt : z.wall now < date * day + q.stop + q.window) : ¬ q.Inside z now := by
  obtain ⟨⟨hs, hs'⟩, he, he'⟩ := hd
  rw [inside_iff]
  unfold window at hlt
  generalize z.wall now = w at *
  simp only [day] at *
  split_ifs at hlt ⊢ with h <;> omega

end QuietHours

/-! ## Resolution -/

/-- What `quiet_hours_delay_until` should do at an instant: it asks for a delay exactly inside the
quiet hours, and then to a later instant that is outside them. -/
structure Resolved (z : Zone) (q : QuietHours) (now : Instant) : Prop where
  none_iff : quietHoursDelayUntil z q now = .ok none ↔ ¬ q.Inside z now
  later : q.Inside z now → ∃ t, quietHoursDelayUntil z q now = .ok (some t) ∧ now < t ∧
    ¬ q.Inside z t ∧ quietHoursDelayUntil z q t = .ok none

section
variable {z : Zone} {q : QuietHours} {now t : Instant} {date : ℤ}

lemma quietHoursDelayUntil_of_outside (hlow : Calendar.InRange (z.wall now))
    (h : ¬ q.Inside z now) : quietHoursDelayUntil z q now = .ok none := by
  have hwall : z.astimezone now = .ok (z.wall now) := datetime_of_inRange hlow
  unfold quietHoursDelayUntil
  simp only [bind, Except.bind, hwall, QuietHours.endDate_eq_none_iff.mpr h]
  rfl

/-- A week from the ends of the years, the end that there is is found. -/
lemma Zone.Bounded.quietHoursDelayUntil (hz : z.Bounded) (hd : q.InDay) (hnow : Amid now)
    (hdate : q.endDate z now = some date) (hend : z.quietEnd date q.stop = some t) :
    Safety.quietHoursDelayUntil z q now = .ok (some t) := by
  obtain ⟨hlow, hhigh⟩ := hnow
  obtain ⟨hmin, hmax⟩ := hz.offset now
  obtain ⟨hfrom, hto⟩ := QuietHours.near_endDate hdate
  obtain ⟨-, hstop, hstop'⟩ := hd
  unfold Zone.wall at hfrom hto
  have hday : 181 * minute < day := by decide
  have hpos : 0 < minute := by decide
  have hwall : z.astimezone now = .ok (z.wall now) :=
    hz.astimezone ⟨by linarith [hlow.1], by linarith [hhigh.2]⟩
      ⟨by linarith [hlow.1], by linarith [hhigh.2]⟩
  have hat : datetime (date * day) = .ok (date * day) :=
    datetime_of_inRange ⟨by linarith [hlow.1], by linarith [hhigh.2]⟩
  have hres : z.resolveQuietEnd date q.stop = .ok t := by
    refine hz.resolveFrom ?_ ?_ hend
    · exact ⟨by linarith [hlow.1], by linarith [hhigh.2]⟩
    · push_cast
      exact ⟨by linarith [hlow.1], by linarith [hhigh.2]⟩
  unfold Safety.quietHoursDelayUntil
  simp only [bind, Except.bind, hwall, hdate, hat, hres]
  rfl

/-- An end that is found is there. -/
lemma quietHoursDelayUntil_sound (h : quietHoursDelayUntil z q now = .ok (some t)) :
    ∃ date, q.endDate z now = some date ∧ z.quietEnd date q.stop = some t := by
  unfold quietHoursDelayUntil at h
  simp only [bind, Except.bind] at h
  split at h
  · cases h
  · split at h
    · cases h
    · next date hdate =>
      split at h
      · cases h
      · split at h
        · cases h
        · next quietEnd hres =>
          obtain rfl := Option.some.inj (Except.ok.inj h)
          exact ⟨date, hdate, resolveFrom_sound hres⟩

end

section
variable {first : ℤ} {changes : List (Instant × ℤ)} {q : QuietHours} {now t : Instant} {date : ℤ}

/-- The end of the quiet hours comes later. -/
lemma lt_quietEnd (apart : Apart minute first changes) (short : ShortGaps first changes)
    (hd : q.InDay) (hdate : q.endDate (zoneInfo first changes) now = some date)
    (hend : (zoneInfo first changes).quietEnd date q.stop = some t) : now < t := by
  obtain ⟨t', w, hres, hlast, hle, -⟩ := quietEnd_spec apart short date q.stop
  rw [hend] at hres
  obtain rfl := Option.some.inj hres
  apply hlast.lt_of_wall
  exact lt_of_lt_of_le (QuietHours.wall_lt_of_endDate hd hdate) hle

/-- At the end of the quiet hours the clock shows when they end, or a time within a minute of the
gap that skips that. -/
lemma wall_quietEnd (apart : Apart minute first changes) (short : ShortGaps first changes)
    (hend : (zoneInfo first changes).quietEnd date q.stop = some t) :
    date * day + q.stop ≤ wall first changes t ∧
      (wall first changes t = date * day + q.stop ∨
        ∃ c ∈ shifts first changes, c.Skips (date * day + q.stop) ∧
          wall first changes t < date * day + q.stop + (c.after - c.before + minute)) := by
  obtain ⟨t', w, hres, hlast, hle, hw⟩ := quietEnd_spec apart short date q.stop
  rw [hend] at hres
  obtain rfl := Option.some.inj hres
  rw [hlast.shows]
  exact ⟨hle, hw⟩

/-- Such a time is outside the quiet hours if the window outlasts the gaps. -/
lemma not_inside_quietEnd (apart : Apart minute first changes) (short : ShortGaps first changes)
    (hd : q.InDay) (wide : q.OutlastsGaps first changes)
    (hend : (zoneInfo first changes).quietEnd date q.stop = some t) :
    ¬ q.Inside (zoneInfo first changes) t := by
  obtain ⟨hle, hw⟩ := wall_quietEnd apart short hend
  have hwindow : wall first changes t < date * day + q.stop + q.window := by
    rcases hw with hw | ⟨c, hc, hskip, hlt⟩
    · have : 0 < q.window := by
        obtain ⟨⟨hs, hs'⟩, he, he'⟩ := hd
        have := q.ne
        unfold QuietHours.window
        split_ifs <;> omega
      omega
    · have := wide c hc (by have := hskip.1; have := hskip.2; omega)
      omega
  exact QuietHours.not_inside_of_window hd hle hwindow

/-- The wall time then is within four days of now. -/
lemma inRange_quietEnd (apart : Apart minute first changes) (short : ShortGaps first changes)
    (hz : (zoneInfo first changes).Bounded) (hd : q.InDay) (hnow : Amid now)
    (hdate : q.endDate (zoneInfo first changes) now = some date)
    (hend : (zoneInfo first changes).quietEnd date q.stop = some t) :
    Calendar.InRange ((zoneInfo first changes).wall t) := by
  obtain ⟨hlow, hhigh⟩ := hnow
  obtain ⟨hmin, hmax⟩ := hz.offset now
  obtain ⟨hfrom, hto⟩ := QuietHours.near_endDate hdate
  obtain ⟨-, hstop, hstop'⟩ := hd
  obtain ⟨hle, hw⟩ := wall_quietEnd apart short hend
  have hday : 181 * minute < day := by decide
  have hpos : 0 < minute := by decide
  have hlt : wall first changes t < date * day + q.stop + day := by
    rcases hw with hw | ⟨c, hc, -, hlt⟩
    · linarith
    · linarith [short c hc]
  unfold Zone.wall at hfrom hto
  show Calendar.InRange (wall first changes t)
  exact ⟨by linarith [hlow.1], by linarith [hhigh.2]⟩

theorem quiet_hours_resolved (apart : Apart minute first changes)
    (short : ShortGaps first changes)
    (under : ∀ o ∈ first :: changes.map Prod.snd, -day < o ∧ o < day) (hd : q.InDay)
    (wide : q.OutlastsGaps first changes) {now : Instant} (hnow : Amid now) :
    Resolved (zoneInfo first changes) q now := by
  set z := zoneInfo first changes with hz
  have bounded : z.Bounded := zoneInfo_bounded under
  have hlater : q.Inside z now → ∃ t, quietHoursDelayUntil z q now = .ok (some t) ∧ now < t ∧
      ¬ q.Inside z t ∧ Calendar.InRange (z.wall t) := by
    intro hin
    obtain ⟨date, hdate⟩ : ∃ date, q.endDate z now = some date := by
      rw [← Option.isSome_iff_exists, Option.isSome_iff_ne_none]
      intro hnone
      exact QuietHours.endDate_eq_none_iff.mp hnone hin
    obtain ⟨t, -, hend, -⟩ := quietEnd_spec apart short date q.stop
    exact ⟨t, bounded.quietHoursDelayUntil hd hnow hdate hend, lt_quietEnd apart short hd hdate hend,
      not_inside_quietEnd apart short hd wide hend,
      inRange_quietEnd apart short bounded hd hnow hdate hend⟩
  have hwall : Calendar.InRange (z.wall now) := by
    obtain ⟨hmin, hmax⟩ := bounded.offset now
    have hday : 0 < day := by decide
    unfold Zone.wall
    exact ⟨by linarith [hnow.1.1], by linarith [hnow.2.2]⟩
  constructor
  · constructor
    · intro hnone hin
      obtain ⟨t, ht, -⟩ := hlater hin
      rw [hnone] at ht
      cases ht
    · exact quietHoursDelayUntil_of_outside hwall
  · intro hin
    obtain ⟨t, ht, hlt, hout, hrange⟩ := hlater hin
    exact ⟨t, ht, hlt, hout, quietHoursDelayUntil_of_outside hrange hout⟩

end

/-- An hour forward on one day and back on another, each an hour after midnight at offset zero. -/
def summerTime : List (Instant × ℤ) :=
  [(90 * day + 60 * minute, 120 * minute), (300 * day + 60 * minute, 60 * minute)]

/-- From 20:00 to 02:30. -/
def untilHalfPastTwo : QuietHours := ⟨1200 * minute, 150 * minute, by decide⟩

lemma summerTime_under :
    ∀ o ∈ 60 * minute :: summerTime.map Prod.snd, -day < o ∧ o < day := by
  decide

theorem summerTime_resolved :
    Apart minute (60 * minute) summerTime ∧ ShortGaps (60 * minute) summerTime ∧
      untilHalfPastTwo.InDay ∧ untilHalfPastTwo.OutlastsGaps (60 * minute) summerTime ∧
      Amid (90 * day + 30 * minute) ∧
      untilHalfPastTwo.Inside (zoneInfo (60 * minute) summerTime) (90 * day + 30 * minute) ∧
      Resolved (zoneInfo (60 * minute) summerTime) untilHalfPastTwo (90 * day + 30 * minute) := by
  have apart : Apart minute (60 * minute) summerTime := by unfold Apart; decide
  have short : ShortGaps (60 * minute) summerTime := by unfold ShortGaps; decide
  have inDay : untilHalfPastTwo.InDay := by unfold QuietHours.InDay; decide
  have wide : untilHalfPastTwo.OutlastsGaps (60 * minute) summerTime := by
    unfold QuietHours.OutlastsGaps
    decide
  have amid : Amid (90 * day + 30 * minute) := by unfold Amid; decide
  exact ⟨apart, short, inDay, wide, amid, by decide,
    quiet_hours_resolved apart short summerTime_under inDay wide amid⟩

/-- The clock goes back an hour and twenty minutes later forward again. -/
def backAndForth : List (Instant × ℤ) := [(60 * minute, 0), (80 * minute, 60 * minute)]

/-- From 20:00 to 01:30. -/
def untilHalfPastOne : QuietHours := ⟨1200 * minute, 90 * minute, by decide⟩

/-- 21:00 UTC on the last day of the year 9999. -/
def lastEvening : Instant := 2932896 * day + 1260 * minute

/-- While the hour is repeated, the quiet hours end at the one instant that shows 01:30, which has
passed; and on the last evening there is no date on which they could end. -/
theorem quiet_end_before_now :
    (backAndForth.map Prod.fst).Pairwise (· < ·) ∧ ShortGaps (60 * minute) backAndForth ∧
      untilHalfPastOne.InDay ∧ untilHalfPastOne.OutlastsGaps (60 * minute) backAndForth ∧
      ¬ Resolved (zoneInfo (60 * minute) backAndForth) untilHalfPastOne (65 * minute) ∧
      Calendar.InRange lastEvening ∧
      quietHoursDelayUntil (zoneInfo 0 []) untilHalfPastOne lastEvening =
        .error "date value out of range" := by
  have short : ShortGaps (60 * minute) backAndForth := by unfold ShortGaps; decide
  have inDay : untilHalfPastOne.InDay := by unfold QuietHours.InDay; decide
  have wide : untilHalfPastOne.OutlastsGaps (60 * minute) backAndForth := by
    unfold QuietHours.OutlastsGaps
    decide
  refine ⟨by decide, short, inDay, wide, fun h => ?_, by decide, rfl⟩
  have hpast : quietHoursDelayUntil (zoneInfo (60 * minute) backAndForth) untilHalfPastOne
      (65 * minute) = .ok (some (30 * minute)) := by rfl
  obtain ⟨t, ht, hlt, -⟩ := h.later (by decide)
  rw [hpast] at ht
  obtain rfl := Option.some.inj (Except.ok.inj ht)
  exact absurd hlt (by decide)

end RecoveryOS.Safety
