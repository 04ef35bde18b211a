import Mathlib.Tactic

/-!
# Clocks with changes

A wall clock runs at an offset from the instants that changes at some of them. A change forward
skips an interval of wall times and a change back repeats one. A wall time is looked up in the
offsets with a choice of the earlier or the later reading.

On a clock whose changes are apart on the wall, the later reading of a wall time is either the last
instant that shows it, or the wall time is skipped (`later_reading`) and no instant does
(`wall_ne_of_skips`).
-/

namespace Clock

/-- A change of offset at an instant. -/
structure Shift where
  instant : ℤ
  before : ℤ
  after : ℤ

namespace Shift

/-- The wall times that a change skips or repeats lie between these two. -/
def low (c : Shift) : ℤ := c.instant + min c.before c.after

def high (c : Shift) : ℤ := c.instant + max c.before c.after

lemma low_le_high (c : Shift) : c.low ≤ c.high := by
  unfold low high
  omega

/-- The change forward at `c` leaves out the wall time. -/
def Skips (c : Shift) (w : ℤ) : Prop := c.instant + c.before ≤ w ∧ w < c.instant + c.after

lemma Skips.low_le {c : Shift} {w : ℤ} (h : c.Skips w) : c.low ≤ w := by
  unfold low
  have := h.1
  omega

lemma Skips.lt_high {c : Shift} {w : ℤ} (h : c.Skips w) : w < c.high := by
  unfold high
  have := h.2
  omega

lemma Skips.high_eq {c : Shift} {w : ℤ} (h : c.Skips w) : c.high = c.instant + c.after := by
  unfold high
  have := h.1
  have := h.2
  omega

end Shift

/-- The changes of a clock, from the offset before them and the offset from each instant on. -/
def shifts : ℤ → List (ℤ × ℤ) → List Shift
  | _, [] => []
  | o, (u, o') :: rest => ⟨u, o, o'⟩ :: shifts o' rest

/-- The offset at an instant. -/
def offsetAt : ℤ → List (ℤ × ℤ) → ℤ → ℤ
  | o, [], _ => o
  | o, (u, o') :: rest, t => if t < u then o else offsetAt o' rest t

/-- The offset that a wall time is read at, in its earlier or its later reading. -/
def readingOffset : ℤ → List (ℤ × ℤ) → ℤ → Bool → ℤ
  | o, [], _, _ => o
  | o, (u, o') :: rest, w, later =>
    if w < u + (if later then min o o' else max o o') then o else readingOffset o' rest w later

/-- The clock runs at one of its offsets. -/
lemma offsetAt_mem (t : ℤ) : ∀ (o : ℤ) (changes : List (ℤ × ℤ)),
    offsetAt o changes t ∈ o :: changes.map Prod.snd
  | o, [] => List.mem_singleton_self o
  | o, (u, o') :: rest => by
    unfold offsetAt
    split_ifs
    · exact List.mem_cons_self
    · exact List.mem_cons_of_mem o (offsetAt_mem t o' rest)

lemma readingOffset_mem (w : ℤ) (later : Bool) : ∀ (o : ℤ) (changes : List (ℤ × ℤ)),
    readingOffset o changes w later ∈ o :: changes.map Prod.snd
  | o, [] => List.mem_singleton_self o
  | o, (u, o') :: rest => by
    unfold readingOffset
    split_ifs
    all_goals first
      | exact List.mem_cons_self
      | exact List.mem_cons_of_mem o (readingOffset_mem w _ o' rest)

/-- The wall time that an instant shows. -/
def wall (o : ℤ) (changes : List (ℤ × ℤ)) (t : ℤ) : ℤ := t + offsetAt o changes t

/-- Each change is over on the wall, by `m`, when the next one begins. -/
def Apart (m o : ℤ) (changes : List (ℤ × ℤ)) : Prop :=
  (shifts o changes).Pairwise fun c d => c.high + m ≤ d.low

section
variable {m o o' u : ℤ} {rest changes : List (ℤ × ℤ)}

lemma Apart.tail (h : Apart m o ((u, o') :: rest)) : Apart m o' rest :=
  (List.pairwise_cons.mp h).2

lemma Apart.head (h : Apart m o ((u, o') :: rest)) {c : Shift} (hc : c ∈ shifts o' rest) :
    u + max o o' + m ≤ c.low :=
  (List.pairwise_cons.mp h).1 c hc

lemma wall_cons_of_lt {t : ℤ} (h : t < u) : wall o ((u, o') :: rest) t = t + o := by
  simp [wall, offsetAt, h]

lemma wall_cons_of_le {t : ℤ} (h : u ≤ t) :
    wall o ((u, o') :: rest) t = wall o' rest t := by
  simp [wall, offsetAt, not_lt.mpr h]

/-- From a change on, the clock shows what it shows at the change, or later. -/
lemma le_wall (hm : 0 ≤ m) : ∀ {o o' u : ℤ} {rest : List (ℤ × ℤ)} {t : ℤ},
    Apart m o ((u, o') :: rest) → u ≤ t → u + o' ≤ wall o' rest t
  | o, o', u, [], t, _, ht => by
    show u + o' ≤ t + o'
    omega
  | o, o', u, (v, o'') :: rest, t, h, ht => by
    rcases lt_or_ge t v with hv | hv
    · rw [wall_cons_of_lt hv]
      omega
    · rw [wall_cons_of_le hv]
      have ih := le_wall hm h.tail hv
      have hlow := h.head (c := ⟨v, o', o''⟩) List.mem_cons_self
      simp only [Shift.low] at hlow
      omega

/-- No instant shows a wall time that a change skips. -/
lemma wall_ne_of_skips (hm : 0 ≤ m) {c : Shift} {w : ℤ} (hskip : c.Skips w) :
    ∀ {o : ℤ} {changes : List (ℤ × ℤ)}, Apart m o changes → c ∈ shifts o changes →
      ∀ t, wall o changes t ≠ w
  | o, (u, o') :: rest, h, hc, t => by
    rcases List.mem_cons.mp hc with rfl | hc
    · obtain ⟨hle, hlt⟩ := hskip
      rcases lt_or_ge t u with hu | hu
      · rw [wall_cons_of_lt hu]
        simp only at hle
        omega
      · rw [wall_cons_of_le hu]
        have := le_wall hm h hu
        simp only at hlt
        omega
    · rcases lt_or_ge t u with hu | hu
      · rw [wall_cons_of_lt hu]
        have hhead := h.head hc
        have hlow := hskip.low_le
        omega
      · rw [wall_cons_of_le hu]
        exact wall_ne_of_skips hm hskip h.tail hc t

/-- Before the next change, the offset is the one that the last change set. -/
lemma wall_eq_of_lt (hm : 0 ≤ m) (h : Apart m o ((u, o') :: rest)) {t : ℤ} (ht : t < u) :
    wall o' rest t = t + o' := by
  cases rest with
  | nil => rfl
  | cons c rest =>
    obtain ⟨v, o''⟩ := c
    have hlow := h.head (c := ⟨v, o', o''⟩) List.mem_cons_self
    simp only [Shift.low] at hlow
    exact wall_cons_of_lt (by omega)

/-- The last instant at which the clock shows `w`, and the clock is past `w` from then on. -/
structure Last (o : ℤ) (changes : List (ℤ × ℤ)) (w t : ℤ) : Prop where
  shows : wall o changes t = w
  lt_of_wall : ∀ s, wall o changes s < w → s < t
  le_of_wall : ∀ s, wall o changes s = w → s ≤ t

/-- The later reading of a wall time is the last instant that shows it, unless it is skipped. -/
theorem later_reading (hm : 0 ≤ m) (w : ℤ) : ∀ {o : ℤ} {changes : List (ℤ × ℤ)},
    Apart m o changes →
      Last o changes w (w - readingOffset o changes w true) ∨ ∃ c ∈ shifts o changes, c.Skips w
  | o, [], _ => by
    left
    constructor
    · show w - o + o = w
      omega
    · intro s hs
      have : s + o < w := hs
      show s < w - o
      omega
    · intro s hs
      have : s + o = w := hs
      show s ≤ w - o
      omega
  | o, (u, o') :: rest, h => by
    have hread : readingOffset o ((u, o') :: rest) w true =
        if w < u + min o o' then o else readingOffset o' rest w true := rfl
    rw [hread]
    split_ifs with hw
    · -- the wall time comes before the change, and the clock never goes back there
      have hpast : ∀ s, u ≤ s → w < wall o' rest s := by
        intro s hs
        have := le_wall hm h hs
        omega
      left
      refine ⟨?_, ?_, ?_⟩
      · rw [wall_cons_of_lt (by omega)]
        omega
      · intro s hs
        rcases lt_or_ge s u with hu | hu
        · rw [wall_cons_of_lt hu] at hs
          omega
        · rw [wall_cons_of_le hu] at hs
          exact absurd hs (not_lt.mpr (hpast s hu).le)
      · intro s hs
        rcases lt_or_ge s u with hu | hu
        · rw [wall_cons_of_lt hu] at hs
          omega
        · rw [wall_cons_of_le hu] at hs
          exact absurd hs (hpast s hu).ne'
    · set t := w - readingOffset o' rest w true with ht
      rcases later_reading hm w h.tail with hlast | ⟨c, hc, hskip⟩
      · rcases lt_or_ge t u with hu | hu
        · -- the instant that would show `w` after the change comes before it: `w` is skipped
          have hwt : t + o' = w := by rw [← wall_eq_of_lt hm h hu]; exact hlast.shows
          right
          refine ⟨⟨u, o, o'⟩, List.mem_cons_self, ?_, ?_⟩
          · show u + o ≤ w
            omega
          · show w < u + o'
            omega
        · left
          refine ⟨?_, ?_, ?_⟩
          · rw [wall_cons_of_le hu]
            exact hlast.shows
          · intro s hs
            rcases lt_or_ge s u with hsu | hsu
            · omega
            · rw [wall_cons_of_le hsu] at hs
              exact hlast.lt_of_wall s hs
          · intro s hs
            rcases lt_or_ge s u with hsu | hsu
            · omega
            · rw [wall_cons_of_le hsu] at hs
              exact hlast.le_of_wall s hs
      · exact .inr ⟨c, List.mem_cons_of_mem _ hc, hskip⟩

/-- Less than `m` after a change is over, no wall time is skipped. -/
lemma not_skips_of_high_le (h : Apart m o changes) {c d : Shift}
    (hc : c ∈ shifts o changes) (hd : d ∈ shifts o changes) {w : ℤ} (hw : c.high ≤ w)
    (hwm : w < c.high + m) : ¬ d.Skips w := by
  intro hskip
  have hlow := hskip.low_le
  have hhigh := hskip.lt_high
  have hc' := c.low_le_high
  by_cases hcd : c = d
  · subst hcd
    omega
  · have hsep : c.high + m ≤ d.low ∨ d.high + m ≤ c.low := by
      have hor : (shifts o changes).Pairwise fun c d =>
          c.high + m ≤ d.low ∨ d.high + m ≤ c.low := h.imp fun hle => .inl hle
      have : Std.Symm fun c d : Shift => c.high + m ≤ d.low ∨ d.high + m ≤ c.low :=
        ⟨fun _ _ hxy => hxy.symm⟩
      exact hor.forall hc hd hcd
    omega

end

end Clock
