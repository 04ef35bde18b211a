import Mathlib.Tactic

/-!
# Registers with a clock

A register keeps the newest value that it was told, by the clock of the events that tell it. Some
values are sticky: once the register holds one, only another sticky value replaces it.

Without sticky values the register holds the newest value, whatever the order in which the events
arrive and however often. With them it needs the newest value to be sticky wherever any is
(`Holds.value_eq`, `Holds.sticky_iff`): otherwise the sticky one arrives too late in some order
(`exists_perm_not_sticky`).
-/

namespace Register

variable {σ ε : Type*}

/-- The value of a register and the time of the event that told it. -/
structure Cell (σ : Type*) where
  value : σ
  since : Option ℤ

/-- Nothing that was told is newer. -/
def newer (since : Option ℤ) (t : ℤ) : Bool := since.all fun s => decide (s ≤ t)

lemma newer_iff {since : Option ℤ} {t : ℤ} :
    newer since t = true ↔ ∀ s, since = some s → s ≤ t := by
  unfold newer
  cases since <;> simp

variable (sticky : σ → Bool) (tells : ε → Option σ) (time : ε → ℤ)

/-- The register after an event, which may tell it nothing. -/
def told (c : Cell σ) (e : ε) : Cell σ :=
  match tells e with
  | none => c
  | some x =>
    if newer c.since (time e) && (!sticky c.value || sticky x) then ⟨x, some (time e)⟩ else c

/-- An event tells the register a sticky value. -/
def Sticks (e : ε) : Prop := ∃ x, tells e = some x ∧ sticky x = true

/-- What a register holds after the events of a list. -/
def Holds (blank : σ) (events : List ε) (c : Cell σ) : Prop :=
  (c = ⟨blank, none⟩ ∧ ∀ e ∈ events, tells e = none) ∨
    ∃ e ∈ events, ∃ x, tells e = some x ∧ c = ⟨x, some (time e)⟩ ∧
      (sticky x = false → ∀ f ∈ events, (tells f).isSome = true → time f ≤ time e)

/-- Wherever a sticky value is told, the newest that is told is sticky. -/
def NewestSticks (events : List ε) : Prop :=
  (∃ e ∈ events, Sticks sticky tells e) → ∀ f ∈ events, (tells f).isSome = true →
    ¬ Sticks sticky tells f → ∃ e ∈ events, Sticks sticky tells e ∧ time f < time e

variable {sticky tells time} {blank : σ} {events : List ε}

lemma told_of_none {c : Cell σ} {e : ε} (h : tells e = none) : told sticky tells time c e = c := by
  simp [told, h]

lemma told_of_some {c : Cell σ} {e : ε} {x : σ} (h : tells e = some x) :
    told sticky tells time c e =
      if newer c.since (time e) = true ∧ (sticky c.value = true → sticky x = true) then
        ⟨x, some (time e)⟩
      else c := by
  have hor : (!sticky c.value || sticky x) = true ↔
      (sticky c.value = true → sticky x = true) := by
    cases sticky c.value <;> simp
  simp only [told, h, Bool.and_eq_true, hor]

lemma Holds.step {c : Cell σ} {e : ε} (hblank : sticky blank = false)
    (h : Holds sticky tells time blank events c) :
    Holds sticky tells time blank (events ++ [e]) (told sticky tells time c e) := by
  rcases hx : tells e with _ | x
  · -- the event does not tell this register anything
    rw [told_of_none hx]
    rcases h with ⟨rfl, hnone⟩ | ⟨f, hf, y, hy, rfl, hnew⟩
    · left
      refine ⟨rfl, ?_⟩
      intro g hg
      rcases List.mem_append.mp hg with hg | hg
      · exact hnone g hg
      · rw [List.mem_singleton.mp hg]
        exact hx
    · right
      refine ⟨f, List.mem_append_left _ hf, y, hy, rfl, ?_⟩
      intro hs g hg hsome
      rcases List.mem_append.mp hg with hg | hg
      · exact hnew hs g hg hsome
      · rw [List.mem_singleton.mp hg, hx] at hsome
        cases hsome
  · rw [told_of_some hx]
    split_ifs with hnewer
    · right
      refine ⟨e, List.mem_append_right _ List.mem_cons_self, x, hx, rfl, ?_⟩
      intro hs g hg hsome
      rcases List.mem_append.mp hg with hg | hg
      · rcases h with ⟨-, hnone⟩ | ⟨f, hf, y, hy, rfl, hnew⟩
        · rw [hnone g hg] at hsome
          cases hsome
        · have hsy : sticky y = false := by
            rw [← Bool.not_eq_true]
            intro hsy
            rw [hnewer.2 hsy] at hs
            cases hs
          exact (hnew hsy g hg hsome).trans (newer_iff.mp hnewer.1 _ rfl)
      · rw [List.mem_singleton.mp hg]
    · rcases h with ⟨rfl, hnone⟩ | ⟨f, hf, y, hy, rfl, hnew⟩
      · exact absurd ⟨rfl, fun hs => by rw [hblank] at hs; cases hs⟩ hnewer
      · right
        refine ⟨f, List.mem_append_left _ hf, y, hy, rfl, ?_⟩
        intro hs g hg hsome
        rcases List.mem_append.mp hg with hg | hg
        · exact hnew hs g hg hsome
        · rw [List.mem_singleton.mp hg]
          by_contra hlt
          apply hnewer
          refine ⟨newer_iff.mpr ?_, fun hy => by rw [hs] at hy; cases hy⟩
          intro s hs'
          rw [← Option.some.inj hs']
          exact (not_le.mp hlt).le

/-- A register that is told the events of a list holds what they tell it. -/
theorem holds_foldl (hblank : sticky blank = false) (events : List ε) :
    Holds sticky tells time blank events
      (events.foldl (told sticky tells time) ⟨blank, none⟩) := by
  induction events using List.reverseRecOn with
  | nil => exact .inl ⟨rfl, by simp⟩
  | append_singleton events e ih =>
    rw [List.foldl_append]
    exact ih.step hblank

/-- A sticky value is held exactly if one was told. -/
lemma Holds.sticky_iff {c : Cell σ} (hblank : sticky blank = false)
    (h : Holds sticky tells time blank events c) (newest : NewestSticks sticky tells time events) :
    sticky c.value = true ↔ ∃ e ∈ events, Sticks sticky tells e := by
  constructor
  · intro hs
    rcases h with ⟨rfl, -⟩ | ⟨e, he, x, hx, rfl, -⟩
    · rw [hblank] at hs
      cases hs
    · exact ⟨e, he, x, hx, hs⟩
  · rintro ⟨e, he, x, hx, hs⟩
    rcases h with ⟨-, hnone⟩ | ⟨f, hf, y, hy, rfl, hnew⟩
    · rw [hnone e he] at hx
      cases hx
    · by_contra hsy
      have hsy' : sticky y = false := Bool.eq_false_of_not_eq_true hsy
      have hnot : ¬ Sticks sticky tells f := by
        rintro ⟨z, hz, hsz⟩
        rw [hy] at hz
        rw [← Option.some.inj hz] at hsz
        exact hsy hsz
      obtain ⟨g, hg, ⟨z, hz, -⟩, hlt⟩ := newest ⟨e, he, x, hx, hs⟩ f hf (by rw [hy]; rfl) hnot
      have hle := hnew hsy' g hg (by rw [hz]; rfl)
      omega

/-- Two orders and multiplicities of the same events leave the same value. -/
lemma Holds.value_eq {events' : List ε} {c c' : Cell σ} (hblank : sticky blank = false)
    (hsticky : ∀ x y, sticky x = true → sticky y = true → x = y)
    (distinct : ∀ e ∈ events, ∀ f ∈ events, time e = time f → e = f)
    (same : ∀ e, e ∈ events' ↔ e ∈ events) (newest : NewestSticks sticky tells time events)
    (h : Holds sticky tells time blank events c) (h' : Holds sticky tells time blank events' c') :
    c'.value = c.value := by
  have newest' : NewestSticks sticky tells time events' := by
    simpa only [NewestSticks, same] using newest
  have hiff : sticky c'.value = true ↔ sticky c.value = true := by
    rw [h.sticky_iff hblank newest, h'.sticky_iff hblank newest']
    simp only [same]
  by_cases hs : sticky c.value = true
  · exact hsticky _ _ (hiff.mpr hs) hs
  · -- neither is sticky, so both are the newest that was told
    have hs' : ¬ sticky c'.value = true := fun hc => hs (hiff.mp hc)
    rcases h with ⟨rfl, hnone⟩ | ⟨e, he, x, hx, rfl, hnew⟩
    · rcases h' with ⟨rfl, -⟩ | ⟨e', he', x', hx', rfl, -⟩
      · rfl
      · rw [hnone e' ((same e').mp he')] at hx'
        cases hx'
    · rcases h' with ⟨rfl, hnone⟩ | ⟨e', he', x', hx', rfl, hnew'⟩
      · rw [hnone e ((same e).mpr he)] at hx
        cases hx
      · have hle := hnew (Bool.eq_false_of_not_eq_true hs) e' ((same e').mp he') (by rw [hx']; rfl)
        have hle' := hnew' (Bool.eq_false_of_not_eq_true hs') e ((same e).mpr he) (by rw [hx]; rfl)
        have heq : e' = e := distinct e' ((same e').mp he') e he (le_antisymm hle hle')
        rw [heq, hx] at hx'
        exact (Option.some.inj hx').symm

/-- Told an event that is newer than every sticky one, a register takes none of those after it. -/
lemma not_sticky_foldl {t : ℤ} : ∀ {events : List ε} {c : Cell σ},
    (∀ e ∈ events, Sticks sticky tells e → time e < t) → sticky c.value = false →
    (∃ s, c.since = some s ∧ t ≤ s) →
    sticky (events.foldl (told sticky tells time) c).value = false
  | [], _, _, hc, _ => hc
  | e :: events, c, hold, hc, ⟨s, hs, hts⟩ => by
    rw [List.foldl_cons]
    have hrest : ∀ f ∈ events, Sticks sticky tells f → time f < t :=
      fun f hf => hold f (List.mem_cons_of_mem e hf)
    rcases hx : tells e with _ | x
    · rw [told_of_none hx]
      exact not_sticky_foldl hrest hc ⟨s, hs, hts⟩
    · rw [told_of_some hx]
      split_ifs with hnewer
      · have hle := newer_iff.mp hnewer.1 s hs
        have hsx : sticky x = false := by
          rw [← Bool.not_eq_true]
          intro hsx
          have := hold e List.mem_cons_self ⟨x, hx, hsx⟩
          omega
        exact not_sticky_foldl hrest hsx ⟨time e, rfl, by omega⟩
      · exact not_sticky_foldl hrest hc ⟨s, hs, hts⟩

/-- If the newest value is not sticky but another is, some order misses the sticky one. -/
theorem exists_perm_not_sticky (hblank : sticky blank = false)
    (distinct : ∀ e ∈ events, ∀ f ∈ events, time e = time f → e = f)
    (h : ¬ NewestSticks sticky tells time events) :
    (∃ e ∈ events, Sticks sticky tells e) ∧ ∃ events' : List ε, events'.Perm events ∧
      sticky (events'.foldl (told sticky tells time) ⟨blank, none⟩).value = false := by
  classical
  unfold NewestSticks at h
  push Not at h
  obtain ⟨hex, f, hf, hsome, hnot, hold⟩ := h
  refine ⟨hex, f :: events.erase f, (List.perm_cons_erase hf).symm, ?_⟩
  obtain ⟨y, hy⟩ := Option.isSome_iff_exists.mp hsome
  have hsy : sticky y = false := by
    rw [← Bool.not_eq_true]
    intro hsy
    exact hnot ⟨y, hy, hsy⟩
  rw [List.foldl_cons, told_of_some hy, if_pos ⟨rfl, fun hs => by rw [hblank] at hs; cases hs⟩]
  apply not_sticky_foldl (t := time f)
  · intro e he hsticks
    have hmem := List.mem_of_mem_erase he
    have hle := hold e hmem hsticks
    rcases hle.lt_or_eq with hlt | heq
    · exact hlt
    · rw [distinct e hmem f hf heq] at hsticks
      exact absurd hsticks hnot
  · exact hsy
  · exact ⟨time f, rfl, le_rfl⟩

end Register
