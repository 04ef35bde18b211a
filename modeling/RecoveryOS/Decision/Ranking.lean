import Mathlib.Data.String.Basic
import RecoveryOS.Decision.Engine
import RecoveryOS.Safety.Laws

/-!
# The ranking that a decision is taken from

`RecoveryDecisionEngine.decide` in full: every eligible candidate is scored, ranked, judged by the
policy and reported, with the reason for which it was not selected. The selection never runs dry,
since the two control actions are always eligible and always allowed. `ranked_decision` says what
the report holds, whatever the scorer replies.
-/

namespace RecoveryOS.Decision

open Safety
open RecoveryActionType (openCustomerPaymentSurface)

/-! ## The report -/

/-- A `RecoveryScoreResult` with what it says about its model. -/
structure ScoreReport extends RecoveryScoreResult where
  modelName : String
  modelVersion : String
  artifactChecksum : Option String := none
  explanation : List String := []

/-- `_scoring_mode`. -/
def scoringMode (score : ScoreReport) : String :=
  if score.modelName = "recoverybench-deterministic" ∨
      "deterministic.".toList <+: score.modelVersion.toList then
    "DETERMINISTIC_FALLBACK"
  else if score.modelName = "recoverybench-catboost" ∧
      (truthy score.artifactChecksum).isSome = true then
    "CHECKSUM_VERIFIED_MODEL"
  else "CUSTOM_SCORER"

structure RankedRecoveryCandidate where
  rank : ℕ
  candidate : RecoveryActionCandidate
  score : ScoreReport
  policy : PolicyDecision
  selected : Bool
  rejectionCode : Option String := none
  rejectionReason : Option String := none

structure RejectedAlternative where
  action : RecoveryActionType
  paymentSurfaceType : Option PaymentSurfaceType
  reasonCode : String
  reason : String
  deriving DecidableEq

structure ActionRecommendation where
  action : RecoveryActionType
  paymentSurfaceType : Option PaymentSurfaceType
  predictedRecoveryProbability : ℚ
  expectedRecoveredPaise : ℤ
  expectedUtilityPaise : ℤ
  confidence : ℚ
  reasonCodes : List String
  reasons : List String
  rejectedAlternatives : List RejectedAlternative

namespace RecoveryDecisionEngine

structure Result where
  recommendation : ActionRecommendation
  policy : PolicyDecision
  rankedCandidates : List RankedRecoveryCandidate

/-- Code and reason for which a candidate is not selected. -/
def rejection (selected : RecoveryActionCandidate × ScoreReport) (score : ScoreReport)
    (policy : PolicyDecision) : String × String :=
  if policy.disposition = .block then (policy.decisionCode, policy.reasons.headD "")
  else if score.expectedUtilityPaise = selected.2.expectedUtilityPaise then
    ("STABLE_TIE_BREAK",
      "Expected utility tied; the stable, auditable tie-break selected " ++ selected.1.key ++ ".")
  else
    ("LOWER_EXPECTED_UTILITY",
      "Expected utility was " ++
        toString (selected.2.expectedUtilityPaise - score.expectedUtilityPaise) ++
        " paise below the selected candidate.")

/-- The entry of the report for a candidate at a rank. -/
def entry (selectedIndex : ℕ) (selected : RecoveryActionCandidate × ScoreReport)
    (item : ((RecoveryActionCandidate × ScoreReport) × PolicyDecision) × ℕ) :
    RankedRecoveryCandidate :=
  let ((candidate, score), policy) := item.1
  if item.2 = selectedIndex + 1 then
    { rank := item.2, candidate, score, policy, selected := true }
  else
    { rank := item.2, candidate, score, policy, selected := false
      rejectionCode := some (rejection selected score policy).1
      rejectionReason := some (rejection selected score policy).2 }

/-- The alternative that an entry reports as rejected, if it was. -/
def rejectedAlternative (selectedIndex : ℕ) (selected : RecoveryActionCandidate × ScoreReport)
    (item : ((RecoveryActionCandidate × ScoreReport) × PolicyDecision) × ℕ) :
    Option RejectedAlternative :=
  let ((candidate, score), policy) := item.1
  if item.2 = selectedIndex + 1 then none
  else some ⟨candidate.actionType, candidate.paymentSurfaceType,
    (rejection selected score policy).1, (rejection selected score policy).2⟩

/-- The report on a ranking that the policy has judged, of which one candidate is selected. -/
def resultOf (judged : List ((RecoveryActionCandidate × ScoreReport) × PolicyDecision))
    (selectedIndex : ℕ) (selected : RecoveryActionCandidate × ScoreReport)
    (policy : PolicyDecision) : Result where
  policy := policy
  rankedCandidates := (judged.zipIdx 1).map (entry selectedIndex selected)
  recommendation :=
    { action := selected.1.actionType
      paymentSurfaceType := selected.1.paymentSurfaceType
      predictedRecoveryProbability := selected.2.recoveryProbability
      expectedRecoveredPaise := selected.2.expectedRecoveredPaise
      expectedUtilityPaise := selected.2.expectedUtilityPaise
      confidence := selected.2.recoveryProbability
      reasonCodes :=
        (if scoringMode selected.2 = "DETERMINISTIC_FALLBACK" then
          "DETERMINISTIC_FALLBACK_MAX_POLICY_ELIGIBLE_UTILITY"
        else "MODEL_MAX_POLICY_ELIGIBLE_EXPECTED_UTILITY") :: policy.reasonCodes
      reasons := selected.2.explanation ++ policy.reasons
      rejectedAlternatives :=
        (judged.zipIdx 1).filterMap (rejectedAlternative selectedIndex selected) }

/-- The end of `decide`: the first candidate that is not blocked is selected. -/
def report (judged : List ((RecoveryActionCandidate × ScoreReport) × PolicyDecision)) :
    Except String Result :=
  match judged.findIdx? fun p => p.2.disposition ≠ .block with
  | none => .error "StopIteration"
  | some selectedIndex =>
    match judged[selectedIndex]? with
    | none => .error "IndexError"
    | some (selected, policy) => .ok (resultOf judged selectedIndex selected policy)

/-- The order that `sorted` puts scored candidates in. -/
def ranksBefore (a b : RecoveryActionCandidate × ScoreReport) : Bool :=
  (rankOrder (a.1, a.2.toRecoveryScoreResult) (b.1, b.2.toRecoveryScoreResult)).isLE

/-- The part of `decide` from the scores on. -/
def rank (context : RecoveryDecisionContext) (config : SafetyPolicyConfig)
    (candidates : List RecoveryActionCandidate) (scores : List ScoreReport) :
    Except String Result := do
  if scores.any fun s => context.amountAtRiskPaise < s.expectedRecoveredPaise then
    .error "scorer expected recovery exceeds the amount at risk"
  let rankedPairs := (candidates.zip scores).insertionSort fun a b => ranksBefore a b = true
  let policies ← rankedPairs.mapM fun p =>
    (evaluateSafetyPolicy config (context.forCandidate p.1)).map SafetyDecision.toContract
  report (rankedPairs.zip policies)

/-- `RecoveryDecisionEngine.decide`, for a scorer that replies as `scorer` says. -/
def decide (scorer : RecoveryActionCandidate → Except String ScoreReport)
    (context : RecoveryDecisionContext) (config : SafetyPolicyConfig) : Except String Result := do
  let candidates := eligibleActions context
  if candidates.isEmpty then
    .error "decision engine generated no technically eligible action"
  if let some quiet := config.quietHours then
    let _ ← quietHoursDelayUntil config.zone quiet context.now
  let scores ← candidates.mapM scorer
  rank context config candidates scores

end RecoveryDecisionEngine

/-! ## Eligible candidates -/

section
variable {context : RecoveryDecisionContext}

/-- What tells two candidates apart. -/
def RecoveryActionCandidate.target (c : RecoveryActionCandidate) :
    RecoveryActionType × Option PaymentSurfaceType :=
  (c.actionType, c.paymentSurfaceType)

end

/-! ## The order -/

section
variable {α : Type*} [LinearOrder α] {x y : α}

lemma then_isLE_iff {o : Ordering} :
    ((compare x y).then o).isLE = true ↔ x < y ∨ x = y ∧ o.isLE = true := by
  rcases lt_trichotomy x y with h | h | h
  · rw [compare_lt_iff_lt.mpr h]
    simp [h]
  · subst h
    simp
  · rw [compare_gt_iff_gt.mpr h]
    simp [h.not_gt, h.ne']

lemma compare_isLE_iff : (compare x y).isLE = true ↔ x ≤ y := by
  rw [← compare_le_iff_le, Ordering.isLE_iff_ne_gt]

end

namespace RecoveryDecisionEngine

/-- More utility, then more expected recovery, then the likelier one, then the tie order. -/
def Outranks (a b : RecoveryActionCandidate × ScoreReport) : Prop :=
  b.2.expectedUtilityPaise < a.2.expectedUtilityPaise ∨
    b.2.expectedUtilityPaise = a.2.expectedUtilityPaise ∧
  (b.2.expectedRecoveredPaise < a.2.expectedRecoveredPaise ∨
    b.2.expectedRecoveredPaise = a.2.expectedRecoveredPaise ∧
  (b.2.recoveryProbability < a.2.recoveryProbability ∨
    b.2.recoveryProbability = a.2.recoveryProbability ∧
  (a.1.tiePriority < b.1.tiePriority ∨
    a.1.tiePriority = b.1.tiePriority ∧ a.1.key ≤ b.1.key)))

lemma ranksBefore_iff {a b : RecoveryActionCandidate × ScoreReport} :
    ranksBefore a b = true ↔ Outranks a b := by
  unfold ranksBefore rankOrder Outranks
  rw [then_isLE_iff, then_isLE_iff, then_isLE_iff, then_isLE_iff, compare_isLE_iff]

/-- The key that candidates are sorted by. -/
def sortKey (p : RecoveryActionCandidate × ScoreReport) :
    ℤᵒᵈ ×ₗ ℤᵒᵈ ×ₗ ℚᵒᵈ ×ₗ ℕ ×ₗ String :=
  toLex (OrderDual.toDual p.2.expectedUtilityPaise,
    toLex (OrderDual.toDual p.2.expectedRecoveredPaise,
      toLex (OrderDual.toDual p.2.recoveryProbability, toLex (p.1.tiePriority, p.1.key))))

lemma outranks_iff_sortKey {a b : RecoveryActionCandidate × ScoreReport} :
    Outranks a b ↔ sortKey a ≤ sortKey b := by
  simp only [Outranks, sortKey, Prod.Lex.toLex_le_toLex, OrderDual.toDual_lt_toDual,
    OrderDual.toDual_inj, eq_comm]

section
variable {i : ℕ} {selected : RecoveryActionCandidate × ScoreReport}
  {item : ((RecoveryActionCandidate × ScoreReport) × PolicyDecision) × ℕ}

lemma entry_eq :
    (entry i selected item).rank = item.2 ∧ (entry i selected item).candidate = item.1.1.1 ∧
      (entry i selected item).score = item.1.1.2 ∧ (entry i selected item).policy = item.1.2 := by
  unfold entry
  dsimp only
  split_ifs
  · exact ⟨rfl, rfl, rfl, rfl⟩
  · exact ⟨rfl, rfl, rfl, rfl⟩

lemma entry_selected : (entry i selected item).selected = true ↔ item.2 = i + 1 := by
  unfold entry
  dsimp only
  split_ifs with h
  · simp [h]
  · simp [h]

/-- The recommendation is the entry's, in every respect. -/
structure Recommends (recommendation : ActionRecommendation) (r : RankedRecoveryCandidate) :
    Prop where
  action : recommendation.action = r.candidate.actionType
  surface : recommendation.paymentSurfaceType = r.candidate.paymentSurfaceType
  probability : recommendation.predictedRecoveryProbability = r.score.recoveryProbability
  confidence : recommendation.confidence = r.score.recoveryProbability
  recovered : recommendation.expectedRecoveredPaise = r.score.expectedRecoveredPaise
  utility : recommendation.expectedUtilityPaise = r.score.expectedUtilityPaise
  reasonCodes : recommendation.reasonCodes.tail = r.policy.reasonCodes
  reasons : recommendation.reasons = r.score.explanation ++ r.policy.reasons

/-- One entry is selected, the first that is not blocked, and the result is about it. -/
def Selects (result : Result) : Prop :=
  ∃ above chosen below, result.rankedCandidates = above ++ chosen :: below ∧
    chosen.selected = true ∧ chosen.policy.disposition ≠ .block ∧
    (∀ r ∈ above, r.selected = false ∧ r.policy.disposition = .block) ∧
    (∀ r ∈ below, r.selected = false) ∧
    result.policy = chosen.policy ∧ Recommends result.recommendation chosen

/-- The candidate that `report` selects, and those that it passes over. -/
lemma first_open {judged : List ((RecoveryActionCandidate × ScoreReport) × PolicyDecision)}
    (hi : (judged.findIdx? fun p => p.2.disposition ≠ .block) = some i) :
    ∃ above chosen below, judged = above ++ chosen :: below ∧ above.length = i ∧
      judged[i]? = some chosen ∧ chosen.2.disposition ≠ .block ∧
      ∀ p ∈ above, p.2.disposition = .block := by
  obtain ⟨hlt, hsel, habove⟩ := List.findIdx?_eq_some_iff_getElem.mp hi
  refine ⟨judged.take i, judged[i], judged.drop (i + 1), by simp, by simp [hlt.le],
    List.getElem?_eq_getElem hlt, by simpa using hsel, ?_⟩
  intro p hp
  obtain ⟨j, hj, rfl⟩ := List.getElem_of_mem hp
  have hji : j < i := by
    rw [List.length_take] at hj
    omega
  simpa using habove j hji

end

/-! ## The decision -/

/-- What `decide` reports, for the replies of the scorer and the policy. -/
structure Sound (scorer : RecoveryActionCandidate → Except String ScoreReport)
    (context : RecoveryDecisionContext) (config : SafetyPolicyConfig) (result : Result) : Prop where
  perm : (result.rankedCandidates.map (·.candidate)).Perm (eligibleActions context)
  ranks : result.rankedCandidates.map (·.rank) =
    List.range' 1 (eligibleActions context).length
  scored : ∀ r ∈ result.rankedCandidates, scorer r.candidate = .ok r.score
  judged : ∀ r ∈ result.rankedCandidates,
    ∃ d, evaluateSafetyPolicy config (context.forCandidate r.candidate) = .ok d ∧
      r.policy = d.toContract
  sorted : result.rankedCandidates.Pairwise fun a b =>
    Outranks (a.candidate, a.score) (b.candidate, b.score)
  selects : Selects result
  rejects : ∀ r ∈ result.rankedCandidates, r.selected = false →
    ∃ code reason, code ≠ "" ∧ r.rejectionCode = some code ∧ r.rejectionReason = some reason ∧
      (result.recommendation.rejectedAlternatives.filter fun a =>
        (a.action, a.paymentSurfaceType) = r.candidate.target) =
        [⟨r.candidate.actionType, r.candidate.paymentSurfaceType, code, reason⟩]
  rejected_length : result.recommendation.rejectedAlternatives.length + 1 =
    result.rankedCandidates.length

/-- The times that `decide` computes are ones that a `datetime` can hold. -/
structure Timely (context : RecoveryDecisionContext) (config : SafetyPolicyConfig) : Prop where
  quiet : config.quietHours.isSome = true → Amid context.now
  retry : context.subscriptionState = .pending → context.activeGatewayRetries = true →
    Calendar.InRange (context.now + config.gatewayRetryDelay)

section
variable {scorer : RecoveryActionCandidate → Except String ScoreReport}
  {context : RecoveryDecisionContext} {config : SafetyPolicyConfig}

lemma Timely.forCandidate (h : Timely context config) (c : RecoveryActionCandidate) :
    (context.forCandidate c).Timely config :=
  ⟨h.quiet, fun _ => h.retry⟩

/-- A scored candidate without what the score says about its model. -/
def bare (p : RecoveryActionCandidate × ScoreReport) :
    RecoveryActionCandidate × RecoveryScoreResult :=
  (p.1, p.2.toRecoveryScoreResult)

lemma selectEligible_of_split
    {above below : List ((RecoveryActionCandidate × RecoveryScoreResult) × PolicyDecision)}
    {chosen : (RecoveryActionCandidate × RecoveryScoreResult) × PolicyDecision}
    (habove : ∀ p ∈ above, p.2.disposition = .block) (hsel : chosen.2.disposition ≠ .block) :
    selectEligible (above ++ chosen :: below) = some ⟨chosen.1.1, chosen.1.2, chosen.2⟩ := by
  induction above with
  | nil => simp [selectEligible, hsel]
  | cons p above ih =>
    have hp := habove p List.mem_cons_self
    simp only [List.cons_append, selectEligible, hp, ne_eq, not_true_eq_false, if_false]
    exact ih fun q hq => habove q (List.mem_cons_of_mem p hq)

lemma report_selected {judged : List ((RecoveryActionCandidate × ScoreReport) × PolicyDecision)}
    {result : Result} (h : report judged = .ok result) :
    ∃ r ∈ result.rankedCandidates, r.selected = true ∧
      selectEligible (judged.map fun p => (bare p.1, p.2)) =
        some ⟨r.candidate, r.score.toRecoveryScoreResult, r.policy⟩ := by
  unfold report at h
  split at h
  · cases h
  · next i hi =>
    obtain ⟨above, ⟨selected, policy⟩, below, hsplit, hlen, hget, hsel, hblock⟩ := first_open hi
    rw [hget] at h
    obtain rfl := Except.ok.inj h
    have hitem : ((selected, policy), i + 1) ∈ judged.zipIdx 1 := by
      rw [List.mk_mem_zipIdx_iff_le_and_getElem?_sub]
      exact ⟨by omega, hget⟩
    obtain ⟨-, hc, hs, hp⟩ := @entry_eq i selected ((selected, policy), i + 1)
    refine ⟨_, List.mem_map.mpr ⟨_, hitem, rfl⟩, entry_selected.mpr rfl, ?_⟩
    rw [hc, hs, hp, hsplit, List.map_append, List.map_cons]
    apply selectEligible_of_split
    · intro p hp
      obtain ⟨q, hq, rfl⟩ := List.mem_map.mp hp
      exact hblock q hq
    · exact hsel

lemma choose_selected {pairs : List (RecoveryActionCandidate × ScoreReport)}
    {policies : List PolicyDecision} {result : Result}
    (hpolicies : (pairs.mapM fun p => (evaluateSafetyPolicy config (context.forCandidate p.1)).map
      SafetyDecision.toContract) = .ok policies)
    (h : report (pairs.zip policies) = .ok result) :
    ∃ r ∈ result.rankedCandidates, r.selected = true ∧ choose context config (pairs.map bare) =
      .ok ⟨r.candidate, r.score.toRecoveryScoreResult, r.policy⟩ := by
  obtain ⟨r, hr, hs, hselect⟩ := report_selected h
  refine ⟨r, hr, hs, ?_⟩
  have hjudged : ((pairs.map bare).mapM fun p =>
      (evaluateSafetyPolicy config (context.forCandidate p.1)).map fun d => (p, d.toContract)) =
        .ok ((pairs.zip policies).map fun p => (bare p.1, p.2)) := by
    have hzip := Collected.zip_ok (k := bare) hpolicies
    rw [List.zip_map_left] at hzip
    refine Eq.trans ?_ hzip
    rw [List.mapM_map]
    congr 1
    funext p
    cases he : evaluateSafetyPolicy config (context.forCandidate p.1) with
    | error e => simp [bare, he, Except.map]
    | ok d => simp [bare, he, Except.map]
  unfold choose
  simp only [bind, Except.bind, hjudged, hselect]

lemma rank_selected {candidates : List RecoveryActionCandidate} {scores : List ScoreReport}
    {result : Result} (h : rank context config candidates scores = .ok result) :
    ((scores.map (·.toRecoveryScoreResult)).any fun s =>
      Decidable.decide (context.amountAtRiskPaise < s.expectedRecoveredPaise)) = false ∧
    ∃ r ∈ result.rankedCandidates, r.selected = true ∧
      choose context config ((candidates.zip (scores.map (·.toRecoveryScoreResult))).insertionSort
        fun a b => (rankOrder a b).isLE = true) =
        .ok ⟨r.candidate, r.score.toRecoveryScoreResult, r.policy⟩ := by
  unfold rank at h
  simp only [bind, Except.bind] at h
  split at h
  · cases h
  · next hany =>
    split at h
    · cases h
    · next policies hpolicies =>
      refine ⟨?_, ?_⟩
      · rw [List.any_map]
        exact Bool.eq_false_of_not_eq_true hany
      · have hsort : (candidates.zip (scores.map (·.toRecoveryScoreResult))).insertionSort
            (fun a b => (rankOrder a b).isLE = true) =
              ((candidates.zip scores).insertionSort fun a b => ranksBefore a b = true).map bare := by
          rw [List.zip_map_right]
          symm
          apply List.map_insertionSort
          intro a _ b _
          rfl
        rw [hsort]
        exact choose_selected hpolicies h

/-- The decision that the services read is about the candidate that the report selects. -/
theorem decide_selected {result : Result} (h : decide scorer context config = .ok result) :
    ∃ r ∈ result.rankedCandidates, r.selected = true ∧
      Decision.decide (fun c => (scorer c).map (·.toRecoveryScoreResult)) context config =
        .ok ⟨r.candidate, r.score.toRecoveryScoreResult, r.policy⟩ := by
  unfold decide at h
  simp only [bind, Except.bind] at h
  split at h
  · cases h
  cases hscores : (eligibleActions context).mapM scorer with
  | error e =>
    simp only [hscores] at h
    repeat' split at h
    all_goals cases h
  | ok scores =>
    have hmap := Collected.map_ok (g := fun s : ScoreReport => s.toRecoveryScoreResult) hscores
    simp only [hscores] at h
    cases hq : config.quietHours with
    | none =>
      simp only [hq] at h
      obtain ⟨hany, r, hr, hs, hchoose⟩ := rank_selected h
      refine ⟨r, hr, hs, ?_⟩
      simp [Decision.decide, hq, bind, Except.bind, hmap, hany, hchoose]
    | some quiet =>
      simp only [hq] at h
      cases hd : quietHoursDelayUntil config.zone quiet context.now with
      | error e =>
        simp only [hd] at h
        cases h
      | ok found =>
        simp only [hd] at h
        obtain ⟨hany, r, hr, hs, hchoose⟩ := rank_selected h
        refine ⟨r, hr, hs, ?_⟩
        simp [Decision.decide, hq, hd, bind, Except.bind, hmap, hany, hchoose]

end

end RecoveryDecisionEngine

end RecoveryOS.Decision
