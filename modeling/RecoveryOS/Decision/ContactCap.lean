import RecoveryOS.Core.Operations
import RecoveryOS.Decision.Ranking
import RecoveryOS.Webhook.Evolution

/-!
# The contact cap

A merchant may cap the outreach to a customer: the calls and the requests to the customer's agent in
any seven days. `evaluate_safety_policy` takes the number of them as a parameter. The two places
that decide about a case, `recommend_action` and the processor's initial recommendation, leave it at
its default of none, so the cap is never reached for them. `contact_cap_iff` says when their
decisions respect it all the same.
-/

namespace RecoveryOS.Decision

open Safety Store

/-! ## The candidate that is chosen -/

section
variable {scorer : RecoveryActionCandidate → Except String RecoveryScoreResult}
  {context : RecoveryDecisionContext} {config : SafetyPolicyConfig}
  {result : RecoveryDecisionResult}

/-- The policy blocks the candidate. -/
def Blocked (config : SafetyPolicyConfig) (context : RecoveryDecisionContext)
    (c : RecoveryActionCandidate) : Prop :=
  ∃ d, evaluateSafetyPolicy config (context.forCandidate c) = .ok d ∧ d.disposition = .block

/-- The scorer's replies put the one candidate before the other. -/
def Precedes (scorer : RecoveryActionCandidate → Except String RecoveryScoreResult)
    (c c' : RecoveryActionCandidate) : Prop :=
  ∃ s s', scorer c = .ok s ∧ scorer c' = .ok s' ∧ (rankOrder (c', s') (c, s)).isLE = false

/-- A score, with nothing said about its model. -/
def scored (p : RecoveryActionCandidate × RecoveryScoreResult) :
    RecoveryActionCandidate × ScoreReport :=
  (p.1, { p.2 with modelName := "", modelVersion := "" })

lemma rankOrder_isLE {a b : RecoveryActionCandidate × RecoveryScoreResult} :
    (rankOrder a b).isLE = true ↔ RecoveryDecisionEngine.sortKey (scored a) ≤
      RecoveryDecisionEngine.sortKey (scored b) := by
  rw [← RecoveryDecisionEngine.outranks_iff_sortKey, ← RecoveryDecisionEngine.ranksBefore_iff]
  rfl

lemma pairwise_rank (pairs : List (RecoveryActionCandidate × RecoveryScoreResult)) :
    (pairs.insertionSort fun a b => (rankOrder a b).isLE = true).Pairwise
      fun a b => (rankOrder a b).isLE = true := by
  have : Std.Total fun a b : RecoveryActionCandidate × RecoveryScoreResult =>
      (rankOrder a b).isLE = true :=
    ⟨fun a b => by simpa only [rankOrder_isLE] using le_total _ _⟩
  have : IsTrans _ fun a b : RecoveryActionCandidate × RecoveryScoreResult =>
      (rankOrder a b).isLE = true :=
    ⟨fun a b c => by simpa only [rankOrder_isLE] using le_trans⟩
  exact List.pairwise_insertionSort _ pairs

lemma tiePriority_eq_of_isLE {a b : RecoveryActionCandidate × RecoveryScoreResult}
    (hab : (rankOrder a b).isLE = true) (hba : (rankOrder b a).isLE = true) :
    a.1.tiePriority = b.1.tiePriority := by
  rw [rankOrder_isLE] at hab hba
  have hkey := le_antisymm hab hba
  simp only [RecoveryDecisionEngine.sortKey, scored, toLex_inj, Prod.mk.injEq] at hkey
  exact hkey.2.2.2.1

lemma mem_eligibleActions {c : RecoveryActionCandidate} (hc : c ∈ eligibleActions context) :
    c = waitCandidate ∨ c ∈ surfaceCandidates context ∨
      (c = voiceCandidate ∧ context.voiceActionAvailable = true) ∨ c = agentCandidate ∨
      c = escalateCandidate ∨ c = stopCandidate := by
  unfold eligibleActions at hc
  simp only [List.mem_append, List.mem_ite_nil_right, List.mem_cons, Bool.and_eq_true,
    List.not_mem_nil, or_false] at hc
  tauto

lemma surfaceCandidates_spec {c : RecoveryActionCandidate} (hc : c ∈ surfaceCandidates context) :
    c.actionType = .openCustomerPaymentSurface ∧ c.tiePriority < 20 := by
  unfold surfaceCandidates at hc
  split at hc
  · cases hc
  · obtain ⟨⟨surface, i⟩, hp, rfl⟩ := List.mem_map.mp hc
    refine ⟨rfl, ?_⟩
    have hi := List.snd_lt_of_mem_zipIdx hp
    rw [List.length_insertionSort, List.length_append] at hi
    have hlen : (if context.standardPaymentLinkAvailable = true then
        [PaymentSurfaceType.standardPaymentLink] else []).length ≤ 1 := by
      split_ifs <;> simp
    simp only [List.length_cons, List.length_nil] at hi
    show 10 + i < 20
    omega

lemma eq_agent_of_tiePriority {c : RecoveryActionCandidate} (hc : c ∈ eligibleActions context)
    (h : c.tiePriority = agentCandidate.tiePriority) : c = agentCandidate := by
  rcases mem_eligibleActions hc with rfl | hs | ⟨rfl, -⟩ | rfl | rfl | rfl
  · exact absurd h (by decide)
  · have := (surfaceCandidates_spec hs).2
    rw [h] at this
    exact absurd this (by decide)
  · exact absurd h (by decide)
  · rfl
  · exact absurd h (by decide)
  · exact absurd h (by decide)

/-- Where no call is offered, the agent is the only outreach. -/
lemma eq_agent_of_isOutreach {c : RecoveryActionCandidate} (hc : c ∈ eligibleActions context)
    (hv : context.voiceActionAvailable = false) (h : isOutreach c.actionType = true) :
    c = agentCandidate := by
  rcases mem_eligibleActions hc with rfl | hs | ⟨-, hvoice⟩ | rfl | rfl | rfl
  · exact absurd h (by decide)
  · rw [(surfaceCandidates_spec hs).1] at h
    exact absurd h (by decide)
  · rw [hv] at hvoice
    cases hvoice
  · rfl
  · exact absurd h (by decide)
  · exact absurd h (by decide)

lemma selectEligible_split :
    ∀ {judged : List ((RecoveryActionCandidate × RecoveryScoreResult) × PolicyDecision)},
      selectEligible judged = some result →
        ∃ above below,
          judged = above ++ ((result.candidate, result.score), result.policy) :: below ∧
          (∀ p ∈ above, p.2.disposition = .block) ∧ result.policy.disposition ≠ .block
  | [], h => by cases h
  | ((c, score), policy) :: rest, h => by
    unfold selectEligible at h
    split_ifs at h with hp
    · obtain rfl := Option.some.inj h
      exact ⟨[], rest, rfl, by simp, hp⟩
    · obtain ⟨above, below, rfl, habove, hd⟩ := selectEligible_split h
      refine ⟨((c, score), policy) :: above, below, rfl, ?_, hd⟩
      intro p hmem
      rcases List.mem_cons.mp hmem with rfl | hmem
      · exact not_not.mp hp
      · exact habove p hmem

/-- What stands before the candidate that is chosen is blocked, and it is not. -/
lemma choose_split {ranked : List (RecoveryActionCandidate × RecoveryScoreResult)}
    (h : choose context config ranked = .ok result) :
    ∃ above below, ranked = above ++ (result.candidate, result.score) :: below ∧
      (∀ p ∈ above, Blocked config context p.1) ∧ ¬ Blocked config context result.candidate := by
  obtain ⟨d, hd, -, hne⟩ := choose_policy h
  unfold choose at h
  simp only [bind, Except.bind] at h
  split at h
  · cases h
  · next judged hjudged =>
    split at h
    · next chosen hchosen =>
      obtain rfl := Except.ok.inj h
      obtain ⟨above, below, rfl, habove, -⟩ := selectEligible_split hchosen
      have hfst := Collected.map_eq (g := id) (k := Prod.fst) (fun p q hq => ?_) hjudged
      · rw [List.map_id, List.map_append, List.map_cons] at hfst
        refine ⟨above.map Prod.fst, below.map Prod.fst, hfst.symm, ?_, ?_⟩
        · intro p hp
          obtain ⟨q, hq, rfl⟩ := List.mem_map.mp hp
          obtain ⟨x, -, hx⟩ := Collected.exists_of_mem hjudged q (List.mem_append_left _ hq)
          cases he : evaluateSafetyPolicy config (context.forCandidate x.1) with
          | error e => simp [he, Except.map] at hx
          | ok d' =>
            obtain rfl : (x, d'.toContract) = q := by simpa [he, Except.map] using hx
            exact ⟨d', he, habove _ hq⟩
        · rintro ⟨d', hd', hblock⟩
          rw [hd] at hd'
          exact hne (Except.ok.inj hd' ▸ hblock)
      · cases he : evaluateSafetyPolicy config (context.forCandidate p.1) with
        | error e => simp [he, Except.map] at hq
        | ok d' =>
          obtain rfl : (p, d'.toContract) = q := by simpa [he, Except.map] using hq
          rfl
    · cases h

/-- The ranking that a decision is chosen from. -/
lemma decide_ranked (h : decide scorer context config = .ok result) :
    ∃ scores, (eligibleActions context).mapM scorer = .ok scores ∧
      choose context config (((eligibleActions context).zip scores).insertionSort
        fun a b => (rankOrder a b).isLE = true) = .ok result := by
  unfold decide at h
  simp only [bind, Except.bind] at h
  cases hscores : (eligibleActions context).mapM scorer with
  | error e =>
    simp only [hscores] at h
    repeat' split at h
    all_goals cases h
  | ok scores =>
    simp only [hscores] at h
    refine ⟨scores, rfl, ?_⟩
    repeat' split at h
    all_goals first | exact h | cases h

lemma mem_zip_scores {candidates : List RecoveryActionCandidate}
    {scores : List RecoveryScoreResult} (h : candidates.mapM scorer = .ok scores)
    {p : RecoveryActionCandidate × RecoveryScoreResult} (hp : p ∈ candidates.zip scores) :
    p.1 ∈ candidates ∧ scorer p.1 = .ok p.2 := by
  have hzip := Collected.zip_ok (k := id) h
  rw [List.map_id] at hzip
  obtain ⟨c, hc, heq⟩ := Collected.exists_of_mem hzip p hp
  cases hs : scorer c with
  | error e => simp [hs, Except.map] at heq
  | ok s =>
    obtain rfl : (c, s) = p := by simpa [hs, Except.map] using heq
    exact ⟨hc, hs⟩

lemma exists_mem_zip_scores {candidates : List RecoveryActionCandidate}
    {scores : List RecoveryScoreResult} (h : candidates.mapM scorer = .ok scores)
    {c : RecoveryActionCandidate} (hc : c ∈ candidates) :
    ∃ s, scorer c = .ok s ∧ (c, s) ∈ candidates.zip scores := by
  have hzip := Collected.zip_ok (k := id) h
  rw [List.map_id] at hzip
  obtain ⟨p, hp, heq⟩ := Collected.exists_of_mem_left hzip c hc
  cases hs : scorer c with
  | error e => simp [hs, Except.map] at heq
  | ok s =>
    obtain rfl : (c, s) = p := by simpa [hs, Except.map] using heq
    exact ⟨s, rfl, hp⟩

/-- The agent is on offer, and what the scorer puts before it is blocked. -/
def AgentFirst (scorer : RecoveryActionCandidate → Except String RecoveryScoreResult)
    (context : RecoveryDecisionContext) (config : SafetyPolicyConfig) : Prop :=
  agentCandidate ∈ eligibleActions context ∧
    ∀ c ∈ eligibleActions context, Precedes scorer c agentCandidate → Blocked config context c

/-- The agent is chosen exactly if nothing that is open stands before it. -/
theorem chosen_agent_iff (h : decide scorer context config = .ok result) :
    result.candidate = agentCandidate ↔
      AgentFirst scorer context config ∧ ¬ Blocked config context agentCandidate := by
  obtain ⟨scores, hscores, hchoose⟩ := decide_ranked h
  obtain ⟨above, below, hsplit, habove, hopen⟩ := choose_split hchoose
  have hsorted := pairwise_rank ((eligibleActions context).zip scores)
  have hmem : ∀ p, p ∈ above ++ (result.candidate, result.score) :: below ↔
      p ∈ (eligibleActions context).zip scores := by
    intro p
    rw [← hsplit, List.mem_insertionSort]
  rw [hsplit, List.pairwise_append] at hsorted
  obtain ⟨-, hbelow, -⟩ := hsorted
  rw [List.pairwise_cons] at hbelow
  obtain ⟨hchosen, hscore⟩ : result.candidate ∈ eligibleActions context ∧
      scorer result.candidate = .ok result.score :=
    mem_zip_scores hscores ((hmem (result.candidate, result.score)).mp (by simp))
  constructor
  · intro heq
    rw [heq] at hchosen hopen hscore hbelow
    refine ⟨⟨hchosen, fun c hc => ?_⟩, hopen⟩
    rintro ⟨s, s', hs, hs', hlt⟩
    obtain rfl : result.score = s' := Except.ok.inj (hscore.symm.trans hs')
    obtain ⟨s₀, hs₀, hzip⟩ := exists_mem_zip_scores hscores hc
    obtain rfl : s₀ = s := Except.ok.inj (hs₀.symm.trans hs)
    rcases List.mem_append.mp ((hmem _).mpr hzip) with hin | hin
    · exact habove _ hin
    · rcases List.mem_cons.mp hin with hin | hin
      · rw [heq] at hin
        obtain ⟨rfl, rfl⟩ := Prod.mk.inj hin
        have := @rankOrder_isLE (agentCandidate, result.score) (agentCandidate, result.score)
        rw [hlt] at this
        exact absurd (this.mpr le_rfl) (by decide)
      · have := hbelow.1 _ hin
        rw [hlt] at this
        cases this
  · rintro ⟨⟨hoffer, hfirst⟩, hagent⟩
    obtain ⟨s, hs, hzip⟩ := exists_mem_zip_scores hscores hoffer
    rcases List.mem_append.mp ((hmem _).mpr hzip) with hin | hin
    · exact absurd (habove _ hin) hagent
    · rcases List.mem_cons.mp hin with hin | hin
      · exact (congrArg Prod.fst hin).symm
      · -- the chosen candidate is open, so it does not precede the agent: they tie
        apply eq_agent_of_tiePriority hchosen
        refine tiePriority_eq_of_isLE (hbelow.1 _ hin) ?_
        by_contra hlt
        exact hopen (hfirst _ hchosen ⟨_, _, hscore, hs, by simpa using hlt⟩)

lemma decide_mem (h : decide scorer context config = .ok result) :
    result.candidate ∈ eligibleActions context := by
  obtain ⟨scores, hscores, hchoose⟩ := decide_ranked h
  obtain ⟨above, below, hsplit, -, -⟩ := choose_split hchoose
  apply (mem_zip_scores hscores (p := (result.candidate, result.score)) ?_).1
  rw [← List.mem_insertionSort (fun a b => (rankOrder a b).isLE = true), hsplit]
  simp

end

/-! ## Questions -/

/-- What a decision about a case is asked with: the action that an operator wants, or none where the
engine is to choose. -/
structure Question where
  point : DecisionPoint
  customer : Customer
  actionType : Option RecoveryActionType
  paymentSurfaceType : Option PaymentSurfaceType
  capabilities : Capabilities
  hasFailedInvoice : Bool
  scorer : RecoveryActionCandidate → Except String RecoveryScoreResult

namespace Question

def ranking (q : Question) : RecoveryDecisionContext :=
  q.point.rankingContext q.customer q.capabilities q.hasFailedInvoice

/-- The action that is decided on, and the decision. -/
def Answer (q : Question) (action : RecoveryActionType) (decision : PolicyDecision) : Prop :=
  match q.actionType with
  | none => ∃ ranked, decide q.scorer q.ranking q.point.config = .ok ranked ∧
      action = ranked.candidate.actionType ∧ decision = ranked.policy
  | some a => action = a ∧ ∃ h d, evaluateSafetyPolicy q.point.config
      (q.point.context a q.paymentSurfaceType h) = .ok d ∧ decision = d.toContract

/-- The question can be answered with outreach: the operator asks for it, or nothing that is open
stands before the agent. -/
def ReachesOut (q : Question) : Prop :=
  match q.actionType with
  | none => AgentFirst q.scorer q.ranking q.point.config
  | some a => isOutreach a = true

/-- A suppression bars every contact. -/
def Closed (q : Question) : Prop :=
  Guarded q.point.config q.point.now q.point.recoveryCase.recoveryDeadline
    q.point.recoveryCase.caseOutcome q.point.recoveryCase.paymentState
    q.point.recoveryCase.contactDisposition

end Question

/-! ## The cap -/

/-- A call to a customer, or a request to the customer's agent. -/
structure Outreach where
  action : RecoveryActionType
  customerId : String
  at_ : Instant
  outreach : isOutreach action = true

/-- The contacts with a customer in the seven days before an instant. -/
def contacts (history : List Outreach) (customerId : String) (t : Instant) : ℤ :=
  (history.filter fun o => o.customerId = customerId ∧ t - 7 * day < o.at_ ∧ o.at_ ≤ t).length

namespace Question
variable (q : Question) (history : List Outreach)

/-- The cap has room for one more contact. -/
def Room (t : Instant) : Prop :=
  ∀ n, q.point.config.maxContactsPerWindow = some n →
    contacts history q.point.recoveryCase.customerId t < n

/-- With no room left, outreach is not let through, nor delayed to an instant without room. -/
def CapRespected (action : RecoveryActionType) (disposition : PolicyDisposition)
    (delayUntil : Option Instant) : Prop :=
  ¬ q.Room history q.point.now → isOutreach action = true →
    disposition ≠ .allow ∧ disposition ≠ .requireManualApproval ∧
      (disposition = .delay → ∀ t, delayUntil = some t → q.Room history t)

/-- It is a quiet hour, and its end is past the deadline or finds room. -/
def QuietUntilRoom : Prop :=
  ∃ quiet t, q.point.config.quietHours = some quiet ∧
    quietHoursDelayUntil q.point.config.zone quiet q.point.now = .ok (some t) ∧
    (q.point.recoveryCase.recoveryDeadline ≤ t ∨ q.Room history t)

end Question

section
variable {config : SafetyPolicyConfig} {context : SafetyPolicyContext}

lemma isContact_of_isOutreach {a : RecoveryActionType} (h : isOutreach a = true) :
    isContact a = true := by
  revert h
  cases a <;> decide

/-- With no contacts counted, the limit stands in nobody's way. -/
lemma evaluate_uncounted (ho : isOutreach context.action = true)
    (hcount : context.contactAttemptsInWindow = 0) (hg : ¬ context.Guarded config) :
    evaluateSafetyPolicy config context = quietThenApprove config context := by
  have hbarred : barred config context = none := by
    rw [← Option.not_isSome_iff_eq_none, barred_isSome_iff (isContact_of_isOutreach ho)]
    exact hg
  have hne : context.action ≠ .openCustomerPaymentSurface ∧
      context.action ≠ .waitForGatewayRetry := by
    revert ho
    cases context.action <;> decide
  have hlimit : ¬ AtLimit config context := by
    rintro ⟨-, hany⟩
    obtain ⟨n, hn, hle⟩ := any_le_iff.mp hany
    have := config.contacts_pos n hn
    omega
  unfold evaluateSafetyPolicy retryThenLimit limitThenQuiet
  rw [hbarred]
  dsimp only
  rw [if_neg (fun h => hne.1 h.1), if_neg (fun h => hne.2 h.1)]
  exact if_neg hlimit

/-- What the quiet hours do to outreach that nothing else holds back. -/
lemma quietThenApprove_iff {d : SafetyDecision} (room : Instant → Prop)
    (ho : isOutreach context.action = true) (hd : quietThenApprove config context = .ok d) :
    (d.disposition ≠ .allow ∧ d.disposition ≠ .requireManualApproval ∧
        (d.disposition = .delay → ∀ t, d.delayUntil = some t → room t)) ↔
      ∃ quiet t, config.quietHours = some quiet ∧
        quietHoursDelayUntil config.zone quiet context.now = .ok (some t) ∧
        (context.recoveryDeadline ≤ t ∨ room t) := by
  have happrove : ¬ ((approveOrAllow config context).disposition ≠ .allow ∧
      (approveOrAllow config context).disposition ≠ .requireManualApproval) := by
    rintro ⟨h1, h2⟩
    exact (@approveOrAllow_disposition config context).elim h1 h2
  unfold quietThenApprove at hd
  rw [ho] at hd
  cases hq : config.quietHours with
  | none =>
    simp only [hq] at hd
    obtain rfl := Except.ok.inj hd
    constructor
    · exact fun h => absurd ⟨h.1, h.2.1⟩ happrove
    · rintro ⟨quiet, t, hquiet, -⟩
      cases hquiet
  | some quiet =>
    simp only [hq] at hd
    split at hd
    · cases hd
    · next hnone =>
      obtain rfl := Except.ok.inj hd
      constructor
      · exact fun h => absurd ⟨h.1, h.2.1⟩ happrove
      · rintro ⟨quiet', t, hquiet, ht, -⟩
        rw [← Option.some.inj hquiet, hnone] at ht
        cases ht
    · next t hsome =>
      have hend : (∃ quiet' t', some quiet = some quiet' ∧
          quietHoursDelayUntil config.zone quiet' context.now = .ok (some t') ∧
          (context.recoveryDeadline ≤ t' ∨ room t')) ↔
            (context.recoveryDeadline ≤ t ∨ room t) := by
        constructor
        · rintro ⟨quiet', t', hquiet, ht, hor⟩
          rw [← Option.some.inj hquiet, hsome] at ht
          rwa [Option.some.inj (Except.ok.inj ht)]
        · exact fun hor => ⟨quiet, t, rfl, hsome, hor⟩
      rw [hend]
      split_ifs at hd with hlt
      · obtain rfl := Except.ok.inj hd
        simp [delay, not_le.mpr hlt]
      · obtain rfl := Except.ok.inj hd
        simp [block, not_lt.mp hlt]

/-- When a decision on outreach respects a cap that it does not know of. -/
lemma uncounted_iff {d : SafetyDecision} (room : Instant → Prop)
    (ho : isOutreach context.action = true) (hcount : context.contactAttemptsInWindow = 0)
    (hd : evaluateSafetyPolicy config context = .ok d) :
    (d.disposition ≠ .allow ∧ d.disposition ≠ .requireManualApproval ∧
        (d.disposition = .delay → ∀ t, d.delayUntil = some t → room t)) ↔
      context.Guarded config ∨ ∃ quiet t, config.quietHours = some quiet ∧
        quietHoursDelayUntil config.zone quiet context.now = .ok (some t) ∧
        (context.recoveryDeadline ≤ t ∨ room t) := by
  by_cases hg : context.Guarded config
  · obtain ⟨d', hd', hblock⟩ := evaluate_eq_block_of_guarded (isContact_of_isOutreach ho) hg
    obtain rfl := Except.ok.inj (hd.symm.trans hd')
    simp [hblock, hg]
  · rw [evaluate_uncounted ho hcount hg] at hd
    rw [quietThenApprove_iff room ho hd]
    simp [hg]

end

namespace Question
variable {q : Question} {history : List Outreach} {action : RecoveryActionType}
  {decision : PolicyDecision}

lemma capRespected_of_not_outreach {disposition : PolicyDisposition} {delayUntil : Option Instant}
    (h : isOutreach action ≠ true) : q.CapRespected history action disposition delayUntil :=
  fun _ ho => absurd ho h

/-- A cap without room is respected exactly if the outreach is held back for another reason. -/
lemma capRespected_iff (history : List Outreach) {surface : Option PaymentSurfaceType}
    {h : action = .openCustomerPaymentSurface ↔ surface.isSome = true} {d : SafetyDecision}
    (ho : isOutreach action = true)
    (hd : evaluateSafetyPolicy q.point.config (q.point.context action surface h) = .ok d) :
    q.CapRespected history action d.disposition d.delayUntil ↔
      q.Room history q.point.now ∨ q.Closed ∨ q.QuietUntilRoom history := by
  have hiff := uncounted_iff (q.Room history) ho rfl hd
  by_cases hroom : q.Room history q.point.now
  · exact ⟨fun _ => .inl hroom, fun _ hno => absurd hroom hno⟩
  · constructor
    · intro hcap
      exact .inr (hiff.mp (hcap hroom ho))
    · rintro (hr | hrest)
      · exact absurd hr hroom
      · exact fun _ _ => hiff.mpr hrest

/-- When the answer to a question respects the cap. -/
theorem answer_iff (hanswer : q.Answer action decision) :
    q.CapRespected history action decision.disposition decision.delayUntil ↔
      q.Room history q.point.now ∨ ¬ q.ReachesOut ∨ q.Closed ∨ q.QuietUntilRoom history := by
  unfold Answer at hanswer
  unfold ReachesOut
  cases ha : q.actionType with
  | some a =>
    rw [ha] at hanswer
    obtain ⟨rfl, h, d, hd, rfl⟩ := hanswer
    dsimp only
    by_cases ho : isOutreach action = true
    · have hiff := capRespected_iff history ho hd
      simp only [ho, not_true_eq_false, false_or]
      exact hiff
    · exact ⟨fun _ => .inr (.inl ho), fun _ => capRespected_of_not_outreach ho⟩
  | none =>
    rw [ha] at hanswer
    obtain ⟨ranked, hranked, rfl, rfl⟩ := hanswer
    dsimp only
    have hagent := chosen_agent_iff hranked
    by_cases hchosen : ranked.candidate = agentCandidate
    · obtain ⟨d, hd, hpolicy, -⟩ := decide_policy hranked
      rw [hchosen] at hd
      have hout : isOutreach agentCandidate.actionType = true := rfl
      have hiff := capRespected_iff history hout hd
      rw [hchosen, hpolicy]
      simp only [(hagent.mp hchosen).1, not_true_eq_false, false_or]
      exact hiff
    · have hout : isOutreach ranked.candidate.actionType ≠ true := fun ho =>
        hchosen (eq_agent_of_isOutreach (decide_mem hranked) rfl ho)
      refine ⟨fun _ => ?_, fun _ => capRespected_of_not_outreach hout⟩
      by_cases hfirst : AgentFirst q.scorer q.ranking q.point.config
      · -- the agent comes first and is not chosen: the policy blocks it
        have hblocked : Blocked q.point.config q.ranking agentCandidate := by
          by_contra hopen
          exact hchosen (hagent.mpr ⟨hfirst, hopen⟩)
        obtain ⟨d, hd, hblock⟩ := hblocked
        have hout : isOutreach (q.ranking.forCandidate agentCandidate).action = true := rfl
        have hiff := uncounted_iff (q.Room history) hout rfl hd
        exact .inr (.inr (hiff.mp (by simp [hblock])))
      · exact .inr (.inl hfirst)

end Question

/-! ## The calls that decide -/

/-- The calls that decide about a case. -/
inductive DecidingCall where
  | recommendAction (service : Cases.Service) (request : Cases.RecommendRequest)
  | initialRecommendation (platform : Webhook.Platform) (call : Webhook.Call) (merchantId : String)
      (recoveryCase : RecoveryCase)

namespace DecidingCall

/-- The question that a call puts, on what it reads in the database. -/
def Asks (db : Database) (q : Question) : DecidingCall → Prop
  | recommendAction service request =>
    ∃ aggregate point,
      Cases.getCaseAggregate request.merchantId request.caseId db = .ok (aggregate, db) ∧
      Cases.decisionPoint service request aggregate.recoveryCase db = .ok (point, db) ∧
      q = ⟨point, aggregate.customer, request.actionType, request.paymentSurfaceType,
        service.capabilities, aggregate.invoice.isSome, service.scorer⟩
  | initialRecommendation platform call merchantId recoveryCase =>
    ∃ point customer,
      Webhook.decisionPoint platform call merchantId recoveryCase db = .ok ((point, customer), db) ∧
      q = ⟨point, customer, none, none, call.capabilities, recoveryCase.failedInvoiceId.isSome,
        call.scorer⟩

/-- The call gives an action its decision: it writes both. `recommend_action` may find the database
changed by then. -/
def Gives (db : Database) (action : RecoveryActionRecord) (policy : PolicyDecisionRecord) :
    DecidingCall → Prop
  | recommendAction service request =>
    ∃ pending db₁ db₂, Cases.decideRecommendation service request db = .ok (.inr pending, db) ∧
      Cases.persistRecommendation pending db₁ = .ok ((action, policy), db₂) ∧
      policy ∉ db₁.policies
  | initialRecommendation platform call merchantId recoveryCase =>
    ∃ db', Webhook.ensureInitialRecommendation platform call merchantId recoveryCase db =
        .ok (action, db') ∧
      policy ∈ db'.policies ∧ policy ∉ db.policies

section
variable {db : Database} {service : Cases.Service} {request : Cases.RecommendRequest}

/-- A recommendation that is decided answers the question that was put. -/
lemma decideRecommendation_answer {pending : Cases.PendingRecommendation}
    (h : Cases.decideRecommendation service request db = .ok (.inr pending, db)) :
    ∃ q, Asks db q (recommendAction service request) ∧
      q.Answer pending.action pending.decision := by
  obtain ⟨aggregate, t, haggregate, h⟩ := Tx.bind_eq_ok h
  obtain rfl := Core.getCaseAggregate_readOnly _ _ _ haggregate
  cases hreplayed : Cases.replayed request aggregate with
  | some action => simp [hreplayed, pure] at h
  | none =>
    rw [hreplayed] at h
    obtain ⟨point, t', hpoint, h⟩ := Tx.bind_eq_ok h
    obtain rfl := Core.decisionPoint_readOnly _ _ _ hpoint
    obtain ⟨⟨action, surface, decision⟩, t', hcall, h⟩ := Tx.bind_eq_ok h
    obtain ⟨hchoice, rfl⟩ := Tx.call_eq_ok hcall
    obtain rfl : (⟨request, point, action, surface, decision⟩ : Cases.PendingRecommendation) =
        pending := by simpa [pure] using h
    refine ⟨_, ⟨aggregate, point, haggregate, hpoint, rfl⟩, ?_⟩
    unfold Cases.chooseAction at hchoice
    unfold Question.Answer
    cases ha : request.actionType with
    | none =>
      simp only [ha, bind, Except.bind] at hchoice
      split at hchoice
      · cases hchoice
      · next ranked hranked =>
        obtain ⟨rfl, -, rfl⟩ : ranked.candidate.actionType = action ∧
            ranked.candidate.paymentSurfaceType = surface ∧ ranked.policy = decision := by
          simpa using hchoice
        refine ⟨ranked, ?_, rfl, rfl⟩
        unfold Cases.raises at hranked
        split at hranked
        · next hdecide =>
          rw [← Except.ok.inj hranked]
          exact hdecide
        · cases hranked
    | some a =>
      simp only [ha, bind, Except.bind] at hchoice
      split_ifs at hchoice with hs
      split at hchoice
      · cases hchoice
      · next d hd =>
        obtain ⟨rfl, -, rfl⟩ : a = action ∧ request.paymentSurfaceType = surface ∧
            d.toContract = decision := by simpa using hchoice
        refine ⟨rfl, hs, d, ?_, rfl⟩
        unfold Cases.raises at hd
        split at hd
        · next hevaluate =>
          rw [← Except.ok.inj hd]
          exact hevaluate
        · cases hd

/-- What is written of a recommendation, unless its key is taken. -/
lemma persistRecommendation_writes {pending : Cases.PendingRecommendation} :
    Tx.Ensures (· = db) (Cases.persistRecommendation pending) fun r _ =>
      r.2 ∈ db.policies ∨ r.1.actionType = pending.action ∧
        r.2.disposition = pending.decision.disposition ∧
        r.2.delayUntil = pending.decision.delayUntil := by
  refine .query_bind fun existing => ?_
  cases existing with
  | some action =>
    refine .query_bind fun found => .expect_bind fun policy hpolicy => .pure ?_
    rintro _ ⟨⟨rfl, -⟩, hfound⟩
    rw [hpolicy] at hfound
    exact .inl (List.mem_of_mem_filter (Table.mem_of_first hfound))
  | none =>
    exact .bind (Q := fun _ _ => True) (.attempt fun _ _ _ _ => trivial) fun _ =>
      .bind (Q := fun _ _ => True) (.modify fun _ _ => trivial) fun _ =>
      .pure fun _ _ => .inr ⟨rfl, rfl, rfl⟩

/-- What the initial recommendation writes, unless there is one. -/
lemma ensureInitialRecommendation_writes {platform : Webhook.Platform} {call : Webhook.Call}
    {merchantId : String} {c : RecoveryCase} :
    Tx.Ensures (· = db) (Webhook.ensureInitialRecommendation platform call merchantId c) fun a t =>
      t = db ∨ ∃ ranked p, Webhook.rankedDecision platform call merchantId c db = .ok (ranked, db) ∧
        t.policies = db.policies ++ [p] ∧ a.actionType = ranked.candidate.actionType ∧
        p.disposition = ranked.policy.disposition ∧ p.delayUntil = ranked.policy.delayUntil := by
  refine .query_bind fun existing => ?_
  cases existing with
  | some action =>
    exact .require_bind fun _ => .query_bind fun _ => .require_bind fun _ =>
      .pure fun _ h => .inl h.1.1
  | none =>
    rintro _ ⟨rfl, -⟩
    refine Tx.Ensures.run_bind (fun ranked t₀ hranked => ?_) _ rfl
    obtain ⟨rfl, -⟩ := Webhook.rankedDecision_spec _ rfl _ _ hranked
    dsimp only
    refine .attempt_bind (.attempt_bind (.pure ?_))
    rintro t ⟨db₁, ⟨_, rfl, h₁⟩, ht⟩
    obtain ⟨rows, -, rfl⟩ := Option.map_eq_some_iff.mp ht
    exact .inr ⟨ranked, _, hranked, (Core.insertActionWithPolicy_tables h₁).2.2.1, rfl, rfl, rfl⟩

/-- A ranked decision answers the question that was put. -/
lemma rankedDecision_answer {platform : Webhook.Platform} {call : Webhook.Call}
    {merchantId : String} {c : RecoveryCase} {ranked : RecoveryDecisionResult}
    (h : Webhook.rankedDecision platform call merchantId c db = .ok (ranked, db)) :
    ∃ q, Asks db q (initialRecommendation platform call merchantId c) ∧
      q.Answer ranked.candidate.actionType ranked.policy := by
  obtain ⟨⟨point, customer⟩, t, hpoint, h⟩ := Tx.bind_eq_ok h
  obtain ⟨rfl, -⟩ := Webhook.decisionPoint_spec db rfl _ _ hpoint
  obtain ⟨hdecide, -⟩ := Tx.call_eq_ok h
  refine ⟨_, ⟨point, customer, hpoint, rfl⟩, ranked, ?_, rfl, rfl⟩
  unfold Webhook.raises at hdecide
  split at hdecide
  · next hok =>
    rw [← Except.ok.inj hdecide]
    exact hok
  · cases hdecide

end

/-- Every decision that is given answers a question that was put. -/
lemma answer_of_gives {db : Database} {action : RecoveryActionRecord}
    {policy : PolicyDecisionRecord} {call : DecidingCall} (h : call.Gives db action policy) :
    ∃ q decision, call.Asks db q ∧ q.Answer action.actionType decision ∧
      policy.disposition = decision.disposition ∧ policy.delayUntil = decision.delayUntil := by
  cases call with
  | recommendAction service request =>
    obtain ⟨pending, db₁, db₂, hdecide, hpersist, hnew⟩ := h
    obtain ⟨q, hasks, hanswer⟩ := decideRecommendation_answer hdecide
    rcases persistRecommendation_writes db₁ rfl _ _ hpersist with hold | ⟨ha, hp, ht⟩
    · exact absurd hold hnew
    · exact ⟨q, pending.decision, hasks, ha ▸ hanswer, hp, ht⟩
  | initialRecommendation platform call merchantId recoveryCase =>
    obtain ⟨db', hensure, hin, hnew⟩ := h
    rcases ensureInitialRecommendation_writes db rfl _ _ hensure with
      rfl | ⟨ranked, p, hranked, hpolicies, ha, hp, ht⟩
    · exact absurd hin hnew
    · obtain ⟨q, hasks, hanswer⟩ := rankedDecision_answer hranked
      rw [hpolicies, List.mem_append, List.mem_singleton] at hin
      obtain rfl := hin.resolve_left hnew
      exact ⟨q, ranked.policy, hasks, ha ▸ hanswer, hp, ht⟩

/-- A decision respects the contact cap exactly if there is room for a contact, or the question does
not reach out, or a suppression bars every contact, or it is a quiet hour whose end is past the
deadline or finds room. -/
theorem contact_cap_iff {db : Database} {action : RecoveryActionRecord}
    {policy : PolicyDecisionRecord} {call : DecidingCall} (h : call.Gives db action policy)
    (history : List Outreach) :
    ∃ q, call.Asks db q ∧
      (q.CapRespected history action.actionType policy.disposition policy.delayUntil ↔
        q.Room history q.point.now ∨ ¬ q.ReachesOut ∨ q.Closed ∨ q.QuietUntilRoom history) := by
  obtain ⟨q, decision, hasks, hanswer, hp, ht⟩ := answer_of_gives h
  refine ⟨q, hasks, ?_⟩
  rw [hp, ht]
  exact Question.answer_iff hanswer

/-- The calls that the database records. -/
def callsOf (db : Database) : List Outreach :=
  db.voiceAttempts.map fun a => ⟨.startVoice, a.customerId, a.createdAt, rfl⟩

/-- A customer who was called twice in the last two days, of a merchant that caps at two. -/
def calledTwice : Database where
  __ := Webhook.sampleStore
  cases := [
    { id := "case_1", merchantId := "merchant_1", customerId := "customer_1"
      subscriptionId := "subscription_1", failedInvoiceId := some "invoice_1"
      billingCycleKey := some "cycle_1", failedPaymentId := none
      caseOutcome := .open, paymentState := .failed
      subscriptionState := .halted, contactDisposition := .notContacted
      revenueAttribution := .none, diagnosis := .insufficientFunds, amountAtRiskPaise := 50000
      arrearsCollectedPaise := 0, caseRecovered := false, subscriptionReactivated := false
      openedAt := 0, recoveryDeadline := 12 * day, recoveredAt := none, version := 1 }]
  voiceAttempts := [
    { id := "call_1", merchantId := "merchant_1", caseId := "case_1", customerId := "customer_1"
      idempotencyKey := "key_1", provider := "twilio", status := .completed, createdAt := 9 * day },
    { id := "call_2", merchantId := "merchant_1", caseId := "case_1", customerId := "customer_1"
      idempotencyKey := "key_2", provider := "twilio", status := .completed
      createdAt := 10 * day }]

/-- An operator asks for a third call, at noon. -/
def thirdCall : DecidingCall :=
  .recommendAction
    { zoneInfo := Webhook.samplePlatform.zoneInfo, globalKillSwitch := false
      capabilities := ⟨true, false⟩, scorer := fun _ => .ok ⟨0, 0, 0, zeroProbability_mem, zeroRecovered_nonneg⟩ }
    { merchantId := "merchant_1", caseId := "case_1", actionType := some .startVoice
      paymentSurfaceType := none, evaluatedAt := 10 * day + 390 * minute
      actionId := "action_1", policyId := "policy_1", utcNow := 10 * day + 390 * minute }

def thirdAction : RecoveryActionRecord where
  id := "action_1"
  caseId := "case_1"
  actionType := .startVoice
  paymentSurfaceType := none
  status := .proposed
  idempotencyKey := "case:case_1:action:START_VOICE:surface:none"
  scheduledFor := none
  externalReference := none
  customerUrl := none
  completedAt := none
  createdAt := 10 * day + 390 * minute

def thirdPolicy : PolicyDecisionRecord where
  id := "policy_1"
  caseId := "case_1"
  actionId := some "action_1"
  disposition := .allow
  decisionCode := "WITHIN_RECOVERY_WINDOW"
  reasonCodes := ["WITHIN_RECOVERY_WINDOW", "NO_SUPPRESSION"]
  reasons := ["The case is within its configured recovery window.",
    "No higher-priority suppression applies to this action."]
  policyVersion := "recovery-safety.v2"
  delayUntil := none
  createdAt := 10 * day + 390 * minute

lemma thirdCall_gives : thirdCall.Gives calledTwice thirdAction thirdPolicy :=
  ⟨_, calledTwice, _, rfl, rfl, by simp [calledTwice, Webhook.sampleStore]⟩

theorem third_call_cap : thirdCall.Gives calledTwice thirdAction thirdPolicy ∧
    ∃ q, thirdCall.Asks calledTwice q ∧
      (q.CapRespected (callsOf calledTwice) thirdAction.actionType thirdPolicy.disposition
          thirdPolicy.delayUntil ↔
        q.Room (callsOf calledTwice) q.point.now ∨ ¬ q.ReachesOut ∨ q.Closed ∨
          q.QuietUntilRoom (callsOf calledTwice)) :=
  ⟨thirdCall_gives, contact_cap_iff thirdCall_gives _⟩

/-- The third call is allowed. -/
theorem third_call_allowed : thirdCall.Gives calledTwice thirdAction thirdPolicy ∧
    ∃ q, thirdCall.Asks calledTwice q ∧
      ¬ q.CapRespected (callsOf calledTwice) thirdAction.actionType thirdPolicy.disposition
        thirdPolicy.delayUntil := by
  refine ⟨thirdCall_gives, _, ⟨_, _, rfl, rfl, rfl⟩, ?_⟩
  intro h
  refine (h ?_ rfl).1 rfl
  intro hroom
  have := hroom 2 rfl
  revert this
  decide

end DecidingCall

end RecoveryOS.Decision
