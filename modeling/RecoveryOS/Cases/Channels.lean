import RecoveryOS.Cases.Service
import RecoveryOS.Lib.Groups
import Mathlib.Data.String.Basic

/-!
# Recovered money by channel

`recovery_by_channel` of `repositories/cases.py` joins each case of a merchant with its latest
action and with its verified recognitions, and groups the rows by what the action is. A group whose
action reaches no customer is left out. So the money of a case counts for the channel of its latest action,
and for none if that is not customer-facing (`recovered_eq`).
-/

namespace RecoveryOS.Cases

open Store

/-- What an action is, as far as its channel goes. -/
abbrev ActionGroup := RecoveryActionType × Option PaymentSurfaceType

def groupOf (a : RecoveryActionRecord) : ActionGroup := (a.actionType, a.paymentSurfaceType)

/-- The channel of a group; `none` if it is skipped. -/
def channel : ActionGroup → Option String
  | (.startVoice, _) => some "VOICE"
  | (.sendToCustomerAgent, _) => some "CUSTOMER_AGENT"
  | (.openCustomerPaymentSurface, surface) => surface.map (·.value)
  | _ => none

/-- The cases of a merchant with their latest actions. -/
def latestActions (merchantId : String) (db : Database) :
    List (RecoveryCase × RecoveryActionRecord) :=
  (db.cases.filter fun c => c.merchantId = merchantId).filterMap fun c =>
    (latestActionOf c.id db).map fun a => (c, a)

/-- The recognitions of a case that count as recovered. -/
def verifiedRecognitions (merchantId caseId : String) (db : Database) :
    List RevenueRecognitionRecord :=
  db.recognitions.filter fun r => r.caseId = caseId ∧ r.merchantId = merchantId ∧
    r.arrearsCollected = true ∧
    (r.attribution = .razorpayTestVerified ∨ r.attribution = .verifiedExternal)

def verifiedPaise (merchantId caseId : String) (db : Database) : ℤ :=
  ((verifiedRecognitions merchantId caseId db).map (·.amountPaise)).sum

/-- `recovery_by_channel`: the channel, how many cases it has, and what they recovered. -/
def recoveryByChannel (merchantId : String) (db : Database) : List (String × ℕ × ℤ) :=
  let rows := latestActions merchantId db
  (rows.map fun row => groupOf row.2).dedup.filterMap fun group =>
    let cases := (rows.filter fun row => groupOf row.2 = group).map (·.1.id)
    (channel group).map fun name =>
      (name, cases.dedup.length, (cases.map fun caseId => verifiedPaise merchantId caseId db).sum)

section
variable {db : Database} {merchantId : String}

/-- The recovered amounts of the channels that are asked for. -/
def recovered (merchantId : String) (asked : String → Bool) (db : Database) : ℤ :=
  (((recoveryByChannel merchantId db).filter fun row => asked row.1).map (·.2.2)).sum

/-- The channel of a case. -/
def caseChannel (caseId : String) (db : Database) : Option String :=
  (latestActionOf caseId db).bind fun a => channel (groupOf a)

/-- The ids of the merchant's cases. -/
def caseIds (merchantId : String) (db : Database) : List String :=
  (db.cases.filter fun c => c.merchantId = merchantId).map (·.id)

/-- What a case adds to the channels that are asked for. -/
def contribution (merchantId : String) (asked : String → Bool) (db : Database) (caseId : String) :
    ℤ :=
  if (caseChannel caseId db).any asked then verifiedPaise merchantId caseId db else 0

/-- The amounts of the channels, as sums over the groups that have one. -/
lemma recovered_groups (asked : String → Bool) (groups : List ActionGroup)
    (amount : ActionGroup → ℕ × ℤ) :
    (((groups.filterMap fun group => (channel group).map fun name => (name, amount group)).filter
      fun row => asked row.1).map (·.2.2)).sum
      = ((groups.filter fun group => (channel group).any asked).map fun group =>
        (amount group).2).sum := by
  induction groups with
  | nil => rfl
  | cons group groups ih =>
    rw [List.filterMap_cons, List.filter_cons]
    cases hc : channel group with
    | none => simpa [hc] using ih
    | some name =>
      by_cases ha : asked name = true
      · simp [ha, ih]
      · simp [ha, ih]

/-- The rows of the channels that are asked for, case by case. -/
lemma sum_latestActions (asked : String → Bool) (cases : List RecoveryCase) :
    (((cases.filterMap fun c => (latestActionOf c.id db).map fun a => (c, a)).filter fun row =>
      (channel (groupOf row.2)).any asked).map fun row => verifiedPaise merchantId row.1.id db).sum
      = (cases.map fun c => contribution merchantId asked db c.id).sum := by
  induction cases with
  | nil => rfl
  | cons c cases ih =>
    rw [List.filterMap_cons, List.map_cons, List.sum_cons, ← ih]
    cases ha : latestActionOf c.id db with
    | none => simp [contribution, caseChannel, ha]
    | some a =>
      rw [Option.map_some, List.filter_cons]
      split_ifs with hc
      · simp [contribution, caseChannel, ha, hc]
      · simp [contribution, caseChannel, ha, hc]

/-- The money of a case counts for the channel of its latest action. -/
theorem recovered_eq (asked : String → Bool) : recovered merchantId asked db =
    ((caseIds merchantId db).map (contribution merchantId asked db)).sum := by
  set rows := latestActions merchantId db with hrows
  set groups := (rows.map fun row => groupOf row.2).dedup with hgroups
  have hnodup : (groups.filter fun group => (channel group).any asked).Nodup :=
    (List.nodup_dedup _).filter _
  have hrow : ∀ row ∈ rows, ((groups.filter fun group => (channel group).any asked).any fun group =>
      groupOf row.2 = group) = (channel (groupOf row.2)).any asked := by
    intro row hrow
    have hin : groupOf row.2 ∈ groups := by
      rw [hgroups, List.mem_dedup]
      exact List.mem_map_of_mem hrow
    rw [Bool.eq_iff_iff, List.any_eq_true]
    constructor
    · rintro ⟨group, hgroup, heq⟩
      rw [of_decide_eq_true heq]
      exact (List.mem_filter.mp hgroup).2
    · intro hasked
      exact ⟨_, List.mem_filter.mpr ⟨hin, hasked⟩, decide_eq_true rfl⟩
  calc recovered merchantId asked db
      = ((groups.filter fun group => (channel group).any asked).map fun group =>
          ((rows.filter fun row => groupOf row.2 = group).map fun row =>
            verifiedPaise merchantId row.1.id db).sum).sum := by
        rw [recovered, recoveryByChannel, recovered_groups]
        simp only [List.map_map, Function.comp_def, ← hrows, ← hgroups]
    _ = ((rows.filter fun row => (channel (groupOf row.2)).any asked).map fun row =>
          verifiedPaise merchantId row.1.id db).sum := by
        rw [Groups.sum_groups (fun row : RecoveryCase × RecoveryActionRecord => groupOf row.2)
          (fun row => verifiedPaise merchantId row.1.id db) rows hnodup, List.filter_congr hrow]
    _ = ((caseIds merchantId db).map (contribution merchantId asked db)).sum := by
        rw [hrows, latestActions, sum_latestActions, caseIds, List.map_map]
        rfl

/-! ## The latest action -/

/-- The order of the actions, the latest first. -/
def later (a b : RecoveryActionRecord) : Bool :=
  decide (b.createdAt < a.createdAt) || decide (a.createdAt = b.createdAt) && decide (b.id ≤ a.id)

lemma later_iff {a b : RecoveryActionRecord} : later a b = true ↔
    b.createdAt < a.createdAt ∨ a.createdAt = b.createdAt ∧ b.id ≤ a.id := by
  simp [later]

lemma later_total (a b : RecoveryActionRecord) : later a b = true ∨ later b a = true := by
  rw [later_iff, later_iff]
  rcases lt_trichotomy a.createdAt b.createdAt with h | h | h
  · exact .inr (.inl h)
  · rcases le_total a.id b.id with hid | hid
    · exact .inr (.inr ⟨h.symm, hid⟩)
    · exact .inl (.inr ⟨h, hid⟩)
  · exact .inl (.inl h)

lemma later_trans (a b c : RecoveryActionRecord) (hab : later a b = true) (hbc : later b c = true) :
    later a c = true := by
  rw [later_iff] at hab hbc ⊢
  rcases hab with hab | ⟨hab, hid⟩
  · rcases hbc with hbc | ⟨hbc, -⟩
    · exact .inl (hbc.trans hab)
    · exact .inl (hbc ▸ hab)
  · rcases hbc with hbc | ⟨hbc, hid'⟩
    · exact .inl (hab ▸ hbc)
    · exact .inr ⟨hab.trans hbc, hid'.trans hid⟩

lemma later_antisymm {a b : RecoveryActionRecord} (hab : later a b = true)
    (hba : later b a = true) : a.id = b.id := by
  rw [later_iff] at hab hba
  rcases hab with hab | ⟨hab, hid⟩
  · rcases hba with hba | ⟨hba, -⟩
    · exact absurd hab (lt_asymm hba)
    · exact absurd hba (ne_of_lt hab)
  · rcases hba with hba | ⟨-, hid'⟩
    · exact absurd hab (ne_of_lt hba)
    · exact le_antisymm hid' hid

/-- An action without its progress: what is left tells its place and its channel. -/
def erased (a : RecoveryActionRecord) : RecoveryActionRecord :=
  { a with
    status := .proposed
    scheduledFor := none
    externalReference := none
    customerUrl := none
    completedAt := none }

lemma latestActionOf_erased (caseId : String) : (latestActionOf caseId db).map erased =
    Table.first later ((db.actions.map erased).filter fun a => a.caseId = caseId) := by
  have hmap : Table.first later ((db.actions.filter fun a => a.caseId = caseId).map erased)
      = (latestActionOf caseId db).map erased := Table.first_map fun _ _ => rfl
  rw [List.filter_map]
  exact hmap.symm

lemma caseChannel_eq (caseId : String) : caseChannel caseId db =
    ((latestActionOf caseId db).map erased).bind fun a => channel (groupOf a) := by
  rw [caseChannel]
  cases latestActionOf caseId db <;> rfl

/-- The channel of a case does not depend on how far its actions went. -/
lemma caseChannel_congr {db' : Database} {caseId : String}
    (h : (db'.actions.map erased).filter (fun a => a.caseId = caseId)
      = (db.actions.map erased).filter fun a => a.caseId = caseId) :
    caseChannel caseId db' = caseChannel caseId db := by
  rw [caseChannel_eq, caseChannel_eq, latestActionOf_erased, latestActionOf_erased, h]

/-- The latest of some actions is the one that comes before all others. -/
lemma first_later {rows : List RecoveryActionRecord} {r : RecoveryActionRecord}
    (hk : Table.Keyed RecoveryActionRecord.id rows) (hr : r ∈ rows)
    (hall : ∀ x ∈ rows, later r x = true) : Table.first later rows = some r :=
  Table.first_eq_some later_total later_trans hr hall fun _ hx hxr hrx =>
    hk.eq hx hr (later_antisymm hxr hrx)

/-- A new action is the latest one of its case, unless the latest so far is later. -/
lemma latestActionOf_append {db' : Database} {w : RecoveryActionRecord} {caseId : String}
    (h : db'.actions.map erased = db.actions.map erased ++ [w]) (hcase : w.caseId = caseId)
    (hk : ((db'.actions.map erased).map RecoveryActionRecord.id).Nodup) :
    (latestActionOf caseId db').map erased = some w ∧
        (∀ l, latestActionOf caseId db = some l → later l w = false) ∨
      ∃ l, latestActionOf caseId db = some l ∧ later l w = true ∧
        (latestActionOf caseId db').map erased = some (erased l) := by
  set rows := (db.actions.map erased).filter fun a => a.caseId = caseId with hrows
  have hrows' : ((db'.actions.map erased).filter fun a => a.caseId = caseId) = rows ++ [w] := by
    rw [h, List.filter_append, List.filter_singleton]
    simp [hcase, hrows]
  have hkeyed : Table.Keyed RecoveryActionRecord.id (rows ++ [w]) := by
    rw [← hrows']
    exact hk.sublist (List.filter_sublist.map _)
  have hold : (latestActionOf caseId db).map erased = Table.first later rows :=
    latestActionOf_erased caseId
  have hnew : (latestActionOf caseId db').map erased = Table.first later (rows ++ [w]) := by
    rw [latestActionOf_erased, hrows']
  rw [hnew]
  cases hl : latestActionOf caseId db with
  | none =>
    rw [hl, Option.map_none, eq_comm, Table.first_eq_none] at hold
    rw [hold]
    exact .inl ⟨rfl, fun l hl => by cases hl⟩
  | some l =>
    rw [hl, Option.map_some, eq_comm] at hold
    have hmem := Table.mem_of_first hold
    have hfirst : ∀ x ∈ rows, later (erased l) x = true := fun x hx =>
      Table.le_of_first later_total later_trans hold hx
    by_cases hlw : later l w = true
    · refine .inr ⟨l, rfl, hlw, first_later hkeyed (List.mem_append_left _ hmem) fun x hx => ?_⟩
      rcases List.mem_append.mp hx with hx | hx
      · exact hfirst x hx
      · rw [List.mem_singleton.mp hx]
        exact hlw
    · have hwl : later w (erased l) = true := (later_total l w).resolve_left hlw
      refine .inl ⟨first_later hkeyed (by simp) fun x hx => ?_, ?_⟩
      · rcases List.mem_append.mp hx with hx | hx
        · exact later_trans _ _ _ hwl (hfirst x hx)
        · rw [List.mem_singleton.mp hx]
          exact (later_total w w).elim id id
      · rintro _ ⟨⟩
        exact Bool.eq_false_iff.mpr hlw

end

end RecoveryOS.Cases
