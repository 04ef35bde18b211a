import RecoveryOS.Lib.Rounds
import RecoveryOS.Worker.Workflow

/-!
# The rounds of the workflow

`run` has a loop of its own and two waits that are loops. Each is a `while` with a condition and a
round, entered from what `run` does before it: the waits after the policy decision, the main loop
after the action was begun.
-/

namespace RecoveryOS.Worker

open Resume

/-- A round of the `while` loop of `run`; it answers whether it leaves the loop. -/
def mainRound (host : Host) (rounds : ℕ) : Wf Bool := do
  drainSignals host rounds
  let s ← Code.read
  if s.terminal then
    pure true
  else if s.pastDeadline then do
    expire
    pure true
  else do
    pollA2aIfDue
    let s ← Code.read
    if s.terminal then
      pure true
    else do
      waitForSignalOrDeadline
      drainSignals host rounds
      pure false

/-- A round of `_wait_for_approval_or_terminal`. -/
def approvalRound (host : Host) (rounds : ℕ) : Wf Bool :=
  (do
    waitForSignalOrDeadline
    drainSignals host rounds
    checkApprovalDeadline) >>= fun _ => pure false

/-- A round of `_wait_until`. -/
def delayRound (host : Host) (target : Instant) (rounds : ℕ) : Wf Bool := do
  let s ← Code.read
  let timeout := min target (s.deadline.getD target) - s.now
  if timeout ≤ 0 then
    pure true
  else do
    waitCondition timeout
    drainSignals host rounds
    pure false

/-- What the main loop looks at. -/
def mainCondition (s : Workflow) : Bool := !s.terminal

def approvalCondition (s : Workflow) : Bool := s.approvalReceived.isNone && !s.terminal

def delayCondition (target : Instant) (s : Workflow) : Bool :=
  !s.terminal && decide (s.now < target)

/-- `run` up to the waits. -/
def reachDecision (host : Host) (workflowId : String) (command : RecoveryWorkflowInput) :
    Wf PolicyResult := do
  let policy ← decidePolicy host workflowId command
  adoptPolicy policy
  pure policy

/-- From the decision to the loop, which is entered or not. -/
def enterMainLoop (host : Host) (rounds : ℕ) (policy : PolicyResult) : Wf Bool :=
  if policy.disposition = "BLOCK" then do
    finish .stopped "BLOCKED_BY_POLICY"
    pure false
  else do
    if (← awaitPolicy host rounds policy) then do
      beginAction policy
      let s ← Code.read
      if s.terminal then
        pure false
      else do
        Code.modify fun s =>
          if s.actionStatus = some "UNCERTAIN" then s
          else if s.a2aTaskId.isSome then { s with phase := .awaitingCustomerAuthorization }
          else { s with phase := .awaitingRecovery }
        pure true
    else
      pure false

/-- `run` up to its loop. -/
def reachMainLoop (host : Host) (rounds : ℕ) (workflowId : String)
    (command : RecoveryWorkflowInput) : Wf Bool := do
  let policy ← reachDecision host workflowId command
  enterMainLoop host rounds policy

section
variable (host : Host) (rounds : ℕ) (workflowId : String) (command : RecoveryWorkflowInput)

theorem mainLoop_rounds :
    mainLoop host rounds = Code.loop mainCondition (mainRound host rounds) rounds := rfl

theorem waitForApprovalOrTerminal_rounds : waitForApprovalOrTerminal host rounds =
    Code.loop approvalCondition (approvalRound host rounds) rounds := rfl

theorem waitUntil_rounds (target : Instant) : waitUntil host target rounds = (do
    Code.loop (delayCondition target) (delayRound host target rounds) rounds
    let s ← Code.read
    if s.pastDeadline = true ∧ s.terminal = false then expire else pure ()) := rfl

/-- A run reaches its loop or not, and goes through it. -/
theorem run_rounds : run host rounds workflowId command = (do
    let enters ← reachMainLoop host rounds workflowId command
    if enters then
      mainLoop host rounds
    else
      pure ()
    return (← Code.read).result) := by
  funext s
  simp only [run, reachMainLoop, reachDecision, Code.bind_apply, Proc.bind_assoc]
  congr 1
  funext t policy
  congr 1
  funext u _
  simp only [enterMainLoop, Code.pure_apply, Proc.bind]
  split_ifs with hblock
  · rfl
  · simp only [Code.bind_apply, Proc.bind_assoc]
    congr 1
    funext v go
    cases go with
    | true =>
      simp only [if_true, Code.bind_apply, Proc.bind_assoc]
      congr 1
      funext w _
      by_cases hterminal : w.terminal = true
      · simp only [awaitRecovery, Code.bind_apply, Code.read_apply, Proc.bind, if_pos hterminal]
        rfl
      · simp only [awaitRecovery, Code.bind_apply, Code.read_apply, Proc.bind, if_neg hterminal]
        rfl
    | false => rfl

end

end RecoveryOS.Worker
