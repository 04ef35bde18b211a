import RecoveryOS.Lib.Calendar
import RecoveryOS.Lib.Machines
import RecoveryOS.Lib.Table
import RecoveryOS.CustomerAgent.Lifecycle

/-!
# The two task stores

`InMemoryTaskStore` keeps tasks, `SqlAlchemyTaskStore` keeps rows of PostgreSQL with a JSON payload
and a version, whose keys are the task and the idempotency key. What a task store is for is said by
`TaskLedger`: a key is bound to the first task created under it, and a task is replaced only by one
that knows its revision. Both stores follow the ledger as long as the calls fit the columns of the
table and no task has the empty id. The memory has no columns, so that it takes a key of 256
characters, which the table refuses; and it takes a key that is bound to the empty id for a free one.
-/

namespace RecoveryOS.CustomerAgent

open Machines
open RecoveryOS.A2A (DateTime)

/-! ## Calls and answers -/

inductive TaskCall where
  | createOnce (idempotencyKey : String) (task : TaskRecord)
  | get (taskId : String)
  | save (task : TaskRecord) (expectedRevision : ℕ)

/-- The exceptions of a store; `dataError` is for a value that a column does not take. -/
inductive StoreError where
  | versionConflict
  | integrityError
  | dataError
  | raised (e : Raised)
  deriving DecidableEq

/-- What a call returns; a save leaves its argument at the next revision. -/
inductive TaskAnswer where
  | task (task : TaskRecord)
  | found (task : Option TaskRecord)
  | saved (task : TaskRecord)
  | error (e : StoreError)

section
variable (pkgs : Packages)

/-- `InMemoryTaskStore`. -/
def memoryStep (w : Store) : TaskCall → TaskAnswer × Store
  | .createOnce key task =>
    match w.createOnce pkgs key task with
    | (w', .ok stored) => (.task stored, w')
    | (w', .error e) => (.error (.raised e), w')
  | .get taskId => (.found (w.tasks taskId), w)
  | .save task expected =>
    match w.save task expected with
    | (w', true) => (.saved { task with revision := expected + 1 }, w')
    | (w', false) => (.error .versionConflict, w')

/-- `_task_payload`, and `TaskRecord.model_validate` of a payload with a revision. -/
structure TaskJson where
  Payload : Type
  taskPayload : TaskRecord → Payload
  modelValidate : Payload → ℕ → Option TaskRecord

/-- What is dumped is read back, at the revision that is put in. -/
def TaskJson.RoundTrips (j : TaskJson) : Prop :=
  ∀ task revision, 1 ≤ revision →
    j.modelValidate (j.taskPayload task) revision = some { task with revision }

/-- A text that PostgreSQL takes has no zero character. -/
def encodable (s : String) : Bool := s.toList.all fun c => c ≠ '\x00'

/-- What a column `String(n)` holds of a text: spaces beyond its width are cut off, and anything else
beyond it is refused. -/
def varchar (n : ℕ) (s : String) : Option String :=
  if encodable s && (s.toList.drop n).all (· = ' ') then some (String.ofList (s.toList.take n))
  else none

/-- The largest number of a column `Integer`. -/
def maxInteger : ℕ := 2147483647

structure CustomerAgentTaskRow (j : TaskJson) where
  taskId : String
  idempotencyKey : String
  state : TaskState
  payload : j.Payload
  version : ℕ
  createdAt : DateTime
  updatedAt : DateTime
  version_positive : 1 ≤ version

variable {j : TaskJson}

/-- `_task_from_row`. -/
def taskFromRow (row : CustomerAgentTaskRow j) : Option TaskRecord :=
  j.modelValidate row.payload row.version

/-- The row of a new task, if its columns take it. A time is sent in UTC, and the names of the states
are shorter than their column. -/
def taskRow (idempotencyKey : String) (task : TaskRecord) : Option (CustomerAgentTaskRow j) :=
  match varchar 96 task.id, varchar 255 idempotencyKey with
  | some taskId, some idempotencyKey =>
    if Calendar.InRange task.createdAt.instant ∧ Calendar.InRange task.updatedAt.instant then
      some
        { taskId, idempotencyKey, state := task.state, payload := j.taskPayload task, version := 1
          createdAt := task.createdAt, updatedAt := task.updatedAt, version_positive := le_rfl }
    else none
  | _, _ => none

/-- The primary key, and the unique idempotency key. -/
def CustomerAgentTaskRow.clashes (a b : CustomerAgentTaskRow j) : Bool :=
  a.taskId == b.taskId || a.idempotencyKey == b.idempotencyKey

/-- `SqlAlchemyTaskStore.create_once`. -/
def sqlCreateOnce (rows : List (CustomerAgentTaskRow j)) (key : String) (task : TaskRecord) :
    TaskAnswer × List (CustomerAgentTaskRow j) :=
  match taskRow key task with
  | none => (.error .dataError, rows)
  | some row =>
    match Table.insert (fun _ => true) CustomerAgentTaskRow.clashes rows row with
    | some rows' =>
      match taskFromRow row with
      | some stored => (.task stored, rows')
      | none => (.error (.raised .validation), rows')
    | none =>
      match rows.find? fun row => row.idempotencyKey = key with
      | none => (.error .integrityError, rows)
      | some row =>
        match taskFromRow row with
        | none => (.error (.raised .validation), rows)
        | some existing =>
          if existing.request.canonical pkgs ≠ task.request.canonical pkgs then
            (.error (.raised .idempotencyConflict), rows)
          else (.task existing, rows)

/-- `SqlAlchemyTaskStore.get`. -/
def sqlGet (rows : List (CustomerAgentTaskRow j)) (taskId : String) : TaskAnswer :=
  if encodable taskId then
    match rows.find? fun row => row.taskId = taskId with
    | none => .found none
    | some row =>
      match taskFromRow row with
      | none => .error (.raised .validation)
      | some task => .found (some task)
  else .error .dataError

/-- `SqlAlchemyTaskStore.save`: an `UPDATE` of the row that has the expected version. -/
def sqlSave (rows : List (CustomerAgentTaskRow j)) (task : TaskRecord) (expected : ℕ) :
    TaskAnswer × List (CustomerAgentTaskRow j) :=
  let hit : CustomerAgentTaskRow j → Bool := fun row =>
    row.taskId == task.id && row.version == expected
  if ¬ (encodable task.id ∧ Calendar.InRange task.updatedAt.instant ∧ expected + 1 ≤ maxInteger) then
    (.error .dataError, rows)
  else if rows.countP hit ≠ 1 then (.error .versionConflict, rows)
  else
    (.saved { task with revision := expected + 1 },
      rows.map fun row => if hit row then
        { row with state := task.state, payload := j.taskPayload task, version := expected + 1,
                   updatedAt := task.updatedAt, version_positive := Nat.le_add_left 1 expected }
        else row)

/-- `SqlAlchemyTaskStore`. -/
def sqlStep (rows : List (CustomerAgentTaskRow j)) :
    TaskCall → TaskAnswer × List (CustomerAgentTaskRow j)
  | .createOnce key task => sqlCreateOnce pkgs rows key task
  | .get taskId => (sqlGet rows taskId, rows)
  | .save task expected => sqlSave rows task expected

/-! ## What a task store is for -/

/-- The tasks at their revisions, and the task that each key was first used for. -/
structure TaskLedger where
  tasks : String → Option TaskRecord := fun _ => none
  bound : String → Option String := fun _ => none

def TaskLedger.step (l : TaskLedger) : TaskCall → TaskAnswer × TaskLedger
  | .createOnce key task =>
    match (l.bound key).bind l.tasks with
    | some existing =>
      (if existing.request.canonical pkgs = task.request.canonical pkgs then .task existing
        else .error (.raised .idempotencyConflict), l)
    | none =>
      (.task { task with revision := 1 },
        { tasks := Function.update l.tasks task.id (some { task with revision := 1 })
          bound := Function.update l.bound key (some task.id) })
  | .get taskId => (.found (l.tasks taskId), l)
  | .save task expected =>
    if (l.tasks task.id).map (·.revision) = some expected then
      (.saved { task with revision := expected + 1 },
        { l with
          tasks := Function.update l.tasks task.id (some { task with revision := expected + 1 }) })
    else (.error .versionConflict, l)

/-- The columns of the table take what a call sends. -/
def TaskCall.Sendable : TaskCall → Prop
  | .createOnce key task => (varchar 96 task.id).isSome ∧ (varchar 255 key).isSome ∧
    Calendar.InRange task.createdAt.instant ∧ Calendar.InRange task.updatedAt.instant
  | .get taskId => encodable taskId
  | .save task expected => encodable task.id ∧ Calendar.InRange task.updatedAt.instant ∧
    expected + 1 ≤ maxInteger

/-- What a store promises wherever a sequence of calls has led it to, of the calls that the columns
take: a key that was used before gives the task that was first created under it, as it is now, if the
request is the same, and is refused otherwise, and the store is left as it is; and a save goes through
exactly if the revision it expects is the current one, which it raises by one. -/
structure StoreLaws {σ : Type} (step : σ → TaskCall → TaskAnswer × σ) (s : σ)
    (calls : List TaskCall) : Prop where
  again : ∀ b key first b' task, b ++ .createOnce key first :: b' <+: calls →
    (∀ t, .createOnce key t ∉ b) → (TaskCall.createOnce key task).Sendable →
    ∃ current,
      (step (after step s (b ++ .createOnce key first :: b')) (.get first.id)).1 =
        .found (some current) ∧
      step (after step s (b ++ .createOnce key first :: b')) (.createOnce key task) =
        (if current.request.canonical pkgs = task.request.canonical pkgs then .task current
          else .error (.raised .idempotencyConflict),
          after step s (b ++ .createOnce key first :: b'))
  saved : ∀ b task expected current, b <+: calls → (TaskCall.save task expected).Sendable →
    (step (after step s b) (.get task.id)).1 = .found (some current) →
    current.revision = expected →
    (step (after step s b) (.save task expected)).1 =
        .saved { task with revision := expected + 1 } ∧
      (step (step (after step s b) (.save task expected)).2 (.get task.id)).1 =
        .found (some { task with revision := expected + 1 })
  refused : ∀ b task expected, b <+: calls → (TaskCall.save task expected).Sendable →
    (∀ current, (step (after step s b) (.get task.id)).1 = .found (some current) →
      current.revision ≠ expected) →
    step (after step s b) (.save task expected) = (.error .versionConflict, after step s b)

/-- The id of the task that a call would create. -/
def TaskCall.createdId : TaskCall → Option String
  | .createOnce _ task => some task.id
  | _ => none

/-- No two tasks are created with one id. -/
def FreshIds (calls : List TaskCall) : Prop := (calls.filterMap TaskCall.createdId).Nodup

/-- The id of a new task is not that of another. -/
def NewId (l : TaskLedger) : TaskCall → Prop
  | .createOnce key task => l.bound key = none → l.tasks task.id = none
  | _ => True

/-- The columns take what a call sends, and hold the key and the id of a new task unchanged; and the
id is not the empty one. -/
def Fits (l : TaskLedger) (c : TaskCall) : Prop :=
  c.Sendable ∧ ∀ key task, c = .createOnce key task → l.bound key = none →
    varchar 255 key = some key ∧ varchar 96 task.id = some task.id ∧ task.id ≠ ""

/-! ## The ledger -/

section
variable {pkgs} {l : TaskLedger} {calls : List TaskCall} {key id : String}

lemma TaskLedger.step_used {task existing : TaskRecord} (hb : l.bound key = some id)
    (ht : l.tasks id = some existing) : l.step pkgs (.createOnce key task) =
      (if existing.request.canonical pkgs = task.request.canonical pkgs then .task existing
        else .error (.raised .idempotencyConflict), l) := by
  simp only [TaskLedger.step, hb, Option.bind_some, ht]

lemma TaskLedger.step_free {task : TaskRecord} (hb : (l.bound key).bind l.tasks = none) :
    l.step pkgs (.createOnce key task) =
      (.task { task with revision := 1 },
        { tasks := Function.update l.tasks task.id (some { task with revision := 1 })
          bound := Function.update l.bound key (some task.id) }) := by
  simp only [TaskLedger.step, hb]

lemma TaskLedger.step_current {task current : TaskRecord} (ht : l.tasks task.id = some current) :
    l.step pkgs (.save task current.revision) =
      (.saved { task with revision := current.revision + 1 },
        { l with
          tasks := Function.update l.tasks task.id
            (some { task with revision := current.revision + 1 }) }) := by
  simp only [TaskLedger.step, ht, Option.map_some, if_true]

lemma TaskLedger.step_stale {task : TaskRecord} {expected : ℕ}
    (ht : ∀ current, l.tasks task.id = some current → current.revision ≠ expected) :
    l.step pkgs (.save task expected) = (.error .versionConflict, l) := by
  have hne : (l.tasks task.id).map (·.revision) ≠ some expected := by
    intro hmap
    obtain ⟨current, hcur, hrev⟩ := Option.map_eq_some_iff.mp hmap
    exact ht current hcur hrev
  simp only [TaskLedger.step, if_neg hne]

variable (pkgs l) in
/-- What a call can do to the ledger. -/
lemma TaskLedger.step_cases (c : TaskCall) :
    (l.step pkgs c).2 = l ∨
    (∃ key task, c = .createOnce key task ∧ (l.bound key).bind l.tasks = none ∧
      (l.step pkgs c).2 =
        { tasks := Function.update l.tasks task.id (some { task with revision := 1 })
          bound := Function.update l.bound key (some task.id) }) ∨
    ∃ task current, c = .save task current.revision ∧ l.tasks task.id = some current ∧
      (l.step pkgs c).2 =
        { l with
          tasks := Function.update l.tasks task.id
            (some { task with revision := current.revision + 1 }) } := by
  cases c with
  | get taskId => exact .inl rfl
  | createOnce key task =>
    cases hb : (l.bound key).bind l.tasks with
    | none => exact .inr (.inl ⟨key, task, rfl, hb, by rw [TaskLedger.step_free hb]⟩)
    | some existing =>
      obtain ⟨id, hid, ht⟩ := Option.bind_eq_some_iff.mp hb
      exact .inl (by rw [TaskLedger.step_used hid ht])
  | save task expected =>
    by_cases hcur : ∃ current, l.tasks task.id = some current ∧ current.revision = expected
    · obtain ⟨current, ht, rfl⟩ := hcur
      exact .inr (.inr ⟨task, current, rfl, ht, by rw [TaskLedger.step_current ht]⟩)
    · exact .inl (by rw [TaskLedger.step_stale fun current ht he => hcur ⟨current, ht, he⟩])

lemma isSome_update {f : String → Option TaskRecord} {id' : String} {task : TaskRecord}
    (h : (f id).isSome) : (Function.update f id' (some task) id).isSome := by
  by_cases hid : id = id'
  · simp [hid]
  · rwa [Function.update_of_ne hid]

/-- A key that is bound stays bound, and its task stays there. -/
lemma TaskLedger.bound_step (c : TaskCall) (h : l.bound key = some id ∧ (l.tasks id).isSome) :
    (l.step pkgs c).2.bound key = some id ∧ ((l.step pkgs c).2.tasks id).isSome := by
  obtain ⟨hb, ht⟩ := h
  rcases TaskLedger.step_cases pkgs l c with he | ⟨key', task, -, hnone, he⟩ | ⟨task, cur, -, -, he⟩
  · rw [he]
    exact ⟨hb, ht⟩
  · have hne : key ≠ key' := by
      rintro rfl
      rw [hb, Option.bind_some] at hnone
      simp [hnone] at ht
    rw [he]
    exact ⟨(Function.update_of_ne hne _ _).trans hb, isSome_update ht⟩
  · rw [he]
    exact ⟨hb, isSome_update ht⟩

/-- What a key is bound to is there, and a task is kept under its id. -/
structure TaskLedger.Sound (l : TaskLedger) : Prop where
  bound : ∀ key id, l.bound key = some id → (l.tasks id).isSome
  named : ∀ id task, l.tasks id = some task → task.id = id

lemma named_update {f : String → Option TaskRecord} (task : TaskRecord)
    (h : ∀ id t, f id = some t → t.id = id) {id : String} {t : TaskRecord}
    (ht : Function.update f task.id (some task) id = some t) : t.id = id := by
  by_cases hid : id = task.id
  · subst hid
    rw [Function.update_self] at ht
    rw [← Option.some.inj ht]
  · exact h id t ((Function.update_of_ne hid _ _).symm.trans ht)

variable (pkgs) in
lemma TaskLedger.Sound.step (h : l.Sound) (c : TaskCall) : (l.step pkgs c).2.Sound := by
  rcases TaskLedger.step_cases pkgs l c with he | ⟨key', task, -, -, he⟩ | ⟨task, cur, -, -, he⟩
  · rwa [he]
  · rw [he]
    refine ⟨fun key id hk => ?_, fun id t ht => named_update { task with revision := 1 }
      h.named ht⟩
    by_cases hkk : key = key'
    · subst hkk
      simp only [Function.update_self, Option.some.injEq] at hk
      simp [hk]
    · exact isSome_update (h.bound key id ((Function.update_of_ne hkk _ _).symm.trans hk))
  · rw [he]
    exact ⟨fun key id hk => isSome_update (h.bound key id hk), fun id t ht =>
      named_update { task with revision := cur.revision + 1 } h.named ht⟩

lemma TaskLedger.bound_after (h : l.bound key = some id ∧ (l.tasks id).isSome) :
    ∀ calls, (after (TaskLedger.step pkgs) l calls).bound key = some id ∧
      ((after (TaskLedger.step pkgs) l calls).tasks id).isSome := by
  intro calls
  induction calls generalizing l with
  | nil => exact h
  | cons c cs ih => exact ih (TaskLedger.bound_step c h)

/-- A key that is not used stays free. -/
lemma TaskLedger.free_after (h : l.bound key = none) :
    ∀ calls, (∀ t, .createOnce key t ∉ calls) →
      (after (TaskLedger.step pkgs) l calls).bound key = none := by
  intro calls
  induction calls generalizing l with
  | nil => exact fun _ => h
  | cons c cs ih =>
    intro hfree
    refine ih ?_ fun t ht => hfree t (List.mem_cons_of_mem c ht)
    show (l.step pkgs c).2.bound key = none
    rcases TaskLedger.step_cases pkgs l c with he | ⟨key', task, rfl, -, he⟩ | ⟨task, cur, -, -, he⟩
    · rwa [he]
    · have hne : key ≠ key' := by
        rintro rfl
        exact hfree task List.mem_cons_self
      rw [he]
      exact (Function.update_of_ne hne _ _).trans h
    · rwa [he]

variable (pkgs) in
/-- The first task created under a key is the one that the key stays bound to. -/
lemma TaskLedger.first_bound (first : TaskRecord) {b : List TaskCall} (b' : List TaskCall)
    (hfree : ∀ t, .createOnce key t ∉ b) :
    (after (TaskLedger.step pkgs) {} (b ++ .createOnce key first :: b')).bound key
        = some first.id ∧
      ((after (TaskLedger.step pkgs) {} (b ++ .createOnce key first :: b')).tasks
        first.id).isSome := by
  rw [after_append]
  refine TaskLedger.bound_after (l := (TaskLedger.step pkgs _ (.createOnce key first)).2) ?_ b'
  have hnone : (after (TaskLedger.step pkgs) {} b).bound key = none :=
    TaskLedger.free_after rfl b hfree
  simp [TaskLedger.step, hnone]

variable (pkgs l key) in
/-- After it was used, a key is bound to a task that is there. -/
lemma TaskLedger.bound_create (task : TaskRecord) :
    ∃ id, (l.step pkgs (.createOnce key task)).2.bound key = some id ∧
      ((l.step pkgs (.createOnce key task)).2.tasks id).isSome := by
  cases hb : (l.bound key).bind l.tasks with
  | none =>
    rw [TaskLedger.step_free hb]
    exact ⟨task.id, by simp, by simp⟩
  | some existing =>
    obtain ⟨id, hid, htask⟩ := Option.bind_eq_some_iff.mp hb
    rw [TaskLedger.step_used hid htask]
    exact ⟨id, hid, by rw [htask]; rfl⟩

/-- A key that is free was not used. -/
lemma TaskLedger.unused {b : List TaskCall}
    (h : (after (TaskLedger.step pkgs) l b).bound key = none) : ∀ t, .createOnce key t ∉ b := by
  intro t ht
  obtain ⟨b₁, b₂, rfl⟩ := List.append_of_mem ht
  obtain ⟨id, hid⟩ := TaskLedger.bound_create pkgs (after (TaskLedger.step pkgs) l b₁) key t
  have hbound : (after (TaskLedger.step pkgs) _ b₂).bound key = some id :=
    (TaskLedger.bound_after hid b₂).1
  rw [after_append] at h
  exact absurd (hbound.symm.trans h) (by simp)

/-- Ids that are given once only are new when they are given. -/
lemma along_newId : ∀ {calls : List TaskCall} {l : TaskLedger}, FreshIds calls →
    (∀ id ∈ calls.filterMap TaskCall.createdId, l.tasks id = none) →
    Along (TaskLedger.step pkgs) NewId l calls
  | [], _, _, _ => trivial
  | c :: cs, l, hfresh, hnew => by
    have htail : FreshIds cs := by
      refine List.Nodup.sublist ?_ hfresh
      exact (List.sublist_cons_self c cs).filterMap _
    refine ⟨?_, along_newId htail fun id hid => ?_⟩
    · cases c with
      | createOnce key task => exact fun _ => hnew task.id List.mem_cons_self
      | get taskId => trivial
      | save task expected => trivial
    · have hold : l.tasks id = none := hnew id
        (((List.sublist_cons_self c cs).filterMap _).subset hid)
      rcases TaskLedger.step_cases pkgs l c with he | ⟨key, task, rfl, -, he⟩ |
        ⟨task, cur, -, ht, he⟩
      · rwa [he]
      · have hne : id ≠ task.id := by
          rintro rfl
          exact (List.nodup_cons.mp hfresh).1 hid
        rw [he]
        exact (Function.update_of_ne hne _ _).trans hold
      · have hne : id ≠ task.id := by
          rintro rfl
          rw [hold] at ht
          cases ht
        rw [he]
        exact (Function.update_of_ne hne _ _).trans hold

end

/-! ## Following the ledger -/

/-- A call that a store can follow. -/
def Proper (l : TaskLedger) (c : TaskCall) : Prop := NewId l c ∧ Fits l c

lemma encodable_of_varchar {n : ℕ} {s : String} (h : (varchar n s).isSome) : encodable s = true := by
  unfold varchar at h
  split_ifs at h with hs
  · exact (Bool.and_eq_true_iff.mp hs).1
  · cases h

lemma proper_get {l : TaskLedger} {taskId : String} (h : encodable taskId = true) :
    Proper l (.get taskId) :=
  ⟨trivial, h, fun _ _ he => by cases he⟩

lemma proper_save {l : TaskLedger} {task : TaskRecord} {expected : ℕ}
    (h : (TaskCall.save task expected).Sendable) : Proper l (.save task expected) :=
  ⟨trivial, h, fun _ _ he => by cases he⟩

/-- A key that is bound asks nothing of the id that comes with it. -/
lemma proper_used {l : TaskLedger} {key id : String} {task : TaskRecord} (hb : l.bound key = some id)
    (h : (TaskCall.createOnce key task).Sendable) : Proper l (.createOnce key task) := by
  refine ⟨fun hnone => ?_, h, fun key' task' he hnone => ?_⟩
  · rw [hb] at hnone
    cases hnone
  · cases he
    rw [hb] at hnone
    cases hnone

section
variable {pkgs} {σ : Type} {step : σ → TaskCall → TaskAnswer × σ} {R : TaskLedger → σ → Prop}

variable (pkgs) in
/-- A store answers as the ledger does, and changes only if the ledger does. -/
def Follows (step : σ → TaskCall → TaskAnswer × σ) (R : TaskLedger → σ → Prop) : Prop :=
  ∀ l s c, Proper l c → R l s → (l.step pkgs c).1 = (step s c).1 ∧
    R (l.step pkgs c).2 (step s c).2 ∧ ((l.step pkgs c).2 = l → (step s c).2 = s)

lemma Follows.after (h : Follows pkgs step R) {s : σ} {calls : List TaskCall}
    (hP : Along (TaskLedger.step pkgs) Proper {} calls) (hs : R {} s) :
    R (after (TaskLedger.step pkgs) {} calls) (after step s calls) :=
  related_after (fun l s c hc hR => (h l s c hc hR).2.1) hP hs

/-- A store that follows the ledger keeps its promises. -/
theorem Follows.laws (h : Follows pkgs step R) {s : σ} {calls : List TaskCall}
    (hP : Along (TaskLedger.step pkgs) Proper {} calls) (hs : R {} s) :
    StoreLaws pkgs step s calls := by
  -- the states that the calls lead to are related
  have hat : ∀ b, b <+: calls → R (Machines.after (TaskLedger.step pkgs) {} b)
      (Machines.after step s b) := by
    rintro b ⟨rest, rfl⟩
    exact h.after hP.left hs
  have hread : ∀ {l : TaskLedger} {t : σ}, R l t → ∀ id, encodable id = true →
      (step t (.get id)).1 = .found (l.tasks id) :=
    fun {l t} hR id hid => (h l t (.get id) (proper_get hid) hR).1.symm
  refine ⟨?_, ?_, ?_⟩
  · intro b key first b' task hpre hfree hsend
    have hR := hat _ hpre
    obtain ⟨hbound, hsome⟩ := TaskLedger.first_bound pkgs first b' hfree
    obtain ⟨current, hcur⟩ := Option.isSome_iff_exists.mp hsome
    have hid : encodable first.id = true := by
      obtain ⟨rest, rfl⟩ := hpre
      rw [List.append_assoc, List.cons_append] at hP
      exact encodable_of_varchar hP.split.2.2.1.1
    obtain ⟨hanswer, -, hsame⟩ := h _ _ _ (proper_used hbound hsend) hR
    rw [TaskLedger.step_used hbound hcur] at hanswer hsame
    exact ⟨current, by rw [hread hR _ hid, hcur], Prod.ext hanswer.symm (hsame rfl)⟩
  · intro b task expected current hpre hsend hfound hrev
    have hR := hat _ hpre
    rw [hread hR _ hsend.1, TaskAnswer.found.injEq] at hfound
    obtain ⟨hanswer, hnext, -⟩ := h _ _ _ (proper_save hsend) hR
    rw [← hrev, TaskLedger.step_current hfound] at hanswer hnext
    rw [← hrev]
    refine ⟨hanswer.symm, ?_⟩
    rw [hread hnext _ hsend.1]
    exact congrArg TaskAnswer.found (Function.update_self _ _ _)
  · intro b task expected hpre hsend hother
    have hR := hat _ hpre
    obtain ⟨hanswer, -, hsame⟩ := h _ _ _ (proper_save hsend) hR
    rw [TaskLedger.step_stale fun current hcur =>
      hother current (by rw [hread hR _ hsend.1, hcur])] at hanswer hsame
    exact Prod.ext hanswer.symm (hsame rfl)

/-! ## The memory -/

/-- What the memory holds is the ledger. -/
structure InMemory (l : TaskLedger) (w : Store) : Prop where
  tasks : l.tasks = w.tasks
  bound : l.bound = w.idempotency
  sound : l.Sound
  ids : ∀ key id, l.bound key = some id → id ≠ ""

/-- A save that goes through changes the ledger. -/
lemma TaskLedger.save_ne {l : TaskLedger} {task current : TaskRecord}
    {bound : String → Option String} (h : l.tasks task.id = some current) :
    TaskLedger.mk (Function.update l.tasks task.id
      (some { task with revision := current.revision + 1 })) bound ≠ l := by
  intro he
  have htask : Function.update l.tasks task.id
      (some { task with revision := current.revision + 1 }) task.id = l.tasks task.id :=
    congrFun (congrArg TaskLedger.tasks he) task.id
  rw [h, Function.update_self] at htask
  have hrev := congrArg TaskRecord.revision (Option.some.inj htask)
  dsimp only at hrev
  omega

lemma memoryStep_used {w : Store} {key id : String} {task existing : TaskRecord}
    (hb : w.idempotency key = some id) (hid : id ≠ "") (ht : w.tasks id = some existing) :
    memoryStep pkgs w (.createOnce key task) =
      (if existing.request.canonical pkgs = task.request.canonical pkgs then .task existing
        else .error (.raised .idempotencyConflict), w) := by
  have hfilter : (some id).filter (· ≠ "") = some id := by simp [hid]
  simp only [memoryStep, Store.createOnce, hb, hfilter, ht]
  by_cases hreq : existing.request.canonical pkgs = task.request.canonical pkgs
  · simp [hreq]
  · simp [hreq]

lemma memoryStep_free {w : Store} {key : String} {task : TaskRecord}
    (hb : (w.idempotency key).filter (· ≠ "") = none) :
    memoryStep pkgs w (.createOnce key task) =
      (.task { task with revision := 1 },
        { tasks := Function.update w.tasks task.id (some { task with revision := 1 })
          idempotency := Function.update w.idempotency key (some task.id) }) := by
  simp only [memoryStep, Store.createOnce, hb, Store.put]

lemma memoryStep_current {w : Store} {task current : TaskRecord}
    (ht : w.tasks task.id = some current) :
    memoryStep pkgs w (.save task current.revision) =
      (.saved { task with revision := current.revision + 1 },
        { w with
          tasks := Function.update w.tasks task.id
            (some { task with revision := current.revision + 1 }) }) := by
  simp [memoryStep, Store.save, ht, Store.put]

lemma memoryStep_stale {w : Store} {task : TaskRecord} {expected : ℕ}
    (ht : ∀ current, w.tasks task.id = some current → current.revision ≠ expected) :
    memoryStep pkgs w (.save task expected) = (.error .versionConflict, w) := by
  cases hw : w.tasks task.id with
  | none => simp [memoryStep, Store.save, hw]
  | some current => simp [memoryStep, Store.save, hw, ht current hw]

/-- The memory follows the ledger. -/
lemma memory_follows : Follows pkgs (memoryStep pkgs) InMemory := by
  intro l w c hc hR
  have hsound := hR.sound.step pkgs c
  obtain ⟨tasks, bound⟩ := l
  obtain ⟨rfl, rfl, hs, hids⟩ := id hR
  cases c with
  | get taskId => exact ⟨rfl, hR, fun _ => rfl⟩
  | createOnce key task =>
    cases hkey : w.idempotency key with
    | none =>
      rw [TaskLedger.step_free (by simp [hkey])] at hsound ⊢
      rw [memoryStep_free (by simp [hkey])]
      refine ⟨rfl, ⟨rfl, rfl, hsound, fun key' id hb => ?_⟩, fun he => ?_⟩
      · by_cases hne : key' = key
        · subst hne
          simp only [Function.update_self, Option.some.injEq] at hb
          rw [← hb]
          exact (hc.2.2 key' task rfl hkey).2.2
        · exact hids key' id ((Function.update_of_ne hne _ _).symm.trans hb)
      · have hb := congrFun (congrArg TaskLedger.bound he) key
        simp [hkey] at hb
    | some id =>
      obtain ⟨existing, hex⟩ := Option.isSome_iff_exists.mp (hs.bound key id hkey)
      rw [TaskLedger.step_used hkey hex, memoryStep_used hkey (hids key id hkey) hex]
      exact ⟨rfl, hR, fun _ => rfl⟩
  | save task expected =>
    by_cases hcur : ∃ current, w.tasks task.id = some current ∧ current.revision = expected
    · obtain ⟨current, ht, rfl⟩ := hcur
      rw [TaskLedger.step_current ht] at hsound ⊢
      rw [memoryStep_current ht]
      exact ⟨rfl, ⟨rfl, rfl, hsound, hids⟩, fun he => absurd he (TaskLedger.save_ne ht)⟩
    · have hstale : ∀ current, w.tasks task.id = some current → current.revision ≠ expected :=
        fun current ht he => hcur ⟨current, ht, he⟩
      rw [TaskLedger.step_stale hstale, memoryStep_stale hstale]
      exact ⟨rfl, hR, fun _ => rfl⟩

/-! ## The table -/

variable {j : TaskJson} {rows : List (CustomerAgentTaskRow j)}

/-- What the table holds is the ledger: a row for each task, at its revision and under the key that
is bound to it. -/
structure Tabled (l : TaskLedger) (rows : List (CustomerAgentTaskRow j)) : Prop where
  ids : Table.Keyed (·.taskId) rows
  keys : Table.Keyed (·.idempotencyKey) rows
  row : ∀ r ∈ rows, l.bound r.idempotencyKey = some r.taskId ∧
    ∃ task, taskFromRow r = some task ∧ task.revision = r.version ∧ l.tasks r.taskId = some task
  task : ∀ id task, l.tasks id = some task → ∃ r ∈ rows, r.taskId = id
  bound : ∀ key id, l.bound key = some id → ∃ r ∈ rows, r.idempotencyKey = key ∧ r.taskId = id
  width : ∀ r ∈ rows, varchar 255 r.idempotencyKey = some r.idempotencyKey

lemma taskRow_spec {key : String} {task : TaskRecord} {row : CustomerAgentTaskRow j}
    (h : taskRow key task = some row) :
    varchar 96 task.id = some row.taskId ∧ varchar 255 key = some row.idempotencyKey ∧
      row.payload = j.taskPayload task ∧ row.version = 1 := by
  unfold taskRow at h
  split at h
  · next taskId idempotencyKey hid hkey =>
    split_ifs at h
    cases h
    exact ⟨hid, hkey, rfl, rfl⟩
  · cases h

lemma taskRow_isSome_iff {key : String} {task : TaskRecord} :
    (taskRow (j := j) key task).isSome ↔ (TaskCall.createOnce key task).Sendable := by
  simp only [taskRow, TaskCall.Sendable]
  cases varchar 96 task.id with
  | none => simp
  | some taskId =>
    cases varchar 255 key with
    | none => simp
    | some idempotencyKey => simp

lemma taskFromRow_taskRow (hj : j.RoundTrips) {key : String} {task : TaskRecord}
    {row : CustomerAgentTaskRow j} (h : taskRow key task = some row) :
    taskFromRow row = some { task with revision := 1 } := by
  obtain ⟨-, -, hpayload, hversion⟩ := taskRow_spec h
  rw [taskFromRow, hpayload, hversion, hj task 1 le_rfl]

variable (pkgs rows) in
/-- What the columns do not take is refused. -/
lemma sqlStep_of_not_sendable {c : TaskCall} (h : ¬ c.Sendable) :
    sqlStep pkgs rows c = (.error .dataError, rows) := by
  cases c with
  | createOnce key task =>
    have hnone : taskRow (j := j) key task = none := by
      rwa [← taskRow_isSome_iff (j := j), Bool.not_eq_true, Option.isSome_eq_false_iff,
        Option.isNone_iff_eq_none] at h
    simp only [sqlStep, sqlCreateOnce, hnone]
  | get taskId =>
    simp only [TaskCall.Sendable] at h
    simp only [sqlStep, sqlGet, if_neg h]
  | save task expected =>
    simp only [TaskCall.Sendable] at h
    simp only [sqlStep, sqlSave, if_pos h]

lemma sqlGet_of_mem (h : Table.Keyed (·.taskId) rows) {r : CustomerAgentTaskRow j}
    {task : TaskRecord} (he : encodable r.taskId = true) (hr : r ∈ rows)
    (ht : taskFromRow r = some task) : sqlGet rows r.taskId = .found (some task) := by
  simp only [sqlGet, if_pos he, h.find?_eq hr, ht]

lemma sqlGet_of_forall {taskId : String} (he : encodable taskId = true)
    (h : ∀ r ∈ rows, r.taskId ≠ taskId) : sqlGet rows taskId = .found none := by
  have hnone : rows.find? (fun row => row.taskId = taskId) = none := by
    simpa using h
  simp only [sqlGet, if_pos he, hnone]

lemma insert_eq_none {r row : CustomerAgentTaskRow j} (hr : r ∈ rows)
    (hclash : r.clashes row = true) :
    Table.insert (fun _ => true) CustomerAgentTaskRow.clashes rows row = none := by
  cases hins : Table.insert (fun _ => true) CustomerAgentTaskRow.clashes rows row with
  | none => rfl
  | some rows' =>
    have hfree := (Table.insert_eq_some hins).2.1 r hr
    rw [hclash] at hfree
    cases hfree

variable (pkgs) in
/-- A row that is refused for its keys, where no row has the key of the call. -/
lemma sqlCreateOnce_of_clash {key : String} {task : TaskRecord} {r row : CustomerAgentTaskRow j}
    (hrow : taskRow key task = some row) (hr : r ∈ rows) (hclash : r.clashes row = true)
    (hfree : ∀ r ∈ rows, r.idempotencyKey ≠ key) :
    sqlCreateOnce pkgs rows key task = (.error .integrityError, rows) := by
  have hnone : rows.find? (fun row => row.idempotencyKey = key) = none := by
    simpa using hfree
  simp only [sqlCreateOnce, hrow, insert_eq_none hr hclash, hnone]

lemma sqlCreateOnce_used (h : Table.Keyed (·.idempotencyKey) rows) {r : CustomerAgentTaskRow j}
    {task existing : TaskRecord} (hr : r ∈ rows) (ht : taskFromRow r = some existing)
    (hwidth : varchar 255 r.idempotencyKey = some r.idempotencyKey)
    (hs : (TaskCall.createOnce r.idempotencyKey task).Sendable) :
    sqlCreateOnce pkgs rows r.idempotencyKey task =
      (if existing.request.canonical pkgs = task.request.canonical pkgs then .task existing
        else .error (.raised .idempotencyConflict), rows) := by
  obtain ⟨row, hrow⟩ := Option.isSome_iff_exists.mp ((taskRow_isSome_iff (j := j)).mpr hs)
  have hclash : r.clashes row = true := by
    obtain ⟨-, hkey, -, -⟩ := taskRow_spec hrow
    rw [hwidth, Option.some.injEq] at hkey
    simp [CustomerAgentTaskRow.clashes, hkey]
  simp only [sqlCreateOnce, hrow, insert_eq_none hr hclash, h.find?_eq hr, ht]
  by_cases hreq : existing.request.canonical pkgs = task.request.canonical pkgs
  · simp [hreq]
  · simp [hreq]

lemma sqlCreateOnce_free (hj : j.RoundTrips) {key : String} {task : TaskRecord}
    {row : CustomerAgentTaskRow j} (hrow : taskRow key task = some row)
    (hfree : ∀ r ∈ rows, r.clashes row = false) :
    sqlCreateOnce pkgs rows key task = (.task { task with revision := 1 }, rows ++ [row]) := by
  have hins : Table.insert (fun _ => true) CustomerAgentTaskRow.clashes rows row =
      some (rows ++ [row]) := Table.insert_of_forall rfl hfree
  simp only [sqlCreateOnce, hrow, hins, taskFromRow_taskRow hj hrow]

/-- The row that a save of a task writes over another. -/
def savedRow (row : CustomerAgentTaskRow j) (task : TaskRecord) (expected : ℕ) :
    CustomerAgentTaskRow j :=
  { row with state := task.state, payload := j.taskPayload task, version := expected + 1,
             updatedAt := task.updatedAt, version_positive := Nat.le_add_left 1 expected }

lemma sqlSave_current (h : Table.Keyed (·.taskId) rows) {r : CustomerAgentTaskRow j}
    {task : TaskRecord} (hs : (TaskCall.save task r.version).Sendable) (hr : r ∈ rows)
    (hid : r.taskId = task.id) : sqlSave rows task r.version = 
      (.saved { task with revision := r.version + 1 },
        Table.put (·.taskId) rows (savedRow r task r.version)) := by
  have hle : rows.countP (fun row => row.taskId == task.id && row.version == r.version) ≤ 1 :=
    h.countP_le_one (k := task.id) fun x _ hx => by simp at hx; exact hx.1
  have hpos : 0 < rows.countP (fun row => row.taskId == task.id && row.version == r.version) :=
    List.countP_pos_iff.mpr ⟨r, hr, by simp [hid]⟩
  have hone : rows.countP (fun row => row.taskId == task.id && row.version == r.version) = 1 := by
    omega
  simp only [TaskCall.Sendable] at hs
  simp only [sqlSave, if_neg (not_not.mpr hs), hone, ne_eq, not_true_eq_false, if_false,
    Prod.mk.injEq, true_and]
  refine List.map_congr_left fun x hx => ?_
  by_cases hxid : x.taskId = r.taskId
  · obtain rfl := h.eq hx hr hxid
    simp [hid, savedRow]
  · have hne : x.taskId ≠ task.id := fun he => hxid (he.trans hid.symm)
    simp [hne, savedRow, hid]

lemma sqlSave_stale {task : TaskRecord} {expected : ℕ} (hs : (TaskCall.save task expected).Sendable)
    (h : ∀ r ∈ rows, r.taskId = task.id → r.version ≠ expected) :
    sqlSave rows task expected = (.error .versionConflict, rows) := by
  have hzero : rows.countP (fun row => row.taskId == task.id && row.version == expected) = 0 := by
    rw [List.countP_eq_zero]
    intro r hr
    have hne := h r hr
    simp only [Bool.and_eq_true, beq_iff_eq, not_and]
    exact hne
  simp only [TaskCall.Sendable] at hs
  simp only [sqlSave, if_neg (not_not.mpr hs), hzero]
  rfl

/-- A task that is created is put into a row of its own. -/
lemma Tabled.create (hj : j.RoundTrips) {l : TaskLedger} (h : Tabled l rows)
    {row : CustomerAgentTaskRow j} {task : TaskRecord}
    (hrow : taskRow row.idempotencyKey task = some row) (hrowId : row.taskId = task.id)
    (hid : ∀ r ∈ rows, r.taskId ≠ task.id)
    (hkey : ∀ r ∈ rows, r.idempotencyKey ≠ row.idempotencyKey) :
    Tabled
      { tasks := Function.update l.tasks task.id (some { task with revision := 1 })
        bound := Function.update l.bound row.idempotencyKey (some task.id) }
      (rows ++ [row]) := by
  obtain ⟨-, hwidth, -, hversion⟩ := taskRow_spec hrow
  have hrows : ∀ r ∈ rows, r.taskId ≠ row.taskId := fun r hr => hrowId ▸ hid r hr
  refine ⟨h.ids.append hrows, h.keys.append hkey, fun r hr => ?_, fun id t ht => ?_,
    fun key' id hb => ?_, fun r hr => ?_⟩
  · rcases List.mem_append.mp hr with hr | hr
    · obtain ⟨hb, t, hread, hrev, ht⟩ := h.row r hr
      refine ⟨?_, t, hread, hrev, ?_⟩
      · exact (Function.update_of_ne (hkey r hr) _ _).trans hb
      · exact (Function.update_of_ne (hid r hr) _ _).trans ht
    · rw [List.mem_singleton.mp hr]
      refine ⟨?_, { task with revision := 1 }, taskFromRow_taskRow hj hrow, hversion.symm, ?_⟩
      · rw [hrowId]
        exact Function.update_self _ _ _
      · rw [hrowId]
        exact Function.update_self _ _ _
  · by_cases hne : id = task.id
    · exact ⟨row, by simp, hrowId.trans hne.symm⟩
    · obtain ⟨r, hr, he⟩ := h.task id t ((Function.update_of_ne hne _ _).symm.trans ht)
      exact ⟨r, List.mem_append_left _ hr, he⟩
  · by_cases hne : key' = row.idempotencyKey
    · subst hne
      simp only [Function.update_self, Option.some.injEq] at hb
      exact ⟨row, by simp, rfl, hrowId.trans hb⟩
    · obtain ⟨r, hr, he⟩ := h.bound key' id ((Function.update_of_ne hne _ _).symm.trans hb)
      exact ⟨r, List.mem_append_left _ hr, he⟩
  · rcases List.mem_append.mp hr with hr | hr
    · exact h.width r hr
    · rw [List.mem_singleton.mp hr]
      exact hwidth

/-- A task that is saved is put into the row that it has. -/
lemma Tabled.save (hj : j.RoundTrips) {l : TaskLedger} (h : Tabled l rows)
    {r : CustomerAgentTaskRow j} {task : TaskRecord} (hr : r ∈ rows) (hid : r.taskId = task.id) :
    Tabled
      { l with
        tasks := Function.update l.tasks task.id (some { task with revision := r.version + 1 }) }
      (Table.put (·.taskId) rows (savedRow r task r.version)) := by
  have hold : r.taskId = (savedRow r task r.version).taskId := rfl
  refine ⟨h.ids.put _, ?_, fun x hx => ?_, fun id t ht => ?_, fun key id hb => ?_, fun x hx => ?_⟩
  · unfold Table.Keyed
    rw [Table.map_put (r := savedRow r task r.version) h.ids hr rfl rfl]
    exact h.keys
  · rcases Table.mem_put hx with rfl | ⟨hx, hne⟩
    · refine ⟨(h.row r hr).1, { task with revision := r.version + 1 },
        hj task (r.version + 1) (by omega), rfl, ?_⟩
      show Function.update _ _ _ r.taskId = _
      rw [hid, Function.update_self]
    · obtain ⟨hb, t, hrow, hrev, ht⟩ := h.row x hx
      have hxid : x.taskId ≠ task.id := fun he => hne (he.trans hid.symm)
      exact ⟨hb, t, hrow, hrev, (Function.update_of_ne hxid _ _).trans ht⟩
  · by_cases hne : id = task.id
    · exact ⟨savedRow r task r.version, Table.mem_put_self hr hold, hid.trans hne.symm⟩
    · obtain ⟨x, hx, rfl⟩ := h.task id t ((Function.update_of_ne hne _ _).symm.trans ht)
      have hxr : x.taskId ≠ r.taskId := fun he => hne (he.trans hid)
      exact ⟨x, Table.mem_put_of_ne hx hxr, rfl⟩
  · obtain ⟨x, hx, hxk, hxid⟩ := h.bound key id hb
    by_cases hxr : x.taskId = r.taskId
    · obtain rfl := h.ids.eq hx hr hxr
      exact ⟨savedRow x task x.version, Table.mem_put_self hr rfl, hxk, hxid⟩
    · exact ⟨x, Table.mem_put_of_ne hx hxr, hxk, hxid⟩
  · rcases Table.mem_put hx with rfl | ⟨hx, -⟩
    · exact h.width r hr
    · exact h.width x hx

/-- A row of a key that is free, and of an id that is new, is not there. -/
lemma Tabled.free {l : TaskLedger} (h : Tabled l rows) {key id : String} (hkey : l.bound key = none)
    (hid : l.tasks id = none) :
    (∀ r ∈ rows, r.taskId ≠ id) ∧ ∀ r ∈ rows, r.idempotencyKey ≠ key := by
  refine ⟨fun r hr he => ?_, fun r hr he => ?_⟩
  · obtain ⟨-, t, -, -, hrt⟩ := h.row r hr
    rw [he, hid] at hrt
    cases hrt
  · have hb := (h.row r hr).1
    rw [he, hkey] at hb
    cases hb

variable (pkgs) in
/-- The table follows the ledger. -/
lemma sql_follows (hj : j.RoundTrips) : Follows pkgs (sqlStep pkgs (j := j)) Tabled := by
  rintro l rows c ⟨hnew, hsend, hkept⟩ hR
  cases c with
  | get taskId =>
    refine ⟨?_, hR, fun _ => rfl⟩
    simp only [TaskLedger.step, sqlStep]
    cases ht : l.tasks taskId with
    | none =>
      refine (sqlGet_of_forall hsend fun r hr he => ?_).symm
      obtain ⟨-, task, -, -, hrt⟩ := hR.row r hr
      rw [he, ht] at hrt
      cases hrt
    | some task =>
      obtain ⟨r, hr, rfl⟩ := hR.task taskId task ht
      obtain ⟨-, task', hrow, -, hrt⟩ := hR.row r hr
      rw [ht] at hrt
      rw [sqlGet_of_mem hR.ids hsend hr (hrow.trans hrt.symm)]
  | createOnce key task =>
    simp only [sqlStep]
    cases hkey : l.bound key with
    | none =>
      obtain ⟨row, hrow⟩ := Option.isSome_iff_exists.mp ((taskRow_isSome_iff (j := j)).mpr hsend)
      obtain ⟨hrowId, hrowKey, -, -⟩ := taskRow_spec hrow
      obtain ⟨hwidth, hid, -⟩ := hkept key task rfl hkey
      rw [hid, Option.some.injEq] at hrowId
      rw [hwidth, Option.some.injEq] at hrowKey
      subst hrowKey
      obtain ⟨hids, hkeys⟩ := hR.free hkey (hnew hkey)
      have hfree : ∀ r ∈ rows, r.clashes row = false := fun r hr => by
        simp [CustomerAgentTaskRow.clashes, hkeys r hr, ← hrowId, hids r hr]
      rw [TaskLedger.step_free (by simp [hkey]), sqlCreateOnce_free hj hrow hfree]
      refine ⟨rfl, hR.create hj hrow hrowId.symm hids hkeys, fun he => ?_⟩
      have hb := congrFun (congrArg TaskLedger.bound he) row.idempotencyKey
      simp [hkey] at hb
    | some id =>
      obtain ⟨r, hr, rfl, rfl⟩ := hR.bound key id hkey
      obtain ⟨-, existing, hrow, -, hrt⟩ := hR.row r hr
      rw [TaskLedger.step_used hkey hrt,
        sqlCreateOnce_used hR.keys hr hrow (hR.width r hr) hsend]
      exact ⟨rfl, hR, fun _ => rfl⟩
  | save task expected =>
    simp only [sqlStep]
    by_cases hcur : ∃ current, l.tasks task.id = some current ∧ current.revision = expected
    · obtain ⟨current, ht, rfl⟩ := hcur
      obtain ⟨r, hr, hid⟩ := hR.task task.id current ht
      obtain ⟨-, t, -, hrev, hrt⟩ := hR.row r hr
      rw [hid, ht] at hrt
      obtain rfl := Option.some.inj hrt
      rw [hrev] at hsend
      rw [TaskLedger.step_current ht, hrev, sqlSave_current hR.ids hsend hr hid]
      refine ⟨rfl, hR.save hj hr hid, fun he => ?_⟩
      rw [← hrev] at he
      exact absurd he (TaskLedger.save_ne ht)
    · have hstale : ∀ r ∈ rows, r.taskId = task.id → r.version ≠ expected := fun r hr hid he => by
        obtain ⟨-, t, -, hrev, hrt⟩ := hR.row r hr
        exact hcur ⟨t, hid ▸ hrt, hrev.trans he⟩
      rw [TaskLedger.step_stale fun current ht he => hcur ⟨current, ht, he⟩,
        sqlSave_stale hsend hstale]
      exact ⟨rfl, hR, fun _ => rfl⟩

/-! ## Where the stores part -/

variable (pkgs) in
lemma memoryStep_ne_dataError (w : Store) (c : TaskCall) :
    (memoryStep pkgs w c).1 ≠ .error .dataError := by
  cases c with
  | createOnce key task =>
    simp only [memoryStep]
    split
    · simp
    · simp
  | get taskId => simp [memoryStep]
  | save task expected =>
    simp only [memoryStep]
    split
    · simp
    · simp

lemma sendable_of_agree {w : Store} {c : TaskCall}
    (h : (memoryStep pkgs w c).1 = (sqlStep pkgs rows c).1) : c.Sendable := by
  by_contra hc
  rw [sqlStep_of_not_sendable pkgs rows hc] at h
  exact memoryStep_ne_dataError pkgs w c h

/-- The promise of a key, when it has just been used for the first time. -/
lemma StoreLaws.again_last {σ : Type} {step : σ → TaskCall → TaskAnswer × σ} {s : σ}
    {b rest : List TaskCall} {key : String} {first : TaskRecord}
    (h : StoreLaws pkgs step s (b ++ .createOnce key first :: rest))
    (hfree : ∀ t, .createOnce key t ∉ b) {s' : σ}
    (hs' : (step (after step s b) (.createOnce key first)).2 = s') {task : TaskRecord}
    (hsend : (TaskCall.createOnce key task).Sendable) :
    ∃ current, (step s' (.get first.id)).1 = .found (some current) ∧
      (step s' (.createOnce key task)).1 =
        if current.request.canonical pkgs = task.request.canonical pkgs then .task current
        else .error (.raised .idempotencyConflict) := by
  have hpre : b ++ [.createOnce key first] <+: b ++ .createOnce key first :: rest :=
    ⟨rest, by rw [List.append_assoc, List.singleton_append]⟩
  have hagain := h.again b key first [] task hpre hfree hsend
  rw [after_concat, hs'] at hagain
  obtain ⟨current, hget, hcreate⟩ := hagain
  exact ⟨current, hget, congrArg Prod.fst hcreate⟩

/-- A row that does not have the key and the id of its task is not found again. -/
lemma kept_of_agree (hj : j.RoundTrips) {l : TaskLedger} {w : Store} {b rest : List TaskCall}
    {key : String} {task : TaskRecord} (hR : InMemory l w)
    (hT : Tabled l (after (sqlStep pkgs (j := j)) [] b))
    (hkey : l.bound key = none) (hid : l.tasks task.id = none)
    (hunused : ∀ t, .createOnce key t ∉ b)
    (hagree : (memoryStep pkgs w (.createOnce key task)).1 =
      (sqlStep pkgs (after (sqlStep pkgs (j := j)) [] b) (.createOnce key task)).1)
    (hlaws : StoreLaws pkgs (sqlStep pkgs (j := j)) [] (b ++ .createOnce key task :: rest)) :
    varchar 255 key = some key ∧ varchar 96 task.id = some task.id := by
  set rows := after (sqlStep pkgs (j := j)) [] b with hrows
  have hsend := sendable_of_agree hagree
  obtain ⟨row, hrow⟩ := Option.isSome_iff_exists.mp ((taskRow_isSome_iff (j := j)).mpr hsend)
  obtain ⟨hrowId, hrowKey, -, -⟩ := taskRow_spec hrow
  obtain ⟨hids, hkeys⟩ := hT.free hkey hid
  have hfree : ∀ r ∈ rows, r.clashes row = false := by
    intro r hr
    by_contra hclash
    rw [Bool.not_eq_false] at hclash
    have hw : w.idempotency key = none := hR.bound ▸ hkey
    rw [memoryStep_free (by simp [hw]), sqlStep,
      sqlCreateOnce_of_clash pkgs hrow hr hclash hkeys] at hagree
    cases hagree
  have hcreate : (sqlStep pkgs rows (.createOnce key task)).2 = rows ++ [row] := by
    rw [sqlStep, sqlCreateOnce_free hj hrow hfree]
  obtain ⟨current, hget, hagain⟩ := hlaws.again_last hunused hcreate hsend
  have hsame : row.idempotencyKey = key := by
    by_contra hne
    have hall : ∀ r ∈ rows ++ [row], r.idempotencyKey ≠ key :=
      List.forall_mem_append.mpr ⟨hkeys, List.forall_mem_singleton.mpr hne⟩
    have hself : row.clashes row = true := by simp [CustomerAgentTaskRow.clashes]
    rw [sqlStep, sqlCreateOnce_of_clash pkgs hrow (by simp) hself hall] at hagain
    split_ifs at hagain
    cases hagain
  have hname : row.taskId = task.id := by
    by_contra hne
    have hall : ∀ r ∈ rows ++ [row], r.taskId ≠ task.id :=
      List.forall_mem_append.mpr ⟨hids, List.forall_mem_singleton.mpr hne⟩
    rw [sqlStep, sqlGet_of_forall (encodable_of_varchar hsend.1) hall] at hget
    cases hget
  exact ⟨hsame ▸ hrowKey, hname ▸ hrowId⟩

/-- The memory takes a key that is bound to the empty id for a free one. -/
lemma named_of_agree {b rest : List TaskCall} {key : String} {task : TaskRecord}
    (hR : InMemory (after (TaskLedger.step pkgs) {} b) (after (memoryStep pkgs) {} b))
    (hkey : (after (TaskLedger.step pkgs) {} b).bound key = none)
    (hunused : ∀ t, .createOnce key t ∉ b) (hsend : (TaskCall.createOnce key task).Sendable)
    (hlaws : StoreLaws pkgs (memoryStep pkgs) {} (b ++ .createOnce key task :: rest)) :
    task.id ≠ "" := by
  intro hempty
  have hw : (after (memoryStep pkgs) {} b).idempotency key = none := hR.bound ▸ hkey
  have hcreate : memoryStep pkgs (after (memoryStep pkgs) {} b) (.createOnce key task) = _ :=
    memoryStep_free (by simp [hw])
  have hvarchar : (varchar 96 "task").isSome = true := by decide
  have hother : (TaskCall.createOnce key { task with id := "task" }).Sendable :=
    ⟨hvarchar, hsend.2⟩
  obtain ⟨current, hget, hagain⟩ := hlaws.again_last hunused (congrArg Prod.snd hcreate) hother
  rw [memoryStep_free (by simp [hempty])] at hagain
  simp only [memoryStep, Function.update_self, TaskAnswer.found.injEq, Option.some.injEq] at hget
  split_ifs at hagain
  · rw [TaskAnswer.task.injEq] at hagain
    have hids : "task" = current.id := congrArg TaskRecord.id hagain
    rw [← hget] at hids
    have hnot : "task" ≠ "" := by decide
    exact hnot (hids.trans hempty)

end

/-- The answers of an empty memory. -/
def memoryAnswers (calls : List TaskCall) : List TaskAnswer := answers (memoryStep pkgs) {} calls

/-- The answers of an empty table. -/
def sqlAnswers (j : TaskJson) (calls : List TaskCall) : List TaskAnswer :=
  answers (sqlStep pkgs (j := j)) [] calls

/-- The two stores answer alike and both keep their promises exactly if the calls fit the columns of
the table, which hold the key and the id of every new task unchanged, and no new task has the empty
id. -/
theorem task_stores_agree_iff (j : TaskJson) (hj : j.RoundTrips) (calls : List TaskCall)
    (hfresh : FreshIds calls) :
    (memoryAnswers pkgs calls = sqlAnswers pkgs j calls ∧
      StoreLaws pkgs (memoryStep pkgs) {} calls ∧
      StoreLaws pkgs (sqlStep pkgs (j := j)) [] calls) ↔
    Along (TaskLedger.step pkgs) Fits {} calls := by
  have hnew : Along (TaskLedger.step pkgs) NewId {} calls := along_newId hfresh fun _ _ => rfl
  have hsound : TaskLedger.Sound {} := ⟨fun _ _ h => (by cases h), fun _ _ h => (by cases h)⟩
  have hmemory : InMemory {} {} := ⟨rfl, rfl, hsound, fun _ _ h => (by cases h)⟩
  have htable : Tabled {} ([] : List (CustomerAgentTaskRow j)) :=
    ⟨List.nodup_nil, List.nodup_nil, by simp, fun _ _ h => (by cases h), fun _ _ h => (by cases h),
      by simp⟩
  constructor
  · rintro ⟨hagree, hmemlaws, hsqllaws⟩
    rcases along_or_split (TaskLedger.step pkgs) Fits calls {} with h | ⟨b, c, rest, rfl, hb, hc⟩
    · exact h
    · exfalso
      obtain ⟨hnewb, hnewc⟩ := hnew.split
      have hR := memory_follows.after (hnewb.and hb) hmemory
      have hT := (sql_follows pkgs hj).after (hnewb.and hb) htable
      have hanswer := answer_eq_of_answers_eq hagree
      have hsend := sendable_of_agree hanswer
      refine hc ⟨hsend, ?_⟩
      rintro key task rfl hkey
      have hunused := TaskLedger.unused hkey
      obtain ⟨hwidth, hid⟩ := kept_of_agree hj hR hT hkey (hnewc hkey) hunused hanswer hsqllaws
      exact ⟨hwidth, hid, named_of_agree hR hkey hunused hsend hmemlaws⟩
  · intro hfits
    have hP := hnew.and hfits
    have hmem : answers (TaskLedger.step pkgs) {} calls = memoryAnswers pkgs calls :=
      answers_eq (fun l w c hc hR => ⟨(memory_follows l w c hc hR).1,
        (memory_follows l w c hc hR).2.1⟩) hP hmemory
    have hsql : answers (TaskLedger.step pkgs) {} calls = sqlAnswers pkgs j calls :=
      answers_eq (fun l rows c hc hR => ⟨(sql_follows pkgs hj l rows c hc hR).1,
        (sql_follows pkgs hj l rows c hc hR).2.1⟩) hP htable
    exact ⟨hmem.symm.trans hsql, memory_follows.laws hP hmemory, (sql_follows pkgs hj).laws hP htable⟩

end

/-- A payload that is the task itself, without its revision. -/
def plainJson : TaskJson where
  Payload := TaskRecord
  taskPayload task := { task with revision := 1 }
  modelValidate task revision := some { task with revision }

/-- A task for one request, under different ids. -/
def storedTask (id : String) : TaskRecord where
  id := id
  contextId := "ctx"
  state := .authRequired
  status := .null
  request :=
    { idempotencyKey := "key", caseId := "case", merchantId := "merchant", customerId := "customer",
      recoveryActionId := "action", failedInvoiceId := "inv", exactAmountPaise := 49900,
      currency := "INR", paymentSurfaceType := "SUBSCRIPTION_CARD_UPDATE",
      paymentSurfaceReference := "sub", expiresAt := ⟨1000, 0⟩
      context :=
        { merchantDisplayName := "Shop", planName := "Plan", failureExplanation := "Declined",
          invoiceState := "OPEN", paymentState := "FAILED", subscriptionState := "PENDING",
          providerSubscriptionState := "pending", preferredLanguage := "en", invoiceDueAt := none,
          recoveryDeadline := ⟨1000, 0⟩ } }
  createdAt := ⟨0, 0⟩
  updatedAt := ⟨0, 0⟩

/-- A task is created, asked for again under its key, saved, and saved once more by one that has not
seen it. -/
def storeCalls : List TaskCall :=
  [.createOnce "key" (storedTask "task_1"), .createOnce "key" (storedTask "task_2"),
    .save (storedTask "task_1") 1, .save (storedTask "task_1") 1, .get "task_1"]

theorem storeCalls_agree :
    memoryAnswers samplePackages storeCalls = sqlAnswers samplePackages plainJson storeCalls ∧
      StoreLaws samplePackages (memoryStep samplePackages) {} storeCalls ∧
      StoreLaws samplePackages (sqlStep samplePackages (j := plainJson)) [] storeCalls := by
  have hfresh : FreshIds storeCalls := by
    unfold FreshIds
    decide
  have hkey : varchar 255 "key" = some "key" := by decide
  have hzero : Calendar.InRange 0 := by decide
  have hids : ∀ id ∈ ["task_1", "task_2"], varchar 96 id = some id ∧ id ≠ "" := by decide
  have hfits : ∀ (l : TaskLedger) id, id ∈ ["task_1", "task_2"] →
      Fits l (.createOnce "key" (storedTask id)) := by
    intro l id hid
    obtain ⟨hwidth, hne⟩ := hids id hid
    refine ⟨⟨by simp [storedTask, hwidth], by simp [hkey], hzero, hzero⟩, ?_⟩
    rintro key task he -
    cases he
    exact ⟨hkey, hwidth, hne⟩
  refine (task_stores_agree_iff samplePackages plainJson (fun _ _ _ => rfl) storeCalls hfresh).mpr
    (along_of_forall fun l c hc => ?_)
  simp only [storeCalls, List.mem_cons, List.not_mem_nil, or_false] at hc
  rcases hc with rfl | rfl | rfl | rfl | rfl
  · exact hfits l "task_1" (by decide)
  · exact hfits l "task_2" (by decide)
  · exact (proper_save ⟨by decide, by decide, by decide⟩).2
  · exact (proper_save ⟨by decide, by decide, by decide⟩).2
  · exact (proper_get (by decide)).2

/-- The id of the task in an answer. -/
def TaskAnswer.taskId : TaskAnswer → Option String
  | .task t => some t.id
  | .found t => t.map (·.id)
  | .saved t => some t.id
  | .error _ => none

/-- A key of one character more than its column holds. -/
def longKeyCalls : List TaskCall :=
  [.createOnce (String.ofList (List.replicate 256 'k')) (storedTask "task_1")]

/-- The memory creates the task, and the table refuses it. -/
theorem long_key_disagree :
    FreshIds longKeyCalls ∧ plainJson.RoundTrips ∧
      (memoryAnswers samplePackages longKeyCalls).map TaskAnswer.taskId = [some "task_1"] ∧
      (sqlAnswers samplePackages plainJson longKeyCalls).map TaskAnswer.taskId = [none] ∧
      memoryAnswers samplePackages longKeyCalls ≠
        sqlAnswers samplePackages plainJson longKeyCalls := by
  have hmemory : (memoryAnswers samplePackages longKeyCalls).map TaskAnswer.taskId =
      [some "task_1"] := by
    decide +kernel
  have hsql : (sqlAnswers samplePackages plainJson longKeyCalls).map TaskAnswer.taskId =
      [none] := by
    decide +kernel
  refine ⟨?_, fun _ _ _ => rfl, hmemory, hsql, fun he => ?_⟩
  · unfold FreshIds
    decide
  · rw [he, hsql] at hmemory
    exact absurd hmemory (by decide)

-- a key that is bound to the empty id is bound again
example : (memoryAnswers samplePackages
    [.createOnce "key" (storedTask ""), .createOnce "key" (storedTask "task_2")]).map
      TaskAnswer.taskId = [some "", some "task_2"] := by
  decide +kernel

end RecoveryOS.CustomerAgent
