import VideoProcess.Program.Locks
import Mathlib.Data.List.Basic

/-! The row locks of `quarantine_channelops_backlog`,
`lock_job_execution_authority` and `_execute_channelops_bound`. Rows of plans,
runs and inventories, locked under the schedule row, are left out. -/

namespace VideoProcess.ChannelOps

open Relation List

inductive OwnedTable
  | productionTask | queueItem | publication | feedback
deriving DecidableEq

def OwnedTable.rank : OwnedTable → Nat
  | .productionTask => 3
  | .queueItem => 4
  | .publication => 5
  | .feedback => 6

inductive LockedRow
  | channel (id : Nat)
  | schedule
  | owned (table : OwnedTable) (id : Nat)
  | job (id : Nat)
  | node (id : Nat)
deriving DecidableEq

def LockedRow.rank : LockedRow → Nat
  | .channel _ => 1
  | .schedule => 2
  | .owned table _ => table.rank
  | .job _ => 7
  | .node _ => 8

inductive LockStatement
  | channel (id : Nat)
  | schedule
  | owned (table : OwnedTable) (id : Nat)
  | allOwned (table : OwnedTable) (channel : Nat)
  | job (id : Nat)
  | jobsOf (channel : Nat)
  | node (id : Nat)
  | nodesOfJob (job : Nat)
  | nodesOf (channel : Nat)
deriving DecidableEq

/-- The columns that none of the transactions writes. -/
structure LockTables where
  rows : OwnedTable → List Nat
  channelOf : OwnedTable → Nat → Nat
  planOf : Nat → Option Nat
  nodes : List Nat
  jobOf : Nat → Nat

abbrev JobLinks := Nat → Option Nat

namespace LockTables

variable (tables : LockTables)

def tasksOf (channel : Nat) : List Nat :=
  (tables.rows .productionTask).filter (tables.channelOf .productionTask · = channel)

def linkedJobs (links : JobLinks) (channel : Nat) : List Nat :=
  (tables.tasksOf channel).filterMap links

def select (links : JobLinks) : LockStatement → List LockedRow
  | .channel id => [.channel id]
  | .schedule => [.schedule]
  | .owned table id => [.owned table id]
  | .allOwned table channel =>
    ((tables.rows table).filter (tables.channelOf table · = channel)).map (.owned table)
  | .job id => [.job id]
  | .jobsOf channel => (tables.linkedJobs links channel).map .job
  | .node id => [.node id]
  | .nodesOfJob job => (tables.nodes.filter (tables.jobOf · = job)).map .node
  | .nodesOf channel =>
    (tables.nodes.filter (tables.jobOf · ∈ tables.linkedJobs links channel)).map .node

def fences : LockStatement → List LockStatement
  | .allOwned _ channel => [.channel channel]
  | .jobsOf channel => [.channel channel, .allOwned .productionTask channel]
  | .nodesOfJob job => [.job job]
  | .nodesOf channel => [.allOwned .productionTask channel, .jobsOf channel]
  | _ => []

/-- The order in which the rows are locked. An execution locks its queue item
before anything else, a quarantine those of its channel after the tasks. -/
def rank : LockStatement → Nat
  | .owned .queueItem _ => 0
  | .channel _ => 1
  | .schedule => 2
  | .owned table _ | .allOwned table _ => table.rank
  | .job _ | .jobsOf _ => 7
  | .node _ | .nodesOfJob _ | .nodesOf _ => 8

theorem linkedJobs_congr (same : ∀ task ∈ tables.tasksOf channel, written task = links task) :
  tables.linkedJobs written channel = tables.linkedJobs links channel := filterMap_congr same

/-- A transaction writes the links of tasks that it has locked. -/
def locking : Locking LockStatement LockedRow JobLinks where
  select := tables.select
  rank := rank
  fences := fences
  Writes held links written :=
    ∀ task, .owned .productionTask task ∉ held → written task = links task
  stable {held links written statement} writes fenced := by
    have kept : ∀ channel, .allOwned .productionTask channel ∈ fences statement →
      tables.linkedJobs written channel = tables.linkedJobs links channel := by
      intro channel fence
      refine tables.linkedJobs_congr fun task member => writes task ?_
      exact fenced _ fence _ (by simpa [select, tasksOf] using member)
    cases statement <;> simp [select, fences] at kept ⊢ <;> simp [kept]

end LockTables

/-- One of the concurrent transactions, with its arguments. The last two of an
execution are what it reads of the run under its key: whether one is committed
before it locks the channel, and the job of the one it finds in the end. -/
inductive LockingTransaction
  | quarantineChannelopsBacklog (channel : Nat) (closeSchedule : Bool)
  | lockJobExecutionAuthority (job : Nat) (node : Option Nat)
    (lockAllNodes : Bool)
  | executeChannelopsBound (queueItem task plan : Nat) (committed : Bool)
    (existing : Option Nat)

namespace LockTables

variable (tables : LockTables)

def quarantineChannelopsBacklog (channel : Nat) (closeSchedule : Bool) : List LockStatement :=
  .channel channel :: (if closeSchedule then [.schedule] else []) ++
    [.allOwned .productionTask channel, .allOwned .queueItem channel,
      .allOwned .publication channel, .allOwned .feedback channel,
      .jobsOf channel, .nodesOf channel]

def lockJobExecutionAuthority (links : JobLinks) (job : Nat) (node : Option Nat)
  (lockAllNodes : Bool) : List LockStatement :=
  let rest := .job job ::
    if lockAllNodes then [.nodesOfJob job] else node.toList.map .node
  match (tables.rows .productionTask).filter (links · = some job) with
  | [] => .schedule :: rest
  | [task] => .channel (tables.channelOf .productionTask task) :: .schedule ::
    .owned .productionTask task :: rest
  | _ => []

/-- `lock_plan` finds the channel through the one task that has the plan. -/
def lockPlan (plan : Nat) : Option (List LockStatement) :=
  match (tables.rows .productionTask).filter (tables.planOf · = some plan) with
  | [] => some [.schedule]
  | [task] => some [.channel (tables.channelOf .productionTask task), .schedule]
  | _ => none

def executeChannelopsBound (queueItem task plan : Nat) (committed : Bool)
  (existing : Option Nat) : List LockStatement :=
  .owned .queueItem queueItem :: match if committed then some [] else tables.lockPlan plan with
    | none => []
    | some locks => .owned .queueItem queueItem :: locks ++
      [.channel (tables.channelOf .productionTask task), .schedule,
        .owned .productionTask task, .owned .queueItem queueItem] ++
      existing.toList.map .job

/-- The statements of a transaction. A row it has locked is not locked again. -/
def script (links : JobLinks) : LockingTransaction → List LockStatement
  | .quarantineChannelopsBacklog channel closeSchedule =>
    quarantineChannelopsBacklog channel closeSchedule
  | .lockJobExecutionAuthority job node lockAllNodes =>
    tables.lockJobExecutionAuthority links job node lockAllNodes
  | .executeChannelopsBound queueItem task plan committed existing =>
    (tables.executeChannelopsBound queueItem task plan committed existing).eraseDups

/-- The channel-wide statements are those of its quarantine, and only an
execution locks one queue item. -/
def Belongs (transaction : LockingTransaction) : LockStatement → Prop
  | .allOwned _ channel | .jobsOf channel | .nodesOf channel =>
    ∃ closeSchedule, transaction = .quarantineChannelopsBacklog channel closeSchedule
  | .owned .queueItem id => ∃ task plan committed existing,
    transaction = .executeChannelopsBound id task plan committed existing
  | _ => True

/-- No execution is for a queue item of a channel under quarantine, and the plan
of an execution leads to the channel of its task. -/
structure Compatible (transactions : ι → LockingTransaction) : Prop where
  apart : ∀ {i j channel close queueItem task plan committed existing},
    transactions i = .quarantineChannelopsBacklog channel close →
    transactions j = .executeChannelopsBound queueItem task plan committed existing →
    tables.channelOf .queueItem queueItem ≠ channel
  planned : ∀ {i queueItem task plan existing}, transactions i =
    .executeChannelopsBound queueItem task plan false existing →
    ∃ owner, (tables.rows .productionTask).filter (tables.planOf · = some plan) = [owner] ∧
      tables.channelOf .productionTask owner = tables.channelOf .productionTask task

def Unshared (transactions : ι → LockingTransaction) (links : JobLinks) : Prop :=
  ∀ {i j channel other close closeOther},
    transactions i = .quarantineChannelopsBacklog channel close →
    transactions j = .quarantineChannelopsBacklog other closeOther →
    ∀ job ∈ tables.linkedJobs links channel, job ∈ tables.linkedJobs links other → channel = other

variable {tables} {transactions : ι → LockingTransaction} {links : JobLinks}

theorem ordered_script (compatible : tables.Compatible transactions) (links : JobLinks) (i : ι) :
  tables.locking.Ordered (Belongs (transactions i)) [] (tables.script links (transactions i)) := by
  cases transaction : transactions i with
  | quarantineChannelopsBacklog _ closeSchedule =>
    cases closeSchedule <;>
      simp [script, quarantineChannelopsBacklog, Locking.Ordered, locking,
        Belongs, fences, rank, OwnedTable.rank]
  | lockJobExecutionAuthority _ node lockAllNodes =>
    simp only [script, lockJobExecutionAuthority]
    split <;> cases lockAllNodes <;> cases node <;>
      simp [Locking.Ordered, locking, Belongs, fences, rank, OwnedTable.rank]
  | executeChannelopsBound queueItem task plan committed existing =>
    have effective : tables.script links
      (.executeChannelopsBound queueItem task plan committed existing) =
      .owned .queueItem queueItem ::
        .channel (tables.channelOf .productionTask task) :: .schedule ::
        .owned .productionTask task :: existing.toList.map .job := by
      cases committed with
      | true =>
        cases existing <;>
          simp [script, executeChannelopsBound, eraseDups_cons]
      | false =>
        obtain ⟨_, found, same⟩ := compatible.planned transaction
        cases existing <;>
          simp [script, executeChannelopsBound, lockPlan, found, same, eraseDups_cons]
    rw [effective]
    cases existing <;>
      simp [Locking.Ordered, locking, Belongs, fences, rank, OwnedTable.rank]

theorem rank_eq_of_mem (selected : row ∈ tables.select links statement) :
  rank statement = row.rank ∨ ∃ id, statement = .owned .queueItem id := by
  cases statement with
  | owned table => cases table <;> simp_all [select, rank, LockedRow.rank]
  | _ =>
    simp only [select, mem_map, mem_singleton] at selected
    obtain ⟨_, -, rfl⟩ := selected
    exact .inl rfl

theorem eq_of_queueItem_mem {id : Nat}
  (selected : .owned .queueItem id ∈ tables.select links statement) :
  statement = .owned .queueItem id ∨
    statement = .allOwned .queueItem (tables.channelOf .queueItem id) := by
  cases statement with
  | allOwned =>
    simp only [select, mem_map, LockedRow.owned.injEq] at selected
    obtain ⟨_, member, rfl, rfl⟩ := selected
    exact .inr (by simpa [eq_comm] using (mem_filter.mp member).2)
  | _ => simp_all [select]

def Guarded (transaction : LockingTransaction) (links : JobLinks)
  (held : List LockedRow) : LockedRow → Prop
  | .owned table id => .channel (tables.channelOf table id) ∈ held
  | .job id => ∃ channel close,
    transaction = .quarantineChannelopsBacklog channel close ∧
      id ∈ tables.linkedJobs links channel ∧ .channel channel ∈ held
  | .node id => .job (tables.jobOf id) ∈ held
  | _ => False

section

variable {state : Sessions ι LockStatement LockedRow JobLinks}
  {asking holding : LockStatement} {row : LockedRow}
  (sound : tables.locking.Sound (fun i => Belongs (transactions i)) state)
  (blocks : tables.locking.Blocks state i j asking holding row)

include sound

theorem guarded_of_several (begun : (state.session i).Begun statement)
  (selected : row ∈ tables.select state.data statement)
  (several : ∃ other ∈ tables.select state.data statement, other ≠ row) :
  tables.Guarded (transactions i) state.data (state.session i).held row := by
  obtain ⟨_, _, _⟩ := several
  obtain ⟨belongs, fenced⟩ := (sound.session i).begun begun
  have held : ∀ {fence lock}, fence ∈ fences statement →
    lock ∈ tables.select state.data fence → lock ∈ (state.session i).held :=
    fun member locked => (sound.session i).locked _ (fenced member) locked
  cases statement with
  | allOwned | nodesOfJob =>
    simp only [select, mem_map, mem_filter, decide_eq_true_eq] at selected
    obtain ⟨_, ⟨-, rfl⟩, rfl⟩ := selected
    exact held (.head _) (.head _)
  | jobsOf channel =>
    simp only [select, mem_map] at selected
    obtain ⟨_, linked, rfl⟩ := selected
    obtain ⟨close, quarantine⟩ := belongs
    exact ⟨channel, close, quarantine, linked, held (.head _) (.head _)⟩
  | nodesOf =>
    simp only [select, mem_map, mem_filter, decide_eq_true_eq] at selected
    obtain ⟨_, ⟨-, linked⟩, rfl⟩ := selected
    exact held (.tail _ (.head _)) (mem_map_of_mem linked)
  | _ => simp_all [select]

include blocks

theorem rank_eq_of_blocks (compatible : tables.Compatible transactions) :
  rank asking = rank holding := by
  have own := ((sound.session i).begun (.inl blocks.current)).1
  have other := ((sound.session j).begun blocks.begun).1
  have asked : row ∈ tables.select state.data asking := blocks.asked
  have selected : row ∈ tables.select state.data holding := blocks.selected
  obtain first | ⟨id, rfl⟩ := rank_eq_of_mem asked
  · obtain second | ⟨_, rfl⟩ := rank_eq_of_mem selected
    · rw [first, second]
    · obtain rfl := mem_singleton.mp selected
      obtain rfl | rfl := eq_of_queueItem_mem asked
      · rfl
      · obtain ⟨_, quarantine⟩ := own
        obtain ⟨_, _, _, _, execution⟩ := other
        exact absurd rfl (compatible.apart quarantine execution)
  · obtain rfl := mem_singleton.mp asked
    obtain rfl | rfl := eq_of_queueItem_mem selected
    · rfl
    · obtain ⟨_, quarantine⟩ := other
      obtain ⟨_, _, _, _, execution⟩ := own
      exact absurd rfl (compatible.apart quarantine execution)

theorem not_several_of_blocks (unshared : tables.Unshared transactions state.data)
  (several : ∃ other ∈ tables.select state.data asking, other ≠ row)
  (severalHeld : ∃ other ∈ tables.select state.data holding, other ≠ row) :
  False := by
  suffices ∃ lock ∈ (state.session i).held, lock ∈ (state.session j).held by
    obtain ⟨_, own, other⟩ := this
    obtain rfl := sound.exclusive own other
    exact blocks.fresh blocks.held
  have own := guarded_of_several sound (.inl blocks.current) blocks.asked several
  have other := guarded_of_several sound blocks.begun blocks.selected severalHeld
  cases row with
  | channel | schedule => exact own.elim
  | owned | node => exact ⟨_, own, other⟩
  | job id =>
    obtain ⟨_, _, quarantine, linked, locked⟩ := own
    obtain ⟨_, _, quarantineOther, linkedOther, lockedOther⟩ := other
    obtain rfl := unshared quarantine quarantineOther id linked linkedOther
    exact ⟨_, locked, lockedOther⟩

end

/-- In no reachable state do compatible transactions wait for each other in a
cycle, while no job is shared. -/
theorem compatible_deadlock_free [DecidableEq ι]
  {state : Sessions ι LockStatement LockedRow JobLinks}
  (compatible : tables.Compatible transactions)
  (reached : ReflTransGen (tables.locking.Step fun links i =>
    tables.script links (transactions i)) ⟨links, fun _ => {}⟩ state)
  (unshared : tables.Unshared transactions state.data) (i : ι) :
  ¬ TransGen (Locking.Waits state) i i := by
  have sound := Locking.sound_of_reached (ordered_script compatible) reached
  exact sound.not_cycle (rank_eq_of_blocks sound · compatible)
    (fun blocks _ => not_several_of_blocks sound blocks unshared) i

def oneTask : LockTables where
  rows table := if table = .productionTask ∨ table = .queueItem then [0] else []
  channelOf _ _ := 0
  planOf _ := some 0
  nodes := []
  jobOf _ := 0

def executedTwice : Bool → LockingTransaction := fun _ => .executeChannelopsBound 0 0 0 false none

theorem executedTwice_deadlock_free : ∃ state, ReflTransGen (oneTask.locking.Step fun links i =>
  oneTask.script links (executedTwice i))
  ⟨fun _ => none, fun _ => {}⟩ state ∧
  Locking.Waits state true false ∧
  ¬ TransGen (Locking.Waits state) true true := by
  have compatible : oneTask.Compatible executedTwice := by
    constructor
    · simp [executedTwice]
    · rintro _ _ _ _ _ ⟨⟩
      exact ⟨0, by decide, rfl⟩
  obtain ⟨state, reached, waits⟩ : ∃ state, ReflTransGen (oneTask.locking.Step fun links i =>
    oneTask.script links (executedTwice i))
    ⟨fun _ => none, fun _ => {}⟩ state ∧
    Locking.Waits state true false :=
    ⟨_, .head (.start false rfl) <| .head (.request false (.owned .queueItem 0) rfl rfl (by decide)
      (by decide)) <|
      .head (.grant false rfl (by decide)) <|
      .head (.start true rfl) <|
      .head (.request true (.owned .queueItem 0) rfl rfl (by decide) (by decide)) .refl,
      .owned .queueItem 0, rfl, by decide⟩
  exact ⟨state, reached, waits, compatible_deadlock_free compatible reached
    (by simp [Unshared, executedTwice]) true⟩

def executedAndQuarantined : Bool → LockingTransaction
  | false => .executeChannelopsBound 0 0 0 false none
  | true => .quarantineChannelopsBacklog 0 false

theorem execution_quarantine_deadlock : ∃ state, ReflTransGen (oneTask.locking.Step fun links i =>
  oneTask.script links (executedAndQuarantined i))
  ⟨fun _ => none, fun _ => {}⟩ state ∧
  TransGen (Locking.Waits state) false false := by
  refine ⟨_, .head (.start false rfl) <|
    .head (.request false (.owned .queueItem 0) rfl rfl (by decide) (by decide)) <|
    .head (.grant false rfl (by decide)) <|
    .head (.advance false (.owned .queueItem 0) rfl rfl (by decide)) <|
    .head (.start true rfl) <|
    .head (.request true (.channel 0) rfl rfl (by decide) (by decide)) <|
    .head (.grant true rfl (by decide)) <|
    .head (.advance true (.channel 0) rfl rfl (by decide)) <|
    .head (.request true (.owned .productionTask 0) rfl rfl (by decide) (by decide)) <|
    .head (.grant true rfl (by decide)) <|
    .head (.advance true (.allOwned .productionTask 0) rfl rfl (by decide)) <|
    .head (.request true (.owned .queueItem 0) rfl rfl (by decide) (by decide)) <|
    .head (.request false (.channel 0) rfl rfl (by decide) (by decide)) .refl,
    ?_⟩
  exact .head (b := true) ⟨.channel 0, rfl, by decide⟩
    (.single ⟨.owned .queueItem 0, rfl, by decide⟩)

end LockTables

end VideoProcess.ChannelOps
