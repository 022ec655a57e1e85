import VideoProcess.Program.Basic
import VideoProcess.Python.Dispatch

namespace VideoProcess.Python

open Data

/-! `start_job` on a job that has been started before. -/

def restarted (services : Services) (job : Job) : Job :=
  (planJob services job).mapNodes (fun _ => resolved services) fun _ => id_resolved services

theorem planned_restarted (services : Services) (job : Job) :
  Planned (restarted services job) := rfl

inductive Started (services : Services) (tables : Tables) : Tables → Prop
  | unreadable (message : String)
    (error : resolveSourceNodes services (planJob services tables.job) = .error message) :
    Started services tables (tables.setJob { planJob services tables.job with
      status := .failed
      errorMessage := some message })
  | raised (message : String) (committed : Tables)
    (read : resolveSourceNodes services (planJob services tables.job) =
      .ok (restarted services tables.job))
    (visits : visitNodes services true (buildDependencyMap tables.job.pipelineSnapshot)
      tables.job.pipelineSnapshot.nodeIDs
      (tables.setJob (restarted services tables.job)) = .raised message committed) :
    Started services tables (committed.setJob { committed.job with
      status := .failed
      errorMessage := some message })
  | passed (last : Tables)
    (read : resolveSourceNodes services (planJob services tables.job) =
      .ok (restarted services tables.job))
    (visits : visitNodes services true (buildDependencyMap tables.job.pipelineSnapshot)
      tables.job.pipelineSnapshot.nodeIDs
      (tables.setJob (restarted services tables.job)) = .finished last) :
    Started services tables (maybeFinalizeJob last)

section

variable {services : Services} {tables : Tables}

theorem resolveSourceNodes_ok (read : resolveSourceNodes services job = .ok result) :
  result = job.mapNodes (fun _ => resolved services) fun _ => id_resolved services := by
  unfold resolveSourceNodes at read
  obtain ⟨_, -, same⟩ := Program.bind_eq_ok read
  cases same
  rfl

variable {outcome : Outcome}

theorem launch_of_granted (ran : lockInitialLaunchAuthority tables launch = outcome)
  (granted : outcome.isBlocked = false) : launch tables = outcome := by
  obtain ⟨_, blocked⟩ | launched := lockInitialLaunchAuthority_cases tables launch
  · rw [blocked] at ran
    cases ran
    cases granted
  · rw [← launched, ran]

theorem launchJob_granted (ran : launchJob services tables = outcome)
  (granted : outcome.isBlocked = false) :
  (∃ message, resolveSourceNodes services (planJob services tables.job) = .error message ∧
    outcome = .raised message (tables.setJob (planJob services tables.job))) ∨
  resolveSourceNodes services (planJob services tables.job) = .ok (restarted services tables.job) ∧
    outcome = (visitNodes services true (buildDependencyMap tables.job.pipelineSnapshot)
      tables.job.pipelineSnapshot.nodeIDs
      (tables.setJob (restarted services tables.job))).andThen
        fun last => .finished (maybeFinalizeJob last) := by
  have launched := launch_of_granted ran granted
  dsimp only [Tables.setJob] at launched
  cases read : resolveSourceNodes services (planJob services tables.job) with
  | error message =>
    rw [read] at launched
    exact .inl ⟨message, rfl, launched.symm⟩
  | ok =>
    rw [read] at launched
    cases resolveSourceNodes_ok read
    have pass : dispatchReadyNodes services true (buildDependencyMap tables.job.pipelineSnapshot)
      (tables.setJob (restarted services tables.job)) = outcome :=
      launch_of_granted launched granted
    have running : ¬ (tables.setJob (restarted services tables.job)).job.status = .cancelled :=
      show ¬ JobStatus.running = .cancelled by decide
    rw [dispatchReadyNodes, if_neg running, keys_buildDependencyMap tables.job.unique] at pass
    exact .inr ⟨rfl, pass.symm⟩

theorem started_startJob (finished : startJob services tables = .finished after) :
  Started services tables after := by
  have ran := launch_of_granted finished rfl
  cases launch : launchJob services tables with
  | blocked =>
    rw [launch] at ran
    cases ran
  | raised message committed =>
    rw [launch] at ran
    have failed := launch_of_granted ran rfl
    cases failed
    obtain ⟨_, error, same⟩ | ⟨read, pass⟩ := launchJob_granted launch rfl
    · cases same
      exact .unreadable message error
    · cases visits : visitNodes services true (buildDependencyMap tables.job.pipelineSnapshot)
        tables.job.pipelineSnapshot.nodeIDs
        (tables.setJob (restarted services tables.job)) with
      | finished | blocked =>
        rw [visits] at pass
        cases pass
      | raised =>
        rw [visits] at pass
        cases pass
        exact .raised message _ read visits
  | finished =>
    rw [launch] at ran
    cases ran
    obtain ⟨_, _, same⟩ | ⟨read, pass⟩ := launchJob_granted launch rfl
    · cases same
    · obtain ⟨last, visits, final⟩ := Outcome.andThen_eq_finished pass.symm
      cases final
      exact .passed last read visits

end

section

variable (services : Services)

/-- A second dispatch is refused, or Redis fails on it. -/
def Troubled (tables : Tables) (node : NodeExecution) : Prop :=
  tables.dispatches.any (isOpenInitial node.id) = true ∨ services.redisError node.id ≠ none

/-- The node is due and misses the cache only where it can be dispatched. -/
def Clear (tables : Tables) (nodeID : String) : Prop :=
  ∀ node, tables.job.node? nodeID = some node → Sweep.Due (dispatchRules services false tables.job)
    tables.job.pipelineSnapshot.nodeIDs (mark tables.job) nodeID →
    (∃ artifact, Sweep.Attains (dispatchRules services false tables.job)
      tables.job.pipelineSnapshot.nodeIDs (mark tables.job) nodeID artifact) ∨
    ¬ Troubled services tables node

/-- Where a pass stands after a part of the listing. -/
structure Reaches (start : Tables) (front : List String) (current : Tables) : Prop where
  advances : start.job.Advances current.job
  marks : mark current.job =
    Sweep.sweep (dispatchRules services false start.job) front (mark start.job)
  others : ∀ nodeID ∉ front, ∀ node, start.job.node? nodeID = some node →
    current.dispatches.any (isOpenInitial node.id) = start.dispatches.any (isOpenInitial node.id)

end

namespace Reaches

variable {services : Services} {nodeID : String} (reaches : Reaches services start front current)
  (listed : start.job.pipelineSnapshot.nodeIDs = front ++ nodeID :: back)

include reaches

theorem ready_iff : Sweep.Ready (dispatchRules services false current.job) (mark current.job)
  nodeID ↔
  Sweep.Ready (dispatchRules services false start.job)
    (Sweep.sweep (dispatchRules services false start.job) front (mark start.job)) nodeID := by
  rw [dispatchRules_eq reaches.advances, reaches.marks]

theorem visit {after : Tables} (visited : Visited services current nodeID (.finished after))
  (others : ∀ other ≠ nodeID, ∀ node, start.job.node? other = some node →
    after.dispatches.any (isOpenInitial node.id) = current.dispatches.any (isOpenInitial node.id)) :
  Reaches services start (front ++ [nodeID]) after where
  advances := reaches.advances.trans (visited.advances rfl)
  marks := by
    rw [Sweep.sweep_append, visited.mark, dispatchRules_eq reaches.advances, reaches.marks]
    rfl
  others := by
    intro other outside node found
    rw [List.mem_append, List.mem_singleton, not_or] at outside
    rw [others other outside.2 node found]
    exact reaches.others other outside.1 node found

include listed

theorem due_iff : Sweep.Ready (dispatchRules services false current.job) (mark current.job) nodeID ↔
  Sweep.Due (dispatchRules services false start.job)
    start.job.pipelineSnapshot.nodeIDs (mark start.job) nodeID := by
  rw [reaches.ready_iff]
  exact Sweep.ready_turn_iff listed start.job.unique

theorem attains_iff (taken : TakesUp services current nodeID node answer) (artifact : Option Uuid) :
  Sweep.Attains (dispatchRules services false start.job)
    start.job.pipelineSnapshot.nodeIDs (mark start.job) nodeID artifact ↔
    answer = some artifact := by
  rw [Sweep.attains_turn_iff listed start.job.unique
    (reaches.ready_iff.1 taken.ready), ← taken.answer,
    dispatchRules_eq reaches.advances, reaches.marks]

theorem clear_iff (taken : TakesUp services current nodeID node none) :
  Clear services start nodeID ↔ current.dispatches.any (isOpenInitial node.id) = false ∧
    services.redisError node.id = none := by
  obtain ⟨old, found, step⟩ := reaches.advances.origin taken.found
  have same : node.id = old.id := congrArg Prod.fst step.identity
  have due := (reaches.due_iff listed).1 taken.ready
  have missed : ¬ ∃ artifact, Sweep.Attains (dispatchRules services false start.job)
    start.job.pipelineSnapshot.nodeIDs (mark start.job) nodeID
    artifact := by
    rintro ⟨artifact, attains⟩
    cases (reaches.attains_iff listed taken artifact).1 attains
  have opened := reaches.others nodeID (Sweep.notMem_front listed start.job.unique) old found
  have untroubled : ¬ Troubled services start old ↔
    current.dispatches.any (isOpenInitial node.id) = false ∧
      services.redisError node.id = none := by
    rw [Troubled, not_or, not_not, Bool.not_eq_true, same, opened]
  rw [← untroubled]
  constructor
  · exact fun clear => (clear old found due).resolve_left missed
  · intro untroubled other again _
    cases found.symm.trans again
    exact .inr untroubled

theorem clear_of_idle (idle : ¬ Sweep.Ready (dispatchRules services false current.job)
  (mark current.job) nodeID) : Clear services start nodeID :=
  fun _ _ due => absurd ((reaches.due_iff listed).2 due) idle

theorem clear_of_hit (taken : TakesUp services current nodeID node (some (some artifact))) :
  Clear services start nodeID := fun _ _ _ => .inl ⟨_, (reaches.attains_iff listed taken _).2 rfl⟩

end Reaches

/-- The unique index of the schema: a node execution has at most one initial
dispatch that is not resolved. -/
def UniqueInitial (dispatches : List WorkerTaskDispatch) : Prop :=
  ∀ nodeExecution, dispatches.countP (isOpenInitial nodeExecution) ≤ 1

section

variable {services : Services} {tables : Tables} {nodeID : String}

theorem countP_reconciled (staged nodeExecution : Uuid) :
  (reconciled services staged tables).dispatches.countP (isOpenInitial nodeExecution) =
    tables.dispatches.countP (isOpenInitial nodeExecution) := by
  rw [reconciled, List.countP_map]
  rfl

theorem countP_queueWith (different : staged.nodeExecutionID ≠ nodeExecution) :
  (queueWith tables nodeID inputs staged).dispatches.countP (isOpenInitial nodeExecution) =
    tables.dispatches.countP (isOpenInitial nodeExecution) := by
  have other : isOpenInitial nodeExecution staged = false := by simp [isOpenInitial, different]
  rw [queueWith, List.countP_append]
  simp [other]

theorem Visited.countP_of_ne (visited : Visited services tables nodeID outcome)
  (granted : outcome.isBlocked = false)
  (different : ∀ node, tables.job.node? nodeID = some node → node.id ≠ nodeExecution) :
  outcome.tables.dispatches.countP (isOpenInitial nodeExecution) =
    tables.dispatches.countP (isOpenInitial nodeExecution) := by
  cases visited with
  | idle => rfl
  | blocked => cases granted
  | reused | occupied => rfl
  | faulted node _ _ _ taken _ named =>
    exact (countP_reconciled _ _).trans (countP_queueWith (named ▸ different node taken.found))
  | launched node _ _ taken _ named =>
    exact (countP_reconciled _ _).trans (countP_queueWith (named ▸ different node taken.found))

theorem unique_queueWith {node : NodeExecution} (unique : UniqueInitial tables.dispatches)
  (free : tables.dispatches.any (isOpenInitial node.id) = false)
  (named : staged.nodeExecutionID = node.id) :
  UniqueInitial (reconciled services node.id
    (queueWith tables nodeID inputs staged)).dispatches := by
  intro nodeExecution
  rw [countP_reconciled]
  by_cases same : staged.nodeExecutionID = nodeExecution
  · have none : tables.dispatches.countP (isOpenInitial nodeExecution) = 0 := by
      rw [List.countP_eq_zero, ← same, named]
      exact List.any_eq_false.1 free
    rw [queueWith, List.countP_append, none, Nat.zero_add]
    exact List.countP_le_length
  · rw [countP_queueWith same]
    exact unique nodeExecution

theorem Visited.unique (visited : Visited services tables nodeID outcome)
  (granted : outcome.isBlocked = false)
  (unique : UniqueInitial tables.dispatches) :
  UniqueInitial outcome.tables.dispatches := by
  cases visited with
  | idle => exact unique
  | blocked => cases granted
  | reused | occupied => exact unique
  | faulted _ _ _ _ _ free named => exact unique_queueWith unique free named
  | launched _ _ _ _ free named => exact unique_queueWith unique free named

theorem any_eq_decide (dispatches : List WorkerTaskDispatch) (nodeExecution : Uuid) :
  dispatches.any (isOpenInitial nodeExecution) =
    decide (0 < dispatches.countP (isOpenInitial nodeExecution)) := by
  rw [Bool.eq_iff_iff, List.any_eq_true, decide_eq_true_eq, List.countP_pos_iff]

end

section

variable {services : Services} {outcome : Outcome}

section

variable {nodeID : String} (reaches : Reaches services start front current)

include reaches

theorem Reaches.step (visited : Visited services current nodeID (.finished after)) :
  Reaches services start (front ++ [nodeID]) after := by
  refine reaches.visit visited ?_
  intro other different node found
  have elsewhere : ∀ taken, current.job.node? nodeID = some taken → taken.id ≠ node.id := by
    intro taken foundTaken same
    obtain ⟨old, oldFound, step⟩ := reaches.advances.origin foundTaken
    have identity : taken.id = old.id := congrArg Prod.fst step.identity
    exact different (Job.eq_of_id_eq found oldFound (same.symm.trans identity))
  have count : after.dispatches.countP (isOpenInitial node.id) =
    current.dispatches.countP (isOpenInitial node.id) :=
    visited.countP_of_ne rfl elsewhere
  rw [any_eq_decide, any_eq_decide, count]

theorem Reaches.clear_iff_finished
  (listed : start.job.pipelineSnapshot.nodeIDs = front ++ nodeID :: back)
  (visited : Visited services current nodeID outcome)
  (granted : outcome.isBlocked = false) :
  Clear services start nodeID ↔ outcome.isFinished = true := by
  cases visited with
  | idle idle => exact iff_of_true (reaches.clear_of_idle listed idle) rfl
  | blocked => cases granted
  | reused _ _ _ taken => exact iff_of_true (reaches.clear_of_hit listed taken) rfl
  | occupied _ _ taken occupied =>
    refine iff_of_false (fun clear => ?_) Bool.false_ne_true
    have free := ((reaches.clear_iff listed taken).1 clear).1
    rw [occupied] at free
    cases free
  | faulted _ _ _ _ taken _ _ error =>
    refine iff_of_false (fun clear => ?_) Bool.false_ne_true
    have quiet := ((reaches.clear_iff listed taken).1 clear).2
    cases error.symm.trans quiet
  | launched _ _ _ taken free _ quiet =>
    exact iff_of_true ((reaches.clear_iff listed taken).2 ⟨free, quiet⟩) rfl

end

theorem clear_of_visits (planned : Planned start.job)
  (listed : start.job.pipelineSnapshot.nodeIDs = front ++ back)
  (reaches : Reaches services start front current)
  (visits : visitNodes services true
    (buildDependencyMap start.job.pipelineSnapshot) back current = outcome)
  (granted : outcome.isBlocked = false) :
  (∀ nodeID ∈ back, Clear services start nodeID) ↔ outcome.isFinished = true := by
  induction back generalizing front current with
  | nil =>
    cases visits
    exact iff_of_true (fun _ member => absurd member List.not_mem_nil) rfl
  | cons nodeID rest ih =>
    have visited : Visited services current nodeID _ :=
      visited_visitNode true (planned.of_advances reaches.advances)
    rw [reaches.advances.pipelineSnapshot] at visited
    change (visitNode services true _ current nodeID).andThen _ = outcome at visits
    rw [List.forall_mem_cons]
    cases visit : visitNode services true
      (buildDependencyMap start.job.pipelineSnapshot) current nodeID with
    | blocked =>
      rw [visit] at visits
      cases visits
      cases granted
    | raised =>
      rw [visit] at visits visited
      cases visits
      have unclear := reaches.clear_iff_finished listed visited rfl
      exact iff_of_false (fun clear => Bool.false_ne_true (unclear.1 clear.1)) Bool.false_ne_true
    | finished =>
      rw [visit] at visits visited
      have clear : Clear services start nodeID :=
        (reaches.clear_iff_finished listed visited rfl).2 rfl
      have onward : start.job.pipelineSnapshot.nodeIDs = (front ++ [nodeID]) ++ rest := by
        rw [listed, List.append_assoc, List.singleton_append]
      rw [and_iff_right clear]
      exact ih onward (reaches.step visited) visits

theorem unique_visitNodes (planned : Planned start.job) (visits : visitNodes services true
  (buildDependencyMap start.job.pipelineSnapshot) listing start = outcome)
  (granted : outcome.isBlocked = false)
  (unique : UniqueInitial start.dispatches) :
  UniqueInitial outcome.tables.dispatches :=
  keeps_visitNodes (fun before after =>
    UniqueInitial before.dispatches → UniqueInitial after.dispatches)
    (fun _ unique => unique) (fun first second unique => second (first unique))
    Visited.unique planned visits granted unique

end

/-- The node has succeeded, or the pass settles it from the cache. -/
def Attained (services : Services) (job : Job) (nodeID : String) : Prop :=
  ∃ artifact, Sweep.Attains (dispatchRules services false job)
    job.pipelineSnapshot.nodeIDs (mark job) nodeID artifact

/-- Every node has failed or is attained, and the failures reach the
leaves. -/
structure EndsFailed (services : Services) (job : Job) : Prop where
  ended : ∀ nodeID ∈ job.pipelineSnapshot.nodeIDs,
    FailedNode job nodeID ∨ Attained services job nodeID
  failed : ∃ nodeID, FailedNode job nodeID
  leaves : (∃ nodeID ∈ leafNodeIDs job.pipelineSnapshot, FailedNode job nodeID) ∨
    ∀ nodeID ∈ leafNodeIDs job.pipelineSnapshot, ¬ Attained services job nodeID

section

variable {services : Services} {after : Job} {nodeID : String}

theorem Job.Advances.failedNode_iff (advances : before.Advances after) :
  FailedNode after nodeID ↔ FailedNode before nodeID := by
  constructor
  · rintro ⟨_, found, failed⟩
    obtain ⟨old, oldFound, step⟩ := advances.origin found
    exact ⟨old, oldFound, step.isFailed ▸ failed⟩
  · rintro ⟨_, found, failed⟩
    obtain ⟨node, newFound, step⟩ := advances.image found
    exact ⟨node, newFound, step.isFailed.trans failed⟩

theorem succeededNode_iff :
  SucceededNode job nodeID ↔ ∃ artifact, mark job nodeID = .settled artifact := by
  constructor
  · rintro ⟨node, found, succeeded⟩
    exact ⟨_, mark_eq_settled_iff.2 ⟨node, found, of_decide_eq_true succeeded, rfl⟩⟩
  · rintro ⟨_, settled⟩
    obtain ⟨node, found, succeeded, -⟩ := mark_eq_settled_iff.1 settled
    exact ⟨node, found, decide_eq_true succeeded⟩

theorem activeNode_iff : ActiveNode job nodeID ↔ nodeID ∈ job.pipelineSnapshot.nodeIDs ∧
  ¬ (FailedNode job nodeID ∨ SucceededNode job nodeID) := by
  cases found : job.node? nodeID with
  | none =>
    have outside : nodeID ∉ job.pipelineSnapshot.nodeIDs := by
      rw [← Job.node?_isSome_iff, found]
      exact Bool.false_ne_true
    simp [NodeIn, found, outside]
  | some node =>
    have inside := Job.mem_nodeIDs found
    cases status : node.status <;>
      simp [NodeIn, found, inside, status, NodeStatus.isActive, NodeStatus.isFailed]

theorem succeededNode_sweep (marks : mark after = Sweep.sweep (dispatchRules services false before)
  before.pipelineSnapshot.nodeIDs (mark before)) :
  SucceededNode after nodeID ↔ Attained services before nodeID := by
  rw [succeededNode_iff, marks]
  refine exists_congr fun artifact => ?_
  rw [Sweep.settled_sweep_iff (List.append_nil _).symm before.unique]
  exact and_iff_left (waiting_listed nodeID)

theorem fails_iff (advances : before.Advances after)
  (marks : mark after = Sweep.sweep (dispatchRules services false before)
    before.pipelineSnapshot.nodeIDs (mark before)) :
  Fails after ↔ EndsFailed services before := by
  have snapshot := advances.pipelineSnapshot
  have inactive : (∀ nodeID, ¬ ActiveNode after nodeID) ↔
    ∀ nodeID ∈ before.pipelineSnapshot.nodeIDs,
      FailedNode before nodeID ∨ Attained services before nodeID := by
    refine forall_congr' fun nodeID => ?_
    rw [activeNode_iff, snapshot, advances.failedNode_iff,
      succeededNode_sweep marks, not_and, not_not]
  constructor
  · intro fails
    obtain ⟨idle, ⟨nodeID, failed⟩, leaves⟩ := fails
    simp only [snapshot, advances.failedNode_iff, succeededNode_sweep marks] at leaves
    exact ⟨inactive.1 idle, ⟨nodeID, advances.failedNode_iff.1 failed⟩, leaves⟩
  · intro ends
    obtain ⟨ended, ⟨nodeID, failed⟩, leaves⟩ := ends
    refine ⟨inactive.2 ended, ⟨nodeID, advances.failedNode_iff.2 failed⟩, ?_⟩
    simp only [snapshot, advances.failedNode_iff, succeededNode_sweep marks]
    exact leaves

end

section

variable {services : Services}

theorem resolveSourceNode_resetUnclaimed (node : NodeExecution) :
  resolveSourceNode services (resetUnclaimed node) = resolveSourceNode services node := by
  unfold resetUnclaimed
  split
  next unclaimed => simp [resolveSourceNode, unclaimed.1, NodeStatus.isFailed]
  · rfl

theorem forM_eq_ok_iff {items : List α} {body : α → Except ε PUnit} :
  items.forM body = .ok () ↔ ∀ item ∈ items, body item = .ok () := by
  induction items with
  | nil => exact iff_of_true rfl fun _ member => absurd member List.not_mem_nil
  | cons item rest ih =>
    rw [List.forall_mem_cons, ← ih]
    change (body item >>= fun _ => rest.forM body) = _ ↔ _
    cases body item with
    | error =>
      refine iff_of_false (fun ok => ?_) fun ok => ?_
      · cases ok
      · cases ok.1
    | ok => exact (and_iff_right rfl).symm

theorem executions_planJob (job : Job) :
  (planJob services job).executions = job.executions.map resetUnclaimed := by
  unfold Job.executions planJob Job.mapNodes Dict.mapValues
  rw [List.map_map, List.map_map]
  rfl

theorem discard_eq_ok_iff {result : Except ε α} :
  (discard result = .ok PUnit.unit) ↔ ∀ failure, result ≠ .error failure := by
  cases result with
  | error failure =>
    refine iff_of_false (fun ok => ?_) fun none => none failure rfl
    cases ok
  | ok =>
    refine iff_of_true rfl fun failure impossible => ?_
    cases impossible

theorem resolveSourceNodes_ok_iff {job : Job} :
  (∃ result, resolveSourceNodes services (planJob services job) = .ok result) ↔
    ∀ node ∈ job.executions, ∀ message, resolveSourceNode services node ≠ .error message := by
  have loop : (∃ result, resolveSourceNodes services (planJob services job) = .ok result) ↔
    ((planJob services job).executions.forM fun node =>
      discard (resolveSourceNode services node)) = .ok PUnit.unit := by
    constructor
    · rintro ⟨_, read⟩
      obtain ⟨_, checked, -⟩ := Program.bind_eq_ok read
      exact checked
    · intro checked
      unfold resolveSourceNodes
      rw [checked]
      exact ⟨_, rfl⟩
  rw [loop, forM_eq_ok_iff, executions_planJob, List.forall_mem_map]
  simp only [discard_eq_ok_iff, resolveSourceNode_resetUnclaimed]

end

/-- Every asset id can be read; no node execution that the call takes up and
has to dispatch holds an open initial dispatch or is failed by Redis; and the
nodes do not all end with failures at the leaves. -/
structure Restartable (services : Services) (tables : Tables) : Prop where
  readable : ∀ node ∈ tables.job.executions, ∀ message,
    resolveSourceNode services node ≠ .error message
  clear : ∀ nodeID ∈ tables.job.pipelineSnapshot.nodeIDs,
    Clear services (tables.setJob (restarted services tables.job)) nodeID
  lives : ¬ EndsFailed services (restarted services tables.job)

section

variable {services : Services} {tables : Tables}

theorem reaches_nil (start : Tables) : Reaches services start [] start :=
  ⟨.refl _, rfl, fun _ _ _ _ => rfl⟩

theorem clear_iff_finished (visits : visitNodes services true
  (buildDependencyMap tables.job.pipelineSnapshot)
  tables.job.pipelineSnapshot.nodeIDs
  (tables.setJob (restarted services tables.job)) = outcome)
  (granted : outcome.isBlocked = false) :
  (∀ nodeID ∈ tables.job.pipelineSnapshot.nodeIDs,
    Clear services (tables.setJob (restarted services tables.job)) nodeID) ↔
    outcome.isFinished = true :=
  clear_of_visits (planned_restarted services tables.job) rfl (reaches_nil _) visits granted

/-- A call of `start_job` that is granted its locks leaves the job unfailed and
no node execution with two unresolved initial dispatches exactly if the job is
restartable. -/
theorem startJob_reentry_iff {after : Tables} (unique : UniqueInitial tables.dispatches)
  (finished : startJob services tables = .finished after) :
  (after.job.status ≠ .failed ∧ UniqueInitial after.dispatches) ↔ Restartable services tables := by
  have started := started_startJob finished
  cases started with
  | unreadable _ error =>
    refine iff_of_false (fun safe => safe.1 rfl) fun restartable => ?_
    obtain ⟨_, read⟩ := resolveSourceNodes_ok_iff.2 restartable.readable
    cases error.symm.trans read
  | raised _ _ _ visits =>
    refine iff_of_false (fun safe => safe.1 rfl) fun restartable => ?_
    exact Bool.false_ne_true ((clear_iff_finished visits rfl).1 restartable.clear)
  | passed last read visits =>
    have planned : Planned (tables.setJob (restarted services tables.job)).job :=
      planned_restarted services tables.job
    have advances := advances_visitNodes planned visits rfl
    change (restarted services tables.job).Advances last.job at advances
    have marks := mark_visitNodes planned visits
    have running : last.job.status ≠ .failed := by
      rw [advances.status]
      exact show ¬ JobStatus.running = .failed by decide
    have dispatches : (maybeFinalizeJob last).dispatches = last.dispatches := by
      unfold maybeFinalizeJob
      split <;> rfl
    have kept : UniqueInitial (maybeFinalizeJob last).dispatches := by
      rw [dispatches]
      exact unique_visitNodes planned visits rfl unique
    rw [and_iff_left kept, ne_eq, maybeFinalizeJob_failed_iff running, fails_iff advances marks]
    constructor
    · intro lives
      exact ⟨resolveSourceNodes_ok_iff.1 ⟨_, read⟩, (clear_iff_finished visits rfl).2 rfl, lives⟩
    · exact fun restartable => restartable.lives

end

def singleTables : Tables where
  authority := openAuthority
  job :=
    { id := 1
      status := .pending
      pipelineSnapshot := { nodes := [plainNode "cut" "trim"], edges := [] }
      executionPlan := none
      startedAt := none
      errorMessage := none
      nodes := Dict.empty.set "cut" (pendingExecution 2 "trim" .empty)
      listed := .refl _
      distinct := by decide }
  dispatches := []

def firstStart : Outcome := startJob cachedDownload singleTables

def secondStart : Outcome := startJob cachedDownload firstStart.tables

/-- The dispatch of the first call is delivered and waits for a worker. -/
theorem secondStart_fails : firstStart = .finished firstStart.tables ∧
  secondStart = .finished secondStart.tables ∧
  secondStart.tables.job.status = .failed ∧
  secondStart.tables.job.errorMessage = some "node already has an unresolved initial dispatch" :=
  ⟨Outcome.eq_finished (by decide +kernel),
    Outcome.eq_finished (by decide +kernel), by decide +kernel,
    by decide +kernel⟩

theorem firstStart_reentry_iff : (firstStart.tables.job.status ≠ .failed ∧
  UniqueInitial firstStart.tables.dispatches) ↔
  Restartable cachedDownload singleTables :=
  startJob_reentry_iff (fun _ => Nat.zero_le 1) (show firstStart = .finished firstStart.tables from
    Outcome.eq_finished (by decide +kernel))

end VideoProcess.Python
