import VideoProcess.Python.ReceiptDispatch
import VideoProcess.Python.Restart

namespace VideoProcess.Python

open Data Program

/-! Failures reach every node that waits for them, except that a source node
without an asset fails alone. -/

abbrev PendingNode (job : Job) (nodeID : String) : Prop :=
  NodeIn job (fun status => status = .pending) nodeID

def Closed (job : Job) : Prop :=
  ∀ ancestor nodeID, Relation.TransGen job.pipelineSnapshot.Edge ancestor nodeID →
    FailedNode job ancestor → ¬ PendingNode job nodeID

def AtRest (job : Job) : Prop := (∀ nodeID, ¬ ActiveNode job nodeID) → job.status.isTerminal = true

structure Job.Spares (before after : Job) : Prop where
  pipelineSnapshot : after.pipelineSnapshot = before.pipelineSnapshot
  pending : ∀ nodeID, PendingNode after nodeID → PendingNode before nodeID
  failed : ∀ nodeID, FailedNode after nodeID → FailedNode before nodeID

theorem nodeIn_modifyNode {job : Job} {change : NodeExecution → NodeExecution}
  {keeps : ∀ node, (change node).id = node.id}
  (node : NodeIn (job.modifyNode nodeID change keeps) holds other) :
  (∃ old, job.node? other = some old ∧ holds (change old).status = true) ∨
    NodeIn job holds other := by
  obtain ⟨node, found, held⟩ := node
  rw [Job.node?_modifyNode] at found
  split at found
  · obtain ⟨old, oldFound, rfl⟩ := Option.map_eq_some_iff.1 found
    exact .inl ⟨old, oldFound, held⟩
  · exact .inr ⟨node, found, held⟩

namespace Job.Spares

variable {before after : Job}

theorem closed (spares : before.Spares after) (closed : Closed before) : Closed after := by
  intro ancestor nodeID path failed pending
  rw [spares.pipelineSnapshot] at path
  exact closed ancestor nodeID path (spares.failed ancestor failed) (spares.pending nodeID pending)

theorem of_nodes (nodes : after.nodes = before.nodes)
  (snapshot : after.pipelineSnapshot = before.pipelineSnapshot) :
  before.Spares after := by
  have same : after.node? = before.node? := by
    funext nodeID
    exact congrArg (Dict.get? · nodeID) nodes
  refine ⟨snapshot, ?_, ?_⟩
  · rintro _ ⟨node, found, status⟩
    exact ⟨node, same ▸ found, status⟩
  · rintro _ ⟨node, found, status⟩
    exact ⟨node, same ▸ found, status⟩

theorem of_advances (advances : before.Advances after) : before.Spares after := by
  refine ⟨advances.pipelineSnapshot, ?_, ?_⟩
  · rintro _ ⟨_, found, pending⟩
    obtain ⟨old, oldFound, step⟩ := advances.origin found
    exact ⟨old, oldFound, decide_eq_true (step.pending (of_decide_eq_true pending))⟩
  · exact fun nodeID => advances.failedNode_iff.1

section

variable (job : Job) (nodeID : String) (change : NodeExecution → NodeExecution)
  (keeps : ∀ node, (change node).id = node.id)

include job nodeID change keeps

theorem modifyNode {status : NodeStatus} (sets : ∀ node, (change node).status = status)
  (spared : status ≠ .pending ∧ status.isFailed = false) :
  job.Spares (job.modifyNode nodeID change keeps) := by
  have elsewhere : ∀ (holds : NodeStatus → Bool) other, holds status = false →
    NodeIn (job.modifyNode nodeID change keeps) holds other →
    NodeIn job holds other := by
    intro holds other never node
    obtain ⟨old, -, held⟩ | same := nodeIn_modifyNode node
    · rw [sets old, never] at held
      cases held
    · exact same
  exact ⟨rfl, fun other => elsewhere _ other (decide_eq_false spared.1),
    fun other => elsewhere _ other spared.2⟩

theorem keepStatus (same : ∀ node, (change node).status = node.status) :
  job.Spares (job.modifyNode nodeID change keeps) := by
  have kept : ∀ (holds : NodeStatus → Bool) other,
    NodeIn (job.modifyNode nodeID change keeps) holds other →
    NodeIn job holds other := by
    intro holds other node
    obtain ⟨old, found, held⟩ | unchanged := nodeIn_modifyNode node
    · exact ⟨old, found, same old ▸ held⟩
    · exact unchanged
  exact ⟨rfl, kept _, kept _⟩

end

end Job.Spares

structure Sound (job : Job) : Prop where
  formed : job.pipelineSnapshot.WellFormed
  planned : job.status = .running → Planned job
  closed : Closed job

structure Settled (job : Job) : Prop extends Sound job where
  atRest : AtRest job

namespace Sound

variable {before after : Job} (sound : Sound before)

include sound

theorem of_spares (spares : before.Spares after)
  (planned : after.status = .running → Planned after) : Sound after where
  formed := spares.pipelineSnapshot ▸ sound.formed
  planned := planned
  closed := spares.closed sound.closed

theorem modifyNode (nodeID : String) (change : NodeExecution → NodeExecution)
  (keeps : ∀ node, (change node).id = node.id) {status : NodeStatus}
  (sets : ∀ node, (change node).status = status)
  (spared : status ≠ .pending ∧ status.isFailed = false) :
  Sound (before.modifyNode nodeID change keeps) :=
  sound.of_spares (.modifyNode before nodeID change keeps sets spared) sound.planned

theorem advance (advances : before.Advances after) : Sound after :=
  sound.of_spares (.of_advances advances) fun running =>
    (sound.planned (advances.status ▸ running)).of_advances advances

theorem finalize (final : Final before after) : Settled after where
  toSound := sound.of_spares (.of_nodes final.nodes final.pipelineSnapshot) fun running => by
    have terminal := final.terminal
    rw [running] at terminal
    cases terminal
  atRest := fun _ => final.terminal

end Sound

theorem settled_maybeFinalizeJob {tables : Tables} (sound : Sound tables.job) :
  Settled (maybeFinalizeJob tables).job := by
  obtain ⟨⟨nodeID, active⟩, same⟩ | ⟨_, kept, same⟩ := maybeFinalizeJob_cases tables
  · rw [same]
    exact ⟨sound, fun idle => absurd active (idle nodeID)⟩
  · rw [same]
    exact sound.finalize kept

theorem Sound.settled_of_active (sound : Sound job)
  (active : ActiveNode job nodeID) : Settled job :=
  ⟨sound, fun idle => absurd active (idle nodeID)⟩

section

variable {services : Services} {tables after : Tables}

theorem requireActiveExecutionAuthority_ok
  (active : requireActiveExecutionAuthority authority jobStatuses (some nodeStatuses) = .ok ()) :
  authority.jobStatus ∈ jobStatuses ∧
    ∃ node, authority.node = some node ∧ node.status ∈ nodeStatuses := by
  unfold requireActiveExecutionAuthority at active
  dsimp only at active
  split_ifs at active with _ _ _ _ _ job node
  refine ⟨job, ?_⟩
  cases held : authority.node with
  | none => simp [held] at node
  | some locked => exact ⟨locked, rfl, by simpa [held] using node⟩

variable {job : Job} {claim : NodeExecutionClaim} {nodeID : String} {node : NodeExecution}

theorem findNode?_eq_some (found : findNode? job nodeExecution = some entry) :
  job.node? entry.1 = some entry.2 := Dict.get?_eq_some_iff.2 (List.mem_of_find?_eq_some found)

theorem lockClaimedNode_ok (locked : lockClaimedNode tables claim status = .ok entry) :
  tables.job.node? entry.1 = some entry.2 ∧
    tables.job.status = .running ∧ entry.2.status = status := by
  unfold lockClaimedNode at locked
  split at locked
  · cases locked
  next found =>
    obtain ⟨_, active, rest⟩ := bind_eq_ok locked
    obtain ⟨_, -, same⟩ := bind_eq_ok rest
    cases same
    obtain ⟨running, _, held, member⟩ := requireActiveExecutionAuthority_ok active
    cases held
    exact ⟨findNode?_eq_some found, List.mem_singleton.1 running, List.mem_singleton.1 member⟩

theorem Sound.dispatchReadyNodes (sound : Sound tables.job) (running : tables.job.status = .running)
  (finished : Python.dispatchReadyNodes services guardInitialLaunch
    (plannedDependencies tables.job) tables = .finished after) :
  Settled after.job := by
  have planned := sound.planned running
  have uncancelled : ¬ tables.job.status = .cancelled := by
    rw [running]
    decide
  rw [Python.dispatchReadyNodes, if_neg uncancelled, planned] at finished
  obtain ⟨last, visits, final⟩ := Outcome.andThen_eq_finished finished
  cases final
  have advances : tables.job.Advances last.job := advances_visitNodes planned visits rfl
  exact settled_maybeFinalizeJob (sound.advance advances)

theorem settled_onNodeCompleted (sound : Sound tables.job)
  (finished : onNodeCompleted services artifact claim tables =
    .finished after) : Settled after.job := by
  unfold onNodeCompleted at finished
  split at finished
  · cases finished
  · split at finished
    · cases finished
    next entry locked =>
      obtain ⟨-, running, -⟩ := lockClaimedNode_ok locked
      have completed : Sound (tables.modifyNode entry.1 (completeNode artifact) fun _ => rfl).job :=
        sound.modifyNode entry.1 (completeNode artifact) (fun _ => rfl) (fun _ => rfl) (by decide)
      dsimp only at finished
      split at finished
      · cases finished
      · split at finished
        next finalized =>
          cases finished
          exact completed.finalize (final_of_applyJobFinalization finalized)
        · exact completed.dispatchReadyNodes running finished

theorem mem_downstreamNodeIDs (planned : Planned job)
  (formed : job.pipelineSnapshot.WellFormed) {failed : String} :
  nodeID ∈ downstreamNodeIDs failed (plannedDependencies job) ↔
    Relation.TransGen job.pipelineSnapshot.Edge failed nodeID := by
  have edges : (fun source target => source ∈
    (buildDependencyMap job.pipelineSnapshot).getD target []) =
    job.pipelineSnapshot.Edge := by
    funext source target
    apply propext
    by_cases member : target ∈ job.pipelineSnapshot.nodeIDs
    · exact mem_getD_buildDependencyMap job.unique member
    · have missing : (buildDependencyMap job.pipelineSnapshot).get? target = none := by
        rw [Dict.get?_eq_none_iff, keys_buildDependencyMap job.unique]
        exact member
      rw [Dict.getD, missing]
      refine iff_of_false List.not_mem_nil ?_
      rintro ⟨edge, listed, -, rfl⟩
      exact member (formed.targets edge listed)
  rw [planned, mem_downstreamNodeIDs_iff, edges]

theorem id_failNode (error : String) (node : NodeExecution) :
  (failNode error node).id = node.id := rfl

def failedJob (job : Job) (nodeID error message : String) : Job :=
  { skipDownstream (job.modifyNode nodeID (failNode error) (id_failNode error)) nodeID with
    errorMessage := some message }

section

variable {job : Job} {failed nodeID error : String}

theorem node?_failedJob : (failedJob job failed error message).node? nodeID =
  (job.node? nodeID).map fun node =>
    let node := if nodeID = failed then failNode error node else node
    if nodeID ∈ downstreamNodeIDs failed (plannedDependencies job) then
      skipNode node
    else node := by
  change (skipDownstream _ failed).node? nodeID = _
  rw [skipDownstream, Job.node?_mapNodes, Job.node?_modifyNode]
  by_cases same : nodeID = failed
  · simp only [if_pos same]
    rw [Option.map_map]
    rfl
  · simp only [if_neg same]
    rfl

theorem skipNode_ne_pending (node : NodeExecution) : (skipNode node).status ≠ .pending := by
  unfold skipNode
  split
  · exact NodeStatus.noConfusion
  · assumption

theorem pendingNode_failedJob (pending : PendingNode (failedJob job failed error message) nodeID) :
  PendingNode job nodeID ∧ nodeID ∉ downstreamNodeIDs failed (plannedDependencies job) := by
  obtain ⟨node, found, status⟩ := pending
  rw [node?_failedJob] at found
  obtain ⟨old, oldFound, rfl⟩ := Option.map_eq_some_iff.1 found
  have status := of_decide_eq_true status
  by_cases skipped : nodeID ∈ downstreamNodeIDs failed (plannedDependencies job)
  · rw [if_pos skipped] at status
    exact absurd status (skipNode_ne_pending _)
  · simp only [if_neg skipped] at status
    split at status
    · cases status
    · exact ⟨⟨old, oldFound, decide_eq_true status⟩, skipped⟩

theorem failedNode_failedJob (fails : FailedNode (failedJob job failed error message) nodeID) :
  FailedNode job nodeID ∨ nodeID = failed ∨
    nodeID ∈ downstreamNodeIDs failed (plannedDependencies job) := by
  obtain ⟨node, found, status⟩ := fails
  rw [node?_failedJob] at found
  obtain ⟨old, oldFound, rfl⟩ := Option.map_eq_some_iff.1 found
  by_cases skipped : nodeID ∈ downstreamNodeIDs failed (plannedDependencies job)
  · exact .inr (.inr skipped)
  · simp only [if_neg skipped] at status
    split at status
    · exact .inr (.inl ‹_›)
    · exact .inl ⟨old, oldFound, status⟩

theorem Sound.failedJob (sound : Sound job) (running : job.status = .running)
  (failed error message : String) :
  Sound (failedJob job failed error message) where
  formed := sound.formed
  planned := sound.planned
  closed := by
    have downstream : ∀ {nodeID : String}, nodeID ∈
      downstreamNodeIDs failed (plannedDependencies job) ↔
      Relation.TransGen job.pipelineSnapshot.Edge failed nodeID :=
      mem_downstreamNodeIDs (sound.planned running) sound.formed
    intro ancestor nodeID path fails pending
    obtain ⟨pending, spared⟩ := pendingNode_failedJob pending
    rw [downstream] at spared
    obtain earlier | rfl | reached := failedNode_failedJob fails
    · exact sound.closed ancestor nodeID path earlier pending
    · exact spared path
    · exact spared ((downstream.1 reached).trans path)

end

theorem Sound.failJobNode (sound : Sound tables.job)
  (running : tables.job.status = .running) (nodeID : String)
  (node : NodeExecution) (error : String) :
  Settled (failJobNode tables nodeID node error).job :=
  settled_maybeFinalizeJob
    (show Sound (tables.setJob (Python.failedJob tables.job nodeID error _)).job
      from sound.failedJob running nodeID error _)

section

variable (found : job.node? nodeID = some node) (change : NodeExecution → NodeExecution)
  (keeps : ∀ node, (change node).id = node.id)

include found change keeps

theorem node?_modifyNode_self :
  (job.modifyNode nodeID change keeps).node? nodeID = some (change node) := by
  rw [Job.node?_modifyNode, if_pos rfl, found, Option.map_some]

theorem activeNode_modifyNode (active : (change node).status.isActive = true) :
  ActiveNode (job.modifyNode nodeID change keeps) nodeID :=
  ⟨change node, node?_modifyNode_self found change keeps, active⟩

end

section

variable (sound : Sound tables.job)

include sound

theorem Sound.retryNode (found : tables.job.node? nodeID = some node) :
  Settled (tables.modifyNode nodeID retryNode fun _ => rfl).job :=
  (sound.modifyNode nodeID Python.retryNode (fun _ => rfl) (fun _ => rfl)
    (by decide)).settled_of_active
    (activeNode_modifyNode found Python.retryNode (fun _ => rfl) rfl)

theorem settled_onNodeFailed
  (finished : onNodeFailed services error claim tables = .finished after) :
  Settled after.job := by
  unfold onNodeFailed at finished
  split at finished
  · cases finished
  · split at finished
    · cases finished
    next entry locked =>
      obtain ⟨found, running, -⟩ := lockClaimedNode_ok locked
      split at finished
      · dsimp only at finished
        split at finished
        · cases finished
        · split at finished
          · cases finished
          · cases finished
            exact sound.retryNode found
      · cases finished
        exact sound.failJobNode running entry.1 entry.2 error

theorem settled_applyRegisteredCompletion (running : tables.job.status = .running)
  (applied : applyRegisteredCompletion services receipt outputArtifactID
    tables nodeID node = .ok after) : Settled after.job := by
  unfold applyRegisteredCompletion at applied
  obtain ⟨artifact, -, applied⟩ := bind_eq_ok applied
  have completed : Sound (tables.modifyNode nodeID (completeNode artifact) fun _ => rfl).job :=
    sound.modifyNode nodeID (completeNode artifact) (fun _ => rfl) (fun _ => rfl) (by decide)
  obtain ⟨_, -, applied⟩ := bind_eq_ok applied
  split at applied
  next finalized =>
    cases applied
    exact completed.finalize (final_of_applyJobFinalization finalized)
  · obtain ⟨_, dispatched, same⟩ := bind_eq_ok applied
    cases same
    rw [completed.planned running] at dispatched
    obtain ⟨advances, -⟩ := stageReceiptDispatches_ok dispatched
    exact settled_maybeFinalizeJob (completed.advance advances)

theorem settled_applyRegisteredFailure (found : tables.job.node? nodeID = some node)
  (running : tables.job.status = .running)
  (applied : applyRegisteredFailure services receipt error tables nodeID
    node = .ok after) : Settled after.job := by
  unfold applyRegisteredFailure at applied
  dsimp only at applied
  split at applied
  · obtain ⟨_, dispatched, applied⟩ := bind_eq_ok applied
    obtain ⟨_, -, same⟩ := bind_eq_ok applied
    cases dispatched
    cases same
    have retried := sound.retryNode found
    have released := Job.Spares.keepStatus
      (tables.modifyNode nodeID retryNode fun _ => rfl).job nodeID
      releaseClaim (fun _ => rfl) fun _ => rfl
    have queued := node?_modifyNode_self found retryNode fun _ => rfl
    have active := activeNode_modifyNode queued releaseClaim (fun _ => rfl) rfl
    exact (retried.toSound.of_spares released retried.planned).settled_of_active active
  · cases applied
    exact sound.failJobNode running nodeID node _

theorem settled_applyRegisteredWorkerEvent
  (applied : applyRegisteredWorkerEvent services receipt event tables =
    .ok after) : Settled after.job := by
  unfold applyRegisteredWorkerEvent at applied
  split at applied
  · cases applied
  next found =>
    dsimp only at applied
    split at applied
    · cases applied
    next current =>
      rw [not_or, not_not] at current
      split at applied
      · exact settled_applyRegisteredCompletion sound current.1 applied
      · exact settled_applyRegisteredFailure sound (findNode?_eq_some found) current.1 applied

end

end

def Unclaimed (node : NodeExecution) : Prop :=
  node.status = .queued ∧ node.workerID = none ∧ node.startedAt = none

/-- No unclaimed queued node has a failed ancestor, and no source node that
the call cannot resolve has a descendant to be run. -/
structure Contained (services : Services) (job : Job) : Prop where
  queued : ∀ ancestor nodeID node, Relation.TransGen job.pipelineSnapshot.Edge ancestor nodeID →
    FailedNode job ancestor → job.node? nodeID = some node → ¬ Unclaimed node
  sources : ∀ source nodeID old node message,
    Relation.TransGen job.pipelineSnapshot.Edge source nodeID →
    job.node? source = some old →
    resolveSourceNode services old = .ok (.failed message) →
    job.node? nodeID = some node → node.nodeType ≠ "source" →
    node.status ≠ .pending ∧ ¬ Unclaimed node

section

theorem resetUnclaimed_pending (pending : (resetUnclaimed node).status = .pending) :
  node.status = .pending ∨ Unclaimed node := by
  unfold resetUnclaimed at pending
  split at pending
  · exact .inr ‹_›
  · exact .inl pending

theorem isFailed_resetUnclaimed (node : NodeExecution) :
  (resetUnclaimed node).status.isFailed = node.status.isFailed := by
  unfold resetUnclaimed
  split
  next unclaimed =>
    rw [unclaimed.1]
    rfl
  · rfl

theorem resolved_pending (readable : ∀ message, resolveSourceNode services node ≠ .error message)
  (pending : (resolved services node).status = .pending) :
  node.nodeType ≠ "source" ∧ node.status = .pending := by
  unfold resolved at pending
  cases outcome : resolveSourceNode services node with
  | error message => exact absurd outcome (readable message)
  | ok resolution =>
    rw [outcome] at pending
    cases resolution with
    | failed | succeeded => cases pending
    | unchanged =>
      refine ⟨?_, pending⟩
      intro source
      unfold resolveSourceNode at outcome
      rw [if_neg (not_not.2 source), if_neg (by simp [show node.status =
        .pending from pending]), if_neg (by simp [show node.status =
        .pending from pending, NodeStatus.isFailed])] at outcome
      dsimp only at outcome
      split at outcome
      · cases outcome
      · obtain ⟨_, -, rest⟩ := bind_eq_ok outcome
        split at rest <;> cases rest

theorem resolved_failed (failed : (resolved services node).status.isFailed = true) :
  node.status.isFailed = true ∨
    ∃ message, resolveSourceNode services node = .ok (.failed message) := by
  unfold resolved at failed
  cases outcome : resolveSourceNode services node with
  | error =>
    rw [outcome] at failed
    exact .inl failed
  | ok resolution =>
    rw [outcome] at failed
    cases resolution with
    | failed message => exact .inr ⟨message, rfl⟩
    | succeeded => cases failed
    | unchanged => exact .inl failed

theorem node?_planJob {nodeID : String} : (planJob services job).node? nodeID =
  (job.node? nodeID).map resetUnclaimed :=
  Job.node?_mapNodes job nodeID (fun _ => resetUnclaimed) fun _ =>
    id_resetUnclaimed

theorem node?_restarted {nodeID : String} : (restarted services job).node? nodeID =
  (job.node? nodeID).map fun node =>
    resolved services (resetUnclaimed node) := by
  rw [restarted, Job.node?_mapNodes, node?_planJob, Option.map_map]
  rfl

theorem not_pending_below (closed : Closed job) (contained : Contained services job)
  (path : Relation.TransGen job.pipelineSnapshot.Edge ancestor nodeID)
  (fails : FailedNode job ancestor) (found : job.node? nodeID = some node)
  (pending : (resetUnclaimed node).status = .pending) : False := by
  obtain waiting | unclaimed := resetUnclaimed_pending pending
  · exact closed ancestor nodeID path fails ⟨node, found, decide_eq_true waiting⟩
  · exact contained.queued ancestor nodeID node path fails found unclaimed

theorem closed_planJob (closed : Closed job) (contained : Contained services job) :
  Closed (planJob services job) := by
  rintro ancestor nodeID path ⟨_, foundAbove, failed⟩ ⟨below, foundBelow, pending⟩
  rw [node?_planJob] at foundAbove foundBelow
  obtain ⟨old, oldAbove, rfl⟩ := Option.map_eq_some_iff.1 foundAbove
  obtain ⟨node, oldBelow, rfl⟩ := Option.map_eq_some_iff.1 foundBelow
  rw [isFailed_resetUnclaimed] at failed
  exact not_pending_below closed contained path ⟨old, oldAbove, failed⟩ oldBelow
    (of_decide_eq_true pending)

theorem closed_restarted (closed : Closed job) (contained : Contained services job)
  (readable : ∀ node ∈ job.executions, ∀ message,
    resolveSourceNode services node ≠ .error message) :
  Closed (restarted services job) := by
  rintro ancestor nodeID path ⟨_, foundAbove, failed⟩ ⟨below, foundBelow, pending⟩
  rw [node?_restarted] at foundAbove foundBelow
  obtain ⟨old, oldAbove, rfl⟩ := Option.map_eq_some_iff.1 foundAbove
  obtain ⟨node, oldBelow, rfl⟩ := Option.map_eq_some_iff.1 foundBelow
  have read : ∀ message, resolveSourceNode services (resetUnclaimed node) ≠ .error message := by
    rw [resolveSourceNode_resetUnclaimed]
    exact readable node (Job.mem_executions.2 ⟨nodeID, oldBelow⟩)
  obtain ⟨type, waiting⟩ := resolved_pending read (of_decide_eq_true pending)
  have kind : node.nodeType ≠ "source" := by
    unfold resetUnclaimed at type
    split at type <;> exact type
  obtain earlier | ⟨message, unresolved⟩ := resolved_failed failed
  · rw [isFailed_resetUnclaimed] at earlier
    exact not_pending_below closed contained path ⟨old, oldAbove, earlier⟩ oldBelow waiting
  · rw [resolveSourceNode_resetUnclaimed] at unresolved
    obtain ⟨idle, claimed⟩ := contained.sources ancestor nodeID old node message
      path oldAbove unresolved oldBelow kind
    obtain waiting | unclaimed := resetUnclaimed_pending waiting
    · exact idle waiting
    · exact claimed unclaimed

variable {after : Tables}

theorem settled_startJob (sound : Sound tables.job) (contained : Contained services tables.job)
  (finished : startJob services tables = .finished after) :
  Settled after.job := by
  have started := started_startJob finished
  have failedRest : ∀ {job : Job}, job.status = .failed → AtRest job :=
    fun failed _ => by rw [failed]; rfl
  have planned : Planned (tables.setJob (restarted services tables.job)).job :=
    planned_restarted services tables.job
  have prepared : ∀ {result : Job}, resolveSourceNodes services
    (planJob services tables.job) = .ok result →
    Sound (restarted services tables.job) := by
    intro result read
    refine ⟨sound.formed, fun _ => planned, ?_⟩
    exact closed_restarted sound.closed contained (resolveSourceNodes_ok_iff.1 ⟨_, read⟩)
  cases started with
  | unreadable =>
    refine ⟨⟨sound.formed, fun running => ?_, ?_⟩, failedRest rfl⟩
    · cases running
    · exact closed_planJob sound.closed contained
  | raised _ committed read visits =>
    have advances := advances_visitNodes planned visits rfl
    have advanced : Sound committed.job := (prepared read).advance advances
    refine ⟨⟨advanced.formed, fun running => ?_, ?_⟩, failedRest rfl⟩
    · cases running
    · exact advanced.closed
  | passed _ read visits =>
    have advances := advances_visitNodes planned visits rfl
    exact settled_maybeFinalizeJob ((prepared read).advance advances)

end

def claimNode (claim : NodeExecutionClaim) (node : NodeExecution) : NodeExecution :=
  { node with
    status := .running
    workerID := some claim.workerID
    workerRegistrationID := claim.workerRegistrationID
    workerLeaseEpoch := claim.workerLeaseEpoch
    startedAt := some claim.startedAt }

/-- The operations of the engine that return with their authority granted, and
the claims of the workers between them. -/
inductive EngineStep : Tables → Tables → Prop
  | started {tables after : Tables} (services : Services)
    (contained : Contained services tables.job)
    (finished : startJob services tables = .finished after) :
    EngineStep tables after
  | completed {tables after : Tables} (services : Services) (artifact : Uuid)
    (claim : NodeExecutionClaim)
    (finished : onNodeCompleted services artifact claim tables = .finished after) :
    EngineStep tables after
  | failed {tables after : Tables} (services : Services) (error : String)
    (claim : NodeExecutionClaim)
    (finished : onNodeFailed services error claim tables = .finished after) :
    EngineStep tables after
  | registered {tables after : Tables} (services : Services) (receipt : Uuid)
    (event : RegisteredWorkerEvent)
    (applied : applyRegisteredWorkerEvent services receipt event tables = .ok after) :
    EngineStep tables after
  | claimed {tables : Tables} {nodeID : String} {node : NodeExecution}
    (claim : NodeExecutionClaim)
    (found : tables.job.node? nodeID = some node)
    (queued : node.status = .queued) :
    EngineStep tables (tables.modifyNode nodeID (claimNode claim) fun _ => rfl)

structure Fresh (job : Job) : Prop where
  formed : job.pipelineSnapshot.WellFormed
  status : job.status ≠ .running
  pending : ∀ nodeID node, job.node? nodeID = some node → node.status = .pending

theorem Fresh.sound (fresh : Fresh job) : Sound job where
  formed := fresh.formed
  planned running := absurd running fresh.status
  closed := by
    rintro ancestor _ - ⟨node, found, failed⟩
    rw [fresh.pending ancestor node found] at failed
    cases failed

theorem EngineStep.settled {before after : Tables}
  (step : EngineStep before after) (sound : Sound before.job) :
  Settled after.job := by
  cases step with
  | started _ contained finished => exact settled_startJob sound contained finished
  | completed _ _ _ finished => exact settled_onNodeCompleted sound finished
  | failed _ _ _ finished => exact settled_onNodeFailed sound finished
  | registered _ _ _ applied => exact settled_applyRegisteredWorkerEvent sound applied
  | claimed claim found =>
    exact (sound.modifyNode _ (claimNode claim) (fun _ => rfl)
      (fun _ => rfl) (by decide)).settled_of_active
      (activeNode_modifyNode found (claimNode claim) (fun _ => rfl) rfl)

end VideoProcess.Python
