import VideoProcess.Go.Effect

namespace VideoProcess.Go

open Data Program

/-! The record of one job while requests change it. -/

variable {world : World} {job : JobView} {stale : Uuid → Bool}

def NodeExecutionView.fixed (node : NodeExecutionView) :
  Uuid × String × String × String × Dict String ConfigValue :=
  (node.id, node.nodeID, node.nodeType, node.nodeLabel, node.nodeConfig)

structure JobView.Fixed where
  id : Uuid
  orchestratorOwner : Owner
  pipelineSnapshot : PipelineDefinition
  nodes : List (Uuid × String × String × String × Dict String ConfigValue)

namespace JobView

def fixed (job : JobView) : Fixed :=
  { id := job.id
    orchestratorOwner := job.orchestratorOwner
    pipelineSnapshot := job.pipelineSnapshot
    nodes := job.nodes.map NodeExecutionView.fixed }

theorem fixed_changeNodes {selected : NodeExecutionView → Bool}
  {change : NodeExecutionView → NodeExecutionView}
  (keeps : ∀ node, (change node).fixed = node.fixed) :
  (job.changeNodes selected change).fixed = job.fixed := by
  simp only [fixed, changeNodes, mapNodes, List.map_map, Fixed.mk.injEq, true_and]
  refine List.map_congr_left fun node _ => ?_
  simp only [Function.comp_apply]
  split
  · exact keeps node
  · rfl

theorem fixed_updated (call : Call) (result : call.Result) :
  (job.updated stale call result).fixed = job.fixed := by
  cases call with
  | claimGoJobPlanning jobID executionPlan =>
    simp only [updated]
    repeat' split
    all_goals rfl
  | markGoNodeQueued nodeExecutionID inputArtifactIDs =>
    simp only [updated]
    split
    · exact fixed_changeNodes fun _ => rfl
    · rfl
  | markNodeRunning nodeExecutionID workerID => exact fixed_changeNodes fun _ => rfl
  | cancelJob jobID =>
    simp only [updated]
    split
    · exact @fixed_changeNodes job (fun node => node.status.isActive)
        (fun node => { node with status := .cancelled }) fun _ => rfl
    · rfl
  | createGoJob => rfl
  | getJobDetail => rfl
  | getVideoScheduleAuthority => rfl
  | listRecoverableGoJobs => rfl
  | dispatch => rfl
  | _ =>
    simp only [updated]
    split
    · first
        | rfl
        | exact fixed_changeNodes fun _ => rfl
    · rfl

theorem fixed_after (call : Call) (reply : Except String call.Result) :
  (job.after stale call reply).fixed = job.fixed := by
  cases reply with
  | ok result => exact fixed_updated call result
  | error => rfl

variable {other : JobView}

theorem isGo_of_fixed (same : other.fixed = job.fixed) : other.isGo = job.isGo := by
  rw [isGo, isGo]
  have owner := congrArg Fixed.orchestratorOwner same
  simp only [fixed] at owner
  simp only [owner]

theorem exists_of_fixed (same : other.fixed = job.fixed)
  {node : NodeExecutionView} (member : node ∈ other.nodes) :
  ∃ twin ∈ job.nodes, twin.id = node.id ∧ twin.nodeID = node.nodeID := by
  have nodes : other.nodes.map NodeExecutionView.fixed = job.nodes.map NodeExecutionView.fixed :=
    congrArg Fixed.nodes same
  have listed := List.mem_map_of_mem (f := NodeExecutionView.fixed) member
  rw [nodes, List.mem_map] at listed
  obtain ⟨twin, present, equal⟩ := listed
  exact ⟨twin, present, congrArg Prod.fst equal, congrArg (fun columns => columns.2.1) equal⟩

end JobView

/-- What holds of the record of every job: its rows are those of the snapshot,
and its plan is the one planning computes from it. -/
structure JobView.Sound (job : JobView) : Prop where
  ids : (job.nodes.map NodeExecutionView.id).Nodup
  nodeIDs : (job.nodes.map NodeExecutionView.nodeID).Perm job.pipelineSnapshot.nodeIDs
  formed : job.pipelineSnapshot.WellFormed
  planned : ∀ plan, job.executionPlan = some plan → plan = planFor job.pipelineSnapshot

namespace JobView

theorem Fresh.sound (fresh : job.Fresh snapshot) (found : jobDetail database jobID = some job)
  (formed : snapshot.WellFormed) : job.Sound :=
  ⟨nodup_nodes_jobDetail found, fresh.snapshot_eq ▸ fresh.nodeIDs,
    fresh.snapshot_eq ▸ formed, by simp [fresh.unplanned]⟩

def Ready (job : JobView) (nodeID : String) : Prop :=
  ∀ upstream ∈ job.nodes, job.pipelineSnapshot.Edge upstream.nodeID nodeID →
    upstream.status = .succeeded

namespace Sound

variable (sound : job.Sound)

include sound

theorem dependencies : dependenciesForJob job = dependencyMap job.pipelineSnapshot := by
  unfold dependenciesForJob
  split
  next plan planned =>
    rw [sound.planned plan planned]
    rfl
  · rfl

variable {left right node : NodeExecutionView}

theorem eq_of_id (leftMember : left ∈ job.nodes)
  (rightMember : right ∈ job.nodes) (same : left.id = right.id) :
  left = right := List.inj_on_of_nodup_map sound.ids leftMember rightMember same

theorem eq_of_nodeID (leftMember : left ∈ job.nodes)
  (rightMember : right ∈ job.nodes) (same : left.nodeID = right.nodeID) :
  left = right :=
  List.inj_on_of_nodup_map (sound.nodeIDs.nodup_iff.2 sound.formed.unique)
    leftMember rightMember same

theorem findNodeByExecutionID_eq (member : node ∈ job.nodes) :
  findNodeByExecutionID job.nodes node.id = some node := by
  unfold findNodeByExecutionID
  cases found : job.nodes.find? (fun other => decide (other.id = node.id)) with
  | none =>
    have absent := List.find?_eq_none.1 found node member
    simp at absent
  | some other =>
    have same : other.id = node.id := by simpa using List.find?_some found
    rw [sound.eq_of_id (List.mem_of_find?_eq_some found) member same]

theorem nodeByNodeID_eq (member : node ∈ job.nodes) :
  nodeByNodeID job.nodes node.nodeID = some node := by
  unfold nodeByNodeID
  cases found : job.nodes.reverse.find? (fun other => decide (other.nodeID = node.nodeID)) with
  | none =>
    have absent := List.find?_eq_none.1 found node (List.mem_reverse.2 member)
    simp at absent
  | some other =>
    have same : other.nodeID = node.nodeID := by simpa using List.find?_some found
    rw [sound.eq_of_nodeID (List.mem_reverse.1 (List.mem_of_find?_eq_some found)) member same]

theorem exists_node (member : nodeID ∈ job.pipelineSnapshot.nodeIDs) :
  ∃ node ∈ job.nodes, node.nodeID = nodeID := List.mem_map.1 (sound.nodeIDs.mem_iff.2 member)

theorem dependenciesSucceeded_iff : dependenciesSucceeded job.nodes
  ((dependencyMap job.pipelineSnapshot).getD nodeID []) = true ↔
  job.Ready nodeID := by
  simp only [dependenciesSucceeded, List.all_eq_true, mem_dependencyMap]
  constructor
  · intro succeeded upstream member edge
    have holds := succeeded _ edge
    rw [sound.nodeByNodeID_eq member] at holds
    simpa using holds
  · intro ready dependency edge
    obtain ⟨pipelineEdge, present, rfl, rfl⟩ := edge
    obtain ⟨upstream, member, named⟩ := sound.exists_node (sound.formed.sources _ present)
    rw [← named, sound.nodeByNodeID_eq member]
    simpa using ready upstream member ⟨pipelineEdge, present, named.symm, rfl⟩

end Sound

end JobView

variable {node : NodeExecutionView}

theorem nodeByNodeID_mem (found : nodeByNodeID nodes nodeID = some node) :
  node ∈ nodes ∧ node.nodeID = nodeID :=
  ⟨List.mem_reverse.1 (List.mem_of_find?_eq_some found), by simpa using List.find?_some found⟩

theorem findNodeByExecutionID_mem {id : Uuid} (found : findNodeByExecutionID nodes id = some node) :
  node ∈ nodes ∧ node.id = id :=
  ⟨List.mem_of_find?_eq_some found, by simpa using List.find?_some found⟩

def Call.Concerns (job : JobView) : Call → Prop
  | .createGoJob _ | .setVideoScheduleState _ | .openVideoScheduleForJob _ => False
  | .getJobDetail _ | .getVideoScheduleAuthority | .listRecoverableGoJobs
  | .dispatch _ => True
  | .createSourceArtifact jobID _ _ | .claimGoJobPlanning jobID _
  | .markGoJobRunning jobID | .markGoJobWaitingWindow jobID
  | .markGoNodeSucceeded jobID _ _ | .markGoNodeFailed jobID _ _
  | .incrementGoNodeRetry jobID _ | .skipGoDownstreamNodes jobID _
  | .finalizeGoJob jobID _ _ _ | .resetStaleGoNodes jobID _
  | .cancelJob jobID => jobID = job.id
  | .markGoNodeQueued nodeExecutionID _
  | .releaseGoNodeQueueClaim nodeExecutionID
  | .markNodeRunning nodeExecutionID _ => ∃ node ∈ job.nodes, node.id = nodeExecutionID

theorem nodes_disjoint {left right : JobView} (leftFound : jobDetail database left.id = some left)
  (rightFound : jobDetail database right.id = some right)
  (different : left.id ≠ right.id) (leftMember : leftNode ∈ left.nodes)
  (rightMember : rightNode ∈ right.nodes) :
  leftNode.id ≠ rightNode.id := by
  intro same
  obtain ⟨_, leftPresent, leftJob, rfl⟩ := (mem_nodes_jobDetail leftFound).1 leftMember
  obtain ⟨_, rightPresent, rightJob, rfl⟩ := (mem_nodes_jobDetail rightFound).1 rightMember
  have rows := database.nodeExecutions.eq_of_key_eq leftPresent rightPresent same
  rw [← leftJob, ← rightJob, rows] at different
  exact different rfl

namespace JobView

theorem after_elsewhere {other : JobView} (different : other.id ≠ job.id)
  (disjoint : ∀ node ∈ job.nodes, ∀ otherNode ∈ other.nodes, node.id ≠ otherNode.id)
  {call : Call} (concerns : call.Concerns job)
  (reply : Except String call.Result) :
  other.after stale call reply = other := by
  cases reply with
  | error => rfl
  | ok =>
    cases call with
    | createGoJob | setVideoScheduleState => exact concerns.elim
    | openVideoScheduleForJob => exact concerns.elim
    | getJobDetail | getVideoScheduleAuthority | listRecoverableGoJobs => rfl
    | dispatch => rfl
    | markGoNodeQueued | releaseGoNodeQueueClaim =>
      obtain ⟨node, member, rfl⟩ := concerns
      simp only [after, updated]
      split
      · refine changeNodes_none fun otherNode otherMember => ?_
        exact decide_eq_false fun selected =>
          disjoint node member otherNode otherMember selected.1.symm
      · rfl
    | markNodeRunning =>
      obtain ⟨node, member, rfl⟩ := concerns
      refine changeNodes_none fun otherNode otherMember => ?_
      exact decide_eq_false fun selected =>
        disjoint node member otherNode otherMember selected.symm
    | _ =>
      cases concerns
      exact if_neg fun selected => different selected.1

end JobView

variable {call : Call}

theorem exec_elsewhere (env : Env) (found : jobDetail world.database job.id = some job)
  (concerns : call.Concerns job) (different : otherID ≠ job.id) :
  jobDetail (exec env call world).2.database otherID = jobDetail world.database otherID := by
  cases present : jobDetail world.database otherID with
  | none =>
    have kept : ∀ snapshot, call ≠ .createGoJob snapshot := by
      rintro _ rfl
      exact concerns
    rw [jobDetail_eq_none_iff, rowKeys_exec env call world kept, ← jobDetail_eq_none_iff]
    exact present
  | some =>
    have named := jobDetail_id present
    subst named
    obtain ⟨_, changed⟩ := exec_jobDetail env call present
    rw [changed, JobView.after_elsewhere different ?_ concerns]
    intro node member otherNode otherMember same
    exact nodes_disjoint present found different otherMember member same.symm

theorem exec_schedule (env : Env) (concerns : call.Concerns job) :
  (exec env call world).2.database.schedule = world.database.schedule := by
  unfold exec
  split
  · rfl
  · cases call with
    | createGoJob | setVideoScheduleState => exact concerns.elim
    | openVideoScheduleForJob => exact concerns.elim
    | getJobDetail => simp only [answer]; split <;> rfl
    | createSourceArtifact =>
      simp only [answer, createSourceArtifact]
      repeat' split
      all_goals rfl
    | claimGoJobPlanning =>
      simp only [answer, claimGoJobPlanning, guardedJobs]
      repeat' split
      all_goals rfl
    | markGoNodeQueued =>
      simp only [answer, markGoNodeQueued]
      repeat' split
      all_goals rfl
    | releaseGoNodeQueueClaim =>
      simp only [answer, releaseGoNodeQueueClaim]
      repeat' split
      all_goals rfl
    | finalizeGoJob =>
      simp only [answer, finalizeGoJob]
      repeat' split
      all_goals rfl
    | cancelJob =>
      simp only [answer, cancelJob]
      repeat' split
      all_goals rfl
    | markGoJobRunning =>
      simp only [answer, markGoJobRunning, guardedJobs]
      split <;> rfl
    | markGoJobWaitingWindow =>
      simp only [answer, markGoJobWaitingWindow, guardedJobs]
      split <;> rfl
    | markGoNodeSucceeded =>
      simp only [answer, markGoNodeSucceeded, guardedNodes]
      split <;> rfl
    | markGoNodeFailed =>
      simp only [answer, markGoNodeFailed, guardedNodes]
      split <;> rfl
    | incrementGoNodeRetry =>
      simp only [answer, incrementGoNodeRetry, guardedNodes]
      split <;> rfl
    | skipGoDownstreamNodes =>
      simp only [answer, skipGoDownstreamNodes]
      split <;> rfl
    | resetStaleGoNodes =>
      simp only [answer, resetStaleGoNodes]
      split <;> rfl
    | _ => rfl

/-- `after` is `world` with the record `before` of a job replaced by `current`,
and with the same schedule. -/
structure Moves (world after : World) (before current : JobView) : Prop where
  start : jobDetail world.database before.id = some before
  found : jobDetail after.database before.id = some current
  elsewhere : ∀ otherID, otherID ≠ before.id →
    jobDetail after.database otherID = jobDetail world.database otherID
  schedule : after.database.schedule = world.database.schedule

namespace Moves

theorem refl (found : jobDetail world.database job.id = some job) : Moves world world job job :=
  ⟨found, found, fun _ _ => rfl, rfl⟩

theorem id_eq (moves : Moves world after job current) : current.id = job.id :=
  jobDetail_id moves.found

theorem sync (moves : Moves world after job current) :
  jobDetail after.database current.id = some current := by
  rw [moves.id_eq]
  exact moves.found

theorem trans (first : Moves world middle job second)
  (next : Moves middle final second third) : Moves world final job third :=
  ⟨first.start, first.id_eq ▸ next.found, fun otherID different => (next.elsewhere otherID
    (first.id_eq ▸ different)).trans (first.elsewhere otherID different),
    next.schedule.trans first.schedule⟩

end Moves

theorem exec_moves (env : Env) (found : jobDetail world.database job.id = some job)
  (concerns : call.Concerns job) :
  ∃ stale, Moves world (exec env call world).2 job
    (job.after stale call (exec env call world).1) := by
  obtain ⟨stale, changed⟩ := exec_jobDetail env call found
  exact ⟨stale, found, changed, fun _ different => exec_elsewhere env found concerns different,
    exec_schedule env concerns⟩

section

variable (found : jobDetail world.database job.id = some job)
  (go : job.isGo = true) {node : NodeExecutionView}
  (member : node ∈ job.nodes)

include found go member

private theorem owned_row : world.database.nodeExecutions.rows.any
  (ownedNode world.database job.id node.id) = true := by
  obtain ⟨row, present, named, rfl⟩ := (mem_nodes_jobDetail found).1 member
  refine List.any_eq_true.2 ⟨row, present, ?_⟩
  rw [ownedNode, decide_eq_true_eq, named, goOwned_eq_isGo found]
  exact ⟨rfl, rfl, go⟩

private theorem node_exists : ensureGoNodeExists world.database node.id = true := by
  obtain ⟨row, present, named, rfl⟩ := (mem_nodes_jobDetail found).1 member
  refine List.any_eq_true.2 ⟨row, present, ?_⟩
  rw [decide_eq_true_eq, named, goOwned_eq_isGo found]
  exact ⟨rfl, go⟩

end

theorem claimGoJobPlanning_replied (found : jobDetail world.database job.id = some job)
  (replied : (exec env (.claimGoJobPlanning job.id plan) world).1 = .ok claimed) :
  job.isGo = true ∧ (claimed = true ↔
    goJobPlanningActionFor world.database.schedule job.id job.status = .claim) := by
  unfold exec at replied
  split at replied
  · cases replied
  simp only [answer, claimGoJobPlanning] at replied
  split at replied
  · cases replied
  rename_i row located
  rw [goJobRow?, Option.filter_eq_some_iff] at located
  rw [jobDetail, located.1, Option.map_some, Option.some.injEq] at found
  have owned : job.isGo = true := by
    rw [← found]
    exact located.2
  have shown : row.status = job.status := by
    rw [← found]
    rfl
  rw [shown] at replied
  refine ⟨owned, ?_⟩
  split at replied
  next action =>
    cases replied
    simp [action]
  next action =>
    simp only [guardedJobs] at replied
    split at replied
    · cases replied
      simp [action]
    · cases replied
  next action =>
    simp only [guardedJobs] at replied
    split at replied
    · cases replied
      simp [action]
    · cases replied

theorem goJobPlanningActionFor_moving {status : JobStatus} (moving : ¬ status.isTerminal = true)
  (unclaimed : goJobPlanningActionFor schedule jobID status ≠ .claim) :
  goJobPlanningActionFor schedule jobID status = .park := by
  unfold goJobPlanningActionFor at unclaimed ⊢
  rw [if_neg moving] at unclaimed ⊢
  repeat' split
  all_goals first | rfl | simp_all

theorem claimGoJobPlanning_claims (env : Env) (found : jobDetail world.database job.id = some job)
  (opened : world.database.schedule = ⟨.opened, none⟩)
  (moving : job.status.isTerminal = false) {plan : ExecutionPlan} {claimed : Bool}
  (replied : (exec env (.claimGoJobPlanning job.id plan) world).1 = .ok claimed) :
  claimed = true := by
  rw [(claimGoJobPlanning_replied found replied).2, opened]
  simp [goJobPlanningActionFor, moving]

theorem getJobDetail_found (replied : (exec env (.getJobDetail jobID) world).1 = .ok job) :
  jobDetail world.database jobID = some job ∧ (exec env (.getJobDetail jobID) world).2 = world := by
  unfold exec at replied ⊢
  split at replied
  · cases replied
  · simp only [answer] at replied ⊢
    split at replied
    next found =>
      cases replied
      exact ⟨found, rfl⟩
    · cases replied

section

variable {env : Env} (works : env.fail = none)

include works

theorem exec_of_works (call : Call) : exec env call world = answer env call world := by
  rw [exec, works]

variable (found : jobDetail world.database job.id = some job)

include found

theorem getJobDetail_reply : exec env (.getJobDetail job.id) world = (.ok job, world) := by
  rw [exec_of_works works, answer, found]

variable (go : job.isGo = true)

include go

theorem skipGoDownstreamNodes_reply (nodeIDs : List String) :
  (exec env (.skipGoDownstreamNodes job.id nodeIDs) world).1 = .ok () := by
  rw [exec_of_works works, answer, skipGoDownstreamNodes, if_pos ((goOwned_eq_isGo found).trans go)]

variable {node : NodeExecutionView} (member : node ∈ job.nodes)

include member

theorem markGoNodeSucceeded_reply (artifact : Uuid) :
  (exec env (.markGoNodeSucceeded job.id node.id artifact) world).1 = .ok () := by
  rw [exec_of_works works, answer, markGoNodeSucceeded, guardedNodes,
    if_pos (owned_row found go member)]

theorem markGoNodeFailed_reply (message : String) :
  (exec env (.markGoNodeFailed job.id node.id message) world).1 = .ok () := by
  rw [exec_of_works works, answer, markGoNodeFailed, guardedNodes,
    if_pos (owned_row found go member)]

theorem incrementGoNodeRetry_reply :
  (exec env (.incrementGoNodeRetry job.id node.id) world).1 = .ok () := by
  rw [exec_of_works works, answer, incrementGoNodeRetry, guardedNodes,
    if_pos (owned_row found go member)]

theorem releaseGoNodeQueueClaim_reply :
  (exec env (.releaseGoNodeQueueClaim node.id) world).1 = .ok () := by
  rw [exec_of_works works, answer, releaseGoNodeQueueClaim]
  split
  · rfl
  · rw [if_pos (node_exists found go member)]

theorem markGoNodeQueued_reply (inputs : List Uuid) :
  (exec env (.markGoNodeQueued node.id inputs) world).1 =
    .ok (decide (node.status = .pending)) := by
  have known := node_exists found go member
  obtain ⟨row, present, named, rfl⟩ := (mem_nodes_jobDetail found).1 member
  rw [exec_of_works works, answer, markGoNodeQueued]
  by_cases pending : row.status = .pending
  · have chosen : (world.database.nodeExecutions.rows.any fun other =>
      decide (other.id = (nodeView row).id ∧ other.status = .pending ∧
        goOwned world.database other.jobID)) = true := by
      refine List.any_eq_true.2 ⟨row, present, decide_eq_true ?_⟩
      rw [named, goOwned_eq_isGo found]
      exact ⟨rfl, pending, go⟩
    rw [if_pos chosen, show decide ((nodeView row).status = .pending) = true
      from decide_eq_true pending]
  · have chosen : ¬ (world.database.nodeExecutions.rows.any fun other =>
      decide (other.id = (nodeView row).id ∧ other.status = .pending ∧
        goOwned world.database other.jobID)) = true := by
      rw [List.any_eq_true]
      rintro ⟨_, otherPresent, selected⟩
      obtain ⟨same, otherPending, -⟩ := of_decide_eq_true selected
      rw [world.database.nodeExecutions.eq_of_key_eq otherPresent present same] at otherPending
      exact pending otherPending
    rw [if_neg chosen, if_pos known, show decide ((nodeView row).status = .pending) = false
      from decide_eq_false pending]

end

end VideoProcess.Go
