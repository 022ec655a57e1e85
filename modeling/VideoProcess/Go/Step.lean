import VideoProcess.Go.Transition

namespace VideoProcess.Go

open Data Program JobView

/-! What one request can do to a record, by cases. -/

inductive StatusChange (job : JobView) : Call → NodeExecutionView → NodeStatus → Prop
  | resolved {jobID id : Uuid} {assetID : String} {node : NodeExecutionView}
    (same : job.id = jobID) (go : job.isGo = true) (named : node.id = id) :
    StatusChange job (.createSourceArtifact jobID id assetID) node .succeeded
  | queued {id : Uuid} {inputs : List Uuid} {node : NodeExecutionView}
    (go : job.isGo = true) (named : node.id = id)
    (pending : node.status = .pending) :
    StatusChange job (.markGoNodeQueued id inputs) node .queued
  | released {id : Uuid} {node : NodeExecutionView}
    (go : job.isGo = true) (named : node.id = id)
    (queued : node.status = .queued) :
    StatusChange job (.releaseGoNodeQueueClaim id) node .pending
  | succeeded {jobID id artifactID : Uuid} {node : NodeExecutionView}
    (same : job.id = jobID) (go : job.isGo = true) (named : node.id = id) :
    StatusChange job (.markGoNodeSucceeded jobID id artifactID) node .succeeded
  | failed {jobID id : Uuid} {message : String} {node : NodeExecutionView}
    (same : job.id = jobID) (go : job.isGo = true) (named : node.id = id) :
    StatusChange job (.markGoNodeFailed jobID id message) node .failed
  | retried {jobID id : Uuid} {node : NodeExecutionView}
    (same : job.id = jobID) (go : job.isGo = true) (named : node.id = id) :
    StatusChange job (.incrementGoNodeRetry jobID id) node .pending
  | skipped {jobID : Uuid} {nodeIDs : List String} {node : NodeExecutionView}
    (same : job.id = jobID) (go : job.isGo = true)
    (skips : skippable nodeIDs node = true) :
    StatusChange job (.skipGoDownstreamNodes jobID nodeIDs) node .skipped
  | reset {jobID : Uuid} {staleBefore : Nat} {node : NodeExecutionView}
    (same : job.id = jobID) (go : job.isGo = true)
    (inFlight : node.status.isInFlight = true) :
    StatusChange job (.resetStaleGoNodes jobID staleBefore) node .pending
  | cancelled {jobID : Uuid} {node : NodeExecutionView}
    (same : job.id = jobID) (moving : ¬ job.status.isTerminal = true)
    (active : node.status.isActive = true) :
    StatusChange job (.cancelJob jobID) node .cancelled
  | running {id : Uuid} {workerID : String} {node : NodeExecutionView}
    (named : node.id = id) :
    StatusChange job (.markNodeRunning id workerID) node .running

/-- The nodes of `after` are those of `job`, each with its old status or with
one the request gives it. -/
def NodesMove (job : JobView) (call : Call) (after : JobView) : Prop :=
  ∃ move, after.nodes = job.nodes.map move ∧ Keeps move ∧
    ∀ node ∈ job.nodes, (move node).status = node.status ∨
      StatusChange job call node (move node).status

namespace NodesMove

theorem same {after : JobView} (nodes : after.nodes = job.nodes) : NodesMove job call after :=
  ⟨fun node => node, by simp [nodes], fun _ => rfl, fun _ _ => .inl rfl⟩

theorem changeNodes (keeps : Keeps change) (moves : ∀ node ∈ job.nodes, selected node = true →
  StatusChange job call node (change node).status) :
  NodesMove job call (job.changeNodes selected change) := by
  refine ⟨_, rfl, keeps.select selected, fun node member => ?_⟩
  split
  · exact .inr (moves node member ‹_›)
  · exact .inl rfl

end NodesMove

variable (call : Call)

theorem nodesMove_updated (result : call.Result) :
  NodesMove job call (job.updated stale call result) := by
  cases call with
  | createSourceArtifact =>
    simp only [updated]
    split
    · refine .changeNodes (fun _ => rfl) fun node _ named => ?_
      exact .resolved (‹_ ∧ _›).1 (‹_ ∧ _›).2 (of_decide_eq_true named)
    · exact .same rfl
  | claimGoJobPlanning =>
    simp only [updated]
    split
    · split <;> exact .same rfl
    · exact .same rfl
  | markGoJobRunning | markGoJobWaitingWindow =>
    simp only [updated]
    split <;> exact .same rfl
  | markGoNodeQueued =>
    simp only [updated]
    split
    · refine .changeNodes (fun _ => rfl) fun node _ chosen => ?_
      obtain ⟨named, pending⟩ := of_decide_eq_true chosen
      exact .queued (‹_ ∧ _›).2 named pending
    · exact .same rfl
  | releaseGoNodeQueueClaim =>
    simp only [updated]
    split
    · refine .changeNodes (fun _ => rfl) fun node _ chosen => ?_
      obtain ⟨named, queued⟩ := of_decide_eq_true chosen
      exact .released ‹_› named queued
    · exact .same rfl
  | markGoNodeSucceeded =>
    simp only [updated]
    split
    · refine .changeNodes (fun _ => rfl) fun node _ named => ?_
      exact .succeeded (‹_ ∧ _›).1 (‹_ ∧ _›).2 (of_decide_eq_true named)
    · exact .same rfl
  | markGoNodeFailed =>
    simp only [updated]
    split
    · refine .changeNodes (fun _ => rfl) fun node _ named => ?_
      exact .failed (‹_ ∧ _›).1 (‹_ ∧ _›).2 (of_decide_eq_true named)
    · exact .same rfl
  | incrementGoNodeRetry =>
    simp only [updated]
    split
    · refine .changeNodes (fun _ => rfl) fun node _ named => ?_
      exact .retried (‹_ ∧ _›).1 (‹_ ∧ _›).2 (of_decide_eq_true named)
    · exact .same rfl
  | skipGoDownstreamNodes =>
    simp only [updated]
    split
    · exact .changeNodes (fun _ => rfl) fun node _ skips =>
        .skipped (‹_ ∧ _›).1 (‹_ ∧ _›).2 skips
    · exact .same rfl
  | finalizeGoJob =>
    simp only [updated]
    split <;> exact .same rfl
  | resetStaleGoNodes =>
    simp only [updated]
    split
    · refine .changeNodes (fun _ => rfl) fun node _ chosen => ?_
      exact .reset (‹_ ∧ _›).1 (‹_ ∧ _›).2 (of_decide_eq_true chosen).1
    · exact .same rfl
  | cancelJob =>
    simp only [updated]
    split
    · exact NodesMove.changeNodes (fun _ => rfl) fun node _ active =>
        .cancelled (‹_ ∧ _›).1 (‹_ ∧ _›).2 active
    · exact .same rfl
  | setVideoScheduleState | openVideoScheduleForJob =>
    simp only [updated]
    split <;> exact .same rfl
  | markNodeRunning =>
    exact .changeNodes (fun _ => rfl) fun node _ named =>
      .running (of_decide_eq_true named)
  | createGoJob | getJobDetail | getVideoScheduleAuthority => exact .same rfl
  | listRecoverableGoJobs | dispatch => exact .same rfl

variable (reply : Except String call.Result)

theorem nodesMove_after : ∃ move, (job.after stale call reply).nodes = job.nodes.map move ∧
    Keeps move ∧ ∀ node ∈ job.nodes, (move node).status = node.status ∨
      (∃ result, reply = .ok result) ∧ StatusChange job call node (move node).status := by
  cases reply with
  | ok result =>
    obtain ⟨move, nodes, keeps, statuses⟩ := nodesMove_updated call result
    exact ⟨move, nodes, keeps, fun node member =>
      (statuses node member).imp_right fun change => ⟨⟨result, rfl⟩, change⟩⟩
  | error => exact ⟨fun node => node, (List.map_id _).symm, fun _ => rfl, fun _ _ => .inl rfl⟩

inductive JobChange (job : JobView) : (call : Call) →
  Except String call.Result → JobStatus → Option ExecutionPlan → Prop
  | claimed {jobID : Uuid} {plan : ExecutionPlan} (same : job.id = jobID)
    (go : job.isGo = true) (moving : ¬ job.status.isTerminal = true) :
    JobChange job (.claimGoJobPlanning jobID plan) (.ok true) .planning (some plan)
  | held {jobID : Uuid} {plan : ExecutionPlan} (same : job.id = jobID)
    (go : job.isGo = true) (moving : ¬ job.status.isTerminal = true) :
    JobChange job (.claimGoJobPlanning jobID plan) (.ok false) .waitingWindow job.executionPlan
  | running {jobID : Uuid} (same : job.id = jobID) (go : job.isGo = true)
    (planning : job.status = .planning) :
    JobChange job (.markGoJobRunning jobID) (.ok ()) .running job.executionPlan
  | parked {jobID : Uuid} (same : job.id = jobID) (go : job.isGo = true)
    (moving : ¬ job.status.isTerminal = true) :
    JobChange job (.markGoJobWaitingWindow jobID) (.ok ()) .waitingWindow job.executionPlan
  | finalized {jobID : Uuid} {status : JobStatus} {message : Option String}
    {finals : List String} (same : job.id = jobID) (go : job.isGo = true)
    (moving : ¬ job.status.isTerminal = true) :
    JobChange job (.finalizeGoJob jobID status message finals) (.ok ()) status job.executionPlan
  | cancelled {jobID : Uuid} (same : job.id = jobID)
    (moving : ¬ job.status.isTerminal = true) :
    JobChange job (.cancelJob jobID) (.ok ()) .cancelled job.executionPlan
  | reopened {call : Call} {reply : Except String call.Result}
    (waiting : job.status = .waitingWindow) :
    JobChange job call reply .pending job.executionPlan

theorem jobChange_after : ((job.after stale call reply).status = job.status ∧
    (job.after stale call reply).executionPlan = job.executionPlan) ∨
  JobChange job call reply (job.after stale call reply).status
    (job.after stale call reply).executionPlan := by
  cases reply with
  | error => exact .inl ⟨rfl, rfl⟩
  | ok result =>
    cases call with
    | claimGoJobPlanning =>
      simp only [JobView.after, updated]
      split
      next chosen =>
        cases result with
        | true => exact .inr (.claimed chosen.1 chosen.2.1 chosen.2.2)
        | false => exact .inr (.held chosen.1 chosen.2.1 chosen.2.2)
      · exact .inl ⟨rfl, rfl⟩
    | markGoJobRunning =>
      simp only [JobView.after, updated]
      split
      next chosen => exact .inr (.running chosen.1 chosen.2.1 chosen.2.2)
      · exact .inl ⟨rfl, rfl⟩
    | markGoJobWaitingWindow =>
      simp only [JobView.after, updated]
      split
      next chosen => exact .inr (.parked chosen.1 chosen.2.1 chosen.2.2)
      · exact .inl ⟨rfl, rfl⟩
    | finalizeGoJob =>
      simp only [JobView.after, updated]
      split
      next chosen => exact .inr (.finalized chosen.1 chosen.2.1 chosen.2.2)
      · exact .inl ⟨rfl, rfl⟩
    | cancelJob =>
      simp only [JobView.after, updated]
      split
      next chosen => exact .inr (.cancelled chosen.1 chosen.2)
      · exact .inl ⟨rfl, rfl⟩
    | setVideoScheduleState | openVideoScheduleForJob =>
      simp only [JobView.after, updated]
      split
      next chosen => exact .inr (.reopened chosen.2.2)
      · exact .inl ⟨rfl, rfl⟩
    | _ =>
      -- The other requests write node rows only.
      first
        | exact .inl ⟨rfl, rfl⟩
        | simp only [JobView.after, updated]
          split <;> exact .inl ⟨rfl, rfl⟩

theorem JobChange.not_terminal (change : JobChange job call reply next plan) :
  ¬ job.status.isTerminal = true := by
  cases change with
  | claimed _ _ moving | held _ _ moving | parked _ _ moving | finalized _ _ moving
  | cancelled _ moving => exact moving
  | running _ _ planning => simp [planning, JobStatus.isTerminal]
  | reopened waiting => simp [waiting, JobStatus.isTerminal]

end VideoProcess.Go
