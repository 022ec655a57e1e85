import VideoProcess.Go.Engine

namespace VideoProcess.Go

open Data Program

/-! What one request does to the record of a job, said once for every request.
The invariants are derived from it and never open the store again. -/

namespace JobView

variable (stale : Uuid → Bool) (job : JobView)

def isGo : Bool := job.orchestratorOwner = .go

/-- The effect of a request that succeeded. Staleness is decided by columns the
view does not show, so `stale` names the executions a reset finds stale. -/
def updated : (call : Call) → call.Result → JobView
  | .createSourceArtifact jobID nodeExecutionID _, (artifactID : Uuid) =>
    if job.id = jobID ∧ job.isGo then
      job.changeNodes (fun node => node.id = nodeExecutionID) fun node =>
        { node with status := .succeeded, outputArtifactID := some artifactID }
    else job
  | .claimGoJobPlanning jobID executionPlan, (claimed : Bool) =>
    if job.id = jobID ∧ job.isGo ∧ ¬ job.status.isTerminal then
      if claimed then
        { job with status := .planning, executionPlan := some executionPlan }
      else { job with status := .waitingWindow }
    else job
  | .markGoJobRunning jobID, _ =>
    if job.id = jobID ∧ job.isGo ∧ job.status = .planning then
      { job with status := .running }
    else job
  | .markGoJobWaitingWindow jobID, _ =>
    if job.id = jobID ∧ job.isGo ∧ ¬ job.status.isTerminal then
      { job with status := .waitingWindow }
    else job
  | .markGoNodeQueued nodeExecutionID _, (claimed : Bool) =>
    if claimed ∧ job.isGo then
      job.changeNodes (fun node => node.id = nodeExecutionID ∧ node.status = .pending)
        fun node => { node with status := .queued }
    else job
  | .releaseGoNodeQueueClaim nodeExecutionID, _ =>
    if job.isGo then
      job.changeNodes (fun node => node.id = nodeExecutionID ∧ node.status = .queued)
        fun node => { node with status := .pending }
    else job
  | .markGoNodeSucceeded jobID nodeExecutionID outputArtifactID, _ =>
    if job.id = jobID ∧ job.isGo then
      job.changeNodes (fun node => node.id = nodeExecutionID) fun node =>
        { node with
          status := .succeeded
          outputArtifactID := some outputArtifactID }
    else job
  | .markGoNodeFailed jobID nodeExecutionID _, _ =>
    if job.id = jobID ∧ job.isGo then
      job.changeNodes (fun node => node.id = nodeExecutionID) fun node =>
        { node with status := .failed }
    else job
  | .incrementGoNodeRetry jobID nodeExecutionID, _ =>
    if job.id = jobID ∧ job.isGo then
      job.changeNodes (fun node => node.id = nodeExecutionID) fun node =>
        { node with
          status := .pending
          retryCount := node.retryCount + 1
          workerID := none }
    else job
  | .skipGoDownstreamNodes jobID nodeIDs, _ =>
    if job.id = jobID ∧ job.isGo then
      job.changeNodes (fun node => node.nodeID ∈ nodeIDs ∧
        (node.status = .pending ∨ node.status = .queued))
        fun node => { node with status := .skipped }
    else job
  | .finalizeGoJob jobID status _ _, _ =>
    if job.id = jobID ∧ job.isGo ∧ ¬ job.status.isTerminal then
      { job with status := status }
    else job
  | .resetStaleGoNodes jobID _, _ =>
    if job.id = jobID ∧ job.isGo then
      job.changeNodes (fun node => node.status.isInFlight ∧ stale node.id)
        fun node => { node with status := .pending, workerID := none }
    else job
  | .cancelJob jobID, _ =>
    if job.id = jobID ∧ ¬ job.status.isTerminal then
      { job.changeNodes (fun node => node.status.isActive)
        (fun node => { node with status := .cancelled }) with
        status := .cancelled }
    else job
  | .setVideoScheduleState state, _ =>
    if state = .opened ∧ job.isGo ∧ job.status = .waitingWindow then
      { job with status := .pending }
    else job
  | .openVideoScheduleForJob expectedJobID, _ =>
    if job.id = expectedJobID ∧ job.isGo ∧ job.status = .waitingWindow then
      { job with status := .pending }
    else job
  | .markNodeRunning nodeExecutionID workerID, _ =>
    job.changeNodes (fun node => node.id = nodeExecutionID) fun node =>
      { node with status := .running, workerID := some workerID }
  | _, _ => job

def after (call : Call) : Except String call.Result → JobView
  | .ok result => job.updated stale call result
  | .error _ => job

end JobView

variable {database : Database} {jobID : Uuid} {job : JobView}

theorem jobDetail_id (found : jobDetail database jobID = some job) : job.id = jobID := by
  rw [jobDetail, Option.map_eq_some_iff] at found
  obtain ⟨_, found, rfl⟩ := found
  exact (Table.find?_eq_some_iff.1 found).2

theorem goOwned_eq_isGo (found : jobDetail database jobID = some job) :
  goOwned database jobID = job.isGo := by
  rw [jobDetail, Option.map_eq_some_iff] at found
  obtain ⟨_, found, rfl⟩ := found
  rw [goOwned, found]
  rfl

variable {selected : NodeExecutionRow → Bool}
  {change : NodeExecutionRow → NodeExecutionRow} {row : NodeExecutionRow}
  {owner nodeExecutionID : Uuid} {env : Env} {snapshot : PipelineDefinition}
  {keeps : ∀ row, (change row).id = row.id}

theorem jobDetail_updateNodes (viewed : NodeExecutionView → Bool)
  (stable : ∀ row, (change row).jobID = row.jobID)
  (shows : ∀ row ∈ database.nodesOf jobID, selected row = true ↔ viewed (nodeView row) = true)
  (agrees : ∀ row, nodeView (change row) = changed (nodeView row))
  (found : jobDetail database jobID = some job) :
  jobDetail (database.updateNodes selected change keeps) jobID =
    some (job.changeNodes viewed changed) := by
  rw [jobDetail, Option.map_eq_some_iff] at found
  obtain ⟨row, found, rfl⟩ := found
  have nodes : (database.updateNodes selected change keeps).nodesOf jobID =
    (database.nodesOf jobID).map fun row =>
      if selected row then change row else row :=
    Table.filter_update _ _ _ keeps _ fun row => by simp [stable]
  have jobs : (database.updateNodes selected change keeps).jobs = database.jobs := rfl
  rw [jobDetail, jobs, found, nodes]
  simp only [Option.map_some, jobView, JobView.changeNodes, JobView.mapNodes,
    List.map_map, Option.some.injEq, JobView.mk.injEq, true_and]
  refine List.map_congr_left fun node member => ?_
  simp only [Function.comp_apply, Bool.eq_iff_iff.2 (shows node member)]
  split
  · exact agrees node
  · rfl

theorem jobDetail_updateJobs {selected : JobRow → Bool}
  {change : JobRow → JobRow} {keeps : ∀ row, (change row).id = row.id}
  {row : JobRow} (found : database.jobs.find? jobID = some row) :
  jobDetail (database.updateJobs selected change keeps) jobID =
    some (jobView (if selected row then change row else row) (database.nodesOf jobID)) := by
  have jobs : (database.updateJobs selected change keeps).jobs =
    database.jobs.update selected change keeps := rfl
  rw [jobDetail, jobs, Table.find?_update, found]
  rfl

@[simp] theorem jobDetail_setArtifacts (artifacts : Table ArtifactRow.id) :
  jobDetail (database.setArtifacts artifacts) jobID = jobDetail database jobID := rfl

theorem mem_nodesOf : row ∈ database.nodesOf jobID ↔
  row ∈ database.nodeExecutions.rows ∧ row.jobID = jobID := by
  simp [Database.nodesOf]

theorem JobView.changeNodes_guard (guarded : Prop) [Decidable guarded]
  (selected : NodeExecutionView → Bool)
  (change : NodeExecutionView → NodeExecutionView) :
  job.changeNodes (fun node => decide guarded && selected node) change =
    if guarded then job.changeNodes selected change else job := by
  by_cases holds : guarded
  · simp [holds]
  · simp [holds, changeNodes, mapNodes]

private theorem jobDetail_updateNodes_guard (guarded : Prop)
  [Decidable guarded] (viewed : NodeExecutionView → Bool)
  (changed : NodeExecutionView → NodeExecutionView)
  (stable : ∀ row, (change row).jobID = row.jobID)
  (shows : ∀ row ∈ database.nodesOf jobID,
    selected row = true ↔ guarded ∧ viewed (nodeView row) = true)
  (agrees : ∀ row, nodeView (change row) = changed (nodeView row))
  (found : jobDetail database jobID = some job) :
  jobDetail (database.updateNodes selected change keeps) jobID =
    some (if guarded then job.changeNodes viewed changed else job) := by
  rw [← JobView.changeNodes_guard]
  refine jobDetail_updateNodes _ stable (fun row member => ?_) agrees found
  rw [shows row member, Bool.and_eq_true, decide_eq_true_eq]

variable {world : World} {stale : Uuid → Bool}

private theorem jobDetail_guardedNodes (changed : NodeExecutionView → NodeExecutionView)
  (stable : ∀ row, (change row).jobID = row.jobID)
  (agrees : ∀ row, nodeView (change row) = changed (nodeView row))
  (found : jobDetail world.database jobID = some job)
  (keeps : ∀ row, (change row).id = row.id) :
  jobDetail (world.database.updateNodes
    (ownedNode world.database owner nodeExecutionID) change keeps) jobID =
    some (if job.id = owner ∧ job.isGo then
      job.changeNodes (fun node => node.id = nodeExecutionID) changed
    else job) := by
  refine jobDetail_updateNodes_guard _ _ _ stable ?_ agrees found
  intro row member
  obtain ⟨-, rfl⟩ := mem_nodesOf.1 member
  simp only [ownedNode, decide_eq_true_eq, goOwned_eq_isGo found, jobDetail_id found]
  simp only [nodeView]
  tauto

theorem JobView.changeNodes_none {selected : NodeExecutionView → Bool}
  {change : NodeExecutionView → NodeExecutionView}
  (none : ∀ node ∈ job.nodes, selected node = false) :
  job.changeNodes selected change = job := by
  obtain ⟨_, _, _, _, _, nodes⟩ := job
  simp only [changeNodes, mapNodes, JobView.mk.injEq, true_and]
  refine (List.map_congr_left fun node member => ?_).trans (List.map_id nodes)
  rw [none node member]
  rfl

theorem nodup_nodes_jobDetail (found : jobDetail database jobID = some job) :
  (job.nodes.map NodeExecutionView.id).Nodup := by
  rw [jobDetail, Option.map_eq_some_iff] at found
  obtain ⟨_, -, rfl⟩ := found
  simp only [jobView, List.map_map]
  exact database.nodeExecutions.nodup_keys.sublist (List.filter_sublist.map NodeExecutionRow.id)

theorem mem_nodes_jobDetail (found : jobDetail database jobID = some job) : node ∈ job.nodes ↔
  ∃ row ∈ database.nodeExecutions.rows, row.jobID = jobID ∧ nodeView row = node := by
  rw [jobDetail, Option.map_eq_some_iff] at found
  obtain ⟨_, -, rfl⟩ := found
  simp only [jobView, List.mem_map, mem_nodesOf, and_assoc]

def staleExecutions (database : Database) (staleBefore : Nat) (id : Uuid) : Bool :=
  database.nodeExecutions.rows.any fun row => row.id = id ∧ ((row.status = .running ∧
    row.startedAt.all fun time => time < staleBefore) ∨
    (row.status = .queued ∧ row.queuedAt.all fun time => time < staleBefore))

private theorem staleExecutions_iff (member : row ∈ database.nodeExecutions.rows) :
  staleExecutions database staleBefore row.id = true ↔ (row.status = .running ∧
    row.startedAt.all (fun time => time < staleBefore) = true) ∨
    (row.status = .queued ∧ row.queuedAt.all (fun time => time < staleBefore) = true) := by
  simp only [staleExecutions, List.any_eq_true, decide_eq_true_eq]
  constructor
  · rintro ⟨_, present, same, condition⟩
    rwa [database.nodeExecutions.eq_of_key_eq present member same] at condition
  · exact fun condition => ⟨row, member, rfl, condition⟩

private theorem find?_of_jobDetail (found : jobDetail database jobID = some job) :
  ∃ row, database.jobs.find? jobID = some row ∧ job = jobView row (database.nodesOf jobID) := by
  rw [jobDetail, Option.map_eq_some_iff] at found
  obtain ⟨row, found, rfl⟩ := found
  exact ⟨row, found, rfl⟩

private theorem jobDetail_updateJobs_guard {selected : JobRow → Bool}
  {change : JobRow → JobRow} {keeps : ∀ row, (change row).id = row.id}
  (guarded : JobView → Prop) [DecidablePred guarded]
  (changed : JobView → JobView)
  (shows : ∀ row nodes, selected row = true ↔ guarded (jobView row nodes))
  (agrees : ∀ row nodes, jobView (change row) nodes = changed (jobView row nodes))
  (found : jobDetail database jobID = some job) :
  jobDetail (database.updateJobs selected change keeps) jobID =
    some (if guarded job then changed job else job) := by
  obtain ⟨row, present, rfl⟩ := find?_of_jobDetail found
  rw [jobDetail_updateJobs present]
  by_cases chosen : selected row = true
  · rw [if_pos chosen, if_pos ((shows _ _).1 chosen), agrees]
  · rw [if_neg chosen, if_neg (fun holds => chosen ((shows _ _).2 holds))]

private theorem openJob_shows (row : JobRow) (nodes : List NodeExecutionRow) :
  decide (row.id = owner ∧ row.orchestratorOwner = .go ∧ ¬ row.status.isTerminal) = true ↔
    (jobView row nodes).id = owner ∧ (jobView row nodes).isGo = true ∧
      ¬ (jobView row nodes).status.isTerminal = true := by
  simp only [JobView.isGo, decide_eq_true_eq]
  rfl

theorem goJobPlanningActionFor_skip
  (skipped : goJobPlanningActionFor schedule jobID status = .skip) :
  status.isTerminal = true := by
  by_contra unfinished
  unfold goJobPlanningActionFor at skipped
  rw [if_neg unfinished] at skipped
  split at skipped
  · cases skipped
  · split at skipped
    · cases skipped
    · split at skipped <;> cases skipped

private theorem releaseWaiting_after (selected : JobRow → Bool)
  (chosen : JobView → Prop) [DecidablePred chosen]
  (shows : ∀ row nodes, selected row = true ↔ chosen (jobView row nodes))
  (found : jobDetail database jobID = some job) :
  jobDetail (releaseWaiting database selected) jobID =
    some (if chosen job ∧ job.isGo ∧ job.status = .waitingWindow then
      { job with status := .pending } else job) := by
  refine jobDetail_updateJobs_guard (fun job => chosen job ∧ job.isGo ∧ job.status = .waitingWindow)
    (fun job => { job with status := .pending })
    (fun row nodes => ?_) (fun _ _ => rfl) found
  simp only [JobView.isGo, decide_eq_true_eq, shows row nodes]
  exact and_congr_right fun _ => and_comm

theorem insertGoJob_eq_some (inserted : insertGoJob env snapshot database = some created) :
  snapshot.nodes.length ≤ env.nodeIDs.length ∧
    database.jobs.insert (freshJob env snapshot) = some created.jobs ∧
    (freshRows env snapshot).foldlM Table.insert database.nodeExecutions =
      some created.nodeExecutions := by
  simp only [insertGoJob] at inserted
  split at inserted
  next enough =>
    rw [Option.bind_eq_some_iff] at inserted
    obtain ⟨_, jobInserted, inserted⟩ := inserted
    rw [Option.map_eq_some_iff] at inserted
    obtain ⟨_, nodesInserted, rfl⟩ := inserted
    exact ⟨enough, jobInserted, nodesInserted⟩
  · cases inserted

theorem mem_freshRows (member : row ∈ freshRows env snapshot) :
  ∃ node ∈ snapshot.nodes, ∃ id, row = freshNode env.id node id := by
  obtain ⟨⟨node, id⟩, paired, rfl⟩ := List.mem_map.1 member
  exact ⟨node, (List.of_mem_zip paired).1, id, rfl⟩

private theorem status_of_located {row : JobRow} (found : jobDetail database jobID = some job)
  (located : database.jobs.find? owner = some row) (same : job.id = owner) :
  job.status = row.status := by
  rw [jobDetail_id found] at same
  subst same
  obtain ⟨_, present, rfl⟩ := find?_of_jobDetail found
  rw [present] at located
  cases located
  rfl

private abbrev Reflects (jobID : Uuid) (job : JobView) (stale : Uuid → Bool)
  (call : Call) (outcome : Except String call.Result × World) : Prop :=
  jobDetail outcome.2.database jobID = some (job.after stale call outcome.1)

section

variable (found : jobDetail world.database jobID = some job)

include found

private theorem markGoNodeSucceeded_after : Reflects jobID job stale
  (.markGoNodeSucceeded owner nodeExecutionID outputArtifactID)
  (markGoNodeSucceeded owner nodeExecutionID outputArtifactID world) := by
  simp only [markGoNodeSucceeded, guardedNodes]
  split
  · refine jobDetail_guardedNodes (fun node =>
      { node with
        status := .succeeded
        outputArtifactID := some outputArtifactID })
      ?_ ?_ found ?_ <;> exact fun _ => rfl
  · exact found

private theorem markGoNodeFailed_after : Reflects jobID job stale
  (.markGoNodeFailed owner nodeExecutionID errorMessage)
  (markGoNodeFailed owner nodeExecutionID errorMessage world) := by
  simp only [markGoNodeFailed, guardedNodes]
  split
  · refine jobDetail_guardedNodes (fun node => { node with status := .failed })
      ?_ ?_ found ?_ <;> exact fun _ => rfl
  · exact found

private theorem incrementGoNodeRetry_after :
  Reflects jobID job stale (.incrementGoNodeRetry owner nodeExecutionID)
    (incrementGoNodeRetry owner nodeExecutionID world) := by
  simp only [incrementGoNodeRetry, guardedNodes]
  split
  · refine jobDetail_guardedNodes (fun node =>
      { node with
        status := .pending
        retryCount := node.retryCount + 1
        workerID := none })
      ?_ ?_ found ?_ <;> exact fun _ => rfl
  · exact found

private theorem markGoNodeQueued_after : Reflects jobID job stale
  (.markGoNodeQueued nodeExecutionID inputArtifactIDs)
  (markGoNodeQueued env nodeExecutionID inputArtifactIDs world) := by
  simp only [markGoNodeQueued]
  split
  · refine jobDetail_updateNodes_guard _ _ _ (fun _ => rfl) ?_ (fun _ => rfl) found
    intro row member
    obtain ⟨-, rfl⟩ := mem_nodesOf.1 member
    simp only [decide_eq_true_eq, goOwned_eq_isGo found]
    simp only [nodeView]
    tauto
  · split
    · simpa [Reflects, JobView.after, JobView.updated] using found
    · exact found

private theorem releaseGoNodeQueueClaim_after :
  Reflects jobID job stale (.releaseGoNodeQueueClaim nodeExecutionID)
    (releaseGoNodeQueueClaim nodeExecutionID world) := by
  simp only [releaseGoNodeQueueClaim]
  split
  · refine jobDetail_updateNodes_guard _ _ _ (fun _ => rfl) ?_ (fun _ => rfl) found
    intro row member
    obtain ⟨-, rfl⟩ := mem_nodesOf.1 member
    simp only [decide_eq_true_eq, goOwned_eq_isGo found]
    simp only [nodeView]
    tauto
  next unclaimed =>
    split
    · -- The node is not queued, so the claim has nothing to give back.
      refine found.trans ?_
      simp only [JobView.after, JobView.updated]
      split
      next owned =>
        rw [JobView.changeNodes_none]
        intro node member
        obtain ⟨row, present, rfl, rfl⟩ := (mem_nodes_jobDetail found).1 member
        rw [decide_eq_false_iff_not]
        rintro ⟨same, queued⟩
        refine unclaimed (List.any_eq_true.2 ⟨row, present, ?_⟩)
        rw [decide_eq_true_eq, goOwned_eq_isGo found]
        exact ⟨same, queued, owned⟩
      · rfl
    · exact found

private theorem skipGoDownstreamNodes_after :
  Reflects jobID job stale (.skipGoDownstreamNodes owner nodeIDs)
    (skipGoDownstreamNodes owner nodeIDs world) := by
  simp only [skipGoDownstreamNodes]
  split
  · refine jobDetail_updateNodes_guard _ _ _ (fun _ => rfl) ?_ (fun _ => rfl) found
    intro row member
    obtain ⟨-, rfl⟩ := mem_nodesOf.1 member
    simp only [decide_eq_true_eq, goOwned_eq_isGo found, jobDetail_id found]
    simp only [nodeView]
    tauto
  · exact found

private theorem resetStaleGoNodes_after :
  Reflects jobID job (staleExecutions world.database staleBefore)
    (.resetStaleGoNodes owner staleBefore)
    (resetStaleGoNodes owner staleBefore world) := by
  simp only [resetStaleGoNodes]
  split
  · refine jobDetail_updateNodes_guard _ _ _ (fun _ => rfl) ?_ (fun _ => rfl) found
    intro row member
    obtain ⟨present, rfl⟩ := mem_nodesOf.1 member
    simp only [decide_eq_true_eq, goOwned_eq_isGo found, jobDetail_id found]
    simp only [nodeView, staleExecutions_iff present]
    cases row.status <;> simp [NodeStatus.isInFlight] <;> tauto
  · exact found

private theorem createSourceArtifact_after : Reflects jobID job stale
  (.createSourceArtifact owner nodeExecutionID assetID)
  (createSourceArtifact env owner nodeExecutionID assetID world) := by
  simp only [createSourceArtifact]
  split
  · exact found
  · split
    · exact found
    · split
      · split
        · exact found
        · dsimp only [Reflects]
          rw [jobDetail_setArtifacts]
          refine jobDetail_guardedNodes (fun node =>
            { node with status := .succeeded, outputArtifactID := some env.id })
            ?_ ?_ found ?_ <;> exact fun _ => rfl
      · exact found

private theorem markNodeRunning_after :
  Reflects jobID job stale (.markNodeRunning nodeExecutionID workerID)
    (markNodeRunning env nodeExecutionID workerID world) := by
  refine jobDetail_updateNodes _ (fun _ => rfl) ?_ (fun _ => rfl) found
  intro row member
  simp only [decide_eq_true_eq]
  rfl

private theorem markGoJobRunning_after : Reflects jobID job stale (.markGoJobRunning owner)
  (markGoJobRunning owner world) := by
  simp only [markGoJobRunning, guardedJobs]
  split
  · refine jobDetail_updateJobs_guard
      (fun job => job.id = owner ∧ job.isGo ∧ job.status = .planning)
      (fun job => { job with status := .running })
      (fun row nodes => ?_) (fun _ _ => rfl) found
    simp only [JobView.isGo, decide_eq_true_eq]
    rfl
  · exact found

private theorem markGoJobWaitingWindow_after :
  Reflects jobID job stale (.markGoJobWaitingWindow owner)
    (markGoJobWaitingWindow owner world) := by
  simp only [markGoJobWaitingWindow, guardedJobs]
  split
  · exact jobDetail_updateJobs_guard
      (fun job => job.id = owner ∧ job.isGo ∧ ¬ job.status.isTerminal)
      (fun job => { job with status := .waitingWindow })
      openJob_shows (fun _ _ => rfl) found
  · exact found

private theorem claimGoJobPlanning_after :
  Reflects jobID job stale (.claimGoJobPlanning owner executionPlan)
    (claimGoJobPlanning owner executionPlan world) := by
  simp only [claimGoJobPlanning]
  split
  · exact found
  next located =>
    split
    · -- The skip branch is taken for terminal jobs, which stay as they are.
      rename_i skipped
      refine found.trans ?_
      simp only [JobView.after, JobView.updated]
      split
      next selected =>
        obtain ⟨same, -, unfinished⟩ := selected
        rw [status_of_located found (Option.filter_eq_some_iff.1 located).1 same] at unfinished
        exact absurd (goJobPlanningActionFor_skip skipped) unfinished
      · rfl
    · simp only [guardedJobs]
      split
      · exact jobDetail_updateJobs_guard
          (fun job => job.id = owner ∧ job.isGo ∧ ¬ job.status.isTerminal)
          (fun job => { job with status := .waitingWindow })
          openJob_shows (fun _ _ => rfl) found
      · exact found
    · simp only [guardedJobs]
      split
      · exact jobDetail_updateJobs_guard
          (fun job => job.id = owner ∧ job.isGo ∧ ¬ job.status.isTerminal)
          (fun job => { job with
            status := .planning, executionPlan := some executionPlan })
          openJob_shows (fun _ _ => rfl) found
      · exact found

private theorem finalizeGoJob_after :
  Reflects jobID job stale (.finalizeGoJob owner status errorMessage finals)
    (finalizeGoJob owner status errorMessage finals world) := by
  simp only [finalizeGoJob]
  split
  · exact found
  next row located =>
    have status_eq := status_of_located found (Option.filter_eq_some_iff.1 located).1
    split
    next terminal =>
      refine found.trans ?_
      simp only [JobView.after, JobView.updated]
      split
      next selected =>
        rw [status_eq selected.1] at selected
        exact absurd terminal selected.2.2
      · rfl
    next unfinished =>
      split
      · exact found
      · split
        · exact found
        · dsimp only [Reflects]
          rw [jobDetail_setArtifacts, jobDetail_updateJobs_guard
            (fun job => job.id = owner ∧ job.isGo)
            (fun job => { job with status := status })
            (fun row nodes => by
              simp only [JobView.isGo, decide_eq_true_eq]
              rfl) (fun _ _ => rfl) found]
          simp only [JobView.after, JobView.updated]
          congr 1
          refine if_congr ?_ rfl rfl
          constructor
          · exact fun selected =>
              ⟨selected.1, selected.2, status_eq selected.1 ▸ unfinished⟩
          · exact fun selected => ⟨selected.1, selected.2.1⟩

private theorem cancelJob_after :
  Reflects jobID job stale (.cancelJob owner) (cancelJob owner world) := by
  simp only [cancelJob]
  split
  · exact found
  next row located =>
    have status_eq := status_of_located found located
    split
    next terminal =>
      refine found.trans ?_
      simp only [JobView.after, JobView.updated]
      split
      next selected =>
        rw [status_eq selected.1] at selected
        exact absurd terminal selected.2
      · rfl
    next unfinished =>
      have cancelled : jobDetail (world.database.updateJobs (fun row => row.id = owner)
        (fun row => { row with status := .cancelled }) fun _ => rfl) jobID =
        some (if job.id = owner then { job with status := .cancelled }
          else job) :=
        jobDetail_updateJobs_guard (fun job => job.id = owner)
          (fun job => { job with status := .cancelled })
          (fun row nodes => by simp only [decide_eq_true_eq]; rfl)
          (fun _ _ => rfl) found
      refine (jobDetail_updateNodes_guard (job.id = owner) (fun node => node.status.isActive)
        (fun node => { node with status := .cancelled }) ?_ ?_ ?_
        cancelled).trans ?_
      · exact fun _ => rfl
      · intro row member
        obtain ⟨-, rfl⟩ := mem_nodesOf.1 member
        simp only [decide_eq_true_eq, jobDetail_id found]
        rfl
      · exact fun _ => rfl
      · simp only [JobView.after, JobView.updated]
        by_cases same : job.id = owner
        · rw [if_pos same, if_pos same, if_pos ⟨same, status_eq same ▸ unfinished⟩]
          rfl
        · rw [if_neg same, if_neg same, if_neg fun selected => same selected.1]

private theorem setVideoScheduleState_after :
  jobDetail (setVideoScheduleState state world).database jobID =
    some (job.after stale (.setVideoScheduleState state) (.ok ())) := by
  simp only [setVideoScheduleState, JobView.after, JobView.updated]
  by_cases opened : state = .opened
  · rw [if_pos opened]
    have moved : jobDetail (world.database.setSchedule ⟨state, none⟩) jobID = some job := found
    have released := releaseWaiting_after (fun _ => true) (fun _ => True) (fun _ _ => by simp) moved
    simpa [opened] using released
  · rw [if_neg opened, if_neg fun selected => opened selected.1]
    exact found

private theorem openVideoScheduleForJob_after :
  Reflects jobID job stale (.openVideoScheduleForJob expected)
    (openVideoScheduleForJob expected world) := by
  simp only [openVideoScheduleForJob]
  split
  · have moved : jobDetail (world.database.setSchedule ⟨.opened, some expected⟩) jobID =
      some job := found
    refine releaseWaiting_after _ (fun job => job.id = expected) (fun row nodes => ?_) moved
    simp only [decide_eq_true_eq]
    rfl
  · exact found

private theorem createGoJob_after : Reflects jobID job stale (.createGoJob snapshot)
  (createGoJob env snapshot world) := by
  simp only [createGoJob]
  split
  next created inserted =>
    obtain ⟨-, jobInserted, nodesInserted⟩ := insertGoJob_eq_some inserted
    obtain ⟨row, present, rfl⟩ := find?_of_jobDetail found
    have other : ¬ env.id = jobID := by
      rintro rfl
      obtain ⟨member, named⟩ := Table.find?_eq_some_iff.1 present
      exact (Table.insert_eq_some_iff.1 jobInserted).1 row member named
    have jobs : created.jobs.find? jobID = some row := by
      rw [Table.find?_insert jobInserted, freshJob, if_neg other]
      exact present
    have nodes : created.nodesOf jobID = world.database.nodesOf jobID := by
      refine Table.filter_insertAll (fun row member => ?_) nodesInserted
      obtain ⟨_, -, _, rfl⟩ := mem_freshRows member
      exact decide_eq_false other
    rw [Reflects, jobDetail, jobs, nodes]
    rfl
  · exact found

end

theorem exec_jobDetail (env : Env) (call : Call)
  (found : jobDetail world.database jobID = some job) :
  ∃ stale, jobDetail (exec env call world).2.database jobID =
    some (job.after stale call (exec env call world).1) := by
  unfold exec
  split
  · exact ⟨fun _ => false, found⟩
  · cases call with
    | createGoJob => exact ⟨fun _ => false, createGoJob_after found⟩
    | getJobDetail =>
      refine ⟨fun _ => false, ?_⟩
      simp only [answer]
      split <;> exact found
    | createSourceArtifact => exact ⟨fun _ => false, createSourceArtifact_after found⟩
    | getVideoScheduleAuthority => exact ⟨fun _ => false, found⟩
    | claimGoJobPlanning => exact ⟨fun _ => false, claimGoJobPlanning_after found⟩
    | markGoJobRunning => exact ⟨fun _ => false, markGoJobRunning_after found⟩
    | markGoJobWaitingWindow => exact ⟨fun _ => false, markGoJobWaitingWindow_after found⟩
    | markGoNodeQueued => exact ⟨fun _ => false, markGoNodeQueued_after found⟩
    | releaseGoNodeQueueClaim => exact ⟨fun _ => false, releaseGoNodeQueueClaim_after found⟩
    | markGoNodeSucceeded => exact ⟨fun _ => false, markGoNodeSucceeded_after found⟩
    | markGoNodeFailed => exact ⟨fun _ => false, markGoNodeFailed_after found⟩
    | incrementGoNodeRetry => exact ⟨fun _ => false, incrementGoNodeRetry_after found⟩
    | skipGoDownstreamNodes => exact ⟨fun _ => false, skipGoDownstreamNodes_after found⟩
    | finalizeGoJob => exact ⟨fun _ => false, finalizeGoJob_after found⟩
    | listRecoverableGoJobs => exact ⟨fun _ => false, found⟩
    | resetStaleGoNodes _ staleBefore =>
      exact ⟨staleExecutions world.database staleBefore, resetStaleGoNodes_after found⟩
    | cancelJob => exact ⟨fun _ => false, cancelJob_after found⟩
    | setVideoScheduleState => exact ⟨fun _ => false, setVideoScheduleState_after found⟩
    | openVideoScheduleForJob => exact ⟨fun _ => false, openVideoScheduleForJob_after found⟩
    | markNodeRunning => exact ⟨fun _ => false, markNodeRunning_after found⟩
    | dispatch => exact ⟨fun _ => false, found⟩

/-- The primary keys of the jobs, and the keys of the node executions with the
job each belongs to. -/
def rowKeys (database : Database) : List Uuid × List (Uuid × Uuid) :=
  (database.jobs.rows.map JobRow.id,
    database.nodeExecutions.rows.map fun row => (row.id, row.jobID))

@[simp] theorem rowKeys_setArtifacts (artifacts : Table ArtifactRow.id) :
  rowKeys (database.setArtifacts artifacts) = rowKeys database := rfl

@[simp] theorem rowKeys_updateJobs {selected : JobRow → Bool}
  {change : JobRow → JobRow} {keeps : ∀ row, (change row).id = row.id} :
  rowKeys (database.updateJobs selected change keeps) = rowKeys database := by
  simp only [rowKeys, Database.updateJobs, Table.rows_update, List.map_map, Prod.mk.injEq, and_true]
  refine List.map_congr_left fun row _ => ?_
  simp only [Function.comp_apply]
  split
  · exact keeps row
  · rfl

theorem rowKeys_updateNodes (stable : ∀ row, (change row).jobID = row.jobID) :
  rowKeys (database.updateNodes selected change keeps) = rowKeys database := by
  simp only [rowKeys, Database.updateNodes, Table.rows_update, List.map_map,
    Prod.mk.injEq, true_and]
  refine List.map_congr_left fun row _ => ?_
  simp only [Function.comp_apply]
  split
  · rw [keeps, stable]
  · rfl

theorem rowKeys_guardedNodes (stable : ∀ row, (change row).jobID = row.jobID) :
  rowKeys (guardedNodes world selected change keeps).2.database = rowKeys world.database := by
  unfold guardedNodes
  split
  · exact rowKeys_updateNodes stable
  · rfl

@[simp] theorem rowKeys_guardedJobs {selected : JobRow → Bool}
  {change : JobRow → JobRow} {keeps : ∀ row, (change row).id = row.id} :
  rowKeys (guardedJobs world selected change keeps).2.database = rowKeys world.database := by
  unfold guardedJobs
  split
  · exact rowKeys_updateJobs
  · rfl

theorem rowKeys_exec (env : Env) (call : Call) (world : World)
  (kept : ∀ snapshot, call ≠ .createGoJob snapshot) :
  rowKeys (exec env call world).2.database = rowKeys world.database := by
  unfold exec
  split
  · rfl
  · cases call with
    | createGoJob snapshot => exact absurd rfl (kept snapshot)
    | getJobDetail jobID => simp only [answer]; split <;> rfl
    | createSourceArtifact jobID nodeExecutionID assetID =>
      simp only [answer, createSourceArtifact]
      repeat' split
      all_goals try rfl
      rw [rowKeys_setArtifacts]
      exact rowKeys_updateNodes fun _ => rfl
    | claimGoJobPlanning jobID executionPlan =>
      simp only [answer, claimGoJobPlanning]
      repeat' split
      all_goals first
        | rfl
        | exact rowKeys_guardedJobs
    | markGoJobRunning jobID => exact rowKeys_guardedJobs
    | markGoJobWaitingWindow jobID => exact rowKeys_guardedJobs
    | markGoNodeQueued nodeExecutionID inputArtifactIDs =>
      simp only [answer, markGoNodeQueued]
      repeat' split
      all_goals first
        | rfl
        | exact rowKeys_updateNodes fun _ => rfl
    | releaseGoNodeQueueClaim nodeExecutionID =>
      simp only [answer, releaseGoNodeQueueClaim]
      repeat' split
      all_goals first
        | rfl
        | exact rowKeys_updateNodes fun _ => rfl
    | markGoNodeSucceeded jobID nodeExecutionID outputArtifactID =>
      exact rowKeys_guardedNodes fun _ => rfl
    | markGoNodeFailed jobID nodeExecutionID errorMessage => exact rowKeys_guardedNodes fun _ => rfl
    | incrementGoNodeRetry jobID nodeExecutionID => exact rowKeys_guardedNodes fun _ => rfl
    | skipGoDownstreamNodes jobID nodeIDs =>
      simp only [answer, skipGoDownstreamNodes]
      split
      · exact rowKeys_updateNodes fun _ => rfl
      · rfl
    | finalizeGoJob jobID status errorMessage finals =>
      simp only [answer, finalizeGoJob]
      repeat' split
      all_goals try rfl
      rw [rowKeys_setArtifacts]
      exact rowKeys_updateJobs
    | resetStaleGoNodes jobID staleBefore =>
      simp only [answer, resetStaleGoNodes]
      split
      · exact rowKeys_updateNodes fun _ => rfl
      · rfl
    | cancelJob jobID =>
      simp only [answer, cancelJob]
      repeat' split
      all_goals try rfl
      refine (rowKeys_updateNodes ?_).trans rowKeys_updateJobs
      exact fun _ => rfl
    | setVideoScheduleState state =>
      simp only [answer, setVideoScheduleState]
      split
      · exact rowKeys_updateJobs
      · rfl
    | openVideoScheduleForJob expectedJobID =>
      simp only [answer, openVideoScheduleForJob]
      split
      · exact rowKeys_updateJobs
      · rfl
    | markNodeRunning nodeExecutionID workerID => exact rowKeys_updateNodes fun _ => rfl
    | _ => rfl

/-- Every node execution belongs to a job (the foreign key of
`node_executions`). -/
def Linked (database : Database) : Prop :=
  ∀ keys ∈ (rowKeys database).2, keys.2 ∈ (rowKeys database).1

theorem jobDetail_eq_none_iff : jobDetail database jobID = none ↔ jobID ∉ (rowKeys database).1 := by
  rw [jobDetail, Option.map_eq_none_iff, Table.find?_eq_none_iff]
  simp [rowKeys]

private theorem nodesOf_eq_nil (linked : Linked database)
  (absent : jobDetail database jobID = none) :
  database.nodesOf jobID = [] := by
  rw [jobDetail_eq_none_iff] at absent
  refine List.filter_eq_nil_iff.2 fun row member => ?_
  rw [decide_eq_true_eq]
  rintro rfl
  exact absent (linked (row.id, row.jobID)
    (List.mem_map_of_mem (f := fun row => (row.id, row.jobID)) member))

/-- A record as `createGoJobInTx` leaves it. -/
structure JobView.Fresh (job : JobView) (snapshot : PipelineDefinition) : Prop where
  status : job.status = .pending
  go : job.isGo = true
  snapshot_eq : job.pipelineSnapshot = snapshot
  unplanned : job.executionPlan = none
  pending : ∀ node ∈ job.nodes, node.status = .pending ∧ node.retryCount = 0
  nodeIDs : (job.nodes.map NodeExecutionView.nodeID).Perm snapshot.nodeIDs

private theorem nodeIDs_freshRows (enough : snapshot.nodes.length ≤ env.nodeIDs.length) :
  (freshRows env snapshot).map NodeExecutionRow.nodeID = snapshot.nodeIDs := by
  simp only [freshRows, List.map_map]
  rw [show NodeExecutionRow.nodeID ∘ (fun pair : PipelineNode × Uuid =>
    freshNode env.id pair.1 pair.2) = PipelineNode.id ∘ Prod.fst from rfl,
    ← List.map_map, List.map_fst_zip enough]
  rfl

private theorem createGoJob_fresh (linked : Linked database)
  (inserted : insertGoJob env snapshot database = some created) :
  ∃ job, jobDetail created env.id = some job ∧ job.Fresh snapshot := by
  obtain ⟨enough, jobInserted, nodesInserted⟩ := insertGoJob_eq_some inserted
  have absent : jobDetail database env.id = none := by
    rw [jobDetail, Option.map_eq_none_iff, Table.find?_eq_none_iff]
    exact (Table.insert_eq_some_iff.1 jobInserted).1
  have rows : (created.nodesOf env.id).Perm (freshRows env snapshot) := by
    have all := (Table.insertAll_perm nodesInserted).filter fun row => decide (row.jobID = env.id)
    rw [List.filter_append] at all
    have old := nodesOf_eq_nil linked absent
    simp only [Database.nodesOf] at old ⊢
    rw [old, List.append_nil] at all
    refine all.trans (List.Perm.of_eq (List.filter_eq_self.2 ?_))
    intro row member
    obtain ⟨_, -, _, rfl⟩ := mem_freshRows member
    exact decide_eq_true rfl
  refine ⟨jobView (freshJob env snapshot) (created.nodesOf env.id), ?_, ?_⟩
  · rw [jobDetail, Table.find?_insert jobInserted, freshJob, if_pos rfl]
    rfl
  · refine ⟨rfl, rfl, rfl, rfl, ?_, ?_⟩
    · intro node member
      obtain ⟨_, present, rfl⟩ := List.mem_map.1 member
      obtain ⟨_, -, _, rfl⟩ := mem_freshRows (rows.mem_iff.1 present)
      exact ⟨rfl, rfl⟩
    · rw [← nodeIDs_freshRows enough]
      simp only [jobView, List.map_map]
      exact rows.map _

private theorem exec_createGoJob (env : Env) (snapshot : PipelineDefinition) (world : World) :
  (exec env (.createGoJob snapshot) world).2 = world ∨
    ∃ created, insertGoJob env snapshot world.database = some created ∧
      (exec env (.createGoJob snapshot) world).2.database = created := by
  unfold exec
  split
  · exact .inl rfl
  · simp only [answer, createGoJob]
    split
    next created inserted => exact .inr ⟨created, inserted, rfl⟩
    · exact .inl rfl

section

variable (linked : Linked world.database)

include linked

theorem createGoJob_created
  (created : exec env (.createGoJob snapshot) world = (.ok jobID, after)) :
  ∃ job, jobDetail after.database jobID = some job ∧ job.Fresh snapshot := by
  unfold exec at created
  split at created
  · cases created
  · simp only [answer, createGoJob] at created
    split at created
    next inserted =>
      cases created
      exact createGoJob_fresh linked inserted
    · cases created

theorem Linked.exec (env : Env) (call : Call) : Linked (exec env call world).2.database := by
  by_cases creates : ∃ snapshot, call = .createGoJob snapshot
  · obtain ⟨snapshot, rfl⟩ := creates
    rcases exec_createGoJob env snapshot world with same | ⟨created, inserted, same⟩
    · rwa [same]
    · obtain ⟨-, jobInserted, nodesInserted⟩ := insertGoJob_eq_some inserted
      have jobs : ∀ id, id = env.id ∨ id ∈ (rowKeys world.database).1 →
        id ∈ (rowKeys created).1 := by
        intro id member
        have rows := (Table.insert_eq_some_iff.1 jobInserted).2
        rw [rowKeys, rows, List.mem_map]
        rcases member with rfl | member
        · exact ⟨freshJob env snapshot, Table.mem_place.2 (.inl rfl), rfl⟩
        · obtain ⟨row, present, named⟩ := List.mem_map.1 member
          exact ⟨row, Table.mem_place.2 (.inr present), named⟩
      rw [same]
      intro keys member
      obtain ⟨row, present, rfl⟩ := List.mem_map.1 member
      refine jobs _ ?_
      rcases List.mem_append.1 ((Table.insertAll_perm nodesInserted).mem_iff.1
        present) with fresh | old
      · obtain ⟨_, -, _, rfl⟩ := mem_freshRows fresh
        exact .inl rfl
      · exact .inr (linked (row.id, row.jobID)
          (List.mem_map_of_mem (f := fun row => (row.id, row.jobID)) old))
  · rw [Linked, rowKeys_exec env call world fun snapshot same =>
      creates ⟨snapshot, same⟩]
    exact linked

theorem exec_created (env : Env) (call : Call) (absent : jobDetail world.database jobID = none)
  (found : jobDetail (exec env call world).2.database jobID = some job) :
  ∃ snapshot, call = .createGoJob snapshot ∧ job.Fresh snapshot := by
  by_cases creates : ∃ snapshot, call = .createGoJob snapshot
  · obtain ⟨snapshot, rfl⟩ := creates
    refine ⟨snapshot, rfl, ?_⟩
    rcases exec_createGoJob env snapshot world with same | ⟨_, inserted, same⟩
    · rw [same, absent] at found
      cases found
    · rw [same] at found
      obtain ⟨_, freshFound, isFresh⟩ := createGoJob_fresh linked inserted
      by_cases named : env.id = jobID
      · subst named
        rw [found] at freshFound
        cases freshFound
        exact isFresh
      · -- The rows of every other job are as they were.
        obtain ⟨-, jobInserted, -⟩ := insertGoJob_eq_some inserted
        rw [jobDetail, Option.map_eq_none_iff] at absent
        rw [jobDetail, Table.find?_insert jobInserted, freshJob, if_neg named, absent] at found
        cases found
  · rw [jobDetail_eq_none_iff, ← rowKeys_exec env call world
      fun snapshot same => creates ⟨snapshot, same⟩,
      ← jobDetail_eq_none_iff, found] at absent
    cases absent

end

def World.initial : World where
  database :=
    { jobs := .empty
      nodeExecutions := .empty
      artifacts := .empty
      assets := .empty
      schedule := ⟨.opened, none⟩ }
  tasks := []

theorem linked_initial : Linked World.initial.database := by
  intro pair member
  cases member

/-- Nothing fails; the job gets the id 1 and its nodes the ids 1 and 2. -/
def calm : Env where
  fail := none
  now := 0
  id := 1
  nodeIDs := [1, 2]

def stepNode (id type : String) : PipelineNode :=
  { id := id, type := type, data := { label := "", config := .empty, assetID := none } }

variable (type : String)

def chain : PipelineDefinition where
  nodes := [stepNode "s" type, stepNode "t" "transcode"]
  edges := [⟨"e", "s", "t", "out", "in"⟩]

theorem acyclic_chain : Graph.Acyclic (chain type).Edge := by
  refine Graph.acyclic_of_rank (fun id => if id = "s" then 0 else 1) ?_
  rintro _ _ ⟨_, member, rfl, rfl⟩
  rw [List.mem_singleton.1 member]
  decide

def chainWorld : World := (exec calm (.createGoJob (chain type)) .initial).2

def startedWorld : World :=
  (machine.run (fun _ => calm) (startJob 1).run (chainWorld "transcode")).2

def runningWorld : World := (exec calm (.markNodeRunning 1 "worker@host") startedWorld).2

end VideoProcess.Go
