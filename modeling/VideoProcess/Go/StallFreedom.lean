import VideoProcess.Go.Serial

namespace VideoProcess.Go

open Data Program Fallible JobView

/-! A job driven by one operation at a time while the window is open never
stalls. -/

inductive Operation where
  | startJob
  | nodeCompleted (nodeExecutionID outputArtifactID : Uuid)
  | nodeFailed (nodeExecutionID : Uuid) (errorMessage : String)

namespace Operation

def program (jobID : Uuid) : Operation → Op Unit
  | .startJob => Go.startJob jobID
  | .nodeCompleted nodeExecutionID outputArtifactID =>
    onNodeCompleted jobID nodeExecutionID outputArtifactID
  | .nodeFailed nodeExecutionID errorMessage => onNodeFailed jobID nodeExecutionID errorMessage

def starts : Operation → Bool
  | .startJob => true
  | .nodeCompleted _ _ | .nodeFailed _ _ => false

end Operation

def pickUp (workers : Uuid → Option String) (node : NodeExecutionView) : NodeExecutionView :=
  match workers node.id with
  | some worker =>
    if node.status = .queued then
      { node with status := .running, workerID := some worker }
    else node
  | none => node

namespace JobView

variable {job : JobView} {upstream : String → String → Prop} (workers : Uuid → Option String)

theorem keeps_pickUp : Keeps (pickUp workers) := by
  intro node
  unfold pickUp
  repeat' split
  all_goals rfl

theorem status_pickUp (node : NodeExecutionView) : (pickUp workers node).status = node.status ∨
  node.status = .queued ∧ (pickUp workers node).status = .running := by
  unfold pickUp
  split
  · split
    · exact .inr ⟨‹_›, rfl⟩
    · exact .inl rfl
  · exact .inl rfl

theorem hasActiveNode_pickUp : hasActiveNode (job.mapNodes (pickUp workers)).nodes =
  hasActiveNode job.nodes := by
  simp only [hasActiveNode, mapNodes, List.any_map, Function.comp_def]
  congr 1
  funext node
  rcases status_pickUp workers node with same | ⟨queued, running⟩
  · rw [same]
  · rw [queued, running]
    rfl

theorem Healthy.pickUp (healthy : job.Healthy upstream) :
  (job.mapNodes (Go.pickUp workers)).Healthy upstream where
  sound := healthy.sound.mapNodes (keeps_pickUp workers)
  above := healthy.above
  quiet terminal := (hasActiveNode_pickUp workers).trans (healthy.quiet terminal)
  unblocked := by
    refine healthy.unblocked.mapNodes (keeps_pickUp workers) ?_ ?_ <;>
      intro node _ status <;>
      rcases status_pickUp workers node with _ | ⟨-, _⟩ <;>
      simp_all [NodeStatus.isFailed]
  supplied := by
    refine healthy.supplied.mapNodes (keeps_pickUp workers) ?_ ?_ <;>
      intro node _ status <;>
      rcases status_pickUp workers node with _ | ⟨_, _⟩ <;>
      simp_all [NodeStatus.isInFlight]

theorem Started.pickUp (started : job.Started upstream) :
  (job.mapNodes (Go.pickUp workers)).Started upstream where
  toHealthy := started.toHealthy.pickUp workers
  resolved := by
    refine started.resolved.mapNodes (keeps_pickUp workers) ?_
    intro node _ status
    rcases status_pickUp workers node with same | ⟨-, running⟩ <;> simp_all
  waiting := by
    refine started.waiting.mapNodes (keeps_pickUp workers) ?_ ?_ <;>
      intro node _ status <;>
      rcases status_pickUp workers node with same | ⟨-, running⟩ <;> simp_all
  live := started.live.imp_right (hasActiveNode_pickUp workers).trans

end JobView

/-- The history of one job: it is created, operations on it return without an
error, and between them workers pick its nodes up while anything may happen to
the rest of the world. The flag tells whether it was started. -/
inductive Session (jobID : Uuid) : Bool → World → Prop
  | created {before world : World} {env : Env} {snapshot : PipelineDefinition}
    (linked : Linked before.database)
    (creation : exec env (.createGoJob snapshot) before = (.ok jobID, world))
    (formed : snapshot.WellFormed) (acyclic : Graph.Acyclic snapshot.Edge)
    (opened : world.database.schedule = ⟨.opened, none⟩) :
    Session jobID false world
  | operated {started : Bool} {world after : World}
    (session : Session jobID started world) (operation : Operation)
    (returned : machine.Runs (fun _ _ => True) (operation.program jobID).run
      world (.ok ()) after) :
    Session jobID (started || operation.starts) after
  | worked {started : Bool} {world after : World} {job : JobView}
    (session : Session jobID started world)
    (found : jobDetail world.database jobID = some job)
    (workers : Uuid → Option String)
    (picked : jobDetail after.database jobID = some (job.mapNodes (pickUp workers)))
    (opened : after.database.schedule = world.database.schedule) :
    Session jobID started after

structure Serving (snapshot : PipelineDefinition) (jobID : Uuid)
  (started : Bool) (world : World) (job : JobView) : Prop where
  found : jobDetail world.database jobID = some job
  go : job.isGo = true
  shown : job.pipelineSnapshot = snapshot
  opened : world.database.schedule = ⟨.opened, none⟩
  healthy : job.Healthy (Relation.TransGen snapshot.Edge)
  begun : started = true → job.Started (Relation.TransGen snapshot.Edge)

namespace Serving

variable {snapshot : PipelineDefinition} {jobID : Uuid} {started : Bool}
  {world after : World} {job current : JobView}

theorem id_eq (serving : Serving snapshot jobID started world job) : job.id = jobID :=
  jobDetail_id serving.found

theorem moves (serving : Serving snapshot jobID started world job)
  (same : current.fixed = job.fixed) (moves : Moves world after job current)
  (healthy : current.Healthy (Relation.TransGen snapshot.Edge))
  (begun : started' = true → current.Started (Relation.TransGen snapshot.Edge)) :
  Serving snapshot jobID started' after current where
  found := serving.id_eq ▸ moves.found
  go := (isGo_of_fixed same).trans serving.go
  shown := (congrArg Fixed.pipelineSnapshot same).trans serving.shown
  opened := moves.schedule.trans serving.opened
  healthy := healthy
  begun := begun

def Kept (snapshot : PipelineDefinition) (jobID : Uuid) (started : Bool)
  (_ : Unit) (world : World) : Prop := ∃ job, Serving snapshot jobID started world job

section

variable (serving : Serving snapshot jobID started world job)

include serving

theorem startJob (returned : machine.Runs (fun _ _ => True) (startJob jobID).run world
  (.ok ()) after) :
  Kept snapshot jobID true () after := by
  rw [← serving.id_eq] at returned
  obtain ⟨current, same, moves, begun⟩ := returned.of_wp
    (safe_startJob (fun _ => trivial) (serving.id_eq ▸ serving.found)
      serving.healthy serving.go serving.opened)
  exact ⟨current, serving.moves same moves begun.toHealthy fun _ => begun⟩

theorem onNodeCompleted {id : Uuid} (returned : machine.Runs (fun _ _ => True)
  (onNodeCompleted jobID id artifactID).run world (.ok ()) after) :
  Kept snapshot jobID started () after := by
  have found : jobDetail world.database job.id = some job := serving.id_eq ▸ serving.found
  rw [← serving.id_eq] at returned
  rcases job.inert_or_active id with inert | ⟨listens, _, member, rfl, active⟩
  · exact returned.returned (Kept _ _ _) (safe_onNodeCompleted_inert
      (fun _ _ => trivial) found inert ⟨job, serving⟩)
  · refine returned.returned (Kept _ _ _) (safe_onNodeCompleted (fun _ _ => trivial) found
      serving.healthy.sound serving.go member listens active
      (fun final _ moves => ?_) (fun _ _ _ _ _ _ _ _ _ => trivial)
      fun _ _ _ => trivial)
    have moving := serving.healthy.moving member active
    refine ⟨_, serving.moves ?_ moves ?_ fun begun => ?_⟩
    · exact fixed_settled.trans ((fixed_mapNodes (keeps_queue.select _)).trans
        (fixed_mapNodes (keeps_complete.select _)))
    · exact ((serving.healthy.completed member active artifactID).dispatched moving).settled moving
    · exact (serving.begun begun).completed member active artifactID

theorem onNodeFailed {id : Uuid} (returned : machine.Runs (fun _ _ => True)
  (onNodeFailed jobID id message).run world (.ok ()) after) :
  Kept snapshot jobID started () after := by
  have found : jobDetail world.database job.id = some job := serving.id_eq ▸ serving.found
  rw [← serving.id_eq] at returned
  rcases job.inert_or_active id with inert | ⟨listens, node, member, rfl, active⟩
  · exact returned.returned (Kept _ _ _) (safe_onNodeFailed_inert
      (fun _ _ => trivial) found inert ⟨job, serving⟩)
  by_cases first : node.retryCount < 1
  · refine returned.returned (Kept _ _ _) (safe_onNodeFailed_retry (fun _ _ => trivial) found
      serving.healthy.sound serving.go member listens active first
      (fun final moves => ?_) fun _ _ _ => trivial)
    exact ⟨_, serving.moves fixed_retried moves (serving.healthy.retried member active)
      fun begun => (serving.begun begun).retried member active⟩
  · refine returned.returned (Kept _ _ _) (safe_onNodeFailed_final (fun _ _ => trivial) found
      serving.healthy.sound serving.go member listens active first
      (fun final moves => ?_) fun _ _ => trivial)
    exact ⟨_, serving.moves (fixed_settled.trans fixed_withFailure) moves
      ((serving.healthy.withFailure member active).settled (serving.healthy.moving member active))
      fun begun => (serving.begun begun).withFailure member active⟩

end

theorem created {before : World} (linked : Linked before.database)
  (creation : exec env (.createGoJob snapshot) before = (.ok jobID, world))
  (formed : snapshot.WellFormed)
  (opened : world.database.schedule = ⟨.opened, none⟩) :
  Kept snapshot jobID false () world := by
  obtain ⟨job, found, fresh⟩ := createGoJob_created linked creation
  have status : ∀ node ∈ job.nodes, node.status = .pending :=
    fun node member => (fresh.pending node member).1
  refine ⟨job, found, fresh.go, fresh.snapshot_eq, opened, ?_, fun begun => by cases begun⟩
  constructor
  · exact fresh.sound found formed
  · rw [fresh.snapshot_eq]
    exact fun _ _ path => path
  · exact quiet_of_moving (fresh.status ▸ rfl)
  · intro node _ _ other present _
    rw [status other present]
    rfl
  · intro node member inFlight
    rw [status node member] at inFlight
    cases inFlight

theorem worked (serving : Serving snapshot jobID started world job) {workers : Uuid → Option String}
  (picked : jobDetail after.database jobID = some (job.mapNodes (pickUp workers)))
  (opened : after.database.schedule = world.database.schedule) :
  Kept snapshot jobID started () after := by
  have healthy := serving.healthy.pickUp workers
  exact ⟨_, picked, serving.go, serving.shown, opened.trans serving.opened,
    healthy, fun begun => (serving.begun begun).pickUp workers⟩

end Serving

theorem Session.serving (session : Session jobID started world) :
  ∃ snapshot, Graph.Acyclic snapshot.Edge ∧ Serving.Kept snapshot jobID started () world := by
  induction session with
  | created linked creation formed acyclic opened =>
    exact ⟨_, acyclic, Serving.created linked creation formed opened⟩
  | operated _ operation returned ih =>
    obtain ⟨snapshot, acyclic, _, serving⟩ := ih
    refine ⟨snapshot, acyclic, ?_⟩
    cases operation with
    | startJob =>
      rw [Operation.starts, Bool.or_true]
      exact serving.startJob returned
    | nodeCompleted =>
      rw [Operation.starts, Bool.or_false]
      exact serving.onNodeCompleted returned
    | nodeFailed =>
      rw [Operation.starts, Bool.or_false]
      exact serving.onNodeFailed returned
  | worked _ found _ picked opened ih =>
    obtain ⟨snapshot, acyclic, _, serving⟩ := ih
    rw [serving.found] at found
    cases found
    exact ⟨snapshot, acyclic, serving.worked picked opened⟩

/-- The job is at rest or has a node with a worker, and every pending node has
a dependency that has not succeeded and no ancestor that failed, was skipped or
was cancelled. -/
def JobView.Progresses (job : JobView) : Prop :=
  (job.status.isTerminal = true ∨ ∃ node ∈ job.nodes,
    node.status = .queued ∨ node.status = .running) ∧
  ∀ node ∈ job.nodes, node.status = .pending → (∃ dependency ∈ job.nodes,
    job.pipelineSnapshot.Edge dependency.nodeID node.nodeID ∧ dependency.status ≠ .succeeded) ∧
    ∀ ancestor ∈ job.nodes,
      Relation.TransGen job.pipelineSnapshot.Edge ancestor.nodeID node.nodeID →
      ancestor.status ≠ .failed ∧ ancestor.status ≠ .skipped ∧ ancestor.status ≠ .cancelled

/-- From the first `StartJob` on the job progresses after every operation. -/
theorem session_never_stalls {jobID : Uuid} {world : World} (session : Session jobID true world) :
  ∃ job, jobDetail world.database jobID = some job ∧ job.Progresses := by
  obtain ⟨_, acyclic, job, serving⟩ := session.serving
  have begun := serving.begun rfl
  have shown := serving.shown
  subst shown
  refine ⟨job, serving.found, ?_, fun node member pending => ⟨?_, ?_⟩⟩
  · refine (begun.live.inFlight acyclic begun.waiting fun node member waits other present edge =>
      begun.unblocked node member waits other present (.single edge)).imp_right ?_
    rintro ⟨node, member, inFlight⟩
    refine ⟨node, member, ?_⟩
    revert inFlight
    cases node.status <;> decide
  · have unready := begun.waiting node member pending
    simpa only [Ready, not_forall, exists_prop] using unready
  · intro ancestor present path
    have healthy := begun.unblocked node member pending ancestor present path
    revert healthy
    cases ancestor.status <;> decide

theorem session_chain : Session 1 false (chainWorld "transcode") :=
  @Session.created 1 .initial _ calm (chain "transcode") linked_initial rfl
    (by decide) (acyclic_chain _) rfl

/-- Before that it need not: an event of an unknown node returns at once and
leaves the fresh job with a pending node that depends on nothing. -/
theorem session_stalls_before_start : Session 1 false (chainWorld "transcode") ∧
  machine.Runs (fun _ _ => True) (onNodeCompleted 1 9 9).run
    (chainWorld "transcode") (.ok ()) (chainWorld "transcode") ∧
  ∃ job, jobDetail (chainWorld "transcode").database 1 = some job ∧ ¬ job.Progresses := by
  refine ⟨session_chain, .of_run (fun _ => calm) rfl fun _ => trivial, _, rfl, ?_⟩
  exact fun progresses => absurd progresses.1 (by decide)

theorem session_never_stalls_chain : Session 1 true startedWorld ∧
  ∃ job, jobDetail startedWorld.database 1 = some job ∧ job.Progresses := by
  have session : Session 1 true startedWorld :=
    .operated session_chain .startJob (.of_run (fun _ => calm) rfl fun _ => trivial)
  exact ⟨session, session_never_stalls session⟩

end VideoProcess.Go
