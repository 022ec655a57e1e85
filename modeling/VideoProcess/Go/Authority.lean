import VideoProcess.Go.Absorption

namespace VideoProcess.Go

open Data Program JobView List

/-! When nodes are dispatched: the authority comes from an earlier claim of the
planning, and lasts until the job is at rest. -/

variable {world : World} {env : Env} {call : Call} {front back : List (Note × List Uuid)}
  {note : Note} {heard : List Uuid} {job current record view : JobView}
  {row after : NodeExecutionView} {jobID : Uuid}

/-- No retry is counted on a row that others finished since the operation last
read a job; a worker picks up what is queued. -/
def Call.Unretried (heard : List Uuid) (world : World) : Call → Prop
  | .incrementGoNodeRetry _ nodeExecutionID => nodeExecutionID ∉ heard
  | .markNodeRunning nodeExecutionID _ =>
    ∀ row ∈ world.database.nodeExecutions.rows, row.id = nodeExecutionID → row.status = .queued
  | _ => True

theorem Call.Undisturbed.unretried (undisturbed : call.Undisturbed heard world) :
  call.Unretried heard world := by
  cases call <;> first | exact undisturbed | trivial

section

variable (coherent : Coherent world (front ++ (note, heard) :: back))

include coherent

theorem Coherent.change_terminal
  (permits : note.Permits call) (unretried : call.Unretried heard world)
  (changes : RowChange env call world record current row after)
  (terminal : row.status.isTerminal = true) :
  after.status.isTerminal = true := by
  have change := changes.change
  have inactive : ¬ row.status.isActive = true := fun active =>
    NodeStatus.not_isTerminal active terminal
  generalize after.status = status at change ⊢
  cases change with
  | retried same _ named =>
    subst same named
    exact (inactive (coherent.active (permits.allows rfl) unretried
      changes.found changes.member)).elim
  | queued _ _ pending =>
    rw [pending] at terminal
    cases terminal
  | released _ _ queued =>
    rw [queued] at terminal
    cases terminal
  | reset _ _ inFlight =>
    revert inFlight terminal
    cases row.status <;> decide
  | running named =>
    obtain ⟨stored, present, -, rfl⟩ := (mem_nodes_jobDetail changes.found).1 changes.member
    have queued : (nodeView stored).status = .queued := unretried stored present named
    rw [queued] at terminal
    cases terminal
  | _ => rfl

def rested (_ : List Uuid) (_ : Uuid) (seen status : NodeStatus) : Prop :=
  seen.isTerminal = true → status.isTerminal = true

theorem Coherent.stable_rested
  (permits : note.Permits call) (unretried : call.Unretried heard world) :
  Stable env call world rested where
  read _ _ terminal := terminal
  succeeded _ _ _ := rfl
  hears _ _ _ _ _ held := held
  others _ _ _ _ _ changes _ held terminal :=
    coherent.change_terminal permits unretried changes (held terminal)
  own _ _ _ _ _ changes _ _ _ held terminal :=
    coherent.change_terminal permits unretried changes (held terminal)

end

theorem hasActiveNode_cancelled (moving : ¬ job.status.isTerminal = true) :
  hasActiveNode (job.after stale (.cancelJob job.id) (.ok ())).nodes = false := by
  simp only [JobView.after, updated]
  rw [if_pos ⟨trivial, moving⟩]
  refine hasActiveNode_eq_false.2 fun node member => ?_
  obtain ⟨_, -, rfl⟩ := mem_mapNodes.1 member
  split
  · rfl
  · exact Bool.eq_false_iff.2 ‹_›

structure AtRest (world : World) (books : List (Note × List Uuid)) : Prop where
  quiet : Records Quiet world
  seen : Views rested world books

namespace AtRest

theorem inactive (seen : Views rested world (front ++ (note, heard) :: back))
  (shown : note.view = some view) (named : view.id = record.id)
  (idle : hasActiveNode view.nodes = false)
  (found : jobDetail world.database record.id = some record) :
  hasActiveNode record.nodes = false := by
  obtain ⟨_, recorded, fixed, relation⟩ := seen (note, heard) (by simp) view shown
  rw [named, found] at recorded
  cases recorded
  rw [hasActiveNode_eq_false] at idle ⊢
  intro row member
  obtain ⟨node, present, same, -⟩ := exists_of_fixed fixed member
  have terminal := relation node present row member same.symm
    (by simpa [NodeStatus.isActive_eq_not_isTerminal] using idle node present)
  simp [NodeStatus.isActive_eq_not_isTerminal, terminal]

theorem answered (rest : AtRest world (front ++ (note, heard) :: back))
  (coherent : Coherent world (front ++ (note, heard) :: back))
  (permits : note.Permits call) (unretried : call.Unretried heard world) :
  AtRest (exec env call world).2 (booksAfter env call world front back note heard) := by
  refine ⟨rest.quiet.exec coherent.linked env call ?_ ?_,
    rest.seen.exec permits (coherent.stable_rested permits unretried)⟩
  · intro job current found go quiet step terminal
    have carried (idle : hasActiveNode job.nodes = false) :
      hasActiveNode current.nodes = false := by
      rw [hasActiveNode_eq_false] at idle ⊢
      intro after present
      obtain ⟨row, member, rowStep⟩ := step.row present
      rcases rowStep.status with same | ⟨worked, change⟩
      · rw [same]
        exact idle row member
      · have stopped := coherent.change_terminal permits unretried
          ⟨found, step, member, present, rowStep.fixed, worked, change⟩
          (by simpa [NodeStatus.isActive_eq_not_isTerminal] using idle row member)
        simp [NodeStatus.isActive_eq_not_isTerminal, stopped]
    rcases step.change with ⟨same, -⟩ | change
    · exact carried (quiet (same ▸ terminal))
    · generalize current.executionPlan = plan at change
      generalize current.status = status at change terminal
      generalize replied : (exec env call world).1 = reply at change
      cases change with
      | finalized same =>
        obtain ⟨_, shown, named, idle, -⟩ := permits.allows rfl
        exact carried (inactive rest.seen shown (named.trans same.symm) idle found)
      | cancelled same moving =>
        obtain ⟨_, rfl⟩ := step.effect
        rw [replied, ← same]
        exact hasActiveNode_cancelled moving
      | claimed | held | running | parked | reopened => cases terminal
  · intro snapshot job _ _ fresh
    refine quiet_of_moving ?_
    rw [fresh.status]
    rfl

end AtRest

def Planned (world : World) (jobID : Uuid) : Prop :=
  ∃ job, jobDetail world.database jobID = some job ∧ job.isGo = true ∧ job.executionPlan ≠ none

theorem RecordStep.planned (step : RecordStep env call world job current)
  (planned : job.executionPlan ≠ none) : current.executionPlan ≠ none := by
  rcases step.change with ⟨-, same⟩ | change
  · rwa [same]
  · generalize current.status = status at change
    generalize current.executionPlan = plan at change ⊢
    generalize (exec env call world).1 = reply at change
    cases change with
    | claimed => exact Option.some_ne_none _
    | _ => exact planned

theorem Planned.exec (planned : Planned world jobID) (env : Env) (call : Call) :
  Planned (exec env call world).2 jobID := by
  obtain ⟨_, found, go, plan⟩ := planned
  obtain ⟨current, step⟩ := RecordStep.of_found env call found
  exact ⟨current, jobDetail_id found ▸ step.found,
    (isGo_of_fixed step.fixed).trans go, step.planned plan⟩

theorem planned_of_claims (found : jobDetail world.database jobID = some job)
  (replied : (exec env (.claimGoJobPlanning jobID plan) world).1 = .ok true) :
  Planned (exec env (.claimGoJobPlanning jobID plan) world).2 jobID := by
  have named := jobDetail_id found
  subst named
  obtain ⟨go, claims⟩ := claimGoJobPlanning_replied found replied
  have moving : ¬ job.status.isTerminal = true := by
    intro terminal
    have action := claims.1 rfl
    simp [goJobPlanningActionFor, terminal] at action
  obtain ⟨_, changed⟩ := exec_jobDetail env (.claimGoJobPlanning job.id plan) found
  rw [replied] at changed
  simp only [JobView.after, updated] at changed
  rw [if_pos ⟨trivial, go, moving⟩, if_pos trivial] at changed
  exact ⟨_, changed, go, Option.some_ne_none _⟩

/-- The job the operation may dispatch nodes of after a request. -/
inductive NextJob (note : Note) : (call : Call) → Except String call.Result → Uuid → Prop
  | claimed {jobID : Uuid} {plan : ExecutionPlan} :
    NextJob note (.claimGoJobPlanning jobID plan) (.ok true) jobID
  | kept {call : Call} {reply : Except String call.Result} {jobID : Uuid}
    (authority : note.job = some jobID) : NextJob note call reply jobID

theorem nextJob {note : Note} (call : Call) (reply : Except String call.Result)
  (authority : (note.next call reply).job = some jobID) :
  NextJob note call reply jobID := by
  cases reply with
  | error => exact .kept (by cases call <;> exact authority)
  | ok result =>
    cases call with
    | claimGoJobPlanning =>
      cases result with
      | false => exact .kept authority
      | true =>
        cases authority
        exact .claimed
    | _ => exact .kept authority

theorem exec_tasks (env : Env) (call : Call) (world : World)
  (queued : task ∈ (exec env call world).2.tasks) :
  task ∈ world.tasks ∨ ∃ payload, call = .dispatch payload ∧ task.jobID = payload.jobID := by
  unfold exec at queued
  split at queued
  · exact .inl queued
  · cases call with
    | dispatch payload =>
      simp only [answer, mem_append, mem_singleton] at queued
      rcases queued with old | rfl
      · exact .inl old
      · exact .inr ⟨payload, rfl, rfl⟩
    | _ =>
      refine .inl ?_
      revert queued
      simp only [answer, createGoJob, createSourceArtifact,
        claimGoJobPlanning, markGoJobRunning, markGoJobWaitingWindow,
        markGoNodeQueued, releaseGoNodeQueueClaim, markGoNodeSucceeded,
        markGoNodeFailed, incrementGoNodeRetry, skipGoDownstreamNodes,
        finalizeGoJob, resetStaleGoNodes, cancelJob, setVideoScheduleState,
        openVideoScheduleForJob, markNodeRunning, guardedJobs, guardedNodes]
      repeat' split
      all_goals exact fun queued => queued

/-- A job with a plan is parked by no one. -/
def Call.Unparked (world : World) : Call → Prop
  | .markGoJobWaitingWindow jobID =>
    ∀ job, jobDetail world.database jobID = some job → job.executionPlan = none
  | .claimGoJobPlanning jobID _ =>
    ∀ job, jobDetail world.database jobID = some job →
      goJobPlanningActionFor world.database.schedule jobID job.status =
        .park → job.executionPlan = none
  | _ => True

def JobView.Engaged (job : JobView) : Prop :=
  job.executionPlan ≠ none → job.status = .planning ∨ job.status = .running ∨
    job.status.isTerminal = true

structure Authorized (world : World) (books : List (Note × List Uuid)) : Prop where
  rest : AtRest world books
  engaged : Records Engaged world
  tasks : ∀ task ∈ world.tasks, Planned world task.jobID
  jobs : ∀ book ∈ books, ∀ jobID, book.1.job = some jobID → Planned world jobID

theorem RecordStep.engaged (step : RecordStep env call world job current)
  (found : jobDetail world.database job.id = some job)
  (engaged : job.Engaged) (unparked : call.Unparked world)
  (permits : note.Permits call) : current.Engaged := by
  rcases step.change with ⟨status, plan⟩ | change
  · unfold Engaged
    rwa [status, plan]
  · unfold Engaged
    generalize current.status = status at change ⊢
    generalize current.executionPlan = plan at change ⊢
    generalize replied : (exec env call world).1 = reply at change
    cases change with
    | claimed => exact fun _ => .inl rfl
    | running => exact fun _ => .inr (.inl rfl)
    | finalized =>
      obtain ⟨-, -, -, -, terminal⟩ := permits.allows rfl
      exact fun _ => .inr (.inr terminal)
    | cancelled => exact fun _ => .inr (.inr rfl)
    | held same _ moving =>
      subst same
      have unclaimed := (claimGoJobPlanning_replied found replied).2
      refine fun planned => (planned (unparked job found
        (goJobPlanningActionFor_moving moving fun claim => ?_))).elim
      cases unclaimed.2 claim
    | parked same =>
      subst same
      exact fun planned => (planned (unparked job found)).elim
    | reopened waiting =>
      intro planned
      rcases engaged planned with status | status | terminal
      · rw [waiting] at status
        cases status
      · rw [waiting] at status
        cases status
      · rw [waiting] at terminal
        cases terminal

theorem Authorized.answered (authorized : Authorized world (front ++ (note, heard) :: back))
  (coherent : Coherent world (front ++ (note, heard) :: back))
  (permits : note.Permits call) (unretried : call.Unretried heard world)
  (unparked : call.Unparked world) :
  Authorized (exec env call world).2 (booksAfter env call world front back note heard) := by
  refine ⟨authorized.rest.answered coherent permits unretried, ?_, ?_, ?_⟩
  · refine authorized.engaged.exec coherent.linked env call ?_ ?_
    · intro job current found _ engaged step
      exact step.engaged found engaged unparked permits
    · intro snapshot job _ _ fresh planned
      exact (planned fresh.unplanned).elim
  · intro task queued
    rcases exec_tasks env call world queued with old | ⟨payload, rfl, same⟩
    · exact (authorized.tasks task old).exec env call
    · rw [same]
      exact (authorized.jobs (note, heard) (by simp) payload.jobID (permits.allows rfl)).exec env _
  · intro book member jobID authority
    rcases mem_booksAfter member with ⟨other, present, rfl⟩ | rfl
    · exact (authorized.jobs other present jobID authority).exec env call
    · generalize replied : (exec env call world).1 = reply at authority
      cases nextJob call reply authority with
      | kept authority =>
        exact (authorized.jobs (note, heard) (by simp) jobID authority).exec env call
      | claimed =>
        obtain ⟨view, shown, rfl, -⟩ := permits.allows rfl
        obtain ⟨_, found, -⟩ := coherent.seen (note, heard) (by simp) view shown
        exact planned_of_claims found replied

/-- Events answer tasks that were dispatched. -/
def Activity.Answers (world : World) : Activity → Prop
  | .handle event => ∃ task ∈ world.tasks, task.jobID = event.jobID ∧
    task.nodeExecutionID = event.nodeExecutionID
  | _ => True

def orderly : InterleavingRules where
  start world program note := Activity.Starts (·.Answers world) program note
  call _ heard call _ world :=
    call.Unretried heard world ∧ call.Unparked world
  abandon _ := True

theorem Authorized.of_blank (blank : world.Blank) : Authorized world [] := by
  have none (property : JobView → Prop) : Records property world := by
    intro jobID job found go
    rw [blank.unowned jobID job found] at go
    cases go
  refine ⟨⟨none _, fun book member => absurd member not_mem_nil⟩, none _,
    ?_, fun book member => absurd member not_mem_nil⟩
  intro task queued
  rw [blank.untasked] at queued
  exact absurd queued not_mem_nil

theorem Authorized.start (authorized : Authorized world books)
  (starts : Activity.Starts (·.Answers world) program note) :
  Authorized world (books ++ [(note, [])]) := by
  refine ⟨⟨authorized.rest.quiet,
    authorized.rest.seen.start starts.forgetful.1⟩, authorized.engaged,
    authorized.tasks, ?_⟩
  intro book member jobID authority
  rcases mem_append.1 member with old | new
  · exact authorized.jobs book old jobID authority
  · cases mem_singleton.1 new
    obtain ⟨activity, -, answers, -, rfl⟩ := starts
    cases activity with
    | handle =>
      obtain ⟨task, queued, same, -⟩ := answers
      cases authority
      rw [← same]
      exact authorized.tasks task queued
    | _ => cases authority

theorem Authorized.leave (authorized : Authorized world (front ++ (note, heard) :: back)) :
  Authorized world (front ++ back) :=
  ⟨⟨authorized.rest.quiet, fun book member =>
    authorized.rest.seen book (mem_of_others member)⟩,
    authorized.engaged, authorized.tasks,
    fun book member => authorized.jobs book (mem_of_others member)⟩

theorem invariant_orderly : Pool.Invariant machine observer orderly protocol
  (fun _ => True) fun world books =>
    Coherent world books ∧ Authorized world books :=
  invariant_coherent (fun _ => trivial) (fun starts => ⟨_, starts⟩)
    (fun _ authorized starts => authorized.start starts)
    (fun coherent authorized permits rules =>
      authorized.answered coherent permits rules.1 rules.2)
    (fun _ authorized => authorized.leave) fun _ _ => trivial

/-- An operation is about to claim the node execution, and will get it. -/
def Claims (pool : Interleaved) (nodeExecutionID : Uuid) : Prop :=
  ∃ front inputs next note heard back env, pool.threads = front ++
    ⟨.call (.markGoNodeQueued nodeExecutionID inputs) next, note, heard⟩ :: back ∧
    (exec env (.markGoNodeQueued nodeExecutionID inputs) pool.state).1 = .ok true

def BelongsTo (world : World) (nodeExecutionID : Uuid) (status : JobStatus) : Prop :=
  ∃ job, jobDetail world.database job.id = some job ∧
    (∃ node ∈ job.nodes, node.id = nodeExecutionID) ∧ job.status = status

theorem pending_of_claims (found : jobDetail world.database job.id = some job)
  (go : job.isGo = true) (member : node ∈ job.nodes)
  (claimed : (exec env (.markGoNodeQueued node.id inputs) world).1 =
    .ok true) : node.status = .pending := by
  cases works : env.fail with
  | some =>
    rw [exec, works] at claimed
    cases claimed
  | none =>
    rw [markGoNodeQueued_reply works found go member] at claimed
    simpa using claimed

/-- In every interleaving in which events answer dispatched tasks, no job that
was planned is parked and no retry is counted on a node that others finished, a
node is claimed only while its job is being planned or running. -/
theorem claims_while_engaged {initial : World} (blank : initial.Blank)
  {pool : Interleaved} {nodeExecutionID : Uuid}
  (reached : Pool.Reachable machine observer orderly initial pool)
  (claims : Claims pool nodeExecutionID) :
  BelongsTo pool.state nodeExecutionID .planning ∨
    BelongsTo pool.state nodeExecutionID .running := by
  have kept := Pool.Reachable.kept invariant_orderly ⟨.of_blank blank, .of_blank blank⟩ reached
  obtain ⟨state, _⟩ := pool
  obtain ⟨_, _, _, note, heard, _, _, rfl, claimed⟩ := claims
  obtain ⟨permits, coherent, authorized⟩ := kept.calling
  obtain ⟨view, shown, authority, _, listed, rfl, -⟩ := Note.Permits.allows permits rfl
  obtain ⟨record, found, go, planned⟩ := authorized.jobs (note, heard) (by simp) view.id authority
  obtain ⟨_, recorded, fixed, -⟩ := coherent.seen (note, heard) (by simp) view shown
  rw [found] at recorded
  cases recorded
  have named := jobDetail_id found
  rw [← named] at found
  obtain ⟨node, member, same, -⟩ := exists_of_fixed fixed.symm listed
  rw [← same] at claimed ⊢
  have pending := pending_of_claims found go member claimed
  have belongs : ∀ status, record.status = status → BelongsTo state node.id status :=
    fun status held => ⟨record, found, ⟨node, member, rfl⟩, held⟩
  rcases authorized.engaged record.id record found go planned with
    planning | running | terminal
  · exact .inl (belongs _ planning)
  · exact .inr (belongs _ running)
  · have idle := authorized.rest.quiet record.id record found go terminal
    rw [hasActiveNode_eq_false] at idle
    have inactive := idle node member
    rw [pending] at inactive
    cases inactive

def claiming (pool : Interleaved) (nodeExecutionID : Uuid) : Bool :=
  pool.threads.any fun thread =>
    match thread.program with
    | .call (.markGoNodeQueued claimed inputs) _ =>
      claimed = nodeExecutionID && match (exec calm (.markGoNodeQueued nodeExecutionID inputs)
        pool.state).1 with
        | .ok granted => granted
        | .error _ => false
    | _ => false

theorem claims_of_claiming (claiming : claiming pool nodeExecutionID = true) :
  Claims pool nodeExecutionID := by
  obtain ⟨⟨_, note, heard⟩, member, held⟩ := any_eq_true.1 claiming
  obtain ⟨front, back, threads⟩ := append_of_mem member
  dsimp only at held
  split at held
  next inputs next =>
    obtain ⟨same, granted⟩ := Bool.and_eq_true_iff.1 held
    cases of_decide_eq_true same
    refine ⟨front, inputs, next, note, heard, back, calm, threads, ?_⟩
    split at granted
    next replied => rw [replied, granted]
    · cases granted
  · cases held

instance (world : World) (nodeExecutionID : Uuid) (status : JobStatus) :
  Decidable (BelongsTo world nodeExecutionID status) :=
  decidable_of_iff (∃ row ∈ world.database.nodeExecutions.rows,
    row.id = nodeExecutionID ∧ (jobDetail world.database row.jobID).any
      fun job => job.status = status) <| by
    constructor
    · rintro ⟨row, present, rfl, held⟩
      obtain ⟨job, found, same⟩ := (Option.any_eq_true _ _).1 held
      have named := jobDetail_id found
      refine ⟨job, named ▸ found, ⟨nodeView row, ?_, rfl⟩, of_decide_eq_true same⟩
      exact (mem_nodes_jobDetail found).2 ⟨row, present, rfl, rfl⟩
    · rintro ⟨job, found, ⟨node, member, rfl⟩, same⟩
      obtain ⟨row, present, owner, rfl⟩ := (mem_nodes_jobDetail found).1 member
      refine ⟨row, present, rfl, (Option.any_eq_true _ _).2 ⟨job, ?_, ?_⟩⟩
      · rw [owner]
        exact found
      · exact decide_eq_true same

def tidy : Pool.Checks storeInterface World Env Note (List Uuid) (Except String Unit) Activity :=
  schedule (fun world activity =>
    match activity with
    | .handle event => world.tasks.any fun task =>
      task.jobID = event.jobID ∧ task.nodeExecutionID = event.nodeExecutionID
    | _ => true)
    (fun heard call _ world =>
      match call with
      | .incrementGoNodeRetry _ nodeExecutionID => nodeExecutionID ∉ heard
      | .claimGoJobPlanning jobID _ => (jobDetail world.database jobID).all
        fun job => goJobPlanningActionFor world.database.schedule jobID job.status ≠ .park
      | .markNodeRunning _ _ | .markGoJobWaitingWindow _ => false
      | _ => true)
    fun _ => true

theorem sound_tidy : tidy.Sound orderly where
  start world activity known := by
    obtain ⟨known, answers⟩ := Bool.and_eq_true_iff.1 known
    refine ⟨activity, activity.valid_of_known known, ?_, rfl, rfl⟩
    cases activity with
    | handle =>
      obtain ⟨task, queued, same⟩ := any_eq_true.1 answers
      exact ⟨task, queued, of_decide_eq_true same⟩
    | _ => trivial
  call _ heard call _ world permitted := by
    cases call with
    | incrementGoNodeRetry _ nodeExecutionID =>
      have unheard : nodeExecutionID ∉ heard := of_decide_eq_true permitted
      exact ⟨unheard, trivial⟩
    | claimGoJobPlanning =>
      refine ⟨trivial, fun job found parks => ?_⟩
      have unparked := (Option.all_eq_true _ _).1 permitted job found
      exact (of_decide_eq_true unparked parks).elim
    | markNodeRunning | markGoJobWaitingWindow => cases permitted
    | _ => exact ⟨trivial, trivial⟩
  abandon _ _ := trivial

/-- A job that is started and completed up to the claim of its second node. -/
def completing : List (Pool.Action Env Activity) :=
  [.start (.createGoJob (chain "transcode")), .call 0 calm, .finish 0,
    .start (.startJob 1), .call 0 calm, .call 0 calm, .call 0 calm,
    .call 0 calm, .call 0 calm, .call 0 calm, .finish 0,
    .start (.handle (.nodeCompleted 1 1 7)), .call 0 calm, .call 0 calm,
    .call 0 calm]

theorem claims_while_engaged_chain : ∃ pool : Interleaved, World.initial.Blank ∧ Claims pool 2 ∧
  (BelongsTo pool.state 2 .planning ∨ BelongsTo pool.state 2 .running) := by
  have ran : ((Pool.play machine observer tidy completing
    ⟨World.initial, []⟩).any fun pool => claiming pool 2) = true := by
    decide +kernel
  obtain ⟨reached, claims⟩ := (Option.any_eq_true_iff_get _ _).1 ran
  have claims := claims_of_claiming claims
  exact ⟨_, blank_initial, claims, claims_while_engaged blank_initial
    (Pool.steps_of_play sound_tidy (Option.some_get reached).symm) claims⟩

/-- The window is closed, and a second `StartJob` parks the running job while
a completion is on its way. -/
def parkedMeanwhile : List (Pool.Action Env Activity) :=
  [.start (.createGoJob (chain "transcode")), .call 0 calm, .finish 0,
    .start (.startJob 1), .call 0 calm, .call 0 calm, .call 0 calm,
    .call 0 calm, .call 0 calm, .call 0 calm, .finish 0,
    .start (.setVideoScheduleState .closed), .call 0 calm, .finish 0,
    .start (.startJob 1), .call 0 calm, .call 0 calm, .call 0 calm, .finish 0,
    .start (.handle (.nodeCompleted 1 1 7)), .call 0 calm, .call 0 calm,
    .call 0 calm]

/-- The second node of a job that waits for the window is dispatched. -/
theorem claims_while_waiting : ∃ pool : Interleaved,
  Pool.Reachable machine observer unrestricted World.initial pool ∧
    Claims pool 2 ∧ BelongsTo pool.state 2 .waitingWindow ∧
    ¬ (BelongsTo pool.state 2 .planning ∨ BelongsTo pool.state 2 .running) := by
  have ran : ((Pool.play machine observer free parkedMeanwhile
    ⟨World.initial, []⟩).any fun pool => claiming pool 2 &&
      decide (BelongsTo pool.state 2 .waitingWindow) &&
      decide (¬ (BelongsTo pool.state 2 .planning ∨
        BelongsTo pool.state 2 .running))) = true := by
    decide +kernel
  simp only [Option.any_eq_true_iff_get, Bool.and_eq_true, decide_eq_true_eq] at ran
  obtain ⟨reached, ⟨claims, waiting⟩, disengaged⟩ := ran
  exact ⟨_, Pool.steps_of_play sound_free (Option.some_get reached).symm,
    claims_of_claiming claims, waiting, disengaged⟩

end VideoProcess.Go
