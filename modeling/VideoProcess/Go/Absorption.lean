import VideoProcess.Go.Interleaving

namespace VideoProcess.Go

open Data Program JobView

/-! A terminal status is final in every interleaving in which no one else
finishes the row between this read and the write. -/

/-- The row was not finished by others since the operation last read a job; a
worker picks up what is queued. -/
def Call.Undisturbed (heard : List Uuid) (world : World) : Call → Prop
  | .createSourceArtifact _ nodeExecutionID _
  | .markGoNodeSucceeded _ nodeExecutionID _
  | .markGoNodeFailed _ nodeExecutionID _
  | .incrementGoNodeRetry _ nodeExecutionID => nodeExecutionID ∉ heard
  | .markNodeRunning nodeExecutionID _ =>
    ∀ row ∈ world.database.nodeExecutions.rows, row.id = nodeExecutionID → row.status = .queued
  | _ => True

def undisturbed : InterleavingRules where
  start _ program note := Activity.Starts (fun _ => True) program note
  call _ heard call _ world := call.Undisturbed heard world
  abandon _ := True

variable {world : World} {env : Env} {call : Call}
  {front back : List (Note × List Uuid)} {note : Note}
  {heard : List Uuid} {record current : JobView}
  {row after : NodeExecutionView}

namespace Coherent

section

variable (coherent : Coherent world (front ++ (note, heard) :: back))

include coherent

theorem active (holds : note.Holds record.id row.id) (undisturbed : row.id ∉ heard)
  (found : jobDetail world.database record.id = some record)
  (member : row ∈ record.nodes) : row.status.isActive = true := by
  obtain ⟨view, shown, named, -, node, present, identified, active⟩ := holds
  obtain ⟨_, recorded, -, relation⟩ := coherent.seen (note, heard) (by simp) view shown
  rw [named, found] at recorded
  cases recorded
  exact (relation node present row member identified.symm active).resolve_right undisturbed

theorem change_active (permits : note.Permits call) (undisturbed : call.Undisturbed heard world)
  (changes : RowChange env call world record current row after) :
  row.status.isActive = true := by
  have change := changes.change
  generalize after.status = status at change
  have held (holds : note.Holds record.id row.id) (free : row.id ∉ heard) :=
    coherent.active holds free changes.found changes.member
  cases change with
  | resolved same _ named =>
    subst same named
    exact held (permits.allows rfl) undisturbed
  | succeeded same _ named =>
    subst same named
    exact held (permits.allows rfl) undisturbed
  | failed same _ named =>
    subst same named
    exact held (permits.allows rfl) undisturbed
  | retried same _ named =>
    subst same named
    exact held (permits.allows rfl) undisturbed
  | queued _ _ pending =>
    rw [pending]
    rfl
  | released _ _ queued =>
    rw [queued]
    rfl
  | skipped _ _ skips =>
    rcases (of_decide_eq_true skips).2 with pending | queued
    · rw [pending]
      rfl
    · rw [queued]
      rfl
  | reset _ _ inFlight =>
    revert inFlight
    cases row.status <;> decide
  | cancelled _ _ active => exact active
  | running named =>
    obtain ⟨stored, present, -, rfl⟩ := (mem_nodes_jobDetail changes.found).1 changes.member
    have queued : (nodeView stored).status = .queued := undisturbed stored present named
    rw [queued]
    rfl

end

end Coherent

def HasStatus (world : World) (jobID nodeExecutionID : Uuid) (status : NodeStatus) : Prop :=
  ∃ job, jobDetail world.database jobID = some job ∧ job.isGo = true ∧
    ∃ node ∈ job.nodes, node.id = nodeExecutionID ∧ node.status = status

instance (world : World) (jobID nodeExecutionID : Uuid) (status : NodeStatus) :
  Decidable (HasStatus world jobID nodeExecutionID status) :=
  match found : jobDetail world.database jobID with
  | none => isFalse fun ⟨job, present, _⟩ => by
    rw [found] at present
    cases present
  | some job =>
    decidable_of_iff (job.isGo = true ∧ ∃ node ∈ job.nodes,
      node.id = nodeExecutionID ∧ node.status = status)
      ⟨fun held => ⟨job, found, held⟩, fun ⟨other, present, held⟩ => by
        rw [found] at present
        cases present
        exact held⟩

def Absorbs (before after : World) : Prop :=
  ∀ jobID nodeExecutionID status, status.isTerminal = true →
    HasStatus before jobID nodeExecutionID status →
    HasStatus after jobID nodeExecutionID status

theorem Absorbs.refl (world : World) : Absorbs world world := fun _ _ _ _ held => held

theorem Absorbs.trans {after : World} (first : Absorbs before middle)
  (second : Absorbs middle after) :
  Absorbs before after :=
  fun jobID nodeExecutionID status terminal held =>
    second jobID nodeExecutionID status terminal (first jobID nodeExecutionID status terminal held)

instance (heard : List Uuid) (world : World) (call : Call) :
  Decidable (call.Undisturbed heard world) :=
  match call with
  | .createSourceArtifact _ nodeExecutionID _
  | .markGoNodeSucceeded _ nodeExecutionID _
  | .markGoNodeFailed _ nodeExecutionID _
  | .incrementGoNodeRetry _ nodeExecutionID => inferInstanceAs (Decidable (nodeExecutionID ∉ heard))
  | .markNodeRunning nodeExecutionID _ =>
    inferInstanceAs (Decidable (∀ row ∈ world.database.nodeExecutions.rows,
      row.id = nodeExecutionID → row.status = .queued))
  | .createGoJob _ | .getJobDetail _ | .getVideoScheduleAuthority
  | .claimGoJobPlanning _ _ | .markGoJobRunning _ | .markGoJobWaitingWindow _
  | .markGoNodeQueued _ _ | .releaseGoNodeQueueClaim _
  | .skipGoDownstreamNodes _ _ | .finalizeGoJob _ _ _ _
  | .listRecoverableGoJobs | .resetStaleGoNodes _ _ | .cancelJob _
  | .setVideoScheduleState _ | .openVideoScheduleForJob _ | .dispatch _ => isTrue trivial

/-- A completion is handled up to its read, then the job is cancelled. -/
def cancelledMeanwhile : List (Pool.Action Env Activity) :=
  [.start (.createGoJob (chain "transcode")), .call 0 calm, .finish 0,
    .start (.startJob 1), .call 0 calm, .call 0 calm, .call 0 calm,
    .call 0 calm, .call 0 calm, .call 0 calm, .finish 0,
    .start (.handle (.nodeCompleted 1 1 7)), .call 0 calm,
    .start (.cancelJob 1), .call 1 calm, .finish 1]

/-- What a job keeps: its owner, snapshot and node rows, and once it is terminal
its status and plan. -/
def Settles (before after : World) : Prop :=
  ∀ jobID job, jobDetail before.database jobID = some job →
    ∃ current, jobDetail after.database jobID = some current ∧ current.fixed = job.fixed ∧
      (job.status.isTerminal = true →
        current.status = job.status ∧ current.executionPlan = job.executionPlan)

theorem settles_exec (env : Env) (call : Call) (world : World) :
  Settles world (exec env call world).2 := by
  intro jobID job found
  obtain ⟨current, step⟩ := RecordStep.of_found env call found
  refine ⟨current, jobDetail_id found ▸ step.found, step.fixed, fun terminal => ?_⟩
  exact step.change.resolve_right fun change => change.not_terminal _ _ terminal

/-- Unlike its nodes, a terminal job stays as it is, whatever runs beside it
and wherever that stops. -/
theorem terminal_job_stays {R : InterleavingRules} {pool later : Interleaved}
  (run : Relation.ReflTransGen (Pool.Step machine observer R) pool later) :
  Settles pool.state later.state := by
  refine Pool.related (fun _ _ job found => ⟨job, found, rfl, fun _ => ⟨rfl, rfl⟩⟩) ?_
    settles_exec run
  intro _ _ _ before after jobID job found
  obtain ⟨middle, found', fixed, stays⟩ := before jobID job found
  obtain ⟨current, found'', fixed', stays'⟩ := after jobID middle found'
  refine ⟨current, found'', fixed'.trans fixed, fun terminal => ?_⟩
  obtain ⟨status, plan⟩ := stays terminal
  obtain ⟨status', plan'⟩ := stays' (status ▸ terminal)
  exact ⟨status'.trans status, plan'.trans plan⟩

theorem cancelled_job_stays : ∃ pool later : Interleaved,
  (jobDetail pool.state.database 1).any (·.status = .cancelled) = true ∧
    Settles pool.state later.state := by
  have ran : ((Pool.play machine observer free cancelledMeanwhile ⟨World.initial, []⟩).any
    fun pool => (jobDetail pool.state.database 1).any (·.status = .cancelled) &&
      (Pool.play machine observer free [.call 0 calm] pool).isSome) = true := by
    decide +kernel
  obtain ⟨pool, -, both⟩ := (Option.any_eq_true _ _).1 ran
  obtain ⟨cancelled, resumed⟩ := Bool.and_eq_true_iff.1 both
  obtain ⟨later, played⟩ := Option.isSome_iff_exists.1 resumed
  exact ⟨pool, later, cancelled, terminal_job_stays (Pool.steps_of_play sound_free played)⟩

end VideoProcess.Go
