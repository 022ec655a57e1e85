import VideoProcess.Go.Serial

namespace VideoProcess.Go

open Data Program Fallible JobView

/-! The event stream delivers a message at least once, and an event does not
name the attempt it is about. -/

/-- The store works; the dispatcher takes the tasks of the node executions that
`accepts` names. -/
def delivering (accepts : Uuid → Bool) : Call → Env → Prop
  | .dispatch payload, env => env.fail = none ↔ accepts payload.nodeExecutionID = true
  | _, env => env.fail = none

/-- The message is handled once for each verdict of the dispatcher. An error is
not acknowledged, so the message comes back. -/
inductive Deliveries (event : Event) : List (Uuid → Bool) → World → World → Prop
  | none (world : World) : Deliveries event [] world world
  | again {accepts : Uuid → Bool} {rest : List (Uuid → Bool)}
    {world middle after : World} {outcome : Except String Unit}
    (handled : machine.Runs (delivering accepts) (handle event).run world outcome middle)
    (later : Deliveries event rest middle after) :
    Deliveries event (accepts :: rest) world after

/-- The columns of a job that redelivery must not change. -/
def JobView.outcome (job : JobView) : JobStatus × List (Uuid × NodeStatus × Nat) :=
  (job.status, job.nodes.map fun node => (node.id, node.status, node.retryCount))

/-- Handling the message for each of the verdicts leaves the job as handling it
once with success does. -/
def RedeliveryIdempotent (event : Event) (verdicts : List (Uuid → Bool)) (world : World) : Prop :=
  ∀ once many, machine.Runs (delivering fun _ => true) (handle event).run world (.ok ()) once →
    Deliveries event verdicts world many →
    (jobDetail many.database event.jobID).map JobView.outcome =
      (jobDetail once.database event.jobID).map JobView.outcome

/-- The events that can be handled again: those that change nothing, failures
with no retry left, and completions after which the dispatcher takes, at the
first handling, every node that waited for the completed one only. -/
def Redeliverable (job : JobView) (accepts : Uuid → Bool) (event : Event) : Prop :=
  job.Inert event.nodeExecutionID ∨ match event with
    | .nodeFailed _ nodeExecutionID _ =>
      ∀ node ∈ job.nodes, node.id = nodeExecutionID → 1 ≤ node.retryCount
    | .nodeCompleted _ nodeExecutionID _ =>
      ∀ node ∈ job.nodes, node.id ≠ nodeExecutionID →
        node.status = .pending → node.nodeType ≠ "source" →
        (∀ dependency ∈ job.nodes, job.pipelineSnapshot.Edge dependency.nodeID node.nodeID →
          dependency.id = nodeExecutionID ∨ dependency.status = .succeeded) →
        accepts node.id = true

section

variable {accepts : Uuid → Bool} {world : World} {job : JobView}

theorem steady_delivering : Steady (delivering accepts) := by
  intro call env permitted broken
  cases call with
  | dispatch payload => exact ⟨payload, rfl⟩
  | _ => exact absurd permitted broken

theorem accepts_of_accepts {id : Uuid} (taken : Accepts (delivering accepts) id) :
  accepts id = true := by
  obtain ⟨_, _, rfl, permitted, works⟩ := taken
  exact permitted.1 works

theorem not_accepts_of_refuses {id : Uuid}
  (refused : Refuses (delivering accepts) id) : accepts id = false := by
  obtain ⟨_, _, rfl, permitted, broken⟩ := refused
  exact Bool.eq_false_iff.2 fun taken => broken (permitted.2 taken)

theorem unsteady_delivering {failed : World → Prop} :
  ¬ Steady (delivering accepts) → ∀ after, failed after :=
  fun unsteady => absurd steady_delivering unsteady

def verdictEnv (accepts : Uuid → Bool) : Call → Env
  | .dispatch payload =>
    { calm with
      fail := if accepts payload.nodeExecutionID then none else some "refused" }
  | _ => calm

theorem delivering_verdictEnv (call : Call) :
  delivering accepts call (verdictEnv accepts call) := by
  cases call with
  | dispatch => simp [delivering, verdictEnv]
  | _ => rfl

def Call.timeless : Call → Bool
  | .createGoJob _ | .createSourceArtifact _ _ _ | .markGoNodeQueued _ _
  | .markNodeRunning _ _ | .dispatch _ => false
  | _ => true

theorem exec_timeless {other : Uuid → Bool} (call : Call) (env env' : Env)
  (timeless : call.timeless = true) (first : delivering accepts call env)
  (second : delivering other call env') :
  machine.exec env call = machine.exec env' call := by
  funext world
  change exec env call world = exec env' call world
  cases call with
  | createGoJob | createSourceArtifact | markGoNodeQueued => cases timeless
  | markNodeRunning | dispatch => cases timeless
  | _ =>
    rw [exec_of_works first, exec_of_works second]
    rfl

end

namespace JobView

variable {job : JobView} {node : NodeExecutionView} {other : NodeExecutionView}

section

variable (sound : job.Sound) (member : node ∈ job.nodes)

include sound member

theorem Sound.dispatchable_completed (present : other ∈ (job.completed node artifactID).nodes) :
  (job.completed node artifactID).dispatchable other = true ↔
    other ∈ job.nodes ∧ other.id ≠ node.id ∧ other.status = .pending ∧ other.nodeType ≠ "source" ∧
      ∀ dependency ∈ job.nodes, job.pipelineSnapshot.Edge dependency.nodeID other.nodeID →
        dependency.id = node.id ∨ dependency.status = .succeeded := by
  have completed : (job.completed node artifactID).Sound := sound.setNode keeps_complete
  rw [completed.dispatchable_iff]
  obtain ⟨other, old, rfl⟩ := mem_mapNodes.1 present
  rcases sound.setNode_cases (complete artifactID) member old with
    ⟨rfl, same⟩ | ⟨different, same⟩ <;> rw [same]
  · constructor
    · exact fun dispatchable => by cases dispatchable.1
    · exact fun waiting => absurd rfl waiting.2.1
  · simp only [old, ne_eq, different, not_false_eq_true, true_and]
    refine and_congr_right fun _ => and_congr_right fun _ => ?_
    constructor
    · intro ready dependency dependencyPresent edge
      have succeeded := ready _ (mem_mapNodes.2 ⟨dependency, dependencyPresent, rfl⟩)
      rcases sound.setNode_cases (complete artifactID) member dependencyPresent
        with ⟨rfl, changed⟩ | ⟨-, changed⟩
      · exact .inl rfl
      · rw [changed] at succeeded
        exact .inr (succeeded edge)
    · intro satisfied dependency dependencyPresent edge
      obtain ⟨dependency, dependencyOld, rfl⟩ := mem_mapNodes.1 dependencyPresent
      rcases sound.setNode_cases (complete artifactID) member dependencyOld with
        ⟨rfl, changed⟩ | ⟨apart, changed⟩ <;> rw [changed] at edge ⊢
      · rfl
      · exact (satisfied dependency dependencyOld edge).resolve_left apart

theorem failed_withFailure (present : other ∈ (job.withFailure node).nodes)
  (named : other.id = node.id) : other.status = .failed := by
  obtain ⟨_, middlePresent, rfl⟩ := mem_mapNodes.1 present
  obtain ⟨other, old, rfl⟩ := mem_mapNodes.1 middlePresent
  rw [(keeps_skip.select _).id] at named
  have keeps := keeps_fail.select fun other => other.id = node.id
  cases sound.eq_of_id old member ((keeps.id other).symm.trans named)
  simp [fail, skippable]

variable {artifactID : Uuid}

theorem succeeded_completed (within : ∀ other ∈ (job.completed node artifactID).nodes,
  selected other = true → (job.completed node artifactID).dispatchable other = true)
  (present : other ∈ ((job.completed node artifactID).changeNodes selected queue).nodes)
  (named : other.id = node.id) : other.status = .succeeded := by
  obtain ⟨middle, middlePresent, rfl⟩ := mem_mapNodes.1 present
  rw [(keeps_queue.select _).id] at named
  rw [if_neg]
  · obtain ⟨other, old, rfl⟩ := mem_mapNodes.1 middlePresent
    have keeps := (@keeps_complete artifactID).select fun other => other.id = node.id
    cases sound.eq_of_id old member ((keeps.id other).symm.trans named)
    simp [complete]
  · intro chosen
    have dispatchable := within middle middlePresent chosen
    rw [sound.dispatchable_completed member middlePresent] at dispatchable
    exact dispatchable.2.1 named

end

theorem mem_outcome {status : NodeStatus} {id : Uuid} : (id, status, retries) ∈ job.outcome.2 ↔
  ∃ node ∈ job.nodes, node.id = id ∧ node.status = status ∧ node.retryCount = retries := by
  simp [outcome]

end JobView

section

variable {accepts : Uuid → Bool} {world after : World} {job : JobView}
  {event : Event} {outcome : Except String Unit}

section

variable (found : jobDetail world.database job.id = some job)
  (concerns : event.jobID = job.id) (inert : job.Inert event.nodeExecutionID)

include found concerns inert

theorem handle_inert (handled : machine.Runs (delivering accepts) (handle event).run world
  outcome after) : after = world := by
  refine handled.ended (fun after => after = world) ?_
  cases event with
  | nodeCompleted =>
    cases concerns
    exact safe_onNodeCompleted_inert unsteady_delivering found inert rfl
  | nodeFailed =>
    cases concerns
    exact safe_onNodeFailed_inert unsteady_delivering found inert rfl

theorem deliveries_inert (delivered : Deliveries event verdicts world after) : after = world := by
  induction delivered with
  | none => rfl
  | again handled _ ih =>
    cases handle_inert found concerns inert handled
    exact ih found

end

theorem deliveries_exist (event : Event) (verdicts : List (Uuid → Bool))
  (world : World) : ∃ after, Deliveries event verdicts world after := by
  induction verdicts generalizing world with
  | nil => exact ⟨world, .none world⟩
  | cons accepts _ ih =>
    have handled := Machine.runs_run (M := machine) (handle event).run world
      (@delivering_verdictEnv accepts)
    obtain ⟨after, later⟩ := ih (machine.run (verdictEnv accepts) (handle event).run world).2
    exact ⟨after, .again handled later⟩

variable (found : jobDetail world.database job.id = some job) (sound : job.Sound)
  (go : job.isGo = true) {node : NodeExecutionView} (member : node ∈ job.nodes)
  (listens : ignoresEvents job = false) (active : node.status.isActive = true)

include found sound go member listens active

def RestsIn (jobID nodeExecutionID : Uuid) (world : World) : Prop :=
  ∃ job, jobDetail world.database jobID = some job ∧ ∀ node ∈ job.nodes, node.id = nodeExecutionID →
    node.status.isTerminal = true

def RetriedIn (job : JobView) (nodeExecutionID : Uuid) (world : World) : Prop :=
  ∃ current node, jobDetail world.database job.id = some current ∧
    current.Sound ∧ current.isGo = true ∧ ignoresEvents current = false ∧
    node ∈ current.nodes ∧ node.id = nodeExecutionID ∧
    node.status.isActive = true ∧ ¬ node.retryCount < 1

variable {message : String}

theorem onNodeFailed_final (last : ¬ node.retryCount < 1)
  (handled : machine.Runs (delivering accepts)
    (onNodeFailed job.id node.id message).run world outcome after) :
  RestsIn job.id node.id after := by
  refine handled.ended (RestsIn job.id node.id) (safe_onNodeFailed_final
    unsteady_delivering found sound go member listens active last ?_ ?_)
  · intro final moves
    refine ⟨_, moves.found, fun other present named => ?_⟩
    rw [nodes_settled] at present
    rw [failed_withFailure sound member present named]
    rfl
  · intro final moves
    refine ⟨_, moves.found, fun other present named => ?_⟩
    rw [failed_withFailure sound member present named]
    rfl

theorem onNodeCompleted_final (handled : machine.Runs (delivering accepts)
  (onNodeCompleted job.id node.id artifactID).run world outcome after) :
  RestsIn job.id node.id after := by
  refine handled.ended (RestsIn job.id node.id) (safe_onNodeCompleted
    unsteady_delivering found sound go member listens active ?_ ?_ ?_)
  · intro final _ moves
    refine ⟨_, moves.found, fun other present named => ?_⟩
    rw [nodes_settled] at present
    rw [succeeded_completed sound member (fun _ _ chosen => chosen) present named]
    rfl
  · intro _ _ _ _ selected final within _ moves
    refine ⟨_, moves.found, fun other present named => ?_⟩
    rw [succeeded_completed sound member within present named]
    rfl
  · intro _ final moves
    refine ⟨_, moves.found, fun other present named => ?_⟩
    rw [succeeded_completed sound member (fun _ _ chosen => chosen) present named]
    rfl

theorem onNodeFailed_retry (first : node.retryCount < 1)
  (handled : machine.Runs (delivering accepts)
    (onNodeFailed job.id node.id message).run world outcome after) :
  RetriedIn job node.id after := by
  refine handled.ended (RetriedIn job node.id) (safe_onNodeFailed_retry
    unsteady_delivering found sound go member listens active first ?_ ?_)
  · intro final moves
    refine ⟨_, _, moves.found, sound.retried, go, listens,
      mem_mapNodes.2 ⟨node, member, if_pos (decide_eq_true rfl)⟩, rfl, ?_,
      Nat.not_lt.2 (Nat.le_add_left _ _)⟩
    dsimp only
    split <;> rfl
  · intro _ final moves
    exact ⟨_, _, moves.found, sound.setNode keeps_count, go, listens,
      mem_mapNodes.2 ⟨node, member, if_pos (decide_eq_true rfl)⟩, rfl, rfl,
      Nat.not_lt.2 (Nat.le_add_left _ _)⟩

end

section

variable {accepts other : Uuid → Bool} {world : World} {job : JobView}

theorem asks_request {call : Call} (timeless : call.timeless = true) :
  asks (Call.timeless ·) (EngineStore.request call) :=
  ⟨timeless, fun reply _ _ => by cases reply <;> trivial⟩

theorem asks_maybeFinalizeJob : asks (Call.timeless ·) (maybeFinalizeJob job) := by
  unfold maybeFinalizeJob
  split
  · exact asks_pure
  · split
    · exact asks_pure
    · exact asks_bind (asks_request rfl) fun _ => asks_pure

theorem asks_failNode {node : NodeExecutionView} {jobID id : Uuid} :
  asks (Call.timeless ·) (failNode job node jobID id message) := by
  refine asks_bind (asks_request rfl) fun _ => ?_
  refine asks_bind (asks_request rfl) fun _ => ?_
  refine asks_bind (asks_request rfl) fun job => ?_
  exact asks_bind asks_maybeFinalizeJob fun _ => asks_pure

variable (found : jobDetail world.database job.id = some job) (sound : job.Sound)
  (go : job.isGo = true) {node : NodeExecutionView} (member : node ∈ job.nodes)
  (listens : ignoresEvents job = false) (active : node.status.isActive = true)
  {result result' : Except String Unit} {after after' : World}

include found

theorem both_getJobDetail {rest : JobView → Op Unit} (first : machine.Runs (delivering accepts)
  (EngineStore.getJobDetail job.id >>= rest).run world result after)
  (second : machine.Runs (delivering other)
    (EngineStore.getJobDetail job.id >>= rest).run world result' after') :
  (result = result' ∧ after = after') ∨
    machine.Runs (delivering accepts) (rest job).run world result after ∧
      machine.Runs (delivering other) (rest job).run world result' after' := by
  refine (first.bind_both exec_timeless (asks_request rfl) second).imp_right ?_
  rintro ⟨value, middle, got, continued⟩
  obtain ⟨read, stays⟩ := got.returned (fun value middle => value = job ∧ middle = world)
    (safe_getJobDetail unsteady_delivering found ⟨rfl, rfl⟩)
  rwa [read, stays] at continued

include sound member listens active

theorem onNodeFailed_unique (last : ¬ node.retryCount < 1)
  (first : machine.Runs (delivering accepts)
    (onNodeFailed job.id node.id message).run world result after)
  (second : machine.Runs (delivering other)
    (onNodeFailed job.id node.id message).run world result' after') :
  result = result' ∧ after = after' := by
  rcases both_getJobDetail found first second with same | ⟨first, second⟩
  · exact same
  · rw [if_neg (Bool.eq_false_iff.1 listens), sound.findNodeByExecutionID_eq member] at first second
    dsimp only at first second
    rw [if_neg (NodeStatus.not_isTerminal active), if_neg last] at first second
    exact first.unique exec_timeless asks_failNode second

include go

theorem onNodeCompleted_unique (idle : ∀ other ∈ (job.completed node artifactID).nodes,
  (job.completed node artifactID).dispatchable other = false)
  (first : machine.Runs (delivering accepts)
    (onNodeCompleted job.id node.id artifactID).run world result after)
  (second : machine.Runs (delivering other)
    (onNodeCompleted job.id node.id artifactID).run world result' after') :
  result = result' ∧ after = after' := by
  rcases both_getJobDetail found first second with same | ⟨first, second⟩
  · exact same
  have moving := NodeStatus.not_isTerminal active
  have incomplete : ¬ (node.status = .succeeded ∧
    node.outputArtifactID = some artifactID) := fun done =>
    moving (done.1 ▸ rfl)
  rw [if_neg (Bool.eq_false_iff.1 listens), sound.findNodeByExecutionID_eq member] at first second
  dsimp only at first second
  rw [if_neg incomplete, if_neg moving] at first second
  rcases first.bind_both exec_timeless (asks_request rfl) second with
    same | ⟨_, marked, marks, first, second⟩
  · exact same
  have moves := marks.returned
    (fun _ marked => Moves world marked job (job.completed node artifactID))
    (safe_markGoNodeSucceeded unsteady_delivering found go member fun _ moves => moves)
  rcases @both_getJobDetail _ _ marked _ moves.sync _ _ _ _ _ first second with
    same | ⟨first, second⟩
  · exact same
  have completed : (job.completed node artifactID).Sound := sound.setNode keeps_complete
  have listening : ignoresEvents (job.completed node artifactID) = false := listens
  rw [if_neg (Bool.eq_false_iff.1 listening), completed.dependencies,
    dispatchReadyNodes_idle idle] at first second
  exact first.unique exec_timeless (asks_bind asks_maybeFinalizeJob fun _ => asks_pure) second

end

section

variable {node ready : NodeExecutionView} {rest : List (Uuid → Bool)}

theorem status_of_outcome {right : JobView} (shown : jobDetail database jobID = some left)
  (shown' : jobDetail database' jobID = some right)
  (same : (jobDetail database jobID).map JobView.outcome =
    (jobDetail database' jobID).map JobView.outcome)
  (member : node ∈ left.nodes) :
  ∃ other ∈ right.nodes, other.id = node.id ∧ other.status = node.status := by
  rw [shown, shown', Option.map_some, Option.map_some, Option.some.injEq] at same
  have listed : (node.id, node.status, node.retryCount) ∈ left.outcome.2 :=
    mem_outcome.2 ⟨node, member, rfl, rfl, rfl⟩
  rw [same, mem_outcome] at listed
  obtain ⟨other, present, named, status, -⟩ := listed
  exact ⟨other, present, named, status⟩

variable {world : World} {job : JobView}
  (found : jobDetail world.database job.id = some job) (sound : job.Sound)
  (go : job.isGo = true) {event : Event}

theorem deliveries_of_rests {after : World} (later : Deliveries event verdicts middle after)
  (rests : RestsIn event.jobID event.nodeExecutionID middle) :
  after = middle := by
  obtain ⟨_, shown, final⟩ := rests
  have named := jobDetail_id shown
  rw [← named] at shown
  exact deliveries_inert shown named.symm (.inr final) later

include found sound go

theorem onNodeCompleted_accepted {accepts : Uuid → Bool}
  (member : node ∈ job.nodes) (listens : ignoresEvents job = false)
  (active : node.status.isActive = true)
  (present : ready ∈ (job.completed node artifactID).nodes)
  (chosen : (job.completed node artifactID).dispatchable ready = true)
  (taken : ∀ other ∈ (job.completed node artifactID).nodes,
    (job.completed node artifactID).dispatchable other = true → accepts other.id = true) :
  safe (store (delivering accepts)) (onNodeCompleted job.id node.id artifactID)
    (fun _ after => jobDetail after.database job.id =
      some (job.completed node artifactID).dispatched.settled)
    (fun _ => False) world := by
  refine safe_onNodeCompleted unsteady_delivering found sound go member listens active ?_ ?_ ?_
  · exact fun after _ moves => moves.found
  · intro refused refusedPresent dispatchable refusal _ _ _ _ _
    have rejected := not_accepts_of_refuses refusal
    rw [taken refused refusedPresent dispatchable] at rejected
    cases rejected
  · intro idle
    have queued := hasActiveNode_eq_false.1 idle (queue ready)
      (mem_mapNodes.2 ⟨ready, present, if_pos chosen⟩)
    cases queued

theorem redeliveryIdempotent_of_redeliverable
  (concerns : event.jobID = job.id) {first : Uuid → Bool}
  (condition : Redeliverable job first event) :
  RedeliveryIdempotent event (first :: rest) world := by
  intro once many ran delivered
  rcases job.inert_or_active event.nodeExecutionID with inert |
    ⟨listens, node, member, named, active⟩
  · rw [handle_inert found concerns inert ran, deliveries_inert found concerns inert delivered]
  have moving : ¬ job.Inert event.nodeExecutionID := by
    rintro (ignores | rests)
    · rw [ignores] at listens
      cases listens
    · exact NodeStatus.not_isTerminal active (rests node member named)
  have condition := condition.resolve_left moving
  cases delivered with
  | again handled later =>
    cases event with
    | nodeFailed =>
      cases concerns
      cases named
      have last := Nat.not_lt.2 (condition node member rfl)
      have rests := onNodeFailed_final found sound go member listens active last handled
      rw [deliveries_of_rests later rests]
      rw [(onNodeFailed_unique found sound member listens active last handled ran).2]
    | nodeCompleted _ _ artifactID =>
      cases concerns
      cases named
      have rests := onNodeCompleted_final found sound go member listens active handled
      rw [deliveries_of_rests later rests]
      by_cases idle : ∀ other ∈ (job.completed node artifactID).nodes,
        (job.completed node artifactID).dispatchable other = false
      · rw [(onNodeCompleted_unique found sound go member listens active idle handled ran).2]
      · simp only [not_forall, Bool.not_eq_false, exists_prop] at idle
        obtain ⟨_, present, chosen⟩ := idle
        have taken : ∀ other ∈ (job.completed node artifactID).nodes,
          (job.completed node artifactID).dispatchable other = true → first other.id = true := by
          intro other otherPresent dispatchable
          obtain ⟨old, apart, pending, kind, satisfied⟩ :=
            (sound.dispatchable_completed member otherPresent).1 dispatchable
          exact condition other old apart pending kind satisfied
        let Settled (after : World) : Prop :=
          jobDetail after.database job.id = some (job.completed node artifactID).dispatched.settled
        have again := handled.ended Settled (safe_mono (onNodeCompleted_accepted found sound go
          member listens active present chosen taken) (fun _ _ holds => holds)
          fun _ absurd => absurd.elim)
        have single := ran.ended Settled (safe_mono (onNodeCompleted_accepted found sound go
          member listens active present chosen fun _ _ _ => rfl) (fun _ _ holds => holds)
          fun _ absurd => absurd.elim)
        change Option.map _ (jobDetail _ job.id) = Option.map _ (jobDetail _ job.id)
        rw [again, single]

section

variable (member : node ∈ job.nodes) (listens : ignoresEvents job = false)
  (active : node.status.isActive = true) {first : Uuid → Bool}

include member listens active

theorem not_redeliveryIdempotent_of_retry (retry : node.retryCount < 1) :
  ¬ RedeliveryIdempotent (.nodeFailed job.id node.id error) (first :: second :: rest) world := by
  intro idempotent
  obtain ⟨_, once, ran, counted⟩ := Machine.exists_returned (M := machine)
    (verdictEnv fun _ => true)
    (fun _ after => Moves world after job (job.retried node))
    delivering_verdictEnv (safe_onNodeFailed_retry unsteady_delivering found sound
      go member listens active retry (fun after moves => moves)
      fun refusal => by cases not_accepts_of_refuses refusal)
  obtain ⟨many, delivered⟩ := deliveries_exist
    (.nodeFailed job.id node.id error) (first :: second :: rest) world
  have same := idempotent once many ran delivered
  cases delivered with
  | again handled later =>
    cases later with
    | again handledAgain later =>
      obtain ⟨_, _, shown, soundAgain, goAgain, listensAgain,
        present, named, activeAgain, last⟩ := onNodeFailed_retry found sound
        go member listens active retry handled
      have id := jobDetail_id shown
      rw [← id] at shown
      rw [handle, ← id, ← named] at handledAgain
      obtain ⟨final, finalShown, rests⟩ := onNodeFailed_final shown soundAgain
        goAgain present listensAgain activeAgain last handledAgain
      rw [id] at finalShown
      rw [named] at rests
      cases deliveries_of_rests later ⟨final, finalShown, rests⟩
      -- The retried node is active after one delivery and at rest after two.
      obtain ⟨other, otherPresent, otherNamed, status⟩ :=
        status_of_outcome counted.found finalShown same.symm
          (mem_mapNodes.2 ⟨node, member, if_pos (decide_eq_true rfl)⟩)
      have terminal := rests other otherPresent otherNamed
      rw [status] at terminal
      dsimp only at terminal
      split at terminal <;> cases terminal

theorem not_redeliveryIdempotent_of_refusal
  (present : ready ∈ (job.completed node artifactID).nodes)
  (chosen : (job.completed node artifactID).dispatchable ready = true)
  (rejected : first ready.id = false) :
  ¬ RedeliveryIdempotent (.nodeCompleted job.id node.id artifactID) (first :: rest) world := by
  intro idempotent
  obtain ⟨_, once, ran, completed⟩ := Machine.exists_returned (M := machine)
    (verdictEnv fun _ => true)
    (fun _ after => jobDetail after.database job.id =
      some (job.completed node artifactID).dispatched.settled)
    delivering_verdictEnv (onNodeCompleted_accepted found sound go member listens
      active present chosen fun _ _ _ => rfl)
  obtain ⟨many, delivered⟩ := deliveries_exist
    (.nodeCompleted job.id node.id artifactID) (first :: rest) world
  have same := idempotent once many ran delivered
  cases delivered with
  | again handled later =>
    have rests := onNodeCompleted_final found sound go member listens active handled
    cases deliveries_of_rests later rests
    obtain ⟨refused, refusedPresent, dispatchable, selected, kept, shown⟩ :=
      handled.ended (fun after =>
        ∃ refused ∈ (job.completed node artifactID).nodes,
          (job.completed node artifactID).dispatchable refused = true ∧
          ∃ selected, selected refused = false ∧ jobDetail after.database job.id =
            some ((job.completed node artifactID).changeNodes selected queue))
        (safe_onNodeCompleted unsteady_delivering found sound go member listens active
          (fun _ accepts _ => by
            have taken := accepts_of_accepts (accepts ready present chosen)
            rw [rejected] at taken
            cases taken)
          (fun refused refusedPresent dispatchable _ selected _ _ kept moves =>
            ⟨refused, refusedPresent, dispatchable, selected, kept, moves.found⟩)
          fun idle => by
            cases hasActiveNode_eq_false.1 idle (queue ready)
              (mem_mapNodes.2 ⟨ready, present, if_pos chosen⟩))
    -- The refused node is queued after one delivery and pending after all.
    have pending : refused ∈ ((job.completed node artifactID).changeNodes selected queue).nodes :=
      mem_mapNodes.2 ⟨refused, refusedPresent, by rw [kept]; rfl⟩
    have completedSound : (job.completed node artifactID).Sound := sound.setNode keeps_complete
    obtain ⟨other, otherPresent, named, status⟩ := status_of_outcome shown completed same pending
    rw [nodes_settled] at otherPresent
    obtain ⟨_, old, rfl⟩ := mem_mapNodes.1 otherPresent
    rw [(keeps_queue.select _).id] at named
    cases completedSound.eq_of_id old refusedPresent named
    rw [if_pos dispatchable, (completedSound.dispatchable_iff.1 dispatchable).1] at status
    cases status

end

/-- Redelivery is idempotent for exactly the redeliverable events. -/
theorem redeliveryIdempotent_iff {event : Event} (concerns : event.jobID = job.id)
  (first second : Uuid → Bool) (rest : List (Uuid → Bool)) :
  RedeliveryIdempotent event (first :: second :: rest) world ↔ Redeliverable job first event := by
  refine ⟨fun idempotent => ?_, redeliveryIdempotent_of_redeliverable found sound go concerns⟩
  rcases job.inert_or_active event.nodeExecutionID with inert |
    ⟨listens, node, member, named, active⟩
  · exact .inl inert
  refine .inr ?_
  cases event with
  | nodeFailed =>
    cases concerns
    cases named
    intro other present named
    by_contra retry
    cases sound.eq_of_id present member named
    exact not_redeliveryIdempotent_of_retry found sound go member listens active
      (Nat.not_le.1 retry) idempotent
  | nodeCompleted _ _ artifactID =>
    cases concerns
    cases named
    intro other old apart pending kind satisfied
    by_contra rejected
    have present : other ∈ (job.completed node artifactID).nodes :=
      mem_mapNodes.2 ⟨other, old, if_neg (by simpa using apart)⟩
    exact not_redeliveryIdempotent_of_refusal found sound go member listens
      active present ((sound.dispatchable_completed member present).2
        ⟨old, apart, pending, kind, satisfied⟩)
      (Bool.eq_false_iff.2 rejected) idempotent

end

/-- One failure of the first node, delivered twice, takes the retry and the
final failure. -/
theorem redelivery_consumes_retry : ¬ RedeliveryIdempotent (.nodeFailed 1 1 "boom")
  [fun _ => true, fun _ => true] runningWorld := by
  intro idempotent
  have handled (world : World) := Machine.runs_run (M := machine)
    (handle (.nodeFailed 1 1 "boom")).run world
    (@delivering_verdictEnv fun _ => true)
  have same := idempotent _ _ (handled runningWorld)
    (.again (handled runningWorld) (.again (handled _) (.none _)))
  exact absurd same (by decide +kernel)

def runningJob : JobView where
  id := 1
  status := .running
  orchestratorOwner := .go
  pipelineSnapshot := chain "transcode"
  executionPlan := some (planFor (chain "transcode"))
  nodes :=
    [⟨1, "s", "transcode", "transcode", .running, 0, .empty, none, some "worker@host"⟩,
      ⟨2, "t", "transcode", "transcode", .pending, 0, .empty, none, none⟩]

theorem sound_runningJob : runningJob.Sound where
  ids := by decide
  nodeIDs := .refl _
  formed := by decide
  planned _ same := (Option.some.inj same).symm

theorem redeliveryIdempotent_iff_chain :
  RedeliveryIdempotent (.nodeCompleted 1 1 7) [fun _ => true, fun _ => false] runningWorld :=
  (@redeliveryIdempotent_iff runningWorld runningJob (by rfl) sound_runningJob rfl
    (.nodeCompleted 1 1 7) rfl (fun _ => true) (fun _ => false) []).2
    (.inr fun _ _ _ _ _ _ => rfl)

/-! Superseded attempts. Recovery gives a node back that a worker seems to have
lost; the event of that worker can still arrive while the next attempt is under
way. -/

def StoreStep (world after : World) : Prop := ∃ env call, after = (exec env call world).2

def attempt (world : World) (jobID nodeExecutionID : Uuid) :
  Option (NodeStatus × Nat × Option Uuid) :=
  (jobDetail world.database jobID).bind fun job =>
    (findNodeByExecutionID job.nodes nodeExecutionID).map fun node =>
      (node.status, node.retryCount, node.outputArtifactID)

/-- The node was in flight, a reset made it pending, and it was dispatched
again. -/
structure Superseded (jobID nodeExecutionID : Uuid) (world : World) : Prop where
  history : ∃ before reset env staleBefore first second,
    attempt before jobID nodeExecutionID = some first ∧ first.1.isInFlight = true ∧
      exec env (.resetStaleGoNodes jobID staleBefore) before = (.ok (), reset) ∧
      attempt reset jobID nodeExecutionID = some second ∧
      second.1 = .pending ∧
      Relation.ReflTransGen StoreStep reset world
  again : ∃ current, attempt world jobID nodeExecutionID = some current ∧
    current.1.isInFlight = true

variable {columns : NodeStatus × Nat × Option Uuid}

section

variable {world : World} (shown : attempt world jobID nodeExecutionID = some columns)

include shown

theorem attempt_eq_some : ∃ job node, jobDetail world.database jobID = some job ∧ node ∈ job.nodes ∧
  node.id = nodeExecutionID ∧
  columns = (node.status, node.retryCount, node.outputArtifactID) := by
  rw [attempt, Option.bind_eq_some_iff] at shown
  obtain ⟨job, found, shown⟩ := shown
  rw [Option.map_eq_some_iff] at shown
  obtain ⟨node, located, rfl⟩ := shown
  obtain ⟨member, named⟩ := findNodeByExecutionID_mem located
  exact ⟨job, node, found, member, named, rfl⟩

theorem not_rests_of_attempt (inFlight : columns.1.isInFlight = true) :
  ¬ RestsIn jobID nodeExecutionID world := by
  rintro ⟨_, found, rests⟩
  obtain ⟨_, node, found', member, named, rfl⟩ := attempt_eq_some shown
  rw [found] at found'
  cases found'
  exact NodeStatus.not_isTerminal ((NodeStatus.isActive_iff _).2 (.inr inFlight))
    (rests node member named)

end

/-- The late event leaves the new attempt alone exactly when the job is already
at rest. -/
theorem superseded_inert_iff {world : World} {job : JobView} {event : Event}
  (found : jobDetail world.database job.id = some job) (sound : job.Sound)
  (go : job.isGo = true) (concerns : event.jobID = job.id)
  (superseded : Superseded job.id event.nodeExecutionID world)
  (accepts : Uuid → Bool) :
  (∀ outcome after, machine.Runs (delivering accepts) (handle event).run world outcome after →
    attempt after job.id event.nodeExecutionID = attempt world job.id event.nodeExecutionID) ↔
    job.status.isTerminal = true := by
  constructor
  · intro unchanged
    by_contra moving
    have listens : ignoresEvents job = false := by
      have owned : shouldProcessGoJob job = true := go
      have kept : job.status ≠ .cancelled := fun cancelled =>
        moving (cancelled ▸ rfl)
      simp [ignoresEvents, owned, kept, moving]
    obtain ⟨columns, shown, inFlight⟩ := superseded.again
    obtain ⟨_, node, found', member, named, rfl⟩ := attempt_eq_some shown
    rw [found] at found'
    cases found'
    have active := (NodeStatus.isActive_iff node.status).2 (.inr inFlight)
    have handled := Machine.runs_run (M := machine) (handle event).run world
      (@delivering_verdictEnv accepts)
    have still := (unchanged _ _ handled).trans shown
    cases event with
    | nodeCompleted =>
      cases concerns
      cases named
      exact not_rests_of_attempt still inFlight (onNodeCompleted_final found
        sound go member listens active handled)
    | nodeFailed =>
      cases concerns
      cases named
      by_cases first : node.retryCount < 1
      · obtain ⟨_, _, shown', sound', -, -, present, named, -, _⟩ :=
          onNodeFailed_retry found sound go member listens active first handled
        obtain ⟨_, _, shown'', present', named', same⟩ := attempt_eq_some still
        rw [shown'] at shown''
        cases shown''
        cases sound'.eq_of_id present present' (named.trans named'.symm)
        have count := congrArg (fun columns => columns.2.1) same
        dsimp only at count
        omega
      · exact not_rests_of_attempt still inFlight (onNodeFailed_final found sound
          go member listens active first handled)
  · intro terminal outcome after handled
    have ignored : ignoresEvents job = true := by simp [ignoresEvents, terminal]
    rw [handle_inert found concerns (.inl ignored) handled]

def resetWorld : World := (exec calm (.resetStaleGoNodes 1 5) runningWorld).2

def redispatchedWorld : World := (machine.run (fun _ => calm) (startJob 1).run resetWorld).2

theorem steps_run (program : Prog storeInterface α) (world : World) :
  Relation.ReflTransGen StoreStep world (machine.run (fun _ => calm) program world).2 := by
  induction program generalizing world with
  | done => exact .refl
  | call request _ ih => exact .head ⟨calm, request, rfl⟩ (ih _ _)

theorem superseded_chain : Superseded 1 1 redispatchedWorld where
  history := ⟨runningWorld, resetWorld, calm, 5, _, _, rfl, rfl, rfl, rfl, rfl, steps_run _ _⟩
  again := ⟨_, rfl, rfl⟩

def queuedJob : JobView :=
  runningJob.setNode 1 fun node =>
    { node with status := .queued, workerID := none }

theorem superseded_inert_iff_chain : ¬ ∀ outcome after, machine.Runs (delivering fun _ => true)
  (handle (.nodeCompleted 1 1 7)).run redispatchedWorld outcome after →
  attempt after 1 1 = attempt redispatchedWorld 1 1 := fun inert =>
  absurd ((@superseded_inert_iff redispatchedWorld queuedJob
    (.nodeCompleted 1 1 7) (by rfl) (sound_runningJob.setNode fun _ => rfl) rfl
    rfl superseded_chain fun _ => true).1 inert) (by decide)

/-- The failure of the superseded worker takes the retry of the new attempt. -/
theorem superseded_takes_retry : Superseded 1 1 redispatchedWorld ∧
  ∃ outcome after, machine.Runs (delivering fun _ => true)
    (handle (.nodeFailed 1 1 "lost")).run redispatchedWorld outcome after ∧
    attempt redispatchedWorld 1 1 = some (.queued, 0, none) ∧
    attempt after 1 1 = some (.queued, 1, none) := by
  refine ⟨superseded_chain, _, _, Machine.runs_run _ _
    (@delivering_verdictEnv fun _ => true), rfl, by rfl⟩

end VideoProcess.Go
