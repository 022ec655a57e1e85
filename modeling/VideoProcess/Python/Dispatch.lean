import VideoProcess.Data.Sweep
import VideoProcess.Python.Finalization

namespace VideoProcess.Python

open Data List

/-! A dispatch pass is a sweep over the node executions of a job. -/

def NodeExecution.mark (node : NodeExecution) : Sweep.Mark (Option Uuid) :=
  match node.status with
  | .succeeded => .settled node.outputArtifactID
  | .pending => .waiting
  | _ => .away

def mark (job : Job) (nodeID : String) : Sweep.Mark (Option Uuid) :=
  (job.node? nodeID).elim .away NodeExecution.mark

def reusable (services : Services) (registered : Bool) (node : NodeExecution)
  (inputs : Dict String Uuid) : Option (Option Uuid) :=
  match cachedArtifact services node
    (inputArtifactsByHandle services inputs) registered with
  | .ok (some artifact) => some (some artifact)
  | _ => none

section

variable {definition : PipelineDefinition}

theorem mem_getD_buildDependencyMap (unique : definition.nodeIDs.Nodup)
  (member : target ∈ definition.nodeIDs) :
  source ∈ (buildDependencyMap definition).getD target [] ↔ definition.Edge source target := by
  rw [getD_buildDependencyMap unique member]
  simp only [PipelineDefinition.Edge, mem_map, mem_filter, decide_eq_true_eq]
  refine exists_congr fun edge => ?_
  rw [and_assoc, and_comm (a := edge.source = source)]

theorem inputArtifacts_congr (same : ∀ source, definition.Edge source nodeID →
  left source = right source) :
  inputArtifacts definition left nodeID = inputArtifacts definition right nodeID := by
  apply foldl_ext
  intro inputs edge member
  by_cases target : edge.target = nodeID
  · rw [if_pos target, if_pos target, same edge.source ⟨edge, member, rfl, target⟩]
  · rw [if_neg target, if_neg target]

end

def dispatchRules (services : Services) (registered : Bool) (job : Job) :
  Sweep.Rules String (Option Uuid) where
  depends nodeID := (buildDependencyMap job.pipelineSnapshot).getD nodeID []
  answer nodeID values := (job.node? nodeID).bind fun node =>
    reusable services registered node (inputArtifacts job.pipelineSnapshot
      (fun source => (values source).join) nodeID)
  reads := by
    intro nodeID left right same
    cases found : job.node? nodeID with
    | none => rfl
    | some node =>
      have inputs : inputArtifacts job.pipelineSnapshot (fun source => (left source).join) nodeID =
        inputArtifacts job.pipelineSnapshot (fun source => (right source).join) nodeID := by
        apply inputArtifacts_congr
        intro source edge
        rw [same source ((mem_getD_buildDependencyMap job.unique (Job.mem_nodeIDs found)).2 edge)]
      rw [Option.bind_some, Option.bind_some, inputs]

def NodeExecution.identity (node : NodeExecution) : Uuid × String × Dict String ConfigValue :=
  (node.id, node.nodeType, node.nodeConfig)

/-- Only a pending node moves, and it moves ahead. -/
structure NodeExecution.Advances (before after : NodeExecution) : Prop where
  identity : after.identity = before.identity
  status : after.status = before.status ∨ before.status = .pending ∧
    (after.status = .succeeded ∨ after.status = .queued)

namespace NodeExecution.Advances

theorem refl (node : NodeExecution) : node.Advances node := ⟨rfl, .inl rfl⟩

theorem trans {first : NodeExecution} (left : first.Advances second)
  (right : second.Advances third) :
  first.Advances third := by
  refine ⟨right.identity.trans left.identity, ?_⟩
  obtain same | ⟨pending, moved⟩ := right.status
  · rw [same]
    exact left.status
  · obtain same | ⟨-, earlier⟩ := left.status
    · exact .inr ⟨same ▸ pending, moved⟩
    · rw [pending] at earlier
      obtain impossible | impossible := earlier <;> cases impossible

variable {before after : NodeExecution} (advances : before.Advances after)

include advances

theorem isFailed : after.status.isFailed = before.status.isFailed := by
  obtain same | ⟨pending, moved | moved⟩ := advances.status
  · rw [same]
  · rw [pending, moved]
    rfl
  · rw [pending, moved]
    rfl

theorem pending (waiting : after.status = .pending) : before.status = .pending := by
  obtain same | ⟨pending, -⟩ := advances.status
  · rw [← same, waiting]
  · exact pending

end NodeExecution.Advances

structure Job.Advances (before after : Job) : Prop where
  id : after.id = before.id
  status : after.status = before.status
  pipelineSnapshot : after.pipelineSnapshot = before.pipelineSnapshot
  executionPlan : after.executionPlan = before.executionPlan
  nodes : ∀ nodeID, Option.Rel NodeExecution.Advances (before.node? nodeID) (after.node? nodeID)

namespace Job.Advances

theorem refl (job : Job) : job.Advances job := by
  refine ⟨rfl, rfl, rfl, rfl, fun nodeID => ?_⟩
  cases job.node? nodeID with
  | none => exact .none
  | some node => exact .some (.refl node)

theorem trans {first : Job} (left : first.Advances second)
  (right : second.Advances third) : first.Advances third := by
  refine ⟨right.id.trans left.id, right.status.trans left.status,
    right.pipelineSnapshot.trans left.pipelineSnapshot,
    right.executionPlan.trans left.executionPlan, fun nodeID => ?_⟩
  have early := left.nodes nodeID
  have late := right.nodes nodeID
  revert early late
  cases first.node? nodeID <;> cases second.node? nodeID <;>
    cases third.node? nodeID <;> intro early late <;> cases early <;>
    cases late
  · exact .none
  · exact .some (.trans ‹_› ‹_›)

variable {nodeID : String} {node : NodeExecution}

theorem modifyNode {job : Job} (found : job.node? nodeID = some node)
  (change : NodeExecution → NodeExecution)
  (keeps : ∀ node, (change node).id = node.id)
  (advances : node.Advances (change node)) :
  job.Advances (job.modifyNode nodeID change keeps) := by
  refine ⟨rfl, rfl, rfl, rfl, fun other => ?_⟩
  rw [Job.node?_modifyNode]
  split
  next same =>
    rw [same, found]
    exact .some advances
  · exact (refl job).nodes other

variable {before after : Job} (advances : before.Advances after)

include advances

theorem origin (found : after.node? nodeID = some node) :
  ∃ old, before.node? nodeID = some old ∧ old.Advances node := by
  have step := advances.nodes nodeID
  rw [found] at step
  cases earlier : before.node? nodeID with
  | none =>
    rw [earlier] at step
    cases step
  | some old =>
    rw [earlier] at step
    cases step
    exact ⟨old, rfl, ‹_›⟩

theorem image (found : before.node? nodeID = some old) :
  ∃ node, after.node? nodeID = some node ∧ old.Advances node := by
  have step := advances.nodes nodeID
  rw [found] at step
  cases new : after.node? nodeID with
  | none =>
    rw [new] at step
    cases step
  | some node =>
    rw [new] at step
    cases step
    exact ⟨node, rfl, ‹_›⟩

theorem plannedDependencies : plannedDependencies after = plannedDependencies before := by
  unfold Python.plannedDependencies
  rw [advances.executionPlan]

end Job.Advances

variable {registered : Bool} {services : Services}

theorem reusable_congr {left right : NodeExecution} (same : left.identity = right.identity) :
  reusable services registered left = reusable services registered right := by
  simp only [NodeExecution.identity, Prod.mk.injEq] at same
  obtain ⟨id, type, config⟩ := same
  funext inputs
  simp only [reusable, cachedArtifact, id, type, config]

theorem dispatchRules_eq {before after : Job} (advances : before.Advances after) :
  dispatchRules services registered after = dispatchRules services registered before := by
  ext nodeID : 2
  · exact congrArg (fun definition =>
      (buildDependencyMap definition).getD nodeID []) advances.pipelineSnapshot
  · funext values
    simp only [dispatchRules, advances.pipelineSnapshot]
    cases found : before.node? nodeID with
    | none =>
      cases new : after.node? nodeID with
      | none => rfl
      | some =>
        obtain ⟨_, oldFound, -⟩ := advances.origin new
        cases found.symm.trans oldFound
    | some =>
      obtain ⟨_, new, step⟩ := advances.image found
      rw [new, Option.bind_some, Option.bind_some, reusable_congr step.identity]

theorem mark_eq_waiting_iff : mark job nodeID = .waiting ↔
  ∃ node, job.node? nodeID = some node ∧ node.status = .pending := by
  unfold mark
  cases found : job.node? nodeID with
  | none => simp
  | some node =>
    rw [Option.elim_some, NodeExecution.mark]
    cases status : node.status <;> simp [status]

theorem waiting_listed (nodeID : String) (waiting : mark job nodeID = .waiting) :
  nodeID ∈ job.pipelineSnapshot.nodeIDs := by
  obtain ⟨_, found, -⟩ := mark_eq_waiting_iff.1 waiting
  exact Job.mem_nodeIDs found

theorem mark_eq_settled_iff : mark job nodeID = .settled value ↔
  ∃ node, job.node? nodeID = some node ∧ node.status = .succeeded ∧
    node.outputArtifactID = value := by
  unfold mark
  cases found : job.node? nodeID with
  | none => simp
  | some node =>
    rw [Option.elim_some, NodeExecution.mark]
    cases status : node.status <;> simp [status]

theorem mark_modifyNode (found : job.node? nodeID = some node)
  (change : NodeExecution → NodeExecution)
  (keeps : ∀ node, (change node).id = node.id) :
  mark (job.modifyNode nodeID change keeps) =
    Function.update (mark job) nodeID (change node).mark := by
  funext other
  by_cases same : other = nodeID
  · subst same
    rw [Function.update_self, mark, Job.node?_modifyNode, if_pos rfl, found]
    rfl
  · rw [Function.update_of_ne same, mark, Job.node?_modifyNode, if_neg same, mark]

theorem outputArtifact_eq (succeeded : (Sweep.values (mark job) nodeID).isSome) :
  outputArtifact job nodeID = (Sweep.values (mark job) nodeID).join := by
  obtain ⟨_, settled⟩ := Sweep.Mark.isSome_value?_iff.1 succeeded
  obtain ⟨_, found, -, output⟩ := mark_eq_settled_iff.1 settled
  rw [Sweep.values, settled, outputArtifact, found]
  exact output

theorem isSome_values_iff : (Sweep.values (mark job) nodeID).isSome = true ↔
  (job.node? nodeID).any (fun node => node.status = .succeeded) = true := by
  rw [Sweep.values, Sweep.Mark.isSome_value?_iff, Option.any_eq_true]
  constructor
  · rintro ⟨_, settled⟩
    obtain ⟨node, found, status, -⟩ := mark_eq_settled_iff.1 settled
    exact ⟨node, found, decide_eq_true status⟩
  · rintro ⟨node, found, status⟩
    exact ⟨_, mark_eq_settled_iff.2 ⟨node, found, of_decide_eq_true status, rfl⟩⟩

theorem isReady_iff : isReady job ((buildDependencyMap job.pipelineSnapshot).getD nodeID [])
  nodeID = true ↔
  Sweep.Ready (dispatchRules services registered job) (mark job) nodeID := by
  rw [isReady, Bool.and_eq_true, Option.any_eq_true, dependenciesSucceeded, all_eq_true]
  unfold Sweep.Ready
  rw [mark_eq_waiting_iff]
  simp only [isSome_values_iff, decide_eq_true_eq]
  rfl

theorem inputArtifacts_eq (ready : Sweep.Ready (dispatchRules services registered job) (mark job)
  nodeID) :
  inputArtifacts job.pipelineSnapshot (outputArtifact job) nodeID =
    inputArtifacts job.pipelineSnapshot
      (fun source => (Sweep.values (mark job) source).join) nodeID := by
  obtain ⟨_, found, -⟩ := mark_eq_waiting_iff.1 ready.1
  apply inputArtifacts_congr
  intro source edge
  apply outputArtifact_eq
  apply ready.2
  exact (mem_getD_buildDependencyMap job.unique (Job.mem_nodeIDs found)).2 edge

theorem answer_eq (found : job.node? nodeID = some node)
  (ready : Sweep.Ready (dispatchRules services registered job) (mark job) nodeID) :
  (dispatchRules services registered job).answer nodeID (Sweep.values (mark job)) =
    reusable services registered node
      (inputArtifacts job.pipelineSnapshot (outputArtifact job) nodeID) := by
  rw [inputArtifacts_eq ready]
  simp [dispatchRules, found]

def Planned (job : Job) : Prop := plannedDependencies job = buildDependencyMap job.pipelineSnapshot

theorem Planned.of_advances {before after : Job} (planned : Planned before)
  (advances : before.Advances after) : Planned after := by
  unfold Planned
  rw [advances.plannedDependencies, planned, advances.pipelineSnapshot]

theorem id_queueNode (inputs : Dict String Uuid) (node : NodeExecution) :
  (queueNode inputs node).id = node.id := rfl

def queueWith (tables : Tables) (nodeID : String) (inputs : Dict String Uuid)
  (staged : WorkerTaskDispatch) : Tables :=
  { tables.modifyNode nodeID (queueNode inputs) (id_queueNode inputs) with
    dispatches := tables.dispatches ++ [staged] }

structure TakesUp (services : Services) (tables : Tables) (nodeID : String)
  (node : NodeExecution) (answer : Option (Option Uuid)) : Prop where
  found : tables.job.node? nodeID = some node
  ready : Sweep.Ready (dispatchRules services false tables.job) (mark tables.job) nodeID
  answer : (dispatchRules services false tables.job).answer nodeID
    (Sweep.values (mark tables.job)) = answer

inductive Visited (services : Services) (tables : Tables) (nodeID : String) : Outcome → Prop
  | idle
    (idle : ¬ Sweep.Ready (dispatchRules services false tables.job) (mark tables.job) nodeID) :
    Visited services tables nodeID (.finished tables)
  | blocked (refused : Tables) :
    Visited services tables nodeID (.blocked refused)
  | reused (node : NodeExecution) (artifact : Uuid) (inputs : Dict String Uuid)
    (taken : TakesUp services tables nodeID node (some (some artifact))) :
    Visited services tables nodeID (.finished (tables.modifyNode nodeID
      (reuseArtifact services artifact inputs false) fun _ => rfl))
  | occupied (node : NodeExecution) (message : String)
    (taken : TakesUp services tables nodeID node none)
    (occupied : tables.dispatches.any (isOpenInitial node.id) = true) :
    Visited services tables nodeID (.raised message tables)
  | faulted (node : NodeExecution) (message : String)
    (inputs : Dict String Uuid) (staged : WorkerTaskDispatch)
    (taken : TakesUp services tables nodeID node none)
    (free : tables.dispatches.any (isOpenInitial node.id) = false)
    (named : staged.nodeExecutionID = node.id)
    (error : services.redisError node.id = some message) :
    Visited services tables nodeID (.raised message
      (reconciled services node.id (queueWith tables nodeID inputs staged)))
  | launched (node : NodeExecution) (inputs : Dict String Uuid)
    (staged : WorkerTaskDispatch)
    (taken : TakesUp services tables nodeID node none)
    (free : tables.dispatches.any (isOpenInitial node.id) = false)
    (named : staged.nodeExecutionID = node.id)
    (quiet : services.redisError node.id = none) :
    Visited services tables nodeID (.finished
      (reconciled services node.id (queueWith tables nodeID inputs staged)))

theorem applyCachedArtifact_eq (node : NodeExecution) (inputs : Dict String Uuid) :
  applyCachedArtifact services tables nodeID node (inputArtifactsByHandle services inputs) false =
    .ok ((reusable services false node inputs).join.map fun artifact =>
      tables.modifyNode nodeID (reuseArtifact services artifact
        (inputArtifactsByHandle services inputs) false) fun _ => rfl) := by
  simp only [applyCachedArtifact, Bool.false_eq_true, false_and, if_false, reusable, cachedArtifact]
  cases lookup services node.id node.nodeType node.nodeConfig
    (inputArtifactsByHandle services inputs) with
  | error => rfl
  | ok hit => cases hit <;> rfl

theorem reusable_ne_some_none : reusable services registered node inputs ≠ some none := by
  unfold reusable
  split <;> simp

theorem stageWorkerTaskDispatch_initial (task : Task) : (∃ message,
  tables.dispatches.any (isOpenInitial task.nodeExecutionID) = true ∧
  stageWorkerTaskDispatch services tables none task = .error message) ∨
  ∃ staged, tables.dispatches.any (isOpenInitial task.nodeExecutionID) = false ∧
    staged.nodeExecutionID = task.nodeExecutionID ∧
    stageWorkerTaskDispatch services tables none task =
      .ok { tables with dispatches := tables.dispatches ++ [staged] } := by
  unfold stageWorkerTaskDispatch
  simp only [Option.isSome_none, Bool.false_eq_true, if_false]
  rw [any_eq_true, any_eq_false]
  cases rows : tables.dispatches.filter (isOpenInitial task.nodeExecutionID) with
  | nil =>
    refine .inr ⟨_, ?_, rfl, rfl⟩
    exact filter_eq_nil_iff.1 rows
  | cons first rest =>
    have member : first ∈ tables.dispatches.filter (isOpenInitial task.nodeExecutionID) := by
      rw [rows]
      exact mem_cons_self
    have occupied : ∃ dispatch ∈ tables.dispatches,
      isOpenInitial task.nodeExecutionID dispatch = true :=
      ⟨first, mem_filter.1 member⟩
    cases rest with
    | nil | cons => exact .inl ⟨_, occupied, rfl⟩

section

variable (inputs : Dict String Uuid)

theorem visited_launchNode (taken : TakesUp services tables nodeID node none) :
  Visited services tables nodeID (launchNode services tables nodeID node inputs) := by
  unfold launchNode
  dsimp only
  obtain ⟨message, occupied, refused⟩ | ⟨staged, free, named, accepted⟩ :=
    stageWorkerTaskDispatch_initial (taskFor services tables.job nodeID node inputs
      ((plannedDependencies tables.job).getD nodeID []))
  · rw [refused]
    exact .occupied node message taken occupied
  · rw [accepted]
    dsimp only [reconcilePendingDispatches]
    cases error : services.redisError node.id with
    | none => exact .launched node inputs staged taken free named error
    | some message => exact .faulted node message inputs staged taken free named error

theorem visited_dispatchNode (found : tables.job.node? nodeID = some node)
  (ready : Sweep.Ready (dispatchRules services false tables.job) (mark tables.job) nodeID)
  (planned : Planned tables.job) :
  Visited services tables nodeID (dispatchNode services tables nodeID node) := by
  have answer := answer_eq found ready
  have succeeded : dependenciesSucceeded tables.job
    ((plannedDependencies tables.job).getD nodeID []) = true := by
    have observed := isReady_iff.2 ready
    rw [planned]
    exact (Bool.and_eq_true _ _ ▸ observed).2
  unfold dispatchNode
  cases lockDispatchAuthority tables node with
  | error => exact .blocked tables
  | ok =>
    simp only [succeeded, Bool.not_true, Bool.false_eq_true, if_false, applyCachedArtifact_eq]
    cases hit : reusable services false node (inputArtifacts
      tables.job.pipelineSnapshot (outputArtifact tables.job) nodeID) with
    | none => exact visited_launchNode _ ⟨found, ready, answer.trans hit⟩
    | some value =>
      cases value with
      | none => exact absurd hit reusable_ne_some_none
      | some artifact => exact .reused node artifact _ ⟨found, ready, answer.trans hit⟩

theorem visited_dispatchIfReady (planned : Planned tables.job) :
  Visited services tables nodeID (dispatchIfReady services
    (buildDependencyMap tables.job.pipelineSnapshot) tables nodeID) := by
  unfold dispatchIfReady
  split
  next upstream _ listed found =>
    have named : upstream = (buildDependencyMap tables.job.pipelineSnapshot).getD nodeID [] := by
      rw [Dict.getD, listed, Option.getD_some]
    subst named
    split
    · exact visited_dispatchNode found (isReady_iff.1 ‹_›) planned
    · exact .idle fun ready => ‹¬ _› (isReady_iff.2 ready)
  next missing =>
    refine .idle fun ready => ?_
    obtain ⟨node, found, -⟩ := mark_eq_waiting_iff.1 ready.1
    have listed : nodeID ∈ (buildDependencyMap tables.job.pipelineSnapshot).keys := by
      rw [keys_buildDependencyMap tables.job.unique]
      exact Job.mem_nodeIDs found
    cases entry : (buildDependencyMap tables.job.pipelineSnapshot).get? nodeID with
    | none => exact absurd listed (Dict.get?_eq_none_iff.1 entry)
    | some upstream => exact missing upstream node entry found

theorem lockInitialLaunchAuthority_cases (tables : Tables) (launch : Tables → Outcome) :
  (∃ refused, lockInitialLaunchAuthority tables launch = .blocked refused) ∨
    lockInitialLaunchAuthority tables launch = launch tables := by
  unfold lockInitialLaunchAuthority
  dsimp only
  split_ifs
  · exact .inl ⟨_, rfl⟩
  · exact .inl ⟨_, rfl⟩
  · exact .inl ⟨_, rfl⟩
  · exact .inl ⟨_, rfl⟩
  · exact .inr rfl

theorem visited_visitNode (guardInitialLaunch : Bool) (planned : Planned tables.job) :
  Visited services tables nodeID (visitNode services guardInitialLaunch
    (buildDependencyMap tables.job.pipelineSnapshot) tables nodeID) := by
  unfold visitNode
  split_ifs with guarded ready
  · obtain ⟨refused, blocked⟩ | granted :=
      lockInitialLaunchAuthority_cases tables fun tables =>
        dispatchIfReady services (buildDependencyMap tables.job.pipelineSnapshot) tables nodeID
    · rw [blocked]
      exact .blocked refused
    · rw [granted]
      exact visited_dispatchIfReady planned
  · exact .idle fun due => ready (isReady_iff.2 due)
  · exact visited_dispatchIfReady planned

theorem TakesUp.pending {answer : Option (Option Uuid)}
  (taken : TakesUp services tables nodeID node answer) :
  node.status = .pending := by
  obtain ⟨_, found, pending⟩ := mark_eq_waiting_iff.1 taken.ready.1
  cases taken.found.symm.trans found
  exact pending

theorem TakesUp.advances_reuse
  (taken : TakesUp services tables nodeID node (some (some artifact))) :
  tables.job.Advances (tables.modifyNode nodeID
    (reuseArtifact services artifact inputs false) fun _ => rfl).job :=
  .modifyNode taken.found (reuseArtifact services artifact inputs false)
    (fun _ => rfl) ⟨rfl, .inr ⟨taken.pending, .inl rfl⟩⟩

theorem TakesUp.advances_queue (staged : WorkerTaskDispatch)
  (taken : TakesUp services tables nodeID node none) :
  tables.job.Advances (reconciled services node.id (queueWith tables nodeID inputs staged)).job :=
  .modifyNode taken.found (queueNode inputs) (fun _ => rfl) ⟨rfl, .inr ⟨taken.pending, .inr rfl⟩⟩

end

theorem Visited.advances (visited : Visited services tables nodeID outcome)
  (granted : outcome.isBlocked = false) :
  tables.job.Advances outcome.tables.job := by
  cases visited with
  | idle => exact .refl _
  | blocked => cases granted
  | reused _ _ inputs taken => exact taken.advances_reuse inputs
  | occupied => exact .refl _
  | faulted _ _ inputs staged taken => exact taken.advances_queue inputs staged
  | launched _ inputs staged taken => exact taken.advances_queue inputs staged

theorem Visited.mark {after : Tables} (visited : Visited services tables nodeID (.finished after)) :
  mark after.job = Sweep.visit (dispatchRules services false tables.job)
    (mark tables.job) nodeID := by
  cases visited with
  | idle idle => exact (Sweep.visit_idle idle).symm
  | reused _ artifact inputs taken =>
    rw [Sweep.visit_ready taken.ready, Sweep.taken, taken.answer]
    exact mark_modifyNode taken.found (reuseArtifact services artifact inputs false) fun _ => rfl
  | launched _ inputs _ taken =>
    rw [Sweep.visit_ready taken.ready, Sweep.taken, taken.answer]
    exact mark_modifyNode taken.found (queueNode inputs) fun _ => rfl

theorem keeps_visitNodes (keeps : Tables → Tables → Prop) (refl : ∀ tables, keeps tables tables)
  (trans : ∀ {first second third}, keeps first second → keeps second third → keeps first third)
  (kept : ∀ {tables nodeID outcome}, Visited services tables nodeID outcome →
    outcome.isBlocked = false → keeps tables outcome.tables)
  {outcome : Outcome} (planned : Planned tables.job)
  (visits : visitNodes services guardInitialLaunch
    (buildDependencyMap tables.job.pipelineSnapshot) listing tables = outcome)
  (granted : outcome.isBlocked = false) : keeps tables outcome.tables := by
  induction listing generalizing tables with
  | nil =>
    cases visits
    exact refl tables
  | cons nodeID _ ih =>
    have visited : Visited services tables nodeID _ := visited_visitNode guardInitialLaunch planned
    change (visitNode services guardInitialLaunch _ tables nodeID).andThen _ = outcome at visits
    cases visit : visitNode services guardInitialLaunch
      (buildDependencyMap tables.job.pipelineSnapshot) tables nodeID with
    | blocked =>
      rw [visit] at visits
      cases visits
      cases granted
    | raised =>
      rw [visit] at visits visited
      cases visits
      exact kept visited rfl
    | finished middle =>
      rw [visit] at visits visited
      have step : tables.job.Advances middle.job := visited.advances rfl
      have later := visits
      rw [Outcome.andThen, ← step.pipelineSnapshot] at later
      exact trans (kept visited rfl) (ih (planned.of_advances step) later)

theorem advances_visitNodes (planned : Planned tables.job)
  (visits : visitNodes services guardInitialLaunch
    (buildDependencyMap tables.job.pipelineSnapshot) listing tables =
      outcome) (granted : outcome.isBlocked = false) :
  tables.job.Advances outcome.tables.job :=
  keeps_visitNodes (fun before after => before.job.Advances after.job)
    (fun tables => .refl tables.job) .trans Visited.advances planned visits
    granted

theorem mark_visitNodes {after : Tables} (planned : Planned tables.job)
  (finished : visitNodes services guardInitialLaunch
    (buildDependencyMap tables.job.pipelineSnapshot) listing tables = .finished after) :
  mark after.job = Sweep.sweep (dispatchRules services false tables.job) listing
    (mark tables.job) := by
  induction listing generalizing tables with
  | nil =>
    cases finished
    rfl
  | cons nodeID _ ih =>
    obtain ⟨middle, visit, later⟩ := Outcome.andThen_eq_finished finished
    have visited : Visited services tables nodeID (.finished middle) :=
      visit ▸ visited_visitNode guardInitialLaunch planned
    have step : tables.job.Advances middle.job := visited.advances rfl
    rw [← step.pipelineSnapshot] at later
    rw [ih (planned.of_advances step) later, dispatchRules_eq step, visited.mark]
    rfl

def ReadyNode (job : Job) (nodeID : String) : Prop :=
  ∃ node, job.node? nodeID = some node ∧ node.status = .pending ∧
    ∀ source, job.pipelineSnapshot.Edge source nodeID →
      ∃ upstream, job.node? source = some upstream ∧ upstream.status = .succeeded

theorem readyNode_iff (services : Services) (registered : Bool) {job : Job} {nodeID : String} :
  ReadyNode job nodeID ↔ Sweep.Ready (dispatchRules services registered job) (mark job) nodeID := by
  have upstream : (∃ node, job.node? nodeID = some node) →
    ((∀ source, job.pipelineSnapshot.Edge source nodeID →
      ∃ upstream, job.node? source = some upstream ∧ upstream.status = .succeeded) ↔
    ∀ source ∈ (dispatchRules services registered job).depends nodeID,
      (Sweep.values (mark job) source).isSome = true) := by
    rintro ⟨_, found⟩
    refine forall_congr' fun source => ?_
    rw [isSome_values_iff, Option.any_eq_true]
    simp only [decide_eq_true_eq]
    rw [← mem_getD_buildDependencyMap job.unique (Job.mem_nodeIDs found)]
    rfl
  unfold ReadyNode Sweep.Ready
  rw [mark_eq_waiting_iff]
  constructor
  · rintro ⟨node, found, pending, succeeded⟩
    exact ⟨⟨node, found, pending⟩, (upstream ⟨node, found⟩).1 succeeded⟩
  · rintro ⟨⟨node, found, pending⟩, succeeded⟩
    exact ⟨node, found, pending, (upstream ⟨node, found⟩).2 succeeded⟩

theorem readyNode_congr {left right : Job} (nodes : left.nodes = right.nodes)
  (snapshot : left.pipelineSnapshot = right.pipelineSnapshot)
  (nodeID : String) : ReadyNode left nodeID ↔ ReadyNode right nodeID := by
  unfold ReadyNode Job.node?
  rw [nodes, snapshot]

/-- A pass over a job that is not cancelled leaves no ready node behind exactly
if no pending node that the pass could come to find ready, by what has
succeeded and what the cache holds, is listed before a pending node it depends
on. -/
theorem dispatchReadyNodes_complete_iff {after : Tables} (planned : Planned tables.job)
  (finished : dispatchReadyNodes services guardInitialLaunch
    (buildDependencyMap tables.job.pipelineSnapshot) tables = .finished after) :
  (∀ nodeID, ¬ ReadyNode after.job nodeID) ↔ if tables.job.status = .cancelled then
    ∀ nodeID, ¬ ReadyNode tables.job nodeID
    else
      Sweep.Ordered (dispatchRules services false tables.job)
        tables.job.pipelineSnapshot.nodeIDs (mark tables.job) := by
  unfold dispatchReadyNodes at finished
  split_ifs at finished ⊢ with cancelled
  · cases finished
    exact Iff.rfl
  · obtain ⟨last, visits, final⟩ := Outcome.andThen_eq_finished finished
    cases final
    rw [keys_buildDependencyMap tables.job.unique] at visits
    have marks := mark_visitNodes planned visits
    have advances : tables.job.Advances last.job := advances_visitNodes planned visits rfl
    rw [← Sweep.complete_sweep_iff tables.job.unique waiting_listed, ← marks,
      ← dispatchRules_eq advances]
    obtain ⟨nodes, snapshot⟩ := maybeFinalizeJob_nodes last
    refine forall_congr' fun nodeID => not_congr ?_
    rw [readyNode_congr nodes snapshot, readyNode_iff services false]

def cachedDownload : Services where
  utcnow := 0
  unicode := ascii
  uuid4 dispatches := dispatches.length
  parseUUID _ := .error "badly formed hexadecimal UUID string"
  assetArtifact _ _ := none
  artifactOwner _ := none
  workerType _ := none
  cache _ nodeType _ _ :=
    .ok (if nodeType = "url_download" then some 9 else none)
  storeCache := .ok ()
  releaseRetryClaim := .ok ()
  delivery _ _ := (.delivered, some "0-1")
  redisError _ := none

def pendingExecution (id : Uuid) (nodeType : String)
  (config : Dict String ConfigValue) : NodeExecution where
  id := id
  nodeType := nodeType
  nodeLabel := ""
  nodeConfig := config
  status := .pending
  workerID := none
  workerRegistrationID := none
  workerLeaseEpoch := none
  startedAt := none
  errorMessage := none
  retryCount := 0
  inputArtifactIDs := []
  outputArtifactID := none

def plainNode (id type : String) : PipelineNode where
  id := id
  type := type
  data := { label := "", config := .empty, assetID := none }

def openAuthority : Authority where
  channel := none
  task := none
  schedule := { state := .opened, guardedJobID := none }

def downloadConfig : Dict String ConfigValue := Dict.empty.set "url" (.str "clip")

def downloadJob : Job where
  id := 1
  status := .pending
  pipelineSnapshot :=
    { nodes := [plainNode "cut" "trim", plainNode "clip" "url_download"]
      edges := [⟨"e", "clip", "cut", "output", "input"⟩] }
  executionPlan := none
  startedAt := none
  errorMessage := none
  nodes := (Dict.empty.set "cut" (pendingExecution 2 "trim" .empty)).set "clip"
    (pendingExecution 3 "url_download" downloadConfig)
  listed := .refl _
  distinct := by decide

def downloadTables : Tables where
  authority := openAuthority
  job := planJob cachedDownload downloadJob
  dispatches := []

def downloadPass : Outcome :=
  dispatchReadyNodes cachedDownload true
    (buildDependencyMap downloadTables.job.pipelineSnapshot) downloadTables

/-- The hit comes after the visit of the node that waits for it. -/
theorem downloadPass_incomplete : downloadPass = .finished downloadPass.tables ∧
  ReadyNode downloadPass.tables.job "cut" := by
  have ready : isReady downloadPass.tables.job
    ((buildDependencyMap downloadPass.tables.job.pipelineSnapshot).getD
      "cut" []) "cut" = true := by
    decide +kernel
  exact ⟨Outcome.eq_finished (by decide +kernel),
    (readyNode_iff cachedDownload false).2 (isReady_iff.1 ready)⟩

/-- The pass at the same job. -/
theorem downloadPass_complete_iff : (∀ nodeID, ¬ ReadyNode downloadPass.tables.job nodeID) ↔
  if downloadTables.job.status = .cancelled then
    ∀ nodeID, ¬ ReadyNode downloadTables.job nodeID
  else
    Sweep.Ordered (dispatchRules cachedDownload false downloadTables.job)
      downloadTables.job.pipelineSnapshot.nodeIDs
      (mark downloadTables.job) :=
  dispatchReadyNodes_complete_iff rfl (show downloadPass = .finished downloadPass.tables from
    Outcome.eq_finished (by decide +kernel))

end VideoProcess.Python
