import VideoProcess.Go.Record

namespace VideoProcess.Go

open Data Program List

/-! The transitions of a job's record, and the invariants that they keep. -/

namespace JobView

variable {job : JobView} {upstream : String → String → Prop}
  {change : NodeExecutionView → NodeExecutionView}

theorem mem_mapNodes {node : NodeExecutionView} : node ∈ (job.mapNodes change).nodes ↔
  ∃ old ∈ job.nodes, change old = node := mem_map

theorem mapNodes_mapNodes : (job.mapNodes first).mapNodes second =
  job.mapNodes fun node => second (first node) := by
  simp only [mapNodes, map_map]
  rfl

theorem mapNodes_congr (same : ∀ node ∈ job.nodes, change node = other node) :
  job.mapNodes change = job.mapNodes other := by
  rw [mapNodes, mapNodes, map_congr_left same]

theorem mapNodes_id (same : ∀ node ∈ job.nodes, change node = node) :
  job.mapNodes change = job := by
  rw [mapNodes, map_congr_left same, map_id']

theorem changeNodes_congr (same : ∀ node ∈ job.nodes, selected node = other node)
  (agree : ∀ node ∈ job.nodes, other node → change node = change' node) :
  job.changeNodes selected change = job.changeNodes other change' := by
  refine mapNodes_congr fun node member => ?_
  simp only [same node member]
  split
  · exact agree node member ‹_›
  · rfl

def Keeps (change : NodeExecutionView → NodeExecutionView) : Prop :=
  ∀ node, (change node).fixed = node.fixed

section

variable (keeps : Keeps change) (node : NodeExecutionView)

include keeps node

theorem Keeps.nodeID : (change node).nodeID = node.nodeID :=
  congrArg (fun columns => columns.2.1) (keeps node)

theorem Keeps.id : (change node).id = node.id := congrArg (fun columns => columns.1) (keeps node)

theorem Keeps.nodeType : (change node).nodeType = node.nodeType :=
  congrArg (fun columns => columns.2.2.1) (keeps node)

end

theorem Keeps.select (keeps : Keeps change) (selected : NodeExecutionView → Bool) :
  Keeps fun node => if selected node then change node else node := by
  intro node
  dsimp only
  split
  · exact keeps node
  · rfl

theorem Sound.of_fixed {other : JobView} (sound : job.Sound) (same : other.fixed = job.fixed)
  (plan : ∀ plan, other.executionPlan = some plan →
    plan = planFor job.pipelineSnapshot) : other.Sound := by
  have snapshot : other.pipelineSnapshot = job.pipelineSnapshot :=
    congrArg Fixed.pipelineSnapshot same
  have nodes : other.nodes.map NodeExecutionView.fixed = job.nodes.map NodeExecutionView.fixed :=
    congrArg Fixed.nodes same
  have ids : other.nodes.map NodeExecutionView.id = job.nodes.map NodeExecutionView.id := by
    have projected := congrArg (map fun columns => columns.1) nodes
    rwa [map_map, map_map] at projected
  have nodeIDs : other.nodes.map NodeExecutionView.nodeID =
    job.nodes.map NodeExecutionView.nodeID := by
    have projected := congrArg (map fun columns => columns.2.1) nodes
    rwa [map_map, map_map] at projected
  constructor
  · rw [ids]
    exact sound.ids
  · rw [nodeIDs, snapshot]
    exact sound.nodeIDs
  · rw [snapshot]
    exact sound.formed
  · rw [snapshot]
    exact plan

theorem fixed_mapNodes (keeps : Keeps change) : (job.mapNodes change).fixed = job.fixed := by
  simp only [fixed, mapNodes, map_map]
  congr 1
  exact map_congr_left fun node _ => keeps node

theorem Sound.mapNodes (sound : job.Sound) (keeps : Keeps change) : (job.mapNodes change).Sound :=
  sound.of_fixed (fixed_mapNodes keeps) sound.planned

theorem Sound.setNode {id : Uuid} (sound : job.Sound) (keeps : Keeps change) :
  (job.setNode id change).Sound := sound.mapNodes (keeps.select _)

theorem Sound.withStatus (sound : job.Sound) (status : JobStatus) :
  Sound { job with status := status } := sound.of_fixed rfl sound.planned

/-- No pending node has a failed, skipped or cancelled node upstream. -/
def Unblocked (upstream : String → String → Prop) (job : JobView) : Prop :=
  ∀ node ∈ job.nodes, node.status = .pending →
    ∀ other ∈ job.nodes, upstream other.nodeID node.nodeID → other.status.isFailed = false

section

variable (job : JobView)

def Supplied : Prop :=
  ∀ node ∈ job.nodes, node.status.isInFlight = true → job.Ready node.nodeID

def Waiting : Prop :=
  ∀ node ∈ job.nodes, node.status = .pending → ¬ job.Ready node.nodeID

def Resolved : Prop :=
  ∀ node ∈ job.nodes, node.nodeType = "source" → node.status ≠ .pending

def Quiet : Prop := job.status.isTerminal = true → hasActiveNode job.nodes = false

def Live : Prop := job.status.isTerminal = true ∨ hasActiveNode job.nodes = true

end

theorem hasActiveNode_iff : hasActiveNode job.nodes = true ↔
  ∃ node ∈ job.nodes, node.status.isActive = true := by
  simp only [hasActiveNode, any_eq_true]

theorem hasActiveNode_eq_false : hasActiveNode job.nodes = false ↔
  ∀ node ∈ job.nodes, node.status.isActive = false := by
  simp [hasActiveNode]

section

variable {change : NodeExecutionView → NodeExecutionView}

theorem Ready.mapNodes (ready : job.Ready nodeID) (keeps : Keeps change)
  (stay : ∀ node ∈ job.nodes, node.status = .succeeded → (change node).status = .succeeded) :
  (job.mapNodes change).Ready nodeID := by
  intro node member edge
  obtain ⟨old, present, rfl⟩ := mem_mapNodes.1 member
  rw [keeps.nodeID] at edge
  exact stay old present (ready old present edge)

theorem Ready.of_mapNodes (ready : (job.mapNodes change).Ready nodeID) (keeps : Keeps change)
  (stay : ∀ node ∈ job.nodes, (change node).status = .succeeded →
    node.status = .succeeded) : job.Ready nodeID := by
  intro node member edge
  refine stay node member (ready _ (mem_mapNodes.2 ⟨node, member, rfl⟩) ?_)
  rw [keeps.nodeID]
  exact edge

theorem Unblocked.mapNodes (unblocked : job.Unblocked upstream) (keeps : Keeps change)
  (pending : ∀ node ∈ job.nodes, (change node).status = .pending → node.status = .pending)
  (failed : ∀ node ∈ job.nodes, (change node).status.isFailed = true →
    node.status.isFailed = true) :
  (job.mapNodes change).Unblocked upstream := by
  intro node member waits other otherMember above
  obtain ⟨node, present, rfl⟩ := mem_mapNodes.1 member
  obtain ⟨other, otherPresent, rfl⟩ := mem_mapNodes.1 otherMember
  rw [keeps.nodeID, keeps.nodeID] at above
  have healthy := unblocked node present (pending node present waits) other otherPresent above
  exact Bool.eq_false_iff.2 fun broken =>
    Bool.eq_false_iff.1 healthy (failed other otherPresent broken)

theorem Supplied.mapNodes (supplied : job.Supplied) (keeps : Keeps change)
  (stay : ∀ node ∈ job.nodes, node.status = .succeeded → (change node).status = .succeeded)
  (flight : ∀ node ∈ job.nodes, (change node).status.isInFlight = true →
    node.status.isInFlight = true ∨ job.Ready node.nodeID) :
  (job.mapNodes change).Supplied := by
  intro node member inFlight
  obtain ⟨node, present, rfl⟩ := mem_mapNodes.1 member
  rw [keeps.nodeID]
  refine Ready.mapNodes ?_ keeps stay
  exact (flight node present inFlight).elim (supplied node present) fun ready => ready

theorem Waiting.mapNodes (waiting : job.Waiting) (keeps : Keeps change)
  (stay : ∀ node ∈ job.nodes, (change node).status = .succeeded → node.status = .succeeded)
  (pending : ∀ node ∈ job.nodes, (change node).status = .pending → node.status = .pending) :
  (job.mapNodes change).Waiting := by
  intro node member waits ready
  obtain ⟨node, present, rfl⟩ := mem_mapNodes.1 member
  rw [keeps.nodeID] at ready
  exact waiting node present (pending node present waits) (ready.of_mapNodes keeps stay)

theorem Resolved.mapNodes (resolved : job.Resolved) (keeps : Keeps change)
  (pending : ∀ node ∈ job.nodes, (change node).status = .pending → node.status = .pending) :
  (job.mapNodes change).Resolved := by
  intro node member source waits
  obtain ⟨node, present, rfl⟩ := mem_mapNodes.1 member
  rw [keeps.nodeType] at source
  exact resolved node present source (pending node present waits)

end

def planned (status : JobStatus) (job : JobView) : JobView :=
  { job with
    status := status
    executionPlan := some (planFor job.pipelineSnapshot) }

def dispatchable (job : JobView) (node : NodeExecutionView) : Bool :=
  node.status = .pending ∧ node.nodeType ≠ "source" ∧ dependenciesSucceeded job.nodes
    ((dependencyMap job.pipelineSnapshot).getD node.nodeID [])

def queue (node : NodeExecutionView) : NodeExecutionView := { node with status := .queued }

theorem keeps_queue : Keeps queue := fun _ => rfl

def dispatched (job : JobView) : JobView := job.changeNodes job.dispatchable queue

section

variable (sound : job.Sound)

include sound

theorem Sound.dispatchable_iff {node : NodeExecutionView} : job.dispatchable node = true ↔
  node.status = .pending ∧ node.nodeType ≠ "source" ∧ job.Ready node.nodeID := by
  rw [dispatchable, decide_eq_true_eq, sound.dependenciesSucceeded_iff]

theorem Sound.dispatched : job.dispatched.Sound := sound.mapNodes (keeps_queue.select _)

theorem Supplied.dispatched (supplied : job.Supplied) : job.dispatched.Supplied := by
  refine supplied.mapNodes (keeps_queue.select _) ?_ ?_
  · intro node _ succeeded
    rw [if_neg]
    · exact succeeded
    · intro selected
      rw [(sound.dispatchable_iff.1 selected).1] at succeeded
      cases succeeded
  · intro node _ inFlight
    split at inFlight
    · exact .inr (sound.dispatchable_iff.1 ‹_›).2.2
    · exact .inl inFlight

theorem Resolved.waiting_dispatched (resolved : job.Resolved) : job.dispatched.Waiting := by
  intro node member pending ready
  obtain ⟨node, present, rfl⟩ := mem_mapNodes.1 member
  rw [(keeps_queue.select _).nodeID] at ready
  have before : job.Ready node.nodeID := by
    refine ready.of_mapNodes (keeps_queue.select _) ?_
    intro other _ succeeded
    split at succeeded
    · cases succeeded
    · exact succeeded
  split at pending
  · cases pending
  next skipped =>
    refine skipped (sound.dispatchable_iff.2 ⟨pending, ?_, before⟩)
    exact fun source => resolved node present source pending

end

theorem Unblocked.dispatched (unblocked : job.Unblocked upstream) :
  job.dispatched.Unblocked upstream := by
  refine unblocked.mapNodes (keeps_queue.select _) ?_ ?_
  · intro node _ pending
    split at pending
    · cases pending
    · exact pending
  · intro node _ failed
    split at failed
    · cases failed
    · exact failed

theorem Resolved.dispatched (resolved : job.Resolved) : job.dispatched.Resolved := by
  refine resolved.mapNodes (keeps_queue.select _) ?_
  intro node _ pending
  split at pending
  · cases pending
  · exact pending

def settled (job : JobView) : JobView :=
  if job.status.isTerminal ∨ hasActiveNode job.nodes then job
  else { job with status := finalStatus job }

theorem isTerminal_finalStatus : (finalStatus job).isTerminal = true := by
  unfold finalStatus
  split
  · rfl
  · split <;> rfl

theorem settled_eq : ∃ status, job.settled = { job with status := status } := by
  unfold settled
  split
  · exact ⟨job.status, rfl⟩
  · exact ⟨_, rfl⟩

theorem settled_of_moving (moving : ¬ job.settled.status.isTerminal = true) :
  job.settled = job := by
  unfold settled at moving ⊢
  split at moving
  · exact if_pos ‹_›
  · exact absurd isTerminal_finalStatus moving

theorem nodes_settled : job.settled.nodes = job.nodes := by
  obtain ⟨_, same⟩ := @settled_eq job
  rw [same]

theorem live_settled : job.settled.Live := by
  unfold settled
  split
  · assumption
  · exact .inl isTerminal_finalStatus

theorem Quiet.settled (quiet : job.Quiet) : job.settled.Quiet := by
  unfold JobView.settled
  split
  · exact quiet
  next moving => exact fun _ => Bool.eq_false_iff.2 fun active => moving (.inr active)

theorem settled_ind (property : JobView → Prop)
  (stable : ∀ status, property { job with status := status }) :
  property job.settled := by
  obtain ⟨status, same⟩ := @settled_eq job
  rw [same]
  exact stable status

theorem fixed_settled : job.settled.fixed = job.fixed :=
  settled_ind (fun settled => settled.fixed = job.fixed) fun _ => rfl

def complete (artifactID : Uuid) (node : NodeExecutionView) : NodeExecutionView :=
  { node with status := .succeeded, outputArtifactID := some artifactID }

theorem keeps_complete {artifactID : Uuid} : Keeps (complete artifactID) := fun _ => rfl

def completed (job : JobView) (node : NodeExecutionView) (artifactID : Uuid) : JobView :=
  job.setNode node.id (complete artifactID)

theorem Sound.setNode_cases (sound : job.Sound)
  (change : NodeExecutionView → NodeExecutionView) (member : node ∈ job.nodes)
  (present : other ∈ job.nodes) :
  other = node ∧ (if decide (other.id = node.id) then change other else other) = change node ∨
    other.id ≠ node.id ∧ (if decide (other.id = node.id) then change other else other) =
      other := by
  by_cases same : other.id = node.id
  · cases sound.eq_of_id present member same
    exact .inl ⟨rfl, if_pos (decide_eq_true rfl)⟩
  · exact .inr ⟨same, if_neg (by simpa using same)⟩

theorem Sound.release_queue (sound : job.Sound) (member : node ∈ job.nodes)
  (pending : node.status = .pending) :
  (job.setNode node.id queue).changeNodes (fun other => other.id = node.id ∧ other.status = .queued)
    (fun other => { other with status := .pending }) = job := by
  rw [JobView.setNode, changeNodes, changeNodes, mapNodes_mapNodes]
  refine mapNodes_id fun other present => ?_
  rcases sound.setNode_cases queue member present with
    ⟨rfl, same⟩ | ⟨different, same⟩ <;> rw [same]
  · rw [if_pos (decide_eq_true ⟨rfl, rfl⟩), queue, ← pending]
  · rw [if_neg (by simp [different])]

theorem setNode_queue_changeNodes {id : Uuid} : (job.setNode id queue).changeNodes selected queue =
  job.changeNodes (fun node => node.id = id ∨
    selected (if node.id = id then queue node else node)) queue := by
  rw [JobView.setNode, changeNodes, changeNodes, changeNodes, mapNodes_mapNodes]
  refine mapNodes_congr fun node _ => ?_
  by_cases same : node.id = id
  · simp only [same, decide_true, if_true, true_or]
    split <;> rfl
  · simp [same]

theorem Sound.dispatchable_setNode (sound : job.Sound)
  (member : node ∈ job.nodes) (pending : node.status = .pending)
  {other : NodeExecutionView} :
  (job.setNode node.id queue).dispatchable
    (if other.id = node.id then queue other else other) = true ↔
    other.id ≠ node.id ∧ job.dispatchable other = true := by
  have ready : ∀ nodeID, (job.setNode node.id queue).Ready nodeID ↔ job.Ready nodeID := by
    intro nodeID
    refine ⟨fun ready => ready.of_mapNodes (keeps_queue.select _) ?_,
      fun ready => ready.mapNodes (keeps_queue.select _) ?_⟩ <;>
      intro third thirdPresent <;>
      dsimp only <;>
      rcases sound.setNode_cases queue member thirdPresent with
        ⟨rfl, same⟩ | ⟨-, same⟩ <;>
      rw [same]
    · intro same
      cases same
    · exact fun succeeded => succeeded
    · rw [pending]
      intro same
      cases same
    · exact fun succeeded => succeeded
  rw [(sound.setNode keeps_queue).dispatchable_iff, sound.dispatchable_iff, ready]
  by_cases same : other.id = node.id
  · simp [same, queue]
  · simp [same]

def dispatchedFrom (job : JobView) (nodeIDs : List String) : JobView :=
  job.changeNodes (fun node => node.nodeID ∈ nodeIDs ∧ job.dispatchable node) queue

theorem Sound.dispatchedFrom_cons (sound : job.Sound)
  (member : node ∈ job.nodes) (chosen : job.dispatchable node = true) :
  (job.setNode node.id queue).dispatchedFrom rest = job.dispatchedFrom (node.nodeID :: rest) := by
  obtain ⟨pending, -⟩ := sound.dispatchable_iff.1 chosen
  rw [dispatchedFrom, setNode_queue_changeNodes]
  refine changeNodes_congr (fun other present => ?_) fun _ _ _ => rfl
  simp only [decide_eq_true_eq, sound.dispatchable_setNode member pending,
    apply_ite NodeExecutionView.nodeID, keeps_queue.nodeID, ite_self,
    mem_cons]
  by_cases same : other.id = node.id
  · simp [sound.eq_of_id present member same, chosen]
  · have apart : other.nodeID ≠ node.nodeID := fun named =>
      same (congrArg _ (sound.eq_of_nodeID present member named))
    simp [same, apart]

section

variable (sound : job.Sound) (member : node ∈ job.nodes) (keeps : Keeps change)

include sound member keeps

theorem Unblocked.setNode (unblocked : job.Unblocked upstream)
  (pending : (change node).status = .pending → node.status = .pending)
  (healthy : (change node).status.isFailed = false) :
  (job.setNode node.id change).Unblocked upstream := by
  refine unblocked.mapNodes (keeps.select _) ?_ ?_ <;>
    intro other present <;>
    dsimp only <;>
    rcases sound.setNode_cases change member present with
      ⟨rfl, same⟩ | ⟨-, same⟩ <;>
    rw [same]
  · exact pending
  · exact fun waits => waits
  · rw [healthy]
    exact fun broken => by cases broken
  · exact fun failed => failed

theorem Supplied.setNode (supplied : job.Supplied) (moves : node.status ≠ .succeeded)
  (flight : (change node).status.isInFlight = true → job.Ready node.nodeID) :
  (job.setNode node.id change).Supplied := by
  refine supplied.mapNodes (keeps.select _) ?_ ?_ <;>
    intro other present <;>
    dsimp only <;>
    rcases sound.setNode_cases change member present with
      ⟨rfl, same⟩ | ⟨-, same⟩ <;>
    rw [same]
  · exact fun succeeded => absurd succeeded moves
  · exact fun succeeded => succeeded
  · exact fun inFlight => .inr (flight inFlight)
  · exact fun inFlight => .inl inFlight

section

variable (pending : (change node).status = .pending → node.status = .pending)

include pending

theorem Waiting.setNode (waiting : job.Waiting) (unfinished : (change node).status ≠ .succeeded) :
  (job.setNode node.id change).Waiting := by
  refine waiting.mapNodes (keeps.select _) ?_ ?_ <;>
    intro other present <;>
    dsimp only <;>
    rcases sound.setNode_cases change member present with
      ⟨rfl, same⟩ | ⟨-, same⟩ <;>
    rw [same]
  · exact fun succeeded => absurd succeeded unfinished
  · exact fun succeeded => succeeded
  · exact pending
  · exact fun waits => waits

theorem Resolved.setNode (resolved : job.Resolved) : (job.setNode node.id change).Resolved := by
  refine resolved.mapNodes (keeps.select _) ?_
  intro other present
  dsimp only
  rcases sound.setNode_cases change member present with
    ⟨rfl, same⟩ | ⟨-, same⟩ <;>
    rw [same]
  · exact pending
  · exact fun waits => waits

end

end

def fail (node : NodeExecutionView) : NodeExecutionView := { node with status := .failed }

theorem keeps_fail : Keeps fail := fun _ => rfl

def skip (node : NodeExecutionView) : NodeExecutionView := { node with status := .skipped }

theorem keeps_skip : Keeps skip := fun _ => rfl

def skippable (nodeIDs : List String) (node : NodeExecutionView) : Bool :=
  node.nodeID ∈ nodeIDs ∧ (node.status = .pending ∨ node.status = .queued)

def withFailure (job : JobView) (node : NodeExecutionView) : JobView :=
  (job.setNode node.id fail).changeNodes (skippable (downstreamNodeIDs node.nodeID
    (dependencyMap job.pipelineSnapshot))) skip

section

variable (sound : job.Sound) (member : node ∈ job.nodes)

theorem fixed_withFailure : (job.withFailure node).fixed = job.fixed :=
  (fixed_mapNodes (keeps_skip.select _)).trans (fixed_mapNodes (keeps_fail.select _))

theorem Sound.withFailure (sound : job.Sound) : (job.withFailure node).Sound :=
  (sound.setNode keeps_fail).mapNodes (keeps_skip.select _)

include sound member

theorem Unblocked.withFailure (unblocked : job.Unblocked upstream)
  (above : ∀ source target, upstream source target →
    Relation.TransGen job.pipelineSnapshot.Edge source target) :
  (job.withFailure node).Unblocked upstream := by
  intro waiter waiterMember pending other otherMember upstreamOf
  obtain ⟨waiter, waiterMiddle, rfl⟩ := mem_mapNodes.1 waiterMember
  obtain ⟨other, otherMiddle, rfl⟩ := mem_mapNodes.1 otherMember
  rw [(keeps_skip.select _).nodeID, (keeps_skip.select _).nodeID] at upstreamOf
  split at pending
  · cases pending
  rename_i kept
  have apart : ¬ Relation.TransGen job.pipelineSnapshot.Edge node.nodeID
    waiter.nodeID := fun below => kept (decide_eq_true
    ⟨mem_downstreamNodeIDs.2 below, .inl pending⟩)
  have further := above _ _ upstreamOf
  split
  next skipped =>
    exact absurd ((mem_downstreamNodeIDs.1 (of_decide_eq_true skipped).1).trans further) apart
  · obtain ⟨waiter, waiterPresent, rfl⟩ := mem_mapNodes.1 waiterMiddle
    obtain ⟨other, otherPresent, rfl⟩ := mem_mapNodes.1 otherMiddle
    dsimp only at pending apart further upstreamOf ⊢
    rcases sound.setNode_cases fail member waiterPresent with
      ⟨rfl, same⟩ | ⟨-, same⟩ <;> rw [same] at pending apart further upstreamOf
    · cases pending
    rcases sound.setNode_cases fail member otherPresent with
      ⟨rfl, same⟩ | ⟨-, same⟩ <;> rw [same] at further upstreamOf ⊢
    · exact absurd further apart
    · exact unblocked waiter waiterPresent pending other otherPresent upstreamOf

theorem Supplied.withFailure (supplied : job.Supplied)
  (moves : node.status ≠ .succeeded) : (job.withFailure node).Supplied := by
  refine (supplied.setNode sound member keeps_fail moves fun same => by cases same).mapNodes
    (keeps_skip.select _) ?_ ?_
  · intro other _ succeeded
    rw [if_neg]
    · exact succeeded
    · simp [skippable, succeeded]
  · intro other _ inFlight
    split at inFlight
    · cases inFlight
    · exact .inl inFlight

theorem Waiting.withFailure (waiting : job.Waiting) : (job.withFailure node).Waiting := by
  refine (waiting.setNode sound member keeps_fail
    (fun same => by cases same) fun same => by cases same).mapNodes
    (keeps_skip.select _) ?_ ?_ <;>
    intro other _ status <;>
    split at status
  · cases status
  · exact status
  · cases status
  · exact status

theorem Resolved.withFailure (resolved : job.Resolved) : (job.withFailure node).Resolved := by
  refine (resolved.setNode sound member keeps_fail fun same => by cases same).mapNodes
    (keeps_skip.select _) ?_
  intro other _ status
  split at status
  · cases status
  · exact status

end

def count (node : NodeExecutionView) : NodeExecutionView :=
  { node with
    status := .pending
    retryCount := node.retryCount + 1
    workerID := none }

theorem keeps_count : Keeps count := fun _ => rfl

/-- The record after a first failure: the attempt is counted, and the node is
dispatched again if it can be. -/
def retried (job : JobView) (node : NodeExecutionView) : JobView :=
  job.setNode node.id fun node =>
    { node with
      retryCount := node.retryCount + 1
      workerID := none
      status :=
        if dependenciesSucceeded job.nodes
          ((dependencyMap job.pipelineSnapshot).getD node.nodeID []) then
          .queued
        else .pending }

theorem fixed_retried : (job.retried node).fixed = job.fixed := fixed_changeNodes fun _ => rfl

section

variable (sound : job.Sound) (member : node ∈ job.nodes) (active : node.status.isActive = true)

include sound in
theorem Sound.retried : (job.retried node).Sound := sound.setNode fun _ => rfl

include sound member

theorem Unblocked.retried (unblocked : job.Unblocked upstream)
  (pending : ¬ job.Ready node.nodeID → node.status = .pending) :
  (job.retried node).Unblocked upstream := by
  refine unblocked.setNode sound member (fun _ => rfl) ?_ ?_
  · intro waits
    refine pending fun ready => ?_
    rw [if_pos (sound.dependenciesSucceeded_iff.2 ready)] at waits
    cases waits
  · dsimp only
    split <;> rfl

theorem Supplied.retried (supplied : job.Supplied)
  (moves : node.status ≠ .succeeded) : (job.retried node).Supplied := by
  refine supplied.setNode sound member (fun _ => rfl) moves ?_
  intro inFlight
  by_contra unready
  rw [if_neg (mt sound.dependenciesSucceeded_iff.1 unready)] at inFlight
  cases inFlight

theorem Waiting.retried (waiting : job.Waiting)
  (pending : ¬ job.Ready node.nodeID → node.status = .pending) :
  (job.retried node).Waiting := by
  refine waiting.setNode sound member (fun _ => rfl) ?_ ?_
  · intro waits
    refine pending fun ready => ?_
    rw [if_pos (sound.dependenciesSucceeded_iff.2 ready)] at waits
    cases waits
  · dsimp only
    split <;> exact fun same => by cases same

theorem Resolved.retried (resolved : job.Resolved)
  (pending : ¬ job.Ready node.nodeID → node.status = .pending) :
  (job.retried node).Resolved := by
  refine resolved.setNode sound member (fun _ => rfl) ?_
  intro waits
  refine pending fun ready => ?_
  rw [if_pos (sound.dependenciesSucceeded_iff.2 ready)] at waits
  cases waits

end

section

variable (sound : job.Sound) (member : node ∈ job.nodes)

include sound member

theorem Sound.ready_count (active : node.status.isActive = true) :
  (job.setNode node.id count).Ready nodeID ↔ job.Ready nodeID := by
  refine ⟨fun ready => ready.of_mapNodes (keeps_count.select _) ?_,
    fun ready => ready.mapNodes (keeps_count.select _) ?_⟩ <;>
    intro other present <;>
    dsimp only <;>
    rcases sound.setNode_cases count member present with
      ⟨rfl, same⟩ | ⟨-, same⟩ <;>
    rw [same]
  · intro same
    cases same
  · exact fun succeeded => succeeded
  · intro succeeded
    rw [succeeded] at active
    cases active
  · exact fun succeeded => succeeded

theorem Sound.retried_of_ready (ready : job.Ready node.nodeID) :
  (job.setNode node.id count).setNode node.id queue = job.retried node := by
  rw [JobView.retried, JobView.setNode, JobView.setNode, JobView.setNode,
    changeNodes, changeNodes, changeNodes, mapNodes_mapNodes]
  refine mapNodes_congr fun other present => ?_
  by_cases same : other.id = node.id
  · cases sound.eq_of_id present member same
    simp [sound.dependenciesSucceeded_iff.2 ready, count, queue]
  · simp [same]

theorem Sound.retried_of_not_ready (unready : ¬ job.Ready node.nodeID) :
  job.setNode node.id count = job.retried node := by
  refine changeNodes_congr (fun _ _ => rfl) fun other present same => ?_
  rw [sound.eq_of_id present member (of_decide_eq_true same),
    if_neg (mt sound.dependenciesSucceeded_iff.1 unready)]
  rfl

end

theorem Supplied.pending_of_not_ready (supplied : job.Supplied)
  (member : node ∈ job.nodes) (active : node.status.isActive = true)
  (unready : ¬ job.Ready node.nodeID) : node.status = .pending :=
  ((NodeStatus.isActive_iff _).1 active).resolve_right fun inFlight =>
    unready (supplied node member inFlight)

def Inert (job : JobView) (id : Uuid) : Prop :=
  ignoresEvents job = true ∨ ∀ node ∈ job.nodes, node.id = id → node.status.isTerminal = true

theorem inert_or_active (job : JobView) (id : Uuid) : job.Inert id ∨ ignoresEvents job = false ∧
  ∃ node ∈ job.nodes, node.id = id ∧ node.status.isActive = true := by
  by_cases listens : ignoresEvents job = true
  · exact .inl (.inl listens)
  by_cases rest : ∀ node ∈ job.nodes, node.id = id → node.status.isTerminal = true
  · exact .inl (.inr rest)
  simp only [not_forall, exists_prop] at rest
  obtain ⟨node, member, named, moving⟩ := rest
  refine .inr ⟨Bool.eq_false_iff.2 listens, node, member, named, ?_⟩
  rw [NodeStatus.isActive_eq_not_isTerminal, Bool.eq_false_iff.2 moving]
  rfl

/-- What every operation keeps, of a job whose nodes are blocked by failures
among their `upstream`. -/
structure Healthy (upstream : String → String → Prop) (job : JobView) : Prop where
  sound : job.Sound
  above : ∀ source target, upstream source target →
    Relation.TransGen job.pipelineSnapshot.Edge source target
  quiet : job.Quiet
  unblocked : job.Unblocked upstream
  supplied : job.Supplied

theorem Quiet.moving {node : NodeExecutionView} (quiet : job.Quiet)
  (member : node ∈ job.nodes) (active : node.status.isActive = true) :
  job.status.isTerminal = false := by
  refine Bool.eq_false_iff.2 fun terminal => ?_
  have inactive := hasActiveNode_eq_false.1 (quiet terminal) node member
  rw [active] at inactive
  cases inactive

theorem quiet_of_moving (moving : job.status.isTerminal = false) : job.Quiet :=
  fun terminal => absurd terminal (Bool.eq_false_iff.1 moving)

namespace Healthy

variable (healthy : job.Healthy upstream)

include healthy

theorem settled (moving : job.status.isTerminal = false) : job.settled.Healthy upstream where
  sound := settled_ind Sound fun status => healthy.sound.withStatus status
  above := settled_ind (fun settled => ∀ source target, upstream source target →
    Relation.TransGen settled.pipelineSnapshot.Edge source target)
    fun _ => healthy.above
  quiet := (quiet_of_moving moving).settled
  unblocked := settled_ind (Unblocked upstream) fun _ => healthy.unblocked
  supplied := settled_ind Supplied fun _ => healthy.supplied

theorem planned {status : JobStatus} (moving : status.isTerminal = false) :
  (job.planned status).Healthy upstream where
  sound := healthy.sound.of_fixed rfl fun _ same =>
    (Option.some.inj same).symm
  above := healthy.above
  quiet := quiet_of_moving moving
  unblocked := healthy.unblocked
  supplied := healthy.supplied

theorem dispatched (moving : job.status.isTerminal = false) : job.dispatched.Healthy upstream where
  sound := healthy.sound.dispatched
  above := healthy.above
  quiet := quiet_of_moving moving
  unblocked := healthy.unblocked.dispatched
  supplied := healthy.supplied.dispatched healthy.sound

variable (member : node ∈ job.nodes) (active : node.status.isActive = true)

include member active

theorem moving : job.status.isTerminal = false := healthy.quiet.moving member active

theorem completed (artifactID : Uuid) : (job.completed node artifactID).Healthy upstream where
  sound := healthy.sound.setNode keeps_complete
  above := healthy.above
  quiet := quiet_of_moving (healthy.moving member active)
  unblocked :=
    healthy.unblocked.setNode healthy.sound member keeps_complete (fun same => by cases same) rfl
  supplied := healthy.supplied.setNode healthy.sound member keeps_complete
    (fun succeeded => by rw [succeeded] at active; cases active)
    fun same => by cases same

theorem withFailure : (job.withFailure node).Healthy upstream where
  sound := healthy.sound.withFailure
  above := healthy.above
  quiet := quiet_of_moving (healthy.moving member active)
  unblocked := healthy.unblocked.withFailure healthy.sound member healthy.above
  supplied := healthy.supplied.withFailure healthy.sound member
    fun succeeded => by rw [succeeded] at active; cases active

theorem retried : (job.retried node).Healthy upstream where
  sound := healthy.sound.retried
  above := healthy.above
  quiet := quiet_of_moving (healthy.moving member active)
  unblocked := healthy.unblocked.retried healthy.sound member
    (healthy.supplied.pending_of_not_ready member active)
  supplied := healthy.supplied.retried healthy.sound member
    fun succeeded => by rw [succeeded] at active; cases active

end Healthy

def ResolvedAt (job : JobView) (index : Nat) : Prop :=
  ∀ node, job.nodes[index]? = some node → node.nodeType = "source" → node.status ≠ .pending

structure Resolution (upstream : String → String → Prop)
  (job resolved : JobView) : Prop extends Healthy upstream resolved where
  fixed : resolved.fixed = job.fixed
  stays : ∀ index, job.ResolvedAt index → resolved.ResolvedAt index

namespace Resolution

theorem refl (healthy : job.Healthy upstream) : Resolution upstream job job :=
  ⟨healthy, rfl, fun _ holds => holds⟩

theorem trans (first : Resolution upstream job second) (next : Resolution upstream second third) :
  Resolution upstream job third :=
  ⟨next.toHealthy, next.fixed.trans first.fixed,
    fun index holds => next.stays index (first.stays index holds)⟩

end Resolution

theorem ResolvedAt.mapNodes (resolved : job.ResolvedAt index) (keeps : Keeps change)
  (pending : ∀ node ∈ job.nodes, (change node).status = .pending →
    node.status = .pending) : (job.mapNodes change).ResolvedAt index := by
  intro node position source waits
  simp only [JobView.mapNodes, getElem?_map, Option.map_eq_some_iff] at position
  obtain ⟨node, position, rfl⟩ := position
  rw [keeps.nodeType] at source
  exact resolved node position source (pending node (mem_of_getElem? position) waits)

section

theorem resolvedAt_setNode {change : NodeExecutionView → NodeExecutionView}
  (position : job.nodes[index]? = some node)
  (moved : (change node).status ≠ .pending) :
  (job.setNode node.id change).ResolvedAt index := by
  intro other otherPosition _
  simp only [JobView.setNode, changeNodes, mapNodes, getElem?_map, position,
    Option.map_some, decide_true, if_true, Option.some.injEq] at otherPosition
  rw [← otherPosition]
  exact moved

theorem ResolvedAt.skip (resolved : job.ResolvedAt index) :
  ((job.changeNodes (skippable nodeIDs) skip).settled).ResolvedAt index := by
  refine settled_ind (ResolvedAt · index) fun _ =>
    resolved.mapNodes (keeps_skip.select _) fun other _ waits => ?_
  split at waits
  · cases waits
  · exact waits

variable (healthy : job.Healthy upstream) (member : node ∈ job.nodes)
  (pending : node.status = .pending)

include healthy member pending

theorem Resolution.complete (artifactID : Uuid) :
  Resolution upstream job (job.completed node artifactID) where
  toHealthy := healthy.completed member (pending ▸ rfl) artifactID
  fixed := fixed_mapNodes (keeps_complete.select _)
  stays index resolved := by
    refine resolved.mapNodes (keeps_complete.select _) fun other _ waits => ?_
    split at waits
    · cases waits
    · exact waits

theorem Resolution.withFailure : Resolution upstream job (job.withFailure node).settled where
  toHealthy := (healthy.withFailure member (pending ▸ rfl)).settled
    (healthy.moving member (pending ▸ rfl))
  fixed := fixed_settled.trans fixed_withFailure
  stays index resolved := by
    refine ResolvedAt.skip (resolved.mapNodes (keeps_fail.select _) ?_)
    intro other _ waits
    split at waits
    · cases waits
    · exact waits

end

structure Started (upstream : String → String → Prop) (job : JobView) :
  Prop extends Healthy upstream job where
  resolved : job.Resolved
  waiting : job.Waiting
  live : job.Live

namespace Started

theorem of_terminal (healthy : job.Healthy upstream)
  (terminal : job.status.isTerminal = true) : Started upstream job := by
  have moved : ∀ node ∈ job.nodes, node.status ≠ .pending := by
    intro node member pending
    have inactive := hasActiveNode_eq_false.1 (healthy.quiet terminal) node member
    rw [pending] at inactive
    cases inactive
  exact ⟨healthy, fun node member _ => moved node member,
    fun node member pending => absurd pending (moved node member), .inl terminal⟩

theorem dispatched_settled (healthy : job.Healthy upstream)
  (moving : job.status.isTerminal = false) (resolved : job.Resolved) :
  Started upstream job.dispatched.settled where
  toHealthy := (healthy.dispatched moving).settled moving
  resolved := settled_ind JobView.Resolved fun _ => resolved.dispatched
  waiting := settled_ind Waiting fun _ =>
    resolved.waiting_dispatched healthy.sound
  live := live_settled

variable (started : job.Started upstream) (member : node ∈ job.nodes)
  (active : node.status.isActive = true)

include started member active

theorem completed (artifactID : Uuid) :
  Started upstream (job.completed node artifactID).dispatched.settled :=
  dispatched_settled (started.toHealthy.completed member active artifactID)
    (started.moving member active)
    (started.resolved.setNode started.sound member keeps_complete fun same => by cases same)

theorem withFailure : Started upstream (job.withFailure node).settled where
  toHealthy := (started.toHealthy.withFailure member active).settled (started.moving member active)
  resolved := settled_ind JobView.Resolved fun _ =>
    started.resolved.withFailure started.sound member
  waiting := settled_ind Waiting fun _ =>
    started.waiting.withFailure started.sound member
  live := live_settled

theorem retried : Started upstream (job.retried node) := by
  have pending := started.supplied.pending_of_not_ready member active
  refine ⟨started.toHealthy.retried member active,
    started.resolved.retried started.sound member pending,
    started.waiting.retried started.sound member pending,
    .inr (hasActiveNode_iff.2 ⟨_, mem_mapNodes.2 ⟨node, member, rfl⟩, ?_⟩)⟩
  rw [if_pos (decide_eq_true rfl)]
  dsimp only
  split <;> rfl

end Started

theorem Live.inFlight (live : job.Live) (acyclic : Graph.Acyclic job.pipelineSnapshot.Edge)
  (waiting : job.Waiting)
  (unblocked : job.Unblocked job.pipelineSnapshot.Edge) :
  job.status.isTerminal = true ∨ ∃ node ∈ job.nodes, node.status.isInFlight = true := by
  refine live.imp_right fun active => ?_
  by_contra idle
  simp only [not_exists, not_and, Bool.not_eq_true] at idle
  obtain ⟨node, member, active⟩ := hasActiveNode_iff.1 active
  have pending : node.status = .pending :=
    ((NodeStatus.isActive_iff _).1 active).resolve_right (Bool.eq_false_iff.1 (idle node member))
  -- A pending node with no pending dependency waits for one that cannot move.
  obtain ⟨-, -, ⟨first, firstMember, rfl, firstPending⟩, minimal⟩ :=
    acyclic.exists_first (job.nodes.map NodeExecutionView.nodeID)
      (fun nodeID => ∃ node ∈ job.nodes, node.nodeID = nodeID ∧ node.status = .pending)
      (mem_map_of_mem member) ⟨node, member, rfl, pending⟩
  refine waiting first firstMember firstPending fun other otherMember edge => ?_
  have healthy := unblocked first firstMember firstPending other otherMember edge
  have grounded := idle other otherMember
  have moved : other.status ≠ .pending := fun otherPending =>
    minimal other.nodeID (mem_map_of_mem otherMember) edge
      ⟨other, otherMember, rfl, otherPending⟩
  revert healthy grounded moved
  cases other.status <;> decide

end JobView

end VideoProcess.Go
