import VideoProcess.Go.Step

namespace VideoProcess.Go

open Data Program Fallible JobView

/-! The protocol the operations of the engine keep when they are interleaved. -/

structure Note where
  /-- The last record read, with the sources resolved since; `none` once the
  operation changed a node in a way it reads back. -/
  view : Option JobView
  /-- The fixed columns of the last Go-owned job read. -/
  known : Option JobView.Fixed
  job : Option Uuid
  /-- The nodes that have to be skipped next. -/
  owes : Option (Uuid × List String)

namespace Note

def idle : Note := ⟨none, none, none, none⟩

def handler (jobID : Uuid) : Note := { idle with job := some jobID }

variable (note : Note)

def debt (jobID nodeExecutionID : Uuid) : Option (Uuid × List String) :=
  note.view.bind fun view =>
    (findNodeByExecutionID view.nodes nodeExecutionID).map fun node =>
      (jobID, downstreamNodeIDs node.nodeID (dependencyMap view.pipelineSnapshot))

def next : (call : Call) → Except String call.Result → Note
  | .getJobDetail _, .ok (job : JobView) =>
    { note with
      view := some job
      known := if job.isGo then some job.fixed else note.known }
  | .createSourceArtifact _ nodeExecutionID _, .ok (artifactID : Uuid) =>
    { note with
      view := note.view.map (·.setNode nodeExecutionID (complete artifactID)) }
  | .markGoNodeFailed jobID nodeExecutionID _, .ok _ =>
    { note with view := none, owes := note.debt jobID nodeExecutionID }
  | .markGoNodeSucceeded _ _ _, _ => { note with view := none }
  | .incrementGoNodeRetry _ _, _ => { note with view := none }
  | .skipGoDownstreamNodes _ _, _ => { note with view := none, owes := none }
  | .claimGoJobPlanning jobID _, .ok (claimed : Bool) =>
    if claimed then { note with job := some jobID } else note
  | _, _ => note

def Holds (jobID nodeExecutionID : Uuid) : Prop :=
  ∃ view, note.view = some view ∧ view.id = jobID ∧ view.isGo = true ∧
    ∃ node ∈ view.nodes, node.id = nodeExecutionID ∧ node.status.isActive = true

def Allows : Call → Prop
  | .createSourceArtifact jobID nodeExecutionID _
  | .markGoNodeSucceeded jobID nodeExecutionID _
  | .markGoNodeFailed jobID nodeExecutionID _
  | .incrementGoNodeRetry jobID nodeExecutionID => note.Holds jobID nodeExecutionID
  | .markGoNodeQueued nodeExecutionID _ =>
    ∃ view, note.view = some view ∧ note.job = some view.id ∧
      ∃ node ∈ view.nodes, node.id = nodeExecutionID ∧ view.Ready node.nodeID
  | .dispatch payload => note.job = some payload.jobID
  | .claimGoJobPlanning jobID plan =>
    ∃ view, note.view = some view ∧ view.id = jobID ∧ plan = planFor view.pipelineSnapshot
  | .finalizeGoJob jobID status _ _ =>
    ∃ view, note.view = some view ∧ view.id = jobID ∧
      hasActiveNode view.nodes = false ∧ status.isTerminal = true
  | .skipGoDownstreamNodes _ _ => False
  | .cancelJob _ => note.view = none
  | .createGoJob snapshot => snapshot.WellFormed ∧ Graph.Acyclic snapshot.Edge
  | _ => True

def Permits (call : Call) : Prop :=
  match note.owes with
  | some (jobID, nodeIDs) => call = .skipGoDownstreamNodes jobID nodeIDs
  | none => note.Allows call

def Credits : (call : Call) → Except String call.Result → Prop
  | .getJobDetail jobID, .ok (job : JobView) =>
    job.id = jobID ∧ (job.isGo = true → job.Sound) ∧
      ∀ fixed, note.known = some fixed → fixed.id = jobID → job.fixed = fixed
  | _, _ => True

def Clear : Prop := note.owes = none

theorem clear_idle : idle.Clear := rfl

theorem clear_handler {jobID : Uuid} : (handler jobID).Clear := rfl

end Note

def protocol : Contract storeInterface Note where
  requires note call := note.Permits call
  ensures note call reply after :=
    after = note.next call reply ∧ note.Credits call reply

/-- The program keeps the protocol, and leaves no debt when it fails. -/
abbrev follows (program : Op α) (note : Note) (post : α → Note → Prop) : Prop :=
  safe protocol program post Note.Clear note

variable {note : Note} {job view : JobView} {jobID : Uuid}

section

variable {call : Call} {post : call.Result → Note → Prop} (clear : note.Clear)
  (allows : note.Allows call)

include clear allows

theorem follows_request (outcome : ∀ reply, note.Credits call reply →
  Outcome post Note.Clear reply (note.next call reply)) :
  follows (EngineStore.request call) note post := by
  refine ⟨?_, ?_⟩
  · change note.Permits call
    rw [Note.Permits, clear]
    exact allows
  · rintro reply _ ⟨rfl, credible⟩
    exact outcome reply credible

theorem follows_plain (plain : ∀ reply, note.next call reply = note)
  (succeeds : ∀ result, post result note) :
  follows (EngineStore.request call) note post := by
  refine follows_request clear allows fun reply _ => ?_
  rw [plain]
  cases reply with
  | ok result => exact succeeds result
  | error => exact clear

end

def Note.reading (note : Note) (job : JobView) : Note := note.next (.getJobDetail job.id) (.ok job)

variable {post : JobView → Note → Prop} {node : NodeExecutionView}

theorem follows_getJobDetail (clear : note.Clear)
  (succeeds : ∀ job, job.id = jobID → (job.isGo = true → job.Sound) →
    (∀ fixed, note.known = some fixed → fixed.id = jobID →
      job.fixed = fixed) → post job (note.reading job)) :
  follows (EngineStore.getJobDetail jobID) note post := by
  refine follows_request clear ?_ fun reply credible => ?_
  · trivial
  · cases reply with
    | ok job => exact succeeds job credible.1 credible.2.1 credible.2.2
    | error => exact clear

/-- The job in memory is the record read, with some pending nodes queued. -/
structure Mirrors (view job : JobView) : Prop where
  id : job.id = view.id
  snapshot : job.pipelineSnapshot = view.pipelineSnapshot
  sound : job.Sound
  nodes : ∃ move, job.nodes = view.nodes.map move ∧ Keeps move ∧
    ∀ node ∈ view.nodes, (move node).status = node.status ∨
      node.status = .pending ∧ (move node).status = .queued

namespace Mirrors

theorem refl (sound : job.Sound) : Mirrors job job :=
  ⟨rfl, rfl, sound, fun node => node, by simp, fun _ => rfl, fun _ _ => .inl rfl⟩

variable (mirrors : Mirrors view job)

include mirrors

theorem origin (member : node ∈ job.nodes) : ∃ origin ∈ view.nodes, origin.id = node.id ∧
  origin.nodeID = node.nodeID ∧ (node.status = origin.status ∨
    origin.status = .pending ∧ node.status = .queued) := by
  obtain ⟨_, nodes, keeps, statuses⟩ := mirrors.nodes
  rw [nodes, List.mem_map] at member
  obtain ⟨origin, present, rfl⟩ := member
  exact ⟨origin, present, (keeps.id origin).symm, (keeps.nodeID origin).symm,
    statuses origin present⟩

theorem image {origin : NodeExecutionView} (present : origin ∈ view.nodes) :
  ∃ node ∈ job.nodes, origin.nodeID = node.nodeID ∧ (node.status = origin.status ∨
    origin.status = .pending ∧ node.status = .queued) := by
  obtain ⟨move, nodes, keeps, statuses⟩ := mirrors.nodes
  refine ⟨move origin, ?_, (keeps.nodeID origin).symm, statuses origin present⟩
  rw [nodes]
  exact List.mem_map_of_mem present

theorem ready (ready : job.Ready nodeID) : view.Ready nodeID := by
  intro upstream present edge
  obtain ⟨node, member, named, status⟩ := mirrors.image present
  rw [named, ← mirrors.snapshot] at edge
  have succeeded := ready node member edge
  rcases status with same | ⟨-, queued⟩
  · exact same.symm.trans succeeded
  · rw [succeeded] at queued
    cases queued

theorem hasActiveNode (inactive : hasActiveNode job.nodes = false) :
  hasActiveNode view.nodes = false := by
  rw [hasActiveNode_eq_false] at inactive ⊢
  intro origin present
  obtain ⟨node, member, -, status⟩ := mirrors.image present
  have quiet := inactive node member
  rcases status with same | ⟨-, queued⟩
  · rwa [← same]
  · rw [queued] at quiet
    cases quiet

theorem setNode_queue (member : node ∈ job.nodes) (pending : node.status = .pending) :
  Mirrors view (job.setNode node.id queue) := by
  obtain ⟨move, nodes, keeps, statuses⟩ := mirrors.nodes
  refine ⟨mirrors.id, mirrors.snapshot, mirrors.sound.setNode keeps_queue, ?_⟩
  refine ⟨fun origin => if (move origin).id = node.id then queue (move origin)
    else move origin, ?_, ?_, ?_⟩
  · simp [setNode, changeNodes, JobView.mapNodes, nodes]
  · intro origin
    dsimp only
    split
    · exact keeps origin
    · exact keeps origin
  · intro origin present
    dsimp only
    split
    next named =>
      -- The execution ids are distinct, so this is the pending node itself.
      have placed : move origin ∈ job.nodes := by
        rw [nodes]
        exact List.mem_map_of_mem present
      rw [mirrors.sound.eq_of_id placed member named]
      refine .inr ⟨?_, rfl⟩
      have same := statuses origin present
      rw [mirrors.sound.eq_of_id placed member named, pending] at same
      rcases same with same | ⟨-, queued⟩
      · exact same.symm
      · cases queued
    · exact statuses origin present

end Mirrors

section

variable (clear : note.Clear) (shown : note.view = some view)

include clear shown

theorem follows_maybeFinalizeJob (mirrors : Mirrors view job) :
  follows (maybeFinalizeJob job) note fun _ after => after = note := by
  unfold maybeFinalizeJob
  split
  · exact safe_pure rfl
  · split
    · exact safe_pure rfl
    next inactive =>
      refine safe_bind (follows_plain clear ?_ (fun _ => rfl) fun _ =>
        safe_pure rfl)
      exact ⟨view, shown, mirrors.id.symm, mirrors.hasActiveNode (Bool.eq_false_iff.2 inactive),
        isTerminal_finalStatus⟩

theorem follows_dispatchNode (authority : note.job = some job.id)
  (mirrors : Mirrors view job) (member : node ∈ job.nodes) :
  follows (dispatchNode job node (dependencyMap job.pipelineSnapshot)) note
    fun result after => after = note ∧ (result = job ∨ result = job.setNode node.id queue) := by
  unfold dispatchNode
  split
  case isFalse => exact safe_pure ⟨rfl, .inl rfl⟩
  case isTrue ready =>
    rw [mirrors.sound.dependenciesSucceeded_iff] at ready
    obtain ⟨origin, present, named, nodeID, -⟩ := mirrors.origin member
    have claimable : note.Allows (.markGoNodeQueued node.id
      (inputArtifactsForNode job.pipelineSnapshot job.nodes node.nodeID).2) := by
      refine ⟨view, shown, by rw [authority, mirrors.id], origin, present, named, ?_⟩
      rw [nodeID]
      exact mirrors.ready ready
    refine safe_bind (follows_plain clear claimable (fun _ => rfl) fun claimed => ?_)
    split
    case isFalse => exact safe_pure ⟨rfl, .inl rfl⟩
    case isTrue =>
      refine safe_bind (safe_result ?_)
      refine safe_mono (follows_plain clear authority (fun _ => rfl)
        fun _ => ?_) (fun _ _ holds => holds) fun after settled => ?_
      · exact safe_pure ⟨rfl, .inr rfl⟩
      · intro dispatchError
        refine safe_bind (safe_result ?_)
        have releases : after.Allows (.releaseGoNodeQueueClaim node.id) := trivial
        refine safe_mono (follows_plain settled releases (fun _ => rfl)
          fun _ => ?_) (fun _ _ holds => holds) fun final settled _ => ?_
        · exact safe_throw settled
        · exact safe_throw settled

theorem follows_dispatchEach (nodeIDs : List String)
  (authority : note.job = some job.id) (mirrors : Mirrors view job) :
  follows (dispatchEach (dependencyMap job.pipelineSnapshot) nodeIDs job) note
    fun result after => after = note ∧ Mirrors view result := by
  induction nodeIDs generalizing job with
  | nil => exact safe_pure ⟨rfl, mirrors⟩
  | cons _ _ ih =>
    unfold dispatchEach
    split
    · exact ih authority mirrors
    next node found =>
      split
      · exact ih authority mirrors
      next eligible =>
        split
        · obtain ⟨member, -⟩ := nodeByNodeID_mem found
          have pending : node.status = .pending := not_not.1 fun other => eligible (.inl other)
          refine safe_bind (safe_mono (follows_dispatchNode clear shown
            authority mirrors member) ?_ fun _ settled => settled)
          rintro _ _ ⟨rfl, rfl | rfl⟩
          · exact ih authority mirrors
          · exact @ih (job.setNode node.id queue) authority (mirrors.setNode_queue member pending)
        · exact ih authority mirrors

theorem follows_dispatchReadyNodes (authority : note.job = some job.id)
  (mirrors : Mirrors view job) :
  follows (do
    let job ← dispatchReadyNodes job (dependencyMap job.pipelineSnapshot)
    discard (maybeFinalizeJob job)) note fun _ after => after.Clear := by
  have dispatches : follows (dispatchReadyNodes job (dependencyMap job.pipelineSnapshot)) note
    fun result after => after = note ∧ Mirrors view result := by
    unfold dispatchReadyNodes
    split
    · exact safe_pure ⟨rfl, mirrors⟩
    · exact follows_dispatchEach clear shown _ authority mirrors
  refine safe_bind (safe_mono dispatches ?_ fun _ settled => settled)
  rintro _ after ⟨rfl, mirrors⟩
  refine safe_bind (safe_mono (follows_maybeFinalizeJob clear shown mirrors) ?_
    fun _ settled => settled)
  rintro _ _ rfl
  exact safe_pure clear

end

/-- The operation has authority over the job, and its nodes in memory are
those of the last record read. -/
structure Tracks (note : Note) (job : JobView) : Prop where
  clear : note.Clear
  known : note.known = some job.fixed
  authority : note.job = some job.id
  go : job.isGo = true
  sound : job.Sound
  shown : ∃ view, note.view = some view ∧ view.Sound ∧
    view.fixed = job.fixed ∧ view.nodes = job.nodes

namespace Tracks

section

variable (tracks : Tracks note job)

include tracks

theorem mirrors : ∃ view, note.view = some view ∧ Mirrors view job := by
  obtain ⟨view, shown, -, fixed, nodes⟩ := tracks.shown
  exact ⟨view, shown, congrArg Fixed.id fixed.symm,
    congrArg Fixed.pipelineSnapshot fixed.symm, tracks.sound,
    fun node => node, by simp [nodes], fun _ => rfl, fun _ _ => .inl rfl⟩

theorem holds (member : node ∈ job.nodes) (pending : node.status = .pending) :
  note.Holds job.id node.id := by
  obtain ⟨view, shown, -, fixed, nodes⟩ := tracks.shown
  refine ⟨view, shown, congrArg Fixed.id fixed,
    (isGo_of_fixed fixed).trans tracks.go, node, ?_, rfl, ?_⟩
  · rwa [nodes]
  · rw [pending]
    rfl

theorem debt (member : node ∈ job.nodes) : note.debt job.id node.id =
  some (job.id, downstreamNodeIDs node.nodeID (dependenciesForJob job)) := by
  obtain ⟨view, shown, sound, fixed, nodes⟩ := tracks.shown
  rw [← nodes] at member
  have snapshot : view.pipelineSnapshot = job.pipelineSnapshot :=
    congrArg Fixed.pipelineSnapshot fixed
  rw [tracks.sound.dependencies, ← snapshot]
  simp [Note.debt, shown, sound.findNodeByExecutionID_eq member]

end

end Tracks

theorem follows_failure {post : α → Note → Prop} (clear : note.Clear)
  (holds : note.Holds jobID nodeExecutionID)
  (debt : note.debt jobID nodeExecutionID = some (jobID, nodeIDs))
  (continues : follows rest { note with view := none } post) :
  follows (do
    EngineStore.markGoNodeFailed jobID nodeExecutionID message
    EngineStore.skipGoDownstreamNodes jobID nodeIDs
    rest) note post := by
  refine safe_bind (follows_request clear holds fun reply _ => ?_)
  cases reply with
  | error => exact clear
  | ok result =>
    have owes : (note.next (.markGoNodeFailed jobID nodeExecutionID message)
      (.ok result)).owes = some (jobID, nodeIDs) := debt
    refine safe_bind ⟨?_, ?_⟩
    · change Note.Permits _ _
      rw [Note.Permits, owes]
    · rintro reply after ⟨rfl, -⟩
      cases reply with
      | error => rfl
      | ok =>
        have same : { note with view := none, owes := none } = { note with view := none } := by
          rw [← clear]
        change follows rest { note with view := none, owes := none } post
        rwa [same]

theorem Tracks.reading {reloaded : JobView} (clear : note.Clear)
  (authority : note.job = some job.id)
  (go : job.isGo = true) (sound : reloaded.isGo = true → reloaded.Sound)
  (same : reloaded.fixed = job.fixed) :
  Tracks (note.reading reloaded) reloaded := by
  have goes : reloaded.isGo = true := (isGo_of_fixed same).trans go
  have named : reloaded.id = job.id := congrArg Fixed.id same
  refine ⟨clear, ?_, ?_, goes, sound goes, reloaded, rfl, sound goes, rfl, rfl⟩
  · change (if reloaded.isGo then some reloaded.fixed else note.known) = _
    rw [if_pos goes]
  · rw [named]
    exact authority

theorem follows_reload (clear : note.Clear)
  (known : note.known = some job.fixed) (authority : note.job = some job.id)
  (go : job.isGo = true)
  (succeeds : ∀ reloaded after, Tracks after reloaded →
    reloaded.fixed = job.fixed → post reloaded after) :
  follows (EngineStore.getJobDetail job.id) note post := by
  refine follows_getJobDetail clear fun reloaded _ sound same => ?_
  have fixed := same job.fixed known rfl
  exact succeeds _ _ (.reading clear authority go sound fixed) fixed

section

variable (tracks : Tracks note job)

include tracks

theorem follows_failSourceNode (member : node ∈ job.nodes)
  (pending : node.status = .pending) (message : String) :
  follows (failSourceNode job node message) note fun result after =>
    Tracks after result ∧ result.fixed = job.fixed := by
  unfold failSourceNode
  refine follows_failure tracks.clear (tracks.holds member pending)
    (tracks.debt member) ?_
  refine safe_bind (follows_reload tracks.clear tracks.known tracks.authority
    tracks.go fun reloaded after tracked fixed => ?_)
  obtain ⟨view, shown, mirrors⟩ := tracked.mirrors
  refine safe_bind (safe_mono (follows_maybeFinalizeJob tracked.clear shown
    mirrors) ?_ fun _ settled => settled)
  rintro finalized after rfl
  cases finalized with
  | false => exact safe_pure ⟨tracked, fixed⟩
  | true =>
    refine follows_reload tracked.clear tracked.known tracked.authority
      tracked.go fun final after again same => ?_
    exact ⟨again, same.trans fixed⟩

theorem Tracks.complete (id artifactID : Uuid) (assetID : String) :
  Tracks (note.next (.createSourceArtifact job.id id assetID)
    (.ok artifactID)) (job.setNode id (complete artifactID)) := by
  obtain ⟨view, shown, sound, fixed, nodes⟩ := tracks.shown
  have unchanged (other : JobView) :
    (other.setNode id (JobView.complete artifactID)).fixed = other.fixed :=
    fixed_changeNodes keeps_complete
  refine ⟨tracks.clear, ?_, tracks.authority, tracks.go, tracks.sound.setNode keeps_complete,
    view.setNode id (JobView.complete artifactID), ?_,
    sound.setNode keeps_complete, ?_, ?_⟩
  · rw [unchanged]
    exact tracks.known
  · change note.view.map _ = _
    rw [shown]
    rfl
  · rw [unchanged, unchanged, fixed]
  · simp only [JobView.setNode, changeNodes, JobView.mapNodes, nodes]

theorem follows_resolveSourceNode (index : Nat) :
  follows (resolveSourceNode job index) note fun result after =>
    Tracks after result ∧ result.fixed = job.fixed := by
  unfold resolveSourceNode
  split
  · exact safe_throw tracks.clear
  next node found =>
    have member := List.mem_of_getElem? found
    split
    · exact safe_pure ⟨tracks, rfl⟩
    · split
      · exact safe_pure ⟨tracks, rfl⟩
      · split
        · exact safe_pure ⟨tracks, rfl⟩
        next eligible =>
          have pending := not_not.1 eligible
          split
          next assetID _ =>
            split
            · exact follows_failSourceNode tracks member pending _
            · refine safe_bind (safe_result ?_)
              refine ⟨?_, ?_⟩
              · change note.Permits _
                rw [Note.Permits, tracks.clear]
                exact tracks.holds member pending
              · rintro reply _ ⟨rfl, -⟩
                cases reply with
                | ok artifactID =>
                  exact ⟨tracks.complete node.id artifactID assetID,
                    fixed_changeNodes keeps_complete⟩
                | error =>
                  intro _
                  exact follows_failSourceNode tracks member pending _
          · exact follows_failSourceNode tracks member pending _

theorem follows_resolveEach (indices : List Nat) :
  follows (resolveEach indices job) note fun result after =>
    Tracks after result ∧ result.fixed = job.fixed := by
  induction indices generalizing job note with
  | nil => exact safe_pure ⟨tracks, rfl⟩
  | cons index _ ih =>
    unfold resolveEach
    refine safe_bind (safe_mono (follows_resolveSourceNode tracks index) ?_
      fun _ settled => settled)
    rintro _ after ⟨tracked, fixed⟩
    refine safe_mono (ih tracked) ?_ fun _ settled => settled
    rintro _ _ ⟨again, same⟩
    exact ⟨again, same.trans fixed⟩

theorem follows_launch : follows (launch job) note fun _ after => after.Clear := by
  unfold launch
  have running : note.Allows (.markGoJobRunning job.id) := trivial
  refine safe_bind (follows_plain tracks.clear running (fun _ => rfl) fun _ => ?_)
  let started : JobView :=
    { job with
      executionPlan := some (planFor job.pipelineSnapshot)
      status := .running }
  have sound : started.Sound :=
    tracks.sound.of_fixed rfl fun _ planned => (Option.some.inj planned).symm
  have tracked : Tracks note started :=
    ⟨tracks.clear, tracks.known, tracks.authority, tracks.go, sound, tracks.shown⟩
  refine safe_bind (safe_mono (follows_resolveEach tracked _) ?_
    fun _ settled => settled)
  rintro result _ ⟨again, fixed⟩
  split
  · exact safe_pure again.clear
  · obtain ⟨_, shown, mirrors⟩ := again.mirrors
    have snapshot : result.pipelineSnapshot = job.pipelineSnapshot :=
      congrArg Fixed.pipelineSnapshot fixed
    rw [← snapshot]
    exact follows_dispatchReadyNodes again.clear shown again.authority mirrors

end

theorem follows_shouldWaitForSchedule (clear : note.Clear) :
  follows (shouldWaitForSchedule job) note fun _ after => after = note := by
  have parks : follows (park job) note fun _ after => after = note := by
    unfold park
    split
    · have parking : note.Allows (.markGoJobWaitingWindow job.id) := trivial
      exact safe_bind (follows_plain clear parking (fun _ => rfl) fun _ => safe_pure rfl)
    · exact safe_pure rfl
  have reads : note.Allows .getVideoScheduleAuthority := trivial
  unfold shouldWaitForSchedule
  refine safe_bind (follows_plain clear reads (fun _ => rfl) fun authority => ?_)
  split
  · exact parks
  · split
    · exact safe_pure rfl
    · split
      · exact safe_pure rfl
      · exact parks

theorem follows_startJob (clear : note.Clear) (jobID : Uuid) :
  follows (startJob jobID) note fun _ after => after.Clear := by
  unfold startJob
  refine safe_bind (follows_getJobDetail clear fun job named sound _ => ?_)
  subst named
  split
  · exact safe_pure clear
  next processed =>
    have go : job.isGo = true := by
      rw [not_or, not_not] at processed
      exact processed.1
    refine safe_bind (safe_mono (follows_shouldWaitForSchedule clear) ?_ fun _ settled => settled)
    rintro _ _ rfl
    split
    · exact safe_pure clear
    · refine safe_bind (follows_request clear ⟨job, rfl, rfl, rfl⟩ fun reply _ => ?_)
      cases reply with
      | error => exact clear
      | ok claimed =>
        cases claimed with
        | false => exact safe_pure clear
        | true =>
          refine follows_launch ⟨clear, ?_, rfl, go, sound go, job, rfl, sound go, rfl, rfl⟩
          change (if job.isGo then some job.fixed else note.known) = _
          rw [if_pos go]

theorem shouldProcess_of_not_ignores (heeds : ¬ ignoresEvents job = true) : job.isGo = true := by
  simp only [ignoresEvents, decide_eq_true_eq, not_or, not_not] at heeds
  exact heeds.1

theorem tracks_of_heeds (clear : note.Clear) (authority : note.job = some job.id)
  (heeds : ¬ ignoresEvents job = true) (sound : job.isGo = true → job.Sound) :
  Tracks (note.reading job) job :=
  .reading clear authority (shouldProcess_of_not_ignores heeds) sound rfl

theorem holds_of_moving (heeds : ¬ ignoresEvents job = true)
  (member : node ∈ job.nodes) (moving : ¬ node.status.isTerminal = true) :
  (note.reading job).Holds job.id node.id := by
  refine ⟨job, rfl, rfl, shouldProcess_of_not_ignores heeds, node, member, rfl, ?_⟩
  rw [NodeStatus.isActive_eq_not_isTerminal]
  simpa using moving

theorem follows_onNodeCompleted (clear : note.Clear) (authority : note.job = some jobID)
  (nodeExecutionID outputArtifactID : Uuid) :
  follows (onNodeCompleted jobID nodeExecutionID outputArtifactID) note
    fun _ after => after.Clear := by
  unfold onNodeCompleted
  refine safe_bind (follows_getJobDetail clear fun job named _ _ => ?_)
  subst named
  split
  · exact safe_pure clear
  next heeds =>
    split
    · exact safe_pure clear
    next found =>
      obtain ⟨member, rfl⟩ := findNodeByExecutionID_mem found
      split
      · exact safe_pure clear
      · split
        · exact safe_pure clear
        next moving =>
          refine safe_bind (follows_request clear
            (holds_of_moving heeds member moving) fun reply _ => ?_)
          cases reply with
          | error => exact clear
          | ok =>
            refine safe_bind (follows_getJobDetail clear
              fun reloaded same sound _ => ?_)
            split
            · exact safe_pure clear
            next heeds =>
              have sound := sound (shouldProcess_of_not_ignores heeds)
              rw [sound.dependencies]
              refine follows_dispatchReadyNodes clear rfl ?_ (.refl sound)
              rw [same]
              exact authority

theorem follows_retryNode (tracks : Tracks note job) (holds : note.Holds job.id nodeExecutionID) :
  follows (retryNode job.id nodeExecutionID) note fun _ after => after.Clear := by
  unfold retryNode
  refine safe_bind (follows_request tracks.clear holds fun reply _ => ?_)
  cases reply with
  | error => exact tracks.clear
  | ok =>
    refine safe_bind (follows_reload tracks.clear tracks.known
      tracks.authority tracks.go fun reloaded after tracked _ => ?_)
    split
    · exact safe_pure tracked.clear
    next found =>
      obtain ⟨member, -⟩ := findNodeByExecutionID_mem found
      obtain ⟨_, shown, mirrors⟩ := tracked.mirrors
      rw [tracked.sound.dependencies]
      refine safe_bind (safe_mono (follows_dispatchNode tracked.clear shown
        tracked.authority mirrors member) ?_ fun _ settled => settled)
      rintro _ _ ⟨rfl, -⟩
      exact safe_pure tracked.clear

theorem follows_failNode (tracks : Tracks note job)
  (member : node ∈ job.nodes) (holds : note.Holds job.id node.id)
  (message : String) :
  follows (failNode job node job.id node.id message) note fun _ after => after.Clear := by
  unfold failNode
  refine follows_failure tracks.clear holds (tracks.debt member) ?_
  refine safe_bind (follows_reload tracks.clear tracks.known tracks.authority
    tracks.go fun reloaded after tracked _ => ?_)
  obtain ⟨view, shown, mirrors⟩ := tracked.mirrors
  refine safe_bind (safe_mono (follows_maybeFinalizeJob tracked.clear shown
    mirrors) ?_ fun _ settled => settled)
  rintro _ final rfl
  exact safe_pure tracked.clear

theorem follows_onNodeFailed (clear : note.Clear)
  (authority : note.job = some jobID) (nodeExecutionID : Uuid)
  (message : String) :
  follows (onNodeFailed jobID nodeExecutionID message) note fun _ after => after.Clear := by
  unfold onNodeFailed
  refine safe_bind (follows_getJobDetail clear fun job named sound _ => ?_)
  subst named
  split
  · exact safe_pure clear
  next heeds =>
    have tracks := tracks_of_heeds clear authority heeds sound
    split
    · exact safe_pure clear
    next node found =>
      obtain ⟨member, rfl⟩ := findNodeByExecutionID_mem found
      split
      · exact safe_pure clear
      next moving =>
        have holds : (note.reading job).Holds job.id node.id := holds_of_moving heeds member moving
        split
        · exact follows_retryNode tracks holds
        · exact follows_failNode tracks member holds message

theorem follows_handle (event : Event) :
  follows (handle event) (.handler event.jobID) fun _ after => after.Clear := by
  cases event with
  | nodeCompleted => exact follows_onNodeCompleted Note.clear_handler rfl _ _
  | nodeFailed => exact follows_onNodeFailed Note.clear_handler rfl _ _

theorem follows_recoverEach (clear : note.Clear) (staleBefore : Nat) (jobs : List JobView) :
  follows (recoverEach staleBefore jobs) note fun _ after => after.Clear := by
  induction jobs generalizing note with
  | nil => exact safe_pure clear
  | cons job _ ih =>
    unfold recoverEach
    split
    · exact ih clear
    · have resets : note.Allows (.resetStaleGoNodes job.id staleBefore) := trivial
      refine safe_bind (safe_withContext (follows_plain clear resets (fun _ => rfl) fun _ => ?_))
      refine safe_bind (safe_withContext (safe_mono
        (follows_startJob clear job.id) ?_ fun _ settled => settled))
      exact fun _ _ settled => ih settled

theorem follows_runOnce (clear : note.Clear) (now staleNodeAge : Nat) :
  follows (runOnce now staleNodeAge) note fun _ after => after.Clear := by
  have lists : note.Allows .listRecoverableGoJobs := trivial
  unfold runOnce
  exact safe_bind (follows_plain clear lists (fun _ => rfl)
    fun jobs => follows_recoverEach clear _ jobs)

end VideoProcess.Go
