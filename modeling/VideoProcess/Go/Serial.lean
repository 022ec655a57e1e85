import VideoProcess.Go.Transition

namespace VideoProcess.Go

open Data Program Fallible JobView

/-! The engine running alone: the view an operation holds in memory stays equal
to the record in the database. -/

section

variable (allowed : Call → Env → Prop)

abbrev store : Contract storeInterface World :=
  machine.contract allowed

def Call.dispatches : Call → Bool
  | .dispatch _ => true
  | _ => false

/-- No request but a dispatch is made to fail. -/
def Steady : Prop :=
  ∀ call env, allowed call env → env.fail ≠ none → ∃ payload, call = .dispatch payload

variable (nodeExecutionID : Uuid)

def Accepts : Prop :=
  ∃ payload env, payload.nodeExecutionID = nodeExecutionID ∧
    allowed (.dispatch payload) env ∧ env.fail = none

def Refuses : Prop :=
  ∃ payload env, payload.nodeExecutionID = nodeExecutionID ∧
    allowed (.dispatch payload) env ∧ env.fail ≠ none

end

section

variable {allowed : Call → Env → Prop} {world : World} {job : JobView} {failed : World → Prop}

theorem safe_request {call : Call} {post : call.Result → World → Prop}
  (outcome : ∀ env, allowed call env →
    Outcome post failed (exec env call world).1 (exec env call world).2) :
  safe (store allowed) (EngineStore.request call) post failed world := by
  refine ⟨trivial, ?_⟩
  rintro _ _ ⟨env, permitted, executed⟩
  have holds := outcome env permitted
  change exec env call world = _ at executed
  rw [executed] at holds
  exact holds

-- When other requests than dispatches fail, nothing is promised.
variable (unsteady : ¬ Steady allowed → ∀ after, failed after)

include unsteady

theorem failed_of_fail (permitted : allowed call env) (broken : env.fail ≠ none)
  (other : call.dispatches = false) : failed world := by
  refine unsteady (fun steady => ?_) world
  obtain ⟨_, rfl⟩ := steady call env permitted broken
  cases other

theorem safe_concerned {call : Call} {post : call.Result → World → Prop}
  {changed : (Uuid → Bool) → JobView}
  (other : call.dispatches = false)
  (found : jobDetail world.database job.id = some job)
  (concerns : call.Concerns job) (result : call.Result)
  (replies : ∀ env, env.fail = none → (exec env call world).1 = .ok result)
  (changes : ∀ stale, job.updated stale call result = changed stale)
  (succeeds : ∀ stale after, Moves world after job (changed stale) → post result after) :
  safe (store allowed) (EngineStore.request call) post failed world := by
  refine safe_request fun env permitted => ?_
  cases broken : env.fail with
  | some =>
    rw [exec, broken]
    exact failed_of_fail unsteady permitted (by simp [broken]) other
  | none =>
    obtain ⟨stale, moves⟩ := exec_moves env found concerns
    rw [replies env broken] at moves ⊢
    exact succeeds stale _ (changes stale ▸ moves)

variable (found : jobDetail world.database job.id = some job)

include found

theorem safe_getJobDetail {post : JobView → World → Prop} (succeeds : post job world) :
  safe (store allowed) (EngineStore.getJobDetail job.id) post failed world := by
  refine safe_request fun env permitted => ?_
  cases broken : env.fail with
  | some =>
    rw [exec, broken]
    exact failed_of_fail unsteady permitted (by simp [broken]) rfl
  | none =>
    rw [getJobDetail_reply broken found]
    exact succeeds

variable {post : Unit → World → Prop}

omit unsteady in
theorem safe_dispatch {payload : TaskPayload} (succeeds : Accepts allowed payload.nodeExecutionID →
  ∀ after, Moves world after job job → post () after)
  (fails : Refuses allowed payload.nodeExecutionID → failed world) :
  safe (store allowed) (EngineStore.dispatch payload) post failed world := by
  refine safe_request fun env permitted => ?_
  cases broken : env.fail with
  | some =>
    rw [exec, broken]
    exact fails ⟨payload, env, rfl, permitted, by simp [broken]⟩
  | none =>
    obtain ⟨_, moves⟩ := @exec_moves world job (.dispatch payload) env found trivial
    rw [exec_of_works broken] at moves ⊢
    exact succeeds ⟨payload, env, rfl, permitted, broken⟩ _ moves

variable (sound : job.Sound) (go : job.isGo = true)
  {node : NodeExecutionView} (member : node ∈ job.nodes)

include go member

theorem safe_markGoNodeSucceeded (succeeds : ∀ after,
  Moves world after job (job.setNode node.id (complete artifactID)) →
  post () after) :
  safe (store allowed) (EngineStore.markGoNodeSucceeded job.id node.id artifactID) post failed
    world := by
  exact safe_concerned unsteady rfl found rfl ()
    (fun env works => markGoNodeSucceeded_reply works found go member _)
    (fun _ => if_pos ⟨rfl, go⟩) fun _ => succeeds

theorem safe_markGoNodeFailed {message : String} (succeeds : ∀ after,
  Moves world after job (job.setNode node.id fail) → post () after) :
  safe (store allowed) (EngineStore.markGoNodeFailed job.id node.id message) post failed world := by
  exact safe_concerned unsteady rfl found rfl ()
    (fun env works => markGoNodeFailed_reply works found go member _)
    (fun _ => if_pos ⟨rfl, go⟩) fun _ => succeeds

theorem safe_incrementGoNodeRetry
  (succeeds : ∀ after, Moves world after job (job.setNode node.id count) → post () after) :
  safe (store allowed) (EngineStore.incrementGoNodeRetry job.id node.id) post failed world := by
  exact safe_concerned unsteady rfl found rfl ()
    (fun env works => incrementGoNodeRetry_reply works found go member)
    (fun _ => if_pos ⟨rfl, go⟩) fun _ => succeeds

omit member in
theorem safe_skipGoDownstreamNodes {post : Unit → World → Prop}
  (succeeds : ∀ after, Moves world after job (job.changeNodes (skippable nodeIDs) skip) →
    post () after) :
  safe (store allowed) (EngineStore.skipGoDownstreamNodes job.id nodeIDs) post failed world := by
  exact safe_concerned unsteady rfl found rfl ()
    (fun env works => skipGoDownstreamNodes_reply works found go _)
    (fun _ => if_pos ⟨rfl, go⟩) fun _ => succeeds

include sound

theorem safe_markGoNodeQueued {post : Bool → World → Prop} (pending : node.status = .pending)
  (succeeds : ∀ after, Moves world after job (job.setNode node.id queue) → post true after) :
  safe (store allowed) (EngineStore.markGoNodeQueued node.id inputs) post failed world := by
  refine safe_concerned unsteady rfl found ⟨node, member, rfl⟩ true ?_
    (fun _ => if_pos ⟨rfl, go⟩) fun stale after moves => succeeds after ?_
  · intro env works
    rw [markGoNodeQueued_reply works found go member, decide_eq_true pending]
  · rw [setNode]
    convert moves using 1
    refine changeNodes_congr (fun other present => ?_) fun _ _ _ => rfl
    rw [decide_eq_decide]
    refine ⟨fun same => ⟨same, ?_⟩, And.left⟩
    rw [sound.eq_of_id present member same]
    exact pending

omit found in
theorem safe_releaseGoNodeQueueClaim (pending : node.status = .pending)
  (claims : Moves world claimed job (job.setNode node.id queue))
  (succeeds : ∀ after, Moves claimed after (job.setNode node.id queue) job → post () after) :
  safe (store allowed) (EngineStore.releaseGoNodeQueueClaim node.id) post failed claimed := by
  have present : queue node ∈ (job.setNode node.id queue).nodes :=
    mem_mapNodes.2 ⟨node, member, if_pos (decide_eq_true rfl)⟩
  have owned : (job.setNode node.id queue).isGo = true := go
  refine safe_concerned unsteady rfl claims.sync ⟨_, present, rfl⟩ () ?_
    (fun _ => ?_) fun _ => succeeds
  · intro env works
    exact @releaseGoNodeQueueClaim_reply _ _ env works claims.sync owned (queue node) present
  · rw [updated, if_pos owned, sound.release_queue member pending]

end

section

variable {allowed : Call → Env → Prop} {world : World} {job : JobView} {failed : World → Prop}
  (unsteady : ¬ Steady allowed → ∀ after, failed after)
  (found : jobDetail world.database job.id = some job) (sound : job.Sound)
  (go : job.isGo = true)

include unsteady found go

omit unsteady in
theorem safe_maybeFinalizeJob {post : Bool → World → Prop}
  (succeeds : ∀ after, Moves world after job job.settled →
    post (job.settled.status.isTerminal) after)
  (fails : hasActiveNode job.nodes = false → ∀ after, Moves world after job job → failed after) :
  safe (store allowed) (maybeFinalizeJob job) post failed world := by
  unfold maybeFinalizeJob
  split
  next terminal =>
    have same : job.settled = job := if_pos (.inl terminal)
    rw [same] at succeeds
    rw [← terminal]
    exact safe_pure (succeeds world (.refl found))
  · split
    next open_ active =>
      have same : job.settled = job := if_pos (.inr active)
      rw [same] at succeeds
      rw [← Bool.eq_false_iff.2 open_]
      exact safe_pure (succeeds world (.refl found))
    next open_ inactive =>
      have same : job.settled = { job with status := finalStatus job } :=
        if_neg (not_or.2 ⟨open_, inactive⟩)
      rw [same] at succeeds
      refine safe_bind (safe_request fun env permitted => ?_)
      obtain ⟨_, moves⟩ := @exec_moves world job
        (.finalizeGoJob job.id (finalStatus job) (finalErrorMessage job)
          (successfulLeafNodeIDs job)) env found rfl
      generalize exec env _ world = answered at moves ⊢
      obtain ⟨reply, after⟩ := answered
      cases reply with
      | error => exact fails (Bool.eq_false_iff.2 inactive) after moves
      | ok =>
        rw [JobView.after, updated, if_pos ⟨rfl, go, open_⟩] at moves
        refine safe_pure ?_
        rw [← @isTerminal_finalStatus job]
        exact succeeds after moves

include sound

variable {node : NodeExecutionView}

theorem safe_dispatchNode (member : node ∈ job.nodes)
  (pending : node.status = .pending) (ready : job.Ready node.nodeID)
  {post : JobView → World → Prop}
  (succeeds : Accepts allowed node.id → ∀ after, Moves world after job (job.setNode node.id queue) →
    post (job.setNode node.id queue) after)
  (fails : Refuses allowed node.id → ∀ after, Moves world after job job → failed after) :
  safe (store allowed) (dispatchNode job node (dependencyMap job.pipelineSnapshot)) post failed
    world := by
  rw [dispatchNode, if_pos (sound.dependenciesSucceeded_iff.2 ready)]
  refine safe_bind (safe_markGoNodeQueued unsteady found sound go member pending
    fun claimed claims => ?_)
  rw [if_pos rfl]
  refine safe_bind (safe_result (safe_dispatch claims.sync ?_ ?_))
  · intro accepted after moves
    exact safe_pure (succeeds accepted after (claims.trans moves))
  · intro refused message
    refine safe_bind (safe_result (safe_releaseGoNodeQueueClaim
      (fun broken after _ => unsteady broken after) sound go member pending
      claims fun after moves => ?_))
    exact fails refused after (claims.trans moves)

variable {message : String} {post : Unit → World → Prop}

theorem safe_failure (member : node ∈ job.nodes) {rest : JobView → Op α} {post : α → World → Prop}
  (continues : ∀ after, Moves world after job (job.withFailure node) →
    safe (store allowed) (rest (job.withFailure node)) post failed after) :
  safe (store allowed) (do
    EngineStore.markGoNodeFailed job.id node.id message
    EngineStore.skipGoDownstreamNodes job.id
      (downstreamNodeIDs node.nodeID (dependenciesForJob job))
    rest (← EngineStore.getJobDetail job.id)) post failed world := by
  refine safe_bind (safe_markGoNodeFailed unsteady found go member fun marked marks => ?_)
  rw [sound.dependencies]
  refine safe_bind (@safe_skipGoDownstreamNodes _ marked _ _ unsteady marks.sync
    go _ _ fun skipped skips => ?_)
  exact safe_bind (@safe_getJobDetail _ skipped _ _ unsteady skips.sync _
    (continues skipped (marks.trans skips)))

omit unsteady found sound go in
theorem dispatchEach_pass (unfit : ∀ node ∈ job.nodes, node.nodeID = nodeID →
  job.dispatchable node = false) :
  dispatchEach (dependencyMap job.pipelineSnapshot) (nodeID :: rest) job =
    dispatchEach (dependencyMap job.pipelineSnapshot) rest job := by
  rw [dispatchEach]
  split
  · rfl
  next node named =>
    obtain ⟨member, rfl⟩ := nodeByNodeID_mem named
    have unfit := of_decide_eq_false (unfit node member rfl)
    split
    · rfl
    next pending =>
      rw [not_or, not_not] at pending
      exact if_neg fun satisfied => unfit ⟨pending.1, pending.2, satisfied⟩

omit unsteady found go in
theorem dispatchEach_take (member : node ∈ job.nodes) (chosen : job.dispatchable node = true) :
  dispatchEach (dependencyMap job.pipelineSnapshot) (node.nodeID :: rest) job = (do
    let after ← dispatchNode job node (dependencyMap job.pipelineSnapshot)
    dispatchEach (dependencyMap job.pipelineSnapshot) rest after) := by
  obtain ⟨pending, type, satisfied⟩ := of_decide_eq_true chosen
  rw [dispatchEach, sound.nodeByNodeID_eq member]
  dsimp only
  rw [if_neg (by simp [pending, type]), if_pos satisfied]

omit found sound go in
theorem safe_dispatchEach (nodeIDs : List String) {world : World}
  {job : JobView} (found : jobDetail world.database job.id = some job)
  (sound : job.Sound) (go : job.isGo = true)
  (depends : dependencies = dependencyMap job.pipelineSnapshot)
  {post : JobView → World → Prop} (succeeds : ∀ after, (∀ node ∈ job.nodes, node.nodeID ∈ nodeIDs →
      job.dispatchable node = true → Accepts allowed node.id) →
    Moves world after job (job.dispatchedFrom nodeIDs) →
    post (job.dispatchedFrom nodeIDs) after)
  (fails : ∀ refused ∈ job.nodes, job.dispatchable refused = true →
    Refuses allowed refused.id → ∀ selected after,
    (∀ node ∈ job.nodes, selected node = true → job.dispatchable node = true) →
    selected refused = false →
    Moves world after job (job.changeNodes selected queue) → failed after) :
  safe (store allowed) (dispatchEach dependencies nodeIDs job) post failed world := by
  induction nodeIDs generalizing world job with
  | nil =>
    have same : job.dispatchedFrom [] = job := changeNodes_none fun _ _ => by simp
    rw [same] at succeeds
    exact safe_pure (succeeds world (by simp) (.refl found))
  | cons nodeID rest ih =>
    by_cases fit : ∃ node ∈ job.nodes, node.nodeID = nodeID ∧ job.dispatchable node = true
    · obtain ⟨node, member, rfl, chosen⟩ := fit
      obtain ⟨pending, -, ready⟩ := sound.dispatchable_iff.1 chosen
      have others {other : NodeExecutionView} (present : other ∈ job.nodes) :
        (if other.id = node.id then queue other else other) ∈ (job.setNode node.id queue).nodes :=
        mem_mapNodes.2 ⟨other, present, by simp⟩
      subst depends
      rw [dispatchEach_take sound member chosen]
      refine safe_bind (safe_dispatchNode unsteady found sound go member pending ready ?_ ?_)
      · intro accepted after moves
        refine ih moves.sync (sound.setNode keeps_queue) go rfl ?_ ?_
        · intro final accepts further
          rw [sound.dispatchedFrom_cons member chosen] at further ⊢
          refine succeeds final ?_ (moves.trans further)
          intro other present listed dispatchable
          by_cases same : other.id = node.id
          · rwa [same]
          · have accepts := accepts _ (others present)
            rw [sound.dispatchable_setNode member pending, if_neg same] at accepts
            refine accepts ((List.mem_cons.1 listed).resolve_left ?_) ⟨same, dispatchable⟩
            exact fun named => same (congrArg _ (sound.eq_of_nodeID present member named))
        · intro refused refusedMember dispatchable refuses selected final within kept further
          rw [setNode_queue_changeNodes] at further
          obtain ⟨refused, refusedPresent, rfl⟩ := mem_mapNodes.1 refusedMember
          simp only [decide_eq_true_eq] at dispatchable refuses kept
          obtain ⟨different, dispatchable⟩ :=
            (sound.dispatchable_setNode member pending).1 dispatchable
          rw [if_neg different] at refuses kept
          refine fails refused refusedPresent dispatchable refuses _ final
            ?_ ?_ (moves.trans further)
          · intro other present selectedOther
            rcases of_decide_eq_true selectedOther with same | chosenOther
            · rw [sound.eq_of_id present member same]
              exact chosen
            · exact ((sound.dispatchable_setNode member pending).1
                (within _ (others present) chosenOther)).2
          · rw [decide_eq_false_iff_not, if_neg different, kept]
            simp [different]
      · intro refused after moves
        refine fails node member chosen refused (fun _ => false) after (by simp) rfl ?_
        rw [changeNodes_none fun _ _ => rfl]
        exact moves
    · have unfit : ∀ node ∈ job.nodes, node.nodeID = nodeID →
        job.dispatchable node = false := fun node member named =>
        Bool.eq_false_iff.2 fun chosen => fit ⟨node, member, named, chosen⟩
      have same : job.dispatchedFrom (nodeID :: rest) = job.dispatchedFrom rest := by
        refine changeNodes_congr (fun node member => ?_) fun _ _ _ => rfl
        have unfit := unfit node member
        grind
      rw [same] at succeeds
      subst depends
      rw [dispatchEach_pass unfit]
      refine ih found sound go rfl (fun after accepts => ?_) fails
      refine succeeds after fun node member listed dispatchable => ?_
      refine accepts node member ((List.mem_cons.1 listed).resolve_left ?_) dispatchable
      exact fun named => fit ⟨node, member, named, dispatchable⟩

theorem safe_dispatchReadyNodes {post : JobView → World → Prop}
  (moving : job.status.isTerminal = false)
  (succeeds : ∀ after, (∀ node ∈ job.nodes, job.dispatchable node = true →
    Accepts allowed node.id) →
    Moves world after job job.dispatched → post job.dispatched after)
  (fails : ∀ refused ∈ job.nodes, job.dispatchable refused = true →
    Refuses allowed refused.id → ∀ selected after,
    (∀ node ∈ job.nodes, selected node = true → job.dispatchable node = true) →
    selected refused = false →
    Moves world after job (job.changeNodes selected queue) → failed after) :
  safe (store allowed) (dispatchReadyNodes job (dependencyMap job.pipelineSnapshot)) post failed
    world := by
  rw [dispatchReadyNodes, if_neg (by simp [moving])]
  have listed : ∀ node ∈ job.nodes,
    node.nodeID ∈ topologicalOrder job.pipelineSnapshot := fun node member =>
    mem_topologicalOrder sound.formed.unique (sound.nodeIDs.mem_iff.1 (List.mem_map_of_mem member))
  have same : job.dispatchedFrom (topologicalOrder job.pipelineSnapshot) = job.dispatched :=
    changeNodes_congr (fun node member => by simp [listed node member]) fun _ _ _ => rfl
  refine safe_dispatchEach unsteady _ found sound go rfl (fun after accepts moves => ?_) fails
  rw [same] at moves ⊢
  exact succeeds after (fun node member => accepts node member (listed node member)) moves

omit unsteady found sound go in
theorem dispatchReadyNodes_idle (idle : ∀ node ∈ job.nodes, job.dispatchable node = false) :
  dispatchReadyNodes job (dependencyMap job.pipelineSnapshot) = pure job := by
  unfold dispatchReadyNodes
  split
  · rfl
  · generalize topologicalOrder job.pipelineSnapshot = nodeIDs
    induction nodeIDs with
    | nil => rfl
    | cons _ _ ih => rw [dispatchEach_pass fun node member _ => idle node member, ih]

omit sound go in
theorem safe_onNodeCompleted_inert {id : Uuid} (inert : job.Inert id) (succeeds : post () world) :
  safe (store allowed) (onNodeCompleted job.id id artifactID) post failed world := by
  refine safe_bind (safe_getJobDetail unsteady found ?_)
  split
  · exact safe_pure succeeds
  next listens =>
    split
    · exact safe_pure succeeds
    next node located =>
      obtain ⟨member, named⟩ := findNodeByExecutionID_mem located
      rw [if_pos (inert.resolve_left listens node member named)]
      split <;> exact safe_pure succeeds

omit sound go in
theorem safe_onNodeFailed_inert {id : Uuid} (inert : job.Inert id) (succeeds : post () world) :
  safe (store allowed) (onNodeFailed job.id id message) post failed world := by
  refine safe_bind (safe_getJobDetail unsteady found ?_)
  split
  · exact safe_pure succeeds
  next listens =>
    split
    · exact safe_pure succeeds
    next node located =>
      obtain ⟨member, named⟩ := findNodeByExecutionID_mem located
      rw [if_pos (inert.resolve_left listens node member named)]
      exact safe_pure succeeds

variable {node : NodeExecutionView} (member : node ∈ job.nodes)
  (listens : ignoresEvents job = false) (active : node.status.isActive = true)

include member listens active

theorem safe_onNodeCompleted (succeeds : ∀ after, (∀ other ∈ (job.completed node artifactID).nodes,
  (job.completed node artifactID).dispatchable other = true → Accepts allowed other.id) →
  Moves world after job (job.completed node artifactID).dispatched.settled →
  post () after)
  (refuses : ∀ refused ∈ (job.completed node artifactID).nodes,
    (job.completed node artifactID).dispatchable refused = true →
    Refuses allowed refused.id → ∀ selected after,
    (∀ other ∈ (job.completed node artifactID).nodes, selected other = true →
      (job.completed node artifactID).dispatchable other = true) →
    selected refused = false →
    Moves world after job ((job.completed node artifactID).changeNodes selected queue) →
    failed after)
  (conflicts : hasActiveNode (job.completed node artifactID).dispatched.nodes = false →
    ∀ after, Moves world after job (job.completed node artifactID).dispatched →
    failed after) :
  safe (store allowed) (onNodeCompleted job.id node.id artifactID) post failed world := by
  refine safe_bind (safe_getJobDetail unsteady found ?_)
  rw [if_neg (Bool.eq_false_iff.1 listens), sound.findNodeByExecutionID_eq member]
  have moving := NodeStatus.not_isTerminal active
  dsimp only
  split
  next completed => exact absurd (completed.1 ▸ rfl) moving
  refine safe_bind (safe_markGoNodeSucceeded unsteady found go member fun marked marks => ?_)
  have completed : (job.completed node artifactID).Sound := sound.setNode keeps_complete
  refine safe_bind (@safe_getJobDetail _ marked (job.completed node artifactID) _
    unsteady marks.sync _ ?_)
  have listening : ignoresEvents (job.completed node artifactID) = false := listens
  rw [if_neg (Bool.eq_false_iff.1 listening), completed.dependencies]
  have running : (job.completed node artifactID).status.isTerminal = false := by
    simp only [ignoresEvents, decide_eq_false_iff_not, not_or] at listening
    exact Bool.eq_false_iff.2 listening.2.2
  refine safe_bind (safe_dispatchReadyNodes unsteady marks.sync completed go running ?_ ?_)
  · intro dispatched accepts dispatches
    refine safe_bind (@safe_maybeFinalizeJob _ dispatched _ _ dispatches.sync go _
      (fun final settles => ?_) fun idle final stays => ?_)
    · exact safe_pure (succeeds final accepts ((marks.trans dispatches).trans settles))
    · exact conflicts idle final ((marks.trans dispatches).trans stays)
  · intro refused present dispatchable refusal selected after within kept moves
    exact refuses refused present dispatchable refusal selected after within kept
      (marks.trans moves)

theorem safe_onNodeFailed_retry (first : node.retryCount < 1)
  (succeeds : ∀ after, Moves world after job (job.retried node) → post () after)
  (refuses : Refuses allowed node.id → ∀ after,
    Moves world after job (job.setNode node.id count) → failed after) :
  safe (store allowed) (onNodeFailed job.id node.id message) post failed world := by
  refine safe_bind (safe_getJobDetail unsteady found ?_)
  rw [if_neg (Bool.eq_false_iff.1 listens), sound.findNodeByExecutionID_eq member]
  dsimp only
  rw [if_neg (NodeStatus.not_isTerminal active), if_pos first]
  refine safe_bind (safe_incrementGoNodeRetry unsteady found go member fun counted counts => ?_)
  have present : count node ∈ (job.setNode node.id count).nodes :=
    mem_mapNodes.2 ⟨node, member, if_pos (decide_eq_true rfl)⟩
  have again : (job.setNode node.id count).Sound := sound.setNode keeps_count
  refine safe_bind (@safe_getJobDetail _ counted (job.setNode node.id count) _
    unsteady counts.sync _ ?_)
  have located := again.findNodeByExecutionID_eq present
  rw [show (count node).id = node.id from rfl] at located
  rw [located]
  dsimp only
  rw [again.dependencies]
  by_cases ready : job.Ready node.nodeID
  · have readyAgain := (sound.ready_count member active).2 ready
    refine safe_bind (@safe_dispatchNode _ counted _ _ unsteady counts.sync again
      go (count node) present rfl readyAgain _ ?_ ?_)
    · intro _ after moves
      refine safe_pure (succeeds after ?_)
      rw [← sound.retried_of_ready member ready]
      exact counts.trans moves
    · intro refusal after moves
      exact refuses refusal after (counts.trans moves)
  · rw [dispatchNode, if_neg]
    · refine safe_pure (succeeds counted ?_)
      rw [← sound.retried_of_not_ready member ready]
      exact counts
    · exact mt (again.dependenciesSucceeded_iff.1 ·) (mt (sound.ready_count member active).1 ready)

theorem safe_onNodeFailed_final (last : ¬ node.retryCount < 1)
  (succeeds : ∀ after, Moves world after job (job.withFailure node).settled → post () after)
  (conflicts : ∀ after, Moves world after job (job.withFailure node) → failed after) :
  safe (store allowed) (onNodeFailed job.id node.id message) post failed world := by
  refine safe_bind (safe_getJobDetail unsteady found ?_)
  rw [if_neg (Bool.eq_false_iff.1 listens), sound.findNodeByExecutionID_eq member]
  dsimp only
  rw [if_neg (NodeStatus.not_isTerminal active), if_neg last]
  refine safe_failure unsteady found sound go member fun after moves => ?_
  refine safe_bind (@safe_maybeFinalizeJob _ after _ _ moves.sync go _
    (fun final settles => ?_) fun _ final stays => ?_)
  · exact safe_pure (succeeds final (moves.trans settles))
  · exact conflicts final (moves.trans stays)

end

section

variable {allowed : Call → Env → Prop} {world : World} {job : JobView}
  {failed : World → Prop} {upstream : String → String → Prop}
  (careless : ∀ after, failed after)

include careless

theorem safe_shouldWaitForSchedule {post : Bool → World → Prop}
  (opened : world.database.schedule = ⟨.opened, none⟩)
  (succeeds : post false world) :
  safe (store allowed) (shouldWaitForSchedule job) post failed world := by
  refine safe_bind (safe_request fun env permitted => ?_)
  unfold exec
  split
  · exact careless world
  · simp only [answer, opened]
    exact safe_pure succeeds

section

variable (found : jobDetail world.database job.id = some job)

include found

theorem safe_careless {call : Call} {post : call.Result → World → Prop}
  (concerns : call.Concerns job)
  (succeeds : ∀ stale result after, Moves world after job (job.updated stale call result) →
    post result after) :
  safe (store allowed) (EngineStore.request call) post failed world := by
  refine safe_request fun env permitted => ?_
  obtain ⟨stale, moves⟩ := exec_moves env found concerns
  generalize exec env call world = answered at moves ⊢
  obtain ⟨reply, after⟩ := answered
  cases reply with
  | error => exact careless after
  | ok result => exact succeeds stale result after moves

variable {post : JobView → World → Prop}

theorem safe_failSourceNode (sound : job.Sound) (go : job.isGo = true)
  (member : node ∈ job.nodes) {message : String}
  (succeeds : ∀ after, Moves world after job (job.withFailure node).settled →
    post (job.withFailure node).settled after) :
  safe (store allowed) (failSourceNode job node message) post failed world := by
  refine safe_failure (fun _ => careless) found sound go member
    fun after moves => ?_
  refine safe_bind (@safe_maybeFinalizeJob _ after _ _ moves.sync go _
    (fun final settles => ?_) fun _ final _ => careless final)
  have settled := moves.trans settles
  split
  · have named : (job.withFailure node).id = (job.withFailure node).settled.id := settles.id_eq.symm
    rw [named]
    exact safe_getJobDetail (fun _ => careless) settles.sync (succeeds final settled)
  next moving =>
    have holds := succeeds final settled
    rw [settled_of_moving moving] at holds
    exact safe_pure holds

theorem safe_resolveSourceNode (healthy : job.Healthy upstream) (go : job.isGo = true)
  (succeeds : ∀ resolved after, Moves world after job resolved →
    Resolution upstream job resolved → resolved.ResolvedAt index →
    post resolved after) :
  safe (store allowed) (resolveSourceNode job index) post failed world := by
  have stay (done : job.ResolvedAt index) : safe (store allowed) (pure job) post failed world :=
    safe_pure (succeeds job world (.refl found) (.refl healthy) done)
  unfold resolveSourceNode
  split
  · exact safe_throw (careless world)
  rename_i node position
  have member : node ∈ job.nodes := List.mem_of_getElem? position
  split
  · exact stay fun other same source => by simp_all
  split
  · exact stay fun other same _ => by simp_all
  split
  · exact stay fun other same _ => by simp_all
  rename_i pending
  rw [ne_eq, not_not] at pending
  have broken (message : String) {middle : World} (moves : Moves world middle job job) :
    safe (store allowed) (failSourceNode job node message) post failed middle := by
    refine safe_failSourceNode careless moves.found healthy.sound go member fun after fails => ?_
    exact succeeds _ after (moves.trans fails) (.withFailure healthy member pending)
      (ResolvedAt.skip (resolvedAt_setNode position fun same => by cases same))
  split
  next assetID _ =>
    split
    · exact broken _ (.refl found)
    · refine safe_bind (safe_result (safe_request fun env permitted => ?_))
      obtain ⟨_, moves⟩ := @exec_moves world job
        (.createSourceArtifact job.id node.id assetID) env found rfl
      generalize exec env _ world = answered at moves ⊢
      obtain ⟨reply, after⟩ := answered
      cases reply with
      | error message => exact fun message => broken message moves
      | ok artifactID =>
        rw [JobView.after, updated, if_pos ⟨rfl, go⟩] at moves
        exact safe_pure (succeeds _ after moves (.complete healthy member pending artifactID)
          (resolvedAt_setNode position
      fun same => by cases same))
  · exact broken _ (.refl found)

end

theorem safe_resolveEach (indices : List Nat) {world : World} {job : JobView}
  (found : jobDetail world.database job.id = some job)
  (healthy : job.Healthy upstream) (go : job.isGo = true)
  (succeeds : ∀ resolved after, Moves world after job resolved → Resolution upstream job resolved →
    (∀ index ∈ indices, resolved.ResolvedAt index) → post resolved after) :
  safe (store allowed) (resolveEach indices job) post failed world := by
  induction indices generalizing world job with
  | nil => exact safe_pure (succeeds job world (.refl found) (.refl healthy) (by simp))
  | cons _ _ ih =>
    refine safe_bind (safe_resolveSourceNode careless found healthy go
      fun middle after moves round done => ?_)
    have owned : middle.isGo = true := (isGo_of_fixed round.fixed).trans go
    refine ih moves.sync round.toHealthy owned fun resolved final further rounds all => ?_
    refine succeeds resolved final (moves.trans further) (round.trans rounds) ?_
    intro position listed
    rcases List.mem_cons.1 listed with rfl | listed
    · exact rounds.stays _ done
    · exact all position listed

theorem safe_resolveSourceNodes (found : jobDetail world.database job.id = some job)
  (healthy : job.Healthy upstream) (go : job.isGo = true)
  {post : JobView → World → Prop}
  (succeeds : ∀ resolved after, Moves world after job resolved →
    Resolution upstream job resolved → resolved.Resolved →
    post resolved after) :
  safe (store allowed) (resolveSourceNodes job) post failed world := by
  refine safe_resolveEach careless _ found healthy go fun resolved after moves rounds all => ?_
  refine succeeds resolved after moves rounds fun node member source => ?_
  obtain ⟨index, bound, rfl⟩ := List.mem_iff_getElem.1 member
  refine all index (List.mem_range.2 ?_) _ (List.getElem?_eq_getElem bound) source
  have nodes := congrArg (fun columns => columns.nodes.length) rounds.fixed
  simp only [fixed, List.length_map] at nodes
  rwa [← nodes]

theorem safe_launch (found : jobDetail world.database job.id = some (job.planned .planning))
  (healthy : job.Healthy upstream) (go : job.isGo = true)
  {post : Unit → World → Prop}
  (succeeds : ∀ started after, started.fixed = job.fixed →
    Moves world after (job.planned .planning) started →
    Started upstream started → post () after) :
  safe (store allowed) (launch job) post failed world := by
  refine safe_bind (@safe_careless _ world (job.planned .planning) _ careless
    found (.markGoJobRunning job.id) _ rfl fun _ _ running marks => ?_)
  rw [updated, if_pos ⟨rfl, go, rfl⟩] at marks
  refine safe_bind (@safe_resolveSourceNodes _ running (job.planned .running) _
    upstream careless marks.sync (healthy.planned rfl) go _
    fun resolved after moves rounds every => ?_)
  have owned : resolved.isGo = true := (isGo_of_fixed rounds.fixed).trans go
  have snapshot : resolved.pipelineSnapshot = job.pipelineSnapshot :=
    congrArg Fixed.pipelineSnapshot rounds.fixed
  split
  next terminal =>
    exact safe_pure (succeeds resolved after rounds.fixed (marks.trans moves)
      (.of_terminal rounds.toHealthy terminal))
  next moving =>
    rw [Bool.not_eq_true] at moving
    rw [← snapshot]
    refine safe_bind (safe_dispatchReadyNodes (fun _ => careless) moves.sync
      rounds.sound owned moving ?_ fun _ _ _ _ _ final _ _ _ => careless final)
    intro dispatched _ dispatches
    refine safe_bind (@safe_maybeFinalizeJob _ dispatched _ _ dispatches.sync
      owned _ ?_ fun _ final _ => careless final)
    intro final settles
    refine safe_pure (succeeds _ final ?_ (((marks.trans moves).trans dispatches).trans settles)
      (.dispatched_settled rounds.toHealthy moving every))
    exact fixed_settled.trans ((fixed_mapNodes (keeps_queue.select _)).trans rounds.fixed)

theorem safe_startJob (found : jobDetail world.database job.id = some job)
  (healthy : job.Healthy upstream) (go : job.isGo = true)
  (opened : world.database.schedule = ⟨.opened, none⟩) :
  safe (store allowed) (startJob job.id) (fun _ after => ∃ started, started.fixed = job.fixed ∧
    Moves world after job started ∧ Started upstream started)
    failed world := by
  refine safe_bind (safe_getJobDetail (fun _ => careless) found ?_)
  have owned : shouldProcessGoJob job = true := go
  split
  next leave =>
    have terminal : job.status.isTerminal = true := by simpa [owned] using leave
    exact safe_pure ⟨job, rfl, .refl found, .of_terminal healthy terminal⟩
  next stay =>
    have moving : job.status.isTerminal = false := by simpa [owned] using stay
    refine safe_bind (safe_shouldWaitForSchedule careless opened ?_)
    rw [if_neg (by simp)]
    refine safe_bind (safe_request fun env permitted => ?_)
    obtain ⟨_, moves⟩ := @exec_moves world job
      (.claimGoJobPlanning job.id (planFor job.pipelineSnapshot)) env found rfl
    have claims := @claimGoJobPlanning_claims world job env found opened moving
      (planFor job.pipelineSnapshot)
    generalize exec env _ world = answered at moves claims ⊢
    obtain ⟨reply, claimed⟩ := answered
    cases reply with
    | error => exact careless claimed
    | ok =>
      cases claims rfl
      rw [JobView.after, updated, if_pos ⟨rfl, go, by simp [moving]⟩, if_pos rfl] at moves
      refine safe_launch careless moves.found healthy go fun started after same launches begun => ?_
      exact ⟨started, same, moves.trans launches, begun⟩

end

end VideoProcess.Go
