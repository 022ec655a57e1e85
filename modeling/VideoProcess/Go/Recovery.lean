import VideoProcess.Go.Authority
import VideoProcess.Go.Serial

namespace VideoProcess.Go

open Data Program Fallible JobView List

/-! Recovery after a crash. Nothing but the operation that failed a node knows
which nodes are still to be skipped. -/

variable {world : World} {env : Env} {call : Call} {front back : List (Note × List Uuid)}
  {note : Note} {heard : List Uuid} {job current record view : JobView}
  {row after node : NodeExecutionView} {jobID : Uuid} {nodeIDs : List String}

/-- A skip that is owed does not fail. -/
def Call.Paid (env : Env) : Call → Prop
  | .skipGoDownstreamNodes _ _ => env.fail = none
  | _ => True

theorem nextOwes (reply : Except String call.Result) (permits : note.Permits call)
  (owes : (note.next call reply).owes = some debt) :
  ∃ jobID nodeExecutionID message, call = .markGoNodeFailed jobID nodeExecutionID message ∧
    note.debt jobID nodeExecutionID = some debt := by
  cases before : note.owes with
  | some =>
    rw [Note.Permits, before] at permits
    subst permits
    cases reply <;> cases owes
  | none =>
    cases call with
    | markGoNodeFailed _ _ message =>
      cases reply with
      | ok => exact ⟨_, _, _, rfl, owes⟩
      | error =>
        change note.owes = some debt at owes
        rw [before] at owes
        cases owes
    | skipGoDownstreamNodes => cases reply <;> cases owes
    | claimGoJobPlanning =>
      have same : note.owes = some debt := by
        cases reply with
        | error => exact owes
        | ok claimed => cases claimed <;> exact owes
      rw [before] at same
      cases same
    | _ =>
      have same : note.owes = some debt := by cases reply <;> exact owes
      rw [before] at same
      cases same

theorem Coherent.debt_eq (coherent : Coherent world (front ++ (note, heard) :: back))
  (found : jobDetail world.database job.id = some job) (go : job.isGo = true)
  (member : node ∈ job.nodes) (holds : note.Holds job.id node.id) :
  note.debt job.id node.id = some (job.id,
    downstreamNodeIDs node.nodeID (dependencyMap job.pipelineSnapshot)) := by
  obtain ⟨view, shown, named, -, seen, listed, same, -⟩ := holds
  obtain ⟨_, recorded, fixed, -⟩ := coherent.seen (note, heard) (by simp) view shown
  rw [named, found] at recorded
  cases recorded
  have sound := (coherent.sound job.id job found go).1
  have snapshot : view.pipelineSnapshot = job.pipelineSnapshot :=
    congrArg Fixed.pipelineSnapshot fixed.symm
  cases located : findNodeByExecutionID view.nodes node.id with
  | none =>
    have absent := find?_eq_none.1 located seen listed
    simp [same] at absent
  | some =>
    obtain ⟨present, identified⟩ := findNodeByExecutionID_mem located
    obtain ⟨_, twinMember, twinID, twinNode⟩ := exists_of_fixed fixed.symm present
    have equal := sound.eq_of_id twinMember member (twinID.trans identified)
    rw [equal] at twinNode
    simp [Note.debt, shown, located, snapshot, twinNode]

def stood (_ : List Uuid) (_ : Uuid) (seen status : NodeStatus) : Prop :=
  seen.isTerminal = true → status = seen

/-- Someone owes the skip of every pending node that a failure blocks. -/
def Covered (books : List (Note × List Uuid)) (job : JobView) : Prop :=
  ∀ node ∈ job.nodes, node.status = .pending → ∀ dependency ∈ job.nodes,
    job.pipelineSnapshot.Edge dependency.nodeID node.nodeID →
    dependency.status.isFailed = true →
    ∃ book ∈ books, ∃ nodeIDs, book.1.owes = some (job.id, nodeIDs) ∧ node.nodeID ∈ nodeIDs

def Owed (world : World) (jobID : Uuid) (nodeIDs : List String) : Prop :=
  ∃ job, jobDetail world.database jobID = some job ∧ job.isGo = true ∧
    ∀ source target, source ∈ nodeIDs → job.pipelineSnapshot.Edge source target → target ∈ nodeIDs

structure Solvent (world : World) (books : List (Note × List Uuid)) : Prop where
  rest : AtRest world books
  seen : Views stood world books
  supplied : Records Supplied world
  owed : ∀ book ∈ books, ∀ jobID nodeIDs,
    book.1.owes = some (jobID, nodeIDs) → Owed world jobID nodeIDs
  covered : Records (Covered books) world
  validated : Records (fun job => job.status ≠ .validating) world

theorem Owed.exec (owed : Owed world jobID nodeIDs) (env : Env) (call : Call) :
  Owed (exec env call world).2 jobID nodeIDs := by
  obtain ⟨_, found, go, _⟩ := owed
  obtain ⟨current, step⟩ := RecordStep.of_found env call found
  refine ⟨current, jobDetail_id found ▸ step.found, (isGo_of_fixed step.fixed).trans go, ?_⟩
  rwa [step.snapshot]

theorem RecordStep.validated (step : RecordStep env call world job current)
  (permits : note.Permits call) (validated : job.status ≠ .validating) :
  current.status ≠ .validating := by
  rcases step.change with ⟨same, -⟩ | change
  · rwa [same]
  · generalize current.status = status at change ⊢
    generalize current.executionPlan = plan at change
    generalize (Go.exec env call world).1 = reply at change
    cases change with
    | finalized =>
      obtain ⟨-, -, -, -, terminal⟩ := permits.allows rfl
      rintro rfl
      cases terminal
    | _ =>
      intro same
      cases same

theorem ready_of_claim (seen : Views stood world (front ++ (note, heard) :: back))
  (found : jobDetail world.database job.id = some job)
  (member : row ∈ job.nodes)
  (claims : note.Allows (.markGoNodeQueued row.id inputs)) :
  job.Ready row.nodeID := by
  obtain ⟨view, shown, -, _, listed, same, ready⟩ := claims
  obtain ⟨record, recorded, fixed, relation⟩ := seen (note, heard) (by simp) view shown
  obtain ⟨_, twinMember, twinID, twinNode⟩ := exists_of_fixed fixed.symm listed
  -- Both records hold the row, so they are records of one job.
  have named : record.id = job.id := by
    by_contra different
    have found' := recorded
    rw [← jobDetail_id recorded] at found'
    exact nodes_disjoint found' found different twinMember member (twinID.trans same)
  rw [← jobDetail_id recorded, named, found] at recorded
  cases recorded
  have sound := nodup_nodes_jobDetail found
  have equal := inj_on_of_nodup_map sound twinMember member (twinID.trans same)
  have snapshot : view.pipelineSnapshot = job.pipelineSnapshot :=
    congrArg Fixed.pipelineSnapshot fixed.symm
  intro upstream present edge
  obtain ⟨shownUpstream, shownMember, upstreamID, upstreamNode⟩ := exists_of_fixed fixed present
  have succeeded := ready shownUpstream shownMember (by
    rw [snapshot, upstreamNode, ← twinNode, equal]
    exact edge)
  have stands := relation shownUpstream shownMember upstream present upstreamID.symm
  rw [succeeded] at stands
  exact stands rfl

theorem owes_of_skips (permits : note.Permits (.skipGoDownstreamNodes jobID nodeIDs)) :
  note.owes = some (jobID, nodeIDs) := by
  unfold Note.Permits at permits
  split at permits
  next owes =>
    cases permits
    exact owes
  · exact permits.elim

theorem pending_of_skipped (found : jobDetail world.database job.id = some job)
  (go : job.isGo = true)
  (step : RecordStep env (.skipGoDownstreamNodes job.id nodeIDs) world job current)
  (works : env.fail = none) (present : after ∈ current.nodes)
  (pending : after.status = .pending) (listed : after.nodeID ∈ nodeIDs) :
  False := by
  obtain ⟨_, rfl⟩ := step.effect
  rw [skipGoDownstreamNodes_reply works found go nodeIDs] at present
  simp only [JobView.after, updated] at present
  rw [if_pos ⟨trivial, go⟩] at present
  obtain ⟨_, _, rfl⟩ := mem_mapNodes.1 present
  split at pending
  · cases pending
  next unselected =>
    rw [if_neg unselected] at listed
    exact unselected (decide_eq_true ⟨listed, .inl pending⟩)

section

variable (coherent : Coherent world (front ++ (note, heard) :: back))
  (permits : note.Permits call) (undisturbed : call.Undisturbed heard world)

include coherent permits undisturbed

theorem stable_stood : Stable env call world stood := by
  have steady {record current row after}
    (changes : RowChange env call world record current row after)
    {seen : NodeStatus} (held : seen.isTerminal = true → row.status = seen)
    (terminal : seen.isTerminal = true) : after.status = seen := by
    have active := coherent.change_active permits undisturbed changes
    rw [held terminal] at active
    exact (NodeStatus.not_isTerminal active terminal).elim
  exact
    { read := fun _ _ _ => rfl
      succeeded := fun _ _ _ => rfl
      hears := fun _ _ _ _ _ held => held
      others := fun _ _ _ _ _ changes _ held => steady changes held
      own := fun _ _ _ _ _ changes _ _ _ held => steady changes held }

variable (found : jobDetail world.database job.id = some job)
  (step : RecordStep env call world job current)

include found step

theorem status_eq (member : row ∈ job.nodes) (present : after ∈ current.nodes)
  (rowStep : RowStep job call (exec env call world).1 row after)
  (terminal : row.status.isTerminal = true) : after.status = row.status := by
  rcases rowStep.status with same | ⟨worked, change⟩
  · exact same
  · have active := coherent.change_active permits undisturbed
      ⟨found, step, member, present, rowStep.fixed, worked, change⟩
    exact (NodeStatus.not_isTerminal active terminal).elim

theorem ready_kept (ready : job.Ready nodeID) : current.Ready nodeID := by
  intro upstream present edge
  obtain ⟨row, member, rowStep⟩ := step.row present
  rw [rowStep.nodeID, step.snapshot] at edge
  have succeeded := ready row member edge
  rw [status_eq coherent permits undisturbed found step member present rowStep (succeeded ▸ rfl)]
  exact succeeded

theorem supplied_kept (seen : Views stood world (front ++ (note, heard) :: back))
  (supplied : job.Supplied) : current.Supplied := by
  intro after present inFlight
  obtain ⟨row, member, rowStep⟩ := step.row present
  rw [rowStep.nodeID]
  refine ready_kept coherent permits undisturbed found step ?_
  rcases rowStep.status with same | ⟨_, change⟩
  · exact supplied row member (same ▸ inFlight)
  · generalize after.status = status at change inFlight
    cases change with
    | queued _ named =>
      subst named
      exact ready_of_claim seen found member (permits.allows rfl)
    | running named =>
      obtain ⟨stored, held, -, rfl⟩ := (mem_nodes_jobDetail found).1 member
      have queued : (nodeView stored).status = .queued := undisturbed stored held named
      exact supplied _ member (queued ▸ rfl)
    | _ => cases inFlight

theorem pending_before (supplied : job.Supplied) (member : row ∈ job.nodes)
  (present : after ∈ current.nodes)
  (rowStep : RowStep job call (exec env call world).1 row after)
  (pending : after.status = .pending)
  (dependencyPresent : dependency ∈ current.nodes)
  (edge : job.pipelineSnapshot.Edge dependency.nodeID row.nodeID)
  (failed : dependency.status.isFailed = true) : row.status = .pending := by
  by_contra moved
  have active : row.status.isActive = true := by
    rcases rowStep.status with same | ⟨worked, change⟩
    · exact (moved (same.symm.trans pending)).elim
    · exact coherent.change_active permits undisturbed
        ⟨found, step, member, present, rowStep.fixed, worked, change⟩
  have inFlight := ((NodeStatus.isActive_iff _).1 active).resolve_left moved
  obtain ⟨before, beforeMember, beforeStep⟩ := step.row dependencyPresent
  rw [beforeStep.nodeID] at edge
  have succeeded := supplied row member inFlight before beforeMember edge
  rw [status_eq coherent permits undisturbed found step beforeMember
    dependencyPresent beforeStep (succeeded ▸ rfl), succeeded] at failed
  cases failed

theorem covered_kept (go : job.isGo = true)
  (solvent : Solvent world (front ++ (note, heard) :: back))
  (paid : call.Paid env) :
  Covered (booksAfter env call world front back note heard) current := by
  intro after present pending dependency dependencyPresent edge failed
  obtain ⟨row, member, rowStep⟩ := step.row present
  obtain ⟨before, beforeMember, beforeStep⟩ := step.row dependencyPresent
  rw [step.snapshot, rowStep.nodeID] at edge
  have waiting := pending_before coherent permits undisturbed found step
    (solvent.supplied job.id job found go) member present rowStep pending
    dependencyPresent edge failed
  rw [beforeStep.nodeID] at edge
  -- A request that skips what is owed leaves none of it pending.
  have unskipped (nodeIDs : List String) (listed : row.nodeID ∈ nodeIDs)
    (skips : call = .skipGoDownstreamNodes job.id nodeIDs) : False := by
    subst skips
    exact pending_of_skipped found go step paid present pending (rowStep.nodeID.symm ▸ listed)
  rw [step.id_eq, rowStep.nodeID]
  rcases beforeStep.status with same | ⟨worked, change⟩
  · obtain ⟨book, listed, nodeIDs, owes, covers⟩ :=
      solvent.covered job.id job found go row member waiting before beforeMember
        edge (same ▸ failed)
    by_cases own : book = (note, heard)
    · subst own
      rw [Note.Permits, show note.owes = _ from owes] at permits
      exact (unskipped nodeIDs covers permits).elim
    · exact ⟨_, mem_booksAfter_of_other listed own, nodeIDs, owes, covers⟩
  · generalize dependency.status = status at change failed
    cases change with
    | failed same _ named =>
      subst same named
      have debt := coherent.debt_eq found go beforeMember (permits.allows rfl)
      refine ⟨_, mem_booksAfter_own, _, ?_, mem_downstreamNodeIDs.2 (.single edge)⟩
      obtain ⟨_, replied⟩ := worked
      rw [replied]
      exact debt
    | skipped same _ skips =>
      subst same
      have owes := owes_of_skips permits
      obtain ⟨_, found', -, closed⟩ := solvent.owed (note, heard) (by simp) _ _ owes
      rw [found] at found'
      cases found'
      exact (unskipped _ (closed _ _ (of_decide_eq_true skips).1 edge) rfl).elim
    | cancelled same moving =>
      subst same
      obtain ⟨_, rfl⟩ := step.effect
      obtain ⟨_, replied⟩ := worked
      rw [replied] at present
      have idle := hasActiveNode_eq_false.1 (hasActiveNode_cancelled moving) after present
      rw [pending] at idle
      cases idle
    | _ => cases failed

end

namespace Solvent

theorem answered (solvent : Solvent world (front ++ (note, heard) :: back))
  (coherent : Coherent world (front ++ (note, heard) :: back))
  (permits : note.Permits call) (undisturbed : call.Undisturbed heard world)
  (paid : call.Paid env) :
  Solvent (exec env call world).2 (booksAfter env call world front back note heard) where
  rest := solvent.rest.answered coherent permits undisturbed.unretried
  seen := solvent.seen.exec permits (stable_stood coherent permits undisturbed)
  supplied := by
    refine solvent.supplied.exec coherent.linked env call ?_ ?_
    · intro job current found _ supplied step
      exact supplied_kept coherent permits undisturbed found step solvent.seen supplied
    · intro snapshot job _ _ fresh node member inFlight
      rw [(fresh.pending node member).1] at inFlight
      cases inFlight
  owed := by
    intro book member jobID nodeIDs owes
    rcases mem_booksAfter member with ⟨other, present, rfl⟩ | rfl
    · exact (solvent.owed other present jobID nodeIDs owes).exec env call
    · obtain ⟨failedJob, failedNode, _, rfl, debt⟩ := nextOwes _ permits owes
      have holds : note.Holds failedJob failedNode := permits.allows rfl
      obtain ⟨view, shown, rfl, go, _, listed, rfl, -⟩ := id holds
      obtain ⟨record, found, fixed, -⟩ := coherent.seen (note, heard) (by simp) view shown
      obtain ⟨_, twinMember, twinID, -⟩ := exists_of_fixed fixed.symm listed
      have named := jobDetail_id found
      have owned := (isGo_of_fixed fixed).trans go
      rw [← named] at found
      rw [← named, ← twinID] at holds debt
      rw [coherent.debt_eq found owned twinMember holds] at debt
      cases debt
      refine Owed.exec ⟨record, found, owned, ?_⟩ env _
      intro source target member edge
      exact mem_downstreamNodeIDs.2 ((mem_downstreamNodeIDs.1 member).tail edge)
  covered := by
    intro jobID current found go
    rcases record_cases coherent.linked env call found with
      ⟨_, present, step⟩ | ⟨_, _, fresh⟩
    · have named := jobDetail_id present
      subst named
      exact covered_kept coherent permits undisturbed present step
        ((isGo_of_fixed step.fixed).symm.trans go) solvent paid
    · intro node member pending dependency present edge failed
      rw [(fresh.pending dependency present).1] at failed
      cases failed
  validated := by
    refine solvent.validated.exec coherent.linked env call ?_ ?_
    · intro job current _ _ validated step
      exact step.validated permits validated
    · intro snapshot job _ _ fresh
      rw [fresh.status]
      intro same
      cases same

theorem of_blank (blank : world.Blank) : Solvent world [] := by
  have none (property : JobView → Prop) : Records property world := by
    intro jobID job found go
    rw [blank.unowned jobID job found] at go
    cases go
  exact ⟨⟨none _, fun book member => absurd member not_mem_nil⟩,
    fun book member => absurd member not_mem_nil, none _,
    fun book member => absurd member not_mem_nil, none _, none _⟩

theorem start (solvent : Solvent world books) {permits : Activity → Prop}
  (starts : Activity.Starts permits program note) :
  Solvent world (books ++ [(note, [])]) where
  rest := ⟨solvent.rest.quiet, solvent.rest.seen.start starts.forgetful.1⟩
  seen := solvent.seen.start starts.forgetful.1
  supplied := solvent.supplied
  owed := by
    intro book member jobID nodeIDs owes
    rcases mem_append.1 member with old | new
    · exact solvent.owed book old jobID nodeIDs owes
    · have clear : note.owes = none := starts.forgetful.2.2
      rw [mem_singleton.1 new, clear] at owes
      cases owes
  covered := by
    intro jobID job found go node member pending dependency present edge failed
    obtain ⟨book, listed, covers⟩ := solvent.covered jobID job found go node
      member pending dependency present edge failed
    exact ⟨book, mem_append_left _ listed, covers⟩
  validated := solvent.validated

theorem leave (solvent : Solvent world (front ++ (note, heard) :: back))
  (clear : note.Clear) : Solvent world (front ++ back) where
  rest := ⟨solvent.rest.quiet, fun book member =>
    solvent.rest.seen book (mem_of_others member)⟩
  seen book member := solvent.seen book (mem_of_others member)
  supplied := solvent.supplied
  owed book member := solvent.owed book (mem_of_others member)
  covered := by
    intro jobID job found go node member pending dependency present edge failed
    obtain ⟨book, listed, nodeIDs, owes, covers⟩ := solvent.covered jobID job
      found go node member pending dependency present edge failed
    refine ⟨book, ?_, nodeIDs, owes, covers⟩
    simp only [mem_append, mem_cons] at listed ⊢
    rcases listed with ahead | rfl | behind
    · exact .inl ahead
    · rw [show note.owes = none from clear] at owes
      cases owes
    · exact .inr behind
  validated := solvent.validated

end Solvent

def reset (node : NodeExecutionView) : NodeExecutionView :=
  { node with status := .pending, workerID := none }

theorem keeps_reset : Keeps reset := fun _ => rfl

theorem JobView.Healthy.reset (healthy : job.Healthy job.pipelineSnapshot.Edge)
  (stale : Uuid → Bool) :
  (job.changeNodes (fun node => node.status.isInFlight ∧ stale node.id)
    Go.reset).Healthy job.pipelineSnapshot.Edge := by
  have keeps := keeps_reset.select fun node =>
    decide (node.status.isInFlight = true ∧ stale node.id = true)
  refine ⟨healthy.sound.mapNodes keeps, healthy.above, ?_, ?_, ?_⟩
  · intro terminal
    have idle := hasActiveNode_eq_false.1 (healthy.quiet terminal)
    refine hasActiveNode_eq_false.2 fun node member => ?_
    obtain ⟨node, present, rfl⟩ := mem_mapNodes.1 member
    have inactive := idle node present
    split
    next selected =>
      have active := (NodeStatus.isActive_iff _).2 (.inr (of_decide_eq_true selected).1)
      rw [inactive] at active
      cases active
    · exact inactive
  · intro node member pending other otherMember edge
    obtain ⟨node, present, rfl⟩ := mem_mapNodes.1 member
    obtain ⟨other, otherPresent, rfl⟩ := mem_mapNodes.1 otherMember
    rw [keeps.nodeID, keeps.nodeID] at edge
    split
    · rfl
    · split at pending
      next selected =>
        rw [healthy.supplied node present (of_decide_eq_true selected).1 other otherPresent edge]
        rfl
      · exact healthy.unblocked node present pending other otherPresent edge
  · refine healthy.supplied.mapNodes keeps ?_ ?_
    · intro node _ succeeded
      rw [if_neg]
      · exact succeeded
      · simp [succeeded, NodeStatus.isInFlight]
    · intro node _ inFlight
      split at inFlight
      · cases inFlight
      · exact .inl inFlight

variable {allowed : Call → Env → Prop}

def solvent : Pool.Checks storeInterface World Env Note (List Uuid) (Except String Unit) Activity :=
  schedule (fun _ _ => true) (fun heard call env world =>
    decide (call.Undisturbed heard world) && decide (env.fail = none))
    fun program =>
      match program with
      | .call (.skipGoDownstreamNodes _ _) _ => false
      | _ => true

end VideoProcess.Go
