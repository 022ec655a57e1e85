import VideoProcess.Go.Interleaving

namespace VideoProcess.Go

open Data Program Fallible

/-! Who holds the claim of a node execution, whose row does not say who won
it. -/

namespace QueueClaim

/-- What an operation has done to claims, the newest first. -/
inductive Entry where
  | claimed (nodeExecutionID : Uuid)
  | delivered (nodeExecutionID : Uuid)
  | refused (nodeExecutionID : Uuid)
  | released (nodeExecutionID : Uuid)
deriving DecidableEq

/-- The node execution whose `dispatchNode` has not come to its end. -/
def inProgress : List Entry → Option Uuid
  | .claimed id :: _ | .refused id :: _ => some id
  | _ => none

def record (history : List Entry) : (call : Call) → Except String call.Result → List Entry
  | .markGoNodeQueued id _, .ok (claimed : Bool) =>
    if claimed then .claimed id :: history else history
  | .dispatch payload, .ok _ => .delivered payload.nodeExecutionID :: history
  | .dispatch payload, .error _ => .refused payload.nodeExecutionID :: history
  | .releaseGoNodeQueueClaim id, _ => .released id :: history
  | _, _ => history

def statusOf (world : World) (id : Uuid) : Option NodeStatus :=
  (world.database.nodeExecutions.find? id).map NodeExecutionRow.status

def entering (status : NodeStatus) (before after : World) : List Uuid :=
  (after.database.nodeExecutions.rows.map NodeExecutionRow.id).filter fun id =>
    statusOf before id ≠ some status ∧ statusOf after id = some status

/-- What others have done since the operation last claimed a node execution. -/
structure Heard where
  (returned queued : List Uuid)

def bystander : Observer storeInterface World (List Entry) Heard where
  note := record
  silent := ⟨[], []⟩
  resume heard call reply :=
    match call, reply with
    | .markGoNodeQueued _ _, .ok (claimed : Bool) =>
      if claimed then ⟨[], []⟩ else heard
    | _, _ => heard
  hear heard before after :=
    ⟨heard.returned ++ entering .pending before after,
      heard.queued ++ entering .queued before after⟩

/-- The store whose requests may also fail after they took effect. -/
def faulty : Machine storeInterface World (Env × Option Fault) where
  exec choice call world := interrupt choice.2 world (exec choice.1 call world)

def anything : Rules storeInterface World (Env × Option Fault) (List Entry)
  Heard (Except String Unit) where
  start _ program history :=
    (∃ activity : Activity, program = activity.program.run) ∧ history = []
  call _ _ _ _ _ := True
  abandon _ := True

abbrev Interleaved := Pool storeInterface World (List Entry) Heard
  (Except String Unit)

/-- A claim is made when none is in progress, dispatched once, and released
only when the dispatch was refused. -/
def Permitted (history : List Entry) : Call → Prop
  | .dispatch payload => ∃ older, history = .claimed payload.nodeExecutionID :: older
  | .releaseGoNodeQueueClaim id => ∃ older, history = .refused id :: older
  | _ => inProgress history = none

def discipline : Contract storeInterface (List Entry) where
  requires := Permitted
  ensures history call reply after := after = record history call reply

def Disciplined (program : Op α) : Prop :=
  ∀ history, inProgress history = none →
    safe discipline program (fun _ after => inProgress after = none)
      (fun after => inProgress after = none) history

def unrelated : Call → Bool
  | .markGoNodeQueued _ _ | .dispatch _ | .releaseGoNodeQueueClaim _ => false
  | _ => true

section

variable {α β : Type}

theorem disciplined_pure (result : α) : Disciplined (pure result : Op α) :=
  fun _ idle => safe_pure idle

variable {program : Op α}

theorem disciplined_bind (first : Disciplined program)
  (next : ∀ result, Disciplined (rest result)) :
  Disciplined (program >>= rest) := fun history idle =>
  safe_bind (safe_mono (first history idle)
    (fun result after idle => next result after idle) fun _ idle => idle)

theorem disciplined_ite [Decidable condition] (holds : Disciplined first)
  (fails : Disciplined second) :
  Disciplined (if condition then first else second) := fun history idle =>
  safe_ite (fun _ => holds history idle) fun _ => fails history idle

section

variable (holds : Disciplined program)

include holds

theorem disciplined_result : Disciplined program.result := fun history idle =>
  safe_result (safe_mono (holds history idle) (fun _ _ idle => idle) fun _ idle _ => idle)

theorem disciplined_withContext : Disciplined (program.withContext context) := fun history idle =>
  safe_withContext (holds history idle)

theorem disciplined_discard : Disciplined (discard program) :=
  disciplined_bind holds fun _ => disciplined_pure _

end

theorem record_unrelated {call : Call} (apart : unrelated call = true)
  (history : List Entry) (reply : Except String call.Result) :
  record history call reply = history := by
  cases call <;> first | rfl | cases apart

theorem disciplined_request (call : Call) (apart : unrelated call = true) :
  Disciplined (EngineStore.request call) := by
  intro history idle
  refine ⟨?_, ?_⟩
  · change Permitted history call
    cases call <;> first | exact idle | cases apart
  · rintro reply _ rfl
    rw [record_unrelated apart]
    cases reply <;> exact idle

section

variable (job : JobView)

include job

variable (node : NodeExecutionView)

theorem disciplined_dispatchNode (dependencies : Dict String (List String)) :
  Disciplined (dispatchNode job node dependencies) := by
  intro history idle
  unfold dispatchNode
  refine safe_ite (fun _ => safe_bind ?_) fun _ => safe_pure idle
  refine ⟨idle, ?_⟩
  rintro (message | claimed) after rfl
  · exact idle
  · cases claimed with
    | false => exact safe_pure idle
    | true =>
      refine safe_bind (safe_result ⟨⟨history, rfl⟩, ?_⟩)
      rintro (_ | _) after rfl
      · intro dispatchError
        -- The release is the last request whether or not it succeeds.
        refine safe_bind (safe_result ⟨⟨_, rfl⟩, ?_⟩)
        rintro (_ | _) _ rfl
        · exact fun _ => rfl
        · rfl
      · exact rfl

theorem disciplined_maybeFinalizeJob : Disciplined (maybeFinalizeJob job) := by
  unfold maybeFinalizeJob
  refine disciplined_ite (disciplined_pure _) (disciplined_ite (disciplined_pure _) ?_)
  exact disciplined_bind (disciplined_request _ rfl) fun _ => disciplined_pure _

variable (dependencies : Dict String (List String))

theorem disciplined_dispatchEach (nodeIDs : List String) :
  Disciplined (dispatchEach dependencies nodeIDs job) := by
  induction nodeIDs generalizing job with
  | nil => exact disciplined_pure _
  | cons _ _ ih =>
    unfold dispatchEach
    split
    · exact ih job
    · refine disciplined_ite (ih job) (disciplined_ite ?_ (ih job))
      exact disciplined_bind (disciplined_dispatchNode _ _ _) ih

theorem disciplined_dispatchReadyNodes : Disciplined (dispatchReadyNodes job dependencies) :=
  disciplined_ite (disciplined_pure _) (disciplined_dispatchEach _ _ _)

theorem disciplined_failSourceNode
  (message : String) : Disciplined (failSourceNode job node message) := by
  refine disciplined_bind (disciplined_request _ rfl) fun _ => ?_
  refine disciplined_bind (disciplined_request _ rfl) fun _ => ?_
  refine disciplined_bind (disciplined_request _ rfl) fun reloaded => ?_
  refine disciplined_bind (disciplined_maybeFinalizeJob _) fun _ => ?_
  exact disciplined_ite (disciplined_request _ rfl) (disciplined_pure _)

theorem disciplined_resolveSourceNode (index : Nat) :
  Disciplined (resolveSourceNode job index) := by
  unfold resolveSourceNode
  split
  · exact fun _ idle => safe_throw idle
  · refine disciplined_ite (disciplined_pure _) (disciplined_ite (disciplined_pure _)
      (disciplined_ite (disciplined_pure _) ?_))
    split
    · refine disciplined_ite (disciplined_failSourceNode _ _ _) ?_
      refine disciplined_bind (disciplined_result (disciplined_request _ rfl)) fun outcome => ?_
      cases outcome with
      | ok => exact disciplined_pure _
      | error => exact disciplined_failSourceNode _ _ _
    · exact disciplined_failSourceNode _ _ _

theorem disciplined_resolveEach (indices : List Nat) : Disciplined (resolveEach indices job) := by
  induction indices generalizing job with
  | nil => exact disciplined_pure _
  | cons _ _ ih => exact disciplined_bind (disciplined_resolveSourceNode _ _) ih

theorem disciplined_park : Disciplined (park job) := by
  unfold park
  split
  · exact disciplined_bind (disciplined_request _ rfl) fun _ => disciplined_pure _
  · exact disciplined_pure _

theorem disciplined_shouldWaitForSchedule : Disciplined (shouldWaitForSchedule job) :=
  disciplined_bind (disciplined_request _ rfl) fun _ =>
    disciplined_ite (disciplined_park _) (disciplined_ite (disciplined_pure _)
      (disciplined_ite (disciplined_pure _) (disciplined_park _)))

theorem disciplined_launch : Disciplined (launch job) := by
  refine disciplined_bind (disciplined_request _ rfl) fun _ => ?_
  refine disciplined_bind (disciplined_resolveEach _ _) fun _ => ?_
  refine disciplined_ite (disciplined_pure _) ?_
  exact disciplined_bind (disciplined_dispatchReadyNodes _ _) fun _ =>
    disciplined_discard (disciplined_maybeFinalizeJob _)

end

theorem disciplined_startJob (jobID : Uuid) : Disciplined (startJob jobID) := by
  refine disciplined_bind (disciplined_request _ rfl) fun job => ?_
  refine disciplined_ite (disciplined_pure _) ?_
  refine disciplined_bind (disciplined_shouldWaitForSchedule _) fun _ => ?_
  refine disciplined_ite (disciplined_pure _) ?_
  refine disciplined_bind (disciplined_request _ rfl) fun _ => ?_
  exact disciplined_ite (disciplined_launch _) (disciplined_pure _)

theorem disciplined_onNodeCompleted (jobID id artifactID : Uuid) :
  Disciplined (onNodeCompleted jobID id artifactID) := by
  refine disciplined_bind (disciplined_request _ rfl) fun job => ?_
  refine disciplined_ite (disciplined_pure _) ?_
  split
  · exact disciplined_pure _
  · refine disciplined_ite (disciplined_pure _) (disciplined_ite (disciplined_pure _) ?_)
    refine disciplined_bind (disciplined_request _ rfl) fun _ => ?_
    refine disciplined_bind (disciplined_request _ rfl) fun job => ?_
    refine disciplined_ite (disciplined_pure _) ?_
    exact disciplined_bind (disciplined_dispatchReadyNodes _ _) fun _ =>
      disciplined_discard (disciplined_maybeFinalizeJob _)

theorem disciplined_retryNode (jobID id : Uuid) : Disciplined (retryNode jobID id) := by
  refine disciplined_bind (disciplined_request _ rfl) fun _ => ?_
  refine disciplined_bind (disciplined_request _ rfl) fun job => ?_
  split
  · exact disciplined_pure _
  · exact disciplined_discard (disciplined_dispatchNode _ _ _)

theorem disciplined_failNode (job : JobView) (node : NodeExecutionView)
  (jobID id : Uuid) (message : String) :
  Disciplined (failNode job node jobID id message) := by
  refine disciplined_bind (disciplined_request _ rfl) fun _ => ?_
  refine disciplined_bind (disciplined_request _ rfl) fun _ => ?_
  refine disciplined_bind (disciplined_request _ rfl) fun _ => ?_
  exact disciplined_discard (disciplined_maybeFinalizeJob _)

theorem disciplined_onNodeFailed (jobID id : Uuid) (message : String) :
  Disciplined (onNodeFailed jobID id message) := by
  refine disciplined_bind (disciplined_request _ rfl) fun job => ?_
  refine disciplined_ite (disciplined_pure _) ?_
  split
  · exact disciplined_pure _
  · exact disciplined_ite (disciplined_pure _) (disciplined_ite (disciplined_retryNode _ _)
      (disciplined_failNode _ _ _ _ _))

theorem disciplined_recoverEach (staleBefore : Nat) (jobs : List JobView) :
  Disciplined (recoverEach staleBefore jobs) := by
  induction jobs with
  | nil => exact disciplined_pure _
  | cons _ _ ih =>
    refine disciplined_ite ih ?_
    refine disciplined_bind (disciplined_withContext (disciplined_request _ rfl)) fun _ => ?_
    exact disciplined_bind (disciplined_withContext (disciplined_startJob _)) fun _ => ih

theorem disciplined_program (activity : Activity) : Disciplined activity.program := by
  cases activity with
  | startJob jobID => exact disciplined_startJob jobID
  | handle event =>
    cases event with
    | nodeCompleted => exact disciplined_onNodeCompleted _ _ _
    | nodeFailed => exact disciplined_onNodeFailed _ _ _
  | runOnce =>
    exact disciplined_bind (disciplined_request _ rfl) fun _ =>
      disciplined_recoverEach _ _
  | createGoJob => exact disciplined_discard (disciplined_request _ rfl)
  | cancelJob | setVideoScheduleState => exact disciplined_request _ rfl
  | openVideoScheduleForJob | markNodeRunning => exact disciplined_request _ rfl

end

variable {world : World} {env : Env} {call : Call} {id : Uuid}

theorem statusOf_eq_some : statusOf world id = some status ↔
  ∃ row ∈ world.database.nodeExecutions.rows, row.id = id ∧ row.status = status := by
  simp only [statusOf, Option.map_eq_some_iff, Table.find?_eq_some_iff, and_assoc]

theorem mem_entering : id ∈ entering status before after ↔
  statusOf before id ≠ some status ∧ statusOf after id = some status := by
  simp only [entering, List.mem_filter, List.mem_map, decide_eq_true_eq, and_iff_right_iff_imp]
  rintro ⟨-, entered⟩
  obtain ⟨row, present, named, -⟩ := statusOf_eq_some.1 entered
  exact ⟨row, present, named⟩

theorem exists_job (linked : Linked world.database)
  (present : row ∈ world.database.nodeExecutions.rows) :
  ∃ job, jobDetail world.database row.jobID = some job ∧ nodeView row ∈ job.nodes := by
  cases found : jobDetail world.database row.jobID with
  | none =>
    refine absurd (linked (row.id, row.jobID) ?_) (jobDetail_eq_none_iff.1 found)
    exact List.mem_map.2 ⟨row, present, rfl⟩
  | some job => exact ⟨job, rfl, (mem_nodes_jobDetail found).2 ⟨row, present, rfl, rfl⟩⟩

theorem pending_of_queued (linked : Linked world.database)
  (before : statusOf world id ≠ some .queued)
  (after : statusOf (exec env call world).2 id = some .queued) :
  statusOf world id = some .pending := by
  obtain ⟨row, present, rfl, queued⟩ := statusOf_eq_some.1 after
  obtain ⟨_, found, member⟩ := exists_job (linked.exec env call) present
  rcases record_cases linked env call found with
    ⟨_, recorded, step⟩ | ⟨_, -, fresh⟩
  · obtain ⟨_, was, rowStep⟩ := step.row member
    obtain ⟨stored, kept, -, rfl⟩ := (mem_nodes_jobDetail recorded).1 was
    have named : stored.id = row.id := rowStep.id.symm
    rcases rowStep.status with same | ⟨-, change⟩
    · refine absurd (statusOf_eq_some.2 ⟨stored, kept, named, ?_⟩) before
      exact same.symm.trans queued
    · rw [show (nodeView row).status = .queued from queued] at change
      cases change with
      | queued _ _ pending => exact statusOf_eq_some.2 ⟨stored, kept, named, pending⟩
  · have pending := (fresh.pending _ member).1
    rw [show (nodeView row).status = .queued from queued] at pending
    cases pending

theorem claim_moves (granted : (exec env (.markGoNodeQueued id inputs) world).1 = .ok true) :
  statusOf world id = some .pending ∧
    statusOf (exec env (.markGoNodeQueued id inputs) world).2 id = some .queued := by
  cases works : env.fail with
  | some =>
    rw [exec, works] at granted
    cases granted
  | none =>
    rw [exec, works] at granted ⊢
    simp only [answer, markGoNodeQueued] at granted ⊢
    split at granted
    next chosen =>
      rw [if_pos chosen]
      obtain ⟨row, present, selected⟩ := List.any_eq_true.1 chosen
      obtain ⟨rfl, pending, -⟩ := of_decide_eq_true selected
      have found : world.database.nodeExecutions.find? row.id = some row :=
        Table.find?_eq_some_iff.2 ⟨present, rfl⟩
      refine ⟨statusOf_eq_some.2 ⟨row, present, rfl, pending⟩, ?_⟩
      rw [statusOf, Database.updateNodes, Table.find?_update, found,
        Option.map_some, Option.map_some, if_pos selected]
    · split at granted <;> cases granted

theorem statusOf_dispatch (payload : TaskPayload) :
  statusOf (exec env (.dispatch payload) world).2 id = statusOf world id := by
  cases works : env.fail with
  | some => rw [exec, works]
  | none => rw [exec, works]; rfl

theorem statusOf_faulty_dispatch (choice : Env × Option Fault) (payload : TaskPayload) :
  statusOf (faulty.exec choice (.dispatch payload) world).2 id = statusOf world id :=
  interrupt_state (fun after => statusOf after id = statusOf world id) rfl
    (statusOf_dispatch payload)

/-- Every dispatch stands on a claim of the same operation that no other
dispatch stands on, and every release on a refused dispatch. -/
inductive Paired : List Entry → Prop
  | nil : Paired []
  | claimed {id : Uuid} {history : List Entry}
    (idle : inProgress history = none) (older : Paired history) :
    Paired (.claimed id :: history)
  | delivered {id : Uuid} {history : List Entry}
    (older : Paired (.claimed id :: history)) :
    Paired (.delivered id :: .claimed id :: history)
  | refused {id : Uuid} {history : List Entry}
    (older : Paired (.claimed id :: history)) :
    Paired (.refused id :: .claimed id :: history)
  | released {id : Uuid} {history : List Entry}
    (older : Paired (.refused id :: history)) :
    Paired (.released id :: .refused id :: history)

/-- Until another returns it, the node execution is not pending and nobody else
has queued it; afterwards it is queued only by another. -/
structure Holding (world : World) (id : Uuid) (heard : Heard) : Prop where
  kept : id ∉ heard.returned → statusOf world id ≠ some .pending ∧ id ∉ heard.queued
  lost : id ∈ heard.returned → statusOf world id = some .queued → id ∈ heard.queued

theorem Holding.congr (holding : Holding world id heard)
  (same : statusOf after id = statusOf world id) :
  Holding after id heard := by
  refine ⟨?_, ?_⟩
  · rw [same]
    exact holding.kept
  · rw [same]
    exact holding.lost

theorem Holding.hear (holding : Holding world id heard) (queues : statusOf world id ≠ some .queued →
  statusOf after id = some .queued → statusOf world id = some .pending) :
  Holding after id (bystander.hear heard world after) := by
  simp only [bystander]
  constructor
  · intro unreturned
    rw [List.mem_append, not_or, mem_entering] at unreturned
    obtain ⟨before, still⟩ := holding.kept unreturned.1
    refine ⟨fun pending => unreturned.2 ⟨before, pending⟩, ?_⟩
    rw [List.mem_append, not_or, mem_entering]
    exact ⟨still, fun entered => before (queues entered.1 entered.2)⟩
  · intro returned queued
    rw [List.mem_append, mem_entering] at returned ⊢
    by_cases already : statusOf world id = some .queued
    · -- It stayed queued, so the return lies further back.
      refine .inl (holding.lost (returned.resolve_right fun entered => ?_) already)
      rw [queued] at entered
      cases entered.2
    · exact .inr ⟨already, queued⟩

structure Sound (world : World) (books : List (List Entry × Heard)) : Prop where
  linked : Linked world.database
  paired : ∀ book ∈ books, Paired book.1
  holding : ∀ book ∈ books, ∀ id, inProgress book.1 = some id → Holding world id book.2

theorem paired_record (paired : Paired history)
  (permitted : Permitted history call) (reply : Except String call.Result) :
  Paired (record history call reply) := by
  cases call with
  | markGoNodeQueued =>
    cases reply with
    | error => exact paired
    | ok claimed =>
      cases claimed with
      | false => exact paired
      | true => exact .claimed permitted paired
  | dispatch =>
    obtain ⟨_, rfl⟩ := permitted
    cases reply with
    | error => exact .refused paired
    | ok => exact .delivered paired
  | releaseGoNodeQueueClaim =>
    obtain ⟨_, rfl⟩ := permitted
    exact .released paired
  | _ => exact paired

theorem holding_record (holding : ∀ id, inProgress history = some id → Holding world id heard)
  (permitted : Permitted history call)
  (progress : inProgress (record history call (faulty.exec choice call world).1) = some id) :
  Holding (faulty.exec choice call world).2 id
    (bystander.resume heard call (faulty.exec choice call world).1) := by
  have interrupted (idle : inProgress history = none)
    (same : record history call (faulty.exec choice call world).1 = history) : False := by
    rw [same, idle] at progress
    cases progress
  generalize replied : (faulty.exec choice call world).1 = reply at *
  cases call with
  | markGoNodeQueued _ inputs =>
    cases reply with
    | error => exact (interrupted permitted rfl).elim
    | ok claimed =>
      cases claimed with
      | false => exact (interrupted permitted rfl).elim
      | true =>
        cases Option.some.inj progress
        have whole := interrupt_eq_ok replied
        have granted : (exec choice.1 (.markGoNodeQueued id inputs) world).1 = .ok true :=
          whole ▸ replied
        have queued := (claim_moves granted).2
        rw [show faulty.exec choice (.markGoNodeQueued id inputs) world = _ from whole]
        refine ⟨fun _ => ⟨?_, List.not_mem_nil⟩, fun returned =>
          absurd returned List.not_mem_nil⟩
        rw [queued]
        decide
  | dispatch payload =>
    obtain ⟨_, rfl⟩ := permitted
    cases reply with
    | error =>
      cases Option.some.inj progress
      exact (holding _ rfl).congr (statusOf_faulty_dispatch choice payload)
    | ok => cases progress
  | releaseGoNodeQueueClaim => cases progress
  | _ => exact (interrupted permitted rfl).elim

section

variable (sound : Sound world (front ++ (history, heard) :: back))

include sound

theorem Sound.answered (permitted : Permitted history call) :
  let answer := faulty.exec choice call world
  Sound answer.2 (front.map (Pool.listenBooks bystander world answer.2) ++
    (record history call answer.1, bystander.resume heard call answer.1) ::
    back.map (Pool.listenBooks bystander world answer.2)) := by
  intro answer
  have own : (history, heard) ∈ front ++ (history, heard) :: back := by simp
  have queues (id : Uuid) : statusOf world id ≠ some .queued → statusOf answer.2 id = some .queued →
    statusOf world id = some .pending := by
    refine interrupt_state (fun after : World =>
      statusOf world id ≠ some .queued → statusOf after id = some .queued →
        statusOf world id = some .pending) (fun before after => ?_) ?_
    · exact absurd after before
    · exact pending_of_queued sound.linked
  have split {book : List Entry × Heard}
    (member : book ∈ front.map (Pool.listenBooks bystander world answer.2) ++
      (record history call answer.1, bystander.resume heard call answer.1) ::
      back.map (Pool.listenBooks bystander world answer.2)) :
    (∃ other ∈ front ++ (history, heard) :: back,
      book = Pool.listenBooks bystander world answer.2 other) ∨
    book = (record history call answer.1, bystander.resume heard call answer.1) := by
    simp only [List.mem_append, List.mem_cons, List.mem_map] at member ⊢
    rcases member with ⟨other, present, rfl⟩ | rfl | ⟨other, present, rfl⟩
    · exact .inl ⟨other, .inl present, rfl⟩
    · exact .inr rfl
    · exact .inl ⟨other, .inr (.inr present), rfl⟩
  refine ⟨?_, fun book member => ?_, fun book member id progress => ?_⟩
  · exact interrupt_state (fun after : World => Linked after.database)
      sound.linked (sound.linked.exec choice.1 call)
  · rcases split member with ⟨other, present, rfl⟩ | rfl
    · exact sound.paired other present
    · exact paired_record (sound.paired _ own) permitted _
  · rcases split member with ⟨other, present, rfl⟩ | rfl
    · exact (sound.holding other present id progress).hear (queues id)
    · exact holding_record (sound.holding _ own) permitted progress

theorem Sound.leave : Sound world (front ++ back) := by
  have inside {book : List Entry × Heard} (member : book ∈ front ++ back) :
    book ∈ front ++ (history, heard) :: back :=
    mem_of_others member
  exact ⟨sound.linked, fun book member => sound.paired book (inside member),
    fun book member => sound.holding book (inside member)⟩

end

theorem Sound.start (sound : Sound world books) :
  Sound world (books ++ [([], bystander.silent)]) := by
  refine ⟨sound.linked, fun book member => ?_, fun book member id progress => ?_⟩
  · rcases List.mem_append.1 member with old | new
    · exact sound.paired book old
    · rw [List.mem_singleton.1 new]
      exact .nil
  · rcases List.mem_append.1 member with old | new
    · exact sound.holding book old id progress
    · rw [List.mem_singleton.1 new] at progress
      cases progress

theorem invariant_sound : Pool.Invariant faulty bystander anything discipline
  (fun _ => True) Sound where
  start := by
    rintro _ _ _ _ sound ⟨⟨activity, rfl⟩, rfl⟩
    exact ⟨Prog.wp_mono (disciplined_program activity [] rfl) fun _ _ _ => trivial, sound.start⟩
  call sound permitted _ := ⟨rfl, sound.answered permitted⟩
  leave _ sound := sound.leave
  abandon _ _ := trivial

abbrev Operation := Thread storeInterface (List Entry) Heard
  (Except String Unit)

/-- The `QUEUED` state of the node execution was set by the claim of the
`dispatchNode` call that is about to release it: the claim is the operation's
last one, and nobody else has moved the node execution to `QUEUED` since. -/
def Owns (operation : Operation) (id : Uuid) : Prop :=
  (∃ older, operation.note = .refused id :: .claimed id :: older) ∧ id ∉ operation.heard.queued

/-- In every interleaving, from any database: a granted claim moves the node
execution from `PENDING` to `QUEUED`, every dispatch stands on a claim of its
own, and a release clears the operation's own claim exactly when no other
operation has returned the node execution to `PENDING` since the claim. -/
theorem queue_claim_ownership {initial : World}
  (linked : Linked initial.database) {pool : Interleaved}
  (reached : Pool.Reachable faulty bystander anything initial pool)
  {operation : Operation} (member : operation ∈ pool.threads) :
  (∀ env id inputs, (exec env (.markGoNodeQueued id inputs) pool.state).1 = .ok true →
    statusOf pool.state id = some .pending ∧
      statusOf (exec env (.markGoNodeQueued id inputs) pool.state).2 id = some .queued) ∧
  Paired operation.note ∧
  (∀ payload next, operation.program = .call (.dispatch payload) next →
    ∃ older, operation.note = .claimed payload.nodeExecutionID :: older) ∧
  ∀ id next, operation.program = .call (.releaseGoNodeQueueClaim id) next →
    statusOf pool.state id = some .queued →
    (Owns operation id ↔ id ∉ operation.heard.returned) := by
  have kept := Pool.Reachable.kept invariant_sound ⟨linked, by simp, by simp⟩ reached
  have booked : Pool.Thread.books operation ∈ pool.threads.map Pool.Thread.books :=
    List.mem_map_of_mem member
  have paired := kept.invariant.paired _ booked
  have promise := kept.promises operation member
  refine ⟨fun env id inputs => claim_moves, paired, ?_, ?_⟩
  · intro payload next asks
    rw [asks] at promise
    exact promise.1
  · intro id next asks queued
    rw [asks] at promise
    obtain ⟨_, refused⟩ := promise.1
    change Paired operation.note at paired
    have progress : inProgress operation.note = some id := by rw [refused]; rfl
    have holding := kept.invariant.holding _ booked id progress
    rw [refused] at paired
    cases paired with
    | refused =>
      constructor
      · intro owns returned
        exact owns.2 (holding.lost returned queued)
      · intro unreturned
        exact ⟨⟨_, refused⟩, (holding.kept unreturned).2⟩

def anySchedule : Pool.Checks storeInterface World (Env × Option Fault)
  (List Entry) Heard (Except String Unit) Activity where
  program activity := activity.program.run
  note _ := []
  start _ _ := true
  call _ _ _ _ _ := true
  abandon _ := true

theorem sound_anySchedule : anySchedule.Sound anything where
  start _ activity _ := ⟨⟨activity, rfl⟩, rfl⟩
  call _ _ _ _ _ _ := trivial
  abandon _ _ := trivial

def works : Env × Option Fault := (calm, none)

def fails : Env × Option Fault := ({ calm with fail := some "stream" }, none)

/-- A job is started up to the claim of its first node. -/
def claiming : List (Pool.Action (Env × Option Fault) Activity) :=
  [.start (.createGoJob (chain "transcode")), .call 0 works, .finish 0,
    .start (.startJob 1), .call 0 works, .call 0 works, .call 0 works,
    .call 0 works, .call 0 works]

def releasing (pool : Interleaved) (id : Uuid) : Option Operation :=
  pool.threads.head?.filter fun operation =>
    match operation.program with
    | .call (.releaseGoNodeQueueClaim other) _ => other = id
    | _ => false

theorem of_releasing (found : releasing pool id = some operation) : operation ∈ pool.threads ∧
  ∃ next, operation.program = .call (.releaseGoNodeQueueClaim id) next := by
  obtain ⟨head, asks⟩ := Option.filter_eq_some_iff.1 found
  refine ⟨List.mem_of_mem_head? head, ?_⟩
  split at asks
  next next program =>
    cases of_decide_eq_true asks
    exact ⟨next, program⟩
  · cases asks

/-- The dispatch fails at once, and the release clears the operation's own
claim. -/
theorem queue_claim_ownership_chain : ∃ (pool : Interleaved)
  (operation : Operation), Linked World.initial.database ∧
  operation ∈ pool.threads ∧ statusOf pool.state 1 = some .queued ∧
  Owns operation 1 := by
  have ran : ((Pool.play faulty bystander anySchedule
    (claiming ++ [.call 0 fails]) ⟨World.initial, []⟩).any fun pool =>
      decide (statusOf pool.state 1 = some .queued) &&
      (releasing pool 1).any fun operation =>
        decide (1 ∉ operation.heard.returned)) = true := by
    decide +kernel
  simp only [Option.any_eq_true_iff_get, Bool.and_eq_true, decide_eq_true_eq] at ran
  obtain ⟨reached, queued, released, unreturned⟩ := ran
  obtain ⟨member, next, asks⟩ := of_releasing (Option.some_get released).symm
  have steps := Pool.steps_of_play sound_anySchedule (Option.some_get reached).symm
  exact ⟨_, _, linked_initial, member, queued,
    ((queue_claim_ownership linked_initial steps member).2.2.2 1 next asks queued).2 unreturned⟩

/-- While the dispatch of the first claim is on its way, a recovery resets the
node execution, claims it again and dispatches it; then the first dispatch
fails. -/
def resetMeanwhile : List (Pool.Action (Env × Option Fault) Activity) :=
  claiming ++ [.start (.runOnce 1 0), .call 1 works, .call 1 works, .call 1 works,
    .call 1 works, .call 1 works, .call 1 works, .call 1 works,
    .call 1 works, .call 0 fails]

/-- The release clears the claim of the recovery, whose task is on the
stream. -/
theorem release_clears_other_claim : ∃ (pool : Interleaved) (operation : Operation),
  Pool.Reachable faulty bystander anything World.initial pool ∧
  operation ∈ pool.threads ∧
  (∃ next, operation.program = .call (.releaseGoNodeQueueClaim 1) next) ∧
  statusOf pool.state 1 = some .queued ∧
  statusOf (exec calm (.releaseGoNodeQueueClaim 1) pool.state).2 1 = some .pending ∧
  (∃ task ∈ pool.state.tasks, task.nodeExecutionID = 1) ∧
  ¬ Owns operation 1 := by
  have ran : ((Pool.play faulty bystander anySchedule resetMeanwhile
    ⟨World.initial, []⟩).any fun pool =>
      decide (statusOf pool.state 1 = some .queued ∧
        statusOf (exec calm (.releaseGoNodeQueueClaim 1) pool.state).2 1 = some .pending ∧
        ∃ task ∈ pool.state.tasks, task.nodeExecutionID = 1) &&
      (releasing pool 1).any fun operation =>
        decide (1 ∈ operation.heard.queued)) = true := by
    decide +kernel
  simp only [Option.any_eq_true_iff_get, Bool.and_eq_true, decide_eq_true_eq] at ran
  obtain ⟨reached, ⟨queued, cleared, dispatched⟩, released, other⟩ := ran
  obtain ⟨member, asks⟩ := of_releasing (Option.some_get released).symm
  exact ⟨_, _, Pool.steps_of_play sound_anySchedule
    (Option.some_get reached).symm, member, asks, queued, cleared, dispatched,
    fun owns => owns.2 other⟩

end QueueClaim

end VideoProcess.Go
