import VideoProcess.Go.Protocol

namespace VideoProcess.Go

open Data Program Fallible JobView List

/-! The orchestrator, its users and its workers, interleaved request by
request. -/

inductive Activity where
  | startJob (jobID : Uuid)
  | handle (event : Event)
  | runOnce (now staleNodeAge : Nat)
  | createGoJob (snapshot : PipelineDefinition)
  | cancelJob (jobID : Uuid)
  | setVideoScheduleState (state : ScheduleState)
  | openVideoScheduleForJob (expectedJobID : Uuid)
  | markNodeRunning (nodeExecutionID : Uuid) (workerID : String)

namespace Activity

def program : Activity → Op Unit
  | .startJob jobID => Go.startJob jobID
  | .handle event => Go.handle event
  | .runOnce now staleNodeAge => Go.runOnce now staleNodeAge
  | .createGoJob snapshot => discard (EngineStore.request (.createGoJob snapshot))
  | .cancelJob jobID => EngineStore.request (.cancelJob jobID)
  | .setVideoScheduleState state => EngineStore.request (.setVideoScheduleState state)
  | .openVideoScheduleForJob expectedJobID =>
    EngineStore.request (.openVideoScheduleForJob expectedJobID)
  | .markNodeRunning nodeExecutionID workerID =>
    EngineStore.request (.markNodeRunning nodeExecutionID workerID)

def note : Activity → Note
  | .handle event => .handler event.jobID
  | _ => .idle

/-- Jobs are created from snapshots that validation accepted. -/
def Valid : Activity → Prop
  | .createGoJob snapshot => snapshot.WellFormed ∧ Graph.Acyclic snapshot.Edge
  | _ => True

theorem follows_program (activity : Activity) (valid : activity.Valid) :
  follows activity.program activity.note fun _ after => after.Clear := by
  cases activity with
  | startJob jobID => exact follows_startJob Note.clear_idle jobID
  | handle event => exact follows_handle event
  | runOnce => exact follows_runOnce Note.clear_idle _ _
  | createGoJob =>
    exact safe_bind (follows_plain Note.clear_idle valid (fun _ => rfl)
      fun _ => safe_pure Note.clear_idle)
  | cancelJob jobID =>
    have alone : Note.idle.Allows (.cancelJob jobID) := rfl
    exact follows_plain Note.clear_idle alone (fun _ => rfl) fun _ => Note.clear_idle
  | setVideoScheduleState state =>
    have free : Note.idle.Allows (.setVideoScheduleState state) := trivial
    exact follows_plain Note.clear_idle free (fun _ => rfl) fun _ => Note.clear_idle
  | openVideoScheduleForJob expectedJobID =>
    have free : Note.idle.Allows (.openVideoScheduleForJob expectedJobID) := trivial
    exact follows_plain Note.clear_idle free (fun _ => rfl) fun _ => Note.clear_idle
  | markNodeRunning nodeExecutionID workerID =>
    have free : Note.idle.Allows (.markNodeRunning nodeExecutionID workerID) := trivial
    exact follows_plain Note.clear_idle free (fun _ => rfl) fun _ => Note.clear_idle

def Starts (permits : Activity → Prop)
  (program : Prog storeInterface (Except String Unit)) (note : Note) : Prop :=
  ∃ activity : Activity, activity.Valid ∧ permits activity ∧
    program = activity.program.run ∧ note = activity.note

section

variable {permits : Activity → Prop}
  {program : Prog storeInterface (Except String Unit)} {note : Note}
  (starts : Starts permits program note)

include starts

theorem Starts.follows : program.wp protocol (fun _ => Note.Clear) note := by
  obtain ⟨activity, valid, -, rfl, rfl⟩ := starts
  refine Prog.wp_mono (follows_program activity valid) fun result after holds => ?_
  cases result with
  | ok | error => exact holds

theorem Starts.forgetful : note.view = none ∧ note.known = none ∧ note.Clear := by
  obtain ⟨activity, -, -, -, rfl⟩ := starts
  cases activity <;> exact ⟨rfl, rfl, rfl⟩

end

end Activity

def finished (database : Database) : List Uuid :=
  (database.nodeExecutions.rows.filter fun row => row.status.isTerminal).map NodeExecutionRow.id

def overhear (heard : List Uuid) (before after : World) : List Uuid :=
  heard ++ (finished after.database).filter fun id =>
    id ∉ finished before.database

def observer : Observer storeInterface World Note (List Uuid) where
  note := Note.next
  silent := []
  resume heard call reply :=
    match call, reply with
    | .getJobDetail _, .ok _ => []
    | _, _ => heard
  hear := overhear

theorem mem_finished {job : JobView}
  (found : jobDetail database jobID = some job) (member : node ∈ job.nodes) :
  node.id ∈ finished database ↔ node.status.isTerminal = true := by
  obtain ⟨row, present, -, rfl⟩ := (mem_nodes_jobDetail found).1 member
  simp only [finished, mem_map, mem_filter]
  constructor
  · rintro ⟨_, ⟨otherPresent, _⟩, same⟩
    rwa [← database.nodeExecutions.eq_of_key_eq otherPresent present same]
  · exact fun terminal => ⟨row, ⟨present, terminal⟩, rfl⟩

variable {env : Env} {call : Call} {world : World} {jobID : Uuid} {job current view : JobView}

structure RecordStep (env : Env) (call : Call) (world : World) (job current : JobView) : Prop where
  found : jobDetail (exec env call world).2.database job.id = some current
  effect : ∃ stale, current = job.after stale call (exec env call world).1

structure RowStep (job : JobView) (call : Call)
  (reply : Except String call.Result) (row after : NodeExecutionView) :
  Prop where
  fixed : after.fixed = row.fixed
  status : after.status = row.status ∨
    (∃ result, reply = .ok result) ∧ StatusChange job call row after.status

variable {reply : Except String call.Result}
  {front back : List (Note × List Uuid)} {heard : List Uuid}
  {related : List Uuid → Uuid → NodeStatus → NodeStatus → Prop} {after : NodeExecutionView}

theorem RowStep.id (step : RowStep job call reply row after) : after.id = row.id :=
  congrArg Prod.fst step.fixed

theorem RowStep.nodeID (step : RowStep job call reply row after) : after.nodeID = row.nodeID :=
  congrArg (fun columns => columns.2.1) step.fixed

namespace RecordStep

theorem of_found (env : Env) (call : Call) (found : jobDetail world.database jobID = some job) :
  ∃ current, RecordStep env call world job current := by
  obtain ⟨stale, changed⟩ := exec_jobDetail env call found
  rw [← jobDetail_id found] at changed
  exact ⟨_, changed, stale, rfl⟩

variable (step : RecordStep env call world job current)

include step

theorem fixed : current.fixed = job.fixed := by
  obtain ⟨_, rfl⟩ := step.effect
  exact fixed_after _ _

theorem id_eq : current.id = job.id := congrArg Fixed.id step.fixed

theorem snapshot : current.pipelineSnapshot = job.pipelineSnapshot :=
  congrArg Fixed.pipelineSnapshot step.fixed

theorem change : (current.status = job.status ∧ current.executionPlan = job.executionPlan) ∨
  JobChange job call (exec env call world).1 current.status current.executionPlan := by
  obtain ⟨_, rfl⟩ := step.effect
  exact jobChange_after _ _

theorem row (member : after ∈ current.nodes) :
  ∃ row ∈ job.nodes, RowStep job call (exec env call world).1 row after := by
  obtain ⟨stale, rfl⟩ := step.effect
  obtain ⟨_, nodes, keeps, statuses⟩ := @nodesMove_after call (exec env call world).1 job stale
  rw [nodes, mem_map] at member
  obtain ⟨row, present, rfl⟩ := member
  exact ⟨row, present, keeps row, statuses row present⟩

theorem image {row : NodeExecutionView} (member : row ∈ job.nodes) : ∃ after ∈ current.nodes,
  RowStep job call (exec env call world).1 row after := by
  obtain ⟨stale, rfl⟩ := step.effect
  obtain ⟨move, nodes, keeps, statuses⟩ := @nodesMove_after call (exec env call world).1 job stale
  refine ⟨move row, ?_, keeps row, statuses row member⟩
  rw [nodes]
  exact mem_map_of_mem member

end RecordStep

theorem record_cases (linked : Linked world.database) (env : Env) (call : Call)
  (found : jobDetail (exec env call world).2.database jobID = some current) :
  (∃ job, jobDetail world.database jobID = some job ∧ RecordStep env call world job current) ∨
  ∃ snapshot, call = .createGoJob snapshot ∧ current.Fresh snapshot := by
  cases present : jobDetail world.database jobID with
  | some job =>
    obtain ⟨_, step⟩ := RecordStep.of_found env call present
    refine .inl ⟨job, rfl, ?_⟩
    have same := step.found
    rw [jobDetail_id present, found] at same
    cases same
    exact step
  | none => exact .inr (exec_created linked env call present found)

def Records (property : JobView → Prop) (world : World) : Prop :=
  ∀ jobID job, jobDetail world.database jobID = some job → job.isGo = true → property job

theorem Records.exec (records : Records property world)
  (linked : Linked world.database) (env : Env) (call : Call)
  (kept : ∀ job current, jobDetail world.database job.id = some job →
    job.isGo = true → property job → RecordStep env call world job current →
    property current)
  (created : ∀ snapshot job, call = .createGoJob snapshot →
    jobDetail (exec env call world).2.database job.id = some job →
    job.Fresh snapshot → property job) :
  Records property (exec env call world).2 := by
  intro jobID current found go
  rcases record_cases linked env call found with
    ⟨job, present, step⟩ | ⟨snapshot, creates, fresh⟩
  · have owned : job.isGo = true := (isGo_of_fixed step.fixed).symm.trans go
    have named := jobDetail_id present
    subst named
    exact kept job current present owned (records _ job present owned) step
  · exact created snapshot current creates (jobDetail_id found ▸ found) fresh

def Sees (related : Uuid → NodeStatus → NodeStatus → Prop)
  (world : World) (view : JobView) : Prop :=
  ∃ record, jobDetail world.database view.id = some record ∧ record.fixed = view.fixed ∧
    ∀ node ∈ view.nodes, ∀ row ∈ record.nodes, row.id = node.id →
      related row.id node.status row.status

structure RowChange (env : Env) (call : Call) (world : World)
  (record current : JobView) (row after : NodeExecutionView) : Prop where
  found : jobDetail world.database record.id = some record
  step : RecordStep env call world record current
  member : row ∈ record.nodes
  present : after ∈ current.nodes
  fixed : after.fixed = row.fixed
  worked : ∃ result, (exec env call world).1 = .ok result
  change : StatusChange record call row after.status

theorem RowChange.id (changes : RowChange env call world record current row after) :
  after.id = row.id := congrArg Prod.fst changes.fixed

namespace Sees

variable {related related' : Uuid → NodeStatus → NodeStatus → Prop}

theorem exec (sees : Sees related world view) (env : Env) (call : Call)
  (weaker : ∀ id seen status, related id seen status → related' id seen status)
  (kept : ∀ record current row after, RowChange env call world record current row after →
    ∀ seen, related row.id seen row.status → related' row.id seen after.status) :
  Sees related' (exec env call world).2 view := by
  obtain ⟨record, found, fixed, relation⟩ := sees
  obtain ⟨current, step⟩ := RecordStep.of_found env call found
  have named : record.id = view.id := congrArg Fixed.id fixed
  refine ⟨current, named ▸ step.found, step.fixed.trans fixed, ?_⟩
  intro node member after present same
  obtain ⟨row, was, rowStep⟩ := step.row present
  have held := relation node member row was (rowStep.id.symm.trans same)
  rw [rowStep.id]
  rcases rowStep.status with unchanged | ⟨worked, change⟩
  · rw [unchanged]
    exact weaker _ _ _ held
  · exact kept record current row after ⟨named ▸ found, step, was, present,
      rowStep.fixed, worked, change⟩ _ held

theorem refl (found : jobDetail world.database job.id = some job)
  (reflexive : ∀ id status, related id status status) :
  Sees related world job := by
  refine ⟨job, found, rfl, fun node member row present same => ?_⟩
  rw [inj_on_of_nodup_map (nodup_nodes_jobDetail found) present member same]
  exact reflexive _ _

theorem complete (sees : Sees related world view) (go : view.isGo = true) (replied : (Go.exec env
  (.createSourceArtifact view.id nodeExecutionID assetID) world).1 =
    .ok artifactID) (succeeded : ∀ id, related id .succeeded .succeeded) :
  Sees related (Go.exec env (.createSourceArtifact view.id nodeExecutionID assetID)
    world).2 (view.setNode nodeExecutionID (complete artifactID)) := by
  obtain ⟨record, found, fixed, relation⟩ := sees
  have named : record.id = view.id := congrArg Fixed.id fixed
  have owned : record.isGo = true := (isGo_of_fixed fixed).trans go
  obtain ⟨_, changed⟩ := exec_jobDetail env
    (.createSourceArtifact view.id nodeExecutionID assetID) found
  rw [replied] at changed
  simp only [JobView.after, updated, if_pos (And.intro named owned)] at changed
  refine ⟨record.setNode nodeExecutionID (JobView.complete artifactID), changed, ?_, ?_⟩
  · have kept (other : JobView) : (other.setNode nodeExecutionID
      (JobView.complete artifactID)).fixed = other.fixed :=
      fixed_changeNodes keeps_complete
    rw [kept, kept, fixed]
  · intro node member row present same
    obtain ⟨node, was, rfl⟩ := mem_mapNodes.1 member
    obtain ⟨row, stood, rfl⟩ := mem_mapNodes.1 present
    by_cases target : node.id = nodeExecutionID
    · have rowTarget : row.id = nodeExecutionID := by
        by_contra other
        simp only [decide_eq_true_eq, if_pos target, if_neg other] at same
        exact other (same.trans target)
      simp only [decide_eq_true_eq, if_pos target, if_pos rowTarget]
      exact succeeded _
    · have rowOther : ¬ row.id = nodeExecutionID := by
        intro rowTarget
        simp only [decide_eq_true_eq, if_neg target, if_pos rowTarget] at same
        exact target (same.symm.trans rowTarget)
      simp only [decide_eq_true_eq, if_neg target, if_neg rowOther] at same ⊢
      exact relation node was row stood same

end Sees

def Call.finishes : Call → Bool
  | .createSourceArtifact _ _ _ | .markGoNodeSucceeded _ _ _
  | .markGoNodeFailed _ _ _ | .skipGoDownstreamNodes _ _ => true
  | _ => false

inductive NextView (note : Note) : (call : Call) → Except String call.Result → JobView → Prop
  | read {jobID : Uuid} {job : JobView} :
    NextView note (.getJobDetail jobID) (.ok job) job
  | resolved {jobID nodeExecutionID artifactID : Uuid} {assetID : String}
    {view : JobView} (shown : note.view = some view) :
    NextView note (.createSourceArtifact jobID nodeExecutionID assetID)
      (.ok artifactID) (view.setNode nodeExecutionID (complete artifactID))
  | kept {call : Call} {reply : Except String call.Result} {view : JobView}
    (shown : note.view = some view)
    (listens : ∀ heard, observer.resume heard call reply = heard)
    (unfinished : ∀ result, reply = .ok result → call.finishes = false) :
    NextView note call reply view

variable {note : Note}

theorem nextView (call : Call) (reply : Except String call.Result)
  (shown : (note.next call reply).view = some view) :
  NextView note call reply view := by
  cases reply with
  | error =>
    refine .kept ?_ ?_ fun _ worked => by cases worked
    · cases call <;> first | exact shown | cases shown
    · cases call <;> exact fun _ => rfl
  | ok result =>
    cases call with
    | getJobDetail =>
      cases shown
      exact .read
    | createSourceArtifact =>
      obtain ⟨_, present, rfl⟩ := Option.map_eq_some_iff.1 shown
      exact .resolved present
    | claimGoJobPlanning =>
      refine .kept ?_ (fun _ => rfl) fun _ _ => rfl
      cases result <;> exact shown
    | markGoNodeSucceeded | markGoNodeFailed => cases shown
    | incrementGoNodeRetry | skipGoDownstreamNodes => cases shown
    | _ => exact .kept shown (fun _ => rfl) fun _ _ => rfl

theorem nextKnown (call : Call) (reply : Except String call.Result) {fixed : JobView.Fixed}
  (known : (note.next call reply).known = some fixed) :
  note.known = some fixed ∨
    ∃ view, (note.next call reply).view = some view ∧ view.fixed = fixed := by
  cases reply with
  | error => exact .inl (by cases call <;> exact known)
  | ok result =>
    cases call with
    | getJobDetail =>
      by_cases go : JobView.isGo result = true
      · change (if JobView.isGo result then some (JobView.fixed result)
          else note.known) = some fixed at known
        rw [if_pos go] at known
        exact .inr ⟨result, rfl, Option.some.inj known⟩
      · change (if JobView.isGo result then some (JobView.fixed result)
          else note.known) = some fixed at known
        rw [if_neg go] at known
        exact .inl known
    | claimGoJobPlanning => cases result <;> exact .inl known
    | _ => exact .inl known

def Call.skips : Call → Bool
  | .skipGoDownstreamNodes _ _ => true
  | _ => false

theorem Note.Permits.allows (permits : note.Permits call)
  (other : call.skips = false) : note.Allows call := by
  unfold Note.Permits at permits
  split at permits
  · rw [permits] at other
    cases other
  · exact permits

theorem StatusChange.finishes {status : NodeStatus} (change : StatusChange job call row status)
  (terminal : status.isTerminal = true) :
  call.finishes = true ∨ ∃ jobID, call = .cancelJob jobID := by
  cases change with
  | cancelled => exact .inr ⟨_, rfl⟩
  | queued | released | retried | reset | running => cases terminal
  | _ => exact .inl rfl

/-- A relation that requests of other operations and requests that finish
nothing keep. -/
structure Stable (env : Env) (call : Call) (world : World)
  (related : List Uuid → Uuid → NodeStatus → NodeStatus → Prop) : Prop where
  read : ∀ id status, related [] id status status
  succeeded : ∀ heard id, related heard id .succeeded .succeeded
  hears : ∀ heard more id seen status, related heard id seen status →
    related (heard ++ more) id seen status
  others : ∀ heard record current row after, RowChange env call world record current row after →
    ∀ seen, related heard row.id seen row.status →
      related (overhear heard world (exec env call world).2) row.id seen after.status
  own : ∀ heard record current row after, RowChange env call world record current row after →
    ¬ call.finishes = true → (∀ jobID, call ≠ .cancelJob jobID) →
    ∀ seen, related heard row.id seen row.status → related heard row.id seen after.status

def Views (related : List Uuid → Uuid → NodeStatus → NodeStatus → Prop)
  (world : World) (books : List (Note × List Uuid)) : Prop :=
  ∀ book ∈ books, ∀ view, book.1.view = some view → Sees (related book.2) world view

def booksAfter (env : Env) (call : Call) (world : World)
  (front back : List (Note × List Uuid)) (note : Note) (heard : List Uuid) :
  List (Note × List Uuid) :=
  let answer := exec env call world
  front.map (Pool.listenBooks observer world answer.2) ++
    (note.next call answer.1, observer.resume heard call answer.1) ::
    back.map (Pool.listenBooks observer world answer.2)

theorem mem_booksAfter (member : book ∈ booksAfter env call world front back note heard) :
  (∃ other ∈ front ++ (note, heard) :: back, book =
    (other.1, overhear other.2 world (exec env call world).2)) ∨
  book = (note.next call (exec env call world).1,
    observer.resume heard call (exec env call world).1) := by
  simp only [booksAfter, mem_append, mem_cons, mem_map] at member ⊢
  rcases member with ⟨other, present, rfl⟩ | rfl | ⟨other, present, rfl⟩
  · exact .inl ⟨other, .inl present, rfl⟩
  · exact .inr rfl
  · exact .inl ⟨other, .inr (.inr present), rfl⟩

theorem mem_booksAfter_of_other (member : book ∈ front ++ (note, heard) :: back)
  (other : book ≠ (note, heard)) :
  (book.1, overhear book.2 world (exec env call world).2) ∈
    booksAfter env call world front back note heard := by
  simp only [booksAfter, mem_append, mem_cons, mem_map] at member ⊢
  rcases member with ahead | own | behind
  · exact .inl ⟨book, ahead, rfl⟩
  · exact (other own).elim
  · exact .inr (.inr ⟨book, behind, rfl⟩)

theorem mem_booksAfter_own : (note.next call (exec env call world).1,
  observer.resume heard call (exec env call world).1) ∈
    booksAfter env call world front back note heard := by
  simp [booksAfter]

theorem Views.start {books : List (Note × List Uuid)}
  (views : Views related world books) (unread : note.view = none) :
  Views related world (books ++ [(note, [])]) := by
  intro book member view shown
  rcases mem_append.1 member with old | new
  · exact views book old view shown
  · rw [mem_singleton.1 new, unread] at shown
    cases shown

theorem Views.exec (views : Views related world (front ++ (note, heard) :: back))
  (permits : note.Permits call) (stable : Stable env call world related) :
  Views related (exec env call world).2 (booksAfter env call world front back note heard) := by
  intro book member view shown
  rcases mem_booksAfter member with ⟨other, present, rfl⟩ | rfl
  · exact (views other present view shown).exec env call
      (fun _ _ _ => stable.hears _ _ _ _ _) (stable.others _)
  · dsimp only at shown ⊢
    have own := views (note, heard) (by simp)
    generalize replied : (Go.exec env call world).1 = reply at shown ⊢
    cases nextView call reply shown with
    | read =>
      obtain ⟨found, unchanged⟩ := getJobDetail_found replied
      rw [unchanged]
      exact .refl (jobDetail_id found ▸ found) stable.read
    | resolved seen =>
      obtain ⟨_, shown', rfl, go, -⟩ := permits.allows rfl
      cases seen.symm.trans shown'
      exact (own _ seen).complete go replied (stable.succeeded heard)
    | kept seen listens unfinished =>
      rw [listens]
      refine (own _ seen).exec env call (fun _ _ _ held => held)
        fun record current row after changes => ?_
      refine stable.own heard record current row after changes ?_ ?_
      · obtain ⟨result, worked⟩ := changes.worked
        rw [unfinished result (replied.symm.trans worked)]
        exact Bool.false_ne_true
      · rintro _ rfl
        cases seen.symm.trans (permits.allows rfl)

def unfinished (heard : List Uuid) (id : Uuid) (seen status : NodeStatus) : Prop :=
  seen.isActive = true → status.isActive = true ∨ id ∈ heard

theorem stable_unfinished (env : Env) (call : Call) (world : World) :
  Stable env call world unfinished where
  read _ _ active := .inl active
  succeeded _ _ active := by cases active
  hears heard more id seen status held active :=
    (held active).imp_right fun known => mem_append_left _ known
  others heard record current row after changes seen held active := by
    rcases held active with still | known
    · by_cases moving : after.status.isActive = true
      · exact .inl moving
      · refine .inr (mem_append_right _ (mem_filter.2 ⟨?_, ?_⟩))
        · rw [← changes.id, mem_finished changes.step.found changes.present]
          simpa [NodeStatus.isActive_eq_not_isTerminal] using moving
        · simp only [decide_eq_true_eq, mem_finished changes.found changes.member]
          exact NodeStatus.not_isTerminal still
    · exact .inr (mem_append_left _ known)
  own heard record current row after changes unfinishing uncancelled seen held active := by
    rcases held active with _ | known
    · refine .inl ?_
      by_contra stopped
      have terminal : after.status.isTerminal = true := by
        simpa [NodeStatus.isActive_eq_not_isTerminal] using stopped
      rcases changes.change.finishes terminal with finishing | ⟨jobID, cancels⟩
      · exact unfinishing finishing
      · exact uncancelled jobID cancels
    · exact .inr known

abbrev Interleaved := Pool storeInterface World Note (List Uuid)
  (Except String Unit)

abbrev InterleavingRules := Rules storeInterface World Env Note (List Uuid)
  (Except String Unit)

/-- No job of the Go orchestrator exists yet. -/
structure World.Blank (world : World) : Prop where
  linked : Linked world.database
  unowned : ∀ jobID job, jobDetail world.database jobID = some job → job.isGo = false
  untasked : world.tasks = []

theorem blank_initial : World.initial.Blank where
  linked := linked_initial
  unowned jobID job found := by
    have absent : jobDetail World.initial.database jobID = none := rfl
    rw [absent] at found
    cases found
  untasked := rfl

def unrestricted : InterleavingRules where
  start _ program note := Activity.Starts (fun _ => True) program note
  call _ _ _ _ _ := True
  abandon _ := True

def Activity.known : Activity → Bool
  | .createGoJob snapshot => snapshot = chain "transcode" ∨ snapshot = chain "source"
  | _ => true

theorem Activity.valid_of_known {activity : Activity}
  (known : activity.known = true) : activity.Valid := by
  cases activity with
  | createGoJob =>
    rcases of_decide_eq_true known with rfl | rfl
    · exact ⟨by decide, acyclic_chain _⟩
    · exact ⟨by decide, acyclic_chain _⟩
  | _ => trivial

def schedule (start : World → Activity → Bool) (call : List Uuid → Call → Env → World → Bool)
  (abandon : Prog storeInterface (Except String Unit) → Bool) :
  Pool.Checks storeInterface World Env Note (List Uuid) (Except String Unit) Activity where
  program activity := activity.program.run
  note := Activity.note
  start world activity := activity.known && start world activity
  call _ heard request env world := call heard request env world
  abandon := abandon

def free : Pool.Checks storeInterface World Env Note (List Uuid) (Except String Unit) Activity :=
  schedule (fun _ _ => true) (fun _ _ _ _ => true) fun _ => true

theorem sound_free : free.Sound unrestricted where
  start _ activity known :=
    ⟨activity, activity.valid_of_known (Bool.and_eq_true_iff.1 known).1, trivial, rfl, rfl⟩
  call _ _ _ _ _ _ := trivial
  abandon _ _ := trivial

/-- What every interleaving keeps: the records are sound, and what an operation
remembers of a job was true of it. -/
structure Coherent (world : World) (books : List (Note × List Uuid)) : Prop where
  linked : Linked world.database
  sound : Records (fun job => job.Sound ∧ Graph.Acyclic job.pipelineSnapshot.Edge) world
  known : ∀ book ∈ books, ∀ fixed, book.1.known = some fixed →
    ∃ record, jobDetail world.database fixed.id = some record ∧ record.fixed = fixed
  seen : Views unfinished world books

namespace Coherent

variable {front back books : List (Note × List Uuid)} {note : Note} {heard : List Uuid}

section

variable (coherent : Coherent world (front ++ (note, heard) :: back))

include coherent

private theorem planned (permits : note.Permits call) (sound : job.Sound)
  (found : jobDetail world.database job.id = some job)
  (step : RecordStep env call world job current) : current.Sound := by
  refine sound.of_fixed step.fixed fun plan stored => ?_
  rcases step.change with ⟨-, same⟩ | change
  · exact sound.planned plan (same ▸ stored)
  · generalize current.executionPlan = executionPlan at change stored
    generalize current.status = status at change
    generalize (exec env call world).1 = reply at change
    cases change with
    | claimed same =>
      obtain ⟨view, shown, named, rfl⟩ := permits.allows rfl
      obtain ⟨_, recorded, fixed, -⟩ := coherent.seen (note, heard) (by simp) view shown
      rw [named, ← same, found] at recorded
      cases recorded
      cases stored
      rw [show view.pipelineSnapshot = job.pipelineSnapshot from
        congrArg Fixed.pipelineSnapshot fixed.symm]
    | _ => exact sound.planned plan stored

theorem answered (permits : note.Permits call) : Coherent (exec env call world).2
  (booksAfter env call world front back note heard) := by
  have seen := coherent.seen.exec permits (stable_unfinished env call world)
  refine ⟨coherent.linked.exec env call, ?_, ?_, seen⟩
  · refine coherent.sound.exec coherent.linked env call ?_ ?_
    · intro job current found _ sound step
      refine ⟨coherent.planned permits sound.1 found step, ?_⟩
      rw [step.snapshot]
      exact sound.2
    · rintro _ _ rfl found fresh
      obtain ⟨formed, acyclic⟩ := permits.allows rfl
      exact ⟨fresh.sound found formed, fresh.snapshot_eq ▸ acyclic⟩
  · intro book member fixed known
    have remembered : ∀ other ∈ front ++ (note, heard) :: back, other.1.known = some fixed →
      ∃ record, jobDetail (exec env call world).2.database fixed.id =
        some record ∧ record.fixed = fixed := by
      intro other present known
      obtain ⟨_, found, same⟩ := coherent.known other present fixed known
      obtain ⟨current, step⟩ := RecordStep.of_found env call found
      exact ⟨current, jobDetail_id found ▸ step.found, step.fixed.trans same⟩
    rcases mem_booksAfter member with ⟨other, present, rfl⟩ | rfl
    · exact remembered other present known
    · rcases nextKnown call _ known with before | ⟨view, shown, rfl⟩
      · exact remembered (note, heard) (by simp) before
      · obtain ⟨record, found, same, -⟩ := seen _ member view shown
        exact ⟨record, found, same⟩

theorem credits : note.Credits call (exec env call world).1 := by
  generalize replied : (exec env call world).1 = reply
  cases call with
  | getJobDetail jobID =>
    cases reply with
    | error => trivial
    | ok job =>
      obtain ⟨found, -⟩ := getJobDetail_found replied
      refine ⟨jobDetail_id found, fun go =>
        (coherent.sound jobID job found go).1, ?_⟩
      rintro fixed known rfl
      obtain ⟨_, recorded, same⟩ := coherent.known (note, heard) (by simp) fixed known
      rw [found] at recorded
      cases recorded
      exact same
  | _ => trivial

end

theorem of_blank (blank : world.Blank) : Coherent world [] where
  linked := blank.linked
  sound jobID job found go := by
    rw [blank.unowned jobID job found] at go
    cases go
  known book member := absurd member not_mem_nil
  seen book member := absurd member not_mem_nil

theorem start (coherent : Coherent world books) {permits : Activity → Prop}
  {program : Prog storeInterface (Except String Unit)}
  (starts : Activity.Starts permits program note) :
  Coherent world (books ++ [(note, [])]) := by
  refine ⟨coherent.linked, coherent.sound, ?_, coherent.seen.start starts.forgetful.1⟩
  intro book member fixed known
  rcases mem_append.1 member with old | new
  · exact coherent.known book old fixed known
  · rw [mem_singleton.1 new, starts.forgetful.2.1] at known
    cases known

theorem leave (coherent : Coherent world (front ++ (note, heard) :: back)) :
  Coherent world (front ++ back) :=
  ⟨coherent.linked, coherent.sound, fun book member => coherent.known book (mem_of_others member),
    fun book member => coherent.seen book (mem_of_others member)⟩

end Coherent

theorem invariant_coherent {R : InterleavingRules} {extra : World → List (Note × List Uuid) → Prop}
  (clear : ∀ {note : Note}, note.Clear → final note)
  (starts : ∀ {world program note}, R.start world program note →
    ∃ permits, Activity.Starts permits program note)
  (start : ∀ {world books program note}, Coherent world books →
    extra world books → R.start world program note →
    extra world (books ++ [(note, [])]))
  (answered : ∀ {world front back note heard call env},
    Coherent world (front ++ (note, heard) :: back) →
    extra world (front ++ (note, heard) :: back) → note.Permits call →
    R.call note heard call env world →
    extra (exec env call world).2 (booksAfter env call world front back note heard))
  (leave : ∀ {world front back note heard}, final note →
    extra world (front ++ (note, heard) :: back) →
    extra world (front ++ back))
  (abandon : ∀ {program note}, R.abandon program →
    program.wp protocol (fun _ => final) note → final note) :
  Pool.Invariant machine observer R protocol final
    fun world books => Coherent world books ∧ extra world books where
  start := by
    rintro _ _ _ _ ⟨coherent, holds⟩ permitted
    obtain ⟨_, activity⟩ := starts permitted
    exact ⟨Prog.wp_mono activity.follows fun _ _ => clear,
      coherent.start activity, start coherent holds permitted⟩
  call := by
    rintro _ _ _ _ _ _ _ ⟨coherent, holds⟩ permits permitted
    exact ⟨⟨rfl, coherent.credits⟩, coherent.answered permits,
      answered coherent holds permits permitted⟩
  leave := by
    rintro _ _ _ _ _ settled ⟨coherent, holds⟩
    exact ⟨coherent.leave, leave settled holds⟩
  abandon := abandon

end VideoProcess.Go
