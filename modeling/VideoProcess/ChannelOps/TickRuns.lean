import VideoProcess.ChannelOps.TickLaws

namespace VideoProcess.ChannelOps.Tick

open Data GoText Program List

/-! Any number of executions of agent ticks over one database, each at its own
pace; a retry is an execution of its own. -/

inductive Phase where
  | started
  | prepared (preparation : TickPreparation)
  | evaluated (preparation : TickPreparation)
    (candidates : List TickCandidate) (alerts : List AlertPayload)
  | ended

structure Execution where
  item : QueueItemRow
  (channelID bucket : List Char)
  options : AgentTickOptions
  phase : Phase

structure Commit where
  (channelID bucket : List Char)
  accepted : List TickCandidate
  (before after : Tables)

def Commit.tasks (commit : Commit) : List ProductionTaskRow :=
  commit.before.tasks.created commit.after.tasks

structure System where
  tables : Tables
  executions : List Execution
  commits : List Commit

variable (services : Services)

/-- `payload["channel_id"].(string)`. -/
def payloadChannel (payload : Payload) : List Char :=
  match payload.getD "channel_id" .null with
  | .string text => text.toList
  | _ => []

def handleAgentTick (item : QueueItemRow) (now : Time) : Except TickError Execution := do
  let channelID := payloadChannel item.payloadJSON
  let bucket := orElse (firstString services.round item.payloadJSON
    ["bucket", "scheduler_bucket"]) (services.schedulerBucket now)
  ensure (channelID ≠ []) (.failed "agent_tick payload missing channel_id")
  let options ← services.agentTickOptionsFromPayload item.payloadJSON
  return ⟨item, channelID, bucket, options, .started⟩

def unused (tables : Tables) (alerts : List AlertPayload) (now : Time) (id : Uuid) : Bool :=
  id < uuidCount && (tables.entries.find? id).isNone &&
    (tables.tasks.find? id).isNone && (tables.items.find? id).isNone &&
    (tables.items.rows.all fun item =>
      item.idempotencyKey ≠ planTaskKey id) &&
    alerts.all fun alert => alertKey services alert now ≠ planTaskKey id

/-- Other work on the database: it leaves the completed audits alone. -/
def retains (before after : Tables) : Bool :=
  before.audits.rows.all fun row =>
    row.replayStatus ≠ .snapshotComplete || after.audits.rows.any fun other =>
      other.channelProfileID = row.channelProfileID && other.tickID = row.tickID &&
        other.replayStatus = .snapshotComplete

inductive Action where
  | start (item : QueueItemRow) (now : Time)
  | prepare (index : Nat) (now : Time)
  | evaluate (index : Nat) (candidates : List TickCandidate)
    (alerts : List AlertPayload)
  | finalize (index : Nat) (now : Time) (uuids : List Uuid)
  | fail (index : Nat)
  | elsewhere (tables : Tables)

namespace System

variable (system : System) (index : Nat)

def move (execution : Execution) (phase : Phase) : List Execution :=
  system.executions.set index { execution with phase := phase }

def prepare (now : Time) (execution : Execution) : Except TickError System := do
  queueExecutionFence services system.tables execution.item
  let preparation ← prepareTick services system.tables execution.channelID
    execution.bucket execution.options now
  return { system with
    executions := system.move index execution (.prepared preparation) }

def finalize (now : Time) (uuids : List Uuid) (execution : Execution)
  (preparation : TickPreparation) (candidates : List TickCandidate)
  (alerts : List AlertPayload) : Except TickError System := do
  queueExecutionFence services system.tables execution.item
  ensure (!preparation.owned &&
    unowned system.tables preparation.channelID) (.failed "owned inventory")
  ensure (uuids.all (unused services system.tables
    (tickAlerts preparation candidates alerts) now)) (.failed "collision")
  let reply ← finalizeTick services preparation candidates alerts now
    ⟨system.tables, uuids⟩
  return {
    tables := reply.2.tables
    executions := system.move index execution .ended
    commits := system.commits ++ [{
      channelID := preparation.channelID
      bucket := preparation.bucket
      accepted := acceptedOf candidates
      before := system.tables
      after := reply.2.tables }] }

end System

section

variable (system : System)

def step : Action → Option System
  | .start item now =>
    (handleAgentTick services item now).toOption.map fun execution =>
      { system with executions := system.executions ++ [execution] }
  | .prepare index now => do
    let execution ← system.executions[index]?
    match execution.phase with
    | .started => (system.prepare services index now execution).toOption
    | _ => none
  | .evaluate index candidates alerts => do
    let execution ← system.executions[index]?
    match execution.phase with
    | .prepared preparation => some { system with
      executions := system.move index execution (.evaluated preparation candidates alerts) }
    | _ => none
  | .finalize index now uuids => do
    let execution ← system.executions[index]?
    match execution.phase with
    | .evaluated preparation candidates alerts =>
      (system.finalize services index now uuids execution preparation candidates alerts).toOption
    | _ => none
  | .fail index => do
    let execution ← system.executions[index]?
    return { system with
      executions := system.move index execution .ended }
  | .elsewhere tables =>
    if retains system.tables tables then
      some { system with tables := tables }
    else none

def run (tables : Tables) (actions : List Action) : Option System :=
  actions.foldlM (step services) ⟨tables, [], []⟩

def System.commitsOf (channel : Uuid) (bucket : List Char) : List Commit :=
  system.commits.filter fun commit =>
    castUUID commit.channelID = some channel && commit.bucket = bucket && !commit.tasks.isEmpty

def SpelledAlike (channel : Uuid) (bucket : List Char) : Prop :=
  ∀ left ∈ system.executions, ∀ right ∈ system.executions,
    castUUID left.channelID = some channel → left.bucket = bucket →
    castUUID right.channelID = some channel → right.bucket = bucket →
      left.channelID = right.channelID

def Execution.Sound (execution : Execution) : Prop :=
  match execution.phase with
  | .prepared preparation | .evaluated preparation _ _ =>
    preparation.channelID = execution.channelID ∧ preparation.bucket = execution.bucket
  | _ => True

structure Sound : Prop where
  executions : ∀ execution ∈ system.executions, execution.Sound
  commits : ∀ commit ∈ system.commits, ∃ execution ∈ system.executions,
    execution.channelID = commit.channelID ∧ execution.bucket = commit.bucket
  audited : ∀ commit ∈ system.commits, commit.tasks ≠ [] →
    ∃ channel, castUUID commit.channelID = some channel ∧
      Audited system.tables channel (tickIDOf commit.channelID commit.bucket)
  distinct : (system.commits.filter fun commit =>
    !commit.tasks.isEmpty).Pairwise fun left right =>
      ¬ (castUUID left.channelID = castUUID right.channelID ∧ tickIDOf left.channelID left.bucket =
        tickIDOf right.channelID right.bucket)
  oneToOne : ∀ commit ∈ system.commits, commit.tasks ≠ [] →
    OneToOne commit.accepted commit.before commit.after

end

theorem sound_start (tables : Tables) : Sound ⟨tables, [], []⟩ where
  executions := by simp
  commits := by simp
  audited := by simp
  distinct := .nil
  oneToOne := by simp

variable {system next : System} {tables after : Tables} {now : Time}
  {preparation : TickPreparation} {execution : Execution}

theorem Sound.reschedule (sound : Sound system) {executions : List Execution}
  (sounds : ∀ execution ∈ executions, execution.Sound)
  (kept : ∀ execution ∈ system.executions, ∃ other ∈ executions,
    other.channelID = execution.channelID ∧ other.bucket = execution.bucket) :
  Sound { system with executions := executions } where
  executions := sounds
  commits := by
    intro commit member
    obtain ⟨execution, running, channel, bucket⟩ := sound.commits commit member
    obtain ⟨other, otherRunning, sameChannel, sameBucket⟩ := kept execution running
    exact ⟨other, otherRunning, sameChannel.trans channel, sameBucket.trans bucket⟩
  audited := sound.audited
  distinct := sound.distinct
  oneToOne := sound.oneToOne

section

variable {system : System} {index : Nat} {execution : Execution}

theorem sound_of_mem_move (sound : Sound system)
  (phaseSound : Execution.Sound { execution with phase := phase }) :
  ∀ other ∈ system.move index execution phase, other.Sound := by
  intro other member
  rcases mem_or_eq_of_mem_set member with old | rfl
  · exact sound.executions other old
  · exact phaseSound

theorem exists_mem_move (running : system.executions[index]? = some execution) (phase : Phase) :
  ∀ old ∈ system.executions, ∃ other ∈ system.move index execution phase,
    other.channelID = old.channelID ∧ other.bucket = old.bucket := by
  intro old member
  obtain ⟨place, bound, rfl⟩ := mem_iff_getElem.1 member
  have length : place < (system.move index execution phase).length := by
    simpa [System.move] using bound
  refine ⟨(system.move index execution phase)[place], getElem_mem length, ?_⟩
  by_cases same : index = place
  · subst same
    have identity : system.executions[index] = execution := by
      rw [getElem?_eq_getElem bound] at running
      exact Option.some.inj running
    simp [System.move, identity]
  · simp [System.move, getElem_set_ne same]

theorem Sound.move (sound : Sound system) (running : system.executions[index]? = some execution)
  (phaseSound : Execution.Sound { execution with phase := phase }) :
  Sound { system with
    executions := system.move index execution phase } :=
  sound.reschedule (sound_of_mem_move sound phaseSound) (exists_mem_move running phase)

end

theorem prepareTick_eq_ok (prepared : prepareTick services tables channelID bucket options now =
  .ok preparation) :
  preparation.channelID = channelID ∧ preparation.bucket = bucket := by
  have captured {uncaptured : TickPreparation}
    (captures : captureTickFacts services uncaptured = .ok preparation) :
    preparation.channelID = uncaptured.channelID ∧ preparation.bucket = uncaptured.bucket := by
    obtain ⟨_, -, afterPolicy⟩ := Program.bind_eq_ok captures
    obtain ⟨_, -, returned⟩ := Program.bind_eq_ok afterPolicy
    cases returned
    exact ⟨rfl, rfl⟩
  unfold prepareTick at prepared
  obtain ⟨_, -, afterCast⟩ := Program.bind_eq_ok prepared
  obtain ⟨_, -, afterGet⟩ := Program.bind_eq_ok afterCast
  obtain ⟨_, -, afterPause⟩ := Program.bind_eq_ok afterGet
  split at afterPause
  · obtain ⟨_, -, captures⟩ := Program.bind_eq_ok afterPause
    exact captured captures
  · obtain ⟨_, -, afterInputs⟩ := Program.bind_eq_ok afterPause
    obtain ⟨_, -, captures⟩ := Program.bind_eq_ok afterInputs
    exact captured captures

theorem fresh_of_unused {uuids : List Uuid}
  (free : uuids.all (unused services tables alerts now) = true) :
  Fresh services alerts now ⟨tables, uuids⟩ := by
  have each : ∀ id ∈ uuids, unused services tables alerts now id = true := all_eq_true.1 free
  simp only [unused, Bool.and_eq_true, decide_eq_true_eq,
    Option.isNone_iff_eq_none, all_eq_true] at each
  exact {
    small := fun id member => (each id member).1.1.1.1.1
    entry := fun id member => (each id member).1.1.1.1.2
    task := fun id member => (each id member).1.1.1.2
    item := fun id member => (each id member).1.1.2
    key := fun id member => (each id member).1.2
    alert := fun alert alertMember id member =>
      (each id member).2 alert alertMember }

theorem audited_of_retains (kept : retains before after = true)
  (audited : Audited before channel tickID) :
  Audited after channel tickID := by
  obtain ⟨row, member, rfl, rfl, complete⟩ := audited
  have retained := all_eq_true.1 kept row member
  simp only [complete, ne_eq, not_true_eq_false, decide_false,
    Bool.false_or, any_eq_true, Bool.and_eq_true,
    decide_eq_true_eq] at retained
  obtain ⟨other, otherMember, ⟨profile, tick⟩, finished⟩ := retained
  exact ⟨other, otherMember, profile, tick, finished⟩

theorem Sound.commit (sound : Sound system) (running : system.executions[index]? = some execution)
  (channelSame : preparation.channelID = execution.channelID)
  (bucketSame : preparation.bucket = execution.bucket)
  (settled : Settled preparation candidates system.tables after) :
  Sound {
    tables := after
    executions := system.move index execution .ended
    commits := system.commits ++ [{
      channelID := preparation.channelID
      bucket := preparation.bucket
      accepted := acceptedOf candidates
      before := system.tables
      after := after }] } := by
  have created (made : system.tables.tasks.created after.tasks ≠ []) :
    ∃ channel, castUUID preparation.channelID = some channel ∧ ¬ Audited system.tables channel
      (tickIDOf preparation.channelID preparation.bucket) ∧
      Audited after channel (tickIDOf preparation.channelID preparation.bucket) ∧
      OneToOne (acceptedOf candidates) system.tables after := by
    rcases settled.tasks with same | committed
    · rw [same, Table.created_self] at made
      exact absurd rfl made
    · exact committed
  have kept := exists_mem_move running .ended
  constructor
  · exact sound_of_mem_move sound trivial
  · intro commit member
    rcases mem_append.1 member with old | new
    · obtain ⟨other, otherRunning, channel, bucket⟩ := sound.commits commit old
      obtain ⟨moved, movedRunning, sameChannel, sameBucket⟩ := kept other otherRunning
      exact ⟨moved, movedRunning, sameChannel.trans channel, sameBucket.trans bucket⟩
    · cases mem_singleton.1 new
      obtain ⟨moved, movedRunning, sameChannel, sameBucket⟩ :=
        kept execution (mem_of_getElem? running)
      exact ⟨moved, movedRunning, sameChannel.trans channelSame.symm,
        sameBucket.trans bucketSame.symm⟩
  · intro commit member made
    rcases mem_append.1 member with old | new
    · obtain ⟨channel, cast, audited⟩ := sound.audited commit old made
      exact ⟨channel, cast, settled.kept channel _ audited⟩
    · cases mem_singleton.1 new
      obtain ⟨channel, cast, -, audited, -⟩ := created made
      exact ⟨channel, cast, audited⟩
  · rw [filter_append, pairwise_append]
    refine ⟨sound.distinct, ?_, ?_⟩
    · refine List.Pairwise.sublist filter_sublist ?_
      exact pairwise_singleton _ _
    · intro left leftMember right rightMember ⟨sameChannel, sameTick⟩
      obtain ⟨leftOld, leftMade⟩ := mem_filter.1 leftMember
      obtain ⟨rightNew, rightMade⟩ := mem_filter.1 rightMember
      cases mem_singleton.1 rightNew
      obtain ⟨_, cast, audited⟩ := sound.audited left leftOld (by simpa using leftMade)
      obtain ⟨_, castNew, unaudited, -⟩ := created (by simpa [Commit.tasks] using rightMade)
      rw [cast] at sameChannel
      cases sameChannel.trans castNew
      rw [sameTick] at audited
      exact unaudited audited
  · intro commit member made
    rcases mem_append.1 member with old | new
    · exact sound.oneToOne commit old made
    · cases mem_singleton.1 new
      obtain ⟨_, -, -, -, oneToOne⟩ := created made
      exact oneToOne

theorem toOption_eq_some {outcome : Except TickError α}
  (succeeded : outcome.toOption = some value) :
  outcome = .ok value := by
  cases outcome with
  | error => cases succeeded
  | ok =>
    cases succeeded
    rfl

section

variable {index : Nat} (sound : Sound system) (running : system.executions[index]? = some execution)

include sound running

theorem sound_prepare (prepared : system.prepare services index now execution = .ok next) :
  Sound next := by
  obtain ⟨_, -, afterFence⟩ := Program.bind_eq_ok prepared
  obtain ⟨_, prepare, returned⟩ := Program.bind_eq_ok afterFence
  cases returned
  exact sound.move running (prepareTick_eq_ok services prepare)

theorem sound_finalize (phase : execution.phase = .evaluated preparation candidates alerts)
  (finalized : system.finalize services index now uuids execution
    preparation candidates alerts = .ok next) : Sound next := by
  obtain ⟨_, -, afterFence⟩ := Program.bind_eq_ok finalized
  obtain ⟨_, plain, afterPlain⟩ := Program.bind_eq_ok afterFence
  obtain ⟨_, free, afterFree⟩ := Program.bind_eq_ok afterPlain
  obtain ⟨⟨_, _⟩, committed, returned⟩ := Program.bind_eq_ok afterFree
  cases returned
  have unclaimed := ensure_eq_ok plain
  simp only [Bool.and_eq_true, Bool.not_eq_true'] at unclaimed
  have settled := settled_finalizeTick services
    (fresh_of_unused services (ensure_eq_ok free)) unclaimed.1 unclaimed.2
    committed
  have own := sound.executions execution (mem_of_getElem? running)
  simp only [Execution.Sound, phase] at own
  exact sound.commit running own.1 own.2 settled

end

theorem sound_step (sound : Sound system) (stepped : step services system action = some next) :
  Sound next := by
  cases action with
  | start =>
    obtain ⟨_, handled, rfl⟩ := Option.map_eq_some_iff.1 stepped
    refine sound.reschedule ?_ fun other member =>
      ⟨other, mem_append_left _ member, rfl, rfl⟩
    intro other member
    rcases mem_append.1 member with old | new
    · exact sound.executions other old
    · cases mem_singleton.1 new
      obtain ⟨_, -, afterCheck⟩ := Program.bind_eq_ok (toOption_eq_some handled)
      obtain ⟨_, -, returned⟩ := Program.bind_eq_ok afterCheck
      cases returned
      trivial
  | prepare =>
    obtain ⟨_, running, moved⟩ := Option.bind_eq_some_iff.1 stepped
    split at moved
    · exact sound_prepare services sound running (toOption_eq_some moved)
    · cases moved
  | evaluate =>
    obtain ⟨execution, running, moved⟩ := Option.bind_eq_some_iff.1 stepped
    split at moved
    next phase =>
      cases moved
      have own := sound.executions execution (mem_of_getElem? running)
      simp only [Execution.Sound, phase] at own
      exact sound.move running own
    · cases moved
  | finalize =>
    obtain ⟨_, running, moved⟩ := Option.bind_eq_some_iff.1 stepped
    split at moved
    next phase => exact sound_finalize services sound running phase (toOption_eq_some moved)
    · cases moved
  | fail =>
    obtain ⟨_, running, moved⟩ := Option.bind_eq_some_iff.1 stepped
    cases moved
    exact sound.move running trivial
  | elsewhere =>
    simp only [step] at stepped
    split at stepped
    next kept =>
      cases stepped
      exact {
        executions := sound.executions
        commits := sound.commits
        audited := by
          intro commit member made
          obtain ⟨channel, cast, audited⟩ := sound.audited commit member made
          exact ⟨channel, cast, audited_of_retains kept audited⟩
        distinct := sound.distinct
        oneToOne := sound.oneToOne }
    · cases stepped

theorem sound_run (ran : run services tables actions = some system) : Sound system := by
  have along : ∀ (remaining : List Action) (start : System), Sound start →
    remaining.foldlM (step services) start = some system → Sound system := by
    intro remaining
    induction remaining with
    | nil =>
      intro start sound ended
      cases ended
      exact sound
    | cons _ _ ih =>
      intro start sound stepped
      rw [foldlM_cons] at stepped
      obtain ⟨next, first, remaining⟩ := Option.bind_eq_some_iff.1 stepped
      exact ih next (sound_step services sound first) remaining
  exact along actions _ (sound_start tables) ran

/-- In every run in which the executions for a channel and a bucket write the
channel alike, one commit at most makes production tasks for them, and it
makes them one to one. -/
theorem tick_tasks_once (tables : Tables) (actions : List Action)
  (system : System) (ran : run services tables actions = some system)
  (channel : Uuid) (bucket : List Char)
  (alike : SpelledAlike system channel bucket) :
  (system.commitsOf channel bucket).length ≤ 1 ∧ ∀ commit ∈ system.commitsOf channel bucket,
    OneToOne commit.accepted commit.before commit.after := by
  have sound := sound_run services ran
  have spelled : ∀ commit ∈ system.commitsOf channel bucket,
    ∃ execution ∈ system.executions, execution.channelID = commit.channelID ∧
      execution.bucket = bucket ∧
      castUUID commit.channelID = some channel ∧
      commit.bucket = bucket := by
    intro commit member
    obtain ⟨committed, chosen⟩ := mem_filter.1 member
    simp only [Bool.and_eq_true, decide_eq_true_eq] at chosen
    obtain ⟨execution, running, sameChannel, sameBucket⟩ := sound.commits commit committed
    exact ⟨execution, running, sameChannel, sameBucket.trans chosen.1.2, chosen.1.1, chosen.1.2⟩
  constructor
  · have apart : (system.commitsOf channel bucket).Pairwise
      fun left right => ¬ (castUUID left.channelID = castUUID right.channelID ∧
        tickIDOf left.channelID left.bucket = tickIDOf right.channelID right.bucket) := by
      refine List.Pairwise.sublist ?_ sound.distinct
      refine monotone_filter_right _ fun commit chosen => ?_
      simp only [Bool.and_eq_true] at chosen
      exact chosen.2
    match shape : system.commitsOf channel bucket with
    | [] => simp
    | [commit] => simp
    | first :: second :: rest =>
      rw [shape] at apart spelled
      obtain ⟨left, leftRunning, leftChannel, leftBucket, leftCast,
        firstBucket⟩ := spelled first (by simp)
      obtain ⟨right, rightRunning, rightChannel, rightBucket, rightCast,
        secondBucket⟩ := spelled second (by simp)
      have same : first.channelID = second.channelID := by
        rw [← leftChannel, ← rightChannel]
        exact alike left leftRunning right rightRunning
          (by rw [leftChannel]; exact leftCast) leftBucket
          (by rw [rightChannel]; exact rightCast) rightBucket
      have distinct := (pairwise_cons.1 apart).1 second (by simp)
      exact absurd ⟨by rw [same], by rw [same, firstBucket, secondBucket]⟩ distinct
  · intro commit member
    obtain ⟨committed, chosen⟩ := mem_filter.1 member
    simp only [Bool.and_eq_true, Bool.not_eq_true', isEmpty_eq_false_iff] at chosen
    exact sound.oneToOne commit committed chosen.2

def laneCandidate (bucket : List Char) : TickCandidate where
  candidateID := String.ofList ("lane_seed:lane:format:".toList ++ bucket)
  account := some 7
  discoverySignal := none
  rejected := false
  details := .null

def laneSnapshot (version : String) (asOf : Time)
  (candidate : TickCandidate) : CandidateSnapshot where
  features := ⟨candidate.candidateID, "schema", .null⟩
  decided := ⟨if candidate.rejected then .rejected else .accepted, .null⟩
  policyVersion := version
  featureAsOf := asOf
  candidateSetHash := "set"
  featureHash := "feature"
  decisionHash := "decision"

def laneServices : Services where
  round := fun _ => ⟨false, [], 0⟩
  configuredMaxAttempts := 3
  schedulerBucket := fun _ => "2026-01-01-00".toList
  utcBucket := fun _ => "2026-01-01-00".toList
  rfc3339 := fun _ => "2026-01-01T00:00:00Z"
  agentTickOptionsFromPayload := fun _ => .ok ⟨0, false, ""⟩
  tickInputs := fun _ _ _ => .ok .null
  buildTickCandidates := fun _ _ bucket => [laneCandidate bucket]
  handlerSnapshotDigest := fun _ _ _ taskCount =>
    .ok (String.ofList (natText taskCount))
  prepareOwnedTick := fun _ _ _ _ _ => .error .channelExecutionBlocked
  finalizeOwnedTick := fun _ _ _ _ => .error .channelExecutionBlocked
  buildBaselinePolicy := fun _ => .ok ⟨"channelops-baseline", "sha256:0", ""⟩
  buildCandidateSnapshots := fun policy candidates asOf =>
    .ok ⟨policy.version, asOf, "set", candidates.map (laneSnapshot policy.version asOf)⟩
  validatePolicy := fun _ => .ok ()
  featureSchemaVersion := "schema"
  featureFactsHash := fun _ => .ok "feature"
  snapshotDecisionHash := fun _ => .ok "decision"
  candidateSetHash := fun _ => .ok "set"
  decisionSummary := fun _ _ _ => .ok ""
  candidateGuardSummaries := fun _ => .ok ""

def laneChannel : Uuid := 0xabcdefabcdefabcdefabcdefabcdefab

def lowerCase : String := "abcdefab-cdef-abcd-efab-cdefabcdefab"

def upperCase : String := "ABCDEFAB-CDEF-ABCD-EFAB-CDEFABCDEFAB"

def laneBucket : List Char := "2026-01-01-00".toList

/-- A claimed `agent_tick` whose payload names the channel as given. -/
def tickItem (id : Uuid) (spelling : String) : QueueItemRow where
  id := id
  kind := .agentTick
  idempotencyKey := "agent_tick:" ++ spelling
  payloadJSON := Dict.empty.set "channel_id" (.string spelling)
  status := .running
  priority := 20
  attemptCount := 1
  maxAttempts := 3
  runAfter := 0
  createdAt := 0
  lockedAt := some 0
  lockedBy := some "worker"
  lastError := none
  deadLetterAt := none
  channelProfileID := some laneChannel
  parentQueueItemID := none

def laneTables : Tables where
  channels := ⟨[{
    id := laneChannel
    enabled := true
    haltedAt := none
    intakePausedAt := none
    dryRun := false
    configVersion := 1
    ownedSeedInventoryID := none
    intakePauseReason := none }], pairwise_singleton _ _⟩
  audits := .empty
  policies := .empty
  snapshots := .empty
  entries := .empty
  tasks := .empty
  signals := .empty
  items := ⟨[tickItem 1 lowerCase, tickItem 2 upperCase], by simp [tickItem]⟩

def wholeTick (index : Nat) (item : QueueItemRow) (now : Time) (first : Uuid) : List Action :=
  [.start item now, .prepare index now, .evaluate index [laneCandidate laneBucket] [],
    .finalize index now ((range 6).map (first + ·))]

/-- The scheduler writes a channel in lower case and the interface writes it
as its caller did: two spellings are two ticks of one channel and bucket. -/
theorem spellings_commit_twice : ∃ system, run laneServices laneTables
  (wholeTick 0 (tickItem 1 lowerCase) 1 100 ++
    wholeTick 1 (tickItem 2 upperCase) 2 200) = some system ∧
  (system.commitsOf laneChannel laneBucket).length = 2 := by
  have checked : ((run laneServices laneTables (wholeTick 0 (tickItem 1 lowerCase) 1 100 ++
    wholeTick 1 (tickItem 2 upperCase) 2 200)).any fun system =>
      decide ((system.commitsOf laneChannel laneBucket).length = 2)) = true := by
    decide +kernel
  obtain ⟨found, holds⟩ := (Option.any_eq_true_iff_get _ _).1 checked
  exact ⟨_, (Option.some_get found).symm, of_decide_eq_true holds⟩

/-- A tick and its retry, which the audit stops. -/
theorem retry_commits_once : ∃ system, run laneServices laneTables
  (wholeTick 0 (tickItem 1 lowerCase) 1 100 ++ [.start (tickItem 1 lowerCase) 2, .prepare 1 2,
    .evaluate 1 [laneCandidate laneBucket] [], .fail 1]) = some system ∧
  SpelledAlike system laneChannel laneBucket ∧
  (system.commitsOf laneChannel laneBucket).length = 1 ∧
  ∀ commit ∈ system.commitsOf laneChannel laneBucket,
    OneToOne commit.accepted commit.before commit.after := by
  have checked : ((run laneServices laneTables (wholeTick 0 (tickItem 1 lowerCase) 1 100 ++
    [.start (tickItem 1 lowerCase) 2, .prepare 1 2,
      .evaluate 1 [laneCandidate laneBucket] [], .fail 1])).any fun system =>
        decide ((system.commitsOf laneChannel laneBucket).length = 1) &&
          system.executions.all fun execution =>
            execution.channelID = lowerCase.toList) = true := by
    decide +kernel
  obtain ⟨found, holds⟩ := (Option.any_eq_true_iff_get _ _).1 checked
  simp only [Bool.and_eq_true, decide_eq_true_eq, all_eq_true] at holds
  obtain ⟨once, spelled⟩ := holds
  have ran := (Option.some_get found).symm
  have alike : SpelledAlike (Option.get _ found) laneChannel laneBucket :=
    fun left leftRunning right rightRunning _ _ _ _ =>
      (spelled left leftRunning).trans (spelled right rightRunning).symm
  exact ⟨_, ran, alike, once, (tick_tasks_once laneServices laneTables _ _ ran
    laneChannel laneBucket alike).2⟩

end VideoProcess.ChannelOps.Tick
