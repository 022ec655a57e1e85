import VideoProcess.ChannelOps.Queue
import VideoProcess.Data.Calendar

namespace VideoProcess.ChannelOps.Scheduler

open Data Calendar

/-! The scheduler (`scheduler.go`). -/

structure ChannelProfileRow where
  id : Uuid
  enabled : Bool
  (haltedAt intakePausedAt : Option Time)
  tickIntervalMinutes : Int
  contentMixPolicyJSON : Json
  ownedSeedInventoryID : Option Uuid
  ownedInventoryActive : Bool
  inRange : id < uuidCount

section

variable (channel : ChannelProfileRow)

def channelAvailableForExecution : Bool :=
  channel.enabled && channel.haltedAt.isNone

def channelDueForTick : Bool :=
  if !channelAvailableForExecution channel || channel.intakePausedAt.isSome then
    false
  else if channel.ownedSeedInventoryID.isSome && !channel.ownedInventoryActive
  then false
  else true

/-! Buckets. The interval is an `int4` column, so its seconds do not
overflow. -/

def normalizedTickIntervalMinutes (value : Int) : Int :=
  let value := if value ≤ 0 then 60 else value
  if value < 15 then 15 else value

variable (now : Time)

/-- `now.Unix()`. -/
def unix : Int := now / 1000000

/-- The division of integers goes towards zero. -/
def schedulerBucket (intervalMinutes : Int) : List Char :=
  let interval := normalizedTickIntervalMinutes intervalMinutes
  let intervalSeconds := interval * 60
  let bucketTime := (unix now).tdiv intervalSeconds * intervalSeconds
  let bucketMinute := bucketTime / 60 % 60
  if interval ≥ 60 ∧ bucketMinute = 0 then hourText (bucketTime / 60)
  else minuteText (bucketTime / 60)

def everyMinute : Bool :=
  channel.ownedSeedInventoryID.isSome && channel.ownedInventoryActive &&
    channel.tickIntervalMinutes = 1

def channelSchedulerBucket : List Char :=
  if everyMinute channel then minuteText (unix now / 60)
  else schedulerBucket now channel.tickIntervalMinutes

end

def idempotencyKey (parts : List (List Char)) : String := String.ofList ([':'].intercalate parts)

def idText (id : Uuid) : List Char := (uuidString id).toList

def tickIdempotencyKey (channelID : Uuid) (bucket : List Char) : String :=
  idempotencyKey ["agent_tick".toList, idText channelID, bucket]

def cleanupIdempotencyKey (day : List Char) : String :=
  idempotencyKey ["cleanup_expired".toList, day]

def learningRecomputeIdempotencyKey (channelID : Uuid) (bucket : List Char) : String :=
  idempotencyKey ["learning_recompute".toList, idText channelID, bucket]

def discoveryIdempotencyKey (channelID : Uuid) (source bucket : List Char) : String :=
  idempotencyKey ["ingest_discovery".toList, idText channelID, source, bucket]

structure SchedulerRun where
  channelProfileID : Uuid
  bucket : List Char
deriving DecidableEq

/-- A call of `Enqueue` for a tick. The database has no such table: it is what
the runs have done. -/
structure Tick where
  channel : ChannelProfileRow
  now : Time
  bucket : List Char
  item : Uuid

structure Database where
  schedulerRuns : List SchedulerRun
  queueItems : QueueItems
  ticks : List Tick

def Database.empty : Database := ⟨[], .empty, []⟩

/-- What one statement meets: a random identifier, a reading of the clock, and
perhaps an error. -/
structure Statement where
  fresh : Uuid
  clock : Time
  failure : Option String

structure Session where
  database : Database
  statements : List Statement

abbrev Tx := StateT Session (Except String)

def statement : Tx Statement := fun session =>
  match session.statements with
  | [] => .error "conn closed"
  | statement :: rest =>
    match statement.failure with
    | some failure => .error failure
    | none => .ok (statement, { session with statements := rest })

structure Settings where
  defaultMaxAttempts : Int
  /-- `DiscoveryPolicyFromContentMix`: the interval of an enabled policy. -/
  discoveryInterval : Json → Option Int

section

variable (settings : Settings) (channelID : Uuid)

section

variable (bucket : List Char)

def insertSchedulerRun : Tx Bool := do
  let _ ← statement
  let session ← get
  let database := session.database
  let run : SchedulerRun := ⟨channelID, bucket⟩
  if run ∈ database.schedulerRuns then pure false
  else do
    set { session with database := { database with
      schedulerRuns := database.schedulerRuns ++ [run] } }
    pure true

def storeEnqueue (options : EnqueueOptions) : Tx Uuid := do
  let made ← statement
  let session ← get
  match enqueue settings.defaultMaxAttempts made.clock made.fresh options
    session.database.queueItems with
  | none => throw "duplicate key value violates unique constraint"
  | some (id, items) => do
    set { session with database :=
      { session.database with queueItems := items } }
    pure id

def text (chars : List Char) : Json := .string (String.ofList chars)

def tickPayload : Payload :=
  ((Dict.empty.set "channel_id" (.string (uuidString channelID))).set "bucket"
    (text bucket)).set "scheduler_bucket" (text bucket)

def tickOptions : EnqueueOptions where
  kind := .agentTick
  idempotencyKey := tickIdempotencyKey channelID bucket
  payload := tickPayload channelID bucket
  priority := 100
  runAfter := none
  channelProfileID := some channelID
  parentQueueItemID := none
  maxAttempts := 0

def discoverySourceYouTubeSearch : List Char := "youtube_search".toList

def discoveryOptions : EnqueueOptions where
  kind := .ingestDiscovery
  idempotencyKey :=
    discoveryIdempotencyKey channelID discoverySourceYouTubeSearch bucket
  payload := (tickPayload channelID bucket).set "source" (text discoverySourceYouTubeSearch)
  priority := 80
  runAfter := none
  channelProfileID := some channelID
  parentQueueItemID := none
  maxAttempts := 0

end

variable (channel : ChannelProfileRow)

def enqueueDiscovery (now : Time) : Tx Unit :=
  if channel.ownedSeedInventoryID.isSome then pure ()
  else match settings.discoveryInterval channel.contentMixPolicyJSON with
    | none => pure ()
    | some interval => do
      let _ ← storeEnqueue settings
        (discoveryOptions channel.id (schedulerBucket now interval))
      pure ()

def enqueueTick (now : Time) : Tx Nat := do
  let bucket := channelSchedulerBucket channel now
  let created ← insertSchedulerRun channel.id bucket
  if created then do
    let item ← storeEnqueue settings (tickOptions channel.id bucket)
    modify fun session => { session with database := { session.database with
      ticks := session.database.ticks ++ [⟨channel, now, bucket, item⟩] } }
    pure 1
  else pure 0

def scheduleChannel (now : Time) (enqueued : Nat) (channel : ChannelProfileRow) : Tx Nat :=
  if channelDueForTick channel then do
    enqueueDiscovery settings channel now
    let more ← enqueueTick settings channel now
    pure (enqueued + more)
  else pure enqueued

def cleanupOptions (day : List Char) : EnqueueOptions where
  kind := .cleanupExpired
  idempotencyKey := cleanupIdempotencyKey day
  payload := Dict.empty.set "day" (text day)
  priority := 200
  runAfter := none
  channelProfileID := none
  parentQueueItemID := none
  maxAttempts := 0

def windowDays : Json := .array [.number ⟨false, 7, [], none⟩, .number ⟨false, 30, [], none⟩]

def learningOptions (bucket : List Char) : EnqueueOptions where
  kind := .learningRecompute
  idempotencyKey := learningRecomputeIdempotencyKey channelID bucket
  payload := ((Dict.empty.set "channel_id" (.string (uuidString channelID))).set
    "bucket" (text bucket)).set "window_days" windowDays
  priority := 180
  runAfter := none
  channelProfileID := some channelID
  parentQueueItemID := none
  maxAttempts := 0

def enqueueLearning (now : Time) (channel : ChannelProfileRow) : Tx Unit :=
  if channelAvailableForExecution channel then do
    let _ ← storeEnqueue settings
      (learningOptions channel.id (schedulerBucket now 360))
    pure ()
  else pure ()

def enqueueOperationalMaintenance (channels : List ChannelProfileRow) (now : Time) : Tx Unit := do
  let _ ← storeEnqueue settings (cleanupOptions (dayText (unix now / 86400)))
  channels.forM (enqueueLearning settings now)

def runOnce (channels : List ChannelProfileRow) (now : Time) : Tx Nat := do
  let _ ← statement
  let enqueued ← channels.foldlM (scheduleChannel settings now) 0
  enqueueOperationalMaintenance settings channels now
  pure enqueued

structure Run where
  channels : List ChannelProfileRow
  now : Time
  statements : List Statement
  commits : Bool

/-- `WithLeaderExecutionFence`: whatever fails leaves the database as it is. -/
def fencedRun (run : Run) (database : Database) : Database :=
  match runOnce settings run.channels run.now ⟨database, run.statements⟩ with
  | .error _ => database
  | .ok (_, session) => if run.commits then session.database else database

def runs (sequence : List Run) : Database :=
  sequence.foldl (fun database run => fencedRun settings run database) .empty

end

end VideoProcess.ChannelOps.Scheduler
