import VideoProcess.Inventory.Facts

namespace VideoProcess.Inventory

open Data ChannelOps Program
open Retention (historyReference historySelect)

/-! The history of a platform channel, as the admission of a new upload reads
it (`owned_inventory_history.go`). -/

structure HistoryRows where
  (ownedSeedInventories ownedSeedInventoryItems manualSeeds assets : List Row)
  (youtubeUploadOperations productionTasks publishingAccounts channelProfiles jobs : List Row)
  (nodeExecutions artifacts publicationRecords publicationMetricSchedules : List Row)
  (feedbackSnapshots channelOpsQueueItems : List Row)

def HistoryRows.tables (rows : HistoryRows) : List (List Row) :=
  [rows.ownedSeedInventories, rows.ownedSeedInventoryItems, rows.manualSeeds,
    rows.assets, rows.youtubeUploadOperations, rows.productionTasks,
    rows.publishingAccounts, rows.channelProfiles, rows.jobs,
    rows.nodeExecutions, rows.artifacts, rows.publicationRecords,
    rows.publicationMetricSchedules, rows.feedbackSnapshots,
    rows.channelOpsQueueItems]

def rowID (row : Row) : Option String :=
  match row.field "id" with
  | .string text => some text
  | _ => none

def Identified (rows : List Row) : Prop := none ∉ rows.map rowID ∧ (rows.map rowID).Nodup

instance (rows : List Row) : Decidable (Identified rows) := inferInstanceAs (Decidable (_ ∧ _))

/-- What `newOwnedHistorySnapshot` has accepted. -/
structure OwnedHistorySnapshot where
  rows : HistoryRows
  platformChannelID : String
  observedAt : Instant
  identified : ∀ table ∈ rows.tables, Identified table

section

variable (rows : List Row)

/-- `historyIndex(rows)[id]`. -/
def findRow (id : String) : Option Row :=
  rows.find? fun row => rowID row = some id

/-- `historyIDs(rows)[historyReference(value)]`. -/
def isAmong (value : Json) : Except String Bool :=
  (historyReference value).map fun text => (findRow rows text).isSome

def whereField (key : String) (value : Json) : List Row :=
  rows.filter fun row => identical (row.field key) value

def whereText (key text : String) : List Row :=
  whereField rows key (.string text)

end

structure TaskHistory where
  task : Row
  operations : List Row
  job : Row
  (nodes artifacts publications queues metrics feedback : List Row)

def isQueueOf (task : Row) (publications metrics : List Row) (queue : Row) :
  Except String Bool := do
  let payload ← historyDefaultObject queue "payload_json"
  if identical (payload.field "production_task_id") (task.field "id") then
    pure true
  else do
    let published ← isAmong publications (payload.field "publication_id")
    if published then pure true
    else isAmong metrics (payload.field "metric_schedule_id")

def reference : Json → String
  | .string text => text
  | _ => ""

def isRelated (found queue : Row) : Bool :=
  identical (found.field "id") (queue.field "id") ||
    identical (found.field "parent_queue_item_id") (queue.field "id") ||
    isText (found.field "id") (reference (queue.field "parent_queue_item_id"))

/-- The queue items that parents lead to and from. A parent that is no text
panics. -/
def relatedQueues (all seeds : List Row) : Except String (List Row) := do
  let _ ← all.mapM fun queue =>
    historyReference (queue.field "parent_queue_item_id")
  let found := Saturation.saturate all isRelated all.length seeds
  let _ ← found.mapM fun queue =>
    if isNull (queue.field "parent_queue_item_id") then pure ""
    else historyString (queue.field "parent_queue_item_id")
  pure found

def isOutput (task : Row) (nodes : List Row) (artifact : Row) : Except String Bool :=
  if identical (artifact.field "job_id") (task.field "job_id") then do
    let id ← historyReference (artifact.field "id")
    pure (nodes.any fun node => isText (node.field "output_artifact_id") id)
  else pure false

def historyTask (rows : HistoryRows) (task : Row) : Except String TaskHistory := do
  let publications :=
    whereField rows.publicationRecords "production_task_id" (task.field "id")
  let metrics ← historySelect (fun metric =>
    isAmong publications (metric.field "publication_id"))
    rows.publicationMetricSchedules
  let seeds ← historySelect (isQueueOf task publications metrics)
    rows.channelOpsQueueItems
  let queues ← relatedQueues rows.channelOpsQueueItems seeds
  let jobs := whereField rows.jobs "id" (task.field "job_id")
  let nodes := whereField rows.nodeExecutions "job_id" (task.field "job_id")
  let _ ← nodes.mapM fun node =>
    if isNull (node.field "output_artifact_id") then pure ""
    else historyString (node.field "output_artifact_id")
  let artifacts ← historySelect (isOutput task nodes) rows.artifacts
  let feedback ← historySelect (fun snapshot =>
    isAmong publications (snapshot.field "publication_id"))
    rows.feedbackSnapshots
  pure {
    task := task
    operations := whereField rows.youtubeUploadOperations "production_task_id" (task.field "id")
    job := jobs.headD []
    nodes := nodes
    artifacts := artifacts
    publications := publications
    queues := queues
    metrics := metrics
    feedback := feedback }

def historyQueueClean (queue : Row) : Except String Bool :=
  if isNull (queue.field "last_error") && isNull (queue.field "dead_letter_at")
  then (historyInt (queue.field "attempt_count")).map fun count =>
    0 ≤ count && count ≤ 1
  else .ok false

section

variable (go : Library)

/-- `attempt_count` and the lease that a status asks for. -/
def historyQueueState (queue : Row) (states : List String) : Except String Bool := do
  let clean ← historyQueueClean queue
  if !clean then pure false
  else do
    let listed ← historyIs (queue.field "status") states
    if !listed then pure false
    else do
      let count ← historyInt (queue.field "attempt_count")
      let unlocked := isNull (queue.field "locked_at") &&
        isNull (queue.field "locked_by")
      if isText (queue.field "status") "queued" then
        pure (count = 0 && unlocked)
      else if isText (queue.field "status") "running" then
        if count = 1 then do
          let locked ← go.historyTruth (queue.field "locked_by")
          if !locked then pure false
          else do
            let lockedAt ← go.historyTime (queue.field "locked_at")
            pure (lockedAt ≠ zeroInstant)
        else pure false
      else pure (count = 1 && unlocked)

/-- `historyTime(value).Equal(instant)`. -/
def isAt (value : Json) (instant : Instant) : Except String Bool :=
  (go.historyTime value).map (· = instant)

/-- `historyBetween(historyTime(value), first, last)`. -/
def isBetween (value : Json) (first last : Instant) : Except String Bool :=
  (go.historyTime value).map fun instant => historyBetween instant first last

variable (h : TaskHistory)

def parentOf (queue : Row) : List Row :=
  whereField h.queues "id" (queue.field "parent_queue_item_id")

def historyReconciled (pub : Row) (start : Instant) : Except String Bool := do
  let reason := "owned_inventory_reconciliation"
  let q ← historyOne (whereText h.queues "kind" "reconcile_publication") reason
  let p ← historyObject (q.field "payload_json")
  let id ← historyString (pub.field "id")
  historyRequire reason [
    isAt go (q.field "run_after") (start + hour / 2),
    .ok (isText (q.field "idempotency_key")
      ("reconcile_publication:" ++ id ++ ":" ++ go.historyZ start)),
    .ok (identical (p.field "publication_id") (pub.field "id")),
    .ok (identical (q.field "channel_profile_id") (h.task.field "channel_profile_id")),
    historyQueueState go q ["queued", "running", "succeeded"]]
  let parent ← historyOne (parentOf h q) reason
  let pp ← historyObject (parent.field "payload_json")
  historyRequire reason [
    .ok (isText (parent.field "kind") "promote_publication"),
    .ok (identical (parent.field "channel_profile_id") (q.field "channel_profile_id")),
    .ok (identical (pp.field "publication_id") (pub.field "id")),
    .ok (isText (pp.field "target_visibility") "unlisted")]
  let running ← historyQueueState go parent ["running"]
  if running && isText (q.field "status") "queued" then pure false
  else do
    historyRequire reason [historyQueueState go parent ["succeeded"]]
    pure (isText (q.field "status") "succeeded")

def pendingPromotion (pub : Row) (completed now : Instant) : Except String Bool := do
  let uploaded ← go.historyTime (pub.field "uploaded_at")
  historyRequire invalid [
    .ok (historyBetween uploaded completed now),
    .ok (isText (pub.field "publish_status") "uploaded"),
    .ok (isText (h.task.field "state") "uploaded_private"),
    .ok h.metrics.isEmpty, .ok h.feedback.isEmpty]
  let later ← historySelect (fun q => historyIs (q.field "kind")
    ["reconcile_publication", "collect_metrics"]) h.queues
  historyRequire invalid [.ok later.isEmpty]
  let q ← historyOne (whereText h.queues "kind" "promote_publication") invalid
  let p ← historyObject (q.field "payload_json")
  let id ← historyString (pub.field "id")
  let due := uploaded + hour
  historyRequire invalid [
    isAt go (q.field "run_after") due,
    .ok (isText (q.field "idempotency_key")
      ("promote_publication:" ++ id ++ ":unlisted:" ++ go.historyZ due)),
    .ok (identical (q.field "channel_profile_id") (h.task.field "channel_profile_id")),
    .ok (identical (p.field "publication_id") (pub.field "id")),
    .ok (isText (p.field "target_visibility") "unlisted"),
    .ok (isText (p.field "scheduled_at") (go.historyZ due)),
    historyQueueState go q ["queued", "running"]]
  let parent ← historyOne (parentOf h q) invalid
  if isText (parent.field "kind") "publish_task" && identical (parent.field "channel_profile_id")
    (q.field "channel_profile_id") then do
    let pp ← historyObject (parent.field "payload_json")
    if identical (pp.field "production_task_id") (h.task.field "id") then
      historyQueueState go parent ["running", "succeeded"]
    else pure false
  else pure false

/-- A panic counts as no. -/
def historyPendingPromotion (pub : Row) (completed now : Instant) : Bool :=
  match pendingPromotion go h pub completed now with
  | .ok valid => valid
  | .error _ => false

structure Replacement where
  (automatic manual reconcile publishParent : Row)

def settledReplacement : Except String Replacement := do
  let pub ← historyOne h.publications invalid
  let uploaded ← go.historyTime (pub.field "uploaded_at")
  let start ← go.historyTime (pub.field "scheduled_publish_at")
  historyRequire invalid [
    .ok (uploaded ≤ start),
    .ok (isText (pub.field "desired_privacy") "unlisted"),
    .ok (isText (pub.field "current_privacy") "unlisted"),
    .ok (isNull (pub.field "public_at"))]
  let promotes := whereText h.queues "kind" "promote_publication"
  let auto ← historyOne (whereText promotes "status" "cancelled") invalid
  let manual ← historyOne (promotes.filter fun q =>
    !isText (q.field "status") "cancelled") invalid
  let autoID ← historyID (auto.field "id")
  let manualID ← historyID (manual.field "id")
  let channel := h.task.field "channel_profile_id"
  let due := uploaded + hour
  let p ← historyObject (auto.field "payload_json")
  let mp ← historyObject (manual.field "payload_json")
  let id ← historyString (pub.field "id")
  historyRequire invalid [
    .ok (autoID ≠ manualID),
    isAt go (auto.field "run_after") due,
    do
      let dead ← go.historyTime (auto.field "dead_letter_at")
      let run ← go.historyTime (manual.field "run_after")
      pure (historyBetween dead uploaded run),
    (go.historyTime (manual.field "run_after")).map (· ≤ start),
    .ok (isText (auto.field "last_error") "replaced_by_immediate_unlisted_canary_promotion"),
    go.historyEqual (auto.field "attempt_count") (.number ⟨false, 0, [], none⟩),
    .ok (isNull (auto.field "locked_at")),
    .ok (isNull (auto.field "locked_by")),
    .ok (identical (auto.field "channel_profile_id") channel),
    .ok (isText (auto.field "idempotency_key")
      ("promote_publication:" ++ id ++ ":unlisted:" ++ go.historyZ due)),
    .ok (identical (p.field "publication_id") (pub.field "id")),
    .ok (isText (p.field "target_visibility") "unlisted"),
    .ok (isText (p.field "scheduled_at") (go.historyZ due))]
  historyRequire invalid [
    historyQueueState go manual ["succeeded"],
    .ok (isNull (manual.field "parent_queue_item_id")),
    .ok (identical (manual.field "channel_profile_id") channel),
    .ok (isText (manual.field "idempotency_key")
      ("promote_publication:" ++ id ++ ":unlisted:manual")),
    .ok (identical (mp.field "publication_id") (pub.field "id")),
    .ok (isText (mp.field "target_visibility") "unlisted"),
    .ok (identical (mp.field "channel_profile_id") channel),
    .ok (isNull (mp.field "scheduled_at"))]
  let parent ← historyOne (parentOf h auto) invalid
  historyRequire invalid [
    .ok (isText (parent.field "kind") "publish_task"),
    .ok (identical (parent.field "channel_profile_id") channel),
    (historyObject (parent.field "payload_json")).map fun pp =>
      identical (pp.field "production_task_id") (h.task.field "id"),
    historyQueueState go parent ["succeeded"],
    historyReconciled go h pub start]
  let reconcile ← historyOne (whereText h.queues "kind" "reconcile_publication")
    invalid
  historyRequire invalid [.ok (identical
    (reconcile.field "parent_queue_item_id") (manual.field "id"))]
  pure ⟨auto, manual, reconcile, parent⟩

def historySettledReplacement : Option Replacement :=
  (settledReplacement go h).toOption

end

structure MetricStage where
  name : String
  (due grace : Int)

def historyMetricStages : List MetricStage :=
  [⟨"1h", 1, 3⟩, ⟨"6h", 6, 12⟩, ⟨"24h", 24, 30⟩, ⟨"72h", 72, 84⟩, ⟨"7d", 168, 192⟩]

section

variable (go : Library) (h : TaskHistory) (pub : Row) (start now : Instant)

def metricChain (metric : Row) : Except String (List Row) := do
  let chain ← historySelect (fun q =>
    if isText (q.field "kind") "collect_metrics" then
      (historyObject (q.field "payload_json")).map fun payload =>
        identical (payload.field "metric_schedule_id") (metric.field "id")
    else .ok false) h.queues
  let numbered ← chain.mapM fun q => do
    let payload ← historyObject (q.field "payload_json")
    let count ← historyInt (payload.field "metrics_poll_count")
    pure (count, q)
  pure ((numbered.insertionSort fun left right => left.1 ≤ right.1).map Prod.snd)

/-- One poll. Whether it is yet to end, although it is not the last or its
metric is there. -/
def metricPoll (stage : MetricStage) (last : Int) (succeeded : Bool)
  (prior : Option Row) (index : Nat) (q : Row) : Except String Bool := do
  let reason := "owned_inventory_metrics"
  let due := start + stage.due * hour
  let grace := start + stage.grace * hour
  let p ← historyObject (q.field "payload_json")
  let _ ← historyID (q.field "id")
  historyRequire reason [
    (historyInt (p.field "metrics_poll_count")).map (· = (index : Int)),
    .ok (identical (p.field "publication_id") (pub.field "id")),
    .ok (isText (p.field "snapshot_stage") stage.name),
    .ok (identical (q.field "channel_profile_id") (h.task.field "channel_profile_id")),
    (historyString (pub.field "id")).map fun id =>
      isText (q.field "idempotency_key") ("collect_metrics:" ++ id ++
        ":stage:" ++ stage.name ++ ":attempt:" ++ toString index)]
  let run ← go.historyTime (q.field "run_after")
  historyRequire reason [.ok (run ≤ grace)]
  match prior with
  | some prior =>
    historyRequire reason [
      (go.historyTime (prior.field "run_after")).map (· < run),
      .ok (identical (q.field "parent_queue_item_id") (prior.field "id"))]
  | none => do
    historyRequire reason [.ok (run = due)]
    let parent ← historyOne (parentOf h q) reason
    let pp ← historyObject (parent.field "payload_json")
    historyRequire reason [
      .ok (isText (parent.field "kind") "promote_publication"),
      historyQueueState go parent ["succeeded"],
      .ok (identical (parent.field "channel_profile_id") (q.field "channel_profile_id")),
      .ok (identical (pp.field "publication_id") (pub.field "id")),
      .ok (isText (pp.field "target_visibility") "unlisted")]
  historyRequire reason [historyQueueState go q ["queued", "running", "succeeded"]]
  let ended := isText (q.field "status") "succeeded"
  let early := (index : Int) < last
  if ended then do
    historyRequire reason [.ok (early || succeeded)]
    pure false
  else do
    historyRequire reason [.ok (!early ||
      ((index : Int) = last - 1 && isText (q.field "status") "running" && !succeeded))]
    pure (succeeded || early)

def metricPolls (stage : MetricStage) (last : Int) (succeeded : Bool) :
  Nat → Option Row → List Row → Except String Bool
  | _, _, [] => .ok false
  | index, prior, q :: rest => do
    let waits ← metricPoll go h pub start stage last succeeded prior index q
    let later ← metricPolls stage last succeeded (index + 1) (some q) rest
    pure (waits || later)

def metricStage (stage : MetricStage) : Except String Bool := do
  let reason := "owned_inventory_metrics"
  let m ← historyOne (whereText h.metrics "snapshot_stage" stage.name) reason
  let due := start + stage.due * hour
  let grace := start + stage.grace * hour
  let limit := min now grace
  historyRequire reason [
    .ok (identical (m.field "publication_id") (pub.field "id")),
    isAt go (m.field "effective_start_at") start,
    isAt go (m.field "due_at") due,
    isAt go (m.field "grace_until") grace]
  let succeeded := isText (m.field "status") "succeeded"
  let attempts ← historyInt (m.field "attempt_count")
  let last := if succeeded then attempts - 1 else attempts
  historyRequire reason [
    historyIs (m.field "status") ["pending", "succeeded"],
    .ok (0 ≤ last && last ≤ 1024)]
  historyRequire reason [.ok (identical (m.field "last_error_code")
    (if !succeeded && attempts ≠ 0 then .string "metrics_unavailable"
      else .null))]
  historyRequire reason [
    if attempts ≠ 0 then isBetween go (m.field "last_attempt_at") due limit
    else .ok (isNull (m.field "last_attempt_at"))]
  let chain ← metricChain h m
  historyRequire reason [.ok ((chain.length : Int) = last + 1)]
  let polling ← metricPolls go h pub start stage last succeeded 0 none chain
  let feedback := whereText h.feedback "snapshot_stage" stage.name
  let final := chain.getLastD []
  if succeeded then do
    let done ← go.historyTime (m.field "completed_at")
    historyRequire reason [
      isAt go (m.field "last_attempt_at") done,
      .ok (historyBetween done due limit),
      (go.historyTime (final.field "run_after")).map (· ≤ done),
      .ok (feedback.length = 1)]
    pure polling
  else do
    historyRequire reason [
      .ok (isNull (m.field "completed_at")),
      .ok (now < grace),
      .ok feedback.isEmpty]
    historyRequire reason [
      if attempts ≠ 0 then do
        let run ← go.historyTime (final.field "run_after")
        let tried ← go.historyTime (m.field "last_attempt_at")
        pure (tried < run)
      else .ok true]
    pure (polling || due ≤ now)

def historyMetricsReady : Except String Bool := do
  let reason := "owned_inventory_metrics"
  historyRequire reason [
    .ok (h.metrics.length = historyMetricStages.length)]
  historyRequire reason (h.queues.map fun q =>
    if isText (q.field "kind") "collect_metrics" then do
      let payload ← historyObject (q.field "payload_json")
      isAmong h.metrics (payload.field "metric_schedule_id")
    else .ok true)
  let waits ← historyMetricStages.mapM (metricStage go h pub start now)
  historyRequire reason (h.feedback.map fun f =>
    historyIs (f.field "snapshot_stage") ["1h", "6h", "24h", "72h", "7d"])
  pure (waits.any id)

end

def rowsJson (rows : List Row) : Json := .array (rows.map .object)

def Replacement.json (replacement : Replacement) : Json :=
  .object [("automatic", .object replacement.automatic), ("manual", .object replacement.manual),
    ("reconcile", .object replacement.reconcile),
    ("publish_parent", .object replacement.publishParent)]

/-- What the pass over one task returns: the reason to wait, which may be empty,
whether its item is complete, and the facts that stay. -/
structure Normal where
  wait : String
  complete : Bool
  effect : Option Json

def outstanding : Normal := ⟨"owned_inventory_outstanding", false, none⟩

section

variable (go : Library)

def historyZero : Json := .number ⟨false, 0, [], none⟩

variable (h : TaskHistory)

def requireHealthy (replacement : Option Replacement) : Except String Unit := do
  historyRequire "owned_inventory_task_failed" [
    go.historyEqual (h.task.field "retry_count") historyZero,
    .ok (isNull (h.task.field "failure_reason")),
    .ok (isNull (h.task.field "blocked_by_guard")),
    historyIs (h.task.field "state") ["selected", "planning", "producing",
      "scheduled", "uploaded_private", "measured"]]
  let replaced (q : Row) : Bool := replacement.any fun replacement =>
    identical (q.field "id") (replacement.automatic.field "id")
  historyRequire "owned_inventory_queue_failed"
    ((h.queues.filter fun q => !replaced q).flatMap fun q => [
      historyQueueClean q,
      historyIs (q.field "status") ["queued", "running", "succeeded"],
      .ok (identical (q.field "channel_profile_id") (h.task.field "channel_profile_id"))])
  historyRequire "owned_inventory_job_outcome" [
    if h.job.isEmpty then .ok true
    else historyIs (h.job.field "status") ["SUCCEEDED", "RUNNING", "PENDING",
      "WAITING_WINDOW", "VALIDATING", "PLANNING"]]

/-- The receipt of an upload that has succeeded, when it was attempted and when
it was completed. -/
def uploadReceipt (op : Row) (now : Instant) : Except String (Row × Instant × Instant) := do
  let attempted ← go.historyTime (op.field "request_attempted_at")
  let completed ← go.historyTime (op.field "completed_at")
  let receipt ← historyExact (op.field "receipt_json")
    ["video_id", "url", "title", "privacy", "tags", "quota_estimate"]
  let _ ← historyID (op.field "manager_task_id")
  let video ← historyString (op.field "platform_video_id")
  historyRequire "owned_inventory_receipt" [
    .ok (historyBetween completed attempted now),
    .ok (isVideo video),
    historyIs (op.field "privacy") ["private", "unlisted"],
    go.historyEqual (receipt.field "privacy") (op.field "privacy"),
    go.historyEqual (receipt.field "title") (op.field "title"),
    .ok (isText (receipt.field "video_id") video),
    .ok (isText (receipt.field "url") ("https://www.youtube.com/watch?v=" ++ video))]
  pure (receipt, attempted, completed)

def requireUploadNode (op receipt : Row) (completed : Instant) (n : Row) : Except String Unit := do
  let jobCompleted ← go.historyTime (h.job.field "completed_at")
  historyRequire "owned_inventory_node_receipt" [
    .ok (identical (n.field "id") (op.field "node_execution_id")),
    go.historyEqual (n.field "input_artifact_ids") (.array [op.field "input_artifact_id"]),
    isBetween go (n.field "completed_at") completed jobCompleted]
  let outputs ← historySelect (fun a =>
    if identical (a.field "id") (n.field "output_artifact_id") &&
      identical (a.field "node_execution_id") (n.field "id") &&
      identical (a.field "job_id") (h.job.field "id") then do
      let info ← historyObject (a.field "media_info")
      go.historyEqual (info.field "youtube") (.object receipt)
    else .ok false) h.artifacts
  let _ ← historyOne outputs "owned_inventory_output_receipt"
  pure ()

def requireNodes (op receipt : Row) (completed : Instant) : Except String Unit := do
  let _ ← h.nodes.mapM fun n => do
    historyRequire "owned_inventory_node_outcome" [
      .ok (isText (n.field "status") "SUCCEEDED"),
      .ok (identical (n.field "job_id") (h.job.field "id")),
      .ok (isNull (n.field "error_message"))]
    if isText (n.field "node_type") "youtube_upload" then
      requireUploadNode go h op receipt completed n
    else pure ()
  historyRequire "owned_inventory_upload_node_count" [
    .ok ((whereText h.nodes "node_type" "youtube_upload").length = 1)]

def stableEffect (pub : Row) (replacement : Option Replacement) : Except String Json := do
  let task ← historyFields h.task ["id", "channel_profile_id",
    "target_account_id", "manual_seed_id", "job_id"]
  let publication ← historyFields pub ["id", "production_task_id",
    "account_id", "platform", "platform_content_id", "desired_privacy",
    "current_privacy", "public_at", "uploaded_at", "scheduled_publish_at"]
  pure (.object [("task", .object task), ("operations", rowsJson h.operations),
    ("job", .object h.job), ("nodes", rowsJson h.nodes),
    ("artifacts", rowsJson h.artifacts), ("publication", .object publication),
    ("settled_promotion_replacement", (replacement.map Replacement.json).getD .null)])

def historyPublished (reserved : Bool) (replacement : Option Replacement) (op : Row)
  (attempted completed now : Instant) : Except String Normal :=
  if h.publications.isEmpty && reserved then pure outstanding
  else do
    let pub ← historyOne h.publications "owned_inventory_publication_count"
    historyRequire "owned_inventory_publication_identity" [
      .ok (identical (pub.field "production_task_id") (h.task.field "id")),
      .ok (identical (pub.field "account_id") (h.task.field "target_account_id")),
      .ok (isText (pub.field "platform") "youtube"),
      .ok (identical (pub.field "platform_content_id") (op.field "platform_video_id")),
      .ok (isText (pub.field "desired_privacy") "unlisted"),
      .ok (isNull (pub.field "public_at"))]
    if isText (pub.field "current_privacy") "private" && reserved then
      pure outstanding
    else do
      historyRequire "owned_inventory_publication_privacy" [
        .ok (isText (pub.field "current_privacy") "unlisted"),
        historyIs (pub.field "publish_status") ["uploaded", "scheduled"]]
      if isNull (pub.field "scheduled_publish_at") && reserved &&
        historyPendingPromotion go h pub completed now then pure outstanding
      else do
        let start ← go.historyTime (pub.field "scheduled_publish_at")
        historyRequire "owned_inventory_publication_time" [
          .ok (historyBetween start completed now)]
        let reconciled ← historyReconciled go h pub start
        if !reconciled then pure outstanding
        else do
          let pending ← historyMetricsReady go h pub start now
          let effect ← stableEffect h pub replacement
          let wait :=
            if sub now attempted < 24 * hour || sub now completed < 24 * hour
            then "owned_inventory_cooldown"
            else if pending then "owned_inventory_metrics_pending" else ""
          pure ⟨wait, reserved, some effect⟩

def historyUploaded (reserved : Bool) (replacement : Option Replacement) (now : Instant) :
  Except String Normal := do
  let op ← historyOne h.operations "owned_inventory_operation_count"
  historyRequire "owned_inventory_operation_identity" [
    .ok (identical (op.field "production_task_id") (h.task.field "id")),
    go.historyEqual (op.field "job_id") (h.task.field "job_id"),
    (historyString (op.field "content_sha256")).map isSHA,
    .ok (isNull (op.field "error_message"))]
  if !isText (op.field "status") "succeeded" then do
    historyRequire "owned_inventory_operation_unresolved" [
      .ok reserved,
      historyIs (op.field "status") ["reserved", "attempted", "submitted"]]
    pure outstanding
  else do
    let (receipt, attempted, completed) ← uploadReceipt go op now
    if isText (h.job.field "status") "RUNNING" && reserved then
      pure outstanding
    else do
      historyRequire "owned_inventory_job_receipt" [
        .ok (isText (h.job.field "status") "SUCCEEDED"),
        .ok (identical (h.job.field "id") (op.field "job_id")),
        .ok (isNull (h.job.field "error_message")),
        isBetween go (h.job.field "completed_at") completed now]
      requireNodes go h op receipt completed
      historyPublished go h reserved replacement op attempted completed now

def historyNormal (item : Option Row) (now : Instant) : Except String Normal := do
  let reserved := item.any fun item => isText (item.field "state") "reserved"
  let replacement :=
    if item.isNone then historySettledReplacement go h else none
  requireHealthy go h replacement
  if h.operations.isEmpty && reserved then pure outstanding
  else historyUploaded go h reserved replacement now

end

/-! The whole history. The approved authority, the certificates that it vouches
for and the retired upload are judged elsewhere. -/

structure Authority where
  bindings : List (String × Row)
  certificate : Option Row
  authority : List Json

structure Retired where
  (sourceSHA256 renderSHA256 : List String)
  terminalPaths : List (String × String)

structure Judges where
  /-- The version of a manifest that is accepted. -/
  decodeOwnedHistoryManifest : String → Option Nat
  historyApprovedAuthority : HistoryRows → Instant → Except String Authority
  historyApprovedRetainedTerminal :
    HistoryRows → List (String × Row) → Instant → Except String (List Row)
  historyAssessRetired : OwnedHistorySnapshot → Row → Instant → Except String Retired

inductive UploadClass where
  | retiredUnassignedPreupload
  | historyOnly
  | direct
deriving DecidableEq, Repr

structure Classification where
  operationID : String
  classification : UploadClass
  platformChannelID : Option String
  accountID : String

structure Assessment where
  blockReason : Option String
  classifications : List Classification
  (accountIDs retiredSourceSHA256 retiredRenderSHA256 : List String)
  (authoritySHA256 stableHistorySHA256 : String)
  waitReason : Option String
  completedItemIDs : List String
  terminalPaths : List (String × String)

def historyEmptyAssessment (reason : Option String) : Assessment :=
  ⟨reason, [], [], [], [], "", "", none, [], []⟩

section

variable (go : Library) (judges : Judges)

def nullableString : Json → Except String (Option String)
  | .null => .ok none
  | value => (historyString value).map some

section

variable (rows : HistoryRows) (authority : Authority)

/-- An operation belongs to a task, an account and a channel that are known, and
its account is one of the platform. -/
def classify (op : Row) : Except String Classification := do
  let taskID ← historyReference (op.field "production_task_id")
  let task := findRow rows.productionTasks taskID
  let accountID ← historyReference ((task.getD []).field "target_account_id")
  let account := findRow rows.publishingAccounts accountID
  let channelID ← historyReference ((task.getD []).field "channel_profile_id")
  let channel := findRow rows.channelProfiles channelID
  historyRequire "owned_history_orphan" [
    .ok task.isSome, .ok account.isSome, .ok channel.isSome,
    .ok (identical ((account.getD []).field "channel_profile_id") ((channel.getD []).field "id"))]
  let id ← historyString (op.field "id")
  let account := account.getD []
  let owner ← historyString (account.field "id")
  if authority.certificate.any fun certificate =>
    identical (op.field "id") (certificate.field "operation_id") then
    pure ⟨id, .retiredUnassignedPreupload, none, owner⟩
  else match authority.bindings.find? fun binding => binding.1 = owner with
    | some binding => do
      let platform ← nullableString
        (binding.2.field "canonical_platform_channel_id")
      pure ⟨id, .historyOnly, platform, owner⟩
    | none => do
      let platform := account.field "platform_account_id"
      historyRequire "owned_history_unclassified" [
        go.onYouTube account, .ok (isUC (reference platform))]
      pure ⟨id, .direct, some (reference platform), owner⟩

variable (platformChannelID : String)

def historyMembers : Except String (List String) := do
  let direct ← historySelect (fun account =>
    (go.onYouTube account).map fun youtube => youtube &&
      isText (account.field "platform_account_id") platformChannelID)
    rows.publishingAccounts
  let bound := authority.bindings.filter fun binding =>
    isText (binding.2.field "canonical_platform_channel_id") platformChannelID
  pure (direct.filterMap rowID ++ bound.map Prod.fst)

def historyItems : Except String (List (String × Row)) :=
  (rows.ownedSeedInventoryItems.filter fun item =>
    !isNull (item.field "production_task_id") &&
      isText (item.field "platform_channel_id") platformChannelID).mapM
    fun item => do
      let id ← historyString (item.field "production_task_id")
      pure (id, item)

def itemOf (items : List (String × Row)) (id : String) : Option Row :=
  (items.find? fun entry => entry.1 = id).map Prod.snd

def requireItemAuthority (platformChannelID id : String) (item : Row) : Except String Unit := do
  let reason := "owned_history_item_authority"
  let inv ← historyOne (rows.ownedSeedInventories.filter fun row =>
    identical (row.field "id") (item.field "inventory_id") &&
      !isNull (row.field "approved_at")) reason
  let manifest ← historyObject (inv.field "manifest_json")
  let entries ← historyRows (manifest.field "entries")
  let entry ← historyOne (whereField entries "id" (item.field "id")) reason
  let listed ← historyFields entry ["manual_seed_id", "asset_id",
    "content_sha256"]
  let held ← historyFields item ["manual_seed_id", "asset_id", "content_sha256"]
  let task := (findRow rows.productionTasks id).getD []
  historyRequire reason [
    go.historyEqual (.object listed) (.object held),
    .ok (isText (inv.field "platform_channel_id") platformChannelID),
    .ok (identical (inv.field "channel_profile_id") (task.field "channel_profile_id")),
    .ok (identical (inv.field "target_account_id") (task.field "target_account_id"))]

structure Pass where
  wait : Option String
  completed : List String
  stable : List Json

def qualifiedBy (retained : List Row) (task : Row) : Except String (Option Row) :=
  match whereField retained "task_id" (task.field "id") with
  | [] => .ok none
  | [certificate] => .ok (some certificate)
  | _ => .error "owned_history_retained_terminal_invalid"

def completedIDs (item : Option Row) (normal : Normal) : Except String (List String) :=
  if normal.complete then do
    historyRequire invalid [.ok item.isSome]
    let id ← historyString ((item.getD []).field "id")
    pure [id]
  else pure []

def assessTask (members : List String) (items : List (String × Row)) (retained : List Row)
  (currentTaskID : String) (now : Instant) (pass : Pass) (task : Row) :
  Except String Pass := do
  let id ← historyString (task.field "id")
  let item := itemOf items id
  if id = currentTaskID then pure pass
  else do
    let target ← historyReference (task.field "target_account_id")
    if target ∉ members ∧ item = none then pure pass
    else do
      let h ← historyTask rows task
      let stopped ← historyIs (task.field "state") ["held", "failed",
        "rejected"]
      if stopped && h.operations.isEmpty && item.isNone then pure pass
      else do
        historyRequire "owned_inventory_history_identity" [
          .ok (item.all fun item => identical (task.field "manual_seed_id")
            (item.field "manual_seed_id"))]
        let qualified ← qualifiedBy retained task
        match qualified with
        | some certificate => do
          historyRequire "owned_history_retained_terminal_invalid" [.ok item.isNone]
          pure { pass with
            stable := pass.stable ++ [.object [("retained_terminal_upload",
              certificate.field "retained_facts_sha256")]] }
        | none => do
          let normal ← historyNormal go h item now
          let ids ← completedIDs item normal
          pure {
            wait := if normal.wait = "" then pass.wait else some normal.wait
            completed := pass.completed ++ ids
            stable := pass.stable ++ normal.effect.toList }

end

variable (snapshot : OwnedHistorySnapshot) (now : Instant)

def assessRetired : Option Row → Except String Retired
  | some certificate => judges.historyAssessRetired snapshot certificate now
  | none => pure ⟨[], [], []⟩

variable (currentTaskID : String)

def assessHistory : Except String Assessment := do
  let rows := snapshot.rows
  let age := sub now snapshot.observedAt
  historyRequire "owned_history_observation_stale" [.ok (0 ≤ age && age ≤ 60 * 1000000000)]
  historyRequire "owned_inventory_producer_missing" [.ok (currentTaskID = "" ||
    (findRow rows.productionTasks currentTaskID).isSome)]
  let authority ← judges.historyApprovedAuthority rows now
  let retained ← judges.historyApprovedRetainedTerminal rows authority.bindings
    now
  let retired ← assessRetired judges snapshot now authority.certificate
  let classifications ← rows.youtubeUploadOperations.mapM
    (classify go rows authority)
  let members ← historyMembers go rows authority snapshot.platformChannelID
  let items ← historyItems rows snapshot.platformChannelID
  historyRequire "owned_inventory_missing_task" [.ok (items.all fun entry =>
    (findRow rows.productionTasks entry.1).isSome)]
  historyRequire "owned_history_item_authority" [.ok (items.map Prod.fst).Nodup]
  let _ ← items.mapM fun entry =>
    requireItemAuthority go rows snapshot.platformChannelID entry.1 entry.2
  -- The rows of a table are in the order of their ids.
  let pass ← rows.productionTasks.foldlM
    (assessTask go rows members items retained currentTaskID now) ⟨none, [], []⟩
  let authoritySHA256 ← go.historyHash (.array authority.authority)
  let stableHistorySHA256 ← go.historyHash (.array pass.stable)
  pure {
    blockReason := none
    classifications := classifications
    accountIDs := members.dedup.insertionSort fun left right => ¬ right < left
    retiredSourceSHA256 := retired.sourceSHA256
    retiredRenderSHA256 := retired.renderSHA256
    authoritySHA256 := authoritySHA256
    stableHistorySHA256 := stableHistorySHA256
    waitReason := pass.wait
    completedItemIDs := pass.completed
    terminalPaths := retired.terminalPaths }

/-- A panic blocks. -/
def assessOwnedHistory : Assessment :=
  match assessHistory go judges snapshot now currentTaskID with
  | .ok assessment => assessment
  | .error reason => historyEmptyAssessment (some reason)

def refuse : Option String → Except String Unit
  | some reason => .error reason
  | none => .ok ()

def assessOwnedHistorySnapshot : Assessment :=
  assessOwnedHistory go judges snapshot now ""

end

end VideoProcess.Inventory
