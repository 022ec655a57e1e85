import VideoProcess.ChannelOps.Queue
import VideoProcess.Data.Saturation
import VideoProcess.Program.Basic
import Mathlib.Data.List.Dedup

namespace VideoProcess.ChannelOps

open Data List

/-! What `CleanupExpired` of `cleanup.go` deletes, and what `historyTask` of
`owned_inventory_history.go` collects. -/

def isUuidText (text : String) : Bool :=
  let digit (char : Char) : Bool := char.isDigit || ('a' ≤ char && char ≤ 'f')
  text.length = 36 && text.toList.zipIdx.all fun entry =>
    if entry.2 = 8 ∨ entry.2 = 13 ∨ entry.2 = 18 ∨ entry.2 = 23 then
      entry.1 = '-'
    else digit entry.1

/-- A UUID by its canonical text, `id::text`. -/
abbrev UuidText := { text : String // isUuidText text = true }

namespace Retention

structure ProductionTask where
  id : UuidText
deriving DecidableEq

structure UploadOperation where
  id : UuidText
  productionTaskID : Option UuidText
deriving DecidableEq

structure PublicationRecord where
  (id productionTaskID : UuidText)
  platform : String
deriving DecidableEq

structure MetricSchedule where
  (id publicationID : UuidText)
deriving DecidableEq

structure QueueItem where
  id : UuidText
  parentQueueItemID : Option UuidText
  payloadJSON : Option Payload
  status : String
  updatedAt : Time

structure FeedbackSnapshot where
  (id publicationID : UuidText)
  collectedAt : Time
deriving DecidableEq

structure TickAudit where
  startedAt : Time
  replayStatus : String
deriving DecidableEq

structure Database where
  uploadOperations : List UploadOperation
  publications : List PublicationRecord
  metricSchedules : List MetricSchedule
  queueItems : List QueueItem
  feedback : List FeedbackSnapshot
  tickAudits : List TickAudit
  queueItemIDs : (queueItems.map (·.id)).Nodup

structure RetentionConfig where
  (queueDays auditDays feedbackDays : Int)

def RetentionConfig.withDefaults (config : RetentionConfig) : RetentionConfig where
  queueDays := if config.queueDays ≤ 0 then 30 else config.queueDays
  auditDays := if config.auditDays ≤ 0 then 90 else config.auditDays
  feedbackDays := if config.feedbackDays ≤ 0 then 365 else config.feedbackDays

def day : Time := 24 * 60 * minute

/-- The zero `time.Time`, in microseconds of the Unix epoch. -/
def zeroTime : Time := -62135596800 * 1000000

def withoutDashes (text : List Char) : List Char := text.filter (· ≠ '-')

def idDigits (id : UuidText) : List Char := withoutDashes id.1.toList

def payloadDigits (item : QueueItem) (key : String) : Option (List Char) :=
  (item.payloadJSON.bind fun payload => fieldText payload key).map withoutDashes

def isAmong (text : Option (List Char)) (texts : List (List Char)) : Bool :=
  text.any fun text => text ∈ texts

section

variable (lower : String → String)

section

variable (db : Database)

def evidenceTasks : List UuidText :=
  (db.publications.filter fun publication =>
    lower publication.platform = "youtube").map (·.productionTaskID) ++
  db.uploadOperations.filterMap (·.productionTaskID)

def evidencePublications : List UuidText :=
  (db.publications.filter fun publication =>
    publication.productionTaskID ∈ evidenceTasks lower db).map (·.id)

def evidenceMetricSchedules : List UuidText :=
  (db.metricSchedules.filter fun schedule =>
    schedule.publicationID ∈ evidencePublications lower db).map (·.id)

def queueLink (item : QueueItem) : UuidText × Option UuidText := (item.id, item.parentQueueItemID)

def isEvidenceSeed (item : QueueItem) : Bool :=
  isAmong (payloadDigits item "production_task_id") ((evidenceTasks lower db).map idDigits) ||
  isAmong (payloadDigits item "publication_id") ((evidencePublications lower db).map idDigits) ||
  isAmong (payloadDigits item "metric_schedule_id")
    ((evidenceMetricSchedules lower db).map idDigits)

def joinsRelated (related item : UuidText × Option UuidText) : Bool :=
  some item.1 = related.2 ∨ item.2 = some related.1

def evidenceQueues : List (UuidText × Option UuidText) :=
  let seeds := ((db.queueItems.filter (isEvidenceSeed lower db)).map queueLink).dedup
  Saturation.recurse (db.queueItems.map queueLink) joinsRelated
    (db.queueItems.map queueLink).length seeds seeds

def isExpiredQueueItem (before : Time) (item : QueueItem) : Bool :=
  item.status ∈ ["succeeded", "dead_lettered", "dead_letter"] ∧ item.updatedAt < before ∧
    item.id ∉ (evidenceQueues lower db).map Prod.fst

end

variable (before : Time) (db : Database)

def deleteQueueItems : Database :=
  { db with
    queueItems := db.queueItems.filter fun item =>
      !isExpiredQueueItem lower db before item
    queueItemIDs := db.queueItemIDs.sublist (filter_sublist.map QueueItem.id) }

def deleteTickAudits : Database :=
  { db with
    tickAudits := db.tickAudits.filter fun audit =>
      ¬ (audit.startedAt < before ∧ audit.replayStatus = "legacy_unreplayable") }

def deleteFeedback : Database :=
  { db with
    feedback := db.feedback.filter fun snapshot =>
      ¬ (snapshot.collectedAt < before ∧ snapshot.publicationID ∉ evidencePublications lower db) }

def cleanupExpired (clock now : Time) (config : RetentionConfig) (db : Database) : Database :=
  let config := config.withDefaults
  let now := if now = zeroTime then clock else now
  deleteFeedback lower (now - config.feedbackDays * day)
    (deleteTickAudits (now - config.auditDays * day)
      (deleteQueueItems lower (now - config.queueDays * day) db))

end

/-- A reference in a payload; the lookup of one that is not a scalar panics. -/
def historyReference : Json → Except String String
  | .array _ | .object _ => .error "owned_history_invalid"
  | .string text => .ok text
  | _ => .ok ""

def isReferenced (ids : List UuidText) (value : Json) : Except String Bool :=
  (historyReference value).map fun text => ids.any fun id => id.1 = text

def historyDefaultObject (item : QueueItem) : Except String Payload :=
  match item.payloadJSON with
  | some payload => .ok payload
  | none => .error "owned_history_invalid"

def isTaskID (task : ProductionTask) : Json → Bool
  | .string text => text = task.id.1
  | _ => false

section

variable (db : Database)

section

variable (task : ProductionTask)

def historyPublications : List PublicationRecord :=
  db.publications.filter fun publication =>
    publication.productionTaskID = task.id

def historyMetrics : List MetricSchedule :=
  db.metricSchedules.filter fun schedule =>
    schedule.publicationID ∈ (historyPublications db task).map (·.id)

def isQueueOf (item : QueueItem) : Except String Bool := do
  let payload ← historyDefaultObject item
  if isTaskID task (payload.getD "production_task_id" .null) then .ok true
  else do
    let published ← isReferenced ((historyPublications db task).map (·.id))
      (payload.getD "publication_id" .null)
    if published then .ok true
    else
      isReferenced ((historyMetrics db task).map (·.id)) (payload.getD "metric_schedule_id" .null)

end

def historySelect {ρ : Type} (selected : ρ → Except String Bool) : List ρ → Except String (List ρ)
  | [] => .ok []
  | row :: rows => do
    let chosen ← selected row
    let rest ← historySelect selected rows
    return if chosen then row :: rest else rest

def isRelated (found item : QueueItem) : Bool :=
  found.id = item.id ∨ found.parentQueueItemID = some item.id ∨
    some found.id = item.parentQueueItemID

structure TaskHistory where
  task : ProductionTask
  operations : List UploadOperation
  publications : List PublicationRecord
  metrics : List MetricSchedule
  queues : List QueueItem
  feedback : List FeedbackSnapshot

def historyTask (task : ProductionTask) : Except String TaskHistory := do
  let seeds ← historySelect (isQueueOf db task) db.queueItems
  return {
    task := task
    operations := db.uploadOperations.filter fun operation =>
      operation.productionTaskID = some task.id
    publications := historyPublications db task
    metrics := historyMetrics db task
    queues := Saturation.saturate db.queueItems isRelated db.queueItems.length seeds
    feedback := db.feedback.filter fun snapshot =>
      snapshot.publicationID ∈ (historyPublications db task).map (·.id) }

end

def HasEvidence (lower : String → String) (db : Database) (task : ProductionTask) : Prop :=
  (∃ operation ∈ db.uploadOperations, operation.productionTaskID = some task.id) ∨
  ∃ publication ∈ db.publications, publication.productionTaskID = task.id ∧
    lower publication.platform = "youtube"

section

variable {lower : String → String} {db : Database} {task : ProductionTask} {item : QueueItem}

section

variable (evidence : HasEvidence lower db task)

include evidence

theorem HasEvidence.mem_evidenceTasks : task.id ∈ evidenceTasks lower db := by
  rw [evidenceTasks, mem_append]
  obtain ⟨operation, member, named⟩ | ⟨publication, member, named, youtube⟩ := evidence
  · exact .inr (mem_filterMap.2 ⟨operation, member, named⟩)
  · left
    exact mem_map.2 ⟨publication, mem_filter.2 ⟨member, decide_eq_true youtube⟩, named⟩

theorem HasEvidence.publications_subset :
  (historyPublications db task).map (·.id) ⊆ evidencePublications lower db := by
  apply map_subset
  intro publication member
  obtain ⟨held, named⟩ := mem_filter.1 member
  refine mem_filter.2 ⟨held, decide_eq_true ?_⟩
  rw [of_decide_eq_true named]
  exact evidence.mem_evidenceTasks

theorem HasEvidence.metrics_subset :
  (historyMetrics db task).map (·.id) ⊆ evidenceMetricSchedules lower db := by
  apply map_subset
  intro schedule member
  obtain ⟨held, named⟩ := mem_filter.1 member
  exact mem_filter.2 ⟨held, decide_eq_true
    (evidence.publications_subset (of_decide_eq_true named))⟩

end

variable {ids : List UuidText}

theorem isAmong_payloadDigits {id : UuidText} (object : item.payloadJSON = some payload)
  (named : payload.getD key .null = .string id.1) (member : id ∈ ids) :
  isAmong (payloadDigits item key) (ids.map idDigits) = true := by
  simp only [isAmong, payloadDigits, object, Option.bind_some, fieldText,
    named, Option.map_some, Option.any_some, decide_eq_true_eq]
  exact mem_map.2 ⟨id, member, rfl⟩

theorem uuidText_ne_empty (id : UuidText) : id.1 ≠ "" := by
  intro empty
  have canonical := id.2
  rw [empty] at canonical
  exact absurd canonical (by decide)

theorem eq_string_of_historyReference (read : historyReference value = .ok text)
  (named : text ≠ "") :
  value = .string text := by
  cases value with
  | string =>
    cases read
    rfl
  | array | object => cases read
  | null | bool value | number value =>
    cases read
    exact absurd rfl named

theorem isReferenced_eq_true (referenced : isReferenced ids value = .ok true) :
  ∃ id ∈ ids, value = .string id.1 := by
  unfold isReferenced at referenced
  cases read : historyReference value with
  | error =>
    rw [read] at referenced
    cases referenced
  | ok text =>
    rw [read] at referenced
    obtain ⟨id, member, same⟩ := any_eq_true.1 (Except.ok.inj referenced)
    have same : id.1 = text := of_decide_eq_true same
    refine ⟨id, member, ?_⟩
    rw [same]
    exact eq_string_of_historyReference read (same ▸ uuidText_ne_empty id)

theorem HasEvidence.isEvidenceSeed (evidence : HasEvidence lower db task)
  (selected : isQueueOf db task item = .ok true) :
  isEvidenceSeed lower db item = true := by
  obtain ⟨payload, read, selected⟩ := Program.bind_eq_ok selected
  have object : item.payloadJSON = some payload := by
    unfold historyDefaultObject at read
    split at read
    · cases read
      assumption
    · cases read
  simp only [Retention.isEvidenceSeed, Bool.or_eq_true]
  split at selected
  next own =>
    refine .inl (.inl (isAmong_payloadDigits object ?_ evidence.mem_evidenceTasks))
    unfold isTaskID at own
    split at own
    next found => rw [found, of_decide_eq_true own]
    · cases own
  · obtain ⟨_, referenced, selected⟩ := Program.bind_eq_ok selected
    split at selected
    next yes =>
      rw [yes] at referenced
      obtain ⟨_, member, named⟩ := isReferenced_eq_true referenced
      exact .inl (.inr (isAmong_payloadDigits object named (evidence.publications_subset member)))
    · obtain ⟨_, member, named⟩ := isReferenced_eq_true selected
      exact .inr (isAmong_payloadDigits object named (evidence.metrics_subset member))

def IsEvidence (lower : String → String) (db : Database) (item : QueueItem) : Prop :=
  queueLink item ∈ evidenceQueues lower db

theorem isEvidence_of_seed (member : item ∈ db.queueItems)
  (seed : Retention.isEvidenceSeed lower db item = true) :
  IsEvidence lower db item := by
  apply (Saturation.recurse_seeds _ _ joinsRelated).1
  rw [mem_dedup]
  exact mem_map_of_mem (mem_filter.2 ⟨member, seed⟩)

theorem IsEvidence.related (evidence : IsEvidence lower db found) (held : found ∈ db.queueItems)
  (step : Saturation.Link db.queueItems isRelated found item) :
  IsEvidence lower db item := by
  obtain ⟨member, related⟩ := step
  simp only [isRelated, decide_eq_true_eq] at related
  obtain same | parent | child := related
  · -- The same row: an id has one row only.
    rw [← inj_on_of_nodup_map db.queueItemIDs held member same]
    exact evidence
  · refine (Saturation.recurse_seeds _ _ joinsRelated).2 _ evidence _
      ⟨mem_map_of_mem member, ?_⟩
    simp [joinsRelated, queueLink, parent]
  · refine (Saturation.recurse_seeds _ _ joinsRelated).2 _ evidence _
      ⟨mem_map_of_mem member, ?_⟩
    simp [joinsRelated, queueLink, ← child]

theorem IsEvidence.not_expired (evidence : IsEvidence lower db item)
  (before : Time) : isExpiredQueueItem lower db before item = false := by
  have kept : item.id ∈ (evidenceQueues lower db).map Prod.fst :=
    mem_map.2 ⟨queueLink item, evidence, rfl⟩
  simp [isExpiredQueueItem, kept]

def isChosen (db : Database) (task : ProductionTask) (item : QueueItem) : Bool :=
  match isQueueOf db task item with
  | .ok chosen => chosen
  | .error _ => false

theorem historySelect_eq_ok_iff {rows : List QueueItem} :
  historySelect (isQueueOf db task) rows = .ok found ↔ found = rows.filter (isChosen db task) ∧
    ∀ row ∈ rows, ∃ chosen, isQueueOf db task row = .ok chosen := by
  induction rows generalizing found with
  | nil => simp [historySelect, eq_comm]
  | cons row _ ih =>
    rw [historySelect]
    constructor
    · intro selected
      obtain ⟨chosen, read, selected⟩ := Program.bind_eq_ok selected
      obtain ⟨_, others, selected⟩ := Program.bind_eq_ok selected
      obtain ⟨rfl, total⟩ := ih.1 others
      cases selected
      constructor
      · rw [filter_cons]
        simp only [isChosen, read]
      · intro other member
        obtain rfl | member := mem_cons.1 member
        · exact ⟨chosen, read⟩
        · exact total other member
    · rintro ⟨rfl, total⟩
      obtain ⟨_, read⟩ := total row mem_cons_self
      have others := ih.2 ⟨rfl, fun other member =>
        total other (mem_cons_of_mem row member)⟩
      rw [read, others, filter_cons]
      simp only [isChosen, read]
      rfl

theorem isRelated_self (item : QueueItem) : isRelated item item = true := by
  simp [isRelated]

theorem saturate_deleteQueueItems (evidence : HasEvidence lower db task) (before : Time) :
  Saturation.saturate (deleteQueueItems lower before db).queueItems isRelated
    (deleteQueueItems lower before db).queueItems.length
    ((deleteQueueItems lower before db).queueItems.filter (isChosen db task)) =
    Saturation.saturate db.queueItems isRelated db.queueItems.length
      (db.queueItems.filter (isChosen db task)) := by
  apply Saturation.saturate_filter_rows isRelated_self _ _ (IsEvidence lower db)
  · intro item member chosen
    apply isEvidence_of_seed member
    apply evidence.isEvidenceSeed
    unfold isChosen at chosen
    split at chosen
    next read => rw [read, chosen]
    · cases chosen
  · exact fun found held related item step => related.related held step
  · intro item _ related
    rw [related.not_expired]
    rfl

theorem feedback_cleanupExpired (evidence : HasEvidence lower db task)
  (clock now : Time) (config : RetentionConfig) :
  ((cleanupExpired lower clock now config db).feedback.filter fun snapshot =>
    snapshot.publicationID ∈ (historyPublications db task).map (·.id)) =
  db.feedback.filter fun snapshot =>
    snapshot.publicationID ∈ (historyPublications db task).map (·.id) := by
  simp only [cleanupExpired, deleteFeedback, deleteTickAudits, deleteQueueItems, filter_filter]
  apply filter_congr
  intro snapshot _
  by_cases own : snapshot.publicationID ∈ (historyPublications db task).map (·.id)
  · have kept : snapshot.publicationID ∈ evidencePublications lower db :=
      evidence.publications_subset own
    change (_ && decide ¬ (_ ∧ snapshot.publicationID ∉ evidencePublications lower db)) = _
    simp [own, kept]
  · simp [own]

/-- The cleanup deletes no evidence of a publication and no item that waits or
runs. -/
theorem cleanupExpired_keeps_evidence (lower : String → String)
  (clock now : Time) (config : RetentionConfig) (db : Database) :
  (∀ task history, HasEvidence lower db task → historyTask db task = .ok history →
    ∃ later, historyTask (cleanupExpired lower clock now config db) task = .ok later ∧
      later.queues = history.queues ∧ later.feedback = history.feedback) ∧
  ∀ item ∈ db.queueItems, item.status = "queued" ∨ item.status = "running" →
    item ∈ (cleanupExpired lower clock now config db).queueItems := by
  constructor
  · intro task history evidence collected
    obtain ⟨_, selected, collected⟩ := Program.bind_eq_ok collected
    obtain ⟨rfl, total⟩ := historySelect_eq_ok_iff.1 selected
    cases collected
    have again : historySelect (isQueueOf db task)
      (cleanupExpired lower clock now config db).queueItems =
        .ok ((cleanupExpired lower clock now config db).queueItems.filter
          (isChosen db task)) := by
      refine historySelect_eq_ok_iff.2 ⟨rfl, fun item member => ?_⟩
      exact total item (mem_filter.1 member).1
    refine ⟨_, congrArg (· >>= _) again, ?_, ?_⟩
    · exact saturate_deleteQueueItems evidence _
    · exact feedback_cleanupExpired evidence clock now config
  · intro item member active
    refine mem_filter.2 ⟨member, ?_⟩
    obtain status | status := active <;>
      simp [isExpiredQueueItem, status]

end

def sampleTask : ProductionTask := ⟨⟨"00000000-0000-4000-8000-000000000001", by decide +kernel⟩⟩

def samplePublication : PublicationRecord where
  id := ⟨"00000000-0000-4000-8000-000000000002", by decide +kernel⟩
  productionTaskID := sampleTask.id
  platform := "youtube"

def samplePromotion : QueueItem where
  id := ⟨"00000000-0000-4000-8000-000000000003", by decide +kernel⟩
  parentQueueItemID := none
  payloadJSON := some .empty
  status := "succeeded"
  updatedAt := 0

def sampleReconciliation : QueueItem where
  id := ⟨"00000000-0000-4000-8000-000000000004", by decide +kernel⟩
  parentQueueItemID := some samplePromotion.id
  payloadJSON :=
    some (Dict.empty.set "publication_id" (.string samplePublication.id.1))
  status := "succeeded"
  updatedAt := 0

def sampleDatabase : Database where
  uploadOperations := []
  publications := [samplePublication]
  metricSchedules := []
  queueItems := [samplePromotion, sampleReconciliation]
  feedback := []
  tickAudits := []
  queueItemIDs := by decide +kernel

def sampleCleanup : Database := cleanupExpired id 0 (1000 * day) ⟨0, 0, 0⟩ sampleDatabase

theorem cleanupExpired_keeps_sample : HasEvidence id sampleDatabase sampleTask ∧
  ∃ history later, historyTask sampleDatabase sampleTask = .ok history ∧
    historyTask sampleCleanup sampleTask = .ok later ∧
    later.queues = history.queues := by
  have evidence : HasEvidence id sampleDatabase sampleTask :=
    .inr ⟨samplePublication, mem_singleton.2 rfl, rfl, rfl⟩
  obtain ⟨history, collected⟩ : ∃ history, historyTask sampleDatabase sampleTask = .ok history :=
    ⟨_, rfl⟩
  obtain ⟨later, again, same, -⟩ := (cleanupExpired_keeps_evidence id 0
    (1000 * day) ⟨0, 0, 0⟩ sampleDatabase).1 sampleTask history evidence collected
  exact ⟨evidence, history, later, collected, again, same⟩

end Retention

end VideoProcess.ChannelOps
