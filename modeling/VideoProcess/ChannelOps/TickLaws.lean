import VideoProcess.ChannelOps.Tick

namespace VideoProcess.ChannelOps.Tick

open Data GoText Program List

/-! What a transaction that succeeded has done. -/

namespace Tx

variable {α β γ : Type} {session final : Session} {rest : α → Tx β}

theorem bind_eq_ok {result : β} (succeeded : (first >>= rest) session = .ok (result, final)) :
  ∃ value middle, first session = .ok (value, middle) ∧
    rest value middle = .ok (result, final) := by
  have unfolded : (first session >>= fun reply => rest reply.1 reply.2) =
    .ok (result, final) := succeeded
  obtain ⟨⟨value, middle⟩, done, remaining⟩ := Program.bind_eq_ok unfolded
  exact ⟨value, middle, done, remaining⟩

theorem pure_eq_ok {result : α} (succeeded : (pure value : Tx α) session = .ok (result, final)) :
  result = value ∧ session = final := by
  cases succeeded
  exact ⟨rfl, rfl⟩

theorem attempt_eq_ok {result : α} (succeeded : attempt outcome session = .ok (result, final)) :
  outcome = .ok result ∧ session = final := by
  cases outcome with
  | error => cases succeeded
  | ok =>
    cases succeeded
    exact ⟨rfl, rfl⟩

theorem attempt_bind_eq_ok {result : β}
  (succeeded : (attempt outcome >>= rest) session = .ok (result, final)) :
  ∃ value, outcome = .ok value ∧ rest value session = .ok (result, final) := by
  obtain ⟨value, _, done, remaining⟩ := bind_eq_ok succeeded
  obtain ⟨passed, rfl⟩ := attempt_eq_ok done
  exact ⟨value, passed, remaining⟩

theorem genRandomUUID_eq_ok {id : Uuid} (succeeded : genRandomUUID session = .ok (id, final)) :
  session.uuids = id :: final.uuids ∧ final.tables = session.tables := by
  cases drawn : session.uuids with
  | nil => simp [genRandomUUID, drawn] at succeeded
  | cons =>
    simp only [genRandomUUID, drawn, Except.ok.injEq, Prod.mk.injEq] at succeeded
    obtain ⟨rfl, rfl⟩ := succeeded
    exact ⟨rfl, rfl⟩

theorem read_eq_ok {tables : Tables} (succeeded : read session = .ok (tables, final)) :
  tables = session.tables ∧ session = final := by
  cases succeeded
  exact ⟨rfl, rfl⟩

variable {result : Unit}

theorem write_eq_ok {change : Tables → Option Tables}
  (succeeded : write change session = .ok (result, final)) :
  change session.tables = some final.tables ∧ final.uuids = session.uuids := by
  cases changed : change session.tables with
  | none => simp [write, changed] at succeeded
  | some =>
    simp only [write, changed, Except.ok.injEq, Prod.mk.injEq] at succeeded
    obtain ⟨-, rfl⟩ := succeeded
    exact ⟨rfl, rfl⟩

theorem change_eq_ok {change : Tables → Except TickError Tables}
  (succeeded : Tx.change change session = .ok (result, final)) :
  change session.tables = .ok final.tables ∧ final.uuids = session.uuids := by
  cases changed : change session.tables with
  | error => simp [Tx.change, changed] at succeeded
  | ok =>
    simp only [Tx.change, changed, Except.ok.injEq, Prod.mk.injEq] at succeeded
    obtain ⟨-, rfl⟩ := succeeded
    exact ⟨rfl, rfl⟩

def Fixes (part : Tables → γ) (act : Tx α) : Prop :=
  ∀ session result final, act session = .ok (result, final) →
    part final.tables = part session.tables ∧ final.uuids ⊆ session.uuids

namespace Fixes

variable {part : Tables → γ}

theorem bind (fixesFirst : Fixes part first) (fixesRest : ∀ value, Fixes part (rest value)) :
  Fixes part (first >>= rest) := by
  intro session result final succeeded
  obtain ⟨value, middle, done, remaining⟩ := bind_eq_ok succeeded
  have earlier := fixesFirst session value middle done
  have later := fixesRest value middle result final remaining
  exact ⟨later.1.trans earlier.1, List.Subset.trans later.2 earlier.2⟩

theorem pure (value : α) : Fixes part (Pure.pure value : Tx α) := by
  intro session result final succeeded
  obtain ⟨-, rfl⟩ := pure_eq_ok succeeded
  exact ⟨rfl, List.Subset.refl _⟩

theorem attempt (outcome : Except TickError α) : Fixes part (Tx.attempt outcome) := by
  intro session result final succeeded
  obtain ⟨-, rfl⟩ := attempt_eq_ok succeeded
  exact ⟨rfl, List.Subset.refl _⟩

theorem genRandomUUID : Fixes part Tx.genRandomUUID := by
  intro session id final succeeded
  obtain ⟨drawn, same⟩ := genRandomUUID_eq_ok succeeded
  rw [same, drawn]
  exact ⟨rfl, subset_cons_self id final.uuids⟩

theorem read : Fixes part Tx.read := by
  intro session tables final succeeded
  obtain ⟨-, rfl⟩ := read_eq_ok succeeded
  exact ⟨rfl, List.Subset.refl _⟩

theorem write {change : Tables → Option Tables}
  (fixes : ∀ tables changed, change tables = some changed →
    part changed = part tables) : Fixes part (Tx.write change) := by
  intro session result final succeeded
  obtain ⟨changed, same⟩ := write_eq_ok succeeded
  rw [same]
  exact ⟨fixes _ _ changed, List.Subset.refl _⟩

theorem of (fixes : Fixes part act) (narrow : γ → δ) :
  Fixes (fun tables => narrow (part tables)) act := by
  intro session result final succeeded
  obtain ⟨same, drawn⟩ := fixes session result final succeeded
  exact ⟨congrArg narrow same, drawn⟩

theorem change {change : Tables → Except TickError Tables}
  (fixes : ∀ tables changed, change tables = .ok changed →
    part changed = part tables) : Fixes part (Tx.change change) := by
  intro session result final succeeded
  obtain ⟨changed, same⟩ := change_eq_ok succeeded
  rw [same]
  exact ⟨fixes _ _ changed, List.Subset.refl _⟩

end Fixes

end Tx

variable (services : Services)

section

open Tx

def output (tables : Tables) := (tables.tasks, tables.items, tables.entries)

variable (policy : PolicyVersion)

theorem fixes_insertPolicyVersion :
  Fixes (fun tables => (output tables, tables.audits)) (insertPolicyVersion policy) := by
  refine .bind .genRandomUUID fun id => .write fun tables changed written => ?_
  split at written
  · cases written
    rfl
  · obtain ⟨_, -, rfl⟩ := Option.map_eq_some_iff.1 written
    rfl

theorem fixes_resolvePolicyVersion :
  Fixes (fun tables => (output tables, tables.audits)) (resolvePolicyVersion services policy) :=
  .bind (.attempt _) fun _ => .bind (fixes_insertPolicyVersion policy)
    fun _ => .bind .read fun _ => .attempt _

theorem fixes_upsert (row : AgentTickAuditRow) : Fixes output (upsert row) := by
  intro session id final succeeded
  unfold upsert at succeeded
  split at succeeded
  · cases succeeded
  next written =>
    cases succeeded
    refine ⟨?_, List.Subset.refl _⟩
    unfold upsertAudit at written
    split at written
    · obtain ⟨_, -, pair⟩ := Option.map_eq_some_iff.1 written
      cases pair
      rfl
    · split at written <;> cases written <;> rfl

section

variable (tickID policyID : Uuid)

theorem fixes_insertCandidateSnapshot (snapshot : CandidateSnapshot) (ids : Dict String Uuid) :
  Fixes (fun tables => (output tables, tables.audits))
    (insertCandidateSnapshot tickID policyID snapshot ids) := by
  refine .bind .genRandomUUID fun id => .bind (.write fun tables changed written => ?_)
    fun _ => .bind (.attempt _) fun _ => .pure _
  obtain ⟨_, -, rfl⟩ := Option.map_eq_some_iff.1 written
  rfl

theorem fixes_insertSnapshotRows (snapshots : List CandidateSnapshot) (ids : Dict String Uuid) :
  Fixes (fun tables => (output tables, tables.audits))
    (insertSnapshotRows tickID policyID snapshots ids) := by
  induction snapshots generalizing ids with
  | nil => exact .pure _
  | cons snapshot _ ih =>
    exact .bind (fixes_insertCandidateSnapshot tickID policyID snapshot ids) ih

theorem fixes_insertCandidateSnapshots (set : SnapshotSet) :
  Fixes (fun tables => (output tables, tables.audits))
    (insertCandidateSnapshots services tickID policyID set) :=
  .bind (.attempt _) fun _ => fixes_insertSnapshotRows tickID policyID _ _

end

theorem fixes_insertDecisionAuditEntry (tickID channel : Uuid)
  (candidate : TickCandidate) (ids : Dict String Uuid) :
  Fixes (fun tables => (tables.tasks, tables.items, tables.audits))
    (insertDecisionAuditEntry tickID channel candidate ids) := by
  refine .bind (.attempt _) fun _ => .bind .genRandomUUID fun id => .bind
    (.write fun tables changed written => ?_) fun _ => .pure _
  obtain ⟨_, -, rfl⟩ := Option.map_eq_some_iff.1 written
  rfl

theorem fixes_insertDecisionAuditEntries (tickID channel : Uuid)
  (candidates : List TickCandidate) (ids : Dict String Uuid) :
  Fixes (fun tables => (tables.tasks, tables.items, tables.audits))
    (insertDecisionAuditEntries tickID channel candidates ids) := by
  induction candidates generalizing ids with
  | nil => exact .pure _
  | cons candidate _ ih =>
    exact .bind (fixes_insertDecisionAuditEntry tickID channel candidate ids) ih

theorem fixes_enqueueRow (now : Time) (options : EnqueueOptions) :
  Fixes (fun tables => (tables.tasks, tables.entries, tables.audits))
    (enqueueRow services now options) := by
  refine .bind .genRandomUUID fun id => .write fun tables changed written => ?_
  obtain ⟨_, -, rfl⟩ := Option.map_eq_some_iff.1 written
  rfl

theorem fixes_enqueueAlerts (now : Time) (alerts : List AlertPayload) :
  Fixes (fun tables => (tables.tasks, tables.entries, tables.audits))
    (enqueueAlerts services now alerts) := by
  induction alerts with
  | nil => exact .pure _
  | cons _ _ ih =>
    exact .bind (.bind (.attempt _) fun channel =>
      fixes_enqueueRow services now _) fun _ => ih

theorem fixes_markDiscoverySignalConverted (taskID : Uuid) (signal : Option Uuid) :
  Fixes (fun tables => (output tables, tables.audits))
    (Tx.change (markDiscoverySignalConverted taskID signal)) := by
  refine .change fun tables changed done => ?_
  unfold markDiscoverySignalConverted at done
  split at done
  · cases done
    rfl
  · split at done <;> cases done
    rfl

theorem fixes_attachDecisionAuditTask (auditID : Option Uuid) (taskID : Uuid) :
  Fixes (fun tables => (tables.tasks, tables.items, tables.audits))
    (Tx.change (attachDecisionAuditTask auditID taskID)) := by
  refine .change fun tables changed done => ?_
  unfold attachDecisionAuditTask at done
  split at done
  · cases done
  · split at done <;> cases done
    rfl

theorem fixes_insertProductionTask (channel : ChannelProfileRow)
  (candidate : TickCandidate) (now : Time) :
  Fixes (fun tables => (tables.items, tables.entries, tables.audits))
    (insertProductionTask channel candidate now) := by
  refine .bind (.attempt _) fun account => .bind .genRandomUUID fun id =>
    .bind (.write fun tables changed written => ?_) fun _ => .pure _
  obtain ⟨_, -, rfl⟩ := Option.map_eq_some_iff.1 written
  rfl

theorem fixes_createTasks (preparation : TickPreparation) (write : SnapshotAuditWrite) (now : Time)
  (candidates : List TickCandidate) :
  Fixes Tables.audits (createTasks services preparation write now candidates) := by
  induction candidates with
  | nil => exact .pure _
  | cons _ _ ih =>
    refine .bind ?_ fun _ => ih
    exact .bind ((fixes_insertProductionTask _ _ _).of fun part => part.2.2) fun taskID => .bind
      ((fixes_markDiscoverySignalConverted taskID _).of Prod.snd)
      fun _ => .bind ((fixes_attachDecisionAuditTask _ taskID).of fun part => part.2.2)
        fun _ => (fixes_enqueueRow services now _).of fun part => part.2.2

theorem fixes_pauseChannelIntake (options : AgentTickOptions) (id : Uuid) (now : Time) :
  Fixes (fun tables => (output tables, tables.audits))
    (Tx.change (pauseChannelIntake options id now)) := by
  refine .change fun tables changed done => ?_
  unfold pauseChannelIntake at done
  split at done
  · cases done
    rfl
  · split at done <;> cases done
    rfl

variable (write : SnapshotAuditWrite)

theorem fixes_sealEntry (snapshot : CandidateSnapshot) :
  Fixes (fun tables => (tables.tasks, tables.items, tables.audits))
    (Tx.change (sealEntry write snapshot)) := by
  refine .change fun tables changed done => ?_
  unfold sealEntry at done
  split at done
  · split at done <;> cases done
    rfl
  · cases done

theorem fixes_sealEntries (snapshots : List CandidateSnapshot) :
  Fixes (fun tables => (tables.tasks, tables.items, tables.audits))
    (sealEntries write snapshots) := by
  induction snapshots with
  | nil => exact .pure _
  | cons snapshot _ ih => exact .bind (fixes_sealEntry write snapshot) fun _ => ih

theorem fixes_completeAudit : Fixes output (Tx.change (completeAudit write)) := by
  refine .change fun tables changed done => ?_
  unfold completeAudit at done
  split at done <;> cases done
  rfl

end

def DecisionAuditEntryRow.said (entry : DecisionAuditEntryRow) : String × Bool × Option Uuid :=
  (entry.candidateID, entry.selected, entry.createdTaskID)

structure Recorded (candidates : List TickCandidate)
  (rows : List DecisionAuditEntryRow) (ids : Dict String Uuid) : Prop where
  said : rows.map DecisionAuditEntryRow.said = candidates.map
    fun candidate => (candidate.candidateID, !candidate.rejected, none)
  identified : ∀ row ∈ rows, ids.get? row.candidateID = some row.id
  distinct : (candidates.map TickCandidate.candidateID).Nodup

variable {result done : Unit} {tickID channel taskID auditID policyID : Uuid}
  {candidate : TickCandidate} {ids : Dict String Uuid}
  {session final start opened : Session} {candidates : List TickCandidate}
  {now : Time} {rows : List DecisionAuditEntryRow}
  {made tasks : List ProductionTaskRow} {task : ProductionTaskRow}
  {tables changed : Tables} {preparation : TickPreparation}
  {alerts : List AlertPayload} {row : AgentTickAuditRow}

theorem ensure_eq_ok (passed : ensure condition error = .ok result) : condition = true := by
  cases condition with
  | false => cases passed
  | true => rfl

theorem insertDecisionAuditEntry_eq_ok {result : Dict String Uuid}
  (succeeded : insertDecisionAuditEntry tickID channel candidate ids
    session = .ok (result, final)) :
  ∃ id, session.uuids = id :: final.uuids ∧ ids.get? candidate.candidateID = none ∧
    result = ids.set candidate.candidateID id ∧
    session.tables.entries.insert (decisionEntry id tickID channel candidate) =
      some final.tables.entries := by
  unfold insertDecisionAuditEntry at succeeded
  obtain ⟨_, passed, checked⟩ := Tx.attempt_bind_eq_ok succeeded
  obtain ⟨id, _, taken, identified⟩ := Tx.bind_eq_ok checked
  obtain ⟨uuids, same⟩ := Tx.genRandomUUID_eq_ok taken
  obtain ⟨_, _, write, returned⟩ := Tx.bind_eq_ok identified
  obtain ⟨wrote, rest⟩ := Tx.write_eq_ok write
  obtain ⟨rfl, rfl⟩ := Tx.pure_eq_ok returned
  obtain ⟨_, inserted, stored⟩ := Option.map_eq_some_iff.1 wrote
  have unknown := ensure_eq_ok passed
  simp only [Bool.and_eq_true, Option.isNone_iff_eq_none] at unknown
  refine ⟨id, by rw [uuids, rest], unknown.2, rfl, ?_⟩
  rw [← same, inserted, ← stored]

variable {before : Tables}

theorem recorded_insertDecisionAuditEntries {result : Dict String Uuid}
  (fresh : ∀ id ∈ session.uuids, before.entries.find? id = none)
  (succeeded : insertDecisionAuditEntries tickID channel candidates ids
    session = .ok (result, final)) :
  ∃ rows, (before.entries.created final.tables.entries).Perm
    (rows ++ before.entries.created session.tables.entries) ∧
    Recorded candidates rows result ∧
    (∀ key id, ids.get? key = some id → result.get? key = some id) ∧
    ∀ candidate ∈ candidates, ids.get? candidate.candidateID = none := by
  induction candidates generalizing ids session with
  | nil =>
    obtain ⟨rfl, rfl⟩ := Tx.pure_eq_ok succeeded
    exact ⟨[], .refl _, ⟨rfl, by simp, .nil⟩, by simp, by simp⟩
  | cons candidate rest ih =>
    obtain ⟨_, _, first, remaining⟩ := Tx.bind_eq_ok succeeded
    obtain ⟨id, drawn, unknown, rfl, inserted⟩ := insertDecisionAuditEntry_eq_ok first
    rw [drawn] at fresh
    obtain ⟨rows, added, recorded, kept, new⟩ := ih
      (fun other member => fresh other (mem_cons_of_mem id member))
      remaining
    have head : (ids.set candidate.candidateID id).get?
      candidate.candidateID = some id := by simp [Dict.get?_set]
    have apart : ∀ other ∈ rest, other.candidateID ≠ candidate.candidateID := by
      intro other member same
      have absent := new other member
      rw [same, head] at absent
      cases absent
    refine ⟨decisionEntry id tickID channel candidate :: rows, ?_, ⟨?_, ?_, ?_⟩, ?_, ?_⟩
    · refine added.trans ((Table.created_insert inserted
        (fresh id (by simp))).append_left rows |>.trans ?_)
      exact perm_middle
    · rw [map_cons, map_cons, recorded.said]
      rfl
    · intro row member
      rcases mem_cons.1 member with rfl | member
      · exact kept _ _ head
      · exact recorded.identified row member
    · rw [map_cons, nodup_cons]
      refine ⟨fun repeated => ?_, recorded.distinct⟩
      obtain ⟨other, member, same⟩ := mem_map.1 repeated
      exact apart other member same
    · intro key value known
      refine kept key value ?_
      rw [Dict.get?_set]
      split
      next same =>
        subst same
        rw [unknown] at known
        cases known
      · exact known
    · intro other member
      rcases mem_cons.1 member with rfl | member
      · exact unknown
      · have absent := new other member
        rw [Dict.get?_set] at absent
        split at absent
        · cases absent
        · exact absent

theorem planTaskKey_injective (leftSmall : left < uuidCount) (rightSmall : right < uuidCount)
  (same : planTaskKey left = planTaskKey right) : left = right := by
  have texts : uuidText left = uuidText right :=
    append_cancel_left (String.ofList_injective same)
  rw [← uuidValue_uuidText leftSmall, texts, uuidValue_uuidText rightSmall]

theorem insertProductionTask_eq_ok {channel : ChannelProfileRow}
  (succeeded : insertProductionTask channel candidate now session = .ok (taskID, final)) :
  ∃ task : ProductionTaskRow, task.id = taskID ∧ task.candidateID = candidate.candidateID ∧
    session.uuids = taskID :: final.uuids ∧
    session.tables.tasks.insert task = some final.tables.tasks := by
  unfold insertProductionTask at succeeded
  obtain ⟨_, -, checked⟩ := Tx.attempt_bind_eq_ok succeeded
  obtain ⟨_, _, taken, identified⟩ := Tx.bind_eq_ok checked
  obtain ⟨uuids, same⟩ := Tx.genRandomUUID_eq_ok taken
  obtain ⟨_, _, write, returned⟩ := Tx.bind_eq_ok identified
  obtain ⟨wrote, rest⟩ := Tx.write_eq_ok write
  obtain ⟨rfl, rfl⟩ := Tx.pure_eq_ok returned
  obtain ⟨_, inserted, stored⟩ := Option.map_eq_some_iff.1 wrote
  rw [same] at inserted
  have placed := inserted.trans (congrArg some (congrArg Tables.tasks stored))
  exact ⟨_, rfl, rfl, by rw [uuids, rest], placed⟩

theorem enqueueRow_eq_ok {options : EnqueueOptions}
  (succeeded : enqueueRow services now options session = .ok (result, final)) :
  ∃ fresh, session.uuids = fresh :: final.uuids ∧ (((∃ row ∈ session.tables.items.rows,
    row.idempotencyKey = options.idempotencyKey) ∧
    final.tables.items = session.tables.items) ∨
    session.tables.items.insert (options.row services.configuredMaxAttempts now fresh) =
      some final.tables.items) := by
  unfold enqueueRow at succeeded
  obtain ⟨fresh, _, taken, identified⟩ := Tx.bind_eq_ok succeeded
  obtain ⟨uuids, same⟩ := Tx.genRandomUUID_eq_ok taken
  obtain ⟨wrote, rest⟩ := Tx.write_eq_ok identified
  obtain ⟨enqueued, done, stored⟩ := Option.map_eq_some_iff.1 wrote
  refine ⟨fresh, by rw [uuids, rest], ?_⟩
  rw [same] at done stored
  have items : final.tables.items = enqueued.2 := by rw [← stored]
  unfold enqueue at done
  split at done
  next row found =>
    cases done
    exact .inl ⟨⟨row, mem_of_find?_eq_some found, by simpa using find?_some found⟩, items⟩
  · obtain ⟨_, inserted, rfl⟩ := Option.map_eq_some_iff.1 done
    exact .inr (inserted.trans (congrArg some items.symm))

def assign (made : List ProductionTaskRow) (entry : DecisionAuditEntryRow) :
  DecisionAuditEntryRow :=
  { entry with
    createdTaskID := (made.find? fun task =>
      task.candidateID = entry.candidateID).map fun task => task.id }

def QueueItemRow.isPlanTask (item : QueueItemRow) : Bool := item.kind = .planTask

def plannedTask (item : QueueItemRow) : Option (List Char) :=
  fieldText item.payloadJSON "production_task_id"

/-- A transaction that began at `before` and has entered `rows` has made the
tasks `made`, the last one first. -/
structure Progress (before : Tables) (rows : List DecisionAuditEntryRow)
  (made : List ProductionTaskRow) (session : Session) : Prop where
  tasks : (before.tasks.created session.tables.tasks).Perm made
  entries : (before.entries.created session.tables.entries).Perm (rows.map (assign made))
  items : (((before.items.created session.tables.items).filter
    QueueItemRow.isPlanTask).map plannedTask).Perm (made.map fun task => some (uuidText task.id))
  keys : ∀ id ∈ session.uuids, ∀ item ∈ session.tables.items.rows,
    item.idempotencyKey = planTaskKey id → ∃ task ∈ session.tables.tasks.rows, task.id = id
  small : ∀ id ∈ session.uuids, id < uuidCount
  newTask : ∀ id ∈ session.uuids, before.tasks.find? id = none
  newItem : ∀ id ∈ session.uuids, before.items.find? id = none

theorem map_attach_assign (identified : ∀ row ∈ rows,
  row.id = auditID ↔ row.candidateID = task.candidateID) :
  ((rows.map (assign made)).map fun row =>
    if decide (row.id = auditID) then row.attach task.id else row) =
      rows.map (assign (task :: made)) := by
  rw [map_map]
  refine map_congr_left fun row member => ?_
  have identity : (assign made row).id = row.id := rfl
  by_cases same : row.candidateID = task.candidateID
  · simp [assign, DecisionAuditEntryRow.attach, same, (identified row member).2 same]
  · have other : row.id ≠ auditID := fun clash => same ((identified row member).1 clash)
    simp [assign, other, Ne.symm same]

theorem plannedTask_row (configured : Int) (now fresh : _)
  (channel : ChannelProfileRow) (taskID : Uuid) (runAfter : Time) :
  plannedTask ((planTaskOptions channel taskID runAfter).row configured now
    fresh) = some (uuidText taskID) := by
  have stored : ((planTaskOptions channel taskID runAfter).row configured now
    fresh).payloadJSON.getD "production_task_id" .null =
      .string (String.ofList (uuidText taskID)) := by
    simp [planTaskOptions, EnqueueOptions.row, Dict.getD_set]
  simp [plannedTask, fieldText, stored]

theorem isPlanTask_row (configured : Int) (now fresh : _)
  (channel : ChannelProfileRow) (taskID : Uuid) (runAfter : Time) :
  QueueItemRow.isPlanTask ((planTaskOptions channel taskID runAfter).row
    configured now fresh) = true := by
  simp [QueueItemRow.isPlanTask, EnqueueOptions.row, planTaskOptions]

theorem attachDecisionAuditTask_eq_ok {auditID : Option Uuid}
  (succeeded : attachDecisionAuditTask auditID taskID tables = .ok changed) :
  ∃ id, auditID = some id ∧ changed.entries = tables.entries.update (fun row => row.id = id)
    (DecisionAuditEntryRow.attach taskID)
    (DecisionAuditEntryRow.id_attach taskID) := by
  unfold attachDecisionAuditTask at succeeded
  split at succeeded
  · cases succeeded
  next id =>
    split at succeeded <;> cases succeeded
    exact ⟨id, rfl, rfl⟩

structure Created (write : SnapshotAuditWrite) (candidate : TickCandidate)
  (options : Uuid → EnqueueOptions) (configured : Int) (now : Time)
  (session final : Session) (task : ProductionTaskRow)
  (auditID fresh : Uuid) : Prop where
  named : task.candidateID = candidate.candidateID
  drawn : task.id ∈ session.uuids
  drawnItem : fresh ∈ session.uuids
  later : final.uuids ⊆ session.uuids
  placed : session.tables.tasks.insert task = some final.tables.tasks
  audit : write.decisionIDs.get? candidate.candidateID = some auditID
  entry : final.tables.entries = session.tables.entries.update (fun row => row.id = auditID)
    (DecisionAuditEntryRow.attach task.id)
    (DecisionAuditEntryRow.id_attach task.id)
  item : ((∃ row ∈ session.tables.items.rows,
    row.idempotencyKey = (options task.id).idempotencyKey) ∧
    final.tables.items = session.tables.items) ∨
    session.tables.items.insert ((options task.id).row configured now fresh) =
      some final.tables.items

variable {write : SnapshotAuditWrite}

theorem createTask_eq_ok (succeeded : createTask services preparation write now candidate session =
  .ok (result, final)) :
  ∃ task auditID fresh, Created write candidate
    (fun taskID => planTaskOptions preparation.channel taskID
      (preparation.now + preparation.options.planDelay))
    services.configuredMaxAttempts now session final task auditID fresh := by
  unfold createTask at succeeded
  obtain ⟨_, inserted, insert, afterInsert⟩ := Tx.bind_eq_ok succeeded
  obtain ⟨_, marked, mark, afterMark⟩ := Tx.bind_eq_ok afterInsert
  obtain ⟨_, attached, attach, enqueued⟩ := Tx.bind_eq_ok afterMark
  obtain ⟨task, rfl, named, drawn, placed⟩ := insertProductionTask_eq_ok insert
  obtain ⟨insertFixed, -⟩ := fixes_insertProductionTask preparation.channel
    candidate preparation.now session task.id inserted insert
  obtain ⟨markFixed, markUuids⟩ := fixes_markDiscoverySignalConverted task.id
    candidate.discoverySignal inserted _ marked mark
  obtain ⟨attachFixed, attachUuids⟩ := fixes_attachDecisionAuditTask _ task.id
    marked _ attached attach
  obtain ⟨enqueueFixed, -⟩ := fixes_enqueueRow services now _ attached result final enqueued
  obtain ⟨fresh, drawnItem, item⟩ := enqueueRow_eq_ok services enqueued
  obtain ⟨auditID, audit, entry⟩ := attachDecisionAuditTask_eq_ok (Tx.change_eq_ok attach).1
  simp only [output, Prod.mk.injEq] at insertFixed markFixed
  simp only [Prod.mk.injEq] at attachFixed enqueueFixed
  have items : attached.tables.items = session.tables.items := by
    rw [attachFixed.2.1, markFixed.1.2.1, insertFixed.1]
  have remaining : attached.uuids ⊆ session.uuids := by
    rw [drawn]
    exact List.Subset.trans (List.Subset.trans attachUuids markUuids) (subset_cons_self _ _)
  rw [drawnItem] at remaining
  refine ⟨task, auditID, fresh, named, by simp [drawn],
    remaining (by simp), fun id member => remaining (by simp [member]),
    ?_, audit, ?_, ?_⟩
  · rw [enqueueFixed.1, attachFixed.1, markFixed.1.1]
    exact placed
  · rw [enqueueFixed.2.1, entry, markFixed.1.2.2, insertFixed.2.1]
  · rw [← items]
    exact item

theorem progress_createTask {channel : ChannelProfileRow}
  (progress : Progress before rows made session)
  (created : Created write candidate
    (fun taskID => planTaskOptions channel taskID runAfter) configured now
    session final task auditID fresh) (identified : ∀ row ∈ rows,
    row.id = auditID ↔ row.candidateID = candidate.candidateID) :
  Progress before rows (task :: made) final := by
  have new : ∀ other ∈ session.tables.tasks.rows, other.id ≠ task.id :=
    (Table.insert_eq_some_iff.1 created.placed).1
  have kept : ∀ other, other ∈ final.tables.tasks.rows ↔
    other = task ∨ other ∈ session.tables.tasks.rows := by
    intro other
    rw [(Table.insert_eq_some_iff.1 created.placed).2]
    exact Table.mem_place
  -- The key of a new task is free, so its item is a new one.
  have placed : session.tables.items.insert
    ((planTaskOptions channel task.id runAfter).row configured now fresh) =
      some final.tables.items := by
    rcases created.item with ⟨⟨row, member, key⟩, -⟩ | placed
    · obtain ⟨other, otherMember, clash⟩ := progress.keys task.id created.drawn row member key
      exact absurd clash (new other otherMember)
    · exact placed
  refine ⟨?_, ?_, ?_, ?_, ?_, ?_, ?_⟩
  · exact (Table.created_insert created.placed
      (progress.newTask task.id created.drawn)).trans (progress.tasks.cons task)
  · rw [created.entry, Table.created_update, ← map_attach_assign
      (fun row member => by rw [created.named]; exact identified row member)]
    exact progress.entries.map _
  · have added := Table.created_insert placed (progress.newItem fresh created.drawnItem)
    refine ((added.filter QueueItemRow.isPlanTask).map plannedTask).trans ?_
    rw [filter_cons_of_pos (isPlanTask_row ..), map_cons, map_cons, plannedTask_row]
    exact progress.items.cons _
  · intro id member item itemMember key
    rw [(Table.insert_eq_some_iff.1 placed).2, Table.mem_place] at itemMember
    rcases itemMember with rfl | itemMember
    · refine ⟨task, (kept task).2 (.inl rfl), ?_⟩
      exact planTaskKey_injective (progress.small _ created.drawn)
        (progress.small id (created.later member)) key
    · obtain ⟨other, otherMember, same⟩ :=
        progress.keys id (created.later member) item itemMember key
      exact ⟨other, (kept other).2 (.inr otherMember), same⟩
  · exact fun id member => progress.small id (created.later member)
  · exact fun id member => progress.newTask id (created.later member)
  · exact fun id member => progress.newItem id (created.later member)

theorem Recorded.identifies (recorded : Recorded candidates rows ids)
  (unique : (rows.map DecisionAuditEntryRow.id).Nodup)
  (member : candidate ∈ candidates)
  (known : ids.get? candidate.candidateID = some auditID) :
  ∀ row ∈ rows, row.id = auditID ↔ row.candidateID = candidate.candidateID := by
  intro row rowMember
  constructor
  · intro same
    have said : (candidate.candidateID, !candidate.rejected, none) ∈
      rows.map DecisionAuditEntryRow.said := by
      rw [recorded.said]
      exact mem_map.2 ⟨candidate, member, rfl⟩
    obtain ⟨other, otherMember, spoken⟩ := mem_map.1 said
    have named : other.candidateID = candidate.candidateID := congrArg Prod.fst spoken
    have identity := recorded.identified other otherMember
    rw [named, known, Option.some.injEq] at identity
    rw [← named, inj_on_of_nodup_map unique rowMember otherMember (same.trans identity)]
  · intro same
    have identity := recorded.identified row rowMember
    rw [same, known, Option.some.injEq] at identity
    exact identity.symm

theorem progress_createTasks {accepted : List TickCandidate}
  (progress : Progress before rows made session)
  (recorded : Recorded candidates rows write.decisionIDs)
  (unique : (rows.map DecisionAuditEntryRow.id).Nodup)
  (members : ∀ candidate ∈ accepted, candidate ∈ candidates)
  (succeeded : createTasks services preparation write now accepted session = .ok (result, final)) :
  ∃ tasks : List ProductionTaskRow, tasks.map (fun task => task.candidateID) =
    accepted.map TickCandidate.candidateID ∧
    Progress before rows (tasks.reverse ++ made) final := by
  induction accepted generalizing made session with
  | nil =>
    obtain ⟨-, rfl⟩ := Tx.pure_eq_ok succeeded
    exact ⟨[], rfl, progress⟩
  | cons candidate _ ih =>
    obtain ⟨_, _, first, remaining⟩ := Tx.bind_eq_ok succeeded
    obtain ⟨task, _, _, created⟩ := createTask_eq_ok services first
    have next := progress_createTask progress created
      (recorded.identifies unique (members candidate (by simp)) created.audit)
    obtain ⟨tasks, named, last⟩ := ih next
      (fun other member => members other (by simp [member])) remaining
    refine ⟨task :: tasks, ?_, ?_⟩
    · rw [map_cons, map_cons, named, created.named]
    · rw [reverse_cons, append_assoc]
      exact last

theorem said_seal (write : SnapshotAuditWrite) (snapshotID : Uuid)
  (snapshot : CandidateSnapshot) (entry : DecisionAuditEntryRow) :
  (entry.seal write snapshotID snapshot).said = entry.said := rfl

theorem said_sealEntry (succeeded : sealEntry write snapshot tables = .ok changed) :
  (before.entries.created changed.entries).map DecisionAuditEntryRow.said =
    (before.entries.created tables.entries).map DecisionAuditEntryRow.said := by
  unfold sealEntry at succeeded
  split at succeeded
  · split at succeeded
    · cases succeeded
      rw [Table.created_update, map_map]
      refine map_congr_left fun entry _ => ?_
      simp only [Function.comp_apply]
      split
      · exact said_seal ..
      · rfl
    · cases succeeded
  · cases succeeded

theorem said_sealEntries {snapshots : List CandidateSnapshot}
  (succeeded : sealEntries write snapshots session = .ok (result, final)) :
  (before.entries.created final.tables.entries).map DecisionAuditEntryRow.said =
    (before.entries.created session.tables.entries).map DecisionAuditEntryRow.said := by
  induction snapshots generalizing session with
  | nil =>
    obtain ⟨-, rfl⟩ := Tx.pure_eq_ok succeeded
    rfl
  | cons _ _ ih =>
    obtain ⟨_, _, first, remaining⟩ := Tx.bind_eq_ok succeeded
    rw [ih remaining, said_sealEntry (Tx.change_eq_ok first).1]

theorem progress_enqueueAlert {alert : AlertPayload} (progress : Progress before rows made session)
  (apart : ∀ id ∈ session.uuids, alertKey services alert now ≠ planTaskKey id)
  (succeeded : enqueueAlert services now alert session = .ok (result, final)) :
  Progress before rows made final ∧ final.uuids ⊆ session.uuids := by
  unfold enqueueAlert at succeeded
  obtain ⟨_, -, enqueued⟩ := Tx.attempt_bind_eq_ok succeeded
  obtain ⟨fixed, later⟩ := fixes_enqueueRow services now _ session result final enqueued
  simp only [Prod.mk.injEq] at fixed
  obtain ⟨tasks, entries, -⟩ := fixed
  obtain ⟨fresh, drawn, outcome⟩ := enqueueRow_eq_ok services enqueued
  refine ⟨⟨?_, ?_, ?_, ?_, ?_, ?_, ?_⟩, later⟩
  · rw [tasks]
    exact progress.tasks
  · rw [entries]
    exact progress.entries
  · rcases outcome with ⟨-, items⟩ | placed
    · rw [items]
      exact progress.items
    · have added := Table.created_insert placed (progress.newItem fresh (by simp [drawn]))
      refine ((added.filter QueueItemRow.isPlanTask).map plannedTask).trans ?_
      rw [filter_cons_of_neg (by simp [QueueItemRow.isPlanTask, EnqueueOptions.row])]
      exact progress.items
  · intro id member item itemMember key
    rw [tasks]
    rcases outcome with ⟨-, items⟩ | placed
    · rw [items] at itemMember
      exact progress.keys id (later member) item itemMember key
    · rw [(Table.insert_eq_some_iff.1 placed).2, Table.mem_place] at itemMember
      rcases itemMember with rfl | itemMember
      · exact absurd key (apart id (later member))
      · exact progress.keys id (later member) item itemMember key
  · exact fun id member => progress.small id (later member)
  · exact fun id member => progress.newTask id (later member)
  · exact fun id member => progress.newItem id (later member)

theorem progress_enqueueAlerts (progress : Progress before rows made session)
  (apart : ∀ alert ∈ alerts, ∀ id ∈ session.uuids, alertKey services alert now ≠ planTaskKey id)
  (succeeded : enqueueAlerts services now alerts session = .ok (result, final)) :
  Progress before rows made final := by
  induction alerts generalizing session with
  | nil =>
    obtain ⟨-, rfl⟩ := Tx.pure_eq_ok succeeded
    exact progress
  | cons alert _ ih =>
    obtain ⟨_, _, first, remaining⟩ := Tx.bind_eq_ok succeeded
    obtain ⟨next, later⟩ := progress_enqueueAlert services progress (apart alert (by simp)) first
    exact ih next (fun other member id idMember =>
      apart other (by simp [member]) id (later idMember)) remaining

/-- The tick is audited for good: no such row is ever changed again. -/
def Audited (tables : Tables) (channel : Uuid) (tickID : List Char) : Prop :=
  ∃ row ∈ tables.audits.rows, row.channelProfileID = channel ∧
    row.tickID = tickID ∧ row.replayStatus = .snapshotComplete

theorem audited_of_insert (inserted : tables.audits.insert row = some changed.audits)
  {tickID : List Char} (audited : Audited tables channel tickID) :
  Audited changed channel tickID := by
  obtain ⟨other, member, facts⟩ := audited
  refine ⟨other, ?_, facts⟩
  rw [(Table.insert_eq_some_iff.1 inserted).2]
  exact Table.mem_place.2 (.inr member)

theorem audited_of_completeAudit
  (succeeded : completeAudit write tables = .ok changed) {tickID : List Char}
  (audited : Audited tables channel tickID) :
  Audited changed channel tickID := by
  unfold completeAudit at succeeded
  split at succeeded <;> cases succeeded
  obtain ⟨_, member, rfl, rfl, complete⟩ := audited
  refine ⟨_, mem_map_of_mem member, ?_⟩
  split
  · exact ⟨rfl, rfl, rfl⟩
  · exact ⟨rfl, rfl, complete⟩

theorem audited_completed (member : row ∈ tables.audits.rows) (identity : row.id = write.tickID)
  (succeeded : completeAudit write tables = .ok changed) :
  Audited changed row.channelProfileID row.tickID := by
  unfold completeAudit at succeeded
  split at succeeded <;> cases succeeded
  rename_i one
  have positive : 0 < tables.audits.rows.countP (completable write tables) := by omega
  obtain ⟨other, otherMember, chosen⟩ := countP_pos_iff.1 positive
  have same : other.id = write.tickID := by
    simp only [completable, Bool.and_eq_true, decide_eq_true_eq] at chosen
    exact chosen.1.1.1.1.1.1.1.1.1
  have equal := tables.audits.eq_of_key_eq otherMember member (same.trans identity.symm)
  rw [equal] at chosen
  refine ⟨_, mem_map_of_mem member, ?_⟩
  rw [if_pos chosen]
  exact ⟨rfl, rfl, rfl⟩

structure Opened (start : Session) (preparation : TickPreparation)
  (result : TickResult) (write : SnapshotAuditWrite) (final : Session)
  (channel : Uuid) (row : AgentTickAuditRow)
  (rows : List DecisionAuditEntryRow) : Prop where
  cast : castUUID preparation.channelID = some channel
  identity : row.id = write.tickID
  profile : row.channelProfileID = channel
  tick : row.tickID = tickIDOf preparation.channelID preparation.bucket
  unaudited : ∀ other ∈ start.tables.audits.rows, row.conflicts other = false
  inserted : start.tables.audits.insert row = some final.tables.audits
  entries : (start.tables.entries.created final.tables.entries).Perm rows
  recorded : Recorded result.candidates rows write.decisionIDs
  tasks : final.tables.tasks = start.tables.tasks
  items : final.tables.items = start.tables.items
  later : final.uuids ⊆ start.uuids

theorem castParameter_eq_ok {id : Uuid} (cast : castParameter text = .ok id) :
  castUUID text = some id := by
  unfold castParameter at cast
  split at cast
  · cases cast
  next found =>
    cases cast
    exact found

theorem upsert_pending {tickID : Option Uuid} (pending : row.replayStatus = .snapshotPending)
  (succeeded : upsert row session = .ok (tickID, final)) :
  (tickID = none ∧ final = session) ∨ (tickID = some row.id ∧
    (∀ other ∈ session.tables.audits.rows, row.conflicts other = false) ∧
    session.tables.audits.insert row = some final.tables.audits) := by
  unfold upsert at succeeded
  split at succeeded
  · cases succeeded
  next written =>
    unfold upsertAudit at written
    split at written
    next none =>
      obtain ⟨_, inserted, pair⟩ := Option.map_eq_some_iff.1 written
      cases pair
      cases succeeded
      refine .inr ⟨rfl, fun other member => ?_, inserted⟩
      simpa using find?_eq_none.1 none other member
    · rw [if_neg (by simp [pending])] at written
      cases written
      cases succeeded
      exact .inl ⟨rfl, rfl⟩

variable {set : SnapshotSet}

theorem replaySnapshotAudit_eq_ok (succeeded : replaySnapshotAudit excluded policyID set session =
  .ok (write, final)) : write.replay = true ∧ session = final := by
  unfold replaySnapshotAudit at succeeded
  obtain ⟨_, _, read, afterRead⟩ := Tx.bind_eq_ok succeeded
  obtain ⟨-, rfl⟩ := Tx.read_eq_ok read
  obtain ⟨_, -, returned⟩ := Tx.attempt_bind_eq_ok afterRead
  obtain ⟨rfl, rfl⟩ := Tx.pure_eq_ok returned
  exact ⟨rfl, rfl⟩

theorem writeSnapshotAudit_eq_ok {result : TickResult}
  (fresh : ∀ id ∈ session.uuids, before.entries.find? id = none)
  (succeeded : writeSnapshotAudit services tickID policyID channel set
    result session = .ok (write, final)) :
  write.replay = false ∧ write.tickID = tickID ∧
    (∃ rows, (before.entries.created final.tables.entries).Perm
      (rows ++ before.entries.created session.tables.entries) ∧
      Recorded result.candidates rows write.decisionIDs) ∧
    (final.tables.tasks = session.tables.tasks ∧ final.tables.items = session.tables.items ∧
      final.tables.audits = session.tables.audits) ∧
    final.uuids ⊆ session.uuids := by
  unfold writeSnapshotAudit at succeeded
  obtain ⟨snapshotIDs, snapped, snap, afterSnapshots⟩ := Tx.bind_eq_ok succeeded
  obtain ⟨decisionIDs, entered, enter, returned⟩ := Tx.bind_eq_ok afterSnapshots
  obtain ⟨rfl, rfl⟩ := Tx.pure_eq_ok returned
  obtain ⟨snapFixed, snapUuids⟩ := fixes_insertCandidateSnapshots services
    tickID policyID set session snapshotIDs snapped snap
  obtain ⟨enterFixed, enterUuids⟩ := fixes_insertDecisionAuditEntries tickID
    channel result.candidates .empty snapped decisionIDs entered enter
  obtain ⟨rows, added, recorded, -⟩ := recorded_insertDecisionAuditEntries
    (fun id member => fresh id (snapUuids member)) enter
  simp only [output, Prod.mk.injEq] at snapFixed enterFixed
  obtain ⟨⟨snapTasks, snapItems, snapEntries⟩, snapAudits⟩ := snapFixed
  obtain ⟨enterTasks, enterItems, enterAudits⟩ := enterFixed
  rw [snapEntries] at added
  exact ⟨rfl, rfl, ⟨rows, added, recorded⟩, ⟨enterTasks.trans snapTasks, enterItems.trans snapItems,
    enterAudits.trans snapAudits⟩, List.Subset.trans enterUuids snapUuids⟩

theorem beginSnapshotAudit_eq_ok {result : TickResult}
  (fresh : ∀ id ∈ start.uuids, start.tables.entries.find? id = none)
  (succeeded : beginSnapshotAudit services preparation result start = .ok (write, final)) :
  (write.replay = true ∧ output final.tables = output start.tables ∧
    final.tables.audits = start.tables.audits) ∨
  (write.replay = false ∧ ∃ channel row rows,
    Opened start preparation result write final channel row rows) := by
  unfold beginSnapshotAudit at succeeded
  obtain ⟨_, -, afterDecision⟩ := Tx.attempt_bind_eq_ok succeeded
  obtain ⟨policyID, resolved, resolve, afterPolicy⟩ := Tx.bind_eq_ok afterDecision
  obtain ⟨_, -, afterSummary⟩ := Tx.attempt_bind_eq_ok afterPolicy
  obtain ⟨_, -, afterGuards⟩ := Tx.attempt_bind_eq_ok afterSummary
  obtain ⟨channel, cast, afterCast⟩ := Tx.attempt_bind_eq_ok afterGuards
  obtain ⟨id, drawn, draw, afterDraw⟩ := Tx.bind_eq_ok afterCast
  obtain ⟨_, upserted, upsert, afterUpsert⟩ := Tx.bind_eq_ok afterDraw
  obtain ⟨resolveFixed, resolveUuids⟩ := fixes_resolvePolicyVersion services
    preparation.policy start policyID resolved resolve
  obtain ⟨drawnUuids, drawnTables⟩ := Tx.genRandomUUID_eq_ok draw
  simp only [output, Prod.mk.injEq] at resolveFixed
  obtain ⟨⟨resolveTasks, resolveItems, resolveEntries⟩, resolveAudits⟩ := resolveFixed
  rcases upsert_pending rfl upsert with
    ⟨rfl, rfl⟩ | ⟨rfl, unaudited, inserted⟩
  · obtain ⟨replay, rfl⟩ := replaySnapshotAudit_eq_ok afterUpsert
    rw [drawnTables]
    exact .inl ⟨replay, by
      rw [output, resolveTasks, resolveItems, resolveEntries]; rfl,
      resolveAudits⟩
  · obtain ⟨upsertFixed, upsertUuids⟩ := fixes_upsert _ drawn _ upserted upsert
    simp only [output, Prod.mk.injEq] at upsertFixed
    obtain ⟨upsertTasks, upsertItems, upsertEntries⟩ := upsertFixed
    have later : upserted.uuids ⊆ start.uuids := by
      refine List.Subset.trans upsertUuids (List.Subset.trans ?_ resolveUuids)
      rw [drawnUuids]
      exact subset_cons_self _ _
    obtain ⟨fresh, identity, ⟨rows, added, recorded⟩,
      ⟨tasks, items, audits⟩, written⟩ := writeSnapshotAudit_eq_ok services
        (fun id member => fresh id (later member)) afterUpsert
    have entries : upserted.tables.entries = start.tables.entries := by
      rw [upsertEntries, drawnTables, resolveEntries]
    rw [entries, Table.created_self, append_nil] at added
    rw [drawnTables, resolveAudits] at unaudited inserted
    refine .inr ⟨fresh, channel, _, rows, castParameter_eq_ok cast,
      identity.symm, rfl, rfl, unaudited, ?_, added, recorded, ?_, ?_,
      List.Subset.trans written later⟩
    · rw [audits]
      exact inserted
    · rw [tasks, upsertTasks, drawnTables, resolveTasks]
    · rw [items, upsertItems, drawnTables, resolveItems]

/-- Accepted candidates, new tasks, new entries marked selected and new
`plan_task` items, each named by the candidate or by its task. -/
structure OneToOne (accepted : List TickCandidate) (before after : Tables) : Prop where
  distinct : (accepted.map TickCandidate.candidateID).Nodup
  tasks : ((before.tasks.created after.tasks).map fun task =>
    task.candidateID).Perm (accepted.map TickCandidate.candidateID)
  entries : (((before.entries.created after.entries).filter fun entry =>
    entry.selected).map fun entry =>
      (entry.candidateID, entry.createdTaskID)).Perm
    ((before.tasks.created after.tasks).map fun task =>
      (task.candidateID, some task.id))
  items : (((before.items.created after.items).filter QueueItemRow.isPlanTask).map plannedTask).Perm
    ((before.tasks.created after.tasks).map fun task =>
      some (uuidText task.id))

def taskFor (made : List ProductionTaskRow) (candidateID : String) : Option Uuid :=
  (made.find? fun task => task.candidateID = candidateID).map fun task =>
    task.id

theorem taskFor_eq_some (distinct : (made.map fun task => task.candidateID).Nodup)
  (member : task ∈ made) :
  taskFor made task.candidateID = some task.id := by
  unfold taskFor
  cases found : made.find? fun other =>
    other.candidateID = task.candidateID with
  | none =>
    have := find?_eq_none.1 found task member
    simp at this
  | some other =>
    have same : other.candidateID = task.candidateID := by simpa using find?_some found
    rw [inj_on_of_nodup_map distinct (mem_of_find?_eq_some found) member same]
    rfl

theorem filter_acceptedOf_append (candidates : List TickCandidate) :
  ((acceptedOf candidates ++ rejectedOf candidates).filter fun candidate =>
    !candidate.rejected) = acceptedOf candidates := by
  simp [acceptedOf, rejectedOf]

section

variable (recorded : Recorded (acceptedOf candidates ++ rejectedOf candidates) rows ids)
  (named : tasks.map (fun task => task.candidateID) =
    (acceptedOf candidates).map TickCandidate.candidateID)

include recorded named

theorem selected_assign : (((rows.map (assign tasks.reverse)).map DecisionAuditEntryRow.said).filter
      fun said => said.2.1).map (fun said => (said.1, said.2.2)) =
        tasks.map fun task => (task.candidateID, some task.id) := by
  have distinct : (tasks.map fun task => task.candidateID).Nodup := by
    rw [named]
    refine List.Nodup.sublist ?_ recorded.distinct
    exact (sublist_append_left _ _).map _
  have reversed : (tasks.reverse.map fun task => task.candidateID).Nodup := by
    rw [map_reverse]
    exact nodup_reverse.2 distinct
  have said : (rows.map (assign tasks.reverse)).map DecisionAuditEntryRow.said =
        (acceptedOf candidates ++ rejectedOf candidates).map
          fun candidate => (candidate.candidateID, !candidate.rejected,
            taskFor tasks.reverse candidate.candidateID) := by
    have through : (rows.map (assign tasks.reverse)).map DecisionAuditEntryRow.said =
          (rows.map DecisionAuditEntryRow.said).map fun said =>
            (said.1, said.2.1, taskFor tasks.reverse said.1) := by
      rw [map_map, map_map]
      rfl
    rw [through, recorded.said, map_map]
    rfl
  rw [said, filter_map, map_map]
  have chosen : ((fun said : String × Bool × Option Uuid => said.2.1) ∘
      fun candidate : TickCandidate => (candidate.candidateID,
        !candidate.rejected, taskFor tasks.reverse candidate.candidateID)) =
          fun candidate => !candidate.rejected := rfl
  rw [chosen, filter_acceptedOf_append]
  calc (acceptedOf candidates).map _
      = ((acceptedOf candidates).map TickCandidate.candidateID).map
          fun name => (name, taskFor tasks.reverse name) := by
        rw [map_map]
        rfl
    _ = tasks.map fun task =>
          (task.candidateID, taskFor tasks.reverse task.candidateID) := by
        rw [← named, map_map]
        rfl
    _ = tasks.map fun task => (task.candidateID, some task.id) := by
        refine map_congr_left fun task member => ?_
        rw [taskFor_eq_some reversed (mem_reverse.2 member)]

theorem oneToOne_of_progress {after : Tables}
  (progress : Progress before rows tasks.reverse session)
  (sameTasks : after.tasks = session.tables.tasks)
  (sameItems : after.items = session.tables.items)
  (said : (before.entries.created after.entries).map DecisionAuditEntryRow.said =
    (before.entries.created session.tables.entries).map DecisionAuditEntryRow.said) :
  OneToOne (acceptedOf candidates) before after := by
  have made : (before.tasks.created after.tasks).Perm tasks := by
    rw [sameTasks]
    exact progress.tasks.trans (reverse_perm tasks)
  refine ⟨?_, ?_, ?_, ?_⟩
  · refine List.Nodup.sublist ?_ recorded.distinct
    exact (sublist_append_left _ _).map _
  · rw [← named]
    exact made.map _
  · have through : ((before.entries.created after.entries).filter
      fun entry => entry.selected).map (fun entry =>
        (entry.candidateID, entry.createdTaskID)) =
      (((before.entries.created after.entries).map
        DecisionAuditEntryRow.said).filter fun said => said.2.1).map
          fun said => (said.1, said.2.2) := by
      rw [filter_map, map_map]
      rfl
    rw [through, said]
    have assigned := (((progress.entries.map
      DecisionAuditEntryRow.said).filter fun said => said.2.1).map fun said => (said.1, said.2.2))
    rw [selected_assign recorded named] at assigned
    exact assigned.trans (made.map _).symm
  · rw [sameItems]
    exact progress.items.trans (((reverse_perm tasks).trans made.symm).map _)

end

/-- The identifiers that a transaction draws are not in use, also not in a
key of the queue. -/
structure Fresh (alerts : List AlertPayload) (now : Time) (session : Session) : Prop where
  small : ∀ id ∈ session.uuids, id < uuidCount
  entry : ∀ id ∈ session.uuids, session.tables.entries.find? id = none
  task : ∀ id ∈ session.uuids, session.tables.tasks.find? id = none
  item : ∀ id ∈ session.uuids, session.tables.items.find? id = none
  key : ∀ id ∈ session.uuids, ∀ item ∈ session.tables.items.rows,
    item.idempotencyKey ≠ planTaskKey id
  alert : ∀ alert ∈ alerts, ∀ id ∈ session.uuids, alertKey services alert now ≠ planTaskKey id

/-- A tick commits tasks only with the audit that no later one gets past. -/
structure Settled (preparation : TickPreparation)
  (candidates : List TickCandidate) (before after : Tables) : Prop where
  kept : ∀ channel tickID, Audited before channel tickID → Audited after channel tickID
  tasks : after.tasks = before.tasks ∨ ∃ channel, castUUID preparation.channelID = some channel ∧
    ¬ Audited before channel (tickIDOf preparation.channelID preparation.bucket) ∧
    Audited after channel (tickIDOf preparation.channelID preparation.bucket) ∧
    OneToOne (acceptedOf candidates) before after

theorem progress_opened {result : TickResult} (fresh : Fresh services alerts now start)
  (opening : Opened start preparation result write opened channel row rows) :
  Progress start.tables rows [] opened := by
  have unassigned : rows.map (assign []) = rows := by
    conv_rhs => rw [← map_id rows]
    refine map_congr_left fun entry member => ?_
    have said : entry.said ∈ rows.map DecisionAuditEntryRow.said := mem_map_of_mem member
    rw [opening.recorded.said, mem_map] at said
    obtain ⟨_, -, spoken⟩ := said
    have none : entry.createdTaskID = none := (congrArg (fun said => said.2.2) spoken).symm
    obtain ⟨_, _, _, _, _, _, _, _, _, _, _⟩ := entry
    cases none
    rfl
  refine ⟨?_, ?_, ?_, ?_, ?_, ?_, ?_⟩
  · rw [opening.tasks, Table.created_self]
  · rw [unassigned]
    exact opening.entries
  · rw [opening.items, Table.created_self]
    exact .nil
  · intro id member item itemMember key
    rw [opening.items] at itemMember
    exact absurd key (fresh.key id (opening.later member) item itemMember)
  · exact fun id member => fresh.small id (opening.later member)
  · exact fun id member => fresh.task id (opening.later member)
  · exact fun id member => fresh.item id (opening.later member)

theorem Opened.unique {result : TickResult}
  (opening : Opened start preparation result write opened channel row rows) :
  (rows.map DecisionAuditEntryRow.id).Nodup := by
  refine ((opening.entries.map DecisionAuditEntryRow.id).nodup_iff).1 ?_
  refine List.Nodup.sublist ?_ opened.tables.entries.nodup_keys
  exact filter_sublist.map _

theorem complete_eq_ok (succeeded : complete services write session = .ok (result, final)) :
  ∃ sealedTables : Session, sealEntries write write.snapshots.candidates session =
    .ok ((), sealedTables) ∧
    completeAudit write sealedTables.tables = .ok final.tables ∧
    output final.tables = output sealedTables.tables := by
  unfold complete at succeeded
  obtain ⟨_, -, validated⟩ := Tx.attempt_bind_eq_ok succeeded
  obtain ⟨_, -, counted⟩ := Tx.attempt_bind_eq_ok validated
  obtain ⟨_, sealedTables, sealing, completed⟩ := Tx.bind_eq_ok counted
  exact ⟨sealedTables, sealing, (Tx.change_eq_ok completed).1,
    (fixes_completeAudit write sealedTables result final completed).1⟩

theorem audited_complete {result : TickResult}
  (opening : Opened start preparation result write opened channel row rows)
  (audits : session.tables.audits = opened.tables.audits)
  (succeeded : complete services write session = .ok (done, final)) :
  (∀ profile tickID, Audited start.tables profile tickID → Audited final.tables profile tickID) ∧
  Audited final.tables channel (tickIDOf preparation.channelID preparation.bucket) := by
  obtain ⟨sealedTables, sealing, completed, -⟩ := complete_eq_ok services succeeded
  obtain ⟨fixed, -⟩ := fixes_sealEntries write _ session () sealedTables sealing
  simp only [Prod.mk.injEq] at fixed
  have inserted : start.tables.audits.insert row = some sealedTables.tables.audits := by
    rw [fixed.2.2, audits]
    exact opening.inserted
  constructor
  · intro profile tickID audited
    exact audited_of_completeAudit completed (audited_of_insert inserted audited)
  · have member : row ∈ sealedTables.tables.audits.rows := by
      rw [(Table.insert_eq_some_iff.1 inserted).2]
      exact Table.mem_place.2 (.inl rfl)
    have audited := audited_completed member opening.identity completed
    rwa [opening.profile, opening.tick] at audited

theorem output_complete {session final : Session} {done : Unit}
  (succeeded : complete services write session = .ok (done, final)) :
  final.tables.tasks = session.tables.tasks ∧ final.tables.items = session.tables.items ∧
    (before.entries.created final.tables.entries).map DecisionAuditEntryRow.said =
      (before.entries.created session.tables.entries).map DecisionAuditEntryRow.said := by
  obtain ⟨sealedTables, sealing, -, same⟩ := complete_eq_ok services succeeded
  obtain ⟨fixed, -⟩ := fixes_sealEntries write _ session () sealedTables sealing
  simp only [output, Prod.mk.injEq] at fixed same
  obtain ⟨tasks, items, entries⟩ := same
  refine ⟨tasks.trans fixed.1, items.trans fixed.2.1, ?_⟩
  rw [entries, said_sealEntries sealing]

theorem settled_commitTick (fresh : Fresh services alerts now start)
  (opening : Opened start preparation (tickResult preparation candidates)
    write opened channel row rows)
  (succeeded : commitTick services preparation write
    (tickResult preparation candidates) alerts now opened = .ok (done, final)) :
  Settled preparation candidates start.tables final.tables := by
  unfold commitTick at succeeded
  obtain ⟨_, alerted, alert, afterAlerts⟩ := Tx.bind_eq_ok succeeded
  have alertFixed := (fixes_enqueueAlerts services now alerts opened _ alerted alert).1
  simp only [Prod.mk.injEq] at alertFixed
  obtain ⟨alertTasks, -, alertAudits⟩ := alertFixed
  split at afterAlerts
  · obtain ⟨kept, -⟩ := audited_complete services opening alertAudits afterAlerts
    refine ⟨kept, .inl ?_⟩
    rw [(@output_complete services start.tables _ _ _ _ afterAlerts).1, alertTasks, opening.tasks]
  · obtain ⟨_, created, create, afterTasks⟩ := Tx.bind_eq_ok afterAlerts
    obtain ⟨_, paused, pause, completed⟩ := Tx.bind_eq_ok afterTasks
    have createAudits := (fixes_createTasks services preparation write now _
      alerted _ created create).1
    have pauseFixed := (fixes_pauseChannelIntake _ _ _ created _ paused pause).1
    simp only [output, Prod.mk.injEq] at pauseFixed
    obtain ⟨⟨pauseTasks, pauseItems, pauseEntries⟩, pauseAudits⟩ := pauseFixed
    obtain ⟨kept, audited⟩ := audited_complete services opening
      (by rw [pauseAudits, createAudits, alertAudits]) completed
    have alertProgress := progress_enqueueAlerts services (progress_opened services fresh opening)
      (fun alert member id idMember =>
        fresh.alert alert member id (opening.later idMember)) alert
    obtain ⟨_, named, progress⟩ := progress_createTasks services
      alertProgress opening.recorded opening.unique
      (fun candidate member => mem_append_left _ member) create
    rw [append_nil] at progress
    refine ⟨kept, .inr ⟨channel, opening.cast, ?_, audited, ?_⟩⟩
    · rintro ⟨other, member, profile, tick, -⟩
      have apart := opening.unaudited other member
      simp [AgentTickAuditRow.conflicts, profile, tick, opening.profile, opening.tick] at apart
    · obtain ⟨tasksSame, itemsSame, said⟩ := output_complete services completed
      refine oneToOne_of_progress opening.recorded named progress ?_ ?_ ?_
      · rw [tasksSame, pauseTasks]
      · rw [itemsSame, pauseItems]
      · rw [said, pauseEntries]

def unowned (tables : Tables) (channelID : List Char) : Bool :=
  (castUUID channelID).all fun id =>
    (tables.channels.find? id).all fun row => row.ownedSeedInventoryID.isNone

theorem owned_prepareTick (free : unowned tables channelID = true)
  (prepared : prepareTick services tables channelID bucket options now =
    .ok preparation) : preparation.owned = false := by
  unfold prepareTick at prepared
  obtain ⟨_, cast, afterCast⟩ := Program.bind_eq_ok prepared
  obtain ⟨channel, got, afterGet⟩ := Program.bind_eq_ok afterCast
  obtain ⟨_, -, afterPause⟩ := Program.bind_eq_ok afterGet
  have unclaimed : channel.ownedSeedInventoryID.isSome = false := by
    unfold getChannelProfile at got
    split at got
    · cases got
    next found =>
      cases got
      simp only [unowned, castParameter_eq_ok cast, Option.all_some, found] at free
      simpa using free
  rw [if_neg (by simp [unclaimed])] at afterPause
  obtain ⟨_, -, afterInputs⟩ := Program.bind_eq_ok afterPause
  obtain ⟨_, -, captured⟩ := Program.bind_eq_ok afterInputs
  obtain ⟨_, -, afterPolicy⟩ := Program.bind_eq_ok captured
  obtain ⟨_, -, returned⟩ := Program.bind_eq_ok afterPolicy
  cases returned
  rfl

theorem settled_finalizeTick (fresh : Fresh services (tickAlerts preparation candidates alerts) now
  start)
  (plain : preparation.owned = false)
  (free : unowned start.tables preparation.channelID = true)
  (succeeded : finalizeTick services preparation candidates alerts now start = .ok (done, final)) :
  Settled preparation candidates start.tables final.tables := by
  unfold finalizeTick at succeeded
  obtain ⟨_, _, read, afterRead⟩ := Tx.bind_eq_ok succeeded
  obtain ⟨rfl, rfl⟩ := Tx.read_eq_ok read
  obtain ⟨_, prepared, afterPrepare⟩ := Tx.attempt_bind_eq_ok afterRead
  rw [plain, owned_prepareTick services free prepared, Bool.false_or,
    if_neg Bool.false_ne_true] at afterPrepare
  obtain ⟨_, -, afterValidate⟩ := Tx.attempt_bind_eq_ok afterPrepare
  obtain ⟨_, -, afterGuard⟩ := Tx.attempt_bind_eq_ok afterValidate
  obtain ⟨_, _, begun, committed⟩ := Tx.bind_eq_ok afterGuard
  rcases beginSnapshotAudit_eq_ok services fresh.entry begun with
    ⟨replay, same, audits⟩ | ⟨new, _, _, _, opening⟩
  · rw [if_pos replay] at committed
    obtain ⟨-, rfl⟩ := Tx.pure_eq_ok committed
    refine ⟨fun profile tickID audited => ?_, .inl (congrArg Prod.fst same)⟩
    unfold Audited at audited ⊢
    rwa [audits]
  · rw [if_neg (by simp [new])] at committed
    exact settled_commitTick services fresh opening committed

end VideoProcess.ChannelOps.Tick
