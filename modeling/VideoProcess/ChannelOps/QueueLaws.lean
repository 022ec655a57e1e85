import VideoProcess.ChannelOps.Queue
import VideoProcess.Program.Basic

namespace VideoProcess.ChannelOps

open Data Program

/-! Runs of the queue, which remember every row that a claim has returned. -/

structure Queue where
  items : QueueItems
  runs : DiscoveryRuns
  held : List QueueItemRow

def Queue.empty : Queue := ⟨.empty, .empty, []⟩

def Queue.claim (queue : Queue) (item : QueueItemRow) (items : QueueItems) : Queue :=
  { queue with items := items, held := item :: queue.held }

def Queue.Unleased (queue : Queue) (worker : String) (now : Time) : Prop :=
  ∀ item ∈ queue.held, item.lockedBy = some worker → item.lockedAt ≠ some now

inductive Queue.Step : Queue → Queue → Prop
  | enqueue {queue : Queue} {configured : Int} {now : Time} {fresh id : Uuid}
    {options : EnqueueOptions} {items : QueueItems}
    (inserted : enqueue configured now fresh options queue.items = some (id, items)) :
    Step queue { queue with items := items }
  | claimNext {queue : Queue} {scene : ClaimScene} {worker : String}
    {item : QueueItemRow} {items : QueueItems}
    (distinct : queue.Unleased worker scene.now)
    (claimed : claimNext scene worker queue.items = (some item, items)) :
    Step queue (queue.claim item items)
  | claimNextForKinds {queue : Queue} {kinds : List QueueKind}
    {scene : ClaimScene} {worker : String} {item : QueueItemRow}
    {items : QueueItems} (distinct : queue.Unleased worker scene.now)
    (claimed : claimNextForKinds kinds scene worker queue.items = (some item, items)) :
    Step queue (queue.claim item items)
  | claimNextForChannelAndKinds {queue : Queue} {channel : List Char}
    {kinds : List QueueKind} {scene : ClaimScene} {worker : String}
    {item : QueueItemRow} {items : QueueItems}
    (distinct : queue.Unleased worker scene.now)
    (claimed : claimNextForChannelAndKinds channel kinds scene worker
      queue.items = .ok (some item, items)) :
    Step queue (queue.claim item items)
  | markQueueDone {queue : Queue} {item : QueueItemRow}
    (held : item ∈ queue.held) :
    Step queue { queue with items := (markQueueDone item queue.items).2 }
  | markQueueFailedOrRetry {queue : Queue} {item : QueueItemRow}
    {message : String} {now : Time} (held : item ∈ queue.held) :
    Step queue { queue with
      items := (markQueueFailedOrRetry item message now queue.items).2 }
  | releaseQueueClaim {queue : Queue} {item : QueueItemRow}
    (held : item ∈ queue.held) :
    Step queue { queue with items := (releaseQueueClaim item queue.items).2 }
  | markQueueRejected {queue : Queue} {item : QueueItemRow} {message : String}
    {now : Time} (held : item ∈ queue.held) :
    Step queue { queue with
      items := (markQueueRejected item message now queue.items).2 }
  | recover {queue : Queue} {now : Time} {skipped : Uuid → Bool} {count : Nat}
    {items : QueueItems} {runs : DiscoveryRuns}
    (recovered : recoverStaleDiscoveryLeases now skipped queue.items
      queue.runs = .ok (count, items, runs)) :
    Step queue { queue with items := items, runs := runs }
  | discover {queue : Queue} (runs : DiscoveryRuns) :
    Step queue { queue with runs := runs }

abbrev Queue.Run : Queue → Queue → Prop := Relation.ReflTransGen Queue.Step

structure QueueItemRow.Leased (row : QueueItemRow) : Prop where
  queued : row.status = .queued → row.lockedBy = none ∧ row.lockedAt = none ∧
    row.deadLetterAt = none ∧ row.attemptCount < row.maxAttempts
  running : row.status = .running → row.lockedBy.isSome = true ∧ row.lockedAt.isSome = true
  bounded : row.attemptCount ≤ row.maxAttempts

/-- The invariant behind it: a running row is one that a claim returned, and
no two claims share a lease. -/
structure Queue.Sound (queue : Queue) : Prop where
  leased : ∀ row ∈ queue.items.rows, row.Leased
  tries : ∀ row ∈ queue.items.rows, 1 ≤ row.maxAttempts
  alive : ∀ row ∈ queue.items.rows, row.status = .running → row.deadLetterAt = none
  held : ∀ row ∈ queue.items.rows, row.status = .running → row ∈ queue.held
  distinct : ∀ left ∈ queue.held, ∀ right ∈ queue.held,
    left.lockedBy = right.lockedBy → left.lockedAt = right.lockedAt → left = right

def QueueStatus.isFinished : QueueStatus → Bool
  | .succeeded | .deadLettered => true
  | _ => false

def RowsMove (moved : QueueItemRow → QueueItemRow → Prop) (before after : QueueItems) : Prop :=
  (∀ row ∈ after.rows, row ∈ before.rows ∨ ∃ old ∈ before.rows, moved old row) ∧
  ∀ row ∈ before.rows, row ∈ after.rows ∨ ∃ new, moved row new

namespace RowsMove

variable {items : QueueItems}

theorem same : RowsMove moved items items :=
  ⟨fun _ member => .inl member, fun _ member => .inl member⟩

theorem update {selected : QueueItemRow → Bool} {change : QueueItemRow → QueueItemRow}
  (keeps : ∀ row, (change row).id = row.id)
  (moves : ∀ row ∈ items.rows, selected row = true → moved row (change row)) :
  RowsMove moved items (items.update selected change keeps) := by
  constructor
  · intro row member
    rw [Table.rows_update, List.mem_map] at member
    obtain ⟨old, present, rfl⟩ := member
    split
    · exact .inr ⟨old, present, moves old present ‹_›⟩
    · exact .inl present
  · intro row member
    by_cases chosen : selected row = true
    · exact .inr ⟨_, moves row member chosen⟩
    · left
      rw [Table.rows_update, List.mem_map]
      exact ⟨row, member, if_neg chosen⟩

end RowsMove

structure Ended (old new : QueueItemRow) : Prop where
  running : old.status = .running
  stopped : new.status ≠ .running
  leased : new.Leased
  tries : new.maxAttempts = old.maxAttempts

variable {row : QueueItemRow} {lease : String × Time}
  {change : QueueItemRow → QueueItemRow} {items after : QueueItems}
  {runs runsAfter : DiscoveryRuns} {now : Time}

theorem QueueItemRow.Leased.of_finished (finished : row.status.isFinished = true)
  (bounded : row.attemptCount ≤ row.maxAttempts) : row.Leased where
  queued queued := by rw [queued] at finished; cases finished
  running running := by rw [running] at finished; cases finished
  bounded := bounded

theorem QueueItemRow.Leased.of_queued (queued : row.status = .queued)
  (free : row.lockedBy = none) (unlocked : row.lockedAt = none)
  (alive : row.deadLetterAt = none)
  (left : row.attemptCount < row.maxAttempts) : row.Leased where
  queued _ := ⟨free, unlocked, alive, left⟩
  running running := by rw [queued] at running; cases running
  bounded := left.le

section

variable {row : QueueItemRow} (leased : row.Leased) (running : row.status = .running)
include leased running

theorem ended_done : Ended row row.done :=
  ⟨running, by simp [QueueItemRow.done], .of_finished rfl leased.bounded, rfl⟩

theorem ended_recovered : Ended row row.recovered :=
  ⟨running, by simp [QueueItemRow.recovered, QueueItemRow.done],
    .of_finished rfl leased.bounded, rfl⟩

theorem ended_deadLettered (message : String) (now : Time) :
  Ended row (row.deadLettered message now) :=
  ⟨running, by simp [QueueItemRow.deadLettered], .of_finished rfl leased.bounded, rfl⟩

variable (alive : row.deadLetterAt = none)

omit leased in
include alive in
theorem ended_retried (message : String) (runAfter : Time)
  (left : row.attemptCount < row.maxAttempts) :
  Ended row (row.retried message runAfter) :=
  ⟨running, by simp [QueueItemRow.retried], .of_queued rfl rfl rfl alive left, rfl⟩

omit leased in
theorem ended_requeued (now : Time) (left : row.attemptCount < row.maxAttempts) :
  Ended row (row.requeued now) :=
  ⟨running, by simp [QueueItemRow.requeued, QueueItemRow.retried],
    .of_queued rfl rfl rfl rfl left, rfl⟩

include alive in
theorem ended_released (tries : 1 ≤ row.maxAttempts) : Ended row row.released := by
  have bounded := leased.bounded
  refine ⟨running, by simp [QueueItemRow.released], .of_queued rfl rfl rfl alive ?_, rfl⟩
  change max (row.attemptCount - 1) 0 < row.maxAttempts
  omega

end

theorem RowsMove.trans (earlier : RowsMove Ended first second)
  (later : RowsMove Ended second third) : RowsMove Ended first third := by
  constructor
  · intro row member
    rcases later.1 row member with kept | ⟨old, present, ended⟩
    · exact earlier.1 row kept
    · -- A row that has ended does not run, so it cannot end again.
      rcases earlier.1 old present with kept | ⟨_, -, stopped⟩
      · exact .inr ⟨old, kept, ended⟩
      · exact absurd ended.running stopped.stopped
  · intro row member
    rcases earlier.2 row member with kept | moved
    · exact later.2 row kept
    · exact .inr moved

theorem runningLease_eq_ok {item : QueueItemRow}
  (ok : runningLease item = .ok lease) : item.status = .running ∧
    item.lockedBy = some lease.1 ∧ item.lockedAt = some lease.2 := by
  unfold runningLease at ok
  split at ok
  · split at ok
    · cases ok
    · cases ok
      exact ⟨‹_›, ‹_›, ‹_›⟩
  · cases ok

variable {queue : Queue} {item : QueueItemRow}

theorem Queue.Sound.eq_of_leasedTo (sound : queue.Sound)
  (held : item ∈ queue.held) (ok : runningLease item = .ok lease)
  (member : row ∈ queue.items.rows)
  (found : row.leasedTo item.id lease = true) : row = item := by
  obtain ⟨-, by_, at_⟩ := runningLease_eq_ok ok
  simp only [QueueItemRow.leasedTo, Bool.and_eq_true, decide_eq_true_eq] at found
  obtain ⟨⟨⟨-, running⟩, worker⟩, since⟩ := found
  exact sound.distinct row (sound.held row member running) item held
    (worker.trans by_.symm) (since.trans at_.symm)

variable {keeps : ∀ row, (change row).id = row.id}

theorem Queue.Sound.rowsMove_endLease (sound : queue.Sound) (held : item ∈ queue.held)
  (ends : item ∈ queue.items.rows → item.status = .running → Ended item (change item)) :
  RowsMove Ended queue.items (endLease item change keeps queue.items).2 := by
  unfold endLease
  split
  · exact .same
  next ok =>
    split
    · refine .update keeps fun row member found => ?_
      have same := sound.eq_of_leasedTo held ok member found
      subst same
      exact ends member (runningLease_eq_ok ok).1
    · exact .same

theorem Queue.Sound.endLease_of_stale (sound : queue.Sound)
  (held : item ∈ queue.held) (stale : item ∉ queue.items.rows)
  (ok : runningLease item = .ok lease)
  (change : QueueItemRow → QueueItemRow)
  (keeps : ∀ row, (change row).id = row.id) :
  endLease item change keeps queue.items = (.error .leaseLost, queue.items) := by
  have missing : (queue.items.rows.any fun row =>
    row.leasedTo item.id lease) = false := by
    rw [List.any_eq_false]
    intro row member found
    rw [sound.eq_of_leasedTo held ok member found] at member
    exact stale member
  simp [endLease, ok, missing]

theorem rowsMove_updateRunning {lease : QueueItemRow} (present : lease ∈ items.rows)
  (ends : lease.status = .running → Ended lease (change lease))
  (updated : updateRunning lease.id change keeps items = .ok after) :
  RowsMove Ended items after ∧ ∀ row ∈ items.rows, row.id ≠ lease.id → row ∈ after.rows := by
  unfold updateRunning at updated
  split at updated
  · cases updated
    constructor
    · refine .update keeps fun row member found => ?_
      simp only [Bool.and_eq_true, decide_eq_true_eq] at found
      have same := items.eq_of_key_eq member present found.1
      subst same
      exact ends found.2
    · intro row member other
      rw [Table.rows_update, List.mem_map]
      exact ⟨row, member, by simp [other]⟩
  · cases updated

theorem rowsMove_recoverLease {lease : QueueItemRow}
  (present : lease ∈ items.rows) (leased : lease.Leased)
  (recovered : recoverLease now status lease items runs = .ok (after, runsAfter)) :
  RowsMove Ended items after ∧ ∀ row ∈ items.rows, row.id ≠ lease.id → row ∈ after.rows := by
  unfold recoverLease at recovered
  split at recovered
  · obtain ⟨_, updated, finished⟩ := bind_eq_ok recovered
    cases finished
    exact rowsMove_updateRunning present (ended_recovered leased) updated
  · obtain ⟨_, -, rest⟩ := bind_eq_ok recovered
    obtain ⟨_, updated, finished⟩ := bind_eq_ok rest
    cases finished
    unfold returnLease at updated
    split at updated
    · exact rowsMove_updateRunning present (fun running => ended_requeued running now ‹_›) updated
    · exact rowsMove_updateRunning present
        (fun running => ended_deadLettered leased running _ now) updated

theorem rowsMove_recoverLeases {leases : List QueueItemRow}
  (apart : leases.Pairwise fun left right => left.id < right.id)
  (present : ∀ lease ∈ leases, lease ∈ items.rows)
  (leased : ∀ lease ∈ leases, lease.Leased)
  (recovered : recoverLeases now status leases items runs = .ok (after, runsAfter)) :
  RowsMove Ended items after := by
  induction leases generalizing items runs with
  | nil =>
    cases recovered
    exact .same
  | cons lease _ ih =>
    obtain ⟨⟨_, _⟩, first, rest⟩ := bind_eq_ok recovered
    rw [List.pairwise_cons] at apart
    obtain ⟨moves, others⟩ := rowsMove_recoverLease
      (present lease List.mem_cons_self) (leased lease List.mem_cons_self)
      first
    refine moves.trans (ih apart.2 ?_ ?_ rest)
    · intro other member
      exact others other (present other (List.mem_cons_of_mem _ member)) (apart.1 other member).ne'
    · intro other member
      exact leased other (List.mem_cons_of_mem _ member)

theorem Queue.Sound.rowsMove_recover (sound : queue.Sound)
  (recovered : recoverStaleDiscoveryLeases now skipped queue.items
    queue.runs = .ok (count, items, runs)) :
  RowsMove Ended queue.items items := by
  obtain ⟨_, swept, finished⟩ := bind_eq_ok recovered
  cases finished
  refine rowsMove_recoverLeases (queue.items.ordered.filter _) ?_ ?_ swept
  · exact fun lease member => List.mem_of_mem_filter member
  · exact fun lease member =>
      sound.leased lease (List.mem_of_mem_filter member)

theorem mem_of_pickFirst (first : pickFirst rows = some picked) : picked ∈ rows := by
  induction rows generalizing picked with
  | nil => cases first
  | cons _ _ ih =>
    simp only [pickFirst] at first
    split at first
    · cases first
      exact List.mem_cons_self
    next found =>
      split at first
      · cases first
        exact List.mem_cons_self
      · cases first
        exact List.mem_cons_of_mem _ (ih found)

structure Claimed (worker : String) (now : Time) (item old new : QueueItemRow) : Prop where
  queued : old.status = .queued
  alive : old.deadLetterAt = none
  claimed : new = old.claimed worker now
  returned : new = item

structure Queue.Claims (queue : Queue) (worker : String) (now : Time)
  (item : QueueItemRow) (after : QueueItems) : Prop where
  moves : RowsMove (Claimed worker now item) queue.items after
  unleased : queue.Unleased worker now
  lockedBy : item.lockedBy = some worker
  lockedAt : item.lockedAt = some now

theorem Queue.claims_claimWhere {scene : ClaimScene} (distinct : queue.Unleased worker scene.now)
  (claimed : claimWhere wanted scene worker queue.items = (some item, after)) :
  queue.Claims worker scene.now item after := by
  unfold claimWhere at claimed
  split at claimed
  · cases claimed
  next picked first =>
    cases claimed
    refine ⟨.update _ fun row member chosen => ?_, distinct, rfl, rfl⟩
    have selected := List.mem_filter.1 (mem_of_pickFirst first)
    have same : row = picked :=
      queue.items.eq_of_key_eq member selected.1 (of_decide_eq_true chosen)
    subst same
    simp only [claimable, Bool.and_eq_true, decide_eq_true_eq,
      Option.isNone_iff_eq_none] at selected
    obtain ⟨-, ⟨⟨⟨⟨queued, alive⟩, -⟩, -⟩, -⟩, -⟩ := selected
    exact ⟨queued, alive, rfl, rfl⟩

theorem QueueItemRow.Leased.of_options (options : EnqueueOptions)
  (configured : Int) (now : Time) (fresh : Uuid) :
  (options.row configured now fresh).Leased ∧
    1 ≤ (options.row configured now fresh).maxAttempts := by
  have tries : 1 ≤ (options.row configured now fresh).maxAttempts := by
    simp only [EnqueueOptions.row, defaultMaxAttempts]
    split
    · split <;> omega
    · omega
  exact ⟨.of_queued rfl rfl rfl rfl tries, tries⟩

theorem mem_enqueue {id : Uuid}
  (inserted : enqueue configured now fresh options items = some (id, after)) :
  (∀ row ∈ after.rows, row ∈ items.rows ∨ row = options.row configured now fresh) ∧
  ∀ row ∈ items.rows, row ∈ after.rows := by
  unfold enqueue at inserted
  split at inserted
  · cases inserted
    exact ⟨fun row member => .inl member, fun row member => member⟩
  · obtain ⟨_, inserting, same⟩ := Option.map_eq_some_iff.1 inserted
    cases same
    rw [(Table.insert_eq_some_iff.1 inserting).2]
    constructor
    · intro row member
      exact (Table.mem_place.1 member).symm
    · intro row member
      exact Table.mem_place.2 (.inr member)

namespace Queue.Sound

theorem empty : Queue.empty.Sound where
  leased _ member := absurd member List.not_mem_nil
  tries _ member := absurd member List.not_mem_nil
  alive _ member := absurd member List.not_mem_nil
  held _ member := absurd member List.not_mem_nil
  distinct _ member := absurd member List.not_mem_nil

theorem enqueue (sound : queue.Sound) {configured : Int} {now : Time}
  {fresh id : Uuid} {options : EnqueueOptions} {items : QueueItems}
  (inserted : ChannelOps.enqueue configured now fresh options queue.items =
    some (id, items)) : Queue.Sound { queue with items := items } := by
  have leased := QueueItemRow.Leased.of_options options configured now fresh
  have rows := (mem_enqueue inserted).1
  refine ⟨?_, ?_, ?_, ?_, sound.distinct⟩
  · intro row member
    rcases rows row member with old | rfl
    · exact sound.leased row old
    · exact leased.1
  · intro row member
    rcases rows row member with old | rfl
    · exact sound.tries row old
    · exact leased.2
  · intro row member running
    rcases rows row member with old | rfl
    · exact sound.alive row old running
    · rfl
  · intro row member running
    rcases rows row member with old | rfl
    · exact sound.held row old running
    · cases running

theorem ended (sound : queue.Sound) (moves : RowsMove Ended queue.items items)
  (runs : DiscoveryRuns) :
  Queue.Sound { queue with items := items, runs := runs } := by
  -- A row that still runs was there before.
  have kept : ∀ row ∈ items.rows, row.status = .running → row ∈ queue.items.rows := by
    intro row member running
    rcases moves.1 row member with kept | ⟨_, -, ended⟩
    · exact kept
    · exact absurd running ended.stopped
  refine ⟨?_, ?_, ?_, ?_, sound.distinct⟩
  · intro row member
    rcases moves.1 row member with kept | ⟨_, -, ended⟩
    · exact sound.leased row kept
    · exact ended.leased
  · intro row member
    rcases moves.1 row member with kept | ⟨old, present, ended⟩
    · exact sound.tries row kept
    · rw [ended.tries]
      exact sound.tries old present
  · exact fun row member running =>
      sound.alive row (kept row member running) running
  · exact fun row member running =>
      sound.held row (kept row member running) running

theorem claim (sound : queue.Sound) (claims : queue.Claims worker now item items) :
  (queue.claim item items).Sound := by
  refine ⟨?_, ?_, ?_, ?_, ?_⟩
  · intro row member
    rcases claims.moves.1 row member with kept | ⟨old, present, claimed⟩
    · exact sound.leased row kept
    · have free := (sound.leased old present).queued claimed.queued
      rw [claimed.claimed]
      refine ⟨?_, fun _ => ⟨rfl, rfl⟩, Int.add_one_le_iff.2 free.2.2.2⟩
      intro queued
      cases queued
  · intro row member
    rcases claims.moves.1 row member with kept | ⟨old, present, claimed⟩
    · exact sound.tries row kept
    · rw [claimed.claimed]
      exact sound.tries old present
  · intro row member running
    rcases claims.moves.1 row member with kept | ⟨old, present, claimed⟩
    · exact sound.alive row kept running
    · rw [claimed.claimed]
      exact claimed.alive
  · intro row member running
    rcases claims.moves.1 row member with kept | ⟨old, present, claimed⟩
    · exact List.mem_cons_of_mem _ (sound.held row kept running)
    · rw [claimed.returned]
      exact List.mem_cons_self
  · intro left first right second worker since
    rcases List.mem_cons.1 first with new | first <;>
      rcases List.mem_cons.1 second with other | second
    · rw [new, other]
    · rw [new, claims.lockedBy] at worker
      rw [new, claims.lockedAt] at since
      exact absurd since.symm (claims.unleased right second worker.symm)
    · rw [other, claims.lockedBy] at worker
      rw [other, claims.lockedAt] at since
      exact absurd since (claims.unleased left first worker)
    · exact sound.distinct left first right second worker since

end Queue.Sound

inductive Queue.Effect (queue after : Queue) : Prop
  | entered {configured : Int} {now : Time} {fresh id : Uuid}
    {options : EnqueueOptions} {items : QueueItems}
    (inserted : enqueue configured now fresh options queue.items =
      some (id, items)) (result : after = { queue with items := items })
  | claimed {worker : String} {now : Time} {item : QueueItemRow}
    {items : QueueItems} (claims : queue.Claims worker now item items)
    (result : after = queue.claim item items)
  | ended {items : QueueItems} {runs : DiscoveryRuns}
    (moves : RowsMove Ended queue.items items)
    (result : after = { queue with items := items, runs := runs })

theorem shouldDeadLetter_eq_false (again : ¬ shouldDeadLetter attemptCount maxAttempts = true)
  (tries : 1 ≤ maxAttempts) : attemptCount < maxAttempts := by
  simp only [shouldDeadLetter, decide_eq_true_eq, not_le] at again
  rwa [if_neg (by omega)] at again

section

variable {after : Queue} (sound : queue.Sound)

include sound

theorem Queue.Sound.effect (step : queue.Step after) : queue.Effect after := by
  cases step with
  | enqueue inserted => exact .entered inserted rfl
  | claimNext distinct claimed => exact .claimed (queue.claims_claimWhere distinct claimed) rfl
  | claimNextForKinds distinct claimed =>
    unfold claimNextForKinds at claimed
    split at claimed
    · cases claimed
    · exact .claimed (queue.claims_claimWhere distinct claimed) rfl
  | claimNextForChannelAndKinds distinct claimed =>
    unfold claimNextForChannelAndKinds at claimed
    split at claimed
    · cases claimed
    · obtain ⟨-, -, returned⟩ := bind_eq_ok claimed
      exact .claimed (queue.claims_claimWhere distinct (Except.ok.inj returned)) rfl
  | markQueueDone held =>
    refine .ended (sound.rowsMove_endLease held fun member running => ?_) rfl
    exact ended_done (sound.leased _ member) running
  | @markQueueFailedOrRetry item message now held =>
    refine .ended ?_ rfl
    unfold markQueueFailedOrRetry
    split
    · refine sound.rowsMove_endLease held fun member running => ?_
      exact ended_deadLettered (sound.leased _ member) running message now
    next again =>
      refine sound.rowsMove_endLease held fun member running => ?_
      exact ended_retried running (sound.alive _ member running) message _
        (shouldDeadLetter_eq_false again (sound.tries _ member))
  | releaseQueueClaim held =>
    refine .ended (sound.rowsMove_endLease held fun member running => ?_) rfl
    exact ended_released (sound.leased _ member) running
      (sound.alive _ member running) (sound.tries _ member)
  | @markQueueRejected item message now held =>
    refine .ended (sound.rowsMove_endLease held fun member running => ?_) rfl
    exact ended_deadLettered (sound.leased _ member) running message now
  | recover recovered => exact .ended (sound.rowsMove_recover recovered) rfl
  | discover => exact .ended .same rfl

theorem Queue.Sound.step (step : queue.Step after) : after.Sound := by
  cases sound.effect step with
  | entered inserted result => rw [result]; exact sound.enqueue inserted
  | claimed claims result => rw [result]; exact sound.claim claims
  | ended moves result => rw [result]; exact sound.ended moves _

theorem Queue.Sound.run (run : queue.Run after) : after.Sound := by
  induction run with
  | refl => exact sound
  | tail _ step ih => exact ih.step step

theorem Queue.Sound.finished_step (step : queue.Step after) (member : row ∈ queue.items.rows)
  (finished : row.status.isFinished = true) : row ∈ after.items.rows := by
  cases sound.effect step with
  | entered inserted result =>
    rw [result]
    exact (mem_enqueue inserted).2 row member
  | claimed claims result =>
    rw [result]
    rcases claims.moves.2 row member with kept | ⟨_, claimed⟩
    · exact kept
    · rw [claimed.queued] at finished
      cases finished
  | ended moves result =>
    rw [result]
    rcases moves.2 row member with kept | ⟨_, ended⟩
    · exact kept
    · rw [ended.running] at finished
      cases finished

theorem Queue.Sound.finished_run (run : queue.Run after) (member : row ∈ queue.items.rows)
  (finished : row.status.isFinished = true) : row ∈ after.items.rows := by
  induction run with
  | refl => exact member
  | tail earlier step ih => exact (sound.run earlier).finished_step step ih finished

end

/-- Every call that ends a claim is refused: the lease is lost, and the queue
stays as it is. -/
structure Refused (item : QueueItemRow) (items : QueueItems) : Prop where
  done : markQueueDone item items = (.error .leaseLost, items)
  failed : ∀ message now, markQueueFailedOrRetry item message now items = (.error .leaseLost, items)
  released : releaseQueueClaim item items = (.error .leaseLost, items)
  rejected : ∀ message now, markQueueRejected item message now items = (.error .leaseLost, items)

theorem Queue.Sound.refused (sound : queue.Sound) (held : item ∈ queue.held)
  (stale : item ∉ queue.items.rows) (ok : runningLease item = .ok lease) :
  Refused item queue.items := by
  have lost := sound.endLease_of_stale held stale ok
  refine ⟨lost _ _, fun message now => ?_, lost _ _, fun _ _ => lost _ _⟩
  unfold markQueueFailedOrRetry
  split <;> exact lost _ _

/-- In every run of the queue, leases are as the statuses say, a claim whose
row has changed since cannot be ended, and a finished row stays. -/
theorem Queue.lease_invariant {queue : Queue} (run : Queue.empty.Run queue) :
  (∀ row ∈ queue.items.rows, row.Leased) ∧
  (∀ item ∈ queue.held, item ∉ queue.items.rows →
    ∀ lease, runningLease item = .ok lease → Refused item queue.items) ∧
  ∀ row ∈ queue.items.rows, row.status.isFinished = true →
    ∀ later, queue.Run later → row ∈ later.items.rows := by
  have sound := Queue.Sound.empty.run run
  refine ⟨sound.leased, ?_, ?_⟩
  · intro item held stale lease ok
    exact sound.refused held stale ok
  · intro row member finished later further
    exact sound.finished_run further member finished

def cleanupOptions : EnqueueOptions where
  kind := .cleanupExpired
  idempotencyKey := "cleanup"
  payload := .empty
  priority := 0
  runAfter := none
  channelProfileID := none
  parentQueueItemID := none
  maxAttempts := 0

def emptyScene : ClaimScene := ⟨0, ⟨.empty, .empty, .empty, .empty⟩, fun _ => false⟩

def cleanupItem : QueueItemRow := (cleanupOptions.row 0 0 1).claimed "runner" 0

def cleanupItems (row : QueueItemRow) : QueueItems := ⟨[row], by simp⟩

theorem Queue.lease_invariant_released :
  ∃ queue, Queue.empty.Run queue ∧ Refused cleanupItem queue.items := by
  let queued := cleanupItems (cleanupOptions.row 0 0 1)
  let released := cleanupItems cleanupItem.released
  have entered : Queue.empty.Step ⟨queued, .empty, []⟩ :=
    @Step.enqueue Queue.empty 0 0 1 1 cleanupOptions queued rfl
  have claimed : Queue.Step ⟨queued, .empty, []⟩
    ⟨cleanupItems cleanupItem, .empty, [cleanupItem]⟩ :=
    @Step.claimNext ⟨queued, .empty, []⟩ emptyScene "runner" cleanupItem (cleanupItems cleanupItem)
      (fun _ member => absurd member List.not_mem_nil) rfl
  have ended : Queue.Step ⟨cleanupItems cleanupItem, .empty, [cleanupItem]⟩
    ⟨released, .empty, [cleanupItem]⟩ :=
    @Step.releaseQueueClaim ⟨cleanupItems cleanupItem, .empty, [cleanupItem]⟩
      cleanupItem List.mem_cons_self
  have run : Queue.empty.Run ⟨released, .empty, [cleanupItem]⟩ :=
    .tail (.tail (.single entered) claimed) ended
  refine ⟨_, run, (Queue.lease_invariant run).2.1 cleanupItem
    List.mem_cons_self ?_ ("runner", 0) rfl⟩
  intro member
  have same : cleanupItem = cleanupItem.released := List.mem_singleton.1 member
  exact absurd (congrArg QueueItemRow.status same) (by decide)

end VideoProcess.ChannelOps
