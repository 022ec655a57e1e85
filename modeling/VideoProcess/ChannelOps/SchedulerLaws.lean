import VideoProcess.ChannelOps.Scheduler
import VideoProcess.Program.Basic

namespace VideoProcess.ChannelOps.Scheduler

open Data Calendar Program

/-! One tick for every window. -/

def effectiveInterval (channel : ChannelProfileRow) : Int :=
  if everyMinute channel then 1
  else normalizedTickIntervalMinutes channel.tickIntervalMinutes

def window (channel : ChannelProfileRow) (now : Time) : Int :=
  unix now / (effectiveInterval channel * 60)

theorem normalizedTickIntervalMinutes_ge (value : Int) :
  15 ≤ normalizedTickIntervalMinutes value := by
  unfold normalizedTickIntervalMinutes
  dsimp only
  split <;> split <;> omega

variable {now : Time}

theorem unix_nonneg (later : 0 ≤ now) : 0 ≤ unix now := Int.ediv_nonneg later (by decide)

def bucketStart (interval : Int) (now : Time) : Int := unix now / (interval * 60) * interval

theorem schedulerBucket_eq (later : 0 ≤ now) (minutes : Int) : schedulerBucket now minutes =
  let interval := normalizedTickIntervalMinutes minutes
  if interval ≥ 60 ∧ bucketStart interval now % 60 = 0
  then hourText (bucketStart interval now)
  else minuteText (bucketStart interval now) := by
  have start (interval : Int) : (unix now).tdiv (interval * 60) * (interval * 60) / 60 =
    bucketStart interval now := by
    rw [bucketStart, Int.tdiv_eq_ediv_of_nonneg (unix_nonneg later),
      ← Int.mul_assoc, Int.mul_ediv_cancel _ (by decide)]
  simp only [schedulerBucket, start]

theorem bucketStart_nonneg (positive : 0 < interval) (later : 0 ≤ now) :
  0 ≤ bucketStart interval now :=
  Int.mul_nonneg (Int.ediv_nonneg (unix_nonneg later) (by omega)) (by omega)

theorem bucketStart_injective (positive : 0 < interval)
  (same : bucketStart interval left = bucketStart interval right) :
  unix left / (interval * 60) = unix right / (interval * 60) :=
  Int.eq_of_mul_eq_mul_right (by omega) same

theorem schedulerBucket_eq_iff (first : 0 ≤ left) (second : 0 ≤ right) (minutes : Int) :
  schedulerBucket left minutes = schedulerBucket right minutes ↔
    unix left / (normalizedTickIntervalMinutes minutes * 60) =
      unix right / (normalizedTickIntervalMinutes minutes * 60) := by
  have positive : 0 < normalizedTickIntervalMinutes minutes :=
    Int.lt_of_lt_of_le (by decide) (normalizedTickIntervalMinutes_ge minutes)
  have firstStart := bucketStart_nonneg positive first
  have secondStart := bucketStart_nonneg positive second
  rw [schedulerBucket_eq first, schedulerBucket_eq second]
  dsimp only
  constructor
  · intro same
    apply bucketStart_injective positive
    split at same
    next leftFull =>
      split at same
      next rightFull => exact hourText_injective firstStart secondStart leftFull.2 rightFull.2 same
      · exact absurd same (hourText_ne_minuteText firstStart secondStart)
    · split at same
      · exact absurd same.symm (hourText_ne_minuteText secondStart firstStart)
      · exact minuteText_injective firstStart secondStart same
  · intro same
    have start : bucketStart (normalizedTickIntervalMinutes minutes) left =
      bucketStart (normalizedTickIntervalMinutes minutes) right := by
      rw [bucketStart, same, bucketStart]
    rw [start]

theorem channelSchedulerBucket_eq_iff (channel : ChannelProfileRow)
  (first : 0 ≤ left) (second : 0 ≤ right) :
  channelSchedulerBucket channel left = channelSchedulerBucket channel right ↔
    window channel left = window channel right := by
  unfold channelSchedulerBucket window effectiveInterval
  by_cases minutely : everyMinute channel = true
  · rw [if_pos minutely, if_pos minutely, if_pos minutely]
    constructor
    · intro same
      exact minuteText_injective (Int.ediv_nonneg (unix_nonneg first) (by decide))
        (Int.ediv_nonneg (unix_nonneg second) (by decide)) same
    · intro same
      exact congrArg minuteText same
  · rw [if_neg minutely, if_neg minutely, if_neg minutely]
    exact schedulerBucket_eq_iff first second _

theorem bucket_of_window (first : 0 ≤ left) (second : 0 ≤ right)
  (interval : effectiveInterval channel = effectiveInterval other)
  (same : window channel left = window other right) :
  channelSchedulerBucket channel left = channelSchedulerBucket other right := by
  have long := normalizedTickIntervalMinutes_ge channel.tickIntervalMinutes
  have otherLong := normalizedTickIntervalMinutes_ge other.tickIntervalMinutes
  unfold window at same
  unfold effectiveInterval at interval same
  unfold channelSchedulerBucket
  by_cases minutely : everyMinute channel = true <;>
    by_cases otherMinutely : everyMinute other = true <;>
    simp [minutely, otherMinutely] at interval same ⊢
  · exact congrArg minuteText same
  · omega
  · omega
  · rw [schedulerBucket_eq first, schedulerBucket_eq second, ← interval]
    dsimp only
    rw [← interval] at same
    have start : bucketStart (normalizedTickIntervalMinutes channel.tickIntervalMinutes) left =
      bucketStart (normalizedTickIntervalMinutes channel.tickIntervalMinutes) right := by
      rw [bucketStart, same, bucketStart]
    rw [start]

section

variable (id : Uuid)

theorem toList_tickIdempotencyKey (bucket : List Char) : (tickIdempotencyKey id bucket).toList =
    "agent_tick".toList ++ ':' :: (idText id ++ ':' :: bucket) := by
  simp [tickIdempotencyKey, idempotencyKey]

theorem length_hexText (width value : Nat) : (hexText width value).length = width := by
  induction width generalizing value with
  | zero => rfl
  | succ _ ih => rw [hexText, List.length_append, ih]; rfl

theorem length_idText : (idText id).length = 36 := by
  rw [idText, toList_uuidString]
  simp [uuidText, length_hexText]

theorem tickIdempotencyKey_injective {left right : ChannelProfileRow}
  (same : tickIdempotencyKey left.id bucket = tickIdempotencyKey right.id other) :
  left.id = right.id ∧ bucket = other := by
  have texts := congrArg String.toList same
  rw [toList_tickIdempotencyKey, toList_tickIdempotencyKey] at texts
  have rest := (List.cons.inj (List.append_cancel_left texts)).2
  obtain ⟨ids, buckets⟩ := List.append_inj rest ((length_idText _).trans (length_idText _).symm)
  exact ⟨uuidString_inj left.inRange right.inRange (String.toList_inj.1 ids),
    (List.cons.inj buckets).2⟩

/-- Every other key starts with another letter. -/
def IsTickKey (key : String) : Prop := key.toList.head? = some 'a'

theorem isTickKey_tick (bucket : List Char) : IsTickKey (tickIdempotencyKey id bucket) := by
  rw [IsTickKey, toList_tickIdempotencyKey]
  rfl

theorem not_isTickKey_cleanup (day : List Char) : ¬ IsTickKey (cleanupIdempotencyKey day) := by
  simp [IsTickKey, cleanupIdempotencyKey, idempotencyKey]

theorem not_isTickKey_learning (bucket : List Char) :
  ¬ IsTickKey (learningRecomputeIdempotencyKey id bucket) := by
  simp [IsTickKey, learningRecomputeIdempotencyKey, idempotencyKey]

theorem not_isTickKey_discovery (source bucket : List Char) :
  ¬ IsTickKey (discoveryIdempotencyKey id source bucket) := by
  simp [IsTickKey, discoveryIdempotencyKey, idempotencyKey]

end

section

variable {α β : Type}

theorem tx_bind_eq_ok {rest : α → Tx β} (done : (action >>= rest) session = .ok result) :
  ∃ value middle, action session = .ok (value, middle) ∧ rest value middle = .ok result := by
  obtain ⟨⟨value, middle⟩, acted, rested⟩ := bind_eq_ok done
  exact ⟨value, middle, acted, rested⟩

def Leads (before : Database → Prop) (action : Tx α) (after : α → Database → Prop) : Prop :=
  ∀ session result final, before session.database →
    action session = .ok (result, final) → after result final.database

variable {kept : Database → Prop}

theorem leads_pure (holds : ∀ database, before database → after value database) :
  Leads before (pure value) after := by
  intro session result final held done
  cases done
  exact holds _ held

theorem leads_bind {before : Database → Prop} {middle : α → Database → Prop}
  {after : β → Database → Prop} {action : Tx α} {rest : α → Tx β}
  (first : Leads before action middle)
  (second : ∀ value, Leads (middle value) (rest value) after) :
  Leads before (action >>= rest) after := by
  intro session result final held done
  obtain ⟨value, between, acted, rested⟩ := tx_bind_eq_ok done
  exact second value between result final (first session value between held acted) rested

theorem leads_statement : Leads before statement fun _ => before := by
  intro session result final held done
  unfold statement at done
  split at done
  · cases done
  · split at done
    · cases done
    · cases done
      exact held

variable {items : List α}

theorem leads_forM (each : ∀ item ∈ items, Leads kept (action item) fun _ => kept) :
  Leads kept (items.forM action) fun _ => kept := by
  induction items with
  | nil => exact leads_pure fun _ held => held
  | cons item _ ih =>
    refine leads_bind (each item List.mem_cons_self) fun _ => ?_
    exact ih fun other member =>
      each other (List.mem_cons_of_mem item member)

theorem leads_foldlM (each : ∀ value, ∀ item ∈ items,
  Leads kept (action value item) fun _ => kept) :
  Leads kept (items.foldlM action start) fun _ => kept := by
  induction items generalizing start with
  | nil => exact leads_pure fun _ held => held
  | cons item _ ih =>
    rw [List.foldlM_cons]
    refine leads_bind (each start item List.mem_cons_self) fun _ => ?_
    exact ih fun value other member =>
      each value other (List.mem_cons_of_mem item member)

end

theorem enqueue_cases {id : Uuid} {items : QueueItems}
  (done : enqueue configured clock fresh options items = some (id, after)) :
  (∃ row ∈ items.rows, row.idempotencyKey = options.idempotencyKey ∧ after = items) ∨
    id = fresh ∧ ∀ row, row ∈ after.rows ↔
      row = options.row configured clock fresh ∨ row ∈ items.rows := by
  unfold enqueue at done
  split at done
  next row found =>
    cases done
    exact .inl ⟨row, List.mem_of_find?_eq_some found, by simpa using List.find?_some found, rfl⟩
  · obtain ⟨_, inserted, same⟩ := Option.map_eq_some_iff.1 done
    cases same
    refine .inr ⟨rfl, fun row => ?_⟩
    rw [(Table.insert_eq_some_iff.1 inserted).2]
    exact Table.mem_place

theorem leads_storeEnqueue {settings : Settings}
  {before : Database → Prop} {after : Uuid → Database → Prop}
  (found : ∀ database, before database → ∀ row ∈ database.queueItems.rows,
    row.idempotencyKey = options.idempotencyKey →
    ∀ id, after id database)
  (made : ∀ database items clock fresh, before database → (∀ row, row ∈ items.rows ↔
    row = options.row settings.defaultMaxAttempts clock fresh ∨ row ∈ database.queueItems.rows) →
    after fresh { database with queueItems := items }) :
  Leads before (storeEnqueue settings options) after := by
  refine leads_bind leads_statement fun made' => ?_
  intro session result final held done
  obtain ⟨_, _, got, done⟩ := tx_bind_eq_ok done
  cases got
  cases enqueued : enqueue settings.defaultMaxAttempts made'.clock made'.fresh
    options session.database.queueItems with
  | none =>
    rw [enqueued] at done
    cases done
  | some pair =>
    obtain ⟨_, items⟩ := pair
    rw [enqueued] at done
    obtain ⟨_, _, setting, done⟩ := tx_bind_eq_ok done
    cases setting
    cases done
    rcases enqueue_cases enqueued with ⟨row, member, keyed, rfl⟩ | ⟨rfl, rows⟩
    · exact found _ held row member keyed result
    · exact made _ items _ _ held rows

structure IsTickItem (id : Uuid) (bucket : List Char) (row : QueueItemRow) : Prop where
  kind : row.kind = .agentTick
  channel : row.channelProfileID = some id
  key : row.idempotencyKey = tickIdempotencyKey id bucket
  payload : row.payloadJSON = tickPayload id bucket

structure Sound (database : Database) : Prop where
  listed : database.schedulerRuns = database.ticks.map fun tick => ⟨tick.channel.id, tick.bucket⟩
  distinct : database.schedulerRuns.Nodup
  bucketed : ∀ tick ∈ database.ticks, 0 ≤ tick.now ∧
    tick.bucket = channelSchedulerBucket tick.channel tick.now
  queued : ∀ tick ∈ database.ticks, ∃ row ∈ database.queueItems.rows,
    row.id = tick.item ∧ IsTickItem tick.channel.id tick.bucket row
  ticked : ∀ row ∈ database.queueItems.rows, row.kind = .agentTick →
    ∃ tick ∈ database.ticks, tick.item = row.id
  foreign : ∀ row ∈ database.queueItems.rows, row.kind ≠ .agentTick → ¬ IsTickKey row.idempotencyKey

theorem Sound.empty : Sound .empty where
  listed := rfl
  distinct := .nil
  bucketed := by simp [Database.empty]
  queued := by simp [Database.empty]
  ticked := by simp [Database.empty, Table.empty]
  foreign := by simp [Database.empty, Table.empty]

section

variable {settings : Settings}

theorem leads_enqueueOther (other : options.kind ≠ .agentTick)
  (key : ¬ IsTickKey options.idempotencyKey) :
  Leads Sound (storeEnqueue settings options) fun _ => Sound := by
  refine leads_storeEnqueue (fun _ sound _ _ _ _ => sound) ?_
  intro database items clock fresh sound rows
  refine { sound with queued := ?_, ticked := ?_, foreign := ?_ }
  · intro tick member
    obtain ⟨row, among, item⟩ := sound.queued tick member
    exact ⟨row, (rows row).2 (.inr among), item⟩
  · intro row member tick
    rcases (rows row).1 member with rfl | old
    · exact absurd tick other
    · exact sound.ticked row old tick
  · intro row member kind
    rcases (rows row).1 member with rfl | old
    · exact key
    · exact sound.foreign row old kind

variable {now : Time} {channels : List ChannelProfileRow}

theorem leads_enqueueDiscovery :
  Leads Sound (enqueueDiscovery settings channel now) fun _ => Sound := by
  unfold enqueueDiscovery
  split
  · exact leads_pure fun _ sound => sound
  · split
    · exact leads_pure fun _ sound => sound
    · exact leads_bind (leads_enqueueOther (by rintro ⟨⟩)
        (not_isTickKey_discovery _ _ _)) fun _ => leads_pure fun _ sound => sound

theorem leads_enqueueLearning :
  Leads Sound (enqueueLearning settings now channel) fun _ => Sound := by
  unfold enqueueLearning
  split
  · exact leads_bind (leads_enqueueOther (by rintro ⟨⟩)
      (not_isTickKey_learning _ _)) fun _ => leads_pure fun _ sound => sound
  · exact leads_pure fun _ sound => sound

theorem leads_enqueueOperationalMaintenance :
  Leads Sound (enqueueOperationalMaintenance settings channels now) fun _ => Sound :=
  leads_bind (leads_enqueueOther (by rintro ⟨⟩) (not_isTickKey_cleanup _))
    fun _ => leads_forM fun _ _ => leads_enqueueLearning

/-- Between the two statements of a tick: its row is there, its item is not. -/
structure Halfway (channel : ChannelProfileRow) (bucket : List Char)
  (database : Database) : Prop where
  sound : ∃ runs, database.schedulerRuns = runs ++ [⟨channel.id, bucket⟩] ∧
    (⟨channel.id, bucket⟩ : SchedulerRun) ∉ runs ∧
    Sound { database with schedulerRuns := runs }

theorem leads_insertSchedulerRun (channel : ChannelProfileRow) (bucket : List Char) :
  Leads Sound (insertSchedulerRun channel.id bucket) fun created database =>
    if created then Halfway channel bucket database else Sound database := by
  refine leads_bind leads_statement fun _ => ?_
  intro session result final sound done
  obtain ⟨_, _, got, done⟩ := tx_bind_eq_ok done
  cases got
  dsimp only at done
  split at done
  · cases done
    exact sound
  next new =>
    obtain ⟨_, _, setting, done⟩ := tx_bind_eq_ok done
    cases setting
    cases done
    exact ⟨⟨_, rfl, new, sound⟩⟩

theorem Halfway.unqueued {database : Database} (halfway : Halfway channel bucket database) :
  ∀ row ∈ database.queueItems.rows, row.idempotencyKey ≠ tickIdempotencyKey channel.id bucket := by
  obtain ⟨_, -, new, sound⟩ := halfway.sound
  intro row member keyed
  by_cases kind : row.kind = .agentTick
  · obtain ⟨tick, among, item⟩ := sound.ticked row member kind
    obtain ⟨_, otherMember, same, isItem⟩ := sound.queued tick among
    obtain rfl := database.queueItems.eq_of_key_eq otherMember member (same.trans item)
    obtain ⟨ids, buckets⟩ := tickIdempotencyKey_injective (keyed.symm.trans isItem.key)
    apply new
    rw [ids, buckets]
    have listed := sound.listed
    dsimp only at listed
    rw [listed]
    exact List.mem_map_of_mem among
  · exact sound.foreign row member kind (keyed ▸ isTickKey_tick channel.id bucket)

theorem leads_enqueueTick {channel : ChannelProfileRow} (later : 0 ≤ now) :
  Leads Sound (enqueueTick settings channel now) fun _ => Sound := by
  refine leads_bind (leads_insertSchedulerRun channel _) fun created => ?_
  cases created with
  | false => exact leads_pure fun _ sound => sound
  | true =>
    let bucket := channelSchedulerBucket channel now
    refine @leads_bind _ _ _ (fun item database => Sound { database with
      ticks := database.ticks ++ [⟨channel, now, bucket, item⟩] }) _ _ _ ?_ ?_
    · refine leads_storeEnqueue ?_ ?_
      · intro database halfway row member keyed
        exact absurd keyed (halfway.unqueued row member)
      · intro database items clock fresh halfway rows
        obtain ⟨_, appended, new, sound⟩ := halfway.sound
        have made : IsTickItem channel.id bucket
          ((tickOptions channel.id bucket).row settings.defaultMaxAttempts
            clock fresh) := ⟨rfl, rfl, rfl, rfl⟩
        refine ⟨?_, ?_, ?_, ?_, ?_, ?_⟩
        · dsimp only
          rw [appended, List.map_append, ← sound.listed]
          rfl
        · dsimp only
          rw [appended]
          exact List.nodup_append.2 ⟨sound.distinct, List.nodup_singleton _,
            fun run held other only same =>
              new (List.mem_singleton.1 only ▸ same ▸ held)⟩
        · intro tick member
          rcases List.mem_append.1 member with old | last
          · exact sound.bucketed tick old
          · rw [List.mem_singleton.1 last]
            exact ⟨later, rfl⟩
        · intro tick member
          rcases List.mem_append.1 member with old | last
          · obtain ⟨row, among, item⟩ := sound.queued tick old
            exact ⟨row, (rows row).2 (.inr among), item⟩
          · rw [List.mem_singleton.1 last]
            exact ⟨_, (rows _).2 (.inl rfl), rfl, made⟩
        · intro row member kind
          rcases (rows row).1 member with rfl | old
          · exact ⟨_, List.mem_append_right _ (List.mem_singleton.2 rfl), rfl⟩
          · obtain ⟨tick, among, item⟩ := sound.ticked row old kind
            exact ⟨tick, List.mem_append_left _ among, item⟩
        · intro row member kind
          rcases (rows row).1 member with rfl | old
          · exact absurd rfl kind
          · exact sound.foreign row old kind
    · intro item session result final sound done
      obtain ⟨_, _, modified, done⟩ := tx_bind_eq_ok done
      cases modified
      cases done
      exact sound

theorem leads_runOnce (later : 0 ≤ now) :
  Leads Sound (runOnce settings channels now) fun _ => Sound := by
  refine leads_bind leads_statement fun _ => ?_
  refine leads_bind (leads_foldlM fun enqueued channel _ => ?_) fun _ =>
    leads_bind leads_enqueueOperationalMaintenance fun _ =>
      leads_pure fun _ sound => sound
  unfold scheduleChannel
  split
  · exact leads_bind leads_enqueueDiscovery fun _ =>
      leads_bind (leads_enqueueTick later) fun _ => leads_pure fun _ sound => sound
  · exact leads_pure fun _ sound => sound

theorem Sound.fencedRun {run : Run} (sound : Sound database) (later : 0 ≤ run.now) :
  Sound (fencedRun settings run database) := by
  unfold Scheduler.fencedRun
  split
  · exact sound
  next done =>
    split
    · exact leads_runOnce later _ _ _ sound done
    · exact sound

theorem sound_runs {sequence : List Run}
  (later : ∀ run ∈ sequence, 0 ≤ run.now) : Sound (runs settings sequence) := by
  suffices continued : ∀ database, Sound database → Sound
    (sequence.foldl (fun database run => fencedRun settings run database)
      database) from continued .empty .empty
  induction sequence with
  | nil => exact fun _ sound => sound
  | cons run _ ih =>
    intro database sound
    exact ih (fun other member =>
      later other (List.mem_cons_of_mem run member)) _
      (sound.fencedRun (later run List.mem_cons_self))

end

def Tick.window (tick : Tick) : Uuid × Int × Int :=
  (tick.channel.id, effectiveInterval tick.channel, Scheduler.window tick.channel tick.now)

theorem Sound.nodup_windows (sound : Sound database) : (database.ticks.map Tick.window).Nodup := by
  have distinct := sound.distinct
  rw [sound.listed] at distinct
  rw [List.nodup_iff_pairwise_ne, List.pairwise_map] at distinct ⊢
  refine List.Pairwise.imp_of_mem ?_ distinct
  intro left right leftMember rightMember apart same
  obtain ⟨first, leftBucket⟩ := sound.bucketed left leftMember
  obtain ⟨second, rightBucket⟩ := sound.bucketed right rightMember
  simp only [Tick.window, Prod.mk.injEq] at same
  apply apart
  rw [same.1, leftBucket, rightBucket, bucket_of_window first second same.2.1 same.2.2]

theorem scheduler_once_per_window (settings : Settings) :
  (∀ (channel : ChannelProfileRow) (left right : Time), 0 ≤ left → 0 ≤ right →
    (channelSchedulerBucket channel left = channelSchedulerBucket channel right ↔
      window channel left = window channel right)) ∧
  ∀ sequence : List Run, (∀ run ∈ sequence, 0 ≤ run.now) →
    ((runs settings sequence).ticks.map Tick.window).Nodup ∧
    (∀ row ∈ (runs settings sequence).queueItems.rows, row.kind = .agentTick →
      ∃ tick ∈ (runs settings sequence).ticks, tick.item = row.id) ∧
    ∀ run ∈ (runs settings sequence).schedulerRuns,
      ∃ row ∈ (runs settings sequence).queueItems.rows,
        IsTickItem run.channelProfileID run.bucket row := by
  refine ⟨fun channel left right first second =>
    channelSchedulerBucket_eq_iff channel first second, ?_⟩
  intro sequence later
  have sound := @sound_runs settings sequence later
  refine ⟨sound.nodup_windows, sound.ticked, ?_⟩
  intro run member
  rw [sound.listed] at member
  obtain ⟨tick, among, rfl⟩ := List.mem_map.1 member
  obtain ⟨row, queued, -, item⟩ := sound.queued tick among
  exact ⟨row, queued, item⟩

namespace Sample

def settings : Settings := ⟨3, fun _ => none⟩

def channel : ChannelProfileRow where
  id := 1
  enabled := true
  haltedAt := none
  intakePausedAt := none
  tickIntervalMinutes := 60
  contentMixPolicyJSON := .null
  ownedSeedInventoryID := none
  ownedInventoryActive := false
  inRange := by decide

def second : Time := 1000000

def statements (first count : Nat) : List Statement :=
  (List.range count).map fun index => ⟨first + index, 0, none⟩

def sequence : List Run :=
  [⟨[channel], 0, statements 10 5, true⟩, ⟨[channel], 1800 * second, statements 20 5, true⟩,
    ⟨[channel], 3600 * second, statements 30 2, true⟩,
    ⟨[channel], 3601 * second, statements 40 5, true⟩]

end Sample

theorem scheduler_sample : (runs Sample.settings Sample.sequence).ticks.length = 2 ∧
  ((runs Sample.settings Sample.sequence).ticks.map Tick.window).Nodup ∧
  (channelSchedulerBucket Sample.channel 0 =
    channelSchedulerBucket Sample.channel (1800 * Sample.second) ↔
    window Sample.channel 0 = window Sample.channel (1800 * Sample.second)) := by
  obtain ⟨buckets, sequences⟩ := scheduler_once_per_window Sample.settings
  exact ⟨by decide +kernel, (sequences Sample.sequence (by decide)).1,
    buckets Sample.channel 0 (1800 * Sample.second) (by decide) (by decide)⟩

/-- The last second before the epoch is in another window than the first one
after it, and in the same bucket. -/
theorem epoch_bucket_shared : channelSchedulerBucket Sample.channel (-Sample.second) =
  channelSchedulerBucket Sample.channel 0 ∧
  window Sample.channel (-Sample.second) ≠ window Sample.channel 0 := by
  decide +kernel

end VideoProcess.ChannelOps.Scheduler
