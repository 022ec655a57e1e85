import VideoProcess.ChannelOps.Leader

namespace VideoProcess.ChannelOps.Leader

open Program

/-! What a request can do to the row, its locks and the history. -/

section

variable {after : System}

inductive Moves (request : Request) (system after : System) : Prop
  | retires (row : after.database.row = system.database.row)
    (pending : after.database.pending = system.database.pending ∨ after.database.pending = none)
    (shared : after.database.shared ⊆ system.database.shared)
    (history : after.history = system.history)
  | attempts (tx : Nat) (authority : LeaderAuthority)
    (database : after.database = system.database)
    (history : after.history = system.history ++ [.attempted tx authority])
  | writes (tx : Nat) (row : LeaderRow)
    (free : system.database.shared = [])
    (newer : ∀ old, (system.database.pending.map Prod.snd).or
      system.database.row = some old → old.epoch < row.epoch)
    (database : after.database = { system.database with pending := some (tx, row) })
    (history : after.history = system.history)
  | acquires (tx : Nat) (row : LeaderRow)
    (written : system.database.pending = some (tx, row))
    (committed : after.database.row = some row)
    (pending : after.database.pending = none)
    (shared : after.database.shared = system.database.shared)
    (history : after.history = system.history ++ [.acquired row.holderID row.epoch])
  | passes (tx : Nat) (authority : LeaderAuthority)
    (selected : request = .selectForShare tx authority)
    (free : system.database.pending = none)
    (current : (system.database.current authority).isSome = true)
    (database : after.database = { system.database with
      shared := (tx, authority) :: system.database.shared })
    (history : after.history = system.history ++ [.passed tx authority])
  | commits (tx : Nat) (authorities : List LeaderAuthority)
    (held : ∀ authority ∈ authorities, (tx, authority) ∈ system.database.shared)
    (row : after.database.row = system.database.row)
    (pending : after.database.pending = system.database.pending)
    (shared : after.database.shared ⊆ system.database.shared)
    (history : after.history = system.history ++ authorities.map (.committed tx))
  | updates (old new : LeaderRow) (free : system.database.shared = [])
    (unwritten : system.database.pending = none)
    (row : system.database.row = some old) (same : new.epoch = old.epoch)
    (database : after.database = { system.database with row := some new })
    (history : after.history = system.history)

theorem Moves.refl (request : Request) (system : System) : Moves request system system :=
  .retires rfl (.inl rfl) (List.Subset.refl _) rfl

theorem moves_interrupt {env : Env} {outcome : Except String α × System}
  (permitted : proceeds system request env = true)
  (moves : system.database.ready request = true → Moves request system outcome.2) :
  Moves request system (interrupt env.fault system outcome).2 := by
  rw [proceeds, Bool.or_eq_true] at permitted
  unfold interrupt
  cases given : env.fault with
  | none =>
    rw [given] at permitted
    exact moves (permitted.resolve_right (by simp))
  | some =>
    dsimp only
    split
    next effective =>
      rw [given] at permitted
      exact moves (permitted.resolve_right (by simp [effective]))
    · exact .refl _ system

theorem moves_upsertEpoch {tx : Nat}
  (ready : system.database.ready (.upsertEpoch tx holderID now) = true) :
  Moves request system (system.store (system.database.upsertEpoch tx holderID now).2) := by
  simp only [Database.ready, decide_eq_true_eq] at ready
  unfold Database.upsertEpoch
  split
  · exact .refl _ system
  · refine .writes tx _ ready.1 ?_ rfl rfl
    intro old seen
    simp only [seen]
    exact Nat.lt_succ_self _

theorem moves_endAcquire (tx : Nat) :
  Moves request system (system.store (system.database.endAcquire tx)) := by
  refine .retires rfl ?_ (List.Subset.refl _) rfl
  simp only [System.store, Database.endAcquire]
  cases system.database.pending with
  | none => exact .inl rfl
  | some pending => by_cases own : pending.1 = tx <;> simp [own]

theorem moves_commitAcquire (tx : Nat) : Moves request system (execCommitAcquire tx system).2 := by
  unfold execCommitAcquire
  split
  · exact .refl _ system
  · dsimp only
    split
    · exact moves_endAcquire tx
    next owner row found =>
      obtain ⟨written, own⟩ := Option.filter_eq_some_iff.1 found
      refine .acquires owner row written rfl ?_ rfl rfl
      simp only [System.record, System.store, Database.endAcquire, written]
      simpa using own

theorem moves_endFence (tx : Nat) :
  Moves request system (system.store (system.database.endFence tx)) :=
  .retires rfl (.inl rfl) (List.filter_subset_self _) rfl

theorem moves_updateHeartbeat
  (ready : system.database.ready (.updateHeartbeat authority now) = true) :
  Moves request system (system.store (system.database.updateHeartbeat authority now).2) := by
  simp only [Database.ready, decide_eq_true_eq] at ready
  unfold Database.updateHeartbeat
  split
  · exact .refl _ system
  next row found =>
    split
    · exact .refl _ system
    · obtain ⟨free, unwritten⟩ := ready.resolve_right (by simp [found])
      exact .updates row { row with heartbeatAt := now } free unwritten
        (Option.filter_eq_some_iff.1 found).1 rfl rfl rfl

theorem moves_updateReleased
  (ready : system.database.ready (.updateReleased authority now) = true) :
  Moves request system (system.store (system.database.updateReleased authority now).2) := by
  simp only [Database.ready, decide_eq_true_eq] at ready
  unfold Database.updateReleased
  split
  · exact .refl _ system
  next row found =>
    split
    · exact .refl _ system
    · obtain ⟨free, unwritten⟩ := ready.resolve_right (by simp [found])
      exact .updates row { row with releasedAt := some now } free unwritten
        (Option.filter_eq_some_iff.1 found).1 rfl rfl rfl

theorem moves_selectForShare {tx : Nat}
  (ready : system.database.ready (.selectForShare tx authority) = true) :
  Moves (.selectForShare tx authority) system (execSelectForShare tx authority system).2 := by
  simp only [Database.ready, decide_eq_true_eq] at ready
  unfold execSelectForShare
  split
  · exact .refl _ system
  · split
    · exact .refl _ system
    next found => exact .passes tx authority rfl ready (by rw [found]; rfl) rfl rfl

theorem moves_commitFence (tx : Nat) : Moves request system (execCommitFence tx system).2 := by
  unfold execCommitFence
  split
  · exact .refl _ system
  · refine .commits tx ((system.database.shared.filter fun holder =>
      holder.1 = tx).map Prod.snd) ?_ rfl rfl (List.filter_subset_self _) ?_
    · intro authority member
      obtain ⟨_, held, rfl⟩ := List.mem_map.1 member
      obtain ⟨held, own⟩ := List.mem_filter.1 held
      have own := of_decide_eq_true own
      exact own ▸ held
    · rw [List.map_map]
      rfl

theorem moves_exec {env : Env} (permitted : proceeds system request env = true) :
  Moves request system (exec env request system).2 := by
  have quiet {database : Database} (row : database.row = system.database.row)
    (pending : database.pending = system.database.pending)
    (shared : database.shared = system.database.shared) :
    Moves request system (system.store database) :=
    .retires row (.inl pending) (shared ▸ List.Subset.refl _) rfl
  cases request with
  | configure | publish | refresh | clear | newLease | readLease | touchLease
  | retireLease | dispatch => exact .retires rfl (.inl rfl) (List.Subset.refl _) rfl
  | snapshot _ tx =>
    simp only [exec]
    split
    next authority _ => exact .attempts tx authority rfl rfl
    · exact .refl _ system
  | acquireConn => exact moves_interrupt permitted fun _ => .refl _ system
  | tryAdvisoryLock =>
    refine moves_interrupt permitted fun _ => ?_
    unfold Database.tryAdvisoryLock
    split
    · exact quiet rfl rfl rfl
    · split
      · exact quiet rfl rfl rfl
      · exact quiet rfl rfl rfl
  | advisoryUnlock =>
    refine moves_interrupt permitted fun _ => ?_
    unfold Database.advisoryUnlock
    split
    · exact quiet rfl rfl rfl
    · split
      · exact quiet rfl rfl rfl
      · exact quiet rfl rfl rfl
  | closeConn =>
    simp only [exec]
    unfold Database.endSession
    split
    · exact quiet rfl rfl rfl
    · exact quiet rfl rfl rfl
  | beginAcquire => exact moves_interrupt permitted fun _ => quiet rfl rfl rfl
  | beginFence => exact moves_interrupt permitted fun _ => quiet rfl rfl rfl
  | upsertEpoch => exact moves_interrupt permitted moves_upsertEpoch
  | commitAcquire tx => exact moves_interrupt permitted fun _ => moves_commitAcquire tx
  | rollbackAcquire tx => exact moves_endAcquire tx
  | updateHeartbeat => exact moves_interrupt permitted moves_updateHeartbeat
  | selectLeader => exact moves_interrupt permitted fun _ => .refl _ system
  | updateReleased => exact moves_interrupt permitted moves_updateReleased
  | selectForShare => exact moves_interrupt permitted moves_selectForShare
  | commitFence tx => exact moves_interrupt permitted fun _ => moves_commitFence tx
  | rollbackFence tx => exact moves_endFence tx

end

/-- An epoch is newer than those before it, and whoever passes the fence or
commits belongs to the newest. -/
def Before : Event → Event → Prop
  | .acquired _ earlier, .acquired _ later => earlier < later
  | .acquired _ epoch, .passed _ authority => epoch ≤ authority.epoch
  | .acquired _ epoch, .committed _ authority => epoch ≤ authority.epoch
  | _, _ => True

def Attempted (history : List Event) : Prop :=
  ∀ earlier later tx authority, history = earlier ++ .passed tx authority :: later →
    .attempted tx authority ∈ earlier

structure Sound (system : System) : Prop where
  shared : ∀ holder ∈ system.database.shared, (system.database.current holder.2).isSome = true
  pending : ∀ tx row, system.database.pending = some (tx, row) → system.database.shared = [] ∧
    ∀ old, system.database.row = some old → old.epoch < row.epoch
  newest : ∀ holderID epoch, .acquired holderID epoch ∈ system.history →
    ∃ row, system.database.row = some row ∧ epoch ≤ row.epoch
  ordered : system.history.Pairwise Before
  attempted : Attempted system.history

section

variable {after : System}

theorem current_isSome {database : Database}
  (current : (database.current authority).isSome = true) :
  ∃ row, database.row = some row ∧ row.holderID = authority.holderID ∧
    row.epoch = authority.epoch := by
  obtain ⟨row, found⟩ := Option.isSome_iff_exists.1 current
  obtain ⟨read, own⟩ := Option.filter_eq_some_iff.1 found
  simp only [LeaderRow.belongsTo, decide_eq_true_eq] at own
  exact ⟨row, read, own.1.2⟩

theorem Attempted.append (attempted : Attempted history)
  (backed : ∀ tx authority, .passed tx authority ∈ events → .attempted tx authority ∈ history) :
  Attempted (history ++ events) := by
  intro earlier later tx authority split
  obtain ⟨_, rfl, rest⟩ | ⟨old, rfl, rest⟩ := List.append_eq_append_iff.1 split
  · exact List.mem_append_left _ (backed tx authority (by simp [rest]))
  · cases old with
    | nil =>
      rw [List.append_nil] at backed
      exact backed tx authority (by rw [← List.nil_append events, ← rest]; simp)
    | cons _ old =>
      obtain ⟨rfl, -⟩ := List.cons_eq_cons.1 rest
      exact attempted earlier old tx authority rfl

theorem pairwise_append_before {history events : List Event}
  (ordered : history.Pairwise Before) (among : events.Pairwise Before)
  (newer : ∀ holderID epoch, .acquired holderID epoch ∈ history →
    ∀ event ∈ events, Before (.acquired holderID epoch) event) :
  (history ++ events).Pairwise Before := by
  rw [List.pairwise_append]
  refine ⟨ordered, among, fun event earlier later member => ?_⟩
  cases event with
  | acquired holderID epoch => exact newer holderID epoch earlier later member
  | attempted | passed | committed => exact trivial

theorem sound_initial (row : Option LeaderRow) : Sound (System.initial row) where
  shared := by simp [System.initial]
  pending := by simp [System.initial]
  newest := by simp [System.initial]
  ordered := by simp [System.initial]
  attempted := by simp [Attempted, System.initial]

theorem Sound.epoch_le (sound : Sound system)
  (current : (system.database.current authority).isSome = true)
  (acquired : .acquired holderID epoch ∈ system.history) :
  epoch ≤ authority.epoch := by
  obtain ⟨_, read, -, same⟩ := current_isSome current
  obtain ⟨_, found, bound⟩ := sound.newest holderID epoch acquired
  rw [read] at found
  cases found
  exact same ▸ bound

theorem Sound.record (sound : Sound system) {events : List Event}
  (database : after.database.row = system.database.row)
  (pending : after.database.pending = system.database.pending ∨ after.database.pending = none)
  (shared : ∀ holder ∈ after.database.shared, (system.database.current holder.2).isSome = true)
  (unshared : system.database.pending = none ∨ after.database.shared ⊆ system.database.shared)
  (history : after.history = system.history ++ events)
  (backed : ∀ tx authority, .passed tx authority ∈ events →
    .attempted tx authority ∈ system.history)
  (ordered : (system.history ++ events).Pairwise Before)
  (none : ∀ holderID epoch, .acquired holderID epoch ∉ events) :
  Sound after where
  shared holder member := by
    unfold Database.current
    rw [database]
    exact shared holder member
  pending tx row written := by
    rw [database]
    obtain same | none := pending
    · rw [same] at written
      obtain ⟨free, newer⟩ := sound.pending tx row written
      refine ⟨?_, newer⟩
      obtain unwritten | fewer := unshared
      · rw [unwritten] at written
        cases written
      · rw [free] at fewer
        exact List.eq_nil_of_subset_nil fewer
    · rw [none] at written
      cases written
  newest holderID epoch member := by
    rw [history, List.mem_append] at member
    rw [database]
    exact sound.newest holderID epoch (member.resolve_right (none holderID epoch))
  ordered := history ▸ ordered
  attempted := history ▸ sound.attempted.append backed

theorem Sound.moves {request : Request} (sound : Sound system) (moves : Moves request system after)
  (backed : ∀ tx authority, request = .selectForShare tx authority →
    .attempted tx authority ∈ system.history) :
  Sound after := by
  cases moves with
  | retires row pending shared history =>
    refine @Sound.record _ _ sound [] row pending
      (fun holder member => sound.shared holder (shared member))
      (.inr shared) (by simpa using history) (by simp)
      (by simpa using sound.ordered) (by simp)
  | attempts _ _ database history =>
    refine sound.record (by rw [database]) (.inl (by rw [database]))
      (database ▸ sound.shared) (.inr (database ▸ List.Subset.refl _))
      history (by simp) ?_ (by simp)
    apply pairwise_append_before sound.ordered (List.pairwise_singleton _ _)
    intro holderID epoch _ event member
    rw [List.mem_singleton.1 member]
    exact trivial
  | passes tx authority selected free current database history =>
    refine sound.record (by rw [database]) (.inl (by rw [database])) ?_
      (.inl free) history ?_ ?_ (by simp)
    · intro holder member
      rw [database] at member
      obtain rfl | member := List.mem_cons.1 member
      · exact current
      · exact sound.shared holder member
    · intro other own member
      obtain ⟨rfl, rfl⟩ : other = tx ∧ own = authority := by
        simpa using member
      exact backed _ _ selected
    · apply pairwise_append_before sound.ordered (List.pairwise_singleton _ _)
      intro holderID epoch earlier event member
      rw [List.mem_singleton.1 member]
      exact sound.epoch_le current earlier
  | commits _ _ held row pending shared history =>
    refine sound.record row (.inl pending)
      (fun holder member => sound.shared holder (shared member))
      (.inr shared) history (by simp) ?_ (by simp)
    apply pairwise_append_before sound.ordered
    · rw [List.pairwise_map]
      exact List.pairwise_of_forall fun _ _ => trivial
    · intro holderID epoch earlier event member
      obtain ⟨authority, listed, rfl⟩ := List.mem_map.1 member
      exact sound.epoch_le (sound.shared _ (held authority listed)) earlier
  | writes _ _ free newer database history =>
    constructor
    case shared => simp [database, free]
    case pending =>
      intro other new written
      rw [database] at written ⊢
      cases written
      refine ⟨free, fun old read => ?_⟩
      cases held : system.database.pending with
      | none => exact newer old (by rw [held]; exact read)
      | some pending =>
        have between := newer pending.2 (by rw [held]; rfl)
        have older := (sound.pending pending.1 pending.2 held).2 old read
        omega
    case newest => rw [database, history]; exact sound.newest
    case ordered => rw [history]; exact sound.ordered
    case attempted => rw [history]; exact sound.attempted
  | acquires tx row written committed pending shared history =>
    obtain ⟨free, newer⟩ := sound.pending tx row written
    constructor
    case shared => simp [shared, free]
    case pending => simp [pending]
    case newest =>
      intro holderID epoch member
      refine ⟨row, committed, ?_⟩
      rw [history, List.mem_append, List.mem_singleton] at member
      obtain member | own := member
      · obtain ⟨old, read, bound⟩ := sound.newest holderID epoch member
        exact bound.trans (newer old read).le
      · cases own
        exact Nat.le_refl _
    case ordered =>
      rw [history]
      apply pairwise_append_before sound.ordered (List.pairwise_singleton _ _)
      intro holderID epoch earlier event member
      rw [List.mem_singleton.1 member]
      obtain ⟨old, read, bound⟩ := sound.newest holderID epoch earlier
      exact Nat.lt_of_le_of_lt bound (newer old read)
    case attempted =>
      rw [history]
      exact sound.attempted.append (by simp)
  | updates _ new free unwritten row same database history =>
    constructor
    case shared => simp [database, free]
    case pending => simp [database, unwritten]
    case newest =>
      intro holderID epoch member
      rw [history] at member
      obtain ⟨_, read, bound⟩ := sound.newest holderID epoch member
      rw [row] at read
      cases read
      exact ⟨new, by rw [database], same ▸ bound⟩
    case ordered => rw [history]; exact sound.ordered
    case attempted => rw [history]; exact sound.attempted

end

structure Note where
  tx : Option Nat
  attempt : Option LeaderAuthority
  failed : Option String
  (passed dispatched : Bool)
deriving DecidableEq

def Note.idle : Note := ⟨none, none, none, false, false⟩

def Note.next (note : Note) : (request : Request) → Reply request → Note
  | .beginFence, .error message => { note with failed := some message }
  | .snapshot _ tx, state => { note with tx := some tx, attempt := state.authority }
  | .selectForShare _ _, .error message => { note with failed := some message }
  | .selectForShare _ _, .ok (some _) => { note with passed := true }
  | .dispatch _, _ => { note with dispatched := true }
  | _, _ => note

def Note.Allows (note : Note) : Request → Prop
  | .snapshot _ _ => note.passed = false
  | .selectForShare tx authority => note.tx = some tx ∧ note.attempt = some authority
  | .dispatch _ => note.passed = true
  | _ => True

def protocol : Contract leading Note where
  requires := Note.Allows
  ensures note request reply after := after = note.next request reply

/-- An execution that has not passed its fence has not dispatched anything, and
says why. -/
def Note.Explains (note : Note) (outcome : Except LeaderError Unit) : Prop :=
  note.passed = true ∨ note.dispatched = false ∧
    (outcome = .error .lost ∨ outcome = .error .unavailable ∨
      ∃ message, outcome = .error (.other message) ∧ note.failed = some message)

def Returned : Result → Note → Prop
  | .execution outcome, note => note.Explains outcome
  | _, _ => True

section

theorem wp_ask {post : Reply request → Note → Prop} : (ask request).wp protocol post note ↔
  note.Allows request ∧ ∀ reply, post reply (note.next request reply) := by
  constructor
  · intro holds
    exact ⟨holds.1, fun reply => holds.2 reply _ rfl⟩
  · rintro ⟨allowed, holds⟩
    refine ⟨allowed, ?_⟩
    rintro reply _ rfl
    exact holds reply

theorem wp_ask_bind {rest : Reply request → Prog leading α} :
  (ask request >>= rest).wp protocol post note ↔ note.Allows request ∧ ∀ reply,
    (rest reply).wp protocol post (note.next request reply) := Prog.wp_bind.trans wp_ask

variable {note : Note}

theorem wp_unlockAndReleaseLeaderConn {post : Unit → Note → Prop} (holds : post () note) :
  (unlockAndReleaseLeaderConn session).wp protocol post note := by
  have closed : (ask (.closeConn session)).wp protocol post note :=
    wp_ask.2 ⟨trivial, fun _ => holds⟩
  refine wp_ask_bind.2 ⟨trivial, fun reply => ?_⟩
  cases reply with
  | error => exact closed
  | ok unlocked =>
    cases unlocked with
    | false => exact closed
    | true => exact holds

theorem wp_unlock_then (result : Result) (holds : Returned result note) : (do
  unlockAndReleaseLeaderConn session
  return result).wp protocol Returned note :=
  Prog.wp_bind.2 (wp_unlockAndReleaseLeaderConn holds)

theorem wp_acquireEpoch (store : Nat) (holderID : String) (now : Time) (session tx : Nat) :
  (acquireEpoch store holderID now session tx).wp protocol Returned note := by
  refine wp_ask_bind.2 ⟨trivial, fun reply => ?_⟩
  cases reply with
  | error =>
    refine wp_ask_bind.2 ⟨trivial, fun _ => ?_⟩
    exact wp_unlock_then _ trivial
  | ok =>
    refine wp_ask_bind.2 ⟨trivial, fun reply => ?_⟩
    cases reply with
    | error => exact wp_unlock_then _ trivial
    | ok =>
      refine wp_ask_bind.2 ⟨trivial, fun lease => ?_⟩
      exact wp_ask_bind.2 ⟨trivial, fun _ => trivial⟩

theorem wp_tryAcquireLeader (store : Nat) (holderID : String) (now : Time) :
  (tryAcquireLeader store holderID now).wp protocol Returned note := by
  unfold tryAcquireLeader
  split
  · exact trivial
  · refine wp_ask_bind.2 ⟨trivial, fun _ => ?_⟩
    refine wp_ask_bind.2 ⟨trivial, fun conn => ?_⟩
    cases conn with
    | error => exact trivial
    | ok session =>
      refine wp_ask_bind.2 ⟨trivial, fun locked => ?_⟩
      cases locked with
      | error => exact wp_ask_bind.2 ⟨trivial, fun _ => trivial⟩
      | ok locked =>
        cases locked with
        | false => exact trivial
        | true =>
          refine wp_ask_bind.2 ⟨trivial, fun begun => ?_⟩
          cases begun with
          | error => exact wp_unlock_then _ trivial
          | ok tx => exact wp_acquireEpoch store holderID now session tx

theorem wp_releaseConnection {result : Result} (holds : Returned result note) : (do
  releaseConnection lease session
  return result).wp protocol Returned note :=
  Prog.wp_bind.2 (wp_ask_bind.2 ⟨trivial, fun _ => wp_unlockAndReleaseLeaderConn holds⟩)

theorem wp_forfeit (lease session : Nat) (own : LeaderLease) (error : LeaderError) :
  (forfeit lease session own error).wp protocol Returned note :=
  wp_ask_bind.2 ⟨trivial, fun _ => wp_releaseConnection trivial⟩

theorem wp_withLease {operation : LeaderLease → Nat → Prog leading Result}
  (holds : ∀ own session, (operation own session).wp protocol Returned note) :
  (withLease lease gone operation).wp protocol Returned note := by
  refine wp_ask_bind.2 ⟨trivial, fun reply => ?_⟩
  split
  · exact trivial
  · split
    · exact holds _ _
    · exact trivial

theorem wp_heartbeat (lease : Nat) (now : Time) :
  (heartbeat lease now).wp protocol Returned note := by
  refine wp_withLease fun own session => wp_ask_bind.2 ⟨trivial, fun reply => ?_⟩
  split
  · exact wp_forfeit lease session own _
  · exact wp_forfeit lease session own .lost
  · refine wp_ask_bind.2 ⟨trivial, fun _ => ?_⟩
    exact wp_ask_bind.2 ⟨trivial, fun _ => trivial⟩

theorem wp_validate (lease : Nat) : (validate lease).wp protocol Returned note := by
  refine wp_withLease fun own session => wp_ask_bind.2 ⟨trivial, fun reply => ?_⟩
  split
  · exact wp_forfeit lease session own _
  · exact wp_forfeit lease session own .lost
  · refine wp_ask_bind.2 ⟨trivial, fun _ => ?_⟩
    exact wp_ask_bind.2 ⟨trivial, fun _ => trivial⟩

theorem wp_release (lease : Nat) (now : Time) : (release lease now).wp protocol Returned note := by
  refine wp_withLease fun own session => wp_ask_bind.2 ⟨trivial, fun reply => ?_⟩
  refine wp_ask_bind.2 ⟨trivial, fun _ => ?_⟩
  exact wp_releaseConnection trivial

section

variable (store tx : Nat) (fresh : note.passed = false) (quiet : note.dispatched = false)

include store tx fresh quiet

theorem wp_assertLeaderAuthority : (assertLeaderAuthority store tx).wp protocol
  (fun outcome after =>
    (outcome = .ok () → after.passed = true) ∧ after.Explains outcome)
  note := by
  refine wp_ask_bind.2 ⟨fresh, fun state => ?_⟩
  split
  next known =>
    refine wp_ask_bind.2 ⟨⟨rfl, known⟩, fun reply => ?_⟩
    split
    next message => exact ⟨by simp, .inr ⟨quiet, .inr (.inr ⟨message, rfl, rfl⟩)⟩⟩
    · refine wp_ask_bind.2 ⟨trivial, fun _ => ?_⟩
      exact ⟨by simp, .inr ⟨quiet, .inl rfl⟩⟩
    · refine wp_ask_bind.2 ⟨trivial, fun _ => ?_⟩
      exact ⟨fun _ => rfl, .inl rfl⟩
  · exact ⟨by simp, .inr ⟨quiet, .inr (.inl rfl)⟩⟩

theorem wp_fencedDispatch : (fencedDispatch store tx).wp protocol
  (fun outcome after => after.Explains outcome ∧
    (outcome = .ok () → after.passed = true)) note := by
  refine Prog.wp_bind.2 (Prog.wp_mono (wp_assertLeaderAuthority store tx fresh quiet) ?_)
  rintro outcome _ ⟨passes, explained⟩
  cases outcome with
  | error => exact ⟨explained, by simp⟩
  | ok =>
    have passed := passes rfl
    refine wp_ask_bind.2 ⟨passed, fun reply => ?_⟩
    cases reply with
    | error => exact ⟨.inl passed, by simp⟩
    | ok => exact ⟨.inl passed, fun _ => passed⟩

theorem wp_ownTransaction : (ownTransaction store tx).wp protocol Returned note := by
  refine Prog.wp_bind.2 (Prog.wp_mono (wp_fencedDispatch store tx fresh quiet) ?_)
  rintro outcome _ ⟨explained, passes⟩
  cases outcome with
  | error => exact wp_ask_bind.2 ⟨trivial, fun _ => explained⟩
  | ok =>
    refine wp_ask_bind.2 ⟨trivial, fun reply => ?_⟩
    cases reply with
    | error => exact wp_ask_bind.2 ⟨trivial, fun _ => .inl (passes rfl)⟩
    | ok => exact .inl (passes rfl)

end

theorem wp_withLeaderExecutionFence (store : Nat) (executionDB : Option Nat) :
  (withLeaderExecutionFence store executionDB).wp protocol Returned Note.idle := by
  cases executionDB with
  | some tx =>
    exact Prog.wp_bind.2 (Prog.wp_mono (wp_fencedDispatch store tx rfl rfl)
      fun _ _ ended => ended.1)
  | none =>
    refine wp_ask_bind.2 ⟨trivial, fun reply => ?_⟩
    cases reply with
    | error message => exact .inr ⟨rfl, .inr (.inr ⟨message, rfl, rfl⟩)⟩
    | ok tx => exact wp_ownTransaction store tx rfl rfl

theorem wp_program (operation : Operation) : operation.program.wp protocol Returned Note.idle := by
  cases operation with
  | tryAcquireLeader store holderID now => exact wp_tryAcquireLeader store holderID now
  | heartbeat lease now => exact wp_heartbeat lease now
  | validate lease => exact wp_validate lease
  | release lease now => exact wp_release lease now
  | withLeaderExecutionFence store executionDB =>
    exact wp_withLeaderExecutionFence store executionDB
  | sessionLost | acquireLost | fenceLost => exact ⟨trivial, fun _ _ _ => trivial⟩

end

def rules : Rules leading System Env Note Unit Result where
  start _ program note := ∃ operation : Operation, program = operation.program ∧ note = Note.idle
  call _ _ request env system := proceeds system request env = true
  abandon _ := True

def observer : Observer leading System Note Unit where
  note := Note.next
  silent := ()
  resume _ _ _ := ()
  hear _ _ _ := ()

/-- The history tells of what a note remembers. -/
structure Backed (system : System) (note : Note) : Prop where
  attempt : ∀ tx authority, note.tx = some tx →
    note.attempt = some authority → .attempted tx authority ∈ system.history
  passed : note.passed = true → ∃ tx authority, note.tx = some tx ∧
    note.attempt = some authority ∧ .passed tx authority ∈ system.history

structure Kept (system : System) (books : List (Note × Unit)) : Prop where
  sound : Sound system
  backed : ∀ book ∈ books, Backed system book.1

theorem backed_idle (system : System) : Backed system Note.idle :=
  ⟨by simp [Note.idle], by simp [Note.idle]⟩

theorem Moves.history_subset (moves : Moves request system after) :
  system.history ⊆ after.history := by
  cases moves with
  | retires row pending shared history
  | writes tx row free newer database history
  | updates _ _ _ _ _ _ _ history => exact history ▸ List.Subset.refl _
  | attempts tx authority database history
  | acquires tx row written committed pending shared history
  | passes tx authority selected free current database history
  | commits _ _ _ _ _ _ history => exact history ▸ List.subset_append_left _ _

theorem Backed.mono (backed : Backed system note)
  (grown : system.history ⊆ after.history) : Backed after note where
  attempt tx authority own known := grown (backed.attempt tx authority own known)
  passed through := by
    obtain ⟨tx, authority, own, known, member⟩ := backed.passed through
    exact ⟨tx, authority, own, known, grown member⟩

theorem passed_of_selectForShare {tx : Nat}
  (replied : (exec env (.selectForShare tx authority) system).1 = .ok (some times)) :
  .passed tx authority ∈ (exec env (.selectForShare tx authority) system).2.history := by
  simp only [exec] at replied ⊢
  have executed := interrupt_eq_ok replied
  rw [executed] at replied ⊢
  unfold execSelectForShare at replied ⊢
  split at replied
  · cases replied
  next open_ =>
    rw [if_neg open_]
    split at replied
    · cases replied
    next row found => simp [System.record]

theorem Backed.next (backed : Backed system note) (allowed : note.Allows request)
  (permitted : proceeds system request env = true) :
  Backed (exec env request system).2 (note.next request (exec env request system).1) := by
  have grown := (moves_exec permitted).history_subset
  have kept := backed.mono grown
  cases request with
  | snapshot store =>
    constructor
    · intro other authority own known
      cases own
      change (system.memory store).authority = some authority at known
      simp [exec, known, System.record]
    · intro through
      rw [Note.Allows] at allowed
      change note.passed = true at through
      rw [allowed] at through
      cases through
  | selectForShare tx authority =>
    cases replied : (exec env (.selectForShare tx authority) system).1 with
    | error => exact ⟨kept.attempt, kept.passed⟩
    | ok row =>
      cases row with
      | none => exact kept
      | some =>
        exact ⟨kept.attempt, fun _ => ⟨tx, authority, allowed.1,
          allowed.2, passed_of_selectForShare replied⟩⟩
  | dispatch => exact ⟨kept.attempt, kept.passed⟩
  | beginFence =>
    cases (exec env .beginFence system).1 with
    | error => exact ⟨kept.attempt, kept.passed⟩
    | ok => exact kept
  | _ => exact kept

theorem kept_invariant : Pool.Invariant machine observer rules protocol (fun _ => True) Kept where
  start := by
    intro system books program note kept permitted
    obtain ⟨operation, rfl, rfl⟩ := permitted
    refine ⟨Prog.wp_mono (wp_program operation) fun _ _ _ => trivial, kept.sound, ?_⟩
    intro book member
    obtain member | same := List.mem_append.1 member
    · exact kept.backed book member
    · rw [List.mem_singleton.1 same]
      exact backed_idle system
  call := by
    intro system front note heard back request env kept allowed permitted
    refine ⟨rfl, ?_⟩
    simp only [Pool.map_listenBooks_unit]
    have own := kept.backed (note, heard) (by simp)
    have moves := moves_exec permitted
    constructor
    · refine kept.sound.moves moves fun tx authority selected => ?_
      subst selected
      exact own.attempt tx authority allowed.1 allowed.2
    · intro book member
      simp only [List.mem_append, List.mem_cons] at member
      obtain member | rfl | member := member
      · exact (kept.backed book (by simp [member])).mono moves.history_subset
      · exact own.next allowed permitted
      · exact (kept.backed book (by simp [member])).mono moves.history_subset
  leave := by
    intro system front note heard back _ kept
    refine ⟨kept.sound, fun book member =>
      kept.backed book (mem_of_others member)⟩
  abandon := fun _ _ => trivial

def Event.epoch? : Event → Option Nat
  | .acquired _ epoch => some epoch
  | _ => none

/-- The fence lets an authority through, or it has and the execution has not
ended. -/
def Passes (system : System) (authority : LeaderAuthority) : Prop :=
  (system.database.current authority).isSome = true ∨ ∃ tx, (tx, authority) ∈ system.database.shared

/-- The process has no authority, or one of an older epoch than one acquired
before the attempt. -/
def Outdated (history : List Event) (note : Note) : Prop :=
  note.attempt = none ∨ ∃ tx authority earlier later holderID epoch,
    note.tx = some tx ∧ note.attempt = some authority ∧
      history = earlier ++ .acquired holderID epoch :: later ∧
      authority.epoch < epoch ∧ .attempted tx authority ∉ earlier

structure Fenced (pool : Pool leading System Note Unit Result) : Prop where
  increasing : (pool.state.history.filterMap Event.epoch?).Pairwise (· < ·)
  single : ∀ first second, Passes pool.state first → Passes pool.state second →
    first.holderID = second.holderID ∧ first.epoch = second.epoch
  /-- Once a newer epoch is acquired, nothing passes or commits. -/
  barred : ∀ earlier later holderID epoch,
    pool.state.history = earlier ++ .acquired holderID epoch :: later →
    ∀ tx authority, authority.epoch < epoch →
      .passed tx authority ∉ later ∧ .committed tx authority ∉ later
  refused : ∀ thread ∈ pool.threads, ∀ outcome, thread.program = .done (.execution outcome) →
    Outdated pool.state.history thread.note →
    thread.note.dispatched = false ∧ (outcome = .error .lost ∨ outcome = .error .unavailable ∨
      ∃ message, outcome = .error (.other message) ∧ thread.note.failed = some message)

section

variable (sound : Sound system)

include sound

theorem Sound.increasing : (system.history.filterMap Event.epoch?).Pairwise (· < ·) := by
  rw [List.pairwise_filterMap]
  refine sound.ordered.imp ?_
  intro earlier later before first firstEpoch second secondEpoch
  cases earlier with
  | attempted | passed | committed => cases firstEpoch
  | acquired =>
    cases later with
    | attempted | passed | committed => cases secondEpoch
    | acquired =>
      cases firstEpoch
      cases secondEpoch
      exact before

theorem Sound.passes (passes : Passes system authority) : ∃ row, system.database.row = some row ∧
  row.holderID = authority.holderID ∧ row.epoch = authority.epoch := by
  obtain current | ⟨_, held⟩ := passes
  · exact current_isSome current
  · exact current_isSome (sound.shared _ held)

theorem Sound.barred (split : system.history = earlier ++ .acquired holderID epoch :: later)
  {tx : Nat} (older : authority.epoch < epoch) :
  .passed tx authority ∉ later ∧ .committed tx authority ∉ later := by
  have ordered := sound.ordered
  rw [split, List.pairwise_append, List.pairwise_cons] at ordered
  have newest := ordered.2.1.1
  exact ⟨fun member => Nat.not_le.2 older (newest _ member),
    fun member => Nat.not_le.2 older (newest _ member)⟩

theorem Outdated.not_passed {note : Note} (backed : Backed system note)
  (outdated : Outdated system.history note) : ¬ note.passed = true := by
  intro through
  obtain ⟨tx, authority, own, known, member⟩ := backed.passed through
  obtain missing | ⟨_, _, _, _, _, epoch, otherOwn, sameKnown, split, older, late⟩ := outdated
  · rw [missing] at known
    cases known
  · rw [own] at otherOwn
    rw [known] at sameKnown
    cases otherOwn
    cases sameKnown
    rw [split, List.mem_append, List.mem_cons] at member
    obtain before | impossible | after := member
    · -- it would have attempted before the newer epoch
      obtain ⟨front, _, rfl⟩ := List.append_of_mem before
      rw [List.append_assoc, List.cons_append] at split
      exact late (List.mem_append_left _ (sound.attempted front _ tx authority split))
    · cases impossible
    · exact (sound.barred split older).1 after

end

theorem starts_returned {system : System} {note : Note}
  (started : rules.start system program note) :
  program.wp protocol Returned note := by
  obtain ⟨operation, rfl, rfl⟩ := started
  exact wp_program operation

/-- Leader fencing, for any number of processes whose operations interleave
statement by statement, may stop anywhere and may lose any session, transaction
or statement. -/
theorem leader_fencing {row : Option LeaderRow} {pool : Pool leading System Note Unit Result}
  (reachable : Pool.Reachable machine observer rules (System.initial row) pool) :
  Fenced pool := by
  have initially : Kept (System.initial row) [] := ⟨sound_initial row, by simp⟩
  have kept := reachable.kept kept_invariant initially
  have returned := reachable.promised kept_invariant Returned starts_returned initially
  have sound := kept.invariant.sound
  constructor
  case increasing => exact sound.increasing
  case single =>
    intro first second firstPasses secondPasses
    obtain ⟨_, read, holder, epoch⟩ := sound.passes firstPasses
    obtain ⟨_, again, holder', epoch'⟩ := sound.passes secondPasses
    rw [read] at again
    cases again
    exact ⟨holder.symm.trans holder', epoch.symm.trans epoch'⟩
  case barred =>
    intro earlier later holderID epoch split tx authority older
    exact sound.barred split older
  case refused =>
    intro thread member outcome ended outdated
    have explained := returned thread member
    rw [ended] at explained
    have backed := kept.invariant.backed (Pool.Thread.books thread) (List.mem_map_of_mem member)
    exact explained.resolve_left (outdated.not_passed sound backed)

def checks : Pool.Checks leading System Env Note Unit Result Operation where
  program := Operation.program
  note _ := Note.idle
  start _ _ := true
  call _ _ request env system := proceeds system request env
  abandon _ := true

theorem checks_sound : checks.Sound rules where
  start _ operation _ := ⟨operation, rfl, rfl⟩
  call _ _ _ _ _ permitted := permitted
  abandon _ _ := trivial

def acquisition (store session : Nat) (holderID : String) : List (Pool.Action Env Operation) :=
  .start (.tryAcquireLeader store holderID 0) ::
    List.replicate 8 (.call 0 { session := session }) ++ [.finish 0]

/-- A leader loses its session, another one takes over, and the first one makes
a fenced execution. -/
def takeover (fault : Option Fault) (calls : Nat) : List (Pool.Action Env Operation) :=
  acquisition 0 1 "first" ++ [.start (.sessionLost 1), .call 0 {}, .finish 0] ++
    acquisition 1 2 "second" ++
    [.start (.withLeaderExecutionFence 0 none), .call 0 {}, .call 0 {},
      .call 0 { fault := fault }] ++
    List.replicate calls (.call 0 {})

def firstAuthority : LeaderAuthority := ⟨leaderServiceName, "first", 1, 0, 0⟩

def refusedWith (error : LeaderError) (failed : Option String)
  (pool : Pool leading System Note Unit Result) : Bool :=
  pool.state.history = [.acquired "first" 1, .acquired "second" 2, .attempted 2 firstAuthority] &&
  match pool.threads with
  | [⟨.done (.execution (.error own)), note, _⟩] =>
    own = error ∧ note = ⟨some 2, some firstAuthority, failed, false, false⟩
  | _ => false

theorem outdated_of_refusedWith {pool : Pool leading System Note Unit Result}
  (refused : refusedWith error failed pool = true) :
  ∃ thread ∈ pool.threads, thread.program = .done (.execution (.error error)) ∧
    Outdated pool.state.history thread.note := by
  simp only [refusedWith, Bool.and_eq_true, decide_eq_true_eq] at refused
  obtain ⟨history, ended⟩ := refused
  split at ended
  next threads =>
    obtain ⟨rfl, rfl⟩ := of_decide_eq_true ended
    refine ⟨_, by rw [threads]; exact List.mem_singleton_self _, rfl, ?_⟩
    exact .inr ⟨2, firstAuthority, [.acquired "first" 1],
      [.attempted 2 firstAuthority], "second", 2, rfl, rfl, history,
      by decide, by decide⟩
  · cases ended

theorem takeover_reaches (fault : Option Fault) (calls : Nat)
  (property : Pool leading System Note Unit Result → Bool)
  (played : (Pool.play machine observer checks (takeover fault calls)
    ⟨System.initial none, []⟩).any property = true) :
  ∃ pool, Pool.Reachable machine observer rules (System.initial none) pool ∧
    property pool = true := by
  obtain ⟨reached, holds⟩ := (Option.any_eq_true_iff_get _ _).1 played
  exact ⟨_, Pool.steps_of_play checks_sound (Option.some_get reached).symm, holds⟩

/-- A statement of the fence that runs into a deadline ends the execution with
an error of its own. -/
theorem deadline_not_lost : ∃ pool : Pool leading System Note Unit Result,
  Pool.Reachable machine observer rules (System.initial none) pool ∧
    ∃ thread ∈ pool.threads, thread.program = .done (.execution
      (.error (.other "context deadline exceeded"))) ∧
      Outdated pool.state.history thread.note := by
  obtain ⟨pool, reachable, refused⟩ := takeover_reaches
    (some ⟨"context deadline exceeded", false⟩) 1
    (refusedWith (.other "context deadline exceeded")
      (some "context deadline exceeded")) (by decide +kernel)
  exact ⟨pool, reachable, outdated_of_refusedWith refused⟩

theorem takeover_fenced : ∃ pool : Pool leading System Note Unit Result,
  Pool.Reachable machine observer rules (System.initial none) pool ∧ (∃ thread ∈ pool.threads,
    thread.program = .done (.execution (.error .lost)) ∧ Outdated pool.state.history thread.note) ∧
    Fenced pool := by
  obtain ⟨pool, reachable, refused⟩ := takeover_reaches
    none 2 (refusedWith .lost none) (by decide +kernel)
  exact ⟨pool, reachable, outdated_of_refusedWith refused, leader_fencing reachable⟩

end VideoProcess.ChannelOps.Leader
