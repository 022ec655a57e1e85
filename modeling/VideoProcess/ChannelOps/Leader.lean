import VideoProcess.GoText
import VideoProcess.Program.Pool

namespace VideoProcess.ChannelOps.Leader

open Program

/-! Leadership of the ChannelOps runners (`internal/channelops/leader.go`). -/

abbrev Time := Int

def leaderServiceName : String := "channelops-go"

structure LeaderAuthority where
  (serviceName holderID : String)
  epoch : Nat
  (acquiredAt heartbeatAt : Time)
deriving DecidableEq

def sameLeaderAuthority (current : Option LeaderAuthority) (expected : LeaderAuthority) : Bool :=
  current.any fun authority =>
    authority.serviceName = expected.serviceName ∧ authority.holderID = expected.holderID ∧
      authority.epoch = expected.epoch

structure LeaderState where
  configured : Bool
  authority : Option LeaderAuthority
deriving DecidableEq

namespace LeaderState

variable (state : LeaderState)

def configure : LeaderState := { state with configured := true }

def publish (authority : LeaderAuthority) : LeaderState :=
  { configured := true, authority := some authority }

variable (expected : LeaderAuthority)

def refresh (acquiredAt heartbeatAt : Time) : LeaderState :=
  if sameLeaderAuthority state.authority expected then
    { state with authority := state.authority.map fun authority =>
      { authority with acquiredAt, heartbeatAt } }
  else state

def clear : LeaderState :=
  if sameLeaderAuthority state.authority expected then
    { state with authority := none }
  else state

end LeaderState

structure LeaderRow where
  epoch : Nat
  holderID : String
  (acquiredAt heartbeatAt : Time)
  releasedAt : Option Time
deriving DecidableEq

def LeaderRow.belongsTo (row : LeaderRow) (authority : LeaderAuthority) : Bool :=
  leaderServiceName = authority.serviceName ∧
    row.holderID = authority.holderID ∧ row.epoch = authority.epoch

structure LeaderLease where
  conn : Option Nat
  store : Nat
  released : Bool
  authority : LeaderAuthority
deriving DecidableEq

/-! The database. Transactions that acquire leadership and transactions of
fenced executions are numbered apart; each is open until it ends. -/

structure Database where
  row : Option LeaderRow
  /-- An acquiring transaction that has written the row. -/
  pending : Option (Nat × LeaderRow)
  /-- The fenced transactions that hold the row `FOR SHARE`. -/
  shared : List (Nat × LeaderAuthority)
  (acquiring fenced : List Nat)
  next : Nat
  /-- The session with the advisory lock, and how often it has taken it. -/
  advisory : Option (Nat × Nat)
deriving DecidableEq

def Database.current (database : Database) (authority : LeaderAuthority) : Option LeaderRow :=
  database.row.filter fun row =>
    row.belongsTo authority ∧ row.releasedAt = none

inductive Event where
  | acquired (holderID : String) (epoch : Nat)
  | attempted (tx : Nat) (authority : LeaderAuthority)
  | passed (tx : Nat) (authority : LeaderAuthority)
  | committed (tx : Nat) (authority : LeaderAuthority)
deriving DecidableEq

structure System where
  database : Database
  memory : Nat → LeaderState
  leases : List LeaderLease
  history : List Event

namespace System

def initial (row : Option LeaderRow) : System where
  database := ⟨row, none, [], [], [], 0, none⟩
  memory _ := ⟨false, none⟩
  leases := []
  history := []

variable (system : System)

def remember (store : Nat) (change : LeaderState → LeaderState) : System :=
  { system with memory := fun other =>
    if other = store then change (system.memory other)
    else system.memory other }

def record (event : Event) : System :=
  { system with history := system.history ++ [event] }

def store (database : Database) : System := { system with database := database }

end System

inductive Request where
  | configure (store : Nat)
  | publish (store : Nat) (authority : LeaderAuthority)
  | refresh (store : Nat) (expected : LeaderAuthority)
    (acquiredAt heartbeatAt : Time)
  | clear (store : Nat) (expected : LeaderAuthority)
  | snapshot (store tx : Nat)
  | newLease (lease : LeaderLease)
  | readLease (lease : Nat)
  | touchLease (lease : Nat) (acquiredAt heartbeatAt : Time)
  | retireLease (lease : Nat)
  | acquireConn
  | tryAdvisoryLock (session : Nat)
  | advisoryUnlock (session : Nat)
  | closeConn (session : Nat)
  | beginAcquire
  | upsertEpoch (tx : Nat) (holderID : String) (now : Time)
  | commitAcquire (tx : Nat)
  | rollbackAcquire (tx : Nat)
  | updateHeartbeat (authority : LeaderAuthority) (now : Time)
  | selectLeader (authority : LeaderAuthority)
  | updateReleased (authority : LeaderAuthority) (now : Time)
  | beginFence
  | selectForShare (tx : Nat) (authority : LeaderAuthority)
  | dispatch (tx : Nat)
  | commitFence (tx : Nat)
  | rollbackFence (tx : Nat)

def Reply : Request → Type
  | .snapshot _ _ => LeaderState
  | .newLease _ => Nat
  | .readLease _ => Option LeaderLease
  | .acquireConn => Except String Nat
  | .tryAdvisoryLock _ | .advisoryUnlock _ => Except String Bool
  | .beginAcquire | .beginFence => Except String Nat
  | .upsertEpoch _ _ _ => Except String Nat
  | .commitAcquire _ | .dispatch _ | .commitFence _ => Except String Unit
  | .updateHeartbeat _ _ => Except String (Option Time)
  | .selectLeader _ | .selectForShare _ _ => Except String (Option (Time × Time))
  | .updateReleased _ _ => Except String Nat
  | _ => Unit

def leading : Interface := ⟨Request, Reply⟩

structure Env where
  fault : Option Fault := none
  session : Nat := 0
  refused : Option String := none

namespace Database

variable (database : Database) (session : Nat)

/-- `pg_try_advisory_lock`: a session may take its lock again. -/
def tryAdvisoryLock : Bool × Database :=
  match database.advisory with
  | none => (true, { database with advisory := some (session, 1) })
  | some (owner, count) =>
    if owner = session then
      (true, { database with advisory := some (session, count + 1) })
    else (false, database)

def advisoryUnlock : Bool × Database :=
  match database.advisory with
  | none => (false, database)
  | some (owner, count) =>
    if owner = session then
      (true, { database with
        advisory := if count ≤ 1 then none else some (session, count - 1) })
    else (false, database)

def endSession : Database :=
  if database.advisory.any fun lock => lock.1 = session then
    { database with advisory := none }
  else database

/-- `INSERT … ON CONFLICT DO UPDATE SET epoch = epoch + 1 RETURNING epoch`, on
the version the transaction sees. -/
def upsertEpoch (tx : Nat) (holderID : String) (now : Time) : Except String Nat × Database :=
  if tx ∉ database.acquiring then (.error "tx is closed", database)
  else
    let epoch := match (database.pending.map Prod.snd).or database.row with
      | none => 1
      | some row => row.epoch + 1
    (.ok epoch, { database with
      pending := some (tx, ⟨epoch, holderID, now, now, none⟩) })

def endAcquire (tx : Nat) : Database :=
  { database with
    pending := database.pending.filter fun pending => pending.1 ≠ tx
    acquiring := database.acquiring.filter (· ≠ tx) }

def endFence (tx : Nat) : Database :=
  { database with
    shared := database.shared.filter fun holder => holder.1 ≠ tx
    fenced := database.fenced.filter (· ≠ tx) }

variable (authority : LeaderAuthority)

/-- The constraint `heartbeat_at >= acquired_at` may refuse an older clock. -/
def updateHeartbeat (now : Time) : Except String (Option Time) × Database :=
  match database.row.filter fun row => row.belongsTo authority with
  | none => (.ok none, database)
  | some row =>
    if now < row.acquiredAt then
      (.error "ck_channelops_leader_heartbeat_order", database)
    else (.ok (some row.acquiredAt), { database with row := some { row with heartbeatAt := now } })

def updateReleased (now : Time) : Except String Nat × Database :=
  match database.current authority with
  | none => (.ok 0, database)
  | some row =>
    if now < row.acquiredAt then
      (.error "ck_channelops_leader_release_order", database)
    else (.ok 1, { database with row := some { row with releasedAt := some now } })

end Database

def execCommitAcquire (tx : Nat) (system : System) : Except String Unit × System :=
  if tx ∉ system.database.acquiring then (.error "tx is closed", system)
  else
    let ended := system.database.endAcquire tx
    match system.database.pending.filter fun pending => pending.1 = tx with
    | none => (.ok (), system.store ended)
    | some (_, row) =>
      (.ok (), (system.store { ended with row := some row }).record
        (.acquired row.holderID row.epoch))

def execSelectForShare (tx : Nat) (authority : LeaderAuthority)
  (system : System) : Except String (Option (Time × Time)) × System :=
  if tx ∉ system.database.fenced then (.error "tx is closed", system)
  else
    match system.database.current authority with
    | none => (.ok none, system)
    | some row =>
      (.ok (some (row.acquiredAt, row.heartbeatAt)), (system.store { system.database with
        shared := (tx, authority) :: system.database.shared }).record (.passed tx authority))

/-- A commit makes the writes of every execution durable that has passed the
fence in its transaction. -/
def execCommitFence (tx : Nat) (system : System) : Except String Unit × System :=
  if tx ∉ system.database.fenced then (.error "tx is closed", system)
  else
    (.ok (), { system.store (system.database.endFence tx) with
      history := system.history ++ (system.database.shared.filter fun holder => holder.1 = tx).map
        fun holder => .committed tx holder.2 })

def execDispatch (env : Env) : Except String Unit :=
  match env.refused with
  | some message => .error message
  | none => .ok ()

def exec (env : Env) : (request : Request) → System → Reply request × System
  | .configure store, system => ((), system.remember store .configure)
  | .publish store authority, system => ((), system.remember store fun _ => .publish authority)
  | .refresh store expected acquiredAt heartbeatAt, system =>
    ((), system.remember store (·.refresh expected acquiredAt heartbeatAt))
  | .clear store expected, system => ((), system.remember store (·.clear expected))
  | .snapshot store tx, system =>
    (system.memory store, match (system.memory store).authority with
      | some authority => system.record (.attempted tx authority)
      | none => system)
  | .newLease lease, system =>
    (system.leases.length, { system with leases := system.leases ++ [lease] })
  | .readLease lease, system => (system.leases[lease]?, system)
  | .touchLease lease acquiredAt heartbeatAt, system =>
    ((), { system with leases := system.leases.modify lease fun own =>
      { own with authority :=
        { own.authority with acquiredAt, heartbeatAt } } })
  | .retireLease lease, system =>
    ((), { system with leases := system.leases.modify lease fun own =>
      { own with conn := none, released := true } })
  | .acquireConn, system => interrupt env.fault system (.ok env.session, system)
  | .tryAdvisoryLock session, system =>
    interrupt env.fault system (.ok (system.database.tryAdvisoryLock session).1,
      system.store (system.database.tryAdvisoryLock session).2)
  | .advisoryUnlock session, system =>
    interrupt env.fault system (.ok (system.database.advisoryUnlock session).1,
      system.store (system.database.advisoryUnlock session).2)
  | .closeConn session, system => ((), system.store (system.database.endSession session))
  | .beginAcquire, system =>
    interrupt env.fault system (.ok system.database.next, system.store { system.database with
      acquiring := system.database.next :: system.database.acquiring
      next := system.database.next + 1 })
  | .upsertEpoch tx holderID now, system =>
    interrupt env.fault system ((system.database.upsertEpoch tx holderID now).1,
      system.store (system.database.upsertEpoch tx holderID now).2)
  | .commitAcquire tx, system => interrupt env.fault system (execCommitAcquire tx system)
  | .rollbackAcquire tx, system => ((), system.store (system.database.endAcquire tx))
  | .updateHeartbeat authority now, system =>
    interrupt env.fault system ((system.database.updateHeartbeat authority now).1,
      system.store (system.database.updateHeartbeat authority now).2)
  | .selectLeader authority, system =>
    interrupt env.fault system (.ok ((system.database.current authority).map fun row =>
      (row.acquiredAt, row.heartbeatAt)), system)
  | .updateReleased authority now, system =>
    interrupt env.fault system ((system.database.updateReleased authority now).1,
      system.store (system.database.updateReleased authority now).2)
  | .beginFence, system =>
    interrupt env.fault system (.ok system.database.next, system.store { system.database with
      fenced := system.database.next :: system.database.fenced
      next := system.database.next + 1 })
  | .selectForShare tx authority, system =>
    interrupt env.fault system (execSelectForShare tx authority system)
  | .dispatch _, system => (execDispatch env, system)
  | .commitFence tx, system => interrupt env.fault system (execCommitFence tx system)
  | .rollbackFence tx, system => ((), system.store (system.database.endFence tx))

def machine : Machine leading System Env := ⟨exec⟩

/-- Row locks: a write waits for every other transaction that holds the row, a
read `FOR SHARE` for one that has written it. A statement that changes no row
does not wait. -/
def Database.ready (database : Database) : Request → Bool
  | .upsertEpoch tx _ _ => database.shared = [] ∧ database.pending.all fun holder => holder.1 = tx
  | .selectForShare _ _ => database.pending = none
  | .updateHeartbeat authority _ =>
    (database.shared = [] ∧ database.pending = none) ∨
      (database.row.filter fun row => row.belongsTo authority) = none
  | .updateReleased authority _ =>
    (database.shared = [] ∧ database.pending = none) ∨ database.current authority = none
  | _ => true

/-- A statement that waits can only be cancelled. -/
def proceeds (system : System) (request : Request) (env : Env) : Bool :=
  system.database.ready request || env.fault.any fun fault => !fault.effective

inductive LeaderError where
  | unavailable
  | lost
  | other (message : String)
deriving DecidableEq, Repr

inductive Result where
  | acquisition (outcome : Except LeaderError (Option Nat))
  | maintenance (outcome : Except LeaderError Unit)
  | execution (outcome : Except LeaderError Unit)

def ask (request : Request) : Prog leading (Reply request) := .call request .done

def unlockAndReleaseLeaderConn (session : Nat) : Prog leading Unit := do
  match ← ask (.advisoryUnlock session) with
  | .ok true => return ()
  | _ => ask (.closeConn session)

section

variable (store : Nat) (holderID : String) (now : Time)

def publishLease (session epoch : Nat) : Prog leading Result := do
  let authority : LeaderAuthority := ⟨leaderServiceName, holderID, epoch, now, now⟩
  let lease ← ask (.newLease ⟨some session, store, false, authority⟩)
  ask (.publish store authority)
  return .acquisition (.ok (some lease))

def acquireEpoch (session tx : Nat) : Prog leading Result := do
  match ← ask (.upsertEpoch tx holderID now) with
  | .error message =>
    ask (.rollbackAcquire tx)
    unlockAndReleaseLeaderConn session
    return .acquisition (.error (.other message))
  | .ok epoch =>
    match ← ask (.commitAcquire tx) with
    | .error message =>
      unlockAndReleaseLeaderConn session
      return .acquisition (.error (.other message))
    | .ok () => publishLease store holderID now session epoch

def acquireLocked (session : Nat) : Prog leading Result := do
  match ← ask .beginAcquire with
  | .error message =>
    unlockAndReleaseLeaderConn session
    return .acquisition (.error (.other message))
  | .ok tx => acquireEpoch store holderID now session tx

def acquireWith (session : Nat) : Prog leading Result := do
  match ← ask (.tryAdvisoryLock session) with
  | .error message =>
    ask (.closeConn session)
    return .acquisition (.error (.other message))
  | .ok false => return .acquisition (.ok none)
  | .ok true => acquireLocked store holderID now session

def tryAcquireLeader : Prog leading Result :=
  if GoText.trimSpace holderID.toList = [] then
    .done (.acquisition (.error (.other "leader holder id must not be blank")))
  else do
    ask (.configure store)
    match ← ask .acquireConn with
    | .error message => return .acquisition (.error (.other message))
    | .ok session => acquireWith store holderID now session

end

def releaseConnection (lease session : Nat) : Prog leading Unit := do
  ask (.retireLease lease)
  unlockAndReleaseLeaderConn session

/-- What `Heartbeat` and `Validate` do with a row that is gone or unreadable. -/
def forfeit (lease session : Nat) (own : LeaderLease) (error : LeaderError) :
  Prog leading Result := do
  ask (.clear own.store own.authority)
  releaseConnection lease session
  return .maintenance (.error error)

section

variable (lease : Nat)

def withLease (gone : Except LeaderError Unit)
  (operation : LeaderLease → Nat → Prog leading Result) :
  Prog leading Result := do
  match ← ask (.readLease lease) with
  | none => return .maintenance gone
  | some own =>
    match own.released, own.conn with
    | false, some session => operation own session
    | _, _ => return .maintenance gone

def heartbeat (now : Time) : Prog leading Result :=
  withLease lease (.error .lost) fun own session => do
    match ← ask (.updateHeartbeat own.authority now) with
    | .error message => forfeit lease session own (.other message)
    | .ok none => forfeit lease session own .lost
    | .ok (some acquiredAt) =>
      ask (.touchLease lease acquiredAt now)
      ask (.refresh own.store own.authority acquiredAt now)
      return .maintenance (.ok ())

def validate : Prog leading Result :=
  withLease lease (.error .lost) fun own session => do
    match ← ask (.selectLeader own.authority) with
    | .error message => forfeit lease session own (.other message)
    | .ok none => forfeit lease session own .lost
    | .ok (some (acquiredAt, heartbeatAt)) =>
      ask (.touchLease lease acquiredAt heartbeatAt)
      ask (.refresh own.store own.authority acquiredAt heartbeatAt)
      return .maintenance (.ok ())

def releasedOutcome : Except String Nat → Except LeaderError Unit
  | .error message => .error (.other message)
  | .ok 0 => .error .lost
  | .ok _ => .ok ()

def release (now : Time) : Prog leading Result :=
  withLease lease (.ok ()) fun own session => do
    let updated ← ask (.updateReleased own.authority now)
    ask (.clear own.store own.authority)
    releaseConnection lease session
    return .maintenance (releasedOutcome updated)

end

def assertLeaderAuthority (store tx : Nat) : Prog leading (Except LeaderError Unit) := do
  let state ← ask (.snapshot store tx)
  match state.configured, state.authority with
  | true, some authority =>
    match ← ask (.selectForShare tx authority) with
    | .error message => return .error (.other message)
    | .ok none =>
      ask (.clear store authority)
      return .error .lost
    | .ok (some (acquiredAt, heartbeatAt)) =>
      ask (.refresh store authority acquiredAt heartbeatAt)
      return .ok ()
  | _, _ => return .error .unavailable

def fencedDispatch (store tx : Nat) : Prog leading (Except LeaderError Unit) := do
  match ← assertLeaderAuthority store tx with
  | .error error => return .error error
  | .ok () =>
    match ← ask (.dispatch tx) with
    | .error message => return .error (.other message)
    | .ok () => return .ok ()

def ownTransaction (store tx : Nat) : Prog leading Result := do
  match ← fencedDispatch store tx with
  | .error error =>
    ask (.rollbackFence tx)
    return .execution (.error error)
  | .ok () =>
    match ← ask (.commitFence tx) with
    | .error message =>
      ask (.rollbackFence tx)
      return .execution (.error (.other message))
    | .ok () => return .execution (.ok ())

/-- Within another execution the transaction of that one is used. -/
def withLeaderExecutionFence (store : Nat) (executionDB : Option Nat) : Prog leading Result :=
  match executionDB with
  | some tx => do
    let outcome ← fencedDispatch store tx
    return .execution outcome
  | none => do
    match ← ask .beginFence with
    | .error message => return .execution (.error (.other message))
    | .ok tx => ownTransaction store tx

/-- What may be started at any time, by any process and any number of times.
Sessions and transactions may also end by themselves. -/
inductive Operation where
  | tryAcquireLeader (store : Nat) (holderID : String) (now : Time)
  | heartbeat (lease : Nat) (now : Time)
  | validate (lease : Nat)
  | release (lease : Nat) (now : Time)
  | withLeaderExecutionFence (store : Nat) (executionDB : Option Nat)
  | sessionLost (session : Nat)
  | acquireLost (tx : Nat)
  | fenceLost (tx : Nat)

def lostConnection (request : Request) : Prog leading Result :=
  .call request fun _ => .done (.maintenance (.ok ()))

def Operation.program : Operation → Prog leading Result
  | .tryAcquireLeader store holderID now => Leader.tryAcquireLeader store holderID now
  | .heartbeat lease now => Leader.heartbeat lease now
  | .validate lease => Leader.validate lease
  | .release lease now => Leader.release lease now
  | .withLeaderExecutionFence store executionDB => Leader.withLeaderExecutionFence store executionDB
  | .sessionLost session => lostConnection (.closeConn session)
  | .acquireLost tx => lostConnection (.rollbackAcquire tx)
  | .fenceLost tx => lostConnection (.rollbackFence tx)

end VideoProcess.ChannelOps.Leader
