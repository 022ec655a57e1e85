import VideoProcess.Program.Pool
import VideoProcess.Upload.Operation

namespace VideoProcess.Upload

open Data Python Program Fallible

/-! `YouTubeUploadOperationStore` on the path without SQL functions: a call is a
program over the statements it sends. -/

abbrev Session := Nat

/-- What a session was opened for; a claim is for one node execution. -/
inductive Purpose where
  | claim (nodeExecutionID : Uuid)
  | other
deriving DecidableEq, Repr

inductive Selection where
  | primaryKey (id : Uuid)
  | node (nodeExecutionID : Uuid)
  | productionTask (productionTaskID : Uuid)
  | video (platformVideoID : String)
deriving DecidableEq, Repr

def Selection.selects : Selection → Operation → Bool
  | .primaryKey id, operation => operation.id = id
  | .node nodeExecutionID, operation => operation.nodeExecutionID = nodeExecutionID
  | .productionTask productionTaskID, operation =>
    operation.productionTaskID = some productionTaskID
  | .video platformVideoID, operation => operation.platformVideoID = some platformVideoID

abbrev ProducerAuthority := String

/-- What `lock_producer` finds once it holds the schedule row. -/
inductive Custody where
  | settled (producer : Option ProducerAuthority)
  /-- Redis has to be observed first, outside the transaction. -/
  | observe

inductive Inserted where
  | inserted (operation : Operation)
  | integrityError

inductive Updated where
  | updated (operation : Option Operation)
  | integrityError

inductive Returned where
  | claim (nodeExecutionID : Uuid) (action : Action)
  | markAttempting (operationID : Uuid)
deriving DecidableEq, Repr

def Returned.wanted : Returned → Selection
  | .claim nodeExecutionID _ => .node nodeExecutionID
  | .markAttempting operationID => .primaryKey operationID

/-- An insertion and an update end with the commit that the source sends right
after them. -/
inductive Statement where
  | openSession (purpose : Purpose)
  | select (db : Session) (wanted : Selection) (forUpdate : Bool)
  | selectProductionTasks (db : Session) (jobID : Uuid)
  | lockProducerRows (db : Session) (productionTaskID : Option Uuid)
    (renderSha256 : String) (observed : Bool)
  | lockJobExecutionAuthority (db : Session) (jobID nodeExecutionID : Uuid)
  | requireWorkerRegistrationLease (db : Session) (claim : NodeExecutionClaim)
  | requireLocalUpload (db : Session) (producer : Option ProducerAuthority)
    (context : UploadOperationContext)
  | selectWorkerRegistration (db : Session) (nodeExecutionID : Uuid)
  | now
  | insert (db : Session) (context : UploadOperationContext)
    (productionTaskID : Option Uuid)
  | update (db : Session) (operationID : Uuid) (transition : Transition)
  | rollback (db : Session)
  | close (db : Session) (purpose : Purpose)
  | answer (returned : Returned)

def uploads : Interface where
  Call := Statement
  Reply
    | .openSession _ => Session
    | .select .. => Except String (Option Operation)
    | .selectProductionTasks .. => Except String (List Uuid)
    | .lockProducerRows .. => Except String Custody
    | .lockJobExecutionAuthority .. => Except String LockedJobExecutionAuthority
    | .requireWorkerRegistrationLease .. => Except String Unit
    | .requireLocalUpload .. => Except String Unit
    | .selectWorkerRegistration .. => Except String (Option Uuid)
    | .now => Except String Time
    | .insert .. => Except String Inserted
    | .update .. => Except String Updated
    | .rollback _ => Unit
    | .close .. => Unit
    | .answer _ => Unit

/-! The database. The rows that a transaction locks together with the schedule
row are represented by that row, which is always locked first. -/

/-- What a call returned, and whether its operation was attempted by then. -/
structure Answer where
  returned : Returned
  attempted : Bool
deriving DecidableEq, Repr

structure Database where
  operations : Table Operation.id
  schedule : Option Session
  locks : List (Uuid × Session)
  sessions : Session
  /-- The node executions of the claim calls that have not returned yet. -/
  claims : List Uuid
  answers : List Answer

namespace Database

def quiet (operations : Table Operation.id) : Database := ⟨operations, none, [], 0, [], []⟩

variable (database : Database)

def select (wanted : Selection) : Option Operation :=
  database.operations.rows.find? wanted.selects

def attempted (wanted : Selection) : Bool :=
  (database.select wanted).any fun row => row.requestAttemptedAt.isSome

def lockedByOther (db : Session) (id : Uuid) : Bool :=
  database.locks.any fun lock => lock.1 = id && lock.2 ≠ db

def grants : Statement → Bool
  | .select db wanted true =>
    (database.select wanted).all fun row => !database.lockedByOther db row.id
  | .lockProducerRows db .. | .lockJobExecutionAuthority db .. => database.schedule.all (· = db)
  | .update db id _ => !database.lockedByOther db id
  | _ => true

variable (db : Session)

def lockSchedule : Database :=
  { database with schedule := some db }

def lockRow (row : Option Operation) : Database :=
  { database with
    locks := (row.map fun row => (row.id, db)).toList ++ database.locks }

def release : Database :=
  { database with
    schedule := database.schedule.filter (· ≠ db)
    locks := database.locks.filter (·.2 ≠ db) }

/-- The unique constraints on the node execution and on the production
task. -/
def admits (row : Operation) : Bool :=
  database.operations.rows.all fun other =>
    other.nodeExecutionID ≠ row.nodeExecutionID && (row.productionTaskID = none ||
      other.productionTaskID ≠ row.productionTaskID)

variable (transition : Transition)

def changed (row : Operation) : Operation :=
  (row.take transition).getD row

theorem persists_changed (row : Operation) : Operation.Persists row (changed transition row) := by
  unfold changed
  cases taken : row.take transition with
  | none => exact Operation.Persists.refl row
  | some => exact Operation.persists_of_take taken

def updateOperation (id : Uuid) (transition : Transition) : Database :=
  { database with
    operations := database.operations.update (·.id = id) (changed transition)
      fun row => (persists_changed transition row).id }

end Database

/-! What the statement depends on besides the operations: the other tables as
they stand when it runs, the clock, the id the database client draws, and
whether it fails. A failed statement may have taken effect. A worker that dies
is one whose remaining statements fail; the server closes its sessions. -/

structure Env where
  productionTasks : Uuid → List Uuid
  custody : Option Uuid → String → Bool → Except String Custody
  authority : Uuid → Uuid → Except String LockedJobExecutionAuthority
  lease : NodeExecutionClaim → Except String Unit
  localUpload : Option ProducerAuthority → UploadOperationContext → Except String Unit
  registration : Uuid → Option Uuid
  now : Time
  id : Uuid
  fault : Option Fault

def reserved (env : Env) (context : UploadOperationContext)
  (productionTaskID : Option Uuid) : Operation where
  id := env.id
  productionTaskID := productionTaskID
  jobID := context.jobID
  nodeExecutionID := context.nodeExecutionID
  inputArtifactID := context.inputArtifactID
  contentSha256 := context.contentSha256
  title := context.title
  privacy := context.privacy
  status := .reserved
  managerTaskID := none
  platformVideoID := none
  receipt := none
  errorMessage := none
  requestAttemptedAt := none
  completedAt := none
  unsubmitted _ := rfl
  unpublished _ := rfl

def execInsert (row : Operation) (db : Session) (database : Database) :
  Except String Inserted × Database :=
  match database.admits row, database.operations.insert row with
  | true, some operations => (.ok (.inserted row), { database with operations }.release db)
  | _, _ => (.ok .integrityError, database)

def execUpdate (db : Session) (id : Uuid) (transition : Transition)
  (database : Database) : Except String Updated × Database :=
  match (database.select (.primaryKey id)).bind (·.take transition) with
  | none => (.ok (.updated none), database)
  | some row =>
    if transition.video.any fun video =>
      database.operations.rows.any fun other =>
        other.id ≠ id && other.platformVideoID = some video then
      (.ok .integrityError, database)
    else
      (.ok (.updated (some row)), (database.updateOperation id transition).release db)

def exec (env : Env) : (statement : Statement) → Database → uploads.Reply statement × Database
  | .openSession purpose, database =>
    (database.sessions, { database with
      sessions := database.sessions + 1
      claims :=
        match purpose with
        | .claim nodeExecutionID => nodeExecutionID :: database.claims
        | .other => database.claims })
  | .select db wanted forUpdate, database =>
    let row := database.select wanted
    interrupt env.fault database (.ok row, if forUpdate then database.lockRow db row else database)
  | .selectProductionTasks _ jobID, database =>
    interrupt env.fault database (.ok (env.productionTasks jobID), database)
  | .lockProducerRows db productionTaskID renderSha256 observed, database =>
    interrupt env.fault database (env.custody productionTaskID renderSha256 observed,
      database.lockSchedule db)
  | .lockJobExecutionAuthority db jobID nodeExecutionID, database =>
    interrupt env.fault database (env.authority jobID nodeExecutionID, database.lockSchedule db)
  | .requireWorkerRegistrationLease _ claim, database =>
    interrupt env.fault database (env.lease claim, database)
  | .requireLocalUpload _ producer context, database =>
    interrupt env.fault database (env.localUpload producer context, database)
  | .selectWorkerRegistration _ nodeExecutionID, database =>
    interrupt env.fault database (.ok (env.registration nodeExecutionID), database)
  | .now, database => interrupt env.fault database (.ok env.now, database)
  | .insert db context productionTaskID, database =>
    interrupt env.fault database (execInsert (reserved env context productionTaskID) db database)
  | .update db id transition, database =>
    interrupt env.fault database (execUpdate db id transition database)
  | .rollback db, database => ((), database.release db)
  | .close db purpose, database =>
    ((), { database.release db with
      claims :=
        match purpose with
        | .claim nodeExecutionID => database.claims.erase nodeExecutionID
        | .other => database.claims })
  | .answer returned, database =>
    ((), { database with
      answers := database.answers ++ [⟨returned, database.attempted returned.wanted⟩] })

def machine : Machine uploads Database Env where
  exec := exec

abbrev Call (α : Type) := Fallible uploads α

abbrev send {α : Type} (statement : Statement)
  (reply : uploads.Reply statement = Except String α) : Call α :=
  Fallible.send (I := uploads) statement reply

abbrev ask (statement : Statement) : Call (uploads.Reply statement) :=
  Fallible.ask (I := uploads) statement

/-- `async with self._session_factory() as db`. -/
def withSession {α : Type} (purpose : Purpose) (body : Session → Call α) : Call α := do
  let db ← ask (.openSession purpose)
  let outcome ← (body db).result
  let _ ← ask (.close db purpose)
  require outcome

section

variable (db : Session)

def select (wanted : Selection) (forUpdate : Bool) : Call (Option Operation) :=
  send (.select db wanted forUpdate) rfl

def getOperation (id : Uuid) : Call Operation := do
  match ← select db (.primaryKey id) false with
  | some operation => pure operation
  | none => throw ("YouTube upload operation " ++ uuidString id ++
    " was not found")

def productionTaskID (jobID : Uuid) : Call (Option Uuid) := do
  match ← send (.selectProductionTasks db jobID) rfl with
  | [] => pure none
  | [id] => pure (some id)
  | _ => throw "job is linked to multiple production tasks"

section

variable (productionTaskID : Option Uuid) (renderSha256 : String)

def lockProducerRows (observed : Bool) : Call Custody :=
  send (.lockProducerRows db productionTaskID renderSha256 observed) rfl

def lockProducerTwice : Call (Option ProducerAuthority × Bool) := do
  match ← lockProducerRows db productionTaskID renderSha256 false with
  | .settled producer => pure (producer, false)
  | .observe => do
    let _ ← ask (.rollback db)
    match ← lockProducerRows db productionTaskID renderSha256 true with
    | .settled producer => pure (producer, true)
    | .observe => throw "owned_history_observation_stale"

/-- The producer, and whether the session was rolled back on the way, which
expires every object it has loaded. -/
def lockProducer : Call (Option ProducerAuthority × Bool) := do
  match ← (lockProducerTwice db productionTaskID renderSha256).result with
  | .ok producer => pure producer
  | .error message => do
    let _ ← ask (.rollback db)
    throw message

end

def requireExecution (context : UploadOperationContext) : Call Unit := do
  let authority ← send (.lockJobExecutionAuthority db context.jobID
    context.nodeExecutionID) rfl
  require (requireActiveExecutionAuthority authority [.running] (some [.running]))
  require (requireMatchingNodeExecutionClaim authority context.executionClaim)

def requireLease (claim : NodeExecutionClaim) : Call Unit :=
  if claim.workerRegistrationID = none then pure ()
  else send (.requireWorkerRegistrationLease db claim) rfl

def requireLocalUpload (producer : Option ProducerAuthority)
  (context : UploadOperationContext) : Call Unit :=
  send (.requireLocalUpload db producer context) rfl

def requireLocalClaimAndLineage
  (producer : Option ProducerAuthority) (context : UploadOperationContext) :
  Call Unit := do
  requireExecution db context
  requireLease db context.executionClaim
  requireLocalUpload db producer context

variable (context : UploadOperationContext)

def requireLocalSubmissionAuthority : Call Unit := do
  let task ← productionTaskID db context.jobID
  let (producer, _) ← lockProducer db task context.contentSha256
  requireLocalClaimAndLineage db producer context
  match ← select db (.node context.nodeExecutionID) true with
  | some operation => require (requireOperationContext operation context)
  | none => pure ()

structure UploadOperationClaim where
  action : Action
  operation : Operation

/-- An object the session still holds keeps the attributes it was loaded
with. -/
def identified (held fetched : Option Operation) : Option Operation :=
  match held, fetched with
  | some held, some fetched => some (if held.id = fetched.id then held else fetched)
  | _, fetched => fetched

def returnClaim (action : Action) (operation : Operation) : Call UploadOperationClaim := do
  let _ ← ask (.answer (.claim context.nodeExecutionID action))
  pure ⟨action, operation⟩

def reserve : Call UploadOperationClaim := do
  let task ← productionTaskID db context.jobID
  match ← send (.insert db context task) rfl with
  | .inserted operation => do
    let operation ← getOperation db operation.id
    returnClaim context .submit operation
  | .integrityError => do
    let _ ← ask (.rollback db)
    match ← select db (.node context.nodeExecutionID) false with
    | some existing => returnClaim context (actionFor existing) existing
    | none =>
      match task with
      | none => throw "IntegrityError"
      | some task => do
        match ← select db (.productionTask task) false with
        | some _ => throw "production task already has a YouTube upload operation"
        | none => throw "IntegrityError"

end

def claimOperation (context : UploadOperationContext)
  (db : Session) (prior : Option Operation) : Call UploadOperationClaim := do
  let fetched ← select db (.node context.nodeExecutionID) true
  match identified prior fetched with
  | some existing => do
    if actionFor existing = .submit then
      require (requireOperationContext existing context)
    returnClaim context (actionFor existing) existing
  | none => reserve db context

/-- The producer is fenced where the claim may lead to a submission. -/
def fenceProducer (db : Session) (context : UploadOperationContext)
  (prior : Option Operation) : Call (Option ProducerAuthority × Bool) :=
  if prior.all fun operation => actionFor operation = .submit then do
    let task ← productionTaskID db context.jobID
    lockProducer db task context.contentSha256
  else pure (none, false)

def claim (context : UploadOperationContext) : Call UploadOperationClaim :=
  withSession (.claim context.nodeExecutionID) fun db => do
    let prior ← select db (.node context.nodeExecutionID) false
    let (producer, expired) ← fenceProducer db context prior
    requireExecution db context
    requireLocalUpload db producer context
    requireLease db context.executionClaim
    claimOperation context db (if expired then none else prior)

inductive Phase where
  | initial
  | attemptedUnfenced
  | postFenced
  | submitted
  | uncertain
  | failed
deriving DecidableEq, Repr

structure SubmissionFence where
  context : UploadOperationContext
  db : Session
  phase : Phase
  operationID : Option Uuid
deriving DecidableEq, Repr

def SubmissionFence.covers (fence : SubmissionFence)
  (context : Option UploadOperationContext) (id : Uuid)
  (phases : List Phase) : Bool :=
  some fence.context = context && fence.phase ∈ phases &&
    (fence.operationID = none || fence.operationID = some id)

section

variable (active : Option SubmissionFence)

def localSubmissionFence (context : Option UploadOperationContext) (id : Uuid)
  (phases : List Phase) : Option SubmissionFence := active.filter (·.covers context id phases)

abbrev FencedResult := Except String Operation × Option SubmissionFence

section

variable (db : Session) (id : Uuid) (context : Option UploadOperationContext)

def requireTransitionContext : Call Unit := do
  let operation ← getOperation db id
  match context with
  | none => do
    match ← send (.selectWorkerRegistration db operation.nodeExecutionID)
      rfl with
    | some _ => throw "registered upload operation requires execution context"
    | none => pure ()
  | some context =>
    if operation.jobID = context.jobID ∧ operation.nodeExecutionID = context.nodeExecutionID then
      if active.any fun fence => fence.context = context &&
        fence.phase ∈ [.initial, .postFenced] then pure ()
      else requireExecution db context
    else throw "upload operation execution context changed"

def requireAttempt : Call Time := do
  let operation ← getOperation db id
  let (producer, _) ← lockProducer db operation.productionTaskID
    operation.contentSha256
  match context with
  | none =>
    if producer ≠ none then throw "owned_inventory_execution_context_missing"
  | some context => do
    requireLocalClaimAndLineage db producer context
    let operation ← getOperation db id
    require (requireOperationContext operation context)
  requireTransitionContext active db id context
  send .now rfl

def update (transition : Transition) : Call Updated :=
  send (.update db id transition) rfl

def markAttemptingLocal : Call Operation := do
  let now ← requireAttempt active db id context
  match ← update db id (.attempting now) with
  | .updated (some operation) => pure operation
  | _ => throw "cannot begin submission from current operation"

end

/-- The attempt is committed, then authority is taken again for the upload. -/
def markAttemptingInFence (fence : SubmissionFence) (id : Uuid) : Call Operation := do
  let _ ← markAttemptingLocal (some { fence with operationID := some id })
    fence.db id (some fence.context)
  requireLocalSubmissionAuthority fence.db fence.context
  let operation ← getOperation fence.db id
  if operation.status = .reserved ∧ operation.requestAttemptedAt ≠ none ∧
    operation.managerTaskID = none then do
    let _ ← ask (.answer (.markAttempting id))
    pure operation
  else throw "upload operation final fence changed"

def markAttempting (id : Uuid)
  (context : Option UploadOperationContext) : Prog uploads FencedResult := do
  match localSubmissionFence active context id [.initial] with
  | some fence => do
    let fence := { fence with operationID := some id }
    match ← (markAttemptingInFence fence id).run with
    | .ok operation => pure (.ok operation, some { fence with phase := .postFenced })
    | .error message => do
      let _ ← (ask (.rollback fence.db)).run
      pure (.error message, some { fence with phase := .attemptedUnfenced })
  | none => do
    let outcome ← (withSession .other fun db => do
      let operation ← markAttemptingLocal active db id context
      let _ ← ask (.answer (.markAttempting id))
      pure operation).run
    pure (outcome, active)

def updateInFence (fence : SubmissionFence) (id : Uuid)
  (transition : Transition) : Call Operation := do
  match ← update fence.db id transition with
  | .updated (some operation) => pure operation
  | _ => throw "upload operation final fence changed"

def moveFence (fence : SubmissionFence)
  (phase : Phase) (program : Call Operation) : Prog uploads FencedResult := do
  match ← program.run with
  | .ok operation => pure (.ok operation, some { fence with phase })
  | .error message => pure (.error message, active)

def unfenced (body : Session → Call Operation) : Prog uploads FencedResult := do
  let outcome ← (withSession .other body).run
  pure (outcome, active)

/-- Where no row matched, the row as it is now may already be as wanted. -/
def settle (db : Session) (id : Uuid) (transition : Transition)
  (resolve : Operation → Except String Operation) : Call Operation := do
  match ← update db id transition with
  | .updated (some operation) => pure operation
  | .updated none => do
    let _ ← ask (.rollback db)
    let current ← getOperation db id
    require (resolve current)
  | .integrityError => do
    let _ ← ask (.rollback db)
    match transition.video with
    | none => throw "IntegrityError"
    | some video => do
      match ← select db (.video video) false with
      | none => throw "IntegrityError"
      | some _ => throw "platform video id already belongs to a YouTube upload operation"

def markSubmitted (id : Uuid) (managerTaskID : String) (context : Option UploadOperationContext) :
  Prog uploads FencedResult :=
  match canonicalManagerTaskID (some managerTaskID) with
  | none => pure (.error "manager task id must be a canonical UUID", active)
  | some managerTaskID =>
    match localSubmissionFence active context id [.postFenced] with
    | some fence =>
      moveFence active fence .submitted (updateInFence fence id (.submittedInFence managerTaskID))
    | none => unfenced active fun db => do
      requireTransitionContext active db id context
      let now ← send .now rfl
      settle db id (.submitted managerTaskID now) fun current =>
        if current.status = .submitted ∧
          current.managerTaskID = some managerTaskID then .ok current
        else .error ("cannot mark " ++ current.status.text ++ " operation submitted")

end

def markSucceeded (interpreter : Interpreter) (active : Option SubmissionFence)
  (id : Uuid) (platformVideoID : String) (receipt : Dict String Json)
  (context : Option UploadOperationContext) : Prog uploads FencedResult :=
  if interpreter.strip platformVideoID = "" then
    pure (.error "platform video id is required", active)
  else unfenced active fun db => do
    requireTransitionContext active db id context
    let metadata ← getOperation db id
    let now ← send .now rfl
    settle db id (.succeeded platformVideoID
      (receiptFor interpreter metadata.title metadata.privacy platformVideoID
        receipt) now) fun current =>
      if current.status = .succeeded then
        if current.platformVideoID = some platformVideoID then .ok current
        else .error "operation already belongs to a different platform video id"
      else .error ("cannot mark " ++ current.status.text ++ " operation succeeded")

def Ending.phase : Ending → Phase
  | .uncertain => .uncertain
  | .failed => .failed

def markTerminal (ending : Ending) (active : Option SubmissionFence) (id : Uuid)
  (errorMessage : String) (context : Option UploadOperationContext) :
  Prog uploads FencedResult :=
  match localSubmissionFence active context id [.initial, .postFenced] with
  | some fence =>
    moveFence active fence ending.phase do
      requireTransitionContext active fence.db id context
      updateInFence fence id (.ended ending errorMessage)
  | none => unfenced active fun db => do
    requireTransitionContext active db id context
    settle db id (.ended ending errorMessage) fun current =>
      if current.status = ending.status then .ok current
      else .error ("cannot mark " ++ current.status.text ++ " operation " ++ ending.status.text)

def markUncertain := markTerminal .uncertain

def markFailed := markTerminal .failed

/-! A worker makes calls one after another, some of them inside a submission
fence. Whatever a call returned or raised, the next one is its own choice. -/

inductive Command where
  | enterFence (context : UploadOperationContext)
  | leaveFence
  | claim (context : UploadOperationContext)
  | markAttempting (id : Uuid) (context : Option UploadOperationContext)
  | markSubmitted (id : Uuid) (managerTaskID : String)
    (context : Option UploadOperationContext)
  | markSucceeded (id : Uuid) (platformVideoID : String)
    (receipt : Dict String Json) (context : Option UploadOperationContext)
  | markUncertain (id : Uuid) (errorMessage : String)
    (context : Option UploadOperationContext)
  | markFailed (id : Uuid) (errorMessage : String)
    (context : Option UploadOperationContext)

def enterFence (context : UploadOperationContext) : Call SubmissionFence := do
  let db ← ask (.openSession .other)
  match ← (requireLocalSubmissionAuthority db context).result with
  | .ok _ => pure ⟨context, db, .initial, none⟩
  | .error message => do
    let _ ← ask (.close db .other)
    throw message

def leaveFence (fence : SubmissionFence) : Call Unit := do
  let _ ← ask (.close fence.db .other)
  pure ()

def underFence (fences : List SubmissionFence)
  (call : Option SubmissionFence → Prog uploads FencedResult) :
  Prog uploads (List SubmissionFence) := do
  let (_, active) ← call fences.head?
  pure (active.toList ++ fences.tail)

namespace Command

def run (interpreter : Interpreter) (fences : List SubmissionFence) :
  Command → Prog uploads (List SubmissionFence)
  | .enterFence context => do
    match ← (Upload.enterFence context).run with
    | .ok fence => pure (fence :: fences)
    | .error _ => pure fences
  | .leaveFence =>
    match fences with
    | [] => pure []
    | fence :: outer => do
      let _ ← (Upload.leaveFence fence).run
      pure outer
  | .claim context => do
    let _ ← (Upload.claim context).run
    pure fences
  | .markAttempting id context => underFence fences (Upload.markAttempting · id context)
  | .markSubmitted id managerTaskID context =>
    underFence fences (Upload.markSubmitted · id managerTaskID context)
  | .markSucceeded id platformVideoID receipt context =>
    underFence fences (Upload.markSucceeded interpreter · id platformVideoID receipt context)
  | .markUncertain id errorMessage context =>
    underFence fences (Upload.markUncertain · id errorMessage context)
  | .markFailed id errorMessage context =>
    underFence fences (Upload.markFailed · id errorMessage context)

end Command

def worker (interpreter : Interpreter) (fences : List SubmissionFence) :
  List Command → Prog uploads Unit
  | [] => pure ()
  | command :: commands => do
    let fences ← command.run interpreter fences
    worker interpreter fences commands

end VideoProcess.Upload
