import VideoProcess.Program.Pool
import VideoProcess.Python.Tables
import Mathlib.Data.List.Sort
import Mathlib.Data.String.Basic

namespace VideoProcess.Delivery

open Data Python Program Fallible

/-! Delivery of worker tasks (`registered_worker_event_receipt.py`) to Redis
streams. -/

abbrev Time := Int

structure Dispatch where
  id : Uuid
  originReceiptID : Option Uuid
  dispatchKey : Uuid
  (redisStream consumerGroup payloadSha256 : String)
  payloadJSON : Dict String String
  createdAt : Time
  deliveryState : DeliveryState
  deliveryAttemptedAt : Option Time
  (deliveryError redisMessageID : Option String)
  resolutionState : ResolutionState

inductive Change where
  | attempting (now : Time)
  | delivered (messageID : String)
  | uncertain (reason : String)
  | cancelled
  | resolved (state : ResolutionState)

section

variable (dispatch : Dispatch)

def Dispatch.apply : Change → Dispatch
  | .attempting now =>
    { dispatch with
      deliveryState := .attempting
      deliveryAttemptedAt := some now
      deliveryError := none }
  | .delivered messageID =>
    { dispatch with
      deliveryState := .delivered
      redisMessageID := some messageID }
  | .uncertain reason =>
    { dispatch with
      deliveryState := .uncertain
      deliveryError := some reason }
  | .cancelled =>
    { dispatch with
      deliveryState := .cancelled
      resolutionState := .cancelled }
  | .resolved state => { dispatch with resolutionState := state }

theorem Dispatch.id_apply (change : Change) : (dispatch.apply change).id = dispatch.id := by
  cases change <;> rfl

theorem Dispatch.dispatchKey_apply (change : Change) :
  (dispatch.apply change).dispatchKey = dispatch.dispatchKey := by
  cases change <;> rfl

end

/-- The table, with its unique constraint on the dispatch key. -/
structure Dispatches where
  table : Table Dispatch.id
  unique : (table.rows.map Dispatch.dispatchKey).Nodup

namespace Dispatches

def empty : Dispatches := ⟨Table.empty, List.nodup_nil⟩

variable (dispatches : Dispatches)

def find? (id : Uuid) : Option Dispatch := dispatches.table.find? id

variable (ids : List Uuid) (change : Change)

def written (row : Dispatch) : Dispatch :=
  if row.id ∈ ids then row.apply change else row

theorem id_written (row : Dispatch) : (written ids change row).id = row.id := by
  unfold written
  split
  · exact row.id_apply change
  · rfl

theorem dispatchKey_written (row : Dispatch) :
  (written ids change row).dispatchKey = row.dispatchKey := by
  unfold written
  split
  · exact row.dispatchKey_apply change
  · rfl

def write : Dispatches where
  table := dispatches.table.update (fun _ => true) (written ids change) (id_written ids change)
  unique := by
    have keys : (fun row => (written ids change row).dispatchKey) =
      Dispatch.dispatchKey := funext (dispatchKey_written ids change)
    rw [Table.rows_update, List.map_map]
    simpa [Function.comp_def, keys] using dispatches.unique

def insert (row : Dispatch) : Option Dispatches :=
  if new : ∀ other ∈ dispatches.table.rows,
    other.id ≠ row.id ∧ other.dispatchKey ≠ row.dispatchKey then
    match inserted : dispatches.table.insert row with
    | none => none
    | some table => some ⟨table, by
      have placed := (Table.insert_eq_some_iff.1 inserted).2
      rw [placed, (Table.place_perm.map Dispatch.dispatchKey).nodup_iff]
      refine List.nodup_cons.2 ⟨?_, dispatches.unique⟩
      intro member
      obtain ⟨other, present, same⟩ := List.mem_map.1 member
      exact (new other present).2 same⟩
  else none

end Dispatches

structure Entry where
  (stream messageID : String)
  dispatchKey : Uuid
  fields : List String

structure System where
  dispatches : Dispatches
  /-- `vp:worker-task-dispatch:<key>`. -/
  markers : Dict Uuid String
  stream : List Entry
  /-- The dispatch keys of the delivery commands sent so far. -/
  issued : List Uuid

def System.initial : System := ⟨Dispatches.empty, Dict.empty, [], []⟩

structure Draft where
  id : Uuid
  originReceiptID : Option Uuid
  dispatchKey : Uuid
  (redisStream consumerGroup payloadSha256 : String)
  payloadJSON : Dict String String

inductive Request where
  | now
  | beginDispatchAttempts (receiptID : Option Uuid) (limit : Nat)
  | selectStaleAttempts (receiptID : Option Uuid) (cutoff : Time) (limit : Nat)
  | get (dispatchKey : Uuid)
  | eval (dispatch : Dispatch) (fields : List String)
  | markDispatchDelivered (id : Uuid) (messageID : String)
  | markDispatchUncertain (id : Uuid) (reason : String)
  | cancelPendingDispatches (limit : Nat)
  | authorizeCancelledDispatches (limit : Nat)
  | acknowledgeCancelledDispatch (id : Uuid)
  | stage (draft : Draft)
  | resolve (id : Uuid) (state : ResolutionState)
  | forget (dispatchKey : Uuid)

def dispatching : Interface where
  Call := Request
  Reply
    | .now => Time
    | .beginDispatchAttempts .. => Except String (List Dispatch)
    | .selectStaleAttempts .. => Except String (List Dispatch)
    | .get _ => Except String (Option String)
    | .eval .. => Except String String
    | .markDispatchDelivered .. => Except String Unit
    | .markDispatchUncertain .. => Except String Unit
    | .cancelPendingDispatches _ => Except String Unit
    | .authorizeCancelledDispatches _ => Except String (List Uuid)
    | .acknowledgeCancelledDispatch _ => Except String Unit
    | .stage _ => Unit
    | .resolve .. => Unit
    | .forget _ => Unit

/-- What a request depends on besides the system: the clock, the rows that
other transactions have locked, the receipts, jobs and nodes as they stand, how
often the Redis client sends its command before it has a reply, the message id
Redis would draw, and whether the request fails, with or without having taken
effect. -/
structure Env where
  now : Time
  locked : Dispatch → Bool
  receiptApplied : Uuid → Bool
  (cancelled held : Dispatch → Bool)
  executions : Nat
  messageID : String
  fault : Option Fault

namespace System

def write (system : System) (ids : List Uuid) (change : Change) : System :=
  { system with dispatches := system.dispatches.write ids change }

def batch (env : Env) (system : System) (wanted : Dispatch → Bool) (limit : Nat) : List Dispatch :=
  (((system.dispatches.table.rows.filter wanted).insertionSort
    fun left right => left.createdAt ≤ right.createdAt).take limit).filter
      fun dispatch => !env.locked dispatch

variable (receiptID : Option Uuid)

def isPending (dispatch : Dispatch) : Bool :=
  dispatch.deliveryState = .pending && dispatch.resolutionState = .unresolved &&
    (receiptID = none || dispatch.originReceiptID = receiptID)

def isStale (cutoff : Time) (dispatch : Dispatch) : Bool :=
  dispatch.deliveryState = .attempting && dispatch.deliveryAttemptedAt.any (· ≤ cutoff) &&
    (receiptID = none || dispatch.originReceiptID = receiptID)

def staleAttempts (system : System) (receiptID : Option Uuid) (cutoff : Time)
  (limit : Nat) : List Dispatch :=
  ((system.dispatches.table.rows.filter (isStale receiptID cutoff)).insertionSort
    fun left right => left.deliveryAttemptedAt.getD 0 ≤ right.deliveryAttemptedAt.getD 0).take limit

/-- `_IDEMPOTENT_XADD_SCRIPT`, once. -/
def runScript (dispatch : Dispatch) (fields : List String) (messageID : String)
  (system : System) : System :=
  match system.markers.get? dispatch.dispatchKey with
  | some _ => system
  | none =>
    { system with
      stream := system.stream ++ [⟨dispatch.redisStream, messageID, dispatch.dispatchKey, fields⟩]
      markers := system.markers.set dispatch.dispatchKey messageID }

end System

variable (env : Env)

def execBegin (receiptID : Option Uuid) (limit : Nat)
  (system : System) : Except String (List Dispatch) × System :=
  if receiptID.any fun id => !env.receiptApplied id then
    (.error "dispatch has no applied event receipt", system)
  else
    let batch := system.batch env (System.isPending receiptID) limit
    (.ok (batch.map (·.apply (.attempting env.now))),
      system.write (batch.map Dispatch.id) (.attempting env.now))

def execDelivered (id : Uuid) (messageID : String) (system : System) :
  Except String Unit × System :=
  match system.dispatches.find? id with
  | none => (.error "worker task dispatch is missing", system)
  | some dispatch =>
    if dispatch.deliveryState = .delivered then
      if dispatch.redisMessageID = some messageID then (.ok (), system)
      else (.error "worker task dispatch message mismatch", system)
    else if dispatch.deliveryState = .attempting then
      (.ok (), system.write [id] (.delivered messageID))
    else (.error "worker task dispatch is not attempting delivery", system)

def execUncertain (id : Uuid) (reason : String) (system : System) : Except String Unit × System :=
  match system.dispatches.find? id with
  | none => (.error "worker task dispatch is missing", system)
  | some dispatch =>
    if dispatch.deliveryState = .delivered then (.ok (), system)
    else if dispatch.deliveryState = .attempting then
      (.ok (), system.write [id] (.uncertain reason))
    else (.error "worker task dispatch is not attempting delivery", system)

/-- `vp_authorize_cancelled_worker_task_ack` holds a dispatch whose worker has
prepared an event. -/
def execCancel (limit : Nat) (system : System) : Except String Unit × System :=
  let batch := system.batch env
    (fun dispatch => System.isPending none dispatch && env.cancelled dispatch)
    limit
  (.ok (), system.write ((batch.filter fun dispatch => !env.held dispatch).map
    Dispatch.id) .cancelled)

def execAuthorize (limit : Nat) (system : System) : Except String (List Uuid) × System :=
  let batch := system.batch env
    (fun dispatch => dispatch.deliveryState = .delivered &&
      dispatch.resolutionState.isOpen && env.cancelled dispatch) limit
  let authorized := (batch.filter fun dispatch => !env.held dispatch).map
    Dispatch.id
  (.ok authorized, system.write authorized (.resolved .cancelAuthorized))

def execAcknowledge (id : Uuid) (system : System) : Except String Unit × System :=
  match system.dispatches.find? id with
  | none => (.ok (), system)
  | some dispatch =>
    if dispatch.resolutionState = .acknowledged then (.ok (), system)
    else if dispatch.deliveryState = .delivered ∧ dispatch.resolutionState = .cancelAuthorized ∧
      dispatch.redisMessageID ≠ none then
      (.ok (), system.write [id] (.resolved .acknowledged))
    else
      (.error "cancelled worker task acknowledgement is not authorized", system)

def staged (draft : Draft) : Dispatch where
  id := draft.id
  originReceiptID := draft.originReceiptID
  dispatchKey := draft.dispatchKey
  redisStream := draft.redisStream
  consumerGroup := draft.consumerGroup
  payloadSha256 := draft.payloadSha256
  payloadJSON := draft.payloadJSON
  createdAt := env.now
  deliveryState := .pending
  deliveryAttemptedAt := none
  deliveryError := none
  redisMessageID := none
  resolutionState := .unresolved

/-- The command counts as issued once it is handed to the Redis client. The
client sends it again when it has waited too long for the reply. -/
def execEval (dispatch : Dispatch) (fields : List String)
  (system : System) : Except String String × System :=
  let after := (System.runScript dispatch fields env.messageID)^[env.executions]
    { system with issued := system.issued ++ [dispatch.dispatchKey] }
  match env.fault, after.markers.get? dispatch.dispatchKey with
  | some fault, _ => (.error fault.message, after)
  | none, none => (.error "connection lost", after)
  | none, some messageID => (.ok messageID, after)

def exec : (request : Request) → System → dispatching.Reply request × System
  | .now, system => (env.now, system)
  | .beginDispatchAttempts receiptID limit, system =>
    interrupt env.fault system (execBegin env receiptID limit system)
  | .selectStaleAttempts receiptID cutoff limit, system =>
    interrupt env.fault system (.ok (system.staleAttempts receiptID cutoff limit), system)
  | .get dispatchKey, system =>
    interrupt env.fault system (.ok (system.markers.get? dispatchKey), system)
  | .eval dispatch fields, system => execEval env dispatch fields system
  | .markDispatchDelivered id messageID, system =>
    interrupt env.fault system (execDelivered id messageID system)
  | .markDispatchUncertain id reason, system =>
    interrupt env.fault system (execUncertain id reason system)
  | .cancelPendingDispatches limit, system =>
    interrupt env.fault system (execCancel env limit system)
  | .authorizeCancelledDispatches limit, system =>
    interrupt env.fault system (execAuthorize env limit system)
  | .acknowledgeCancelledDispatch id, system =>
    interrupt env.fault system (execAcknowledge id system)
  | .stage draft, system =>
    ((), { system with
      dispatches :=
        (system.dispatches.insert (staged env draft)).getD system.dispatches })
  | .resolve id state, system => ((), system.write [id] (.resolved state))
  | .forget dispatchKey, system => ((), { system with markers := system.markers.erase dispatchKey })

def machine : Machine dispatching System Env where
  exec := exec

structure Service where
  recoverySeconds : Time
  digest : Dict String String → String
  strip : String → String

abbrev Call (α : Type) := Fallible dispatching α

abbrev send {α : Type} (request : Request)
  (reply : dispatching.Reply request = Except String α) : Call α :=
  Fallible.send (I := dispatching) request reply

abbrev ask (request : Request) : Call (dispatching.Reply request) :=
  Fallible.ask (I := dispatching) request

namespace Service

variable (service : Service)

def validatedDispatchPayload (dispatch : Dispatch) : Except String (Dict String String) :=
  let payload := dispatch.payloadJSON
  if payload.get? "dispatch_key" ≠ some (uuidString dispatch.dispatchKey) then
    .error "worker task dispatch key mismatch"
  else if service.digest payload ≠ dispatch.payloadSha256 then
    .error "worker task dispatch payload hash mismatch"
  else .ok payload

def fields (payload : Dict String String) : List String :=
  (payload.entries.insertionSort fun left right => left.1 ≤ right.1).flatMap
    fun field => [field.1, field.2]

def settleAttempt (dispatch : Dispatch) (marker : Option String) : Call Unit :=
  match marker.filter fun messageID => service.strip messageID ≠ "" with
  | some messageID => send (.markDispatchDelivered dispatch.id (service.strip messageID)) rfl
  | none => send (.markDispatchUncertain dispatch.id "dispatch_marker_missing_after_attempt") rfl

def recoverEach : List Dispatch → Call Unit
  | [] => pure ()
  | dispatch :: rest => do
    let marker ← send (.get dispatch.dispatchKey) rfl
    service.settleAttempt dispatch marker
    recoverEach rest

variable (receiptID : Option Uuid)

def recoverStaleDispatchAttempts (limit : Nat) : Call Unit := do
  let now : Time ← ask .now
  let attempts ← send (.selectStaleAttempts receiptID
    (now - service.recoverySeconds) limit) rfl
  service.recoverEach attempts

def deliver (dispatch : Dispatch) : Call Unit := do
  let payload ← require (service.validatedDispatchPayload dispatch)
  let messageID ← send (.eval dispatch (fields payload)) rfl
  if service.strip messageID = "" then
    throw "Redis dispatch message id is invalid"
  else send (.markDispatchDelivered dispatch.id (service.strip messageID)) rfl

def deliverEach : List Dispatch → Call Unit
  | [] => pure ()
  | dispatch :: rest => do
    service.deliver dispatch
    deliverEach rest

variable (limit : Int)

def deliverPendingDispatches : Call Unit :=
  if limit ≤ 0 then throw "limit must be positive"
  else do
    service.recoverStaleDispatchAttempts receiptID limit.toNat
    let dispatches ← send (.beginDispatchAttempts receiptID limit.toNat) rfl
    service.deliverEach dispatches

def reconcilePendingDispatches : Call Unit :=
  service.deliverPendingDispatches none limit

def acknowledgeEach : List Uuid → Call Unit
  | [] => pure ()
  | id :: rest => do
    send (.acknowledgeCancelledDispatch id) rfl
    acknowledgeEach rest

def reconcileCancelledDispatches : Call Unit :=
  if limit ≤ 0 then throw "limit must be positive"
  else do
    service.recoverStaleDispatchAttempts none limit.toNat
    send (.cancelPendingDispatches limit.toNat) rfl
    let ids ← send (.authorizeCancelledDispatches limit.toNat) rfl
    acknowledgeEach ids

end Service

/-- What runs side by side: the service's calls, and the rest of the system
that stages dispatches, resolves them and deletes old markers. -/
inductive Activity where
  | deliver (service : Service) (receiptID : Option Uuid) (limit : Int)
  | reconcileCancelled (service : Service) (limit : Int)
  | stage (draft : Draft)
  | resolve (id : Uuid) (state : ResolutionState)
  | forget (dispatchKey : Uuid)

def Activity.program : Activity → Call Unit
  | .deliver service receiptID limit => service.deliverPendingDispatches receiptID limit
  | .reconcileCancelled service limit => service.reconcileCancelledDispatches limit
  | .stage draft => ask (.stage draft)
  | .resolve id state => ask (.resolve id state)
  | .forget dispatchKey => ask (.forget dispatchKey)

end VideoProcess.Delivery
