import VideoProcess.Python.Engine

namespace VideoProcess.Python.WorkerEvent

open Data

/-! `accept_and_apply` of `registered_worker_event_receipt.py`: one transaction,
so that calls about one attestation or one message follow each other. -/

structure Message where
  (stream group id : String)
deriving DecidableEq, Repr

inductive EventType where
  | nodeCompleted
  | nodeFailed
deriving DecidableEq, Repr

/-- A parsed event. Its job and node execution are those of the claim. -/
structure Event where
  message : Message
  payload : Dict String String
  eventType : EventType
  claim : NodeExecutionClaim
  sourceTask : Message
  sourceTaskPayloadSha256 : String
  sourceTaskDispatchKey : Uuid

structure Attestation where
  id : Uuid
  task : Message
  dispatchKey : Uuid
  payloadSha256 : String
  claim : NodeExecutionClaim
deriving DecidableEq

structure Facts where
  sourceTaskAttestationID : Uuid
  message : Message
  payloadSha256 : String
  payload : Dict String String
  eventType : EventType
  (jobID nodeExecutionID workerRegistrationID : Uuid)
  workerLeaseEpoch : Nat
  workerID : String
  workerStartedAt : Nat
  sourceTask : Message

inductive ApplicationState where
  | accepted
  | applied
deriving DecidableEq, Repr

structure Receipt where
  id : Uuid
  facts : Facts
  applicationState : ApplicationState

inductive Mismatch where
  | sourceTaskPayload
  | sourceTaskAuthority
  | workerClaim
  | eventPayload
deriving DecidableEq, Repr

inductive ResolutionState where
  | accepted
  | quarantined (reason : Mismatch)
deriving DecidableEq, Repr

structure Delivery where
  attestationID : Uuid
  receiptID : Option Uuid
  message : Message
  payloadSha256 : String
  resolutionState : ResolutionState
deriving DecidableEq

/-- The committed rows, with the jobs, node executions and dispatches as
`work`. -/
structure Registry (σ : Type) where
  attestations : List Attestation
  receipts : List Receipt
  deliveries : List Delivery
  work : σ

/-- What the service is given: the canonical payload hash, the check of the
locked execution authority and `apply_event`. -/
structure Receiver (σ : Type) where
  sha256 : Dict String String → String
  requireAuthority : σ → NodeExecutionClaim → Except String Unit
  applyEvent : Receipt → Event → σ → Except String σ

/-- What a call meets: whether the authority lock is granted, the attestations
that others commit after its first look, whether the database function observes
the emission, and the id of a new receipt. -/
structure Surroundings where
  authorityLock : Except String Unit
  attested : List Attestation
  emission : Except String Unit
  uuid4 : Uuid

section

variable {σ : Type} (receiver : Receiver σ)

def receiptFacts (event : Event) (attestation : Uuid) : Except String Facts :=
  match event.claim.workerRegistrationID, event.claim.workerLeaseEpoch with
  | some registration, some epoch =>
    .ok {
      sourceTaskAttestationID := attestation
      message := event.message
      payloadSha256 := receiver.sha256 event.payload
      payload := event.payload
      eventType := event.eventType
      jobID := event.claim.jobID
      nodeExecutionID := event.claim.nodeExecutionID
      workerRegistrationID := registration
      workerLeaseEpoch := epoch
      workerID := event.claim.workerID
      workerStartedAt := event.claim.startedAt
      sourceTask := event.sourceTask }
  | _, _ => .error "registered event has no worker registration claim"

/-- The facts in the order of their comparison: the first that differs names the
reason. -/
def factsMismatch (receipt expected : Facts) : Option Mismatch :=
  if receipt.sourceTaskAttestationID ≠ expected.sourceTaskAttestationID then
    some .workerClaim
  else if receipt.payloadSha256 ≠ expected.payloadSha256 ∨
    receiver.sha256 receipt.payload ≠ expected.payloadSha256 ∨
    receipt.eventType ≠ expected.eventType then
    some .eventPayload
  else if receipt.jobID ≠ expected.jobID ∨ receipt.nodeExecutionID ≠ expected.nodeExecutionID ∨
    receipt.workerRegistrationID ≠ expected.workerRegistrationID ∨
    receipt.workerLeaseEpoch ≠ expected.workerLeaseEpoch ∨
    receipt.workerID ≠ expected.workerID ∨
    receipt.workerStartedAt ≠ expected.workerStartedAt ∨
    receipt.sourceTask ≠ expected.sourceTask then
    some .workerClaim
  else none

def sourceReceiptMismatchReason (receipt : Receipt) (event : Event)
  (attestation : Uuid) : Except String (Option Mismatch) :=
  (receiptFacts receiver event attestation).map (factsMismatch receiver receipt.facts)

def attestationMismatchReason (attestation : Attestation) (event : Event) : Option Mismatch :=
  if attestation.payloadSha256 ≠ event.sourceTaskPayloadSha256 then
    some .sourceTaskPayload
  else if attestation.claim.jobID ≠ event.claim.jobID ∨
    attestation.claim.nodeExecutionID ≠ event.claim.nodeExecutionID then
    some .sourceTaskAuthority
  else if attestation.claim.workerRegistrationID ≠ event.claim.workerRegistrationID ∨
    attestation.claim.workerLeaseEpoch ≠ event.claim.workerLeaseEpoch ∨
    attestation.claim.workerID ≠ event.claim.workerID ∨
    attestation.claim.startedAt ≠ event.claim.startedAt then
    some .workerClaim
  else none

def isTaskOf (event : Event) (attestation : Attestation) : Bool :=
  attestation.task = event.sourceTask ∧ attestation.dispatchKey = event.sourceTaskDispatchKey

def lockedTaskAttestation (attestations : List Attestation) (event : Event) : Option Attestation :=
  attestations.find? (isTaskOf event)

variable (near : Surroundings) (registry : Registry σ)

def observeDelivery (event : Event) : Except String Uuid :=
  match lockedTaskAttestation (registry.attestations ++ near.attested)
    event with
  | none => .error "registered event task delivery attestation is missing"
  | some attestation => near.emission.map fun _ => attestation.id

def lockedEventDelivery (event : Event) : Option Delivery :=
  registry.deliveries.find? fun delivery => delivery.message = event.message

def lockedReceiptForAttestation (attestation : Uuid) : Option Receipt :=
  registry.receipts.find? fun receipt =>
    receipt.facts.sourceTaskAttestationID = attestation

def receiptForDelivery (delivery : Delivery) : Except String Receipt :=
  match delivery.receiptID with
  | none => .error "accepted registered event delivery has no receipt"
  | some id =>
    match registry.receipts.find? fun receipt => receipt.id = id with
    | none => .error "registered event receipt is missing"
    | some receipt => .ok receipt

inductive Resolution where
  | recorded (outcome : Option Uuid)
  | quarantine (attestation : Uuid) (receipt : Option Uuid)
    (reason : Mismatch)
  | duplicate (attestation : Uuid) (receipt : Uuid)
  | fresh (attestation : Uuid)

section

variable (event : Event)

def resolveDelivery (delivery : Delivery) : Except String Resolution :=
  if delivery.payloadSha256 ≠ receiver.sha256 event.payload then
    .error "registered event delivery fact or payload hash mismatch"
  else
    match delivery.resolutionState with
    | .quarantined _ => .ok (.recorded none)
    | .accepted => do
      let receipt ← receiptForDelivery registry delivery
      match ← sourceReceiptMismatchReason receiver receipt event
        receipt.facts.sourceTaskAttestationID with
      | some _ => .error "registered event receipt fact or payload hash mismatch"
      | none =>
        if receipt.applicationState = .applied then
          .ok (.recorded (some receipt.id))
        else .error "registered event receipt is not durably applied"

section

variable (attestation : Uuid)

def resolveReceipt (receipt : Receipt) : Except String Resolution := do
  match ← sourceReceiptMismatchReason receiver receipt event attestation with
  | some reason => .ok (.quarantine attestation (some receipt.id) reason)
  | none =>
    if receipt.applicationState = .applied then
      .ok (.duplicate attestation receipt.id)
    else .error "registered event receipt is not durably applied"

def observedID : Option Uuid → Except String Uuid
  | some id => .ok id
  | none => observeDelivery near registry event

/-- No receipt is recorded for the attestation yet. The source looks for one
again after the authority checks; the attestation is locked all along. -/
def resolveNew (observed : Option Uuid) : Except String Resolution := do
  let observed ← observedID near registry event observed
  if observed ≠ attestation then
    .error "registered event task delivery attestation mismatch"
  else do
    receiver.requireAuthority registry.work event.claim
    match lockedReceiptForAttestation registry attestation with
    | some receipt => resolveReceipt receiver event attestation receipt
    | none => .ok (.fresh attestation)

def resolveAttested (row : Option Attestation) : Except String Resolution :=
  match row.bind (attestationMismatchReason · event) with
  | some reason =>
    .ok (.quarantine attestation
      ((lockedReceiptForAttestation registry attestation).map (·.id)) reason)
  | none =>
    match lockedReceiptForAttestation registry attestation with
    | some receipt => resolveReceipt receiver event attestation receipt
    | none =>
      resolveNew receiver near registry event attestation
        (if row.isSome then none else some attestation)

end

def attestationID : Except String Uuid :=
  match lockedTaskAttestation registry.attestations event with
  | some row => .ok row.id
  | none => observeDelivery near registry event

def resolve : Except String Resolution := do
  near.authorityLock
  match event.claim.workerRegistrationID with
  | none => .error "registered event worker registration is invalid"
  | some _ => do
    let attestation ← attestationID near registry event
    match lockedEventDelivery registry event with
    | some delivery => resolveDelivery receiver registry event delivery
    | none =>
      resolveAttested receiver near registry event attestation
        (lockedTaskAttestation registry.attestations event)

end

def Registry.addDelivery (attestation : Uuid)
  (receipt : Option Uuid) (event : Event) (state : ResolutionState) :
  Registry σ :=
  { registry with
    deliveries := registry.deliveries ++ [{
      attestationID := attestation
      receiptID := receipt
      message := event.message
      payloadSha256 := receiver.sha256 event.payload
      resolutionState := state }] }

def Registry.clashes (id : Uuid) (facts : Facts) : Bool :=
  registry.receipts.any fun receipt =>
    receipt.id = id ∨
    receipt.facts.sourceTaskAttestationID = facts.sourceTaskAttestationID ∨
    receipt.facts.message = facts.message ∨
    receipt.facts.sourceTask = facts.sourceTask

variable (event : Event)

def insertReceipt (attestation : Uuid) : Except String Receipt := do
  let facts ← receiptFacts receiver event attestation
  if registry.clashes near.uuid4 facts then
    .error "duplicate key value violates unique constraint"
  else .ok ⟨near.uuid4, facts, .accepted⟩

def applyFresh (attestation : Uuid) : Except String (Option Uuid × Registry σ) := do
  let receipt ← insertReceipt receiver near registry event attestation
  let work ← receiver.applyEvent receipt event registry.work
  let registry := registry.addDelivery receiver attestation (some receipt.id)
    event .accepted
  return (some receipt.id, { registry with
    receipts := registry.receipts ++ [{ receipt with applicationState := .applied }]
    work := work })

def perform : Resolution → Except String (Option Uuid × Registry σ)
  | .recorded outcome => .ok (outcome, registry)
  | .quarantine attestation receipt reason =>
    .ok (none, registry.addDelivery receiver attestation receipt event (.quarantined reason))
  | .duplicate attestation receipt =>
    .ok (some receipt, registry.addDelivery receiver attestation (some receipt) event .accepted)
  | .fresh attestation => applyFresh receiver near registry event attestation

def acceptAndApply : Except String (Option Uuid × Registry σ) := do
  let resolution ← resolve receiver near registry event
  perform receiver near registry event resolution

/-- The attestation `apply_event` is called for in a call, whether or not the
call then commits. -/
def invocation : Option Uuid :=
  match resolve receiver near registry event with
  | .ok (.fresh attestation) =>
    match insertReceipt receiver near registry event attestation with
    | .ok _ => some attestation
    | .error _ => none
  | _ => none

end

def Event.registered (event : Event) : RegisteredWorkerEvent where
  claim := event.claim
  report :=
    match event.eventType with
    | .nodeCompleted => .completed ((event.payload.get? "output_artifact_id").map .str)
    | .nodeFailed => .failed (event.payload.get? "error")

def requireAcceptedReceipt (sha256 : Dict String String → String)
  (receipt : Receipt) (event : Event) : Except String Unit :=
  if receipt.applicationState ≠ .accepted ∨ receipt.facts.message ≠ event.message ∨
    receipt.facts.payloadSha256 ≠ sha256 event.payload ∨
    receipt.facts.jobID ≠ event.claim.jobID ∨
    receipt.facts.nodeExecutionID ≠ event.claim.nodeExecutionID ∨
    some receipt.facts.workerRegistrationID ≠ event.claim.workerRegistrationID ∨
    some receipt.facts.workerLeaseEpoch ≠ event.claim.workerLeaseEpoch then
    .error "registered event receipt authority mismatch"
  else .ok ()

def engineReceiver (services : Services)
  (sha256 : Dict String String → String) : Receiver Tables where
  sha256 := sha256
  requireAuthority tables claim :=
    (lockClaimedNode tables claim .running).map fun _ => ()
  applyEvent receipt event tables := do
    requireAcceptedReceipt sha256 receipt event
    applyRegisteredWorkerEvent services receipt.id event.registered tables

/-- The committed rows, with what has happened so far: the attestations
`apply_event` was called for, those whose call was committed, and the committed
calls with what they returned. -/
structure System (σ : Type) where
  registry : Registry σ
  (invoked applied : List Uuid)
  answered : List (Event × Option Uuid)

section

variable {σ : Type} (receiver : Receiver σ)

def Registry.attest (registry : Registry σ) (rows : List Attestation) : Registry σ :=
  { registry with attestations := registry.attestations ++ rows }

/-- A call that commits or, where it raises or its commit fails, leaves nothing
but its call of `apply_event`. -/
def deliver (near : Surroundings) (event : Event) (commits : Bool) (system : System σ) : System σ :=
  let called := (invocation receiver near system.registry event).toList
  match acceptAndApply receiver near system.registry event, commits with
  | .ok (outcome, registry), true =>
    { registry := registry.attest near.attested
      invoked := system.invoked ++ called
      applied := system.applied ++ called
      answered := (event, outcome) :: system.answered }
  | _, _ =>
    { system with
      registry := system.registry.attest near.attested
      invoked := system.invoked ++ called }

/-- The unique constraints of the attestations, with rows to come. -/
structure Attestable (registry : Registry σ) (rows : List Attestation) : Prop where
  ids : ((registry.attestations ++ rows).map (·.id)).Nodup
  tasks : ((registry.attestations ++ rows).map (·.task)).Nodup

inductive Step : System σ → System σ → Prop
  | deliver (near : Surroundings) (event : Event) (commits : Bool)
    (system : System σ) (unique : Attestable system.registry near.attested) :
    Step system (deliver receiver near event commits system)
  /-- Others attest deliveries and change jobs, node executions and
  dispatches. -/
  | elsewhere (rows : List Attestation) (work : σ) (system : System σ)
    (unique : Attestable system.registry rows) :
    Step system { system with
      registry := { system.registry.attest rows with work := work } }

structure Fresh (system : System σ) : Prop where
  unique : Attestable system.registry []
  receipts : system.registry.receipts = []
  deliveries : system.registry.deliveries = []
  applied : system.applied = []
  answered : system.answered = []

inductive Reachable : System σ → Prop
  | start {system : System σ} (fresh : Fresh system) : Reachable system
  | step {system next : System σ} (reachable : Reachable system)
    (step : Step receiver system next) : Reachable next

end

end VideoProcess.Python.WorkerEvent
