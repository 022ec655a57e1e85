import VideoProcess.Promotion.Operation

namespace VideoProcess.Promotion

open Data Utf8 GoText Program Fallible ChannelOps

/-! The phases. Each locks the schedule row first, so they take effect one after
another. -/

namespace Phase

variable (go : Runtime) (env : Env) (item : QueueItemRow)

def validatePromotionOperationAuthority (publication : PublicationRow) (task : ProductionTaskRow)
  (operation : PromotionOperationRow) : Except Failure Unit :=
  if operation.publicationID ≠ publication.id ∨ operation.productionTaskID ≠ task.id ∨
    operation.queueItemID ≠ item.id ∨
    operation.platformVideoID ≠ publication.platformContentID ∨
    go.safePromotionVisibility operation.targetPrivacy ≠ operation.targetPrivacy ∨
    operation.scheduledAt = zeroTime then
    conflict "persisted promotion authority changed"
  else .ok ()

/-- `HoldTask`, reported together with the hold. -/
def hold : Bool × Option Failure :=
  match env.elsewhere with
  | .ok () => (true, none)
  | .error failure => (true, some failure)

/-- Whether the task is held instead, and the error. The same checks stand in
`finalizePromotionOperation`. -/
def validatePromotionSafety (task : ProductionTaskRow) : Bool × Option Failure :=
  let planned := if task.autoFlowPlanID.isSome
    then env.validPromotionPlanAuthority else .ok true
  let reviewed := if task.usesExternalAssets
    then env.validPreUploadHumanReview else .ok true
  let promoted := if task.usesExternalAssets || boolField item "manual_review"
    then env.validPromotionHumanReview else .ok true
  match planned, reviewed, promoted with
  | .error failure, _, _ => (false, some failure)
  | .ok false, _, _ => hold env
  | .ok true, .error failure, _ => (true, some failure)
  | .ok true, .ok false, _ => hold env
  | .ok true, .ok true, .error failure => (false, some failure)
  | .ok true, .ok true, .ok false => hold env
  | .ok true, .ok true, .ok true => (false, none)

def targetVisibility (publication : PublicationRow) : Except Failure String :=
  let raw := go.field item "target_visibility"
  let desired := go.safePromotionVisibility publication.desiredPrivacy
  if raw = "" then .ok (if desired = "" then "unlisted" else desired)
  else if go.safePromotionVisibility raw = "" then
    conflict "target visibility must be private or unlisted"
  else .ok (go.safePromotionVisibility raw)

def scheduledAt : Except Failure Time :=
  let raw := go.field item "scheduled_at"
  if raw = "" then .ok env.now
  else match go.parseTime raw with
    | .error message => fails ("promote_publication scheduled_at: " ++ message)
    | .ok parsed => .ok parsed

section

variable (evidence : Option OwnedHistoryRedisEvidence)

def preparedProducer (publication : PublicationRow) (task : ProductionTaskRow)
  (existing : Option PromotionOperationRow) (target : String) :
  Except Failure (Option OwnedProducerAuthority) :=
  if existing.any fun operation => operation.status ≠ .reserved then .ok none
  else do
    let producer ← env.lockOwnedProducer 0 task evidence
    if !OwnedProducerAuthority.owned producer then pure producer
    else if target ≠ "unlisted" then fails "owned_inventory_publication_privacy"
    else do
      let found ← env.ownedPendingPlan task
      if !found then stale
      else match existing with
        | none => pure producer
        | some operation => do
          env.requireOwnedPromotionPolicy publication task target operation.decision
          pure producer

/-- The part of the preparation after the operation, if there is one, has been
found to belong to the item. -/
def prepareFound (publication : PublicationRow)
  (task : ProductionTaskRow) (existing : Option PromotionOperationRow) :
  Except Failure (PromotionPreparation × Option Failure) := do
  let target ← targetVisibility go item publication
  let scheduled ← scheduledAt go env item
  if existing.any fun operation => operation.targetPrivacy ≠ target then
    conflict "queued target visibility does not match reserved operation"
  else do
    let producer ← preparedProducer env evidence publication task existing target
    let prepared : PromotionPreparation :=
      { PromotionPreparation.zero with
        operation := existing
        scope := some ⟨publication, task, go.digest publication task, producer⟩
        targetVisibility := target
        scheduledAt := (existing.map (·.scheduledAt)).getD scheduled }
    if existing.isSome then pure (prepared, none)
    else match validatePromotionSafety env item task with
      | (false, none) =>
        pure ({ prepared with
          decisionRequest := some (ownedPromotionPolicyRequest publication task target)
          needsDecision := true }, none)
      | (held, failure) => pure ({ PromotionPreparation.zero with skip := held }, failure)

def preparePromotion (operations : Operations) : PromotionPreparation × Option Failure :=
  let publicationID := stringField item "publication_id"
  orZero <| if publicationID = "" then
    fails "promote_publication payload missing publication_id"
    else do
      let (publication, task) ← env.lockPromotionOperatorScope publicationID
      let existing ← Store.getPromotionOperationForPublication env operations
        publication.id
      match existing with
      | some operation => validatePromotionOperationAuthority go item publication task operation
      | none => pure ()
      if existing.any fun operation => operation.status = .finalized then
        pure ({ PromotionPreparation.zero with
          operation := existing
          skip := true }, none)
      else if task.state ≠ .uploadedPrivate ∧ ¬ taskHeldForPromotionUncertainty task existing then
        pure ({ PromotionPreparation.zero with skip := true }, none)
      else prepareFound go env item evidence publication task existing

end

def lockScope (prepared : PromotionPreparation) :
  Except Failure (PublicationRow × ProductionTaskRow) :=
  match prepared.scope with
  | none => fails "publication_id must be a UUID"
  | some scope => do
    let (publication, task) ←
      env.lockPromotionOperatorScope (uuidString scope.publication.id)
    if go.digest publication task ≠ scope.digest then
      fails "handler preparation snapshot stale: publication and task changed"
    else pure (publication, task)

def lockPreparedPromotionScope (prepared : PromotionPreparation) (operations : Operations) :
  Except Failure (PublicationRow × ProductionTaskRow × PromotionOperationRow) := do
  let (publication, task) ← lockScope go env prepared
  match prepared.operation with
  | none => fails "promotion_operation_id must be a UUID"
  | some known => do
    let operation ← Store.getPromotionOperation env operations known.id
    validatePromotionOperationAuthority go item publication task operation
    pure (publication, task, operation)

/-- What the decision leads to: a return, or the reservation. -/
inductive Ruling where
  | returned (prepared : PromotionPreparation) (failure : Option Failure)
  | reserve (prepared : PromotionPreparation) (publication : PublicationRow)

section

variable (prepared : PromotionPreparation)

/-- The evidence of an owned producer's decision is kept with the task; a
decision that is no real one holds the task. -/
def ownedRuling (scope : PreparedPublicationSnapshot) (request : PDSDecisionRequest)
  (publication : PublicationRow) (task : ProductionTaskRow)
  (producer : Option OwnedProducerAuthority) (decision : PDSDecision) :
  Except Failure (Ruling ⊕ (PromotionPreparation × ProductionTaskRow)) :=
  if !OwnedProducerAuthority.owned producer then .ok (.inr (prepared, task))
  else do
    let evidence ← env.ownedPolicyEvidence request decision
    let expected ← env.ownedPolicyEvidence (ownedPromotionPolicyRequest
      publication task prepared.targetVisibility) decision
    if evidence ≠ expected then stale
    else match env.requireOwnedRealPDS decision with
      | .error _ => pure (.inl (.returned { prepared with skip := true } (hold env).2))
      | .ok () => do
        env.elsewhere
        let current ← env.getProductionTask task.id
        pure (.inr ({ prepared with
          scope := some { scope with
            publication := publication
            task := current
            digest := go.digest publication current
            producer := producer } }, current))

def verdictRuling (publication : PublicationRow) (task : ProductionTaskRow)
  (decision : PDSDecision) : Except Failure Ruling :=
  match validatePromotionSafety env item task with
  | (true, failure) => .ok (.returned { prepared with skip := true } failure)
  | (false, some failure) => .ok (.returned { prepared with skip := false } (some failure))
  | (false, none) => do
    -- `maybePDSOutageAlert`.
    if decision.failPolicy ≠ "" ∨ decision.warning ∈
      ["pds_disabled", "pds_unavailable", "pds_parse_failed"] then
      env.elsewhere
    else pure ()
    if decision.verdict ≠ "allow" then
      pure (.returned { prepared with skip := true } (hold env).2)
    else pure (.reserve prepared publication)

def ruling (decision : PDSDecision) (evidence : Option OwnedHistoryRedisEvidence)
  (operations : Operations) : Except Failure Ruling := do
  let (publication, task) ← lockScope go env prepared
  let existing ← Store.getPromotionOperationForPublication env operations
    publication.id
  match existing, prepared.scope, prepared.decisionRequest with
  | some operation, _, _ => do
    validatePromotionOperationAuthority go item publication task operation
    pure (.returned { prepared with
      operation := some operation
      needsDecision := false
      skip := operation.status = .finalized } none)
  | none, some scope, some request =>
    match env.lockOwnedProducer 0 task evidence with
    -- The decision's input outlives an observation of Redis.
    | .error failure => pure (.returned prepared (some failure))
    | .ok producer =>
      if scope.producer ≠ producer then stale
      else do
        let owned ← ownedRuling go env prepared scope request publication
          task producer decision
        match owned with
        | .inl returned => pure returned
        | .inr (prepared, task) => verdictRuling env item prepared publication task decision
  | none, _, _ => stale

end

def finalizePromotionDecision (original : PromotionPreparation) (decision : PDSDecision)
  (evidence : Option OwnedHistoryRedisEvidence) (operations : Operations) :
  PromotionPreparation × Except Failure Operations :=
  match ruling go env item original decision evidence operations with
  | .error failure => (.zero, .error failure)
  | .ok (.returned prepared none) => (prepared, .ok operations)
  | .ok (.returned prepared (some failure)) => (prepared, .error failure)
  | .ok (.reserve prepared publication) =>
    match Store.reservePromotionOperation go env operations evidence
      publication item.id prepared.targetVisibility prepared.scheduledAt
      decision with
    | .error failure => (original, .error failure)
    | .ok (operation, after) =>
      ({ prepared with
        operation := some operation
        needsDecision := false }, .ok after)

/-- The variables that `beginPromotionSubmission` captures. -/
structure Claimed where
  operation : Option PromotionOperationRow
  (shouldSubmit skip : Bool)

def Claimed.zero : Claimed := ⟨none, false, false⟩

variable (prepared : PromotionPreparation) (evidence : Option OwnedHistoryRedisEvidence)

def claimable (operations : Operations) :
  Except Failure (PromotionOperationRow × Bool × Option Failure) := do
  let (publication, task, locked) ←
    lockPreparedPromotionScope go env item prepared operations
  if locked.status ≠ .reserved then pure (locked, false, none)
  else do
    let producer ← env.lockOwnedProducer 0 task evidence
    if (prepared.scope.map (·.producer)).getD none ≠ producer then stale
    else do
      if OwnedProducerAuthority.owned producer then
        env.requireOwnedPromotionPolicy publication task locked.targetPrivacy locked.decision
      else pure ()
      pure (locked, validatePromotionSafety env item task)

def beginPromotionSubmission (captured : Claimed)
  (operations : Operations) : Claimed × Except Failure Operations :=
  match claimable go env item prepared evidence operations with
  | .error failure => (captured, .error failure)
  | .ok (locked, held, failure) =>
    if locked.status ≠ .reserved then
      ({ captured with operation := some locked }, .ok operations)
    else match held, failure with
      | held, some failure => ({ captured with skip := held }, .error failure)
      | true, none => ({ captured with skip := true }, .ok operations)
      | false, none =>
        match Store.beginPromotionSubmission env operations evidence
          locked.id with
        | .error failure =>
          ({ captured with operation := none, shouldSubmit := false }, .error failure)
        | .ok ((operation, shouldSubmit), after) =>
          ({ captured with
            operation := some operation
            shouldSubmit := shouldSubmit }, .ok after)

variable (operations : Operations)

def finalizePromotionOperation : Except Failure (Unit × Operations) := do
  let (publication, task, operation) ←
    lockPreparedPromotionScope go env item prepared operations
  if operation.status = .finalized then pure ((), operations)
  else if operation.status ≠ .confirmed ∨ operation.observedPrivacy.map go.observedPrivacy ≠
    some operation.targetPrivacy then
    conflict "finalization authority changed"
  else if publication.publishStatus = "rejected" ∨ task.state = .rejected then
    pure ((), operations)
  else if task.state ≠ .uploadedPrivate ∧
    ¬ taskHeldForPromotionUncertainty task (some operation) then
    pure ((), operations)
  else match validatePromotionSafety env item task with
    | (_, some failure) => .error failure
    | (true, none) => pure ((), operations)
    | (false, none) => Store.finalizePromotionOperation go env operations operation.id

def holdUncertainPromotionOperation : Except Failure (Unit × Operations) := do
  let (_, task, locked) ←
    lockPreparedPromotionScope go env item prepared operations
  if locked.status ∈ [PromotionStatus.confirmed, .finalized] then
    pure ((), operations)
  else if task.state ≠ .uploadedPrivate ∧ ¬ taskHeldForPromotionUncertainty task (some locked) then
    pure ((), operations)
  else do
    env.elsewhere
    pure ((), operations)

end Phase

structure ScheduleCall where
  videoID : String
  scheduledAt : Time
  (privacy idempotencyKey : String)
deriving DecidableEq, Repr

def PromotionOperationRow.scheduleCall (operation : PromotionOperationRow) : ScheduleCall where
  videoID := operation.platformVideoID
  scheduledAt := operation.scheduledAt
  privacy := operation.targetPrivacy
  idempotencyKey := operation.attemptKey

inductive Event where
  | committed (operations : Operations)
  | scheduled (call : ScheduleCall)

structure System where
  operations : Operations
  journal : List Event

def System.initial : System := ⟨Operations.empty, []⟩

def System.commit (system : System) (operations : Operations) : System :=
  ⟨operations, system.journal ++ [.committed operations]⟩

inductive Request where
  | ctxErr
  | preparePromotion (item : QueueItemRow)
    (evidence : Option OwnedHistoryRedisEvidence)
  | decide (request : PDSDecisionRequest)
  | finalizePromotionDecision (item : QueueItemRow) (decision : PDSDecision)
    (evidence : Option OwnedHistoryRedisEvidence)
    (captured : PromotionPreparation)
  | beginPromotionSubmission (item : QueueItemRow)
    (prepared : PromotionPreparation)
    (evidence : Option OwnedHistoryRedisEvidence) (captured : Phase.Claimed)
  | observeOwnedHistoryRedis (request : OwnedHistoryObservationRequest)
  | lockPromotionOperation (item : QueueItemRow)
    (prepared : PromotionPreparation)
  | confirmPromotionOperation (item : QueueItemRow)
    (prepared : PromotionPreparation) (status : YouTubePublicationStatus)
  | markPromotionOperationUncertain (item : QueueItemRow)
    (prepared : PromotionPreparation)
    (status : Option YouTubePublicationStatus) (reason : Bytes)
  | finalizePromotionOperation (item : QueueItemRow)
    (prepared : PromotionPreparation)
  | holdUncertainPromotionOperation (item : QueueItemRow)
    (prepared : PromotionPreparation) (reason : Bytes)
  | schedulePublish (call : ScheduleCall)
  | publicationStatus (videoID : String)

abbrev Entry (κ : Type) := κ × Except Failure Unit

def promoting : Interface where
  Call := Request
  Reply
    | .ctxErr => Option String
    | .preparePromotion .. => Entry PromotionPreparation
    | .decide _ => Except String PDSDecision
    | .finalizePromotionDecision .. => Entry PromotionPreparation
    | .beginPromotionSubmission .. => Entry Phase.Claimed
    | .observeOwnedHistoryRedis _ => Except (Option String) OwnedHistoryRedisEvidence
    | .lockPromotionOperation .. => Except String PromotionOperationRow
    | .confirmPromotionOperation .. => Except String PromotionOperationRow
    | .markPromotionOperationUncertain .. => Except String PromotionOperationRow
    | .finalizePromotionOperation .. => Except String Unit
    | .holdUncertainPromotionOperation .. => Except String Unit
    | .schedulePublish _ => Except String Unit
    | .publicationStatus _ => Except String YouTubePublicationStatus

/-- `withExecutionTransaction`: an error rolls back, and the commit itself may
fail with or without effect. -/
def transact {α : Type} (env : Env) (system : System)
  (body : Except Failure (α × Operations)) : Except Failure α × System :=
  match env.fence, body, env.commit with
  | .error failure, _, _ => (.error failure, system)
  | .ok (), .error failure, _ => (.error failure, system)
  | .ok (), .ok (result, after), none => (.ok result, system.commit after)
  | .ok (), .ok (_, after), some fault =>
    (.error (.other fault.message), if fault.effective then system.commit after else system)

/-- A phase whose closure assigns to captured variables. -/
def enter {κ : Type} (env : Env) (system : System) (captured : κ)
  (closure : κ × Except Failure Operations) : Entry κ × System :=
  let outcome := transact env system (closure.2.map fun after => ((), after))
  ((match env.fence with
    | .error _ => captured
    | .ok () => closure.1, outcome.1), outcome.2)

def runPhase {α : Type} (env : Env) (system : System)
  (body : Except Failure (α × Operations)) : Except String α × System :=
  let outcome := transact env system body
  (outcome.1.mapError Failure.message, outcome.2)

variable (go : Runtime)

def withLocked (env : Env) (item : QueueItemRow)
  (prepared : PromotionPreparation) (operations : Operations)
  (dispatch : PromotionOperationRow → Except Failure (PromotionOperationRow × Operations)) :
  Except Failure (PromotionOperationRow × Operations) := do
  let (_, _, operation) ←
    Phase.lockPreparedPromotionScope go env item prepared operations
  dispatch operation

def exec (env : Env) : (request : Request) → System → promoting.Reply request × System
  | .ctxErr, system => (env.ctxErr, system)
  | .preparePromotion item evidence, system =>
    let (prepared, failure) := Phase.preparePromotion go env item evidence system.operations
    enter env system PromotionPreparation.zero (prepared, match failure with
      | none => .ok system.operations
      | some failure => .error failure)
  | .decide _, system => (env.decision, system)
  | .finalizePromotionDecision item decision evidence captured, system =>
    enter env system captured (Phase.finalizePromotionDecision go env item
      captured decision evidence system.operations)
  | .beginPromotionSubmission item prepared evidence captured, system =>
    enter env system captured (Phase.beginPromotionSubmission go env item
      prepared evidence captured system.operations)
  | .observeOwnedHistoryRedis _, system => (env.observed, system)
  | .lockPromotionOperation item prepared, system =>
    runPhase env system (withLocked go env item prepared system.operations
      fun operation => pure (operation, system.operations))
  | .confirmPromotionOperation item prepared status, system =>
    runPhase env system (withLocked go env item prepared system.operations
      fun operation => Store.confirmPromotionOperation go env system.operations operation.id status)
  | .markPromotionOperationUncertain item prepared status reason, system =>
    runPhase env system (withLocked go env item prepared system.operations
      fun operation => Store.markPromotionOperationUncertain go env
        system.operations operation.id status reason)
  | .finalizePromotionOperation item prepared, system =>
    runPhase env system (Phase.finalizePromotionOperation go env item prepared system.operations)
  | .holdUncertainPromotionOperation item prepared _, system =>
    runPhase env system (Phase.holdUncertainPromotionOperation go env item
      prepared system.operations)
  | .schedulePublish call, system =>
    (env.scheduled, { system with journal := system.journal ++ [.scheduled call] })
  | .publicationStatus _, system => (env.published, system)

def machine : Machine promoting System Env where
  exec := exec go

end VideoProcess.Promotion
