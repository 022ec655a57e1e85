import VideoProcess.Promotion.Phase

namespace VideoProcess.Promotion

open Data Utf8 GoText Program Fallible ChannelOps

/-! The handler. -/

structure Handler where
  go : Runtime
  hasStore : Bool
  /-- Its store already runs in a transaction. -/
  (fenced hasYouTube hasPDS : Bool)

abbrev Call (α : Type) := Fallible promoting α

abbrev send {α : Type} (request : Request)
  (reply : promoting.Reply request = Except String α) : Call α :=
  Fallible.send (I := promoting) request reply

abbrev ask (request : Request) : Call (promoting.Reply request) :=
  Fallible.ask (I := promoting) request

def checkContext : Call Unit := do
  let failure : Option String ← ask .ctxErr
  match failure with
  | none => pure ()
  | some message => throw message

/-- The evidence of a failed observation names the failure. -/
def observation (request : OwnedHistoryObservationRequest)
  (observed : Except (Option String) OwnedHistoryRedisEvidence) :
  OwnedHistoryRedisEvidence :=
  match observed with
  | .ok evidence => evidence
  | .error reason =>
    ⟨request.digest, request.observedAt, "", reason.getD "owned_history_redis_read_failed"⟩

/-- One entry of the phase; `again` takes over when it asks for an
observation. -/
def entering {κ : Type} (phase : κ → Option OwnedHistoryRedisEvidence → Call (Entry κ))
  (captured : κ) (evidence : Option OwnedHistoryRedisEvidence)
  (again : κ → OwnedHistoryObservationRequest → Call κ) : Call κ := do
  checkContext
  let entry ← phase captured evidence
  match entry.2 with
  | .ok () => pure entry.1
  | .error (.other message) => throw message
  | .error (.observation request) => do
    checkContext
    again entry.1 request

def observing {κ : Type} (phase : κ → Option OwnedHistoryRedisEvidence → Call (Entry κ)) :
  Nat → κ → Option OwnedHistoryRedisEvidence → Call κ
  | 0, captured, evidence =>
    entering phase captured evidence fun _ _ =>
      throw "handler preparation snapshot stale"
  | retries + 1, captured, evidence =>
    entering phase captured evidence fun captured request => do
      let observed ← ask (.observeOwnedHistoryRedis request)
      checkContext
      observing phase retries captured (some (observation request observed))

def withOwnedHistoryObservation {κ : Type}
  (phase : κ → Option OwnedHistoryRedisEvidence → Call (Entry κ))
  (captured : κ) : Call κ := observing phase 2 captured none

def failPolicyDecision (warning : String) : PDSDecision := ⟨"", "block", warning, "block"⟩

def boundedPromotionReason (reason : String) : Bytes := (encode reason.toList).take 1000

def uncertainReason (submitErr : Option String)
  (status : Except String YouTubePublicationStatus) (go : Runtime)
  (target : String) : Bytes :=
  boundedPromotionReason <| "YouTube promotion outcome could not be confirmed" ++
    (match submitErr with
      | none => ""
      | some message => ": schedule request returned " ++ message) ++
    match status with
    | .error message => "; status unavailable: " ++ message
    | .ok status => "; observed privacy \"" ++ go.observedPrivacy
      status.privacy ++ "\" contradicts target \"" ++ target ++ "\""

namespace Handler

variable (handler : Handler)

section

variable (item : QueueItemRow) (prepared : PromotionPreparation)

def beginPromotionSubmission : Call Phase.Claimed :=
  withOwnedHistoryObservation (fun captured evidence =>
    ask (.beginPromotionSubmission item prepared evidence captured)) .zero

def finalizePromotionOperation : Call Unit :=
  send (.finalizePromotionOperation item prepared) rfl

def confirmPromotionOperation (status : YouTubePublicationStatus) : Call Unit := do
  let confirmed ← send (.confirmPromotionOperation item prepared status) rfl
  finalizePromotionOperation item { prepared with operation := some confirmed }

def holdUncertain (status : Except String YouTubePublicationStatus) (reason : Bytes) :
  Call Unit := do
  let uncertain ← send (.markPromotionOperationUncertain item prepared
    status.toOption reason) rfl
  let prepared := { prepared with operation := some uncertain }
  if uncertain.status ∈ [PromotionStatus.confirmed, .finalized] then
    finalizePromotionOperation item prepared
  else do
    let held ← Fallible.result
      (send (.holdUncertainPromotionOperation item prepared reason) rfl)
    let text := "promotion outcome uncertain: " ++
      String.ofList ((decode? reason).getD [])
    match held with
    | .ok () => throw text
    | .error message => throw (text ++ "\n" ++ message)

def matchesTarget (operation : PromotionOperationRow) (status : YouTubePublicationStatus) : Bool :=
  handler.go.observedPrivacy status.privacy = operation.targetPrivacy &&
    !handler.go.isSeverePublicationStatus status.publishStatus

def reconcileObserved (operation : PromotionOperationRow) (submitErr : Option String)
  (status : Except String YouTubePublicationStatus) : Call Unit :=
  match status.toOption.filter (handler.matchesTarget operation) with
  | some status => confirmPromotionOperation item prepared status
  | none =>
    holdUncertain item prepared status
      (uncertainReason submitErr status handler.go operation.targetPrivacy)

def reconcilePromotionOperation (submitErr : Option String) : Call Unit := do
  let operation ← send (.lockPromotionOperation item prepared) rfl
  let prepared := { prepared with operation := some operation }
  if operation.status ∈ [PromotionStatus.confirmed, .finalized] then
    finalizePromotionOperation item prepared
  else do
    let status ← Fallible.result
      (send (.publicationStatus operation.platformVideoID) rfl)
    handler.reconcileObserved item prepared operation submitErr status

def submit (operation : PromotionOperationRow) : Call Unit := do
  let submitted ← Fallible.result
    (send (.schedulePublish operation.scheduleCall) rfl)
  let prepared := { prepared with operation := some operation }
  match submitted with
  | .error message => handler.reconcilePromotionOperation item prepared (some message)
  | .ok () =>
    confirmPromotionOperation item prepared
      ⟨operation.platformVideoID, "scheduled", operation.targetPrivacy⟩

def dispatch (status : PromotionStatus) (claim : Call Unit) : Call Unit :=
  match status with
  | .finalized => pure ()
  | .confirmed => finalizePromotionOperation item prepared
  | .submitting | .uncertain => handler.reconcilePromotionOperation item prepared none
  | .reserved => claim

end

/-- The loop may go round `rounds` times. -/
def executePromotionOperation (item : QueueItemRow) (prepared : PromotionPreparation) :
  Nat → Option PromotionOperationRow → Call Unit
  | _, none => throw "promotion operation conflict: unknown promotion operation state"
  | 0, some operation =>
    handler.dispatch item { prepared with operation := some operation }
      operation.status (throw "still looping")
  | rounds + 1, some operation =>
    let prepared := { prepared with operation := some operation }
    handler.dispatch item prepared operation.status do
      let claimed ← beginPromotionSubmission item prepared
      if claimed.skip then pure ()
      else match claimed.shouldSubmit, claimed.operation with
        | true, some operation => handler.submit item prepared operation
        | _, operation => executePromotionOperation item prepared rounds operation

/-- An owned producer gets a decision in any case. -/
def pdsDecision (owned : Bool) (request : PDSDecisionRequest) : Call PDSDecision :=
  if handler.hasPDS then do
    let answered ← Fallible.result (send (.decide request) rfl)
    require (match answered, owned with
      | .ok decision, _ => .ok decision
      | .error _, true => .ok (failPolicyDecision "pds_unavailable")
      | .error message, false => .error message)
  else require (if owned then .ok (failPolicyDecision "pds_disabled")
    else .error "pds client is not configured")

variable (item : QueueItemRow)

def decidePromotion (prepared : PromotionPreparation) : Call PromotionPreparation :=
  match prepared.decisionRequest with
  | none => pure prepared
  | some request => do
    let decision ← handler.pdsDecision (OwnedProducerAuthority.owned
      ((prepared.scope.map (·.producer)).getD none)) request
    withOwnedHistoryObservation (fun captured evidence =>
      ask (.finalizePromotionDecision item decision evidence captured))
      prepared

def requireExternalPhase : Except String Unit :=
  if !handler.hasStore then .error "channelops handler store is not configured"
  else if handler.fenced then
    .error ("promote_publication cannot call an external client " ++
      "while a database fence is held")
  else if !handler.hasYouTube then .error "youtube client is not configured"
  else .ok ()

def executeDecided (prepared : PromotionPreparation) (rounds : Nat) : Call Unit :=
  if prepared.skip then pure ()
  else
    handler.executePromotionOperation item prepared rounds prepared.operation

def handlePromotePublication (rounds : Nat) : Call Unit := do
  require handler.requireExternalPhase
  let prepared ← withOwnedHistoryObservation (fun _ evidence =>
    ask (.preparePromotion item evidence)) PromotionPreparation.zero
  if prepared.needsDecision && !prepared.skip then do
    let decided ← handler.decidePromotion item prepared
    handler.executeDecided item decided rounds
  else handler.executeDecided item prepared rounds

end Handler

end VideoProcess.Promotion
