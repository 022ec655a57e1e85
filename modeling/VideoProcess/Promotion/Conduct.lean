import VideoProcess.Promotion.Laws

namespace VideoProcess.Promotion

open Data Program Fallible ChannelOps

/-! How an attempt conducts itself, whatever is noted about it. -/

def Request.Quiet : Request → Prop
  | .decide _ | .finalizePromotionDecision .. | .beginPromotionSubmission ..
  | .schedulePublish _ => False
  | _ => True

/-- A protocol under which a submission that has begun permits its call. -/
structure Submits {ν : Type} (protocol : Contract promoting ν) : Prop where
  quiet : ∀ note request, request.Quiet → protocol.requires note request
  keeps : ∀ note request reply after, request.Quiet →
    protocol.ensures note request reply after → after = note
  begin : ∀ note item prepared evidence captured,
    captured.shouldSubmit = false → protocol.requires note
      (.beginPromotionSubmission item prepared evidence captured)
  observed : ∀ note item prepared evidence captured claimed request after, protocol.ensures note
    (.beginPromotionSubmission item prepared evidence captured)
    (claimed, .error (.observation request)) after →
    claimed.shouldSubmit = false
  claimed : ∀ note item prepared evidence captured claimed operation after, protocol.ensures note
    (.beginPromotionSubmission item prepared evidence captured)
    (claimed, .ok ()) after →
    claimed.shouldSubmit = true → claimed.operation = some operation →
    protocol.requires after (.schedulePublish operation.scheduleCall)

abbrev conducts {ν α : Type} (protocol : Contract promoting ν)
  (program : Call α) (note : ν) (post : α → ν → Prop) : Prop :=
  safe protocol program post (fun _ => True) note

section

variable {ν α κ : Type} {protocol : Contract promoting ν}
  (submits : Submits protocol) {note : ν} (handler : Handler)
  {item : QueueItemRow} {prepared : PromotionPreparation} {request : Request} {post : α → ν → Prop}
  {status : Except String YouTubePublicationStatus}
  {operation : PromotionOperationRow}

theorem conducts_ask {post : promoting.Reply request → ν → Prop}
  (allowed : protocol.requires note request)
  (holds : ∀ reply after, protocol.ensures note request reply after → post reply after) :
  conducts protocol (ask request) note post := ⟨allowed, holds⟩

variable {reply : promoting.Reply request = Except String α}

theorem conducts_send (allowed : protocol.requires note request)
  (holds : ∀ answer after result, protocol.ensures note request answer after →
    cast reply answer = .ok result → post result after) :
  conducts protocol (send request reply) note post := by
  refine ⟨allowed, ?_⟩
  intro answer after ensured
  change Outcome post _ (cast reply answer) _
  cases outcome : cast reply answer with
  | error => trivial
  | ok result => exact holds answer after result ensured outcome

theorem conducts_result {post : Except String α → ν → Prop}
  (holds : conducts protocol program note fun _ _ => True)
  (sequel : ∀ result after, post result after) :
  conducts protocol program.result note post := by
  apply safe_result
  apply safe_mono holds
  · exact fun result after _ => sequel (.ok result) after
  · exact fun after _ message => sequel (.error message) after

theorem conducts_require (holds : ∀ result, outcome = .ok result → post result note) :
  conducts protocol (require outcome) note post := by
  cases outcome with
  | error => trivial
  | ok result => exact holds result rfl

include submits

theorem conducts_quiet (quiet : request.Quiet) (holds : ∀ result, post result note) :
  conducts protocol (send request reply) note post := by
  apply conducts_send (submits.quiet note request quiet)
  intro answer after result ensured _
  rw [submits.keeps note request answer after quiet ensured]
  exact holds result

theorem conducts_checkContext {post : Unit → ν → Prop}
  (holds : post () note) : conducts protocol checkContext note post := by
  apply safe_bind
  apply conducts_ask (submits.quiet note .ctxErr trivial)
  intro failure after ensured
  rw [submits.keeps note .ctxErr failure after trivial ensured]
  cases failure with
  | none => exact safe_pure holds
  | some => exact safe_throw trivial

section

variable {phase : κ → Option OwnedHistoryRedisEvidence → Call (Entry κ)}
  {valid : κ → ν → Prop} {post : κ → ν → Prop}

omit submits in
/-- A phase that is entered with valid captured variables leaves valid ones
when it asks for an observation. -/
def Reenters (protocol : Contract promoting ν)
  (phase : κ → Option OwnedHistoryRedisEvidence → Call (Entry κ))
  (valid : κ → ν → Prop) (post : κ → ν → Prop) : Prop :=
  ∀ captured evidence note, valid captured note →
    conducts protocol (phase captured evidence) note fun entry after =>
      (entry.2 = .ok () → post entry.1 after) ∧ ∀ request, entry.2 = .error (.observation request) →
        valid entry.1 after

theorem conducts_entering (reenters : Reenters protocol phase valid post)
  (fresh : valid captured note)
  (sequel : ∀ left request after, valid left after →
    conducts protocol (again left request) after post) :
  conducts protocol (entering phase captured evidence again) note post := by
  apply safe_bind
  apply conducts_checkContext submits
  apply safe_bind
  apply safe_mono (reenters captured evidence note fresh) _ fun _ failed => failed
  rintro ⟨left, outcome⟩ after ⟨ended, observed⟩
  rcases outcome with (request | message) | _
  · apply safe_bind
    apply conducts_checkContext submits
    exact sequel left request after (observed request rfl)
  · exact safe_throw trivial
  · exact safe_pure (ended rfl)

theorem conducts_observing (reenters : Reenters protocol phase valid post)
  (retries : Nat) (fresh : valid captured note)
  (evidence : Option OwnedHistoryRedisEvidence) :
  conducts protocol (observing phase retries captured evidence) note post := by
  induction retries generalizing captured evidence note with
  | zero =>
    apply conducts_entering submits reenters fresh
    exact fun left request after _ => safe_throw trivial
  | succ _ ih =>
    apply conducts_entering submits reenters fresh
    intro left request middle still
    apply safe_bind
    apply conducts_ask (submits.quiet middle (.observeOwnedHistoryRedis request) trivial)
    intro observed after ensured
    rw [submits.keeps middle (.observeOwnedHistoryRedis request) observed after trivial ensured]
    apply safe_bind
    apply conducts_checkContext submits
    exact ih still _

theorem conducts_withObservation (valid : κ → ν → Prop)
  (reenters : Reenters protocol phase valid post)
  (fresh : valid captured note) :
  conducts protocol (withOwnedHistoryObservation phase captured) note post :=
  conducts_observing submits reenters 2 fresh none

end

theorem conducts_begin : conducts protocol (Handler.beginPromotionSubmission item prepared) note
  fun claimed after => claimed.shouldSubmit = true →
    ∀ operation, claimed.operation = some operation → protocol.requires after
      (.schedulePublish operation.scheduleCall) := by
  refine conducts_withObservation submits (fun captured (_ : ν) =>
    captured.shouldSubmit = false) ?_ rfl
  intro captured evidence before fresh
  apply conducts_ask (submits.begin before item prepared evidence captured fresh)
  rintro ⟨claimed, outcome⟩ after ensured
  constructor
  · rintro rfl shouldSubmit operation taken
    exact submits.claimed before item prepared evidence captured claimed
      operation after ensured shouldSubmit taken
  · rintro request rfl
    exact submits.observed before item prepared evidence captured claimed request after ensured

theorem conducts_finalize :
  conducts protocol (Handler.finalizePromotionOperation item prepared) note fun _ _ => True :=
  conducts_quiet submits (by trivial) fun _ => trivial

theorem conducts_confirm {status : YouTubePublicationStatus} :
  conducts protocol (Handler.confirmPromotionOperation item prepared status)
    note fun _ _ => True := by
  apply safe_bind
  refine conducts_quiet submits (by trivial) ?_
  exact fun _ => conducts_finalize submits

theorem conducts_holdUncertain :
  conducts protocol (Handler.holdUncertain item prepared status reason) note fun _ _ => True := by
  apply safe_bind
  refine conducts_quiet submits (by trivial) ?_
  intro uncertain
  apply safe_ite
  · exact fun _ => conducts_finalize submits
  · intro _
    apply safe_bind
    apply conducts_result (conducts_quiet submits (by trivial) fun _ => trivial)
    intro held after
    cases held with
    | ok | error => exact safe_throw trivial

theorem conducts_reconcileObserved :
  conducts protocol (handler.reconcileObserved item prepared operation
    submitErr status) note fun _ _ => True := by
  unfold Handler.reconcileObserved
  split
  · exact conducts_confirm submits
  · exact conducts_holdUncertain submits

theorem conducts_reconcile : conducts protocol (handler.reconcilePromotionOperation item prepared
  submitErr) note fun _ _ => True := by
  apply safe_bind
  refine conducts_quiet submits (by trivial) ?_
  intro operation
  apply safe_ite
  · exact fun _ => conducts_finalize submits
  · intro _
    apply safe_bind
    apply conducts_result (conducts_quiet submits (by trivial) fun _ => trivial)
    exact fun _ _ => conducts_reconcileObserved submits handler

theorem conducts_submit (owed : protocol.requires note (.schedulePublish operation.scheduleCall)) :
  conducts protocol (handler.submit item prepared operation) note fun _ _ => True := by
  apply safe_bind
  apply conducts_result
  · exact conducts_send owed fun _ _ _ _ _ => trivial
  · intro submitted after
    cases submitted with
    | error => exact conducts_reconcile submits handler
    | ok => exact conducts_confirm submits

theorem conducts_dispatch {status : PromotionStatus}
  (claims : conducts protocol claim note fun _ _ => True) :
  conducts protocol (handler.dispatch item prepared status claim) note fun _ _ => True := by
  cases status with
  | reserved => exact claims
  | submitting | uncertain => exact conducts_reconcile submits handler
  | confirmed => exact conducts_finalize submits
  | finalized => exact safe_pure trivial

variable (rounds : Nat)

theorem conducts_execute (operation : Option PromotionOperationRow) :
  conducts protocol (handler.executePromotionOperation item prepared rounds
    operation) note fun _ _ => True := by
  induction rounds generalizing note prepared operation with
  | zero =>
    cases operation with
    | none => exact safe_throw trivial
    | some => exact conducts_dispatch submits handler (safe_throw trivial)
  | succ _ ih =>
    cases operation with
    | none => exact safe_throw trivial
    | some =>
      apply conducts_dispatch submits
      apply safe_bind
      apply safe_mono (conducts_begin submits) _ fun _ failed => failed
      rintro ⟨row, shouldSubmit, skip⟩ after owed
      apply safe_ite
      · exact fun _ => safe_pure trivial
      · intro _
        match shouldSubmit, row with
        | true, some row => exact conducts_submit submits handler (owed rfl row rfl)
        | true, none => exact ih none
        | false, row => exact ih row

theorem conducts_executeDecided :
  conducts protocol (handler.executeDecided item prepared rounds) note fun _ _ => True := by
  unfold Handler.executeDecided
  cases prepared.skip with
  | true => exact safe_pure trivial
  | false => exact conducts_execute submits handler rounds prepared.operation

theorem conducts_handle (decides : ∀ note evidence prepared after, protocol.ensures note
    (.preparePromotion item evidence) (prepared, .ok ()) after →
    conducts protocol (handler.decidePromotion item prepared) after fun _ _ => True) :
  conducts protocol (handler.handlePromotePublication item rounds) note fun _ _ => True := by
  apply safe_bind
  apply conducts_require
  intro _ _
  apply safe_bind
  refine conducts_withObservation submits (fun _ _ => True) ?_ trivial
  intro captured evidence before _
  refine conducts_ask (submits.quiet _ _ trivial) ?_
  rintro ⟨prepared, _⟩ after ensured
  refine ⟨?_, fun _ _ => trivial⟩
  rintro rfl
  have executes (decided : PromotionPreparation) (after : ν) :=
    @conducts_executeDecided _ _ submits after handler item decided rounds
  apply safe_ite
  · intro _
    apply safe_bind
    apply safe_mono (decides _ evidence prepared after ensured) _ fun _ failed => failed
    exact fun decided after _ => executes decided after
  · exact fun _ => executes prepared after

end

end VideoProcess.Promotion
