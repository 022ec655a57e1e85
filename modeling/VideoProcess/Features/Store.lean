import VideoProcess.Data.Dict

namespace VideoProcess.Features

open Data

/-! The feature aggregator (`windows.py`, `store/memory.py`). Instants are
counted in microseconds. -/

/-- A `datetime`: without an offset its wall clock is taken for UTC. -/
structure Datetime where
  wall : Int
  utcoffset : Option Int
deriving DecidableEq, Repr

def toUtc (value : Datetime) : Int :=
  match value.utcoffset with
  | none => value.wall
  | some offset => value.wall - offset

variable (count : Int)

def minutes : Int := count * 60000000

def hours : Int := minutes (count * 60)

def days : Int := hours (count * 24)

inductive ActionType where
  | candidateAccepted
  | candidateBlocked
  | candidateFlagged
  | postComment
  | publicationPromotionAttempted
  | publicationPromotionBlocked
  | publicationScheduled
deriving DecidableEq, Repr

inductive Verdict where
  | allow
  | flag
  | block
deriving DecidableEq, Repr

structure VPActorActionEvent where
  (eventID actorID : String)
  actionType : ActionType
  occurredAt : Datetime
deriving DecidableEq, Repr

structure PDSDecisionEvent where
  (eventID actorID : String)
  verdict : Verdict
  occurredAt : Datetime
deriving DecidableEq, Repr

inductive Event where
  | vpAction (event : VPActorActionEvent)
  | pdsDecision (event : PDSDecisionEvent)
deriving DecidableEq, Repr

namespace Event

def topicVersion : Event → String
  | vpAction _ => "vp.actor.actions.v1"
  | pdsDecision _ => "pds.decisions.v1"

def eventID : Event → String
  | vpAction event => event.eventID
  | pdsDecision event => event.eventID

def actorID : Event → String
  | vpAction event => event.actorID
  | pdsDecision event => event.actorID

def occurredAt : Event → Datetime
  | vpAction event => event.occurredAt
  | pdsDecision event => event.occurredAt

end Event

structure ActorCounters where
  (publishes blocks flags comments : List Int)
deriving DecidableEq, Repr

def ActorCounters.empty : ActorCounters := ⟨[], [], [], []⟩

def ActorCounters.isEmpty (counters : ActorCounters) : Bool :=
  counters.publishes.isEmpty && counters.blocks.isEmpty &&
    counters.flags.isEmpty && counters.comments.isEmpty

def publishActions : List ActionType := [.candidateAccepted, .publicationScheduled]

def commentActions : List ActionType := [.postComment]

def countSince (values : List Int) (since : Int) : Nat := values.countP fun value => since ≤ value

def prune (values : List Int) (since : Int) : List Int := values.filter fun value => since ≤ value

def ActorCounters.prune (counters : ActorCounters) (now : Int) : ActorCounters where
  publishes := Features.prune counters.publishes (now - hours 24)
  blocks := Features.prune counters.blocks (now - hours 24)
  flags := Features.prune counters.flags (now - days 7)
  comments := Features.prune counters.comments (now - minutes 1)

abbrev Actors := Dict String ActorCounters

section

variable (now : Int) (actors : Actors) (actor : String)

def pruneActor (counters : ActorCounters) : Actors :=
  let pruned := counters.prune now
  if pruned.isEmpty then actors.erase actor else actors.set actor pruned

def pruneAll : Actors :=
  actors.entries.foldl (fun actors entry => pruneActor now actors entry.1 entry.2) actors

def record (append : ActorCounters → ActorCounters) : Actors :=
  pruneActor now actors actor (append (actors.getD actor .empty))

def applyVPAction (event : VPActorActionEvent) (actors : Actors) : Actors :=
  pruneAll now <| if event.actionType ∈ publishActions then
    record now actors event.actorID fun counters =>
      { counters with
        publishes := counters.publishes ++ [toUtc event.occurredAt] }
    else if event.actionType ∈ commentActions then
      record now actors event.actorID fun counters =>
        { counters with
          comments := counters.comments ++ [toUtc event.occurredAt] }
    else actors

def applyPDSDecision (event : PDSDecisionEvent) (actors : Actors) : Actors :=
  pruneAll now <| match event.verdict with
    | .block =>
      record now actors event.actorID fun counters =>
        { counters with
          blocks := counters.blocks ++ [toUtc event.occurredAt] }
    | .flag =>
      record now actors event.actorID fun counters =>
        { counters with
          flags := counters.flags ++ [toUtc event.occurredAt] }
    | .allow => actors

structure FeatureResponse where
  actorID : String
  (publishes5m publishes1h publishes24h blocks24h flags7d commentBurst1m : Nat)
  asOf : Int
  fromCache : Bool
deriving DecidableEq, Repr

def featuresFor : FeatureResponse :=
  let counters := actors.getD actor .empty
  { actorID := actor
    publishes5m := countSince counters.publishes (now - minutes 5)
    publishes1h := countSince counters.publishes (now - hours 1)
    publishes24h := countSince counters.publishes (now - hours 24)
    blocks24h := countSince counters.blocks (now - hours 24)
    flags7d := countSince counters.flags (now - days 7)
    commentBurst1m := countSince counters.comments (now - minutes 1)
    asOf := now
    fromCache := false }

end

structure MemoryFeatureStore where
  seenEventIDs : Dict String Int
  actors : Actors

def MemoryFeatureStore.empty : MemoryFeatureStore := ⟨.empty, .empty⟩

def dedupeKey (topicVersion eventID : String) : String := topicVersion ++ ":" ++ eventID

def Event.key (event : Event) : String := dedupeKey event.topicVersion event.eventID

/-- A delivery with the readings of the clock in the course of it: by
`_is_duplicate`, for the mark in `seen_event_ids` and by the aggregator. -/
structure Delivery where
  event : Event
  (checked marked applied : Int)
deriving DecidableEq, Repr

section

variable (dedupeTTL : Int)

def pruneSeen (now : Int) (seen : Dict String Int) : Dict String Int :=
  seen.filter fun _ seenAt => now - dedupeTTL ≤ seenAt

/-- `apply_vp_action` and `apply_pds_decision` of the store, with whether the
event was applied. -/
def accept (key : String) (apply : Actors → Actors) (checked marked : Int)
  (store : MemoryFeatureStore) : Bool × MemoryFeatureStore :=
  let seen := pruneSeen dedupeTTL checked store.seenEventIDs
  if key ∈ seen.keys then (false, { store with seenEventIDs := seen })
  else (true, {
    seenEventIDs := seen.set key marked
    actors := apply store.actors })

def deliver (store : MemoryFeatureStore) (delivery : Delivery) : MemoryFeatureStore :=
  match delivery.event with
  | .vpAction event =>
    (accept dedupeTTL delivery.event.key (applyVPAction delivery.applied event) delivery.checked
      delivery.marked store).2
  | .pdsDecision event =>
    (accept dedupeTTL delivery.event.key (applyPDSDecision delivery.applied event) delivery.checked
      delivery.marked store).2

def run (deliveries : List Delivery) : MemoryFeatureStore :=
  deliveries.foldl (deliver dedupeTTL) .empty

end

end VideoProcess.Features
