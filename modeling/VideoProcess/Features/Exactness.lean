import VideoProcess.Features.Store
import Mathlib.Data.Finset.Card

namespace VideoProcess.Features

open Data

/-! What the windows count. -/

inductive Kind where
  | publish
  | block
  | flag
  | comment
deriving DecidableEq, Repr

section

variable (counters : ActorCounters)

def ActorCounters.values : Kind → List Int
  | .publish => counters.publishes
  | .block => counters.blocks
  | .flag => counters.flags
  | .comment => counters.comments

def Kind.retention : Kind → Int
  | publish => hours 24
  | block => hours 24
  | flag => days 7
  | comment => minutes 1

def Event.kind? : Event → Option Kind
  | vpAction event =>
    if event.actionType ∈ publishActions then some .publish
    else if event.actionType ∈ commentActions then some .comment
    else none
  | pdsDecision event =>
    match event.verdict with
    | .block => some .block
    | .flag => some .flag
    | .allow => none

variable (now : Int)

theorem values_prune (kind : Kind) :
  (counters.prune now).values kind = prune (counters.values kind) (now - kind.retention) := by
  cases kind <;> rfl

theorem eq_empty_of_isEmpty {counters : ActorCounters}
  (empty : counters.isEmpty = true) : counters = .empty := by
  simp only [ActorCounters.isEmpty, Bool.and_eq_true, List.isEmpty_iff] at empty
  obtain ⟨⟨⟨_, _⟩, _⟩, _⟩ := empty
  cases counters
  simp_all [ActorCounters.empty]

theorem getD_pruneActor (actors : Actors) (actor wanted : String) (counters : ActorCounters) :
  (pruneActor now actors actor counters).getD wanted .empty =
    if actor = wanted then counters.prune now
    else actors.getD wanted .empty := by
  unfold pruneActor
  dsimp only
  split
  next empty =>
    rw [Dict.getD, Dict.get?_erase, eq_empty_of_isEmpty empty]
    split <;> rfl
  · rw [Dict.getD_set]

private theorem getD_foldl_pruneActor (wanted : String)
  (entries : List (String × ActorCounters)) (actors : Actors)
  (distinct : (entries.map Prod.fst).Nodup) :
  (entries.foldl (fun actors entry => pruneActor now actors entry.1 entry.2)
    actors).getD wanted .empty =
    ((entries.find? fun entry => entry.1 = wanted).map
      fun entry => entry.2.prune now).getD (actors.getD wanted .empty) := by
  induction entries generalizing actors with
  | nil => rfl
  | cons entry rest ih =>
    obtain ⟨absent, distinct⟩ := List.nodup_cons.1 distinct
    rw [List.foldl_cons, ih _ distinct, getD_pruneActor]
    by_cases same : entry.1 = wanted
    · -- The rest of the actors do not touch this one again.
      have none : (rest.find? fun entry => entry.1 = wanted) = none := by
        rw [List.find?_eq_none]
        intro other member equal
        apply absent
        rw [same, ← of_decide_eq_true equal]
        exact List.mem_map_of_mem member
      simp [none, same]
    · simp [same]

theorem getD_pruneAll (actors : Actors) (wanted : String) :
  (pruneAll now actors).getD wanted .empty = (actors.getD wanted .empty).prune now := by
  unfold pruneAll
  rw [getD_foldl_pruneActor now wanted _ _ actors.nodup]
  unfold Dict.getD Dict.get?
  cases actors.entries.find? fun entry => entry.1 = wanted with
  | none | some => rfl

theorem prune_prune (values : List Int) (since : Int) :
  prune (prune values since) since = prune values since := by
  simp [prune]

def ActorCounters.push (time : Int) : Kind → ActorCounters
  | .publish => { counters with publishes := counters.publishes ++ [time] }
  | .block => { counters with blocks := counters.blocks ++ [time] }
  | .flag => { counters with flags := counters.flags ++ [time] }
  | .comment => { counters with comments := counters.comments ++ [time] }

theorem values_push (time : Int) (kind wanted : Kind) : (counters.push time kind).values wanted =
    counters.values wanted ++ if kind = wanted then [time] else [] := by
  cases kind <;> cases wanted <;>
    simp [ActorCounters.push, ActorCounters.values]

end

def Event.apply (event : Event) (now : Int) (actors : Actors) : Actors :=
  match event with
  | .vpAction event => applyVPAction now event actors
  | .pdsDecision event => applyPDSDecision now event actors

variable {event : Event}

theorem apply_eq_of_kind (counted : event.kind? = some kind) (now : Int) (actors : Actors) :
  event.apply now actors = pruneAll now (record now actors event.actorID
    fun counters => counters.push (toUtc event.occurredAt) kind) := by
  cases event with
  | vpAction =>
    simp only [Event.kind?] at counted
    simp only [Event.apply, applyVPAction, Event.actorID, Event.occurredAt]
    split at counted
    next publish =>
      cases counted
      rw [if_pos publish]
      rfl
    next other =>
      split at counted
      next comment =>
        cases counted
        rw [if_neg other, if_pos comment]
        rfl
      · cases counted
  | pdsDecision event =>
    obtain ⟨_, _, verdict, _⟩ := event
    cases verdict <;> cases counted <;> rfl

theorem apply_eq_of_no_kind (other : event.kind? = none) (now : Int) (actors : Actors) :
  event.apply now actors = pruneAll now actors := by
  cases event with
  | vpAction =>
    simp only [Event.kind?] at other
    split at other
    · cases other
    next publish =>
      split at other
      · cases other
      next comment => simp only [Event.apply, applyVPAction, if_neg publish, if_neg comment]
  | pdsDecision event =>
    obtain ⟨_, _, verdict, _⟩ := event
    cases verdict <;> cases other
    rfl

/-- An event adds its time under its actor and kind; everything out of the
longest window is dropped. -/
theorem values_apply (event : Event) (now : Int) (actors : Actors) (actor : String) (kind : Kind) :
  ((event.apply now actors).getD actor .empty).values kind =
    prune ((actors.getD actor .empty).values kind ++
      if event.actorID = actor ∧ event.kind? = some kind then
        [toUtc event.occurredAt] else [])
      (now - kind.retention) := by
  cases counted : event.kind? with
  | none =>
    rw [apply_eq_of_no_kind counted, getD_pruneAll, values_prune]
    simp
  | some =>
    rw [apply_eq_of_kind counted, getD_pruneAll, record, getD_pruneActor, values_prune]
    by_cases same : event.actorID = actor
    · rw [if_pos same, values_prune, prune_prune, values_push, same]
      simp
    · simp [same]

/-- Pruning is out of sight of the windows that a later reading can ask for. -/
theorem countSince_prune (values : List Int) (later : cutoff ≤ since) :
  countSince (prune values cutoff) since = countSince values since := by
  unfold countSince prune
  rw [List.countP_filter]
  apply List.countP_congr
  intro value _
  simp only [Bool.and_eq_true, decide_eq_true_eq, and_iff_left_iff_imp]
  exact fun counted => later.trans counted

/-- No topic version has a colon, so that the key tells topic and id apart. -/
theorem key_injective {left right : Event} (same : left.key = right.key) :
  left.topicVersion = right.topicVersion ∧ left.eventID = right.eventID := by
  have texts := congrArg String.toList same
  simp only [Event.key, dedupeKey, String.toList_append] at texts
  cases left with
  | vpAction =>
    cases right with
    | vpAction => exact ⟨rfl, String.toList_inj.1 (List.append_cancel_left texts)⟩
    | pdsDecision => simp [Event.topicVersion] at texts
  | pdsDecision =>
    cases right with
    | vpAction => simp [Event.topicVersion] at texts
    | pdsDecision => exact ⟨rfl, String.toList_inj.1 (List.append_cancel_left texts)⟩

/-- Deliveries at least once: under a clock that never goes back, up to `now`,
no event is from the future, and whatever is delivered again is the same event
and comes while its mark is kept. -/
structure AtLeastOnce (dedupeTTL : Int) (deliveries : List Delivery) (now : Int) : Prop where
  clock : (deliveries.flatMap (fun delivery =>
    [delivery.checked, delivery.marked, delivery.applied]) ++ [now]).Pairwise (· ≤ ·)
  past : ∀ delivery ∈ deliveries, toUtc delivery.event.occurredAt ≤ delivery.applied
  duplicates : deliveries.Pairwise fun earlier later =>
    earlier.event.topicVersion = later.event.topicVersion →
    earlier.event.eventID = later.event.eventID →
    later.event = earlier.event ∧ later.checked ≤ earlier.marked + dedupeTTL

def inWindow (actor : String) (kind : Kind) (since : Int) (event : Event) : Bool :=
  event.actorID = actor ∧ event.kind? = some kind ∧ since ≤ toUtc event.occurredAt

def distinctIDs (deliveries : List Delivery) (matching : Event → Bool) : Finset String :=
  ((deliveries.filter fun delivery => matching delivery.event).map
    fun delivery => delivery.event.eventID).toFinset

variable {deliveries : List Delivery}

theorem mem_distinctIDs {id : String} : id ∈ distinctIDs deliveries matching ↔
  ∃ delivery ∈ deliveries, matching delivery.event = true ∧ delivery.event.eventID = id := by
  simp [distinctIDs, and_assoc]

/-- The store after some deliveries, as any reading from `reading` on finds
it. -/
structure Exact (dedupeTTL : Int) (deliveries : List Delivery)
  (store : MemoryFeatureStore) (reading : Int) : Prop where
  known : ∀ key ∈ store.seenEventIDs.keys, ∃ delivery ∈ deliveries, delivery.event.key = key
  kept : ∀ delivery ∈ deliveries, ∀ time, reading ≤ time →
    (∀ other ∈ deliveries, other.event.key = delivery.event.key → time ≤ other.marked + dedupeTTL) →
    ∃ seenAt, store.seenEventIDs.get? delivery.event.key = some seenAt ∧ time ≤ seenAt + dedupeTTL
  counted : ∀ actor kind since, reading - kind.retention ≤ since →
    countSince ((store.actors.getD actor .empty).values kind) since =
      (distinctIDs deliveries (inWindow actor kind since)).card

def Kind.topicVersion : Kind → String
  | publish | comment => "vp.actor.actions.v1"
  | block | flag => "pds.decisions.v1"

theorem topicVersion_of_kind (counted : event.kind? = some kind) :
  event.topicVersion = kind.topicVersion := by
  cases event with
  | vpAction =>
    simp only [Event.kind?] at counted
    split at counted
    · cases counted
      rfl
    · split at counted
      · cases counted
        rfl
      · cases counted
  | pdsDecision event =>
    obtain ⟨_, _, verdict, _⟩ := event
    cases verdict <;> cases counted <;> rfl

section

variable {dedupeTTL : Int} {deliveries : List Delivery} {store : MemoryFeatureStore}
  {delivery : Delivery}

theorem exact_empty : Exact dedupeTTL [] .empty reading where
  known := by simp [MemoryFeatureStore.empty, Dict.empty, Dict.keys]
  kept := by simp
  counted := by
    intro actor kind since _
    cases kind <;> rfl

theorem Exact.mono (exact : Exact dedupeTTL deliveries store reading) (passed : reading ≤ later) :
  Exact dedupeTTL deliveries store later where
  known := exact.known
  kept delivery member time after :=
    exact.kept delivery member time (passed.trans after)
  counted actor kind since within :=
    exact.counted actor kind since (by omega)

theorem deliver_eq (store : MemoryFeatureStore) (delivery : Delivery) :
  deliver dedupeTTL store delivery = (accept dedupeTTL delivery.event.key
    (delivery.event.apply delivery.applied) delivery.checked
    delivery.marked store).2 := by
  unfold deliver
  cases delivery.event <;> rfl

theorem mem_keys_iff {dict : Dict String Int} :
  key ∈ dict.keys ↔ ∃ value, dict.get? key = some value := by
  rw [← not_iff_not, ← Dict.get?_eq_none_iff, Option.eq_none_iff_forall_ne_some]
  simp

theorem get?_pruneSeen : (pruneSeen dedupeTTL now seen).get? key = some seenAt ↔
  seen.get? key = some seenAt ∧ now - dedupeTTL ≤ seenAt := by
  rw [pruneSeen, Dict.get?_filter_eq_some_iff, decide_eq_true_eq]

variable {earlier : Delivery}

section

variable (exact : Exact dedupeTTL deliveries store delivery.checked)

include exact

theorem Exact.kept_pruneSeen (member : earlier ∈ deliveries) (later : delivery.checked ≤ time)
  (fresh : ∀ other ∈ deliveries, other.event.key = earlier.event.key →
    time ≤ other.marked + dedupeTTL) :
  ∃ seenAt, (pruneSeen dedupeTTL delivery.checked store.seenEventIDs).get?
    earlier.event.key = some seenAt ∧ time ≤ seenAt + dedupeTTL := by
  obtain ⟨seenAt, found, still⟩ := exact.kept earlier member time later fresh
  exact ⟨seenAt, get?_pruneSeen.2 ⟨found, by omega⟩, still⟩

theorem Exact.known_pruneSeen
  (seen : key ∈ (pruneSeen dedupeTTL delivery.checked store.seenEventIDs).keys) :
  ∃ earlier ∈ deliveries, earlier.event.key = key := by
  obtain ⟨seenAt, found⟩ := mem_keys_iff.1 seen
  exact exact.known key (mem_keys_iff.2 ⟨seenAt, (get?_pruneSeen.1 found).1⟩)

end

theorem distinctIDs_again (member : earlier ∈ deliveries)
  (same : delivery.event = earlier.event) (matching : Event → Bool) :
  distinctIDs (deliveries ++ [delivery]) matching = distinctIDs deliveries matching := by
  ext id
  simp only [mem_distinctIDs, List.mem_append, List.mem_singleton]
  constructor
  · rintro ⟨other, held | rfl, rest⟩
    · exact ⟨other, held, rest⟩
    · exact ⟨earlier, member, same ▸ rest⟩
  · rintro ⟨other, held, rest⟩
    exact ⟨other, .inl held, rest⟩

theorem Exact.deliver_duplicate (exact : Exact dedupeTTL deliveries store delivery.checked)
  (ordered : delivery.checked ≤ delivery.applied)
  (member : earlier ∈ deliveries) (same : delivery.event = earlier.event) :
  Exact dedupeTTL (deliveries ++ [delivery]) { store with
    seenEventIDs := pruneSeen dedupeTTL delivery.checked store.seenEventIDs }
    delivery.applied where
  known key seen := by
    obtain ⟨other, held, named⟩ := exact.known_pruneSeen seen
    exact ⟨other, List.mem_append_left _ held, named⟩
  kept other held time later fresh := by
    -- The delivery itself is marked where the earlier one is.
    obtain ⟨first, firstHeld, sameKey⟩ :
      ∃ first ∈ deliveries, first.event.key = other.event.key := by
      obtain held | held := List.mem_append.1 held
      · exact ⟨other, held, rfl⟩
      · rw [List.mem_singleton.1 held, same]
        exact ⟨earlier, member, rfl⟩
    rw [← sameKey]
    apply exact.kept_pruneSeen firstHeld (ordered.trans later)
    intro another held named
    exact fresh another (List.mem_append_left _ held) (named.trans sameKey)
  counted actor kind since within := by
    rw [distinctIDs_again member same]
    exact exact.counted actor kind since (by omega)

theorem distinctIDs_new (new : ∀ earlier ∈ deliveries, earlier.event.key ≠ delivery.event.key)
  (actor : String) (kind : Kind) (since : Int) :
  (distinctIDs (deliveries ++ [delivery]) (inWindow actor kind since)).card =
    (distinctIDs deliveries (inWindow actor kind since)).card +
      if inWindow actor kind since delivery.event then 1 else 0 := by
  have split : distinctIDs (deliveries ++ [delivery]) (inWindow actor kind since) =
    distinctIDs deliveries (inWindow actor kind since) ∪
      if inWindow actor kind since delivery.event then
        {delivery.event.eventID} else ∅ := by
    unfold distinctIDs
    rw [List.filter_append, List.map_append, List.toFinset_append]
    congr 1
    by_cases counted : inWindow actor kind since delivery.event <;>
      simp [counted]
  rw [split]
  split
  next counted =>
    rw [Finset.card_union_of_disjoint, Finset.card_singleton]
    rw [Finset.disjoint_singleton_right, mem_distinctIDs]
    rintro ⟨earlier, member, matching, sameID⟩
    apply new earlier member
    simp only [inWindow, decide_eq_true_eq] at counted matching
    rw [Event.key, Event.key, topicVersion_of_kind matching.2.1,
      topicVersion_of_kind counted.2.1, sameID]
  · rw [Finset.union_empty, Nat.add_zero]

section

variable (exact : Exact dedupeTTL deliveries store delivery.checked)
  (ordered : delivery.checked ≤ delivery.applied)

include exact ordered

theorem Exact.deliver_new (new : ∀ earlier ∈ deliveries, earlier.event.key ≠ delivery.event.key) :
  Exact dedupeTTL (deliveries ++ [delivery]) {
    seenEventIDs := (pruneSeen dedupeTTL delivery.checked
      store.seenEventIDs).set delivery.event.key delivery.marked
    actors := delivery.event.apply delivery.applied store.actors }
    delivery.applied where
  known key seen := by
    obtain ⟨seenAt, found⟩ := mem_keys_iff.1 seen
    rw [Dict.get?_set] at found
    split at found
    next own => exact ⟨delivery, List.mem_append_right _ (List.mem_singleton.2 rfl), own⟩
    · obtain ⟨other, held, named⟩ := exact.known_pruneSeen (mem_keys_iff.2 ⟨seenAt, found⟩)
      exact ⟨other, List.mem_append_left _ held, named⟩
  kept other held time later fresh := by
    rw [Dict.get?_set]
    obtain held | held := List.mem_append.1 held
    · rw [if_neg (Ne.symm (new other held))]
      apply exact.kept_pruneSeen held (ordered.trans later)
      intro another anotherHeld
      exact fresh another (List.mem_append_left _ anotherHeld)
    · obtain rfl := List.mem_singleton.1 held
      rw [if_pos rfl]
      exact ⟨other.marked, rfl, fresh other
        (List.mem_append_right _ (List.mem_singleton.2 rfl)) rfl⟩
  counted actor kind since within := by
    rw [values_apply, countSince_prune _ within, countSince,
      List.countP_append, distinctIDs_new new]
    congr 1
    · exact exact.counted actor kind since (by omega)
    · by_cases counted : delivery.event.actorID = actor ∧ delivery.event.kind? = some kind
      · by_cases recent : since ≤ toUtc delivery.event.occurredAt <;>
          simp [inWindow, counted, recent]
      · rw [if_neg counted]
        simp only [inWindow, ← and_assoc, counted, false_and]
        rfl

theorem Exact.deliver (duplicates : ∀ earlier ∈ deliveries,
  earlier.event.topicVersion = delivery.event.topicVersion →
  earlier.event.eventID = delivery.event.eventID →
  delivery.event = earlier.event ∧ delivery.checked ≤ earlier.marked + dedupeTTL) :
  Exact dedupeTTL (deliveries ++ [delivery])
    (deliver dedupeTTL store delivery) delivery.applied := by
  rw [deliver_eq, accept]
  split
  next seen =>
    obtain ⟨earlier, member, sameKey⟩ := exact.known_pruneSeen seen
    obtain ⟨sameTopic, sameID⟩ := key_injective sameKey
    exact exact.deliver_duplicate ordered member (duplicates earlier member sameTopic sameID).1
  next unseen =>
    apply exact.deliver_new ordered
    -- A delivery of the same event would still be marked.
    intro earlier member sameKey
    apply unseen
    obtain ⟨seenAt, found, -⟩ := exact.kept_pruneSeen member
      (le_refl delivery.checked) fun other held named =>
        have same := key_injective (named.trans sameKey)
        (duplicates other held same.1 same.2).2
    rw [← sameKey]
    exact mem_keys_iff.2 ⟨seenAt, found⟩

end

theorem AtLeastOnce.exact (assumed : AtLeastOnce dedupeTTL deliveries now) :
  Exact dedupeTTL deliveries (run dedupeTTL deliveries) now := by
  induction deliveries using List.reverseRecOn generalizing now with
  | nil => exact exact_empty
  | append_singleton _ delivery ih =>
    obtain ⟨clock, past, duplicates⟩ := assumed
    rw [List.flatMap_append, List.flatMap_singleton] at clock
    obtain ⟨clock, -, before⟩ := List.pairwise_append.1 clock
    obtain ⟨early, own, across⟩ := List.pairwise_append.1 clock
    obtain ⟨earlier, -, apart⟩ := List.pairwise_append.1 duplicates
    have ordered : delivery.checked ≤ delivery.applied := (List.pairwise_cons.1 own).1 _ (by simp)
    have passed : delivery.applied ≤ now := before _ (by simp) now (by simp)
    have exact := @ih delivery.checked {
      clock := List.pairwise_append.2 ⟨early, List.pairwise_singleton _ _,
        fun time member last final => by
          rw [List.mem_singleton.1 final]
          exact across time member _ (by simp)⟩
      past := fun other held => past other (List.mem_append_left _ held)
      duplicates := earlier }
    rw [run, List.foldl_append, List.foldl_cons, List.foldl_nil]
    exact (exact.deliver ordered fun other held =>
      apart other held delivery (by simp)).mono passed

end

def distinctInWindow (deliveries : List Delivery) (actor : String)
  (kind : Kind) (length now : Int) : Nat :=
  (distinctIDs deliveries fun event =>
    event.actorID = actor ∧ event.kind? = some kind ∧ now - length ≤ toUtc event.occurredAt ∧
      toUtc event.occurredAt ≤ now).card

theorem AtLeastOnce.occurred_le
  (assumed : AtLeastOnce dedupeTTL deliveries now) {delivery : Delivery}
  (member : delivery ∈ deliveries) :
  toUtc delivery.event.occurredAt ≤ now := by
  apply (assumed.past delivery member).trans
  apply (List.pairwise_append.1 assumed.clock).2.2 _ _ now (by simp)
  exact List.mem_flatMap.2 ⟨delivery, member, by simp⟩

theorem AtLeastOnce.countSince_eq (assumed : AtLeastOnce dedupeTTL deliveries now) (actor : String)
  (kind : Kind) (short : length ≤ kind.retention) :
  countSince (((run dedupeTTL deliveries).actors.getD actor .empty).values kind) (now - length) =
    distinctInWindow deliveries actor kind length now := by
  rw [assumed.exact.counted actor kind _ (by omega), distinctInWindow]
  congr 1
  ext id
  rw [mem_distinctIDs, mem_distinctIDs]
  constructor
  · rintro ⟨delivery, member, matching, named⟩
    simp only [inWindow, decide_eq_true_eq] at matching
    refine ⟨delivery, member, ?_, named⟩
    exact decide_eq_true ⟨matching.1, matching.2.1, matching.2.2, assumed.occurred_le member⟩
  · rintro ⟨delivery, member, matching, named⟩
    simp only [decide_eq_true_eq] at matching
    refine ⟨delivery, member, ?_, named⟩
    exact decide_eq_true ⟨matching.1, matching.2.1, matching.2.2.1⟩

/-- The features of an actor are the exact counts over the distinct events,
whatever is delivered again and in whatever order. -/
theorem featuresFor_run {dedupeTTL now : Int} {deliveries : List Delivery}
  (assumed : AtLeastOnce dedupeTTL deliveries now) (actor : String) :
  featuresFor now (run dedupeTTL deliveries).actors actor = {
    actorID := actor
    publishes5m :=
      distinctInWindow deliveries actor .publish (minutes 5) now
    publishes1h := distinctInWindow deliveries actor .publish (hours 1) now
    publishes24h :=
      distinctInWindow deliveries actor .publish (hours 24) now
    blocks24h := distinctInWindow deliveries actor .block (hours 24) now
    flags7d := distinctInWindow deliveries actor .flag (days 7) now
    commentBurst1m :=
      distinctInWindow deliveries actor .comment (minutes 1) now
    asOf := now
    fromCache := false } := by
  have publishes (length : Int) (short : length ≤ hours 24) :=
    assumed.countSince_eq actor .publish short
  have blocks := assumed.countSince_eq actor .block (le_refl (hours 24))
  have flags := assumed.countSince_eq actor .flag (le_refl (days 7))
  have comments := assumed.countSince_eq actor .comment (le_refl (minutes 1))
  simp only [featuresFor, FeatureResponse.mk.injEq, true_and, and_true]
  exact ⟨publishes (minutes 5) (by decide), publishes (hours 1) (by decide),
    publishes (hours 24) (le_refl _), blocks, flags, comments⟩

def sampleDeliveries : List Delivery :=
  let comment : Event := .vpAction
    ⟨"e1", "actor", .postComment, ⟨minutes 10, none⟩⟩
  let block : Event := .pdsDecision
    ⟨"e1", "actor", .block, ⟨minutes 69, some (hours 1)⟩⟩
  [⟨comment, minutes 10, minutes 10, minutes 10⟩, ⟨block, minutes 11, minutes 11, minutes 11⟩,
    ⟨comment, minutes 11, minutes 11, minutes 11⟩]

theorem featuresFor_sample : AtLeastOnce (days 7) sampleDeliveries (minutes 11) ∧
  (featuresFor (minutes 11) (run (days 7) sampleDeliveries).actors "actor").commentBurst1m =
    distinctInWindow sampleDeliveries "actor" .comment (minutes 1) (minutes 11) := by
  have assumed : AtLeastOnce (days 7) sampleDeliveries (minutes 11) :=
    ⟨by decide, by decide, by decide⟩
  exact ⟨assumed, by rw [featuresFor_run assumed "actor"]⟩

theorem distinctIDs_subset {deliveries others : List Delivery}
  (part : deliveries.map (·.event) ⊆ others.map (·.event)) (matching : Event → Bool) :
  distinctIDs deliveries matching ⊆ distinctIDs others matching := by
  intro id member
  obtain ⟨delivery, present, fits, rfl⟩ := mem_distinctIDs.1 member
  obtain ⟨other, found, same⟩ := List.mem_map.1 (part (List.mem_map_of_mem present))
  exact mem_distinctIDs.2 ⟨other, found, same ▸ fits, same ▸ rfl⟩

/-- Stores that got the same events, each in its own order, at its own times
and with its own duplicates, answer alike. -/
theorem featuresFor_agree (assumed : AtLeastOnce dedupeTTL deliveries now)
  (assumed' : AtLeastOnce dedupeTTL' others now)
  (part : deliveries.map (·.event) ⊆ others.map (·.event))
  (whole : others.map (·.event) ⊆ deliveries.map (·.event)) (actor : String) :
  featuresFor now (run dedupeTTL deliveries).actors actor =
    featuresFor now (run dedupeTTL' others).actors actor := by
  have counts (kind : Kind) {length : Int} (short : length ≤ kind.retention) :=
    (assumed.countSince_eq actor kind short).trans <| (congrArg Finset.card
      ((distinctIDs_subset part _).antisymm (distinctIDs_subset whole _))).trans
      (assumed'.countSince_eq actor kind short).symm
  simp only [featuresFor, FeatureResponse.mk.injEq, true_and, and_true]
  exact ⟨counts .publish (by decide), counts .publish (by decide), counts .publish le_rfl,
    counts .block le_rfl, counts .flag le_rfl, counts .comment le_rfl⟩

theorem featuresFor_agree_sample : featuresFor (minutes 11) (run (days 7) sampleDeliveries).actors
  "actor" = featuresFor (minutes 11) (run 0 sampleDeliveries.tail).actors "actor" :=
  featuresFor_agree ⟨by decide, by decide, by decide⟩ ⟨by decide, by decide, by decide⟩
    (by decide) (by decide) "actor"

end VideoProcess.Features
