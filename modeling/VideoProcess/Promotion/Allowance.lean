import VideoProcess.Promotion.Policy
import VideoProcess.Promotion.Submission

namespace VideoProcess.Promotion

open Data Program Fallible ChannelOps List

/-! What allows a promotion. Everything asked for is kept in a trail. -/

def Env.Scoped (env : Env) : Prop :=
  ∀ text publication task, env.lockPromotionOperatorScope text = .ok (publication, task) →
    publication.id < uuidCount ∧ ∀ id < uuidCount, text = uuidString id → publication.id = id

def PromotionPreparation.About (prepared : PromotionPreparation) (id : Uuid) : Prop :=
  ∀ scope, prepared.scope = some scope → scope.publication.id = id ∧ id < uuidCount

namespace Allowance

structure Setting where
  env : Env
  selects : env.Scoped
  client : PDSClient
  exchange : Exchange

section

variable (go : Runtime)

def Setting.under (setting : Setting) : Request → Env
  | .decide request =>
    { setting.env with
      decision := .ok (setting.client.decide go request.actionType setting.exchange) }
  | _ => setting.env

structure Occurrence where
  setting : Setting
  request : Request
  (before after : Operations)

structure Watched where
  system : System
  trail : List Occurrence

def Watched.initial : Watched := ⟨System.initial, []⟩

def exec (setting : Setting) (request : Request)
  (watched : Watched) : promoting.Reply request × Watched :=
  let answer := Promotion.exec go (setting.under go request) request
    watched.system
  (answer.1, ⟨answer.2, watched.trail ++
    [⟨setting, request, watched.system.operations, answer.2.operations⟩]⟩)

def machine : Machine promoting Watched Setting where
  exec := exec go

variable (trail : List Occurrence)

/-- A request to publish the publication was answered below 400 with a verdict
that is an allow. -/
def Allowed (id : Uuid) : Prop :=
  ∃ occurrence ∈ trail, ∃ request, occurrence.request = .decide request ∧
    request.actionType = "publish" ∧ request.publicationID = id ∧
    occurrence.setting.client.enabled = true ∧
    occurrence.setting.exchange.Allows go

/-- The transaction that has taken the row from reserved to submitting, with the
review that external assets need. -/
def Moved (row : PromotionOperationRow) : Prop :=
  ∃ occurrence ∈ trail, ∃ item prepared evidence captured publication task reserved,
    occurrence.request = .beginPromotionSubmission item prepared evidence captured ∧
    Phase.lockPreparedPromotionScope go occurrence.setting.env item prepared
      occurrence.before = .ok (publication, task, reserved) ∧
    publication.id = row.publicationID ∧ reserved.status = .reserved ∧
    row = reserved.apply (.submitting occurrence.setting.env.now) ∧
    occurrence.after = occurrence.before.write reserved.id
      (.submitting occurrence.setting.env.now) ∧
    (task.usesExternalAssets = true → occurrence.setting.env.validPromotionHumanReview = .ok true)

def Warranted (call : ScheduleCall) : Prop :=
  ∃ row : PromotionOperationRow, call = row.scheduleCall ∧
    Allowed go trail row.publicationID ∧ Moved go trail row

end

section

variable {go : Runtime}

theorem Allowed.append {id : Uuid} (allowed : Allowed go trail id)
  (later : List Occurrence) : Allowed go (trail ++ later) id := by
  obtain ⟨occurrence, member, held⟩ := allowed
  exact ⟨occurrence, mem_append_left later member, held⟩

theorem Moved.append (moved : Moved go trail row) (later : List Occurrence) :
  Moved go (trail ++ later) row := by
  obtain ⟨occurrence, member, held⟩ := moved
  exact ⟨occurrence, mem_append_left later member, held⟩

end

structure Note where
  allowed : Option Uuid
  claimed : Option PromotionOperationRow

namespace Note

def next (note : Note) : (request : Request) → promoting.Reply request → Note
  | .decide request, .ok decision =>
    if decision.verdict = "allow" then
      { note with allowed := some request.publicationID }
    else note
  | .beginPromotionSubmission .., (claimed, .ok ()) =>
    if claimed.shouldSubmit then { note with claimed := claimed.operation }
    else note
  | _, _ => note

def Permits (note : Note) : Request → Prop
  | .decide request => request.actionType = "publish"
  | .finalizePromotionDecision _ decision _ captured =>
    decision.verdict = "allow" → ∃ id, note.allowed = some id ∧ captured.About id
  | .beginPromotionSubmission _ _ _ captured => captured.shouldSubmit = false
  | .schedulePublish call => note.claimed.map (·.scheduleCall) = some call
  | _ => True

end Note

def Truthful : (request : Request) → promoting.Reply request → Prop
  | .preparePromotion .., (prepared, .ok ()) =>
    ∀ request, prepared.decisionRequest = some request →
      request.actionType = "publish" ∧ prepared.About request.publicationID
  | .finalizePromotionDecision _ _ _ captured,
    (prepared, .error (.observation _)) =>
    ∀ id, captured.About id → prepared.About id
  | .beginPromotionSubmission .., (claimed, .error (.observation _)) => claimed.shouldSubmit = false
  | _, _ => True

def protocol : Contract promoting Note where
  requires note request := note.Permits request
  ensures note request reply after :=
    after = note.next request reply ∧ Truthful request reply

theorem submits_protocol : Submits protocol where
  quiet note request quiet := by
    cases request with
    | decide | finalizePromotionDecision | beginPromotionSubmission
    | schedulePublish => exact quiet.elim
    | _ => trivial
  keeps note request reply after quiet ensured := by
    rw [ensured.1]
    cases request with
    | decide | finalizePromotionDecision | beginPromotionSubmission
    | schedulePublish => exact quiet.elim
    | _ => rfl
  begin _ _ _ _ _ fresh := fresh
  observed _ _ _ _ _ _ _ _ ensured := ensured.2
  claimed note item prepared evidence captured claimed operation after ensured submits taken := by
    have noted : after = { note with claimed := claimed.operation } :=
      ensured.1.trans (if_pos submits)
    rw [noted, taken]
    rfl

section

variable {note : Note} (handler : Handler) {item : QueueItemRow} {prepared : PromotionPreparation}

theorem conducts_pdsDecision {request : PDSDecisionRequest}
  (publishes : request.actionType = "publish") :
  conducts protocol (handler.pdsDecision owned request) note
    fun decision after => decision.verdict = "allow" →
      after.allowed = some request.publicationID := by
  have fallen (warning : String) (after : Note) : (failPolicyDecision warning).verdict = "allow" →
    after.allowed = some request.publicationID :=
    fun allowed => absurd allowed failPolicy_publish
  unfold Handler.pdsDecision
  cases handler.hasPDS with
  | false =>
    apply conducts_require
    intro decision decided
    split at decided
    · cases decided
      exact fallen _ note
    · cases decided
  | true =>
    apply safe_bind
    apply safe_result
    refine ⟨publishes, ?_⟩
    rintro answer _ ⟨rfl, -⟩
    cases answer with
    | error =>
      intro text
      apply conducts_require
      intro decision decided
      cases owned with
      | true =>
        cases decided
        exact fallen _ _
      | false => cases decided
    | ok => exact fun allowed => congrArg Note.allowed (if_pos allowed)

theorem conducts_decide {decision : PDSDecision} {id : Uuid} (about : prepared.About id)
  (allowed : decision.verdict = "allow" → note.allowed = some id) :
  conducts protocol (withOwnedHistoryObservation (fun captured evidence =>
    ask (.finalizePromotionDecision item decision evidence captured))
    prepared) note fun _ _ => True := by
  refine conducts_withObservation submits_protocol (fun captured after =>
    captured.About id ∧ (decision.verdict = "allow" → after.allowed = some id)) ?_ ⟨about, allowed⟩
  rintro _ _ _ ⟨about, allowed⟩
  refine conducts_ask (fun verdict => ⟨id, allowed verdict, about⟩) ?_
  rintro ⟨_, _⟩ _ ⟨rfl, truthful⟩
  refine ⟨fun _ => trivial, ?_⟩
  rintro _ rfl
  exact ⟨truthful id about, allowed⟩

theorem conducts_decidePromotion (truthful : ∀ request, prepared.decisionRequest = some request →
  request.actionType = "publish" ∧ prepared.About request.publicationID) :
  conducts protocol (handler.decidePromotion item prepared) note fun _ _ => True := by
  unfold Handler.decidePromotion
  cases asked : prepared.decisionRequest with
  | none => exact safe_pure trivial
  | some request =>
    obtain ⟨publishes, about⟩ := truthful request asked
    apply safe_bind
    apply safe_mono (conducts_pdsDecision handler publishes) _ fun _ failed => failed
    exact fun decision after allowed => conducts_decide about allowed

end

def Ruling.prepared : Phase.Ruling → PromotionPreparation
  | .returned prepared _ => prepared
  | .reserve prepared _ => prepared

section

variable {go : Runtime} {env : Env} {item : QueueItemRow}
  {evidence : Option OwnedHistoryRedisEvidence} {operations : Operations}
  {prepared captured : PromotionPreparation} {decision : PDSDecision}
  {id : Uuid}

theorem about_zero (prepared : PromotionPreparation)
  (blank : prepared.scope = none) : prepared.About id := by
  intro scope known
  rw [blank] at known
  cases known

variable {publication : PublicationRow} {failure : Option Failure} {request : PDSDecisionRequest}

theorem prepareFound_asks (small : publication.id < uuidCount)
  (done : Phase.prepareFound go env item evidence publication task existing =
    .ok (prepared, failure))
  (asked : prepared.decisionRequest = some request) :
  request.actionType = "publish" ∧ prepared.About request.publicationID := by
  obtain ⟨_, -, done⟩ := bind_eq_ok done
  obtain ⟨_, -, done⟩ := bind_eq_ok done
  split at done
  · cases done
  · obtain ⟨_, -, done⟩ := bind_eq_ok done
    dsimp only at done
    split at done
    · cases done
      cases asked
    · split at done
      · cases done
        cases asked
        refine ⟨rfl, ?_⟩
        rintro _ ⟨⟩
        exact ⟨rfl, small⟩
      · cases done
        cases asked

theorem found_of_asked [Decidable finished] [Decidable passed] {first second : PromotionPreparation}
  {found : Except Failure (PromotionPreparation × Option Failure)}
  (asked : prepared.decisionRequest = some request)
  (silent : first.decisionRequest = none ∧ second.decisionRequest = none)
  (done : (if finished then pure (first, none)
    else if passed then pure (second, none) else found) =
      .ok (prepared, failure)) : found = .ok (prepared, failure) := by
  split at done
  · cases done
    rw [silent.1] at asked
    cases asked
  · split at done
    · cases done
      rw [silent.2] at asked
      cases asked
    · exact done

theorem prepare_asks (truly : env.Scoped)
  (done : Phase.preparePromotion go env item evidence operations = (prepared, failure))
  (asked : prepared.decisionRequest = some request) :
  request.actionType = "publish" ∧ prepared.About request.publicationID := by
  unfold Phase.preparePromotion orZero at done
  dsimp only at done
  split at done
  · cases done
    cases asked
  next outcome =>
    cases done
    split at outcome
    · cases outcome
    · obtain ⟨⟨publication, _⟩, locked, outcome⟩ := bind_eq_ok outcome
      have small : publication.id < uuidCount := (truly _ _ _ locked).1
      obtain ⟨_, -, outcome⟩ := bind_eq_ok outcome
      dsimp only at outcome
      split at outcome
      · obtain ⟨_, -, outcome⟩ := bind_eq_ok outcome
        exact prepareFound_asks small (found_of_asked asked ⟨rfl, rfl⟩ outcome) asked
      · exact prepareFound_asks small (found_of_asked asked ⟨rfl, rfl⟩ outcome) asked

theorem about_ownedRuling (done : Phase.ownedRuling go env captured scope request publication task
  producer decision = .ok outcome) (about : captured.About id)
  (same : publication.id = id ∧ id < uuidCount) :
  (outcome.elim Ruling.prepared Prod.fst).About id := by
  unfold Phase.ownedRuling at done
  split at done
  · cases done
    exact about
  · obtain ⟨_, -, done⟩ := bind_eq_ok done
    obtain ⟨_, -, done⟩ := bind_eq_ok done
    split at done
    · cases done
    · split at done
      · cases done
        exact about
      · obtain ⟨_, -, done⟩ := bind_eq_ok done
        obtain ⟨_, -, done⟩ := bind_eq_ok done
        cases done
        rintro _ ⟨⟩
        exact same

theorem about_verdictRuling
  (done : Phase.verdictRuling env item captured publication task decision =
    .ok ruling) (about : captured.About id) :
  (Ruling.prepared ruling).About id := by
  unfold Phase.verdictRuling at done
  split at done
  · cases done
    exact about
  · cases done
    exact about
  · dsimp only at done
    have looked : (if decision.verdict ≠ "allow" then
      pure (.returned { captured with skip := true } (Phase.hold env).2)
      else pure (.reserve captured publication) : Except Failure Phase.Ruling) = .ok ruling := by
      split at done
      · obtain ⟨_, -, done⟩ := bind_eq_ok done
        exact done
      · exact done
    split at looked
    · cases looked
      exact about
    · cases looked
      exact about

theorem about_ruling (truly : env.Scoped)
  (ruled : Phase.ruling go env item captured decision evidence operations =
    .ok ruling) (about : captured.About id) :
  (Ruling.prepared ruling).About id := by
  obtain ⟨⟨publication, _⟩, locked, ruled⟩ := bind_eq_ok ruled
  obtain ⟨scope, known, found⟩ := lockScope_eq_ok locked
  have same : publication.id = id ∧ id < uuidCount := by
    obtain ⟨same, small⟩ := about scope known
    exact ⟨(truly _ _ _ found).2 id small (congrArg uuidString same), small⟩
  obtain ⟨_, -, ruled⟩ := bind_eq_ok ruled
  split at ruled
  · obtain ⟨_, -, ruled⟩ := bind_eq_ok ruled
    cases ruled
    exact about
  · split at ruled
    · cases ruled
      exact about
    · split at ruled
      · cases ruled
      · obtain ⟨_, owned, ruled⟩ := bind_eq_ok ruled
        have still := about_ownedRuling owned about same
        split at ruled
        · cases ruled
          exact still
        · exact about_verdictRuling ruled still
  · cases ruled

theorem about_finalizeDecision (truly : env.Scoped) {failure : Failure}
  (done : Phase.finalizePromotionDecision go env item captured decision
    evidence operations = (prepared, .error failure))
  (about : captured.About id) : prepared.About id := by
  unfold Phase.finalizePromotionDecision at done
  split at done
  · cases done
    exact about_zero _ rfl
  · cases done
  next ruled =>
    cases done
    exact about_ruling truly ruled about
  · split at done
    · cases done
      exact about
    · cases done

theorem truthful_exec (go : Runtime) (truly : env.Scoped) (system : System)
  {note : Note} {request : Request} (permitted : note.Permits request) :
  Truthful request (Promotion.exec go env request system).1 := by
  cases request with
  | preparePromotion item evidence =>
    rcases replied : (Promotion.exec go env (.preparePromotion item evidence)
      system).1 with ⟨prepared, _ | _⟩
    · trivial
    · obtain ⟨_, closed, -⟩ := enter_eq_ok replied
      have same : (Phase.preparePromotion go env item evidence
        system.operations).1 = prepared := congrArg Prod.fst closed
      exact fun request asked => prepare_asks truly (Prod.ext same rfl) asked
  | finalizePromotionDecision item decision evidence captured =>
    rcases replied : (Promotion.exec go env (.finalizePromotionDecision item
      decision evidence captured) system).1 with
      ⟨_, (_ | _) | _⟩
    · intro id about
      rcases enter_observed replied with rfl | failed
      · exact about
      · exact about_finalizeDecision truly failed about
    · trivial
    · trivial
  | beginPromotionSubmission item prepared evidence captured =>
    rcases replied : (Promotion.exec go env (.beginPromotionSubmission item
      prepared evidence captured) system).1 with
      ⟨_, (_ | _) | _⟩
    · rcases enter_observed replied with rfl | failed
      · exact permitted
      · exact begin_failed failed permitted
    · trivial
    · trivial
  | _ => trivial

end

def rules : Rules promoting Watched Setting Note Unit (Except String Unit) where
  start _ program note := ∃ handler item rounds,
    program = (Handler.handlePromotePublication handler item rounds).run ∧ note = ⟨none, none⟩
  call _ _ _ setting _ := setting.client.devAllowAll = false
  abandon _ := True

def observer : Observer promoting Watched Note Unit where
  note := Note.next
  silent := ()
  resume _ _ _ := ()
  hear _ _ _ := ()

structure Justified (go : Runtime) (trail : List Occurrence) (note : Note) : Prop where
  allowed : ∀ id, note.allowed = some id → Allowed go trail id
  claimed : ∀ row, note.claimed = some row → Allowed go trail row.publicationID ∧ Moved go trail row

structure Vouched (go : Runtime) (watched : Watched) (books : List (Note × Unit)) : Prop where
  rows : ∀ row ∈ watched.system.operations.table.rows, Allowed go watched.trail row.publicationID
  notes : ∀ book ∈ books, Justified go watched.trail book.1
  made : ∀ earlier occurrence call, earlier ++ [occurrence] <+: watched.trail →
    occurrence.request = .schedulePublish call → Warranted go earlier call

theorem Justified.append {trail : List Occurrence}
  (justified : Justified go trail note) (later : List Occurrence) :
  Justified go (trail ++ later) note where
  allowed id noted := (justified.allowed id noted).append later
  claimed row noted :=
    ⟨(justified.claimed row noted).1.append later, (justified.claimed row noted).2.append later⟩

theorem scoped_under (go : Runtime) (setting : Setting) (request : Request) :
  (setting.under go request).Scoped := by
  cases request <;> exact setting.selects

section

variable (vouched : Vouched go watched (front ++ (note, ()) :: back))

include vouched

theorem Vouched.rows_exec (permitted : note.Permits request) :
  ∀ row ∈ (exec go setting request watched).2.system.operations.table.rows,
    Allowed go watched.trail row.publicationID := by
  intro row member
  rcases row_exec go (setting.under go request) watched.system member with
    ⟨earlier, present, same⟩ |
    ⟨_, _, _, _, scope, _, _, rfl, allowed, known, locked, chosen⟩
  · rw [same.publicationID]
    exact vouched.rows earlier present
  · obtain ⟨id, noted, about⟩ := permitted allowed
    obtain ⟨same, small⟩ := about scope known
    rw [chosen, (setting.selects _ _ _ locked).2 id small (congrArg uuidString same)]
    exact (vouched.notes (note, ()) (by simp)).allowed id noted

theorem Vouched.justified_next (strict : setting.client.devAllowAll = false)
  (permitted : note.Permits request) :
  let answer := exec go setting request watched
  Justified go answer.2.trail (note.next request answer.1) := by
  intro answer
  have before : Justified go watched.trail note := vouched.notes (note, ()) (by simp)
  have still : Justified go answer.2.trail note := before.append _
  cases request with
  | decide request =>
    have publishes : request.actionType = "publish" := permitted
    change Justified go answer.2.trail (if (setting.client.decide go
      request.actionType setting.exchange).verdict = "allow" then _ else note)
    split
    next allowed =>
      rw [publishes] at allowed
      refine ⟨?_, still.claimed⟩
      rintro _ ⟨⟩
      exact ⟨_, mem_append_right _ mem_cons_self, request, rfl,
        publishes, rfl, PDSClient.allows_of_decide strict allowed⟩
    · exact still
  | beginPromotionSubmission item prepared evidence captured =>
    rcases replied : answer.1 with ⟨claimed, _ | _⟩
    · exact still
    · change Justified go answer.2.trail (if claimed.shouldSubmit = true then
        _ else note)
      split
      next submits =>
        refine ⟨still.allowed, ?_⟩
        intro row noted
        obtain ⟨reserved, begins, same, committed⟩ := begin_replied permitted submits replied
        obtain ⟨publication, task, locked, authority, checked⟩ := begins.checked
        have claims : row = reserved.apply (.submitting setting.env.now) :=
          Option.some.inj (noted.symm.trans same)
        subst claims
        constructor
        · exact (vouched.rows reserved begins.member).append _
        · exact ⟨_, mem_append_right _ mem_cons_self, item, prepared,
            evidence, captured, publication, task, reserved, rfl, locked,
            authority, begins.status, rfl,
            congrArg System.operations committed, reviewed_of_safe checked⟩
      · exact still
  | _ => exact still

theorem Vouched.made_exec (permitted : note.Permits request) (earlier : List Occurrence)
  (occurrence : Occurrence) (call : ScheduleCall)
  (listed : earlier ++ [occurrence] <+: (exec go setting request watched).2.trail)
  (made : occurrence.request = .schedulePublish call) :
  Warranted go earlier call := by
  simp only [exec, prefix_concat_iff] at listed
  rcases listed with whole | listed
  · obtain ⟨rfl, same⟩ := append_inj' whole rfl
    cases same
    cases made
    obtain ⟨row, noted, rfl⟩ := Option.map_eq_some_iff.1 permitted
    obtain ⟨allowed, moved⟩ := (vouched.notes (note, ()) (by simp)).claimed row noted
    exact ⟨row, rfl, allowed, moved⟩
  · exact vouched.made earlier occurrence call listed made

end

theorem vouched_invariant (go : Runtime) :
  Pool.Invariant (machine go) observer rules protocol (fun _ => True) (Vouched go) where
  start := by
    intro watched books program note vouched permitted
    obtain ⟨handler, _, rounds, rfl, rfl⟩ := permitted
    constructor
    · refine Prog.wp_mono (conducts_handle submits_protocol handler rounds ?_) fun _ _ _ => trivial
      exact fun _ _ _ _ ensured => conducts_decidePromotion handler ensured.2
    · refine ⟨vouched.rows, ?_, vouched.made⟩
      intro book member
      rcases mem_append.1 member with member | member
      · exact vouched.notes book member
      · cases mem_singleton.1 member
        exact ⟨by simp, by simp⟩
  call := by
    intro watched front note heard back request setting vouched permitted strict
    refine ⟨⟨rfl, truthful_exec go (scoped_under go setting request) watched.system permitted⟩, ?_⟩
    simp only [Pool.map_listenBooks_unit]
    refine ⟨?_, ?_, vouched.made_exec permitted⟩
    · intro row member
      exact (vouched.rows_exec permitted row member).append _
    · intro book member
      rcases mem_append.1 member with earlier | rest
      · exact (vouched.notes book (by simp [earlier])).append _
      · rcases mem_cons.1 rest with rfl | later
        · exact vouched.justified_next strict permitted
        · exact (vouched.notes book (by simp [later])).append _
  leave := by
    intro watched front note heard back _ vouched
    refine ⟨vouched.rows, ?_, vouched.made⟩
    intro book member
    exact vouched.notes book (mem_of_others member)
  abandon := fun _ _ => trivial

/-- In every run, a platform is asked to schedule a publication only after the
policy service has really allowed it, and, where external assets are used, only
if the review held in the transaction that began the submission. -/
theorem promotion_allowed (go : Runtime)
  {pool : Pool promoting Watched Note Unit (Except String Unit)}
  (reachable : Pool.Reachable (machine go) observer rules Watched.initial pool) :
  ∀ earlier occurrence call, earlier ++ [occurrence] <+: pool.state.trail →
    occurrence.request = .schedulePublish call → Warranted go earlier call := by
  have initial : Vouched go Watched.initial [] :=
    ⟨by simp [Watched.initial, System.initial, Operations.empty, Table.empty],
      by simp, by simp [Watched.initial]⟩
  exact (reachable.kept (vouched_invariant go) initial).invariant.made

def selectingEnv : Env :=
  { sampleEnv with
    lockPromotionOperatorScope text :=
      if text = uuidString 1 then
        .ok (samplePublication, { sampleTask with usesExternalAssets := true })
      else fails "no rows in result set" }

theorem selects_selectingEnv : selectingEnv.Scoped := by
  intro text publication task locked
  simp only [selectingEnv] at locked
  split at locked
  next same =>
    cases locked
    refine ⟨by decide, ?_⟩
    intro id small named
    exact uuidString_inj (by decide) small (same.symm.trans named)
  · cases locked

def answering (exchange : Exchange) : Setting where
  env := selectingEnv
  selects := selects_selectingEnv
  client := ⟨true, false⟩
  exchange := exchange

def checks : Pool.Checks promoting Watched Setting Note Unit (Except String Unit) Unit where
  program _ := (Handler.handlePromotePublication
    ⟨sampleRuntime, true, false, true, true⟩ sampleItem 1).run
  note _ := ⟨none, none⟩
  start _ _ := true
  call _ _ _ setting _ := !setting.client.devAllowAll
  abandon _ := true

theorem checks_sound : checks.Sound rules where
  start _ _ _ := ⟨_, sampleItem, 1, rfl, rfl⟩
  call _ _ _ _ _ passed := by
    simpa [checks, rules] using passed
  abandon _ _ := trivial

def refusedThenAllowed : List (Pool.Action Setting Unit) :=
  .start () :: replicate 5 (.call 0 (answering (.responded 503 none))) ++
    .finish 0 :: .start () :: replicate 8 (.call 0 (answering
      (.responded 200 (some ⟨"decision", " allow", "", ""⟩))))

def Occurrence.schedules (occurrence : Occurrence) : Bool :=
  match occurrence.request with
  | .schedulePublish _ => true
  | _ => false

theorem promotion_allowed_retried : ∃ pool : Pool promoting Watched Note Unit (Except String Unit),
  Pool.Reachable (machine sampleRuntime) observer rules Watched.initial pool ∧
    ∃ earlier occurrence call, earlier ++ [occurrence] <+: pool.state.trail ∧
      occurrence.request = .schedulePublish call ∧
      Warranted sampleRuntime earlier call := by
  have ran : ((Pool.play (machine sampleRuntime) observer checks
    refusedThenAllowed ⟨Watched.initial, []⟩).any fun pool =>
      pool.state.trail.getLast?.any Occurrence.schedules) = true := by
    decide +kernel
  obtain ⟨pool, played, scheduled⟩ := (Option.any_eq_true _ _).1 ran
  have reachable := Pool.steps_of_play checks_sound played
  obtain ⟨occurrence, last, made⟩ := (Option.any_eq_true _ _).1 scheduled
  obtain ⟨earlier, whole⟩ := getLast?_eq_some_iff.1 last
  unfold Occurrence.schedules at made
  split at made
  next call called =>
    have listed : earlier ++ [occurrence] <+: pool.state.trail :=
      ⟨[], by rw [append_nil, whole]⟩
    exact ⟨pool, reachable, earlier, occurrence, call, listed, called,
      promotion_allowed sampleRuntime reachable earlier occurrence call listed called⟩
  · cases made

end Allowance

end VideoProcess.Promotion
