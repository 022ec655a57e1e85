import VideoProcess.Program.Ledger
import VideoProcess.Promotion.Conduct

namespace VideoProcess.Promotion

open Data Program Fallible ChannelOps

/-! The protocol of an attempt, which owes a call for the operation that it has
taken to submitting. -/

abbrev Note := Option PromotionOperationRow

namespace Note

def next (note : Note) : (request : Request) → promoting.Reply request → Note
  | .beginPromotionSubmission .., (claimed, .ok ()) =>
    if claimed.shouldSubmit then claimed.operation else note
  | .schedulePublish _, _ => none
  | _, _ => note

def Allows (note : Note) : Request → Prop
  | .beginPromotionSubmission _ _ _ captured => captured.shouldSubmit = false
  | .schedulePublish call => note.map (·.scheduleCall) = some call
  | _ => True

end Note

/-- A phase that asks for an observation leaves no decision to submit behind. -/
def Truthful : (request : Request) → promoting.Reply request → Prop
  | .beginPromotionSubmission .., (claimed, .error (.observation _)) => claimed.shouldSubmit = false
  | _, _ => True

def protocol : Contract promoting Note where
  requires note request := note.Allows request
  ensures note request reply after :=
    after = note.next request reply ∧ Truthful request reply

theorem submits_protocol : Submits protocol where
  quiet note request quiet := by
    cases request with
    | beginPromotionSubmission | schedulePublish => exact quiet.elim
    | _ => trivial
  keeps note request reply after quiet ensured := by
    rw [ensured.1]
    cases request with
    | beginPromotionSubmission | schedulePublish => exact quiet.elim
    | _ => rfl
  begin _ _ _ _ _ fresh := fresh
  observed _ _ _ _ _ _ _ _ ensured := ensured.2
  claimed note item prepared evidence captured claimed operation after ensured submits taken := by
    have owes : after = claimed.operation := ensured.1.trans (if_pos submits)
    rw [owes, taken]
    rfl

section

variable {note : Note} (handler : Handler) {item : QueueItemRow} {prepared : PromotionPreparation}

theorem conducts_decide : conducts protocol (withOwnedHistoryObservation (fun captured evidence =>
  ask (.finalizePromotionDecision item decision evidence captured))
  prepared) note fun _ _ => True := by
  refine conducts_withObservation submits_protocol (fun _ _ => True) ?_ trivial
  intro captured evidence before _
  refine conducts_ask (by trivial) ?_
  exact fun entry after _ => ⟨fun _ => trivial, fun _ _ => trivial⟩

theorem conducts_pdsDecision {request : PDSDecisionRequest} :
  conducts protocol (handler.pdsDecision owned request) note fun _ _ => True := by
  unfold Handler.pdsDecision
  cases handler.hasPDS with
  | true =>
    apply safe_bind
    refine conducts_result (conducts_send (by trivial) fun _ _ _ _ _ => trivial) ?_
    exact fun _ _ => conducts_require fun _ _ => trivial
  | false => exact conducts_require fun _ _ => trivial

theorem conducts_decidePromotion : conducts protocol (handler.decidePromotion item prepared) note
  fun _ _ => True := by
  unfold Handler.decidePromotion
  cases prepared.decisionRequest with
  | none => exact safe_pure trivial
  | some =>
    apply safe_bind
    apply safe_mono (conducts_pdsDecision handler) _ fun _ failed => failed
    exact fun _ _ _ => conducts_decide

end

def rules : Rules promoting System Env Note Unit (Except String Unit) where
  start _ program note := ∃ handler item rounds,
    program = (Handler.handlePromotePublication handler item rounds).run ∧ note = none
  call _ _ _ _ _ := True
  abandon _ := True

def observer : Observer promoting System Note Unit where
  note := Note.next
  silent := ()
  resume _ _ _ := ()
  hear _ _ _ := ()

def Event.calls (key : String) : Event → Bool
  | .committed _ => false
  | .scheduled call => call.idempotencyKey = key

def Begun (system : System) (key : String) : Prop :=
  ∃ row ∈ system.operations.table.rows, row.attemptKey = key ∧ row.status ≠ .reserved

/-- An operation that an attempt has taken to submitting owes the call. -/
def submissions : Ledger System Note String where
  taken system key := system.journal.countP (Event.calls key)
  owed note := note.toList.map PromotionOperationRow.attemptKey
  begun := Begun

/-- The call is for a row that was submitting, and durable, before. -/
def Backed (earlier : List Event) (call : ScheduleCall) : Prop :=
  ∃ operations row, .committed operations ∈ earlier ∧
    row ∈ operations.table.rows ∧ row.status = .submitting ∧
    row.requestAttemptedAt ≠ none ∧ call = row.scheduleCall

structure Recorded (system : System) (books : List (Note × Unit)) : Prop where
  sound : submissions.Sound system books
  owed : ∀ book ∈ books, ∀ row, book.1 = some row → Backed system.journal row.scheduleCall
  made : ∀ earlier call, earlier ++ [.scheduled call] <+: system.journal → Backed earlier call

section

variable {go : Runtime} {env : Env} {system : System} {request : Request}
  {front back : List (Note × Unit)} {note next : Note} {call : ScheduleCall}

theorem Backed.append (backed : Backed earlier call) (later : List Event) :
  Backed (earlier ++ later) call := by
  obtain ⟨operations, row, member, held⟩ := backed
  exact ⟨operations, row, List.mem_append_left later member, held⟩

section

variable (go : Runtime) (env : Env)

theorem Begun.exec (request : Request)
  (begun : Begun system key) : Begun (exec go env request system).2 key := by
  by_cases called : ∃ call, request = .schedulePublish call
  · obtain ⟨_, rfl⟩ := called
    exact begun
  · rcases commits_exec go env system (not_exists.1 called) with same | ⟨writes, -⟩
    · rw [same]
      exact begun
    · obtain ⟨_, member, rfl, started⟩ := begun
      obtain ⟨current, found, same, moves⟩ :=
        writes.row (Operations.find?_eq_some_iff.2 ⟨member, rfl⟩)
      exact ⟨current, (Operations.find?_eq_some_iff.1 found).1, same.attemptKey,
        moves.not_reserved started⟩

theorem journal_exec (system : System) (other : ∀ call, request ≠ .schedulePublish call) :
  (exec go env request system).2.journal = system.journal ∨
    ∃ operations, (exec go env request system).2.journal =
      system.journal ++ [.committed operations] := by
  rcases commits_exec go env system other with same | ⟨-, committed⟩
  · exact .inl (congrArg System.journal same)
  · exact .inr ⟨_, congrArg System.journal committed⟩

theorem taken_exec (system : System)
  (other : ∀ call, request ≠ .schedulePublish call) (key : String) :
  submissions.taken (exec go env request system).2 key = submissions.taken system key := by
  rcases journal_exec go env system other with same | ⟨_, grown⟩
  · simp only [submissions, same]
  · simp [submissions, grown, Event.calls]

theorem Backed.exec (request : Request) (backed : Backed system.journal call) :
  Backed (exec go env request system).2.journal call := by
  by_cases called : ∃ call, request = .schedulePublish call
  · obtain ⟨_, rfl⟩ := called
    exact backed.append _
  · rcases journal_exec go env system (not_exists.1 called) with same | ⟨_, grown⟩
    · rw [same]
      exact backed
    · rw [grown]
      exact backed.append _

end

section

variable (recorded : Recorded system (front ++ (note, ()) :: back))

include recorded

variable (go : Runtime) (env : Env)

theorem Recorded.owed_exec (request : Request) (learned : ∀ row, next = some row → note = some row ∨
    Backed (exec go env request system).2.journal row.scheduleCall) :
  ∀ book ∈ front ++ (next, ()) :: back, ∀ row, book.1 = some row →
    Backed (exec go env request system).2.journal row.scheduleCall := by
  intro book member row owes
  have known {other : Note × Unit} (present : other ∈ front ++ (note, ()) :: back)
    (same : other.1 = some row) :=
    (recorded.owed other present row same).exec go env request
  rcases List.mem_append.1 member with earlier | rest
  · exact known (by simp [earlier]) owes
  · rcases List.mem_cons.1 rest with rfl | later
    · rcases learned row owes with same | backed
      · exact (recorded.owed (note, ()) (by simp) row same).exec go env request
      · exact backed
    · exact known (by simp [later]) owes

section

variable (other : ∀ call, request ≠ .schedulePublish call)

include other

theorem Recorded.phase
  (sound : submissions.Sound (exec go env request system).2 (front ++ (next, ()) :: back))
  (learned : ∀ row, next = some row → note = some row ∨
    Backed (exec go env request system).2.journal row.scheduleCall) :
  Recorded (exec go env request system).2 (front ++ (next, ()) :: back) where
  sound := sound
  owed := recorded.owed_exec go env request learned
  made := by
    intro earlier call made
    rcases journal_exec go env system other with same | ⟨_, grown⟩
    · rw [same] at made
      exact recorded.made earlier call made
    · rw [grown, List.prefix_concat_iff] at made
      rcases made with whole | made
      · cases List.append_inj_right' whole rfl
      · exact recorded.made earlier call made

theorem Recorded.quiet : Recorded (exec go env request system).2 (front ++ (note, ()) :: back) := by
  apply recorded.phase go env other
  · exact recorded.sound.keep (fun _ begun => begun.exec go env request)
      (taken_exec go env system other) rfl
  · exact fun row same => .inl same

end

theorem Recorded.schedule (owed : note.map (·.scheduleCall) = some call) :
  Recorded (exec go env (.schedulePublish call) system).2 (front ++ (none, ()) :: back) := by
  obtain ⟨row, rfl, rfl⟩ := Option.map_eq_some_iff.1 owed
  constructor
  · have counted (key : String) : submissions.taken (exec go env (.schedulePublish row.scheduleCall)
      system).2 key =
      submissions.taken system key + if row.attemptKey = key then 1 else 0 := by
      simp [submissions, exec, Event.calls, PromotionOperationRow.scheduleCall]
    exact recorded.sound.take (fun _ begun => begun.exec go env _) counted rfl
  · apply recorded.owed_exec go env
    intro row same
    cases same
  · intro earlier call made
    simp only [exec, List.prefix_concat_iff] at made
    rcases made with whole | made
    · obtain ⟨rfl, same⟩ := List.append_inj' whole rfl
      cases same
      exact recorded.owed (some row, ()) (by simp) row rfl
    · exact recorded.made earlier call made

end

theorem mem_write_self {operations : Operations}
  (member : row ∈ operations.table.rows) (change : Change) :
  row.apply change ∈ (operations.write row.id change).table.rows := by
  have found : operations.find? row.id = some row := Operations.find?_eq_some_iff.2 ⟨member, rfl⟩
  have written : (operations.write row.id change).find? row.id = some (row.apply change) := by
    rw [Operations.find?_write, found]
    exact congrArg some (if_pos rfl)
  exact (Operations.find?_eq_some_iff.1 written).1

theorem not_begun (member : row ∈ system.operations.table.rows)
  (open_ : row.status = .reserved) : ¬ Begun system row.attemptKey := by
  rintro ⟨_, present, same, started⟩
  rw [List.inj_on_of_nodup_map system.operations.constraints.attemptKey present
    member same] at started
  exact started open_

theorem Recorded.begin (go : Runtime) (env : Env) {item : QueueItemRow}
  {prepared : PromotionPreparation}
  {evidence : Option OwnedHistoryRedisEvidence} {captured : Phase.Claimed}
  (recorded : Recorded system (front ++ (note, ()) :: back))
  (fresh : captured.shouldSubmit = false) :
  let answer := exec go env (.beginPromotionSubmission item prepared evidence
    captured) system
  Recorded answer.2 (front ++ (note.next (.beginPromotionSubmission item
    prepared evidence captured) answer.1, ()) :: back) := by
  intro answer
  have other (call : ScheduleCall) : Request.beginPromotionSubmission item
    prepared evidence captured ≠ .schedulePublish call := by simp
  have quiet : Recorded answer.2 (front ++ (note, ()) :: back) := recorded.quiet go env other
  rcases replied : answer.1 with ⟨claimed, _ | _⟩
  · exact quiet
  · by_cases submits : claimed.shouldSubmit = true
    · obtain ⟨reserved, begins, same, committed⟩ := begin_replied fresh submits replied
      have next : note.next (.beginPromotionSubmission item prepared evidence
        captured) (claimed, .ok ()) = some (reserved.apply (.submitting env.now)) :=
        (if_pos submits).trans same
      have written := mem_write_self begins.member (.submitting env.now)
      rw [next]
      apply recorded.phase go env other
      · apply recorded.sound.owe (fun _ begun => begun.exec go env _)
          (taken_exec go env system other)
        · exact List.nodup_singleton _
        · intro key listed
          have same : key = reserved.attemptKey := List.mem_singleton.1 listed
          subst same
          refine ⟨not_begun begins.member begins.status, ?_⟩
          rw [committed]
          exact ⟨_, written, rfl, by simp [PromotionOperationRow.apply]⟩
      · intro row owes
        cases owes
        rw [committed]
        exact .inr ⟨_, _, List.mem_append_right _ List.mem_cons_self, written,
          rfl, by simp [PromotionOperationRow.apply], rfl⟩
    · have next : note.next (.beginPromotionSubmission item prepared evidence
        captured) (claimed, .ok ()) = note := if_neg submits
      rw [next]
      exact quiet

theorem truthful_exec (go : Runtime) (env : Env) (system : System) (allowed : note.Allows request) :
  Truthful request (exec go env request system).1 := by
  cases request with
  | beginPromotionSubmission item prepared evidence captured =>
    rcases replied : (exec go env (.beginPromotionSubmission item prepared
      evidence captured) system).1 with ⟨_, (_ | _) | _⟩
    · rcases enter_observed replied with rfl | failed
      · exact allowed
      · exact begin_failed failed allowed
    · trivial
    · trivial
  | _ => trivial

theorem recorded_invariant (go : Runtime) :
  Pool.Invariant (machine go) observer rules protocol (fun _ => True) Recorded where
  start := by
    intro system books program note recorded permitted
    obtain ⟨handler, _, rounds, rfl, rfl⟩ := permitted
    constructor
    · refine Prog.wp_mono (conducts_handle submits_protocol handler rounds ?_) fun _ _ _ => trivial
      exact fun _ _ _ _ _ => conducts_decidePromotion handler
    · refine ⟨recorded.sound.start rfl, ?_, recorded.made⟩
      intro book member row owes
      rcases List.mem_append.1 member with member | member
      · exact recorded.owed book member row owes
      · cases List.mem_singleton.1 member
        cases owes
  call := by
    intro system front note heard back request env recorded allowed _
    refine ⟨⟨rfl, truthful_exec go env system allowed⟩, ?_⟩
    simp only [Pool.map_listenBooks_unit]
    cases request with
    | beginPromotionSubmission => exact recorded.begin go env allowed
    | schedulePublish => exact recorded.schedule go env allowed
    | ctxErr | preparePromotion | decide | finalizePromotionDecision
    | observeOwnedHistoryRedis | lockPromotionOperation
    | confirmPromotionOperation | markPromotionOperationUncertain
    | finalizePromotionOperation | holdUncertainPromotionOperation
    | publicationStatus => exact recorded.quiet go env (by simp)
  leave := by
    intro system front note heard back _ recorded
    refine ⟨recorded.sound.leave, ?_, recorded.made⟩
    intro book member
    exact recorded.owed book (mem_of_others member)
  abandon := fun _ _ => trivial

end

theorem writes_step (go : Runtime) (step : Pool.Step (machine go) observer rules before after) :
  Writes before.state.operations after.state.operations := by
  cases step with
  | start | finish | abandon => exact .same
  | @call system front back note heard request next env permitted =>
    by_cases called : ∃ call, request = .schedulePublish call
    · obtain ⟨_, rfl⟩ := called
      exact .same
    · change Writes system.operations (exec go env request system).2.operations
      rcases commits_exec go env system (not_exists.1 called) with same | ⟨writes, -⟩
      · rw [same]
        exact .same
      · exact writes

/-- In every run a promotion is submitted at most once, with a safe target, for
a row that is durably submitting before, and the rows only move forward. -/
theorem promotion_submission (go : Runtime)
  {pool : Pool promoting System Note Unit (Except String Unit)}
  (reachable : Pool.Reachable (machine go) observer rules System.initial pool) :
  (∀ key, pool.state.journal.countP (Event.calls key) ≤ 1) ∧
    (∀ earlier call, earlier ++ [.scheduled call] <+: pool.state.journal →
      Backed earlier call ∧ call.privacy ∈ ["private", "unlisted"]) ∧
    (∀ later, Pool.Step (machine go) observer rules pool later →
      ∀ id, (∀ row, pool.state.operations.find? id = some row →
        ∃ current, later.state.operations.find? id = some current ∧
          Moves row.status current.status ∧
          current.platformVideoID = row.platformVideoID ∧
          current.targetPrivacy = row.targetPrivacy ∧
          current.attemptKey = row.attemptKey) ∧
        (pool.state.operations.find? id = none →
          ∀ row, later.state.operations.find? id = some row → row.status = .reserved)) := by
  have initial : Recorded System.initial [] :=
    ⟨Ledger.sound_nil fun _ => rfl, by simp, by simp [System.initial]⟩
  have recorded := (reachable.kept (recorded_invariant go) initial).invariant
  refine ⟨recorded.sound.taken_le_one, ?_, ?_⟩
  · intro earlier call made
    have backed := recorded.made earlier call made
    refine ⟨backed, ?_⟩
    obtain ⟨operations, row, -, member, -, -, rfl⟩ := backed
    exact operations.constraints.targetPrivacy row member
  · intro later step id
    have writes := writes_step go step
    constructor
    · intro row found
      obtain ⟨current, found, same, moves⟩ := writes.row found
      exact ⟨current, found, moves, same.platformVideoID, same.targetPrivacy, same.attemptKey⟩
    · exact fun absent row found => writes.new absent found

def sampleRuntime : Runtime where
  round _ := ⟨false, [], 0⟩
  toLower char := char
  parseTime _ := .error "unused"
  digest _ _ := ""

def samplePublication : PublicationRow where
  id := 1
  productionTaskID := 2
  platform := "youtube"
  accountID := 3
  platformContentID := "video"
  title := ""
  description := ""
  desiredPrivacy := "unlisted"
  publishStatus := "uploaded"

def sampleTask : ProductionTaskRow where
  id := 2
  channelProfileID := 4
  targetAccountID := 3
  usesExternalAssets := false
  autoFlowPlanID := none
  state := .uploadedPrivate
  blockedByGuard := none
  ownedInventory := none

def sampleEnv : Env where
  ctxErr := none
  now := 1
  operationID := 5
  fence := .ok ()
  lockPromotionOperatorScope _ := .ok (samplePublication, sampleTask)
  lockOwnedProducer _ _ _ := .ok none
  ownedPendingPlan _ := .ok true
  requireOwnedPromotionPolicy _ _ _ _ := .ok ()
  requireOwnedRealPDS _ := .ok ()
  ownedPolicyEvidence _ _ := .ok ""
  getProductionTask _ := .ok sampleTask
  validPromotionPlanAuthority := .ok true
  validPreUploadHumanReview := .ok true
  validPromotionHumanReview := .ok true
  elsewhere := .ok ()
  statement _ := none
  commit := none
  observed := .error none
  decision := .ok ⟨"decision", "allow", "", ""⟩
  scheduled := .ok ()
  published := .error "unused"

def observingEnv : Env :=
  { sampleEnv with lockOwnedProducer _ _ _ := .error (.observation ⟨"", "", 0⟩) }

def sampleItem : QueueItemRow where
  id := 6
  kind := .promotePublication
  idempotencyKey := "promote"
  payloadJSON := Dict.empty.set "publication_id" (.string (uuidString 1))
  status := .running
  priority := 0
  attemptCount := 1
  maxAttempts := 3
  runAfter := 0
  createdAt := 0
  lockedAt := some 0
  lockedBy := some "runner"
  lastError := none
  deadLetterAt := none
  channelProfileID := some 4
  parentQueueItemID := none

def checks : Pool.Checks promoting System Env Note Unit (Except String Unit) Unit where
  program _ := (Handler.handlePromotePublication
    ⟨sampleRuntime, true, false, true, true⟩ sampleItem 1).run
  note _ := none
  start _ _ := true
  call _ _ _ _ _ := true
  abandon _ := true

theorem checks_sound : checks.Sound rules where
  start _ _ _ := ⟨_, sampleItem, 1, rfl, rfl⟩
  call _ _ _ _ _ _ := trivial
  abandon _ _ := trivial

/-- Two attempts, one after the other. The first of them submits. -/
def twoAttempts : List (Pool.Action Env Unit) :=
  .start () :: List.replicate 6 (.call 0 sampleEnv) ++
    .call 0 observingEnv :: List.replicate 8 (.call 0 sampleEnv) ++
    .finish 0 :: .start () :: List.replicate 2 (.call 0 sampleEnv)

theorem promotion_submission_reentered :
  ∃ pool : Pool promoting System Note Unit (Except String Unit),
    Pool.Reachable (machine sampleRuntime) observer rules System.initial pool ∧
      pool.state.journal.countP (Event.calls ("channelops-promotion:" ++ uuidString 5)) = 1 ∧
      ∀ key, pool.state.journal.countP (Event.calls key) ≤ 1 := by
  have ran : ((Pool.play (machine sampleRuntime) observer checks twoAttempts
    ⟨System.initial, []⟩).any fun pool =>
      pool.state.journal.countP (Event.calls
        ("channelops-promotion:" ++ uuidString 5)) = 1) = true := by
    decide +kernel
  obtain ⟨reached, called⟩ := (Option.any_eq_true_iff_get _ _).1 ran
  have reachable := Pool.steps_of_play checks_sound (Option.some_get reached).symm
  exact ⟨_, reachable, of_decide_eq_true called, (promotion_submission sampleRuntime reachable).1⟩

end VideoProcess.Promotion
