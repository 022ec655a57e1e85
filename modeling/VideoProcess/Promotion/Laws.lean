import VideoProcess.Promotion.Handler

namespace VideoProcess.Promotion

open Data Program Fallible ChannelOps

/-! What a phase does to the table of operations. -/

inductive Moves : PromotionStatus → PromotionStatus → Prop
  | stay (status : PromotionStatus) : Moves status status
  | submit : Moves .reserved .submitting
  | doubt : Moves .submitting .uncertain
  | confirm : Moves .submitting .confirmed
  | resolve : Moves .uncertain .confirmed
  | finalize : Moves .confirmed .finalized

theorem Moves.not_reserved (moves : Moves before after) (started : before ≠ .reserved) :
  after ≠ .reserved := by
  cases moves with
  | stay => exact started
  | submit | doubt | confirm | resolve | finalize => simp

/-- The statuses in which an assignment is made. -/
def Change.Valid : Change → PromotionStatus → Prop
  | .decided _, _ => True
  | .submitting _, status => status = .reserved
  | .uncertain _, status => status = .submitting ∨ status = .uncertain
  | .confirmed _, status => status = .submitting ∨ status = .uncertain ∨ status = .confirmed
  | .finalized, status => status = .confirmed

variable {change : Change}

theorem moves_apply {row : PromotionOperationRow} (valid : change.Valid row.status) :
  Moves row.status (row.apply change).status := by
  cases change with
  | decided => exact .stay row.status
  | submitting =>
    rw [show row.status = .reserved from valid]
    exact .submit
  | uncertain =>
    rcases valid with same | same <;> rw [same]
    · exact .doubt
    · exact .stay .uncertain
  | confirmed =>
    rcases valid with same | same | same <;> rw [same]
    · exact .confirm
    · exact .resolve
    · exact .stay .confirmed
  | finalized =>
    rw [show row.status = .confirmed from valid]
    exact .finalize

inductive Updates (before : Operations) : Operations → Prop
  | same : Updates before before
  | write {row : PromotionOperationRow} (member : row ∈ before.table.rows)
    (change : Change) (valid : change.Valid row.status) :
    Updates before (before.write row.id change)

inductive Writes (before : Operations) : Operations → Prop
  | same : Writes before before
  | insert {row : PromotionOperationRow} {after : Operations}
    (new : row.status = .reserved)
    (inserted : before.insert row = some after) : Writes before after
  | write {row : PromotionOperationRow} (member : row ∈ before.table.rows)
    (change : Change) (valid : change.Valid row.status) :
    Writes before (before.write row.id change)

namespace Operations

variable {operations after : Operations} {id : Uuid} {change : Change} {row : PromotionOperationRow}

theorem insert_eq_some (inserted : operations.insert row = some after) :
  operations.table.insert row = some after.table := by
  unfold insert at inserted
  split at inserted
  · cases inserted
  next placed =>
    split at inserted
    · cases inserted
      exact placed
    · cases inserted

theorem find?_eq_some_iff : operations.find? id = some row ↔
  row ∈ operations.table.rows ∧ row.id = id := Table.find?_eq_some_iff

theorem find?_write (wanted : Uuid) : (operations.write id change).find? wanted =
  (operations.find? wanted).map (written id change) :=
  Table.find?_update operations.table _ _ (fun row => (same_written id change row).id) wanted

theorem mem_forPublication (found : operations.forPublication publicationID = some row) :
  row ∈ operations.table.rows := List.mem_of_find?_eq_some found

theorem update_eq_some (result : operations.update id wanted change = some (updated, after)) :
  ∃ row, operations.find? id = some row ∧ wanted row = true ∧
    updated = row.apply change ∧ after = operations.write row.id change := by
  unfold update at result
  split at result
  · cases result
  next row found =>
    split at result
    next chosen =>
      cases result
      obtain ⟨_, rfl⟩ := find?_eq_some_iff.1 found
      exact ⟨row, found, chosen, rfl, rfl⟩
    · cases result

end Operations

namespace Updates

variable {before after : Operations}

theorem of_update {id : Uuid} (valid : ∀ row, wanted row = true → change.Valid row.status)
  (result : before.update id wanted change = some (updated, after)) :
  Updates before after := by
  obtain ⟨row, found, chosen, rfl, rfl⟩ := Operations.update_eq_some result
  exact .write (Operations.find?_eq_some_iff.1 found).1 change (valid row chosen)

theorem writes (updates : Updates before after) : Writes before after := by
  cases updates with
  | same => exact .same
  | write member change valid => exact .write member change valid

theorem earlier (updates : Updates before after) {row : PromotionOperationRow}
  (member : row ∈ after.table.rows) :
  ∃ earlier ∈ before.table.rows, row.Same earlier := by
  cases updates with
  | same => exact ⟨row, member, .refl row⟩
  | @write other present change valid =>
    simp only [Operations.write, Table.rows_update, if_true] at member
    obtain ⟨earlier, found, rfl⟩ := List.mem_map.1 member
    exact ⟨earlier, found, Operations.same_written other.id change earlier⟩

end Updates

namespace Writes

variable {before after : Operations}

theorem row (writes : Writes before after) {id : Uuid}
  {row : PromotionOperationRow} (found : before.find? id = some row) :
  ∃ current, after.find? id = some current ∧ current.Same row ∧
    Moves row.status current.status := by
  cases writes with
  | same => exact ⟨row, found, .refl row, .stay _⟩
  | @insert row' after new inserted =>
    refine ⟨row, ?_, .refl row, .stay _⟩
    have placed := Operations.insert_eq_some inserted
    rw [Operations.find?, Table.find?_insert placed, if_neg]
    · exact found
    · intro same
      obtain ⟨member, key⟩ := Operations.find?_eq_some_iff.1 found
      exact (Table.insert_eq_some_iff.1 placed).1 row member (key.trans same.symm)
  | @write other member change valid =>
    obtain ⟨present, rfl⟩ := Operations.find?_eq_some_iff.1 found
    refine ⟨Operations.written other.id change row, ?_,
      Operations.same_written other.id change row, ?_⟩
    · rw [Operations.find?_write, found]
      rfl
    · unfold Operations.written
      split
      next same =>
        rw [before.table.eq_of_key_eq present member same]
        exact moves_apply valid
      · exact .stay _

theorem new (writes : Writes before after) {id : Uuid}
  {row : PromotionOperationRow} (absent : before.find? id = none)
  (found : after.find? id = some row) : row.status = .reserved := by
  cases writes with
  | same =>
    rw [absent] at found
    cases found
  | insert new inserted =>
    have placed := Operations.insert_eq_some inserted
    rw [Operations.find?, Table.find?_insert placed] at found
    split at found
    · cases found
      exact new
    · rw [show before.table.find? id = none from absent] at found
      cases found
  | write =>
    rw [Operations.find?_write, absent] at found
    cases found

end Writes

namespace Store

variable {go : Runtime} {env : Env} {operations after : Operations}
  {evidence : Option OwnedHistoryRedisEvidence} {id : Uuid}
  {row : PromotionOperationRow}

theorem find?_getPromotionOperation (got : getPromotionOperation env operations id = .ok row) :
  operations.find? id = some row := by
  obtain ⟨_, -, got⟩ := bind_eq_ok got
  split at got
  · cases got
  next found =>
    cases got
    exact found

theorem upsert_cases (done : upsert env operations new = .ok (row, after)) :
  Updates operations after ∨ operations.insert new = some after := by
  obtain ⟨_, -, done⟩ := bind_eq_ok done
  split at done
  next found =>
    cases done
    exact .inl (.write (Operations.mem_forPublication found) _ trivial)
  · split at done
    · cases done
    next inserted =>
      cases done
      exact .inr inserted

theorem reserve_cases {publication : PublicationRow}
  (done : reservePromotionOperation go env operations evidence publication
    queueItemID targetPrivacy scheduledAt decision = .ok (row, after)) :
  Updates operations after ∨ ∃ new : PromotionOperationRow, new.status = .reserved ∧
    new.publicationID = publication.id ∧
    operations.insert new = some after := by
  obtain ⟨_, -, done⟩ := bind_eq_ok done
  obtain ⟨⟨_, _⟩, inserted, done⟩ := bind_eq_ok done
  dsimp only at done
  split at done
  · cases done
  · cases done
    exact (upsert_cases inserted).imp_right fun new => ⟨_, rfl, rfl, new⟩

theorem begin_cases (done : beginPromotionSubmission env operations evidence id =
  .ok ((row, shouldSubmit), after)) :
  (shouldSubmit = false ∧ after = operations) ∨ ∃ reserved, operations.find? id = some reserved ∧
    reserved.status = .reserved ∧
    row = reserved.apply (.submitting env.now) ∧
    after = operations.write reserved.id (.submitting env.now) := by
  obtain ⟨_, -, done⟩ := bind_eq_ok done
  split at done
  · cases done
    exact .inl ⟨rfl, rfl⟩
  · obtain ⟨_, -, done⟩ := bind_eq_ok done
    split at done
    next updated =>
      cases done
      obtain ⟨reserved, found, chosen, same, rfl⟩ := Operations.update_eq_some updated
      exact .inr ⟨reserved, found, of_decide_eq_true chosen, same, rfl⟩
    · obtain ⟨_, -, done⟩ := bind_eq_ok done
      cases done
      exact .inl ⟨rfl, rfl⟩

theorem updates_updateOrGet (valid : ∀ row, wanted row = true → change.Valid row.status)
  (done : updateOrGet env operations id wanted change = .ok (row, after)) :
  Updates operations after := by
  obtain ⟨_, -, done⟩ := bind_eq_ok done
  split at done
  next updated =>
    cases done
    exact .of_update valid updated
  · obtain ⟨_, -, done⟩ := bind_eq_ok done
    cases done
    exact .same

theorem updates_confirm (done : confirmPromotionOperation go env operations id status =
  .ok (row, after)) : Updates operations after := by
  unfold confirmPromotionOperation at done
  dsimp only at done
  split at done
  · cases done
  · obtain ⟨⟨_, written⟩, updated, done⟩ := bind_eq_ok done
    have updates : Updates operations written := by
      apply updates_updateOrGet _ updated
      intro row chosen
      simpa [confirmable, Change.Valid, and_assoc] using (Bool.and_eq_true_iff.1 chosen).2
    dsimp only at done
    split at done
    · cases done
      exact updates
    · split at done
      · cases done
      · cases done
        exact updates

theorem updates_markUncertain
  (done : markPromotionOperationUncertain go env operations id status reason =
    .ok (row, after)) : Updates operations after := by
  unfold markPromotionOperationUncertain at done
  dsimp only at done
  split at done
  · cases done
  · apply updates_updateOrGet _ done
    intro row chosen
    simpa [Change.Valid] using chosen

theorem updates_finalize {result : Unit} (done : finalizePromotionOperation go env operations id =
  .ok (result, after)) : Updates operations after := by
  obtain ⟨_, -, done⟩ := bind_eq_ok done
  split at done
  · cases done
    exact .same
  · split at done
    · cases done
    · split at done
      · cases done
      · obtain ⟨_, -, done⟩ := bind_eq_ok done
        obtain ⟨_, -, done⟩ := bind_eq_ok done
        split at done
        next updated =>
          cases done
          apply Updates.of_update _ updated
          intro row chosen
          simpa [Change.Valid] using chosen
        · cases done

end Store

def Commits (before after : System) : Prop :=
  after = before ∨ Writes before.operations after.operations ∧
    after = before.commit after.operations

section

variable {go : Runtime} {env : Env} {system : System} {item : QueueItemRow}
  {prepared : PromotionPreparation} {evidence : Option OwnedHistoryRedisEvidence}
  {operations after : Operations} {α κ : Type} {publication : PublicationRow}
  {task : ProductionTaskRow} {decision : PDSDecision} {reserving : PromotionPreparation}
  {captured claimed : Phase.Claimed} {request : Request}

theorem transact_cases (env : Env) (system : System) (body : Except Failure (α × Operations)) :
  (transact env system body).2 = system ∨ ∃ result after, body = .ok (result, after) ∧
    (transact env system body).2 = system.commit after := by
  unfold transact
  split
  · exact .inl rfl
  · exact .inl rfl
  · exact .inr ⟨_, _, rfl, rfl⟩
  · dsimp only
    split
    · exact .inr ⟨_, _, rfl, rfl⟩
    · exact .inl rfl

theorem enter_cases (env : Env) (system : System) (captured : κ)
  (closure : κ × Except Failure Operations) :
  (enter env system captured closure).2 = system ∨ ∃ after, closure.2 = .ok after ∧
    (enter env system captured closure).2 = system.commit after := by
  rcases transact_cases env system (closure.2.map fun after => ((), after)) with same |
    ⟨_, after, done, committed⟩
  · exact .inl same
  · refine .inr ⟨after, ?_, committed⟩
    cases returned : closure.2 with
    | error =>
      rw [returned] at done
      cases done
    | ok =>
      rw [returned] at done
      cases done
      rfl

theorem transact_eq_ok {body : Except Failure (α × Operations)} {result : α}
  (done : (transact env system body).1 = .ok result) :
  ∃ after, body = .ok (result, after) ∧ (transact env system body).2 = system.commit after := by
  unfold transact at done ⊢
  split at done
  · cases done
  · cases done
  · cases done
    exact ⟨_, rfl, rfl⟩
  · cases done

variable {closure : κ × Except Failure Operations}

theorem enter_eq_ok {captured claimed : κ}
  (entered : (enter env system captured closure).1 = (claimed, .ok ())) :
  ∃ after, closure = (claimed, .ok after) ∧
    (enter env system captured closure).2 = system.commit after := by
  obtain ⟨same, done⟩ := Prod.mk.inj entered
  obtain ⟨after, returned, committed⟩ := transact_eq_ok done
  obtain ⟨_, outcome⟩ := closure
  cases outcome with
  | error => cases returned
  | ok =>
    cases returned
    refine ⟨after, ?_, committed⟩
    cases passed : env.fence with
    | ok =>
      rw [passed] at same
      exact congrArg (·, Except.ok after) same
    | error => simp [transact, passed] at done

theorem enter_observed {captured claimed : κ} {request : OwnedHistoryObservationRequest}
  (entered : (enter env system captured closure).1 = (claimed, .error (.observation request))) :
  claimed = captured ∨ closure = (claimed, .error (.observation request)) := by
  obtain ⟨same, done⟩ := Prod.mk.inj entered
  obtain ⟨_, outcome⟩ := closure
  cases passed : env.fence with
  | error =>
    rw [passed] at same
    exact .inl same.symm
  | ok =>
    rw [passed] at same
    cases outcome with
    | error =>
      simp only [transact, passed] at done
      cases done
      exact .inr (congrArg (·, _) same)
    | ok =>
      simp only [transact, passed, Except.map] at done
      cases ended : env.commit with
      | none | some =>
        rw [ended] at done
        cases done

theorem lockScope_eq_ok (locked : Phase.lockScope go env prepared = .ok (publication, task)) :
  ∃ scope, prepared.scope = some scope ∧
    env.lockPromotionOperatorScope (uuidString scope.publication.id) = .ok (publication, task) := by
  unfold Phase.lockScope at locked
  split at locked
  · cases locked
  next scope known =>
    obtain ⟨⟨_, _⟩, found, locked⟩ := bind_eq_ok locked
    dsimp only at locked
    split at locked
    · cases locked
    · cases locked
      exact ⟨scope, known, found⟩

theorem verdictRuling_reserve
  (ruled : Phase.verdictRuling env item prepared publication task decision =
    .ok (.reserve reserving publication')) :
  decision.verdict = "allow" ∧ publication' = publication := by
  unfold Phase.verdictRuling at ruled
  split at ruled
  · cases ruled
  · cases ruled
  · dsimp only at ruled
    -- The alert comes before the verdict is looked at, if there is one.
    have looked : (if decision.verdict ≠ "allow" then
      pure (.returned { prepared with skip := true } (Phase.hold env).2)
      else pure (.reserve prepared publication) : Except Failure Phase.Ruling) =
        .ok (.reserve reserving publication') := by
      split at ruled
      · obtain ⟨_, -, ruled⟩ := bind_eq_ok ruled
        exact ruled
      · exact ruled
    split at looked
    · cases looked
    next allowed =>
      cases looked
      exact ⟨not_not.1 allowed, rfl⟩

theorem ownedRuling_inl {request : PDSDecisionRequest} :
  Phase.ownedRuling go env prepared scope request publication task producer
    decision ≠ .ok (.inl (.reserve reserving publication')) := by
  intro ruled
  unfold Phase.ownedRuling at ruled
  split at ruled
  · cases ruled
  · obtain ⟨_, -, ruled⟩ := bind_eq_ok ruled
    obtain ⟨_, -, ruled⟩ := bind_eq_ok ruled
    split at ruled
    · cases ruled
    · split at ruled
      · cases ruled
      · obtain ⟨_, -, ruled⟩ := bind_eq_ok ruled
        obtain ⟨_, -, ruled⟩ := bind_eq_ok ruled
        cases ruled

theorem ruling_reserve (ruled : Phase.ruling go env item prepared decision evidence operations =
  .ok (.reserve reserving publication)) :
  decision.verdict = "allow" ∧ ∃ scope task, prepared.scope = some scope ∧
    env.lockPromotionOperatorScope (uuidString scope.publication.id) = .ok (publication, task) := by
  obtain ⟨⟨_, task⟩, taken, ruled⟩ := bind_eq_ok ruled
  obtain ⟨scope, known, found⟩ := lockScope_eq_ok taken
  obtain ⟨_, -, ruled⟩ := bind_eq_ok ruled
  split at ruled
  · obtain ⟨_, -, ruled⟩ := bind_eq_ok ruled
    cases ruled
  · split at ruled
    · cases ruled
    · split at ruled
      · cases ruled
      · obtain ⟨_, owned, ruled⟩ := bind_eq_ok ruled
        split at ruled
        · cases ruled
          exact absurd owned ownedRuling_inl
        · obtain ⟨allowed, rfl⟩ := verdictRuling_reserve ruled
          exact ⟨allowed, scope, task, known, found⟩
  · cases ruled

theorem finalizeDecision_cases {captured : PromotionPreparation}
  (done : (Phase.finalizePromotionDecision go env item captured decision
    evidence operations).2 = .ok after) :
  Updates operations after ∨ ∃ new : PromotionOperationRow, new.status = .reserved ∧
    operations.insert new = some after ∧ decision.verdict = "allow" ∧
    ∃ scope publication task, captured.scope = some scope ∧
      env.lockPromotionOperatorScope (uuidString scope.publication.id) = .ok (publication, task) ∧
      new.publicationID = publication.id := by
  unfold Phase.finalizePromotionDecision at done
  split at done
  · cases done
  · cases done
    exact .inl .same
  · cases done
  next ruled =>
    split at done
    · cases done
    next reserved =>
      cases done
      obtain ⟨allowed, scope, task, known, locked⟩ := ruling_reserve ruled
      refine (Store.reserve_cases reserved).imp_right ?_
      rintro ⟨new, open_, same, inserted⟩
      exact ⟨new, open_, inserted, allowed, scope, _, task, known, locked, same⟩

theorem writes_finalizeDecision {captured : PromotionPreparation}
  (done : (Phase.finalizePromotionDecision go env item captured decision
    evidence operations).2 = .ok after) : Writes operations after := by
  rcases finalizeDecision_cases done with updates | ⟨_, open_, inserted, -⟩
  · exact updates.writes
  · exact .insert open_ inserted

theorem hold_ne_safe : Phase.hold env ≠ (false, failure) := by
  unfold Phase.hold
  split <;> simp

theorem reviewed_of_safe (checked : Phase.validatePromotionSafety env item task = (false, none))
  (external : task.usesExternalAssets = true) :
  env.validPromotionHumanReview = .ok true := by
  simp only [Phase.validatePromotionSafety, external, if_true, Bool.true_or] at checked
  split at checked
  · cases checked
  · exact absurd checked hold_ne_safe
  · cases checked
  · exact absurd checked hold_ne_safe
  · cases checked
  · exact absurd checked hold_ne_safe
  · assumption

/-- What has been checked of the row that a submission begins on. -/
structure Begins (go : Runtime) (env : Env) (item : QueueItemRow)
  (prepared : PromotionPreparation) (operations : Operations)
  (reserved : PromotionOperationRow) : Prop where
  member : reserved ∈ operations.table.rows
  status : reserved.status = .reserved
  checked : ∃ publication task, Phase.lockPreparedPromotionScope go env item prepared operations =
    .ok (publication, task, reserved) ∧
    publication.id = reserved.publicationID ∧
    Phase.validatePromotionSafety env item task = (false, none)

theorem lockPrepared_eq_ok {row : PromotionOperationRow}
  (locked : Phase.lockPreparedPromotionScope go env item prepared operations =
    .ok (publication, task, row)) :
  row ∈ operations.table.rows ∧ publication.id = row.publicationID := by
  obtain ⟨⟨_, _⟩, -, locked⟩ := bind_eq_ok locked
  dsimp only at locked
  split at locked
  · cases locked
  · obtain ⟨_, got, locked⟩ := bind_eq_ok locked
    obtain ⟨_, valid, locked⟩ := bind_eq_ok locked
    cases locked
    unfold Phase.validatePromotionOperationAuthority at valid
    split at valid
    · cases valid
    next same =>
      refine ⟨(Operations.find?_eq_some_iff.1 (Store.find?_getPromotionOperation got)).1, ?_⟩
      exact (not_not.1 (not_or.1 same).1).symm

theorem claimable_eq_ok {row : PromotionOperationRow}
  (claims : Phase.claimable go env item prepared evidence operations =
    .ok (row, held, failure)) (open_ : row.status = .reserved) :
  ∃ publication task, Phase.lockPreparedPromotionScope go env item prepared operations =
    .ok (publication, task, row) ∧
    Phase.validatePromotionSafety env item task = (held, failure) := by
  obtain ⟨⟨publication, task, locked⟩, found, claims⟩ := bind_eq_ok claims
  refine ⟨publication, task, ?_⟩
  dsimp only at claims
  split at claims
  next started =>
    cases claims
    exact absurd open_ started
  · obtain ⟨_, -, claims⟩ := bind_eq_ok claims
    split at claims
    · cases claims
    · have checked : pure (locked, Phase.validatePromotionSafety env item task) =
        (.ok (row, held, failure) : Except Failure _) := by
        split at claims
        · obtain ⟨_, -, claims⟩ := bind_eq_ok claims
          exact claims
        · exact claims
      obtain ⟨rfl, same⟩ := Prod.mk.inj (Except.ok.inj checked)
      exact ⟨found, same⟩

theorem begin_cases (done : Phase.beginPromotionSubmission go env item prepared evidence captured
  operations = (claimed, .ok after)) :
  (after = operations ∧ (captured.shouldSubmit = false → claimed.shouldSubmit = false)) ∨
    ∃ reserved, Begins go env item prepared operations reserved ∧
      claimed.operation = some (reserved.apply (.submitting env.now)) ∧
      after = operations.write reserved.id (.submitting env.now) := by
  unfold Phase.beginPromotionSubmission at done
  split at done
  · cases done
  next locked _ _ claims =>
    split at done
    · cases done
      exact .inl ⟨rfl, fun fresh => fresh⟩
    next reserving =>
      have open_ := not_not.1 reserving
      split at done
      · cases done
      · cases done
        exact .inl ⟨rfl, fun fresh => fresh⟩
      · split at done
        · cases done
        next begun =>
          cases done
          rcases Store.begin_cases begun with ⟨rfl, rfl⟩ | ⟨reserved, found, status, rfl, rfl⟩
          · exact .inl ⟨rfl, fun _ => rfl⟩
          · obtain ⟨publication, task, scope, checked⟩ := claimable_eq_ok claims open_
            obtain ⟨member, authority⟩ := lockPrepared_eq_ok scope
            -- The row that is written is the one that was locked.
            have same : reserved = locked := Option.some.inj
              (found.symm.trans (Operations.find?_eq_some_iff.2 ⟨member, rfl⟩))
            subst same
            exact .inr ⟨reserved, ⟨member, status, publication, task, scope,
              authority, checked⟩, rfl, rfl⟩

theorem begin_failed {failure : Failure}
  (done : Phase.beginPromotionSubmission go env item prepared evidence captured
    operations = (claimed, .error failure))
  (fresh : captured.shouldSubmit = false) : claimed.shouldSubmit = false := by
  unfold Phase.beginPromotionSubmission at done
  split at done
  · cases done
    exact fresh
  · split at done
    · cases done
    · split at done
      · cases done
        exact fresh
      · cases done
      · split at done
        · cases done
          rfl
        · cases done

theorem updates_begin (done : (Phase.beginPromotionSubmission go env item prepared evidence
  captured operations).2 = .ok after) : Updates operations after := by
  rcases begin_cases (Prod.ext rfl done) with ⟨rfl, -⟩ | ⟨_, begins, -, rfl⟩
  · exact .same
  · exact .write begins.member _ begins.status

variable {result : Unit}

theorem updates_finalizeOperation
  (done : Phase.finalizePromotionOperation go env item prepared operations =
    .ok (result, after)) : Updates operations after := by
  obtain ⟨⟨_, _, _⟩, -, done⟩ := bind_eq_ok done
  dsimp only at done
  split at done
  · cases done
    exact .same
  · split at done
    · cases done
    · split at done
      · cases done
        exact .same
      · split at done
        · cases done
          exact .same
        · split at done
          · cases done
          · cases done
            exact .same
          · exact Store.updates_finalize done

theorem same_hold (done : Phase.holdUncertainPromotionOperation go env item prepared
  operations = .ok (result, after)) : after = operations := by
  obtain ⟨⟨_, _, _⟩, -, done⟩ := bind_eq_ok done
  dsimp only at done
  split at done
  · cases done
    rfl
  · split at done
    · cases done
      rfl
    · obtain ⟨_, -, done⟩ := bind_eq_ok done
      cases done
      rfl

theorem updates_withLocked
  (updates : ∀ {operation row after}, dispatch operation = .ok (row, after) →
    Updates operations after)
  (done : withLocked go env item prepared operations dispatch =
    .ok (row, after)) : Updates operations after := by
  obtain ⟨⟨_, _, _⟩, -, done⟩ := bind_eq_ok done
  exact updates done

section

variable (go : Runtime) (env : Env) (system : System)

theorem updates_exec (other : ∀ call, request ≠ .schedulePublish call)
  (undecided : ∀ item decision evidence captured, request ≠
    .finalizePromotionDecision item decision evidence captured) :
  (exec go env request system).2 = system ∨
    ∃ after, (exec go env request system).2 = system.commit after ∧
      Updates system.operations after := by
  cases request with
  | ctxErr | decide | observeOwnedHistoryRedis | publicationStatus => exact .inl rfl
  | schedulePublish call => exact absurd rfl (other call)
  | finalizePromotionDecision item decision evidence captured =>
    exact absurd rfl (undecided item decision evidence captured)
  | preparePromotion =>
    refine (enter_cases env system _ _).imp_right ?_
    rintro ⟨after, done, committed⟩
    refine ⟨after, committed, ?_⟩
    dsimp only at done
    split at done
    · cases done
      exact .same
    · cases done
  | beginPromotionSubmission =>
    refine (enter_cases env system _ _).imp_right ?_
    rintro ⟨after, done, committed⟩
    exact ⟨after, committed, updates_begin done⟩
  | lockPromotionOperation =>
    refine (transact_cases env system _).imp_right ?_
    rintro ⟨row, after, done, committed⟩
    refine ⟨after, committed, updates_withLocked ?_ done⟩
    intro operation row after done
    cases done
    exact .same
  | confirmPromotionOperation =>
    refine (transact_cases env system _).imp_right ?_
    rintro ⟨_, after, done, committed⟩
    exact ⟨after, committed, updates_withLocked Store.updates_confirm done⟩
  | markPromotionOperationUncertain =>
    refine (transact_cases env system _).imp_right ?_
    rintro ⟨_, after, done, committed⟩
    exact ⟨after, committed, updates_withLocked Store.updates_markUncertain done⟩
  | finalizePromotionOperation =>
    refine (transact_cases env system _).imp_right ?_
    rintro ⟨_, after, done, committed⟩
    exact ⟨after, committed, updates_finalizeOperation done⟩
  | holdUncertainPromotionOperation =>
    refine (transact_cases env system _).imp_right ?_
    rintro ⟨_, after, done, committed⟩
    refine ⟨after, committed, ?_⟩
    rw [same_hold done]
    exact .same

theorem finalizeDecision_exec (item : QueueItemRow) (decision : PDSDecision)
  (evidence : Option OwnedHistoryRedisEvidence)
  (captured : PromotionPreparation) :
  (exec go env (.finalizePromotionDecision item decision evidence captured) system).2 = system ∨
    ∃ after, (exec go env (.finalizePromotionDecision item decision evidence
      captured) system).2 = system.commit after ∧
      (Phase.finalizePromotionDecision go env item captured decision evidence
        system.operations).2 = .ok after := by
  refine (enter_cases env system captured _).imp_right ?_
  rintro ⟨after, done, committed⟩
  exact ⟨after, committed, done⟩

theorem commits_exec (other : ∀ call, request ≠ .schedulePublish call) :
  Commits system (exec go env request system).2 := by
  by_cases decides : ∃ item decision evidence captured, request =
    .finalizePromotionDecision item decision evidence captured
  · obtain ⟨item, decision, evidence, captured, rfl⟩ := decides
    refine (finalizeDecision_exec go env system item decision evidence captured).imp_right ?_
    rintro ⟨_, same, done⟩
    rw [same]
    exact ⟨writes_finalizeDecision done, rfl⟩
  · simp only [not_exists] at decides
    refine (updates_exec go env system other decides).imp_right ?_
    rintro ⟨_, same, updates⟩
    rw [same]
    exact ⟨updates.writes, rfl⟩

theorem row_exec {row : PromotionOperationRow}
  (member : row ∈ (exec go env request system).2.operations.table.rows) :
  (∃ earlier ∈ system.operations.table.rows, row.Same earlier) ∨
    ∃ item decision evidence captured scope publication task,
      request = .finalizePromotionDecision item decision evidence captured ∧
      decision.verdict = "allow" ∧ captured.scope = some scope ∧
      env.lockPromotionOperatorScope (uuidString scope.publication.id) = .ok (publication, task) ∧
      row.publicationID = publication.id := by
  by_cases called : ∃ call, request = .schedulePublish call
  · obtain ⟨_, rfl⟩ := called
    exact .inl ⟨row, member, .refl row⟩
  by_cases decides : ∃ item decision evidence captured, request =
    .finalizePromotionDecision item decision evidence captured
  · obtain ⟨item, decision, evidence, captured, rfl⟩ := decides
    rcases finalizeDecision_exec go env system item decision evidence
      captured with same | ⟨after, same, done⟩
    · rw [same] at member
      exact .inl ⟨row, member, .refl row⟩
    · rw [same] at member
      rcases finalizeDecision_cases done with updates |
        ⟨_, -, inserted, allowed, scope, publication, task, known, locked, chosen⟩
      · exact .inl (updates.earlier member)
      · change row ∈ after.table.rows at member
        rw [(Table.insert_eq_some_iff.1 (Operations.insert_eq_some inserted)).2,
          Table.mem_place] at member
        rcases member with rfl | earlier
        · exact .inr ⟨item, decision, evidence, captured, scope, publication,
            task, rfl, allowed, known, locked, chosen⟩
        · exact .inl ⟨row, earlier, .refl row⟩
  · simp only [not_exists] at called decides
    rcases updates_exec go env system called decides with same | ⟨_, same, updates⟩
    · rw [same] at member
      exact .inl ⟨row, member, .refl row⟩
    · rw [same] at member
      exact .inl (updates.earlier member)

end

theorem begin_replied (fresh : captured.shouldSubmit = false)
  (submits : claimed.shouldSubmit = true)
  (replied : (exec go env (.beginPromotionSubmission item prepared evidence
    captured) system).1 = (claimed, .ok ())) :
  ∃ reserved, Begins go env item prepared system.operations reserved ∧
    claimed.operation = some (reserved.apply (.submitting env.now)) ∧
    (exec go env (.beginPromotionSubmission item prepared evidence captured)
      system).2 = system.commit (system.operations.write reserved.id (.submitting env.now)) := by
  obtain ⟨_, done, committed⟩ := enter_eq_ok replied
  rcases begin_cases done with ⟨-, silent⟩ | ⟨reserved, begins, same, rfl⟩
  · rw [silent fresh] at submits
    cases submits
  · exact ⟨reserved, begins, same, committed⟩

end

end VideoProcess.Promotion
