import VideoProcess.Program.Ledger
import VideoProcess.Upload.Protocol

namespace VideoProcess.Upload

open Data Program Upload.Database

/-! What one statement does to the operations, to the open claims and to the
answers given. -/

namespace Database

variable {database : Database} {id : Uuid} {transition : Transition}

theorem select_primaryKey (database : Database) (id : Uuid) :
  database.select (.primaryKey id) = database.operations.find? id := rfl

def written (id : Uuid) (transition : Transition) (row : Operation) : Operation :=
  if row.id = id then changed transition row else row

theorem persists_written (id : Uuid) (transition : Transition)
  (row : Operation) : row.Persists (written id transition row) := by
  unfold written
  split
  · exact persists_changed transition row
  · exact Operation.Persists.refl row

theorem rows_updateOperation : (database.updateOperation id transition).operations.rows =
  database.operations.rows.map (written id transition) := by
  simp only [updateOperation, Table.rows_update, decide_eq_true_eq]
  rfl

variable {wanted : Selection}

theorem select_updateOperation
  (stable : ∀ row, wanted.selects (written id transition row) = wanted.selects row) :
  (database.updateOperation id transition).select wanted =
    (database.select wanted).map (written id transition) := by
  have same : wanted.selects ∘ written id transition = wanted.selects := funext stable
  rw [select, rows_updateOperation, List.find?_map, same]
  rfl

theorem select_updateOperation_primaryKey (other : Uuid) :
  (database.updateOperation id transition).select (.primaryKey other) =
    (database.select (.primaryKey other)).map (written id transition) := by
  apply select_updateOperation
  intro row
  simp only [Selection.selects, (persists_written id transition row).id]

theorem select_updateOperation_node (nodeExecutionID : Uuid) :
  (database.updateOperation id transition).select (.node nodeExecutionID) =
    (database.select (.node nodeExecutionID)).map (written id transition) := by
  apply select_updateOperation
  intro row
  simp only [Selection.selects, (persists_written id transition row).node]

theorem written_of_take (found : database.select (.primaryKey id) = some row)
  (taken : row.take transition = some after) :
  written id transition row = after := by
  have key := (Table.find?_eq_some_iff.1 found).2
  rw [written, if_pos key, changed, taken, Option.getD_some]

theorem find_place_of_not (outside : wanted.selects row = false) :
  (Table.place Operation.id row rows).find? wanted.selects = rows.find? wanted.selects := by
  rw [← List.head?_filter, ← List.head?_filter, Table.filter_place_of_not outside]

theorem select_insert_node {operations : Table Operation.id} (admitted : database.admits row = true)
  (inserted : database.operations.insert row = some operations)
  (nodeExecutionID : Uuid) :
  operations.rows.find? (Selection.node nodeExecutionID).selects =
    if row.nodeExecutionID = nodeExecutionID then some row
    else database.select (.node nodeExecutionID) := by
  have rows := (Table.insert_eq_some_iff.1 inserted).2
  split
  next same =>
    rw [rows]
    have chosen : (Selection.node nodeExecutionID).selects row = true := by
      simpa [Selection.selects] using same
    have present : ((Table.place Operation.id row database.operations.rows).find?
      (Selection.node nodeExecutionID).selects).isSome = true :=
      List.find?_isSome.2 ⟨row, Table.mem_place.2 (.inl rfl), chosen⟩
    obtain ⟨first, found⟩ := Option.isSome_iff_exists.1 present
    rcases Table.mem_place.1 (List.mem_of_find?_eq_some found) with new | member
    · rw [found, new]
    · have other := List.all_eq_true.1 admitted first member
      have equal := List.find?_some found
      simp only [Selection.selects, decide_eq_true_eq] at equal
      simp [equal, same] at other
  next different =>
    rw [rows]
    exact find_place_of_not (by simpa [Selection.selects] using different)

end Database

inductive Writes (env : Env) (before : Database) : Statement → Table Operation.id → Prop
  | same (statement : Statement) : Writes env before statement before.operations
  | insert {db : Session} {context : UploadOperationContext}
    {task : Option Uuid} {operations : Table Operation.id}
    (admitted : before.admits (reserved env context task) = true)
    (inserted : before.operations.insert (reserved env context task) = some operations) :
    Writes env before (.insert db context task) operations
  | update {db : Session} {id : Uuid} {transition : Transition}
    {row : Operation} (found : before.select (.primaryKey id) = some row)
    (matched : (row.take transition).isSome = true) :
    Writes env before (.update db id transition) (before.updateOperation id transition).operations

section

variable (env : Env) (database : Database)

theorem execInsert_cases (row : Operation) (db : Session) :
  (∃ operations, database.admits row = true ∧ database.operations.insert row = some operations ∧
    execInsert row db database = (.ok (.inserted row), { database with operations }.release db)) ∨
    execInsert row db database = (.ok .integrityError, database) := by
  unfold execInsert
  split
  next admitted inserted => exact .inl ⟨_, admitted, inserted, rfl⟩
  · exact .inr rfl

theorem execUpdate_cases (db : Session) (id : Uuid) (transition : Transition) :
  (∃ row after, database.select (.primaryKey id) = some row ∧ row.take transition = some after ∧
    execUpdate db id transition database = (.ok (.updated (some after)),
      (database.updateOperation id transition).release db)) ∨
    execUpdate db id transition database = (.ok (.updated none), database) ∨
    execUpdate db id transition database = (.ok .integrityError, database) := by
  unfold execUpdate
  split
  · exact .inr (.inl rfl)
  next after matched =>
    obtain ⟨row, found, taken⟩ := Option.bind_eq_some_iff.1 matched
    split
    · exact .inr (.inr rfl)
    · exact .inl ⟨row, after, found, taken, rfl⟩

section

variable (statement : Statement)

theorem writes_exec : Writes env database statement (exec env statement database).2.operations := by
  have attempted {α : Type} {statement : Statement} {outcome : Except String α × Database}
    (writes : Writes env database statement outcome.2.operations) :
    Writes env database statement (interrupt env.fault database outcome).2.operations :=
    interrupt_state (fun after : Database =>
      Writes env database statement after.operations) (.same statement) writes
  cases statement with
  | openSession => exact .same _
  | select _ _ forUpdate =>
    apply attempted
    cases forUpdate <;> exact .same _
  | selectProductionTasks => exact attempted (.same _)
  | lockProducerRows | lockJobExecutionAuthority => exact attempted (.same _)
  | requireWorkerRegistrationLease => exact attempted (.same _)
  | requireLocalUpload | selectWorkerRegistration => exact attempted (.same _)
  | now => exact attempted (.same _)
  | insert db context task =>
    apply attempted
    rcases execInsert_cases database (reserved env context task) db with
      ⟨operations, admitted, inserted, same⟩ | same <;> rw [same]
    · exact .insert admitted inserted
    · exact .same _
  | update db id transition =>
    apply attempted
    rcases execUpdate_cases database db id transition with
      ⟨row, after, found, taken, same⟩ | same | same <;> rw [same]
    · exact .update found (by rw [taken]; rfl)
    · exact .same _
    · exact .same _
  | rollback | close | answer => exact .same _

def Database.ledger (database : Database) : List Uuid × List Answer :=
  (database.claims, database.answers)

theorem ledger_interrupt {outcome : Except String α × Database}
  (same : outcome.2.ledger = database.ledger) :
  (interrupt env.fault database outcome).2.ledger = database.ledger :=
  interrupt_state (fun after : Database => after.ledger = database.ledger) rfl same

theorem ledger_exec : (exec env statement database).2.ledger =
  match statement with
  | .openSession (.claim nodeExecutionID) =>
    (nodeExecutionID :: database.claims, database.answers)
  | .close _ (.claim nodeExecutionID) =>
    (database.claims.erase nodeExecutionID, database.answers)
  | .answer returned =>
    (database.claims, database.answers ++ [⟨returned, database.attempted returned.wanted⟩])
  | _ => database.ledger := by
  cases statement with
  | openSession purpose => cases purpose <;> rfl
  | close _ purpose => cases purpose <;> rfl
  | rollback | answer => rfl
  | select _ _ forUpdate =>
    apply ledger_interrupt env database
    cases forUpdate <;> rfl
  | insert db context task =>
    apply ledger_interrupt env database
    rcases execInsert_cases database (reserved env context task) db with
      ⟨_, _, _, same⟩ | same
    · rw [same]
      rfl
    · rw [same]
  | update db id transition =>
    apply ledger_interrupt env database
    rcases execUpdate_cases database db id transition with
      ⟨_, _, _, _, same⟩ | same | same
    · rw [same]
      rfl
    · rw [same]
    · rw [same]
  | selectProductionTasks | lockProducerRows | lockJobExecutionAuthority
  | requireWorkerRegistrationLease | requireLocalUpload
  | selectWorkerRegistration | now => exact ledger_interrupt env database rfl

theorem Statement.plain_cases : statement.Plain ∨
  (∃ nodeExecutionID, statement = .openSession (.claim nodeExecutionID)) ∨
  (∃ db nodeExecutionID, statement = .close db (.claim nodeExecutionID)) ∨
  (∃ returned, statement = .answer returned) ∨
  ∃ db id now, statement = .update db id (.attempting now) := by
  cases statement with
  | openSession purpose => cases purpose <;> simp [Plain]
  | close _ purpose => cases purpose <;> simp [Plain]
  | update _ _ transition => cases transition <;> simp [Plain]
  | answer => simp
  | _ => exact .inl trivial

end

theorem ledger_of_plain {statement : Statement} (plain : statement.Plain) :
  (exec env statement database).2.ledger = database.ledger := by
  rw [ledger_exec]
  split
  · exact plain.elim
  · exact plain.elim
  · exact plain.elim
  · rfl

end

def Advances (before after : Database) : Prop :=
  ∀ id row, before.select (.primaryKey id) = some row →
    ∃ current, after.select (.primaryKey id) = some current ∧ row.Persists current

theorem Advances.refl (database : Database) : Advances database database :=
  fun _ row found => ⟨row, found, Operation.Persists.refl row⟩

theorem Advances.trans (before : Advances first second) (after : Advances second third) :
  Advances first third := by
  intro id row found
  obtain ⟨middle, found, kept⟩ := before id row found
  obtain ⟨last, found, still⟩ := after id middle found
  exact ⟨last, found, kept.trans still⟩

theorem advances_exec (env : Env) (statement : Statement) (database : Database) :
  Advances database (exec env statement database).2 := by
  intro id row found
  have writes := writes_exec env database statement
  rw [select_primaryKey] at found ⊢
  generalize (exec env statement database).2.operations = operations at writes
  cases writes with
  | same => exact ⟨row, found, Operation.Persists.refl row⟩
  | insert _ inserted =>
    refine ⟨row, ?_, Operation.Persists.refl row⟩
    rw [Table.find?_insert inserted, if_neg]
    · exact found
    · intro same
      have new := (Table.insert_eq_some_iff.1 inserted).1
      obtain ⟨member, key⟩ := Table.find?_eq_some_iff.1 found
      exact new row member (key.trans same.symm)
  | @update _ changedID transition _ _ _ =>
    refine ⟨written changedID transition row, ?_, persists_written changedID transition row⟩
    exact (select_updateOperation_primaryKey id).trans (congrArg (Option.map _) found)

/-! Workers run side by side. In a calm run no update writes
`request_attempted_at` while a claim for the same node execution is on its
way. -/

namespace Database

def disturbs (database : Database) : Statement → Bool
  | .update _ id transition =>
    transition.attempts && (database.select (.primaryKey id)).any fun row =>
      row.nodeExecutionID ∈ database.claims
  | _ => false

end Database

def rules (calm : Prop) : Rules uploads Database Env Note Unit Unit where
  start _ program note := ∃ interpreter commands,
    program = worker interpreter [] commands ∧ note = Note.idle
  call _ _ statement _ database := database.grants statement = true ∧
    (calm → database.disturbs statement = false)
  abandon _ := False

def observer : Observer uploads Database Note Unit where
  note := Note.next
  silent := ()
  resume _ _ _ := ()
  hear _ _ _ := ()

def Answer.attempts (id : Uuid) (answer : Answer) : Bool := answer.returned = .markAttempting id

/-- Whoever has written an attempt owes its return. -/
def attempts : Ledger Database Note Uuid where
  taken database id := database.answers.countP (Answer.attempts id)
  owed note := note.attempted.toList
  begun database id := database.attempted (.primaryKey id) = true

theorem attempted_iff {database : Database} : database.attempted wanted = true ↔
  ∃ row, database.select wanted = some row ∧ row.requestAttemptedAt ≠ none := by
  unfold Database.attempted
  cases database.select wanted with
  | none => simp
  | some => simp [Option.isSome_iff_ne_none]

theorem attempted_of_advances {after : Database} {id : Uuid} (advances : Advances before after)
  (attempted : before.attempted (.primaryKey id) = true) :
  after.attempted (.primaryKey id) = true := by
  obtain ⟨row, found, set⟩ := attempted_iff.1 attempted
  obtain ⟨current, found, kept⟩ := advances id row found
  exact attempted_iff.2 ⟨current, found, kept.attempted set⟩

section

variable {database after : Database} {front back : List (Note × Unit)} {note : Note} {db : Session}

theorem update_replied {env : Env} {id : Uuid} {transition : Transition}
  (replied : (exec env (.update db id transition) database).1 = .ok (.updated (some row))) :
  ∃ before, database.select (.primaryKey id) = some before ∧ before.take transition = some row ∧
    (exec env (.update db id transition) database).2.select (.primaryKey id) = some row := by
  simp only [exec] at replied ⊢
  have executed := interrupt_eq_ok replied
  rw [executed] at replied ⊢
  rcases execUpdate_cases database db id transition with
    ⟨before, _, found, taken, same⟩ | same | same
  · rw [same] at replied ⊢
    cases replied
    refine ⟨before, found, taken, ?_⟩
    exact (select_updateOperation_primaryKey id).trans
      (by simp [found, written_of_take found taken])
  · rw [same] at replied
    cases replied
  · rw [same] at replied
    cases replied

theorem answers_of_ledger {before : Database}
  (same : after.ledger = before.ledger) : after.answers = before.answers := congrArg Prod.snd same

theorem sound_of_same {next : Note} (sound : attempts.Sound database (front ++ (note, ()) :: back))
  (advances : Advances database after)
  (answers : after.answers = database.answers)
  (same : next.attempted = note.attempted) :
  attempts.Sound after (front ++ (next, ()) :: back) := by
  apply sound.keep fun _ => attempted_of_advances advances
  · exact fun id => congrArg (List.countP (Answer.attempts id)) answers
  · exact congrArg Option.toList same

theorem sound_attempting {env : Env} {id : Uuid} {now : Time}
  (sound : attempts.Sound database (front ++ (note, ()) :: back)) :
  let answer := exec env (.update db id (.attempting now)) database
  attempts.Sound answer.2 (front ++
    (note.next (.update db id (.attempting now)) answer.1, ()) :: back) := by
  intro answer
  have advances : Advances database answer.2 := advances_exec env _ database
  have answers : answer.2.answers = database.answers :=
    answers_of_ledger (ledger_exec env database _)
  cases replied : answer.1 with
  | error => exact sound_of_same sound advances answers rfl
  | ok updated =>
    match updated with
    | .integrityError => exact sound_of_same sound advances answers rfl
    | .updated none => exact sound_of_same sound advances answers rfl
    | .updated (some row) =>
      obtain ⟨_, found, taken, current⟩ := update_replied replied
      obtain ⟨open_, same⟩ := Option.ite_none_right_eq_some.1 taken
      apply sound.owe fun _ => attempted_of_advances advances
      · exact fun id => congrArg (List.countP (Answer.attempts id)) answers
      · exact List.nodup_singleton id
      · intro other member
        cases List.mem_singleton.1 member
        constructor
        · intro attempted
          obtain ⟨_, found', set⟩ := attempted_iff.1 attempted
          rw [found] at found'
          cases found'
          exact set open_.2
        · refine attempted_iff.2 ⟨row, current, ?_⟩
          cases same
          simp

theorem sound_returning (env : Env) {id : Uuid}
  (sound : attempts.Sound database (front ++ (note, ()) :: back))
  (mine : note.attempted = some id) :
  attempts.Sound (exec env (.answer (.markAttempting id)) database).2
    (front ++ (note.next (.answer (.markAttempting id)) (), ()) :: back) := by
  have advances : Advances database (exec env (.answer (.markAttempting id)) database).2 :=
    advances_exec env _ database
  have counted (other : Uuid) :
    attempts.taken (exec env (.answer (.markAttempting id)) database).2 other =
      attempts.taken database other + if id = other then 1 else 0 := by
    simp [attempts, exec, Answer.attempts]
  apply sound.take (fun _ => attempted_of_advances advances) counted
  exact congrArg Option.toList mine

theorem attempts_invariant (calm : Prop) :
  Pool.Invariant machine observer (rules calm) protocol (fun _ => True) attempts.Sound where
  start := by
    intro database books program note sound permitted
    obtain ⟨_, commands, rfl, rfl⟩ := permitted
    constructor
    · exact Prog.wp_mono (returns_worker commands rfl) fun _ _ _ => trivial
    · exact sound.start rfl
  call := by
    intro database front note heard back statement env sound allowed granted
    refine ⟨rfl, ?_⟩
    simp only [Pool.map_listenBooks_unit]
    have advances := advances_exec env statement database
    rcases statement.plain_cases with plain | ⟨_, rfl⟩ |
      ⟨_, _, rfl⟩ | ⟨returned, rfl⟩ | ⟨_, id, _, rfl⟩
    · exact sound_of_same sound advances (answers_of_ledger (ledger_of_plain env database plain))
        (Note.keeps_of_plain plain).attempted
    · exact sound_of_same sound advances rfl rfl
    · exact sound_of_same sound advances rfl rfl
    · cases returned with
      | claim =>
        apply sound.keep (fun _ => attempted_of_advances advances) _ rfl
        intro id
        simp [attempts, exec, Answer.attempts]
      | markAttempting => exact sound_returning env sound allowed
    · exact sound_attempting sound
  leave := by
    intro database front note heard back _ sound
    exact sound.leave
  abandon := fun permitted _ => permitted.elim

end

def Unattempted (database : Database) (nodeExecutionID : Uuid) : Prop :=
  ∃ row, database.select (.node nodeExecutionID) = some row ∧ row.requestAttemptedAt = none

def Note.claims (nodeExecutionID : Uuid) (book : Note × Unit) : Bool :=
  book.1.claiming = some nodeExecutionID

structure Honest (database : Database) (books : List (Note × Unit)) : Prop where
  opened : ∀ nodeExecutionID, books.countP (Note.claims nodeExecutionID) ≤
    database.claims.count nodeExecutionID
  found : ∀ book ∈ books, ∀ nodeExecutionID,
    book.1.claiming = some nodeExecutionID → book.1.found = true →
      Unattempted database nodeExecutionID
  honest : ∀ answer ∈ database.answers, ∀ nodeExecutionID,
    answer.returned = .claim nodeExecutionID .submit → answer.attempted = false

section

variable {database : Database} {front back : List (Note × Unit)} {note next : Note}
  {nodeExecutionID : Uuid}

theorem attempted_written {id : Uuid} {transition : Transition}
  {row : Operation} (quiet : row.id = id → transition.attempts = false) :
  (written id transition row).requestAttemptedAt = row.requestAttemptedAt := by
  unfold written
  split
  next same =>
    unfold changed
    cases taken : row.take transition with
    | none => rfl
    | some => exact Operation.attempted_of_take taken (quiet same)
  · rfl

variable {statement : Statement}

theorem unattempted_exec (env : Env) (calm : database.disturbs statement = false)
  (claimed : nodeExecutionID ∈ database.claims)
  (unattempted : Unattempted database nodeExecutionID) :
  Unattempted (exec env statement database).2 nodeExecutionID := by
  obtain ⟨row, found, free⟩ := unattempted
  have writes := writes_exec env database statement
  unfold Unattempted Database.select
  generalize (exec env statement database).2.operations = operations at writes
  cases writes with
  | same => exact ⟨row, found, free⟩
  | @insert _ context task _ admitted inserted =>
    rw [select_insert_node admitted inserted]
    split
    · exact ⟨reserved env context task, rfl, rfl⟩
    · exact ⟨row, found, free⟩
  | @update _ id transition _ _ _ =>
    refine ⟨written id transition row, (select_updateOperation_node nodeExecutionID).trans
      (congrArg (Option.map _) found), ?_⟩
    rw [attempted_written, free]
    intro same
    have member := List.mem_of_find?_eq_some found
    have node : row.nodeExecutionID = nodeExecutionID := by
      simpa [Selection.selects] using List.find?_some found
    have keyed : database.select (.primaryKey id) = some row :=
      Table.find?_eq_some_iff.2 ⟨member, same⟩
    rw [Database.disturbs, keyed] at calm
    simpa [node, claimed] using calm

section

variable (honest : Honest database (front ++ (note, ()) :: back))

include honest

theorem Honest.claimed (member : book ∈ front ++ (note, ()) :: back)
  (claiming : book.1.claiming = some nodeExecutionID) :
  nodeExecutionID ∈ database.claims := by
  have counted : 0 < (front ++ (note, ()) :: back).countP (Note.claims nodeExecutionID) :=
    List.countP_pos_iff.2 ⟨book, member, by simpa [Note.claims] using claiming⟩
  exact List.count_pos_iff.1 (counted.trans_le (honest.opened nodeExecutionID))

theorem Honest.step (stays : ∀ nodeExecutionID ∈ database.claims,
    Unattempted database nodeExecutionID → Unattempted after nodeExecutionID)
  (opened : ∀ nodeExecutionID, after.claims.count nodeExecutionID +
    (if Note.claims nodeExecutionID (note, ()) then 1 else 0) =
    database.claims.count nodeExecutionID +
      (if Note.claims nodeExecutionID (next, ()) then 1 else 0))
  (learned : ∀ nodeExecutionID, next.claiming = some nodeExecutionID →
    next.found = true → Unattempted after nodeExecutionID)
  (answers : ∀ answer ∈ after.answers, answer ∈ database.answers ∨
    ∀ nodeExecutionID, answer.returned = .claim nodeExecutionID .submit →
      answer.attempted = false) :
  Honest after (front ++ (next, ()) :: back) where
  opened nodeExecutionID := by
    have before := honest.opened nodeExecutionID
    have balance := opened nodeExecutionID
    simp only [List.countP_append, List.countP_cons] at before ⊢
    omega
  found book member nodeExecutionID claiming found := by
    by_cases same : book = (next, ())
    · cases same
      exact learned nodeExecutionID claiming found
    · have present : book ∈ front ++ (note, ()) :: back := by
        simp only [List.mem_append, List.mem_cons, same, false_or] at member ⊢
        tauto
      exact stays nodeExecutionID (honest.claimed present claiming)
        (honest.found book present nodeExecutionID claiming found)
  honest answer member nodeExecutionID submits := by
    rcases answers answer member with earlier | new
    · exact honest.honest answer earlier nodeExecutionID submits
    · exact new nodeExecutionID submits

end

theorem select_replied (replied : (exec env (.select db wanted forUpdate) database).1 = .ok row) :
  database.select wanted = row ∧
    (exec env (.select db wanted forUpdate) database).2.select wanted = row := by
  simp only [exec] at replied ⊢
  have executed := interrupt_eq_ok replied
  rw [executed] at replied ⊢
  cases replied
  refine ⟨rfl, ?_⟩
  cases forUpdate <;> rfl

theorem insert_replied
  (replied : (exec env (.insert db context task) database).1 = .ok (.inserted row)) :
  (exec env (.insert db context task) database).2.select
    (.node context.nodeExecutionID) = some (reserved env context task) := by
  simp only [exec] at replied ⊢
  have executed := interrupt_eq_ok replied
  rw [executed] at replied ⊢
  rcases execInsert_cases database (reserved env context task) db with
    ⟨_, admitted, inserted, same⟩ | same
  · rw [same]
    exact (select_insert_node admitted inserted _).trans (if_pos rfl)
  · rw [same] at replied
    cases replied

theorem unattempted_of_found (env : Env) (plain : statement.Plain) (unknown : note.found = false)
  (claiming : note.claiming = some nodeExecutionID)
  (found : (note.next statement (exec env statement database).1).found = true) :
  Unattempted (exec env statement database).2 nodeExecutionID := by
  cases statement with
  | select db wanted forUpdate =>
    cases replied : (exec env (.select db wanted forUpdate) database).1 with
    | error =>
      rw [replied] at found
      cases wanted <;> cases unknown.symm.trans found
    | ok row =>
      rw [replied] at found
      obtain ⟨-, current⟩ := select_replied replied
      cases wanted with
      | node =>
        cases row with
        | none => cases unknown.symm.trans found
        | some row =>
          simp only [Note.next] at found
          split at found
          next seen =>
            cases claiming.symm.trans seen.1
            exact ⟨row, current, seen.2⟩
          · cases unknown.symm.trans found
      | primaryKey | productionTask | video => cases unknown.symm.trans found
  | insert db context task =>
    cases replied : (exec env (.insert db context task) database).1 with
    | error =>
      rw [replied] at found
      cases unknown.symm.trans found
    | ok inserted =>
      rw [replied] at found
      cases inserted with
      | integrityError => cases unknown.symm.trans found
      | inserted =>
        have current := insert_replied replied
        simp only [Note.next] at found
        split at found
        next seen =>
          cases claiming.symm.trans seen
          exact ⟨_, current, rfl⟩
        · cases unknown.symm.trans found
  | openSession purpose =>
    cases purpose with
    | claim => exact plain.elim
    | other => cases unknown.symm.trans found
  | close _ purpose =>
    cases purpose with
    | claim => exact plain.elim
    | other => cases unknown.symm.trans found
  | update _ _ transition =>
    cases transition with
    | attempting => exact plain.elim
    | submittedInFence | submitted | succeeded | ended => cases unknown.symm.trans found
  | answer => exact plain.elim
  | selectProductionTasks | lockProducerRows | lockJobExecutionAuthority
  | requireWorkerRegistrationLease | requireLocalUpload
  | selectWorkerRegistration | now | rollback => cases unknown.symm.trans found

theorem Honest.of_same (env : Env) (honest : Honest database (front ++ (note, ()) :: back))
  (calm : database.disturbs statement = false)
  (claims : (exec env statement database).2.claims = database.claims)
  (answers : ∀ answer ∈ (exec env statement database).2.answers, answer ∈ database.answers ∨
    ∀ nodeExecutionID, answer.returned = .claim nodeExecutionID .submit → answer.attempted = false)
  (same : next.claiming = note.claiming)
  (learned : ∀ nodeExecutionID, note.claiming = some nodeExecutionID →
    next.found = true → note.found = true ∨
      Unattempted (exec env statement database).2 nodeExecutionID) :
  Honest (exec env statement database).2 (front ++ (next, ()) :: back) := by
  have stays (nodeExecutionID : Uuid) (claimed : nodeExecutionID ∈ database.claims) :=
    unattempted_exec env calm claimed
  apply honest.step stays
  · intro nodeExecutionID
    rw [claims, Note.claims, Note.claims, same]
  · intro nodeExecutionID claiming found
    rw [same] at claiming
    rcases learned nodeExecutionID claiming found with known | new
    · have present : (note, ()) ∈ front ++ (note, ()) :: back := by simp
      exact stays nodeExecutionID (honest.claimed present claiming)
        (honest.found (note, ()) present nodeExecutionID claiming known)
    · exact new
  · exact answers

section

variable (env : Env) {db : Session} (honest : Honest database (front ++ (note, ()) :: back))

include honest

theorem Honest.plain {statement : Statement} (plain : statement.Plain)
  (calm : database.disturbs statement = false) :
  Honest (exec env statement database).2 (front ++
    (note.next statement (exec env statement database).1, ()) :: back) := by
  have ledger := ledger_of_plain env database plain
  apply honest.of_same env calm (congrArg Prod.fst ledger)
  · intro answer member
    exact .inl (answers_of_ledger ledger ▸ member)
  · exact (Note.keeps_of_plain plain).claiming
  · intro nodeExecutionID claiming found
    cases known : note.found with
    | true => exact .inl rfl
    | false => exact .inr (unattempted_of_found env plain known claiming found)

theorem Honest.openClaim (outside : note.claiming = none) :
  Honest (exec env (.openSession (.claim nodeExecutionID)) database).2
    (front ++ (note.next (.openSession (.claim nodeExecutionID))
      (exec env (.openSession (.claim nodeExecutionID)) database).1, ()) ::
      back) := by
  apply honest.step (fun _ claimed => unattempted_exec env rfl claimed)
  · intro other
    simp [exec, Note.claims, Note.next, outside, List.count_cons]
  · intro _ _ found
    cases found
  · exact fun answer member => .inl member

theorem Honest.closeClaim (claiming : note.claiming = some nodeExecutionID) :
  Honest (exec env (.close db (.claim nodeExecutionID)) database).2
    (front ++ (note.next (.close db (.claim nodeExecutionID)) (), ()) :: back) := by
  have present : (note, ()) ∈ front ++ (note, ()) :: back := by simp
  have counted := List.count_pos_iff.2 (honest.claimed present claiming)
  apply honest.step (fun _ claimed => unattempted_exec env rfl claimed)
  · intro other
    by_cases same : nodeExecutionID = other
    · subst same
      simp [exec, Note.claims, Note.next, claiming, List.count_erase_self]
      omega
    · simp [exec, Note.claims, Note.next, claiming, same, List.count_erase_of_ne (Ne.symm same)]
  · intro _ claiming
    cases claiming
  · exact fun answer member => .inl member

theorem Honest.answer (allowed : note.Allows (.answer returned)) :
  Honest (exec env (.answer returned) database).2
    (front ++ (note.next (.answer returned) (), ()) :: back) := by
  apply honest.of_same env rfl rfl
  · intro answer member
    rcases List.mem_append.1 member with earlier | new
    · exact .inl earlier
    · right
      cases List.mem_singleton.1 new
      rintro nodeExecutionID rfl
      obtain ⟨claiming, found⟩ := allowed
      have present : (note, ()) ∈ front ++ (note, ()) :: back := by simp
      obtain ⟨_, current, free⟩ := honest.found (note, ()) present nodeExecutionID claiming found
      simp [Database.attempted, Returned.wanted, current, free]
  · cases returned <;> rfl
  · intro _ _ found
    cases returned <;> exact .inl found

theorem Honest.attempting {id : Uuid}
  (calm : database.disturbs (.update db id (.attempting now)) = false) :
  Honest (exec env (.update db id (.attempting now)) database).2 (front ++
    (note.next (.update db id (.attempting now))
      (exec env (.update db id (.attempting now)) database).1, ()) ::
      back) := by
  have ledger := ledger_exec env database (.update db id (.attempting now))
  have same (reply : uploads.Reply (.update db id (.attempting now))) :
    (note.next (.update db id (.attempting now)) reply).claiming = note.claiming ∧
      (note.next (.update db id (.attempting now)) reply).found = note.found := by
    match reply with
    | .error message => exact ⟨rfl, rfl⟩
    | .ok (.updated (some row)) => exact ⟨rfl, rfl⟩
    | .ok (.updated none) => exact ⟨rfl, rfl⟩
    | .ok .integrityError => exact ⟨rfl, rfl⟩
  apply honest.of_same env calm (congrArg Prod.fst ledger)
  · intro answer member
    exact .inl (answers_of_ledger ledger ▸ member)
  · exact (same _).1
  · intro _ _ found
    exact .inl ((same _).2 ▸ found)

end

theorem honest_invariant (quiet : calm) :
  Pool.Invariant machine observer (rules calm) protocol (fun _ => True) Honest where
  start := by
    intro database books program note honest permitted
    obtain ⟨_, commands, rfl, rfl⟩ := permitted
    constructor
    · exact Prog.wp_mono (returns_worker commands rfl) fun _ _ _ => trivial
    · refine ⟨?_, ?_, honest.honest⟩
      · intro nodeExecutionID
        simpa [Note.claims, Note.idle] using honest.opened nodeExecutionID
      · intro book member nodeExecutionID claiming
        rcases List.mem_append.1 member with member | member
        · exact honest.found book member nodeExecutionID claiming
        · cases List.mem_singleton.1 member
          cases claiming
  call := by
    intro database front note heard back statement env honest allowed granted
    refine ⟨rfl, ?_⟩
    simp only [Pool.map_listenBooks_unit]
    rcases statement.plain_cases with plain | ⟨_, rfl⟩ | ⟨_, _, rfl⟩ | ⟨_, rfl⟩ | ⟨_, _, _, rfl⟩
    · exact honest.plain env plain (granted.2 quiet)
    · exact honest.openClaim env allowed
    · exact honest.closeClaim env allowed
    · exact honest.answer env allowed
    · exact honest.attempting env (granted.2 quiet)
  leave := by
    intro database front note heard back _ honest
    refine ⟨?_, ?_, honest.honest⟩
    · intro nodeExecutionID
      have before := honest.opened nodeExecutionID
      simp only [List.countP_append, List.countP_cons] at before ⊢
      omega
    · intro book member
      exact honest.found book (mem_of_others member)
  abandon := fun permitted _ => permitted.elim

end

/-- At most one `mark_attempting` of an operation returns; a row keeps a
terminal status and the task and the video it names; and in a calm run no claim
answers `submit` for an operation that was attempted. -/
theorem submitted_at_most_once (calm : Prop) (operations : Table Operation.id)
  {pool : Pool uploads Database Note Unit Unit}
  (reachable : Pool.Reachable machine observer (rules calm) (Database.quiet operations) pool) :
  (∀ id, (pool.state.answers.countP fun answer =>
    answer.returned = .markAttempting id) ≤ 1) ∧
    (∀ later, Relation.ReflTransGen (Pool.Step machine observer (rules calm)) pool later →
      ∀ id row, pool.state.select (.primaryKey id) = some row →
      ∃ current, later.state.select (.primaryKey id) = some current ∧
        (row.status.isTerminal = true → current.status = row.status) ∧
        (row.managerTaskID ≠ none → current.managerTaskID = row.managerTaskID) ∧
        (row.platformVideoID ≠ none → current.platformVideoID = row.platformVideoID)) ∧
    (calm → ∀ answer ∈ pool.state.answers, ∀ nodeExecutionID,
      answer.returned = .claim nodeExecutionID .submit → answer.attempted = false) := by
  refine ⟨?_, ?_, ?_⟩
  · intro id
    have sound := (reachable.kept (attempts_invariant calm)
      (Ledger.sound_nil fun _ => rfl)).invariant
    exact sound.taken_le_one id
  · intro later steps id row found
    obtain ⟨current, found, kept⟩ :=
      Pool.related Advances.refl Advances.trans
        (fun env statement database => advances_exec env statement database)
        steps id row found
    refine ⟨current, found, kept.terminal, ?_, ?_⟩
    · intro named
      obtain ⟨managerTaskID, same⟩ := Option.ne_none_iff_exists'.1 named
      rw [same, kept.manager managerTaskID same]
    · intro named
      obtain ⟨platformVideoID, same⟩ := Option.ne_none_iff_exists'.1 named
      rw [same, kept.video platformVideoID same]
  · intro quiet
    have initial : Honest (Database.quiet operations) [] :=
      ⟨by simp, by simp, by simp [Database.quiet]⟩
    exact (reachable.kept (honest_invariant quiet) initial).invariant.honest

def sampleClaim : Python.NodeExecutionClaim := ⟨1, 2, "worker", 5, none, none⟩

def sampleContext : UploadOperationContext := ⟨1, 2, sampleClaim, 3, "sha", "title", "unlisted"⟩

def sampleNode : Python.NodeExecution where
  id := 2
  nodeType := "youtube_upload"
  nodeLabel := "Upload"
  nodeConfig := Dict.empty
  status := .running
  workerID := some "worker"
  workerRegistrationID := none
  workerLeaseEpoch := none
  startedAt := some 5
  errorMessage := none
  retryCount := 0
  inputArtifactIDs := [3]
  outputArtifactID := none

/-- The worker keeps its claim, no inventory is protected, and nothing
fails. -/
def steady : Env where
  productionTasks _ := []
  custody _ _ _ := .ok (.settled none)
  authority _ _ := .ok ⟨⟨none, none, ⟨.opened, none⟩⟩, 1, .running, some sampleNode⟩
  lease _ := .ok ()
  localUpload _ _ := .ok ()
  registration _ := none
  now := 7
  id := 10
  fault := none

def checks (calm : Bool) : Pool.Checks uploads Database Env Note Unit Unit (List Command) where
  program := worker ⟨id, fun _ => none⟩ []
  note _ := Note.idle
  start _ _ := true
  call _ _ statement _ database := database.grants statement &&
    (!calm || !database.disturbs statement)
  abandon _ := false

theorem checks_sound {quiet : Prop} (strict : quiet → calm = true) :
  (checks calm).Sound (rules quiet) where
  start _ commands _ := ⟨_, commands, rfl, rfl⟩
  call := by
    intro note heard statement env database passed
    obtain ⟨granted, undisturbed⟩ := Bool.and_eq_true_iff.1 passed
    refine ⟨granted, fun holds => ?_⟩
    rw [strict holds] at undisturbed
    simpa using undisturbed
  abandon _ permitted := by cases permitted

def submitting : List Command :=
  [.claim sampleContext, .enterFence sampleContext, .markAttempting 10 (some sampleContext)]

def alone : List (Pool.Action Env (List Command)) :=
  .start submitting :: List.replicate 33 (.call 0 steady)

theorem submitted_at_most_once_alone : ∃ pool : Pool uploads Database Note Unit Unit,
  Pool.Reachable machine observer (rules True) (Database.quiet Table.empty) pool ∧
    pool.state.answers = [⟨.claim 2 .submit, false⟩, ⟨.markAttempting 10, true⟩] ∧
    (pool.state.answers.countP fun answer =>
      answer.returned = .markAttempting 10) ≤ 1 := by
  have ran : ((Pool.play machine observer (checks true) alone
    ⟨Database.quiet Table.empty, []⟩).any fun pool =>
      pool.state.answers = [⟨.claim 2 .submit, false⟩, ⟨.markAttempting 10, true⟩]) = true := by
    decide +kernel
  obtain ⟨reached, answers⟩ := (Option.any_eq_true_iff_get _ _).1 ran
  have sound : (checks true).Sound (rules True) := checks_sound fun _ => rfl
  have reachable := Pool.steps_of_play sound (Option.some_get reached).symm
  exact ⟨_, reachable, of_decide_eq_true answers,
    (submitted_at_most_once True Table.empty reachable).1 10⟩

/-- A second claim reads the row while the first worker holds the fence, waits
for the schedule row, and gets it when the attempt is committed. -/
def overtaken : List (Pool.Action Env (List Command)) :=
  .start submitting :: List.replicate 18 (.call 0 steady) ++
    .start [.claim sampleContext] :: List.replicate 3 (.call 1 steady) ++
    List.replicate 8 (.call 0 steady) ++ List.replicate 5 (.call 1 steady)

/-- Its answer is `submit`: the locked read returns the object the session
already holds, with the attributes it was loaded with. -/
theorem claim_submits_after_attempt : ∃ pool : Pool uploads Database Note Unit Unit,
  Pool.Reachable machine observer (rules False) (Database.quiet Table.empty) pool ∧
    ⟨.claim 2 .submit, true⟩ ∈ pool.state.answers := by
  have ran : ((Pool.play machine observer (checks false) overtaken
    ⟨Database.quiet Table.empty, []⟩).any fun pool =>
      ⟨.claim 2 .submit, true⟩ ∈ pool.state.answers) = true := by
    decide +kernel
  obtain ⟨reached, answered⟩ := (Option.any_eq_true_iff_get _ _).1 ran
  exact ⟨_, Pool.steps_of_play (checks_sound (fun never => never.elim))
    (Option.some_get reached).symm, of_decide_eq_true answered⟩

end VideoProcess.Upload
