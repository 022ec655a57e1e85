import VideoProcess.Upload.Store

namespace VideoProcess.Upload

open Data Program Fallible

/-! Workers that share the operations, and what each knows from its own
statements. -/

structure Note where
  (attempted claiming : Option Uuid)
  found : Bool

namespace Note

def idle : Note := ⟨none, none, false⟩

variable (note : Note)

def next : (statement : Statement) → uploads.Reply statement → Note
  | .openSession (.claim nodeExecutionID), _ =>
    { note with claiming := some nodeExecutionID, found := false }
  | .close _ (.claim _), _ => { note with claiming := none, found := false }
  | .select _ (.node nodeExecutionID) _, .ok (some operation) =>
    if note.claiming = some nodeExecutionID ∧ operation.requestAttemptedAt = none then
      { note with found := true }
    else note
  | .insert _ context _, .ok (.inserted _) =>
    if note.claiming = some context.nodeExecutionID then
      { note with found := true }
    else note
  | .update _ id (.attempting _), .ok (.updated (some _)) => { note with attempted := some id }
  | .answer (.markAttempting _), _ => { note with attempted := none }
  | _, _ => note

/-- The worker answers `submit` for a row it has found without an attempt, and
returns from `mark_attempting` after its own update. -/
def Allows : Statement → Prop
  | .openSession (.claim _) => note.claiming = none
  | .close _ (.claim nodeExecutionID) => note.claiming = some nodeExecutionID
  | .answer (.claim nodeExecutionID .submit) =>
    note.claiming = some nodeExecutionID ∧ note.found = true
  | .answer (.markAttempting id) => note.attempted = some id
  | _ => True

structure Keeps (before after : Note) : Prop where
  attempted : after.attempted = before.attempted
  claiming : after.claiming = before.claiming
  found : before.found = true → after.found = true

theorem Keeps.refl : Keeps note note := ⟨rfl, rfl, id⟩

theorem Keeps.trans (before : Keeps first second) (after : Keeps second third) :
  Keeps first third :=
  ⟨after.attempted.trans before.attempted, after.claiming.trans before.claiming,
    fun found => after.found (before.found found)⟩

end Note

def Statement.Plain : Statement → Prop
  | .openSession (.claim _) | .close _ (.claim _) | .answer _ => False
  | .update _ _ (.attempting _) => False
  | _ => True

def protocol : Contract uploads Note where
  requires note statement := note.Allows statement
  ensures note statement reply after := after = note.next statement reply

variable {note : Note}

theorem Note.allows_of_plain {statement : Statement}
  (plain : statement.Plain) : note.Allows statement := by
  unfold Statement.Plain at plain
  unfold Note.Allows
  split at plain <;> first | exact plain.elim | skip
  split <;> first | trivial | simp_all

theorem Note.keeps_of_plain (plain : statement.Plain) : note.Keeps (note.next statement reply) := by
  unfold Note.next
  split <;> first
    | exact plain.elim
    | exact Note.Keeps.refl note
    | skip
  all_goals
    split
    · exact ⟨rfl, rfl, fun _ => rfl⟩
    · exact Note.Keeps.refl note

abbrev plain {α : Type} (program : Call α) : Prop := asks Statement.Plain program

abbrev follows {α : Type} (program : Call α) (note : Note)
  (post : α → Note → Prop) (failed : Note → Prop) : Prop := safe protocol program post failed note

theorem follows_of_plain {α : Type} {program : Call α} (quiet : plain program)
  (note : Note) : follows program note (fun _ => note.Keeps) note.Keeps := by
  have kept : Prog.wp protocol program.run (fun _ => note.Keeps) note := by
    refine Prog.wp_of_asking Note.Keeps.refl Note.Keeps.trans Note.allows_of_plain ?_ quiet note
    intro state statement reply after quiet same
    rw [same]
    exact Note.keeps_of_plain quiet
  apply Prog.wp_mono kept
  intro result after keeps
  cases result with
  | ok | error => exact keeps

section

theorem plain_withSession {α : Type} {body : Session → Call α}
  (quiet : ∀ db, plain (body db)) : plain (withSession .other body) := by
  refine asks_bind (asks_ask (by trivial)) ?_
  intro db
  apply asks_bind (asks_result (quiet db))
  intro outcome
  refine asks_bind (asks_ask (by trivial)) ?_
  intro _
  exact asks_require outcome

variable (db : Session)

theorem plain_select (wanted : Selection) (forUpdate : Bool) :
  plain (select db wanted forUpdate) := asks_send trivial

theorem plain_getOperation (id : Uuid) : plain (getOperation db id) := by
  apply asks_bind (plain_select db _ _)
  intro found
  cases found with
  | none => exact asks_throw
  | some => exact asks_pure

theorem plain_productionTaskID (jobID : Uuid) : plain (productionTaskID db jobID) := by
  refine asks_bind (asks_send (by trivial)) ?_
  intro ids
  match ids with
  | [] => exact asks_pure
  | [id] => exact asks_pure
  | _ :: _ :: _ => exact asks_throw

theorem plain_lockProducer (task : Option Uuid) (renderSha256 : String) :
  plain (lockProducer db task renderSha256) := by
  have twice : plain (lockProducerTwice db task renderSha256) := by
    refine asks_bind (asks_send (by trivial)) ?_
    intro custody
    cases custody with
    | settled => exact asks_pure
    | observe =>
      refine asks_bind (asks_ask (by trivial)) ?_
      intro _
      refine asks_bind (asks_send (by trivial)) ?_
      intro custody
      cases custody with
      | settled => exact asks_pure
      | observe => exact asks_throw
  apply asks_bind (asks_result twice)
  intro outcome
  cases outcome with
  | ok => exact asks_pure
  | error =>
    refine asks_bind (asks_ask (by trivial)) ?_
    intro _
    exact asks_throw

variable (context : UploadOperationContext)

theorem plain_requireExecution : plain (requireExecution db context) := by
  refine asks_bind (asks_send (by trivial)) ?_
  intro authority
  apply asks_bind (asks_require _)
  intro _
  exact asks_require _

theorem plain_requireLease (claim : Python.NodeExecutionClaim) : plain (requireLease db claim) := by
  unfold requireLease
  split
  · exact asks_pure
  · exact asks_send trivial

theorem plain_requireLocalClaimAndLineage
  (producer : Option ProducerAuthority) (context : UploadOperationContext) :
  plain (requireLocalClaimAndLineage db producer context) := by
  apply asks_bind (plain_requireExecution db context)
  intro _
  apply asks_bind (plain_requireLease db _)
  intro _
  exact asks_send trivial

theorem plain_requireLocalSubmissionAuthority :
  plain (requireLocalSubmissionAuthority db context) := by
  apply asks_bind (plain_productionTaskID db _)
  intro task
  apply asks_bind (plain_lockProducer db _ _)
  intro producer
  apply asks_bind (plain_requireLocalClaimAndLineage db _ _)
  intro _
  apply asks_bind (plain_select db _ _)
  intro found
  cases found with
  | none => exact asks_pure
  | some => exact asks_require _

variable (active : Option SubmissionFence)

theorem plain_requireTransitionContext (id : Uuid) (context : Option UploadOperationContext) :
  plain (requireTransitionContext active db id context) := by
  apply asks_bind (plain_getOperation db id)
  intro operation
  cases context with
  | none =>
    refine asks_bind (asks_send (by trivial)) ?_
    intro registration
    cases registration with
    | none => exact asks_pure
    | some => exact asks_throw
  | some context =>
    dsimp only
    split
    · split
      · exact asks_pure
      · exact plain_requireExecution db context
    · exact asks_throw

theorem plain_requireAttempt (id : Uuid) (context : Option UploadOperationContext) :
  plain (requireAttempt active db id context) := by
  have finish : plain (do
    requireTransitionContext active db id context
    send .now rfl) := by
    apply asks_bind (plain_requireTransitionContext db active id context)
    intro _
    exact asks_send trivial
  apply asks_bind (plain_getOperation db id)
  intro operation
  apply asks_bind (plain_lockProducer db _ _)
  intro producer
  cases context with
  | none =>
    dsimp only
    split
    · exact asks_bind asks_throw fun _ => finish
    · exact finish
  | some =>
    apply asks_bind (plain_requireLocalClaimAndLineage db _ _)
    intro _
    apply asks_bind (plain_getOperation db id)
    intro operation
    exact asks_bind (asks_require _) fun _ => finish

theorem plain_updateInFence {fence : SubmissionFence} {id : Uuid}
  (quiet : (Statement.update fence.db id transition).Plain) :
  plain (updateInFence fence id transition) := by
  apply asks_bind (asks_send quiet)
  intro updated
  match updated with
  | .updated (some operation) => exact asks_pure
  | .updated none => exact asks_throw
  | .integrityError => exact asks_throw

theorem plain_settle {id : Uuid} (quiet : (Statement.update db id transition).Plain) :
  plain (settle db id transition resolve) := by
  apply asks_bind (asks_send quiet)
  intro updated
  match updated with
  | .updated (some operation) => exact asks_pure
  | .updated none =>
    refine asks_bind (asks_ask (by trivial)) ?_
    intro _
    apply asks_bind (plain_getOperation db id)
    intro current
    exact asks_require _
  | .integrityError =>
    refine asks_bind (asks_ask (by trivial)) ?_
    intro _
    cases transition.video with
    | none => exact asks_throw
    | some =>
      apply asks_bind (plain_select db _ _)
      intro conflicting
      cases conflicting with
      | none | some => exact asks_throw

theorem plain_enterFence : plain (enterFence context) := by
  refine asks_bind (asks_ask (by trivial)) ?_
  intro db
  apply asks_bind (asks_result (plain_requireLocalSubmissionAuthority db _))
  intro outcome
  cases outcome with
  | ok => exact asks_pure
  | error =>
    refine asks_bind (asks_ask (by trivial)) ?_
    intro _
    exact asks_throw

theorem plain_leaveFence (fence : SubmissionFence) : plain (leaveFence fence) := by
  refine asks_bind (asks_ask (by trivial)) ?_
  intro _
  exact asks_pure

end

section

variable {α β : Type} {note : Note}

/-- Whether it returns or raises, the program leaves the note as it was but for
a row it may have found. -/
abbrev keeps (program : Call α) (note : Note) : Prop :=
  follows program note (fun _ => note.Keeps) note.Keeps

theorem keeps_bind {learned : α → Note → Prop} (first : follows program note
  (fun result after => note.Keeps after ∧ learned result after) note.Keeps)
  (next : ∀ result after, note.Keeps after → learned result after →
    keeps (rest result) after) : keeps (program >>= rest) note := by
  apply safe_bind
  apply safe_mono first
  · intro result after reached
    apply safe_mono (next result after reached.1 reached.2)
    · exact fun _ final kept => reached.1.trans kept
    · exact fun final kept => reached.1.trans kept
  · exact fun _ failed => failed

theorem keeps_plain_bind (quiet : plain program)
  (next : ∀ result after, note.Keeps after → keeps (rest result) after) :
  keeps (program >>= rest) note := by
  have first : follows program note (fun _ after => note.Keeps after ∧ True) note.Keeps :=
    safe_mono (follows_of_plain quiet note) (fun _ _ kept => ⟨kept, trivial⟩) fun _ kept => kept
  exact keeps_bind first fun result after kept _ => next result after kept

theorem keeps_throw (message : String) : keeps (throw message : Call α) note :=
  safe_throw (Note.Keeps.refl note)

variable {context : UploadOperationContext}

section

variable (db : Session)

theorem follows_select (forUpdate : Bool)
  (claiming : note.claiming = some context.nodeExecutionID) :
  follows (select db (.node context.nodeExecutionID) forUpdate) note
    (fun found after => note.Keeps after ∧ ∀ operation, found = some operation →
      operation.requestAttemptedAt = none → after.found = true)
    note.Keeps := by
  refine ⟨trivial, ?_⟩
  rintro reply _ rfl
  have kept : note.Keeps (note.next (.select db (.node context.nodeExecutionID)
    forUpdate) reply) := Note.keeps_of_plain trivial
  cases reply with
  | error => exact kept
  | ok =>
    refine ⟨kept, ?_⟩
    rintro _ rfl unattempted
    simp [Note.next, claiming, unattempted]

theorem keeps_returnClaim (operation : Operation)
  (claiming : note.claiming = some context.nodeExecutionID)
  (found : action = .submit → note.found = true) :
  keeps (returnClaim context action operation) note := by
  apply safe_bind
  refine ⟨?_, ?_⟩
  · cases action with
    | submit => exact ⟨claiming, found rfl⟩
    | resume | replay | block => exact trivial
  · intro reply after same
    cases same
    exact Note.Keeps.refl _

theorem follows_insert (task : Option Uuid)
  (claiming : note.claiming = some context.nodeExecutionID) :
  follows (send (.insert db context task) rfl) note (fun inserted after => note.Keeps after ∧
    ∀ operation, inserted = Inserted.inserted operation → after.found = true)
    note.Keeps := by
  refine ⟨trivial, ?_⟩
  rintro reply _ rfl
  have kept : note.Keeps (note.next (.insert db context task) reply) := Note.keeps_of_plain trivial
  cases reply with
  | error => exact kept
  | ok =>
    refine ⟨kept, ?_⟩
    rintro _ rfl
    simp [Note.next, claiming]

theorem keeps_reserve (claiming : note.claiming = some context.nodeExecutionID) :
  keeps (reserve db context) note := by
  apply keeps_plain_bind (plain_productionTaskID db _)
  intro task afterTask kept
  have claiming := kept.claiming.trans claiming
  apply keeps_bind (follows_insert db task claiming)
  intro inserted after kept found
  have claiming := kept.claiming.trans claiming
  cases inserted with
  | inserted operation =>
    apply keeps_plain_bind (plain_getOperation db _)
    intro operation final kept
    apply keeps_returnClaim operation (kept.claiming.trans claiming)
    intro _
    exact kept.found (found _ rfl)
  | integrityError =>
    refine keeps_plain_bind (asks_ask (by trivial)) ?_
    intro _ rolledBack kept
    have claiming := kept.claiming.trans claiming
    apply keeps_bind (follows_select db false claiming)
    intro existing final kept found
    cases existing with
    | some existing =>
      apply keeps_returnClaim existing (kept.claiming.trans claiming)
      intro submits
      exact found existing rfl (unattempted_of_submit submits)
    | none =>
      cases task with
      | none => exact keeps_throw _
      | some =>
        apply keeps_plain_bind (plain_select db _ _)
        intro conflicting _ _
        cases conflicting with
        | none | some => exact keeps_throw _

theorem identified_cases (found : identified held fetched = some existing) :
  held = some existing ∨ fetched = some existing := by
  unfold identified at found
  split at found
  · split at found
    · exact .inl found
    · exact .inr found
  · exact .inr found

theorem keeps_claimOperation (claiming : note.claiming = some context.nodeExecutionID)
  (found : ∀ operation, prior = some operation →
    operation.requestAttemptedAt = none → note.found = true) :
  keeps (claimOperation context db prior) note := by
  apply keeps_bind (follows_select db true claiming)
  intro fetched after kept fresh
  have claiming := kept.claiming.trans claiming
  cases chosen : identified prior fetched with
  | none => exact keeps_reserve db claiming
  | some existing =>
    have seen (submits : actionFor existing = .submit) : after.found = true := by
      have unattempted := unattempted_of_submit submits
      rcases identified_cases chosen with same | same
      · exact kept.found (found existing same unattempted)
      · exact fresh existing same unattempted
    dsimp only
    split
    · apply keeps_plain_bind (asks_require _)
      intro _ checked kept
      apply keeps_returnClaim existing (kept.claiming.trans claiming)
      exact fun submits => kept.found (seen submits)
    · exact keeps_returnClaim existing claiming seen

theorem plain_fenceProducer (prior : Option Operation) :
  plain (fenceProducer db context prior) := by
  unfold fenceProducer
  split
  · apply asks_bind (plain_productionTaskID db _)
    intro task
    exact plain_lockProducer db _ _
  · exact asks_pure

end

theorem follows_claim (outside : note.claiming = none) :
  follows (claim context) note (fun _ after => after.claiming = none)
    (fun after => after.claiming = none) := by
  apply safe_bind
  refine ⟨outside, ?_⟩
  rintro db opened rfl
  have claiming : (note.next (.openSession (.claim context.nodeExecutionID))
    db).claiming = some context.nodeExecutionID := rfl
  generalize note.next (.openSession (.claim context.nodeExecutionID)) db = opened at claiming
  have body : keeps (do
    let prior ← select db (.node context.nodeExecutionID) false
    let fenced ← fenceProducer db context prior
    requireExecution db context
    requireLocalUpload db fenced.1 context
    requireLease db context.executionClaim
    claimOperation context db (if fenced.2 then none else prior)) opened := by
    apply keeps_bind (follows_select db false claiming)
    intro prior first kept found
    have claiming := kept.claiming.trans claiming
    apply keeps_plain_bind (plain_fenceProducer db prior)
    intro producer second since
    apply keeps_plain_bind (plain_requireExecution db context)
    intro _ third kept
    replace since := since.trans kept
    refine keeps_plain_bind (asks_send (by trivial)) ?_
    intro _ fourth kept
    replace since := since.trans kept
    apply keeps_plain_bind (plain_requireLease db _)
    intro _ fifth kept
    replace since := since.trans kept
    apply keeps_claimOperation db (since.claiming.trans claiming)
    intro operation held
    split at held
    · cases held
    · exact fun unattempted => since.found (found operation held unattempted)
  apply safe_bind
  apply safe_result
  have closes (outcome : Except String UploadOperationClaim) (after : Note)
    (kept : opened.Keeps after) :
    follows (do
      let _ ← ask (.close db (.claim context.nodeExecutionID))
      require outcome) after (fun _ after => after.claiming = none)
      (fun after => after.claiming = none) := by
    apply safe_bind
    refine ⟨kept.claiming.trans claiming, ?_⟩
    rintro reply final rfl
    cases outcome with
    | ok | error => exact rfl
  apply safe_mono body
  · exact fun result after kept => closes (.ok result) after kept
  · exact fun after kept message => closes (.error message) after kept

end

section

variable {note : Note} (active : Option SubmissionFence) (db : Session)
  (id : Uuid) (context : Option UploadOperationContext)

theorem follows_markAttemptingLocal : follows (markAttemptingLocal active db id context) note
  (fun _ after => after.claiming = note.claiming ∧ after.attempted = some id)
  (fun after => after.claiming = note.claiming) := by
  apply safe_bind
  apply safe_mono (follows_of_plain (plain_requireAttempt db active id context) note)
  · intro now before kept
    apply safe_bind
    refine ⟨trivial, ?_⟩
    rintro reply _ rfl
    match reply with
    | .error message => exact kept.claiming
    | .ok (.updated (some operation)) => exact ⟨kept.claiming, rfl⟩
    | .ok (.updated none) => exact kept.claiming
    | .ok .integrityError => exact kept.claiming
  · exact fun _ kept => kept.claiming

theorem follows_returnAttempt {after : Note} (operation : Operation)
  (attempted : after.attempted = some id)
  (same : after.claiming = note.claiming) :
  follows (do
    let _ ← ask (.answer (.markAttempting id))
    pure operation) after
    (fun _ final => final.claiming = note.claiming)
    (fun final => final.claiming = note.claiming) := by
  apply safe_bind
  refine ⟨attempted, ?_⟩
  rintro reply final rfl
  exact same

theorem follows_markAttemptingInFence (fence : SubmissionFence) :
  follows (markAttemptingInFence fence id) note (fun _ after => after.claiming = note.claiming)
    (fun after => after.claiming = note.claiming) := by
  apply safe_bind
  apply safe_mono (follows_markAttemptingLocal _ fence.db id _)
  · intro _ written reached
    apply safe_bind
    apply safe_mono (follows_of_plain
      (plain_requireLocalSubmissionAuthority fence.db fence.context) written)
    · intro _ fenced kept
      apply safe_bind
      apply safe_mono (follows_of_plain (plain_getOperation fence.db id) fenced)
      · intro operation after still
        have kept := kept.trans still
        split
        · exact follows_returnAttempt id operation
            (kept.attempted.trans reached.2) (kept.claiming.trans reached.1)
        · exact safe_throw (kept.claiming.trans reached.1)
      · exact fun after still =>
          (kept.trans still).claiming.trans reached.1
    · exact fun after kept => kept.claiming.trans reached.1
  · exact fun _ same => same

end

def Note.Outside (note : Note) : Prop := note.claiming = none

abbrev returns {α : Type} (program : Prog uploads α) (note : Note) : Prop :=
  program.wp protocol (fun _ => Note.Outside) note

section

variable {α β : Type} {note : Note} {active : Option SubmissionFence}

theorem returns_bind (first : returns program note)
  (next : ∀ result after, after.Outside → returns (rest result) after) :
  returns (program >>= rest) note := by
  rw [returns, Prog.wp_bind]
  exact Prog.wp_mono first next

theorem returns_run (holds : follows program note (fun _ => Note.Outside) Note.Outside) :
  returns program.run note := by
  apply Prog.wp_mono holds
  intro result after outside
  cases result with
  | ok | error => exact outside

theorem returns_plain {program : Call α} (quiet : plain program)
  (outside : note.Outside) : returns program.run note := by
  apply returns_run
  apply safe_mono (follows_of_plain quiet note)
  · exact fun _ _ kept => kept.claiming.trans outside
  · exact fun _ kept => kept.claiming.trans outside

theorem returns_moveFence (quiet : plain program) (outside : note.Outside) :
  returns (moveFence active fence phase program) note := by
  apply returns_bind (returns_plain quiet outside)
  intro outcome after outside
  cases outcome with
  | ok | error => exact outside

theorem returns_unfenced {body : Session → Call Operation}
  (quiet : ∀ db, plain (body db)) (outside : note.Outside) :
  returns (unfenced active body) note :=
  returns_bind (returns_plain (plain_withSession quiet) outside) fun _ _ outside => outside

theorem follows_session {body : Session → Call α}
  (holds : ∀ db, follows (body db) note (fun _ after => after.claiming = note.claiming)
    (fun after => after.claiming = note.claiming)) :
  follows (withSession .other body) note (fun _ after => after.claiming = note.claiming)
    (fun after => after.claiming = note.claiming) := by
  apply safe_bind
  refine ⟨trivial, ?_⟩
  intro db opened same
  cases same
  apply safe_bind
  apply safe_result
  have closes (outcome : Except String α) (after : Note) (same : after.claiming = note.claiming) :
    follows (do
      let _ ← ask (.close db .other)
      require outcome) after (fun _ final => final.claiming = note.claiming)
      (fun final => final.claiming = note.claiming) := by
    apply safe_bind
    refine ⟨trivial, ?_⟩
    intro reply final closed
    cases closed
    cases outcome with
    | ok | error => exact same
  apply safe_mono (holds db)
  · exact fun result after same => closes (.ok result) after same
  · exact fun after same message => closes (.error message) after same

theorem returns_markAttempting (id : Uuid)
  (context : Option UploadOperationContext) (outside : note.Outside) :
  returns (markAttempting active id context) note := by
  unfold markAttempting
  cases localSubmissionFence active context id [.initial] with
  | some =>
    apply returns_bind
    · apply returns_run
      apply safe_mono (follows_markAttemptingInFence id _)
      · exact fun _ _ same => same.trans outside
      · exact fun _ same => same.trans outside
    · intro outcome after outside
      cases outcome with
      | ok => exact outside
      | error =>
        refine returns_bind
          (returns_plain (asks_ask (by trivial)) outside) ?_
        exact fun _ _ outside => outside
  | none =>
    apply returns_bind
    · apply returns_run
      have session : follows (withSession .other fun db => do
        let operation ← markAttemptingLocal active db id context
        let _ ← ask (.answer (.markAttempting id))
        pure operation) note
        (fun _ after => after.claiming = note.claiming)
        (fun after => after.claiming = note.claiming) := by
        apply follows_session
        intro db
        apply safe_bind
        apply safe_mono (follows_markAttemptingLocal active db id context)
        · exact fun operation after reached =>
            follows_returnAttempt id operation reached.2 reached.1
        · exact fun _ same => same
      apply safe_mono session
      · exact fun _ _ same => same.trans outside
      · exact fun _ same => same.trans outside
    · exact fun _ _ outside => outside

theorem returns_markSubmitted (id : Uuid) (managerTaskID : String)
  (context : Option UploadOperationContext) (outside : note.Outside) :
  returns (markSubmitted active id managerTaskID context) note := by
  unfold markSubmitted
  cases canonicalManagerTaskID (some managerTaskID) with
  | none => exact outside
  | some =>
    cases localSubmissionFence active context id [.postFenced] with
    | some => exact returns_moveFence (plain_updateInFence trivial) outside
    | none =>
      apply returns_unfenced _ outside
      intro db
      apply asks_bind (plain_requireTransitionContext db active id context)
      intro _
      refine asks_bind (asks_send (by trivial)) ?_
      intro now
      exact plain_settle db trivial

theorem returns_markSucceeded (interpreter : Interpreter) (id : Uuid)
  (platformVideoID : String) (receipt : Dict String Json)
  (context : Option UploadOperationContext) (outside : note.Outside) :
  returns (markSucceeded interpreter active id platformVideoID receipt context) note := by
  unfold markSucceeded
  split
  · exact outside
  · apply returns_unfenced _ outside
    intro db
    apply asks_bind (plain_requireTransitionContext db active id context)
    intro _
    apply asks_bind (plain_getOperation db id)
    intro metadata
    refine asks_bind (asks_send (by trivial)) ?_
    intro now
    exact plain_settle db trivial

theorem returns_markTerminal (ending : Ending) (id : Uuid)
  (errorMessage : String) (context : Option UploadOperationContext)
  (outside : note.Outside) :
  returns (markTerminal ending active id errorMessage context) note := by
  unfold markTerminal
  cases localSubmissionFence active context id [.initial, .postFenced] with
  | some fence =>
    apply returns_moveFence _ outside
    apply asks_bind (plain_requireTransitionContext fence.db active id context)
    intro _
    exact plain_updateInFence trivial
  | none =>
    apply returns_unfenced _ outside
    intro db
    apply asks_bind (plain_requireTransitionContext db active id context)
    intro _
    exact plain_settle db trivial

theorem returns_underFence (holds : ∀ active, returns (call active) note) :
  returns (underFence fences call) note := returns_bind (holds _) fun _ _ outside => outside

theorem returns_command (command : Command) (outside : note.Outside) :
  returns (command.run interpreter fences) note := by
  cases command with
  | enterFence context =>
    apply returns_bind (returns_plain (plain_enterFence context) outside)
    intro outcome after outside
    cases outcome with
    | ok | error => exact outside
  | leaveFence =>
    cases fences with
    | nil => exact outside
    | cons fence =>
      exact returns_bind (returns_plain (plain_leaveFence fence) outside) fun _ _ outside => outside
  | claim => exact returns_bind (returns_run (follows_claim outside)) fun _ _ outside => outside
  | markAttempting id context =>
    exact returns_underFence fun _ =>
      returns_markAttempting id context outside
  | markSubmitted id managerTaskID context =>
    exact returns_underFence fun _ =>
      returns_markSubmitted id managerTaskID context outside
  | markSucceeded id platformVideoID receipt context =>
    exact returns_underFence fun _ =>
      returns_markSucceeded interpreter id platformVideoID receipt context outside
  | markUncertain id errorMessage context =>
    exact returns_underFence fun _ =>
      returns_markTerminal .uncertain id errorMessage context outside
  | markFailed id errorMessage context =>
    exact returns_underFence fun _ =>
      returns_markTerminal .failed id errorMessage context outside

theorem returns_worker (commands : List Command) (outside : note.Outside) :
  returns (worker interpreter fences commands) note := by
  induction commands generalizing note fences with
  | nil => exact outside
  | cons command _ ih =>
    apply returns_bind (returns_command command outside)
    exact fun _ _ outside => ih outside

end

end VideoProcess.Upload
