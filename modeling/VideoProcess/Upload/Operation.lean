import VideoProcess.ChannelOps.Payload
import VideoProcess.Python.Authority

namespace VideoProcess.Upload

open Data Python

/-! Upload operations (`youtube_upload_operation.py`). -/

abbrev Time := Nat

inductive Status where
  | reserved
  | submitted
  | succeeded
  | uncertain
  | failed
deriving DecidableEq, Repr

def Status.isTerminal : Status → Bool
  | .reserved | .submitted => false
  | .succeeded | .uncertain | .failed => true

def Status.text : Status → String
  | .reserved => "reserved"
  | .submitted => "submitted"
  | .succeeded => "succeeded"
  | .uncertain => "uncertain"
  | .failed => "failed"

/-- What YouTubeManager said about the upload, as it is stored. -/
structure Receipt where
  (videoID url title privacy : String)
  tags : List String
  quotaEstimate : Option Number

/-- A row of `youtube_upload_operations`. The manager's task is only named by
the update that leaves `reserved`, the video by the one that succeeds. -/
structure Operation where
  id : Uuid
  productionTaskID : Option Uuid
  (jobID nodeExecutionID inputArtifactID : Uuid)
  (contentSha256 title privacy : String)
  status : Status
  (managerTaskID platformVideoID : Option String)
  receipt : Option Receipt
  errorMessage : Option String
  (requestAttemptedAt completedAt : Option Time)
  unsubmitted : status = .reserved → managerTaskID = none
  unpublished : status ≠ .succeeded → platformVideoID = none

structure UploadOperationContext where
  (jobID nodeExecutionID : Uuid)
  executionClaim : NodeExecutionClaim
  inputArtifactID : Uuid
  (contentSha256 title privacy : String)
deriving DecidableEq, Repr

/-- `str(uuid.UUID(value)) == value`. -/
def isCanonicalUUID (value : String) : Bool :=
  ChannelOps.uuidPattern value.toList && value.toList.all fun char => !char.isUpper

def canonicalManagerTaskID (value : Option String) : Option String := value.filter isCanonicalUUID

inductive Action where
  | submit
  | resume
  | replay
  | block
deriving DecidableEq, Repr

def actionFor (operation : Operation) : Action :=
  let managerTaskID := canonicalManagerTaskID operation.managerTaskID
  if operation.status = .reserved ∧ operation.requestAttemptedAt = none then
    .submit
  else if operation.status = .submitted ∧ managerTaskID ≠ none then .resume
  else if operation.status = .succeeded ∧ managerTaskID ≠ none then .replay
  else .block

theorem unattempted_of_submit {operation : Operation} (submits : actionFor operation = .submit) :
  operation.requestAttemptedAt = none := by
  by_contra attempted
  have closed : ¬ (operation.status = .reserved ∧
    operation.requestAttemptedAt = none) := fun open_ => attempted open_.2
  simp only [actionFor, closed, if_false] at submits
  split_ifs at submits

def requireOperationContext (operation : Operation)
  (context : UploadOperationContext) : Except String Unit :=
  if operation.jobID = context.jobID ∧ operation.nodeExecutionID = context.nodeExecutionID ∧
    operation.inputArtifactID = context.inputArtifactID ∧
    operation.contentSha256 = context.contentSha256 ∧
    operation.title = context.title ∧
    operation.privacy = context.privacy then .ok ()
  else .error "upload operation execution context changed"

/-! The interpreter's own functions: `str.strip`, and `_finite_number_or_none`,
which parses texts as numbers. -/

structure Interpreter where
  strip : String → String
  finiteNumber : Json → Option Number

def isString : Json → Option String
  | .string text => some text
  | _ => none

def receiptFor (interpreter : Interpreter) (title privacy platformVideoID : String)
  (receipt : Dict String Json) : Receipt where
  videoID := platformVideoID
  url := ((isString (receipt.getD "url" .null)).or
    (isString (receipt.getD "video_url" .null))).getD ""
  title := (isString (receipt.getD "title" .null)).getD title
  privacy := (isString (receipt.getD "privacy" .null)).getD privacy
  tags :=
    match receipt.getD "tags" (.array []) with
    | .array items => items.filterMap isString
    | _ => []
  quotaEstimate := interpreter.finiteNumber
    (receipt.getD "quota_estimate" (receipt.getD "quota_units_estimated" .null))

/-! The updates. Each is one `UPDATE ... WHERE ... RETURNING`: the row must be
in a state the statement names. -/

inductive Ending where
  | uncertain
  | failed
deriving DecidableEq, Repr

def Ending.status : Ending → Status
  | .uncertain => .uncertain
  | .failed => .failed

inductive Transition where
  | attempting (now : Time)
  | submittedInFence (managerTaskID : String)
  | submitted (managerTaskID : String) (now : Time)
  | succeeded (platformVideoID : String) (receipt : Receipt) (now : Time)
  | ended (ending : Ending) (errorMessage : String)

namespace Transition

def video : Transition → Option String
  | .succeeded platformVideoID _ _ => some platformVideoID
  | _ => none

def attempts : Transition → Bool
  | .attempting _ | .submitted _ _ => true
  | _ => false

end Transition

namespace Operation

def take (operation : Operation) : Transition → Option Operation
  | .attempting now =>
    if operation.status = .reserved ∧ operation.requestAttemptedAt = none then
      some { operation with requestAttemptedAt := some now }
    else none
  | .submittedInFence managerTaskID =>
    if reserved : operation.status = .reserved ∧ operation.requestAttemptedAt ≠ none then
      some { operation with
        status := .submitted
        managerTaskID := some managerTaskID
        errorMessage := none
        unsubmitted := by simp
        unpublished := fun _ => operation.unpublished (by simp [reserved.1]) }
    else none
  | .submitted managerTaskID now =>
    if reserved : operation.status = .reserved then
      some { operation with
        status := .submitted
        managerTaskID := some managerTaskID
        requestAttemptedAt := some now
        errorMessage := none
        unsubmitted := by simp
        unpublished := fun _ => operation.unpublished (by simp [reserved]) }
    else none
  | .succeeded platformVideoID receipt now =>
    if operation.status = .submitted then
      some { operation with
        status := .succeeded
        platformVideoID := some platformVideoID
        receipt := some receipt
        completedAt := some now
        errorMessage := none
        unsubmitted := by simp
        unpublished := by simp }
    else none
  | .ended ending errorMessage =>
    if live : operation.status = .reserved ∨ operation.status = .submitted then
      some { operation with
        status := ending.status
        errorMessage := some errorMessage
        unsubmitted := by cases ending <;> simp [Ending.status]
        unpublished := fun _ => operation.unpublished (by
          rcases live with same | same <;> simp [same]) }
    else none

/-- What an update leaves as it was: the identity of the upload, a terminal
status, and what the row already says about the submission. -/
structure Persists (before after : Operation) : Prop where
  id : after.id = before.id
  node : after.nodeExecutionID = before.nodeExecutionID
  terminal : before.status.isTerminal = true → after.status = before.status
  manager : ∀ managerTaskID, before.managerTaskID = some managerTaskID →
    after.managerTaskID = some managerTaskID
  video : ∀ platformVideoID, before.platformVideoID = some platformVideoID →
    after.platformVideoID = some platformVideoID
  attempted : before.requestAttemptedAt ≠ none → after.requestAttemptedAt ≠ none

theorem Persists.refl (operation : Operation) : Persists operation operation where
  id := rfl
  node := rfl
  terminal _ := rfl
  manager _ named := named
  video _ named := named
  attempted set := set

theorem Persists.trans (before : Persists first second) (after : Persists second third) :
  Persists first third where
  id := after.id.trans before.id
  node := after.node.trans before.node
  terminal ended := by
    have kept := before.terminal ended
    rw [after.terminal (kept ▸ ended), kept]
  manager _ named := after.manager _ (before.manager _ named)
  video _ named := after.video _ (before.video _ named)
  attempted set := after.attempted (before.attempted set)

section

variable {operation changed : Operation} {transition : Transition}
  (taken : operation.take transition = some changed)

include taken

theorem persists_of_take : Persists operation changed := by
  cases transition with
  | attempting =>
    obtain ⟨open_, same⟩ := Option.ite_none_right_eq_some.1 taken
    cases same
    exact ⟨rfl, rfl, fun _ => rfl, fun _ named => named, fun _ named => named, fun _ => by simp⟩
  | submittedInFence =>
    obtain ⟨open_, same⟩ := Option.dite_none_right_eq_some.1 taken
    cases same
    refine ⟨rfl, rfl, ?_, ?_, fun _ named => named, fun set => set⟩
    · intro ended
      rw [open_.1] at ended
      cases ended
    · intro other named
      rw [operation.unsubmitted open_.1] at named
      cases named
  | submitted =>
    obtain ⟨reserved, same⟩ := Option.dite_none_right_eq_some.1 taken
    cases same
    refine ⟨rfl, rfl, ?_, ?_, fun _ named => named, fun _ => by simp⟩
    · intro ended
      rw [reserved] at ended
      cases ended
    · intro other named
      rw [operation.unsubmitted reserved] at named
      cases named
  | succeeded =>
    obtain ⟨submitted, same⟩ := Option.ite_none_right_eq_some.1 taken
    cases same
    refine ⟨rfl, rfl, ?_, fun _ named => named, ?_, fun set => set⟩
    · intro ended
      rw [submitted] at ended
      cases ended
    · intro other named
      rw [operation.unpublished (by simp [submitted])] at named
      cases named
  | ended =>
    obtain ⟨live, same⟩ := Option.dite_none_right_eq_some.1 taken
    cases same
    refine ⟨rfl, rfl, ?_, fun _ named => named, fun _ named => named, fun set => set⟩
    intro ended
    rcases live with same | same <;> rw [same] at ended <;> cases ended

theorem attempted_of_take (quiet : transition.attempts = false) :
  changed.requestAttemptedAt = operation.requestAttemptedAt := by
  cases transition with
  | attempting => cases quiet
  | submittedInFence =>
    obtain ⟨_, same⟩ := Option.dite_none_right_eq_some.1 taken
    cases same
    rfl
  | submitted => cases quiet
  | succeeded =>
    obtain ⟨_, same⟩ := Option.ite_none_right_eq_some.1 taken
    cases same
    rfl
  | ended =>
    obtain ⟨_, same⟩ := Option.dite_none_right_eq_some.1 taken
    cases same
    rfl

end

end Operation

end VideoProcess.Upload
