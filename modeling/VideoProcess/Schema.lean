import VideoProcess.Contracts
import VideoProcess.Data.Table

namespace VideoProcess

open Data

/-! The columns that the store methods read or write. -/

structure JobRow where
  id : Uuid
  status : JobStatus
  orchestratorOwner : Owner
  pipelineSnapshot : PipelineDefinition
  executionPlan : Option ExecutionPlan
  submittedAt : Nat
  errorMessage : Option String

structure NodeExecutionRow where
  (id jobID : Uuid)
  (nodeID nodeType nodeLabel : String)
  nodeConfig : Dict String ConfigValue
  status : NodeStatus
  retryCount : Nat
  workerID : Option String
  (queuedAt startedAt : Option Nat)
  inputArtifactIDs : List Uuid
  outputArtifactID : Option Uuid
  errorMessage : Option String

structure ArtifactRow where
  (id jobID nodeExecutionID : Uuid)
  kind : ArtifactKind

structure AssetRow where
  id : Uuid

inductive ScheduleState where
  | opened
  | closed
  | draining
deriving DecidableEq, Repr

/-- The `videoprocess` row of `runtime_schedules`. -/
structure RuntimeSchedule where
  state : ScheduleState
  guardedJobID : Option Uuid
deriving DecidableEq, Repr

structure Database where
  jobs : Table JobRow.id
  nodeExecutions : Table NodeExecutionRow.id
  artifacts : Table ArtifactRow.id
  assets : Table AssetRow.id
  schedule : RuntimeSchedule

namespace Database

variable (database : Database)

def updateJobs (selected : JobRow → Bool)
  (change : JobRow → JobRow) (keeps : ∀ row, (change row).id = row.id) :
  Database := { database with jobs := database.jobs.update selected change keeps }

def updateNodes (selected : NodeExecutionRow → Bool) (change : NodeExecutionRow → NodeExecutionRow)
  (keeps : ∀ row, (change row).id = row.id) : Database :=
  { database with
    nodeExecutions := database.nodeExecutions.update selected change keeps }

def setArtifacts (artifacts : Table ArtifactRow.id) : Database :=
  { database with artifacts := artifacts }

def setSchedule (schedule : RuntimeSchedule) : Database :=
  { database with schedule := schedule }

def nodesOf (job : Uuid) : List NodeExecutionRow :=
  database.nodeExecutions.rows.filter fun row => row.jobID = job

end Database

/-! Hexadecimal identifiers, as the database driver parses them: 32 digits, or
36 characters with four separators. -/

def hexDigit? (char : Char) : Option Nat :=
  if '0' ≤ char ∧ char ≤ '9' then some (char.toNat - '0'.toNat)
  else if 'a' ≤ char ∧ char ≤ 'f' then some (char.toNat - 'a'.toNat + 10)
  else if 'A' ≤ char ∧ char ≤ 'F' then some (char.toNat - 'A'.toNat + 10)
  else none

def hexNumber? (digits : List Char) : Option Nat :=
  digits.foldlM (fun value char => (hexDigit? char).map (value * 16 + ·)) 0

def parseUUID? (text : String) : Option Uuid :=
  let chars := text.toList
  if chars.length = 36 then
    hexNumber? (chars.take 8 ++ (chars.drop 9).take 4 ++
      (chars.drop 14).take 4 ++ (chars.drop 19).take 4 ++ chars.drop 24)
  else if chars.length = 32 then hexNumber? chars
  else none

end VideoProcess
