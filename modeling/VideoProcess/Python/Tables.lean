import VideoProcess.Schema

namespace VideoProcess.Python

open Data

/-! The rows the Python orchestrator works on (`backend/app/models`), for one
job. -/

structure NodeExecution where
  id : Uuid
  (nodeType nodeLabel : String)
  nodeConfig : Dict String ConfigValue
  status : NodeStatus
  workerID : Option String
  workerRegistrationID : Option Uuid
  (workerLeaseEpoch startedAt : Option Nat)
  errorMessage : Option String
  retryCount : Nat
  inputArtifactIDs : List Uuid
  outputArtifactID : Option Uuid
deriving DecidableEq

/-- `job.node_executions` is keyed by node id: a job has one execution for each
node of its snapshot, in the order the database returns them. -/
structure Job where
  id : Uuid
  status : JobStatus
  pipelineSnapshot : PipelineDefinition
  executionPlan : Option ExecutionPlan
  startedAt : Option Nat
  errorMessage : Option String
  nodes : Dict String NodeExecution
  listed : nodes.keys.Perm pipelineSnapshot.nodeIDs
  distinct : (nodes.entries.map fun entry => entry.2.id).Nodup

namespace Job

theorem unique (job : Job) : job.pipelineSnapshot.nodeIDs.Nodup :=
  job.listed.nodup_iff.1 job.nodes.nodup

def node? (job : Job) (nodeID : String) : Option NodeExecution := job.nodes.get? nodeID

def executions (job : Job) : List NodeExecution := job.nodes.entries.map Prod.snd

variable {job : Job}

theorem mem_executions : node ∈ job.executions ↔ ∃ nodeID, job.node? nodeID = some node := by
  unfold executions node?
  simp [Dict.get?_eq_some_iff]

variable {nodeID : String}

theorem node?_isSome_iff : (job.node? nodeID).isSome = true ↔
  nodeID ∈ job.pipelineSnapshot.nodeIDs := by
  rw [← job.listed.mem_iff, Option.isSome_iff_ne_none, node?, ne_eq, Dict.get?_eq_none_iff, not_not]

theorem mem_nodeIDs (found : job.node? nodeID = some node) :
  nodeID ∈ job.pipelineSnapshot.nodeIDs := node?_isSome_iff.1 (found ▸ rfl)

theorem eq_of_id_eq (leftFound : job.node? left = some leftNode)
  (rightFound : job.node? right = some rightNode)
  (same : leftNode.id = rightNode.id) : left = right := by
  have entries := List.inj_on_of_nodup_map job.distinct
    (Dict.get?_eq_some_iff.1 leftFound) (Dict.get?_eq_some_iff.1 rightFound)
    same
  exact congrArg Prod.fst entries

def mapNodes (job : Job) (change : String → NodeExecution → NodeExecution)
  (keeps : ∀ nodeID node, (change nodeID node).id = node.id) : Job :=
  { job with
    nodes := job.nodes.mapValues change
    listed := by
      rw [Dict.keys_mapValues]
      exact job.listed
    distinct := by
      have same : (job.nodes.mapValues change).entries.map (fun entry => entry.2.id) =
        job.nodes.entries.map fun entry => entry.2.id := by
        unfold Dict.mapValues
        rw [List.map_map]
        exact List.map_congr_left fun entry _ => keeps entry.1 entry.2
      rw [same]
      exact job.distinct }

def modifyNode (job : Job) (nodeID : String) (change : NodeExecution → NodeExecution)
  (keeps : ∀ node, (change node).id = node.id) : Job :=
  job.mapNodes (fun other node => if other = nodeID then change node else node) fun other node => by
    split
    · exact keeps node
    · rfl

section

variable (job : Job) (nodeID : String)

theorem node?_mapNodes (change : String → NodeExecution → NodeExecution)
  (keeps : ∀ nodeID node, (change nodeID node).id = node.id) :
  (job.mapNodes change keeps).node? nodeID = (job.node? nodeID).map (change nodeID) :=
  Dict.get?_mapValues ..

theorem node?_modifyNode (change : NodeExecution → NodeExecution)
  (keeps : ∀ node, (change node).id = node.id) (other : String) :
  (job.modifyNode nodeID change keeps).node? other =
    if other = nodeID then (job.node? other).map change
    else job.node? other := by
  rw [modifyNode, node?_mapNodes]
  split
  · rfl
  · exact Option.map_id'

end

end Job

inductive DeliveryState where
  | pending
  | attempting
  | delivered
  | uncertain
  | cancelled
deriving DecidableEq, Repr

inductive ResolutionState where
  | unresolved
  | cancelAuthorized
  | acknowledged
  | cancelled
deriving DecidableEq, Repr

def ResolutionState.isOpen : ResolutionState → Bool
  | .unresolved | .cancelAuthorized => true
  | .acknowledged | .cancelled => false

structure Task where
  (jobID nodeExecutionID : Uuid)
  (nodeID nodeType : String)
  config : Dict String ConfigValue
  inputArtifacts : Dict String Uuid
  preferredHosts : List String
  (affinityEnqueuedAt affinityBounces : Nat)
deriving DecidableEq

/-- A dispatch without an origin receipt is an initial one. -/
structure WorkerTaskDispatch where
  originReceiptID : Option Uuid
  (dispatchKey jobID nodeExecutionID : Uuid)
  (redisStream consumerGroup : String)
  payload : Task
  deliveryState : DeliveryState
  redisMessageID : Option String
  resolutionState : ResolutionState
deriving DecidableEq

structure ChannelProfile where
  enabled : Bool
  haltedAt : Option Nat
deriving DecidableEq, Repr

/-- The production task a job belongs to, by whether its state is
`producing`. -/
structure ProductionTask where
  producing : Bool
deriving DecidableEq, Repr

/-- The rows `lock_job_execution_authority` locks before the job. -/
structure Authority where
  channel : Option ChannelProfile
  task : Option ProductionTask
  schedule : RuntimeSchedule
deriving DecidableEq, Repr

structure NodeExecutionClaim where
  (jobID nodeExecutionID : Uuid)
  workerID : String
  startedAt : Nat
  workerRegistrationID : Option Uuid
  workerLeaseEpoch : Option Nat
deriving DecidableEq, Repr

/-- The committed tables, as far as one job is concerned. -/
structure Tables where
  authority : Authority
  job : Job
  dispatches : List WorkerTaskDispatch

namespace Tables

def setJob (tables : Tables) (job : Job) : Tables := { tables with job := job }

def modifyNode (tables : Tables) (nodeID : String) (change : NodeExecution → NodeExecution)
  (keeps : ∀ node, (change node).id = node.id) : Tables :=
  tables.setJob (tables.job.modifyNode nodeID change keeps)

end Tables

end VideoProcess.Python
