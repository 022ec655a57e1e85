import VideoProcess.Data.Dict

namespace VideoProcess

open Data

/-! The vocabulary both orchestrators share (`internal/contracts` and the
matching Python schemas). -/

/-- A 128-bit identifier, by its numeric value. -/
abbrev Uuid := Nat

def uuidString (id : Uuid) : String :=
  let digits := (List.range 32).map fun place =>
    Nat.digitChar (id / Nat.pow 16 (31 - place) % 16)
  String.ofList (['-'].intercalate [digits.take 8, (digits.drop 8).take 4,
    (digits.drop 12).take 4, (digits.drop 16).take 4, digits.drop 20])

inductive JobStatus where
  | pending
  | validating
  | planning
  | running
  | succeeded
  | failed
  | cancelled
  | partiallyFailed
  | waitingWindow
deriving DecidableEq, Repr

inductive NodeStatus where
  | pending
  | queued
  | running
  | succeeded
  | failed
  | skipped
  | cancelled
deriving DecidableEq, Repr

inductive ArtifactKind where
  | intermediate
  | final
deriving DecidableEq, Repr

inductive Owner where
  | go
  | python
deriving DecidableEq, Repr

namespace JobStatus

def isTerminal : JobStatus → Bool
  | .succeeded | .failed | .cancelled | .partiallyFailed => true
  | _ => false

end JobStatus

namespace NodeStatus

def isTerminal : NodeStatus → Bool
  | .succeeded | .failed | .skipped | .cancelled => true
  | _ => false

def isFailed : NodeStatus → Bool
  | .failed | .skipped | .cancelled => true
  | _ => false

def isActive : NodeStatus → Bool
  | .pending | .queued | .running => true
  | _ => false

def isInFlight : NodeStatus → Bool
  | .queued | .running => true
  | _ => false

theorem isActive_eq_not_isTerminal (status : NodeStatus) :
  status.isActive = !status.isTerminal := by
  cases status <;> rfl

theorem not_isTerminal {status : NodeStatus} (active : status.isActive = true) :
  ¬ status.isTerminal = true := by
  rwa [isActive_eq_not_isTerminal, Bool.not_eq_true', ← Bool.not_eq_true] at active

theorem isActive_iff (status : NodeStatus) : status.isActive = true ↔
  status = .pending ∨ status.isInFlight = true := by
  cases status <;> simp [isActive, isInFlight]

end NodeStatus

/-- A JSON value of a node configuration. The engines tell strings from the
rest; arrays, objects and fractions are kept as their text. -/
inductive ConfigValue where
  | null
  | bool (value : Bool)
  | int (value : Int)
  | str (value : String)
  | raw (text : String)
deriving DecidableEq, Repr

structure PipelineNodeData where
  label : String
  config : Dict String ConfigValue
  assetID : Option String
deriving DecidableEq

structure PipelineNode where
  (id type : String)
  data : PipelineNodeData
deriving DecidableEq

structure PipelineEdge where
  (id source target sourceHandle targetHandle : String)
deriving DecidableEq, Repr

structure PipelineDefinition where
  nodes : List PipelineNode
  edges : List PipelineEdge
deriving DecidableEq

namespace PipelineDefinition

variable (definition : PipelineDefinition)

def Edge (source target : String) : Prop :=
  ∃ edge ∈ definition.edges, edge.source = source ∧ edge.target = target

def nodeIDs : List String := definition.nodes.map PipelineNode.id

/-- What validation promises of the snapshot of a job: node ids are unique and
edges join nodes of the definition. -/
structure WellFormed : Prop where
  unique : definition.nodeIDs.Nodup
  sources : ∀ edge ∈ definition.edges, edge.source ∈ definition.nodeIDs
  targets : ∀ edge ∈ definition.edges, edge.target ∈ definition.nodeIDs

instance (definition : PipelineDefinition) : Decidable definition.WellFormed :=
  decidable_of_iff (definition.nodeIDs.Nodup ∧
    (∀ edge ∈ definition.edges, edge.source ∈ definition.nodeIDs) ∧
    ∀ edge ∈ definition.edges, edge.target ∈ definition.nodeIDs)
    ⟨fun ⟨unique, sources, targets⟩ => ⟨unique, sources, targets⟩,
      fun formed => ⟨formed.unique, formed.sources, formed.targets⟩⟩

end PipelineDefinition

structure ExecutionPlan where
  topoOrder : List String
  dependencies : Dict String (List String)
deriving DecidableEq

end VideoProcess
