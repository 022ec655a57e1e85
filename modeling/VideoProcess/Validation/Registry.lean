import VideoProcess.Contracts

namespace VideoProcess.Validation

open Data

/-! Node types and the report of a validation. Numeric bounds are of a type `φ`
of floats. -/

inductive PortType where
  | video
  | audio
  | image
  | subtitle
  | anyMedia
  | searchResults
  | urlValue
  | assetValue
deriving DecidableEq, Repr

def PortType.value : PortType → String
  | video => "video"
  | audio => "audio"
  | image => "image"
  | subtitle => "subtitle"
  | anyMedia => "any_media"
  | searchResults => "search_results"
  | urlValue => "url_value"
  | assetValue => "asset_value"

structure PortDefinition where
  name : String
  portType : PortType
  required : Bool
deriving DecidableEq, Repr

inductive ParamType where
  | string
  | number
  | boolean
  | select
  | file
deriving DecidableEq, Repr

structure ParamDefinition (φ : Type) where
  name : String
  paramType : ParamType
  required : Bool
  options : Option (List String)
  (minValue maxValue : Option φ)

structure NodeTypeDefinition (φ : Type) where
  (inputs outputs : List PortDefinition)
  params : List (ParamDefinition φ)

def timelineInputs : List PortDefinition := [⟨"video_1", .video, true⟩, ⟨"video_2", .video, true⟩]

/-- The node types by name. Of their definitions only the inputs of the two
types with dynamic inputs matter, and that no input has an endless name. -/
structure Registry (φ : Type) where
  getType : String → Option (NodeTypeDefinition φ)
  concatMany : (getType "concat_many").map NodeTypeDefinition.inputs = some timelineInputs
  concatTimeline : (getType "concat_timeline").map NodeTypeDefinition.inputs = some timelineInputs
  shortNames : ∀ type definition, getType type = some definition →
    ∀ port ∈ definition.inputs, port.name.length ≤ 4300

def findPort (ports : List PortDefinition) (name : String) : Option PortDefinition :=
  ports.find? fun port => port.name = name

/-- `NodeTypeRegistry.validate_edge` and `portsCompatible`. -/
def Registry.validateEdge {φ : Type} (registry : Registry φ)
  (sourceType sourcePort targetType targetPort : String) : Bool :=
  match registry.getType sourceType, registry.getType targetType with
  | some source, some target =>
    match findPort source.outputs sourcePort,
      findPort target.inputs targetPort with
    | some output, some input =>
      input.portType = .anyMedia ∨ output.portType = .anyMedia ∨ output.portType = input.portType
    | _, _ => false
  | _, _ => false

inductive ErrorType where
  | unknownNodeType
  | invalidEdge
  | cycleDetected
  | invalidDynamicInput
  | portTypeMismatch
  | duplicateInputPort
  | missingRequiredInput
  | missingAsset
  | invalidParam
  | missingRequiredOutput
  | duplicateOutputPort
  | unsupportedGoValidation
deriving DecidableEq, Repr

structure ValidationError where
  type : ErrorType
  message : String
  nodeID : Option String := none
  edgeID : Option String := none
  nodes : Option (List String) := none
  sourcePort : Option String := none
  targetPort : Option String := none
  paramName : Option String := none
deriving DecidableEq, Repr

structure ValidationWarning where
  (nodeID message : String)
deriving DecidableEq, Repr

structure ValidationResult where
  valid : Bool
  errors : List ValidationError
  warnings : List ValidationWarning
deriving DecidableEq, Repr

/-- The node of an id, the last one where several share it. -/
def nodesByID (definition : PipelineDefinition) : Dict String PipelineNode :=
  definition.nodes.foldl (fun map node => map.set node.id node) .empty

def labelOr (node : PipelineNode) (name : String) : String :=
  if node.data.label = "" then name else node.data.label

def isMissing (value : ConfigValue) : Bool := value = .null ∨ value = .str ""

end VideoProcess.Validation
