import VideoProcess.Python.Dag
import VideoProcess.Validation.Registry

namespace VideoProcess.Validation.Go

open Data

/-! `Validate` of `internal/pipeline/validate.go` and `ClassifyGoEligibility` of
`internal/orchestrator/eligibility.go`. -/

def unsupportedGoValidationNodeTypes : List String :=
  ["zip_records", "material_search", "youtube_search", "x_search",
    "xiaohongshu_search", "bilibili_search", "youtube_upload", "x_upload",
    "xiaohongshu_upload", "material_library_ingest", "url_download",
    "smart_trim", "speech_to_subtitle", "subtitle_translate",
    "subtitle_to_speech"]

def firstWaveGoNodeTypes : List String :=
  ["bgm", "concat_horizontal", "concat_many", "concat_timeline",
    "concat_vertical", "concat_vertical_timeline", "export",
    "montage_assembler", "replace_audio", "title_overlay", "transcode", "trim",
    "vertical_crop", "watermark"]

structure MapOrder where
  range : List String → List String
  perm : ∀ keys, (range keys).Perm keys

section

variable {φ : Type} (registry : Registry φ) (order : MapOrder)

def unsupportedError (node : PipelineNode) : ValidationError where
  type := .unsupportedGoValidation
  message := "Go validator does not own validation for node type '" ++
    node.type ++ "'; route this graph to Python"
  nodeID := some node.id

section

variable (definition : PipelineDefinition)

def unknownTypeErrors : List ValidationError :=
  (definition.nodes.filter fun node => (registry.getType node.type).isNone).map fun node => {
    type := .unknownNodeType
    message := "Unknown node type '" ++ node.type ++ "'"
    nodeID := some node.id }

/-- The edges that are not skipped: those between nodes of the definition. -/
def isJoined (edge : PipelineEdge) : Bool :=
  edge.source ∈ definition.nodeIDs ∧ edge.target ∈ definition.nodeIDs

/-- `connectedInputs` of a node, as far as edges of a list make it. -/
def connectedInputs (edges : List PipelineEdge) (id : String) : List String :=
  (edges.filter fun edge =>
    isJoined definition edge = true ∧ edge.target = id).map (·.targetHandle)

end

def connectErrors (seen : List PipelineEdge) (definition : PipelineDefinition)
  (edge : PipelineEdge) (source target : PipelineNode) :
  List ValidationError :=
  (if registry.validateEdge source.type edge.sourceHandle target.type edge.targetHandle then []
  else [{
    type := .portTypeMismatch
    message := "Cannot connect '" ++ edge.sourceHandle ++ "' to '" ++
      edge.targetHandle ++ "' (type mismatch)"
    edgeID := some edge.id
    sourcePort := some edge.sourceHandle
    targetPort := some edge.targetHandle }]) ++
  if edge.targetHandle ∈ connectedInputs definition seen edge.target then [{
    type := .duplicateInputPort
    message := "Input port '" ++ edge.targetHandle ++ "' on '" ++ labelOr target target.type ++
      "' has multiple connections (only one allowed)"
    nodeID := some edge.target
    targetPort := some edge.targetHandle }]
  else []

/-- The loop over the edges; `seen` are those before. -/
def edgeErrorsFrom (definition : PipelineDefinition)
  (seen : List PipelineEdge) : List PipelineEdge → List ValidationError
  | [] => []
  | edge :: edges =>
    (match (nodesByID definition).get? edge.source, (nodesByID definition).get? edge.target with
    | none, _ => [{
      type := .invalidEdge
      message := "Edge source '" ++ edge.source ++ "' does not exist"
      edgeID := some edge.id }]
    | some _, none => [{
      type := .invalidEdge
      message := "Edge target '" ++ edge.target ++ "' does not exist"
      edgeID := some edge.id }]
    | some source, some target => connectErrors registry seen definition edge source target) ++
    edgeErrorsFrom definition (seen ++ [edge]) edges

variable (definition : PipelineDefinition)

/-- The in-degrees count the edges that were not skipped, like those of
`_build_graph`; the queue starts in the order of the map. -/
def topologicalOrder : List String :=
  let degree := VideoProcess.Python.inDegree definition
  Kahn.loop (VideoProcess.Python.graphEdges definition)
    (definition.nodes.length + definition.edges.length + 1) degree
    ((order.range degree.keys).filter fun id => degree.getD id 0 = 0) []

def cycleErrors : List ValidationError :=
  let sorted := topologicalOrder order definition
  if sorted.length < (nodesByID definition).keys.length then [{
    type := .cycleDetected
    message := "Cycle detected"
    nodes := some ((order.range (nodesByID definition).keys).filter fun id =>
      id ∉ sorted) }]
  else []

def stringOf : Option ConfigValue → String
  | some (.str text) => text
  | _ => ""

section

variable (node : PipelineNode)

def sourceHasAssetID : Bool :=
  node.data.assetID.getD "" ≠ "" ∨ stringOf (node.data.config.get? "asset_id") ≠ ""

def sourceHasAsset : Bool :=
  sourceHasAssetID node || connectedInputs definition definition.edges node.id ≠ []

def nodeErrors : List ValidationError :=
  match registry.getType node.type with
  | none => []
  | some typeDefinition =>
    ((typeDefinition.inputs.filter fun port =>
      port.required ∧ port.name ∉
        connectedInputs definition definition.edges node.id).map fun port => {
          type := .missingRequiredInput
          message := "Required input '" ++ port.name ++ "' on '" ++
            labelOr node node.type ++ "' is not connected"
          nodeID := some node.id
          targetPort := some port.name }) ++
    (if node.type = "source" ∧ sourceHasAsset definition node = false then [{
      type := .missingAsset
      message := "Source node '" ++ labelOr node node.type ++ "' is missing an asset binding"
      nodeID := some node.id }]
    else []) ++
    (typeDefinition.params.filter fun param =>
      param.required ∧ isMissing (node.data.config.getD param.name .null)).map fun param => {
        type := .invalidParam
        message := "Required parameter '" ++ param.name ++ "' on '" ++
          labelOr node node.type ++ "' is missing or empty"
        nodeID := some node.id
        paramName := some param.name }

end

def validate : ValidationResult :=
  match definition.nodes.find? fun node =>
    node.type ∈ unsupportedGoValidationNodeTypes with
  | some node => { valid := false, errors := [unsupportedError node], warnings := [] }
  | none =>
    let errors := unknownTypeErrors registry definition ++
      edgeErrorsFrom registry definition [] definition.edges ++
      cycleErrors order definition ++
      definition.nodes.flatMap (nodeErrors registry definition)
    { valid := errors.isEmpty, errors := errors, warnings := [] }

end

def ineligible? (node : PipelineNode) : Option String :=
  if node.type = "source" then
    if sourceHasAssetID node then none else some "source node"
  else if node.type ∈ firstWaveGoNodeTypes then none
  else some ("node type \"" ++ node.type ++ "\" remains Python-owned")

/-- `none` where the definition is eligible. -/
def classifyGoEligibility (definition : PipelineDefinition) : Option String :=
  definition.nodes.findSome? ineligible?

end VideoProcess.Validation.Go
