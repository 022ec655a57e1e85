import VideoProcess.Python.Dag
import VideoProcess.Python.Value
import VideoProcess.Validation.Registry

namespace VideoProcess.Validation.Python

open Data VideoProcess.Python

/-! `validate_pipeline` of `backend/app/orchestrator/dag.py`. -/

inductive FloatFailure where
  /-- `TypeError` or `ValueError`. -/
  | notNumber
  /-- `OverflowError`. -/
  | overflow
deriving DecidableEq, Repr

/-- What the interpreter makes of texts and numbers. -/
structure Interpreter (φ : Type) where
  unicode : Unicode
  /-- The value of a character that `\d` matches. -/
  digit : Char → Option Nat
  float : ConfigValue → Except FloatFailure φ
  lt : φ → φ → Bool
  floatText : φ → String
  int : ConfigValue → Except FloatFailure Int
  intText : String → Option Int
  digit_ascii : ∀ char : Char, char.toNat < 128 →
    digit char = if char.isDigit then some (char.toNat - 48) else none

variable {φ : Type} (interpreter : Interpreter φ) (registry : Registry φ)

def dynamicVideoInputNodeTypes : List String := ["concat_timeline", "concat_many"]

def dynamicVideoInputMaxCount : Nat := 64

def legacyTimelineInputHandle (handle : String) : String :=
  if handle = "video_first" then "video_1"
  else if handle = "video_second" then "video_2"
  else handle

section

variable (nodeType handle : String)

def canonicalTargetHandle : String :=
  if nodeType = "concat_timeline" then legacyTimelineInputHandle handle
  else handle

/-- `$` matches before a newline at the end as well. -/
def beforeNewline (text : List Char) : List Char :=
  if text.getLast? = some '\n' then text.dropLast else text

/-- The group of a match of `^video_(\d+)$`, as digits. -/
def videoInputDigits (handle : String) : Option (List Nat) :=
  if "video_".toList.isPrefixOf handle.toList then
    let digits := (beforeNewline (handle.toList.drop 6)).map interpreter.digit
    if digits ≠ [] ∧ digits.all Option.isSome then
      some (digits.map fun digit => digit.getD 0)
    else none
  else none

def decimal (digits : List Nat) : Nat := digits.foldl (fun value digit => value * 10 + digit) 0

/-- `int(digits)`, which has a limit on the length of a text. -/
def intOfDigits (digits : List Nat) : Except String Nat :=
  if digits.length ≤ 4300 then .ok (decimal digits)
  else .error "Exceeds the limit (4300 digits) for integer string conversion"

def matchedIndex (handle : String) : Except String (Option Nat) :=
  match videoInputDigits interpreter handle with
  | none => .ok none
  | some digits => (intOfDigits digits).map some

def dynamicVideoInputIndex : Except String (Option Nat) :=
  if nodeType ∉ dynamicVideoInputNodeTypes then .ok none
  else
    (matchedIndex interpreter (canonicalTargetHandle nodeType handle)).map
      fun index => index.filter fun index => 1 ≤ index

def dynamicVideoInputLimitError : Except String (Option String) :=
  if nodeType ∉ dynamicVideoInputNodeTypes then .ok none
  else
    (matchedIndex interpreter (canonicalTargetHandle nodeType handle)).map
      fun index => (index.filter fun index => dynamicVideoInputMaxCount < index).map
        fun _ => "Dynamic input '" ++ handle ++ "' exceeds max input count " ++
          toString dynamicVideoInputMaxCount

end

/-- `str(config.get(key) or "").strip().lower()`. -/
def keyword (node : PipelineNode) (key : String) : String :=
  let value := node.data.config.getD key .null
  interpreter.unicode.lower (interpreter.unicode.strip (if truthy value then str value else ""))

def inferActualOutputPortType (node : PipelineNode) : Option PortType :=
  if node.type = "source" then
    let mediaType := keyword interpreter node "media_type"
    if mediaType = "video" then some .video
    else if mediaType = "audio" then some .audio
    else if mediaType = "image" then some .image
    else if mediaType = "subtitle" then some .subtitle
    else none
  else if node.type = "url_download" then
    if keyword interpreter node "format" = "audio_only" then some .audio
    else some .video
  else none

def validateDynamicVideoInputEdge (sourceType sourcePort : String) (source : PipelineNode) : Bool :=
  match registry.getType sourceType with
  | none => false
  | some definition =>
    match findPort definition.outputs sourcePort with
    | none => false
    | some port =>
      (port.portType = .video ∨ port.portType = .anyMedia) ∧
        (inferActualOutputPortType interpreter source = none ∨
          inferActualOutputPortType interpreter source = some .video)

def searchNodeTypes : List String :=
  ["youtube_search", "x_search", "xiaohongshu_search", "bilibili_search", "material_search"]

def plannerNodeTypes : List String := searchNodeTypes ++ ["zip_records"]

def zipChannelCount (config : Dict String ConfigValue) : Except String Int :=
  match interpreter.int (config.getD "channel_count" (.int 2)) with
  | .ok value => .ok (max 1 value)
  | .error .notNumber => .ok 2
  | .error .overflow => .error "cannot convert float infinity to integer"

def isZipHandle (stem handle : String) (channelCount : Int) : Bool :=
  if stem.toList.isPrefixOf handle.toList then
    match interpreter.intText
      (String.ofList (handle.toList.drop stem.toList.length)) with
    | some index => 1 ≤ index ∧ index ≤ channelCount
    | none => false
  else false

section

variable (definition : PipelineDefinition)

def plannerBound (targetType handle : String) : List String :=
  (definition.edges.filter fun edge =>
    match (nodesByID definition).get? edge.source,
      (nodesByID definition).get? edge.target with
    | some source, some target =>
      source.type = "zip_records" ∧ target.type = targetType ∧ edge.targetHandle = handle
    | _, _ => false).map (·.target)

def plannerBoundURLNodes : List String :=
  plannerBound definition "url_download" "url_input"

def plannerBoundSourceNodes : List String :=
  plannerBound definition "source" "asset_input"

def unknownTypeErrors : List ValidationError :=
  (definition.nodes.filter fun node => (registry.getType node.type).isNone).map fun node => {
    type := .unknownNodeType
    message := "Unknown node type '" ++ node.type ++ "'"
    nodeID := some node.id }

def graphErrors : List ValidationError :=
  definition.edges.flatMap fun edge =>
    if edge.source ∉ definition.nodeIDs then [{
      type := .invalidEdge
      message := "Edge source '" ++ edge.source ++ "' does not exist"
      edgeID := some edge.id }]
    else if edge.target ∉ definition.nodeIDs then [{
      type := .invalidEdge
      message := "Edge target '" ++ edge.target ++ "' does not exist"
      edgeID := some edge.id }]
    else []

def cycleErrors : List ValidationError :=
  let order := topologicalSort definition
  if order.length < (nodesByID definition).keys.length then
    let cycle := (nodesByID definition).entries.filter fun entry =>
      entry.1 ∉ order
    [{
      type := .cycleDetected
      message := "Cycle detected involving nodes: " ++
        ", ".intercalate (cycle.map fun entry => labelOr entry.2 entry.1)
      nodes := some (cycle.map Prod.fst) }]
  else []

end

section

variable (edge : PipelineEdge)

def mismatch (message : String) : ValidationError where
  type := .portTypeMismatch
  message := message
  edgeID := some edge.id
  sourcePort := some edge.sourceHandle
  targetPort := some edge.targetHandle

def cannotConnect : ValidationError :=
  mismatch edge ("Cannot connect '" ++ edge.sourceHandle ++ "' to '" ++
    edge.targetHandle ++ "' (type mismatch)")

variable (source target : PipelineNode)

def isPlannerEdge : Bool :=
  source.type ∈ searchNodeTypes ∨ target.type = "zip_records" ∨ source.type = "zip_records"

def isPlannerValid : Except String Bool :=
  if source.type ∈ searchNodeTypes ∧ target.type = "zip_records" then
    (zipChannelCount interpreter target.data.config).map fun count =>
      edge.sourceHandle = "results" ∧
        isZipHandle interpreter "input_" edge.targetHandle count = true
  else if source.type = "zip_records" ∧ target.type = "url_download" then
    (zipChannelCount interpreter source.data.config).map fun count =>
      isZipHandle interpreter "output_" edge.sourceHandle count = true ∧
        edge.targetHandle = "url_input"
  else if source.type = "zip_records" ∧ target.type = "source" then
    (zipChannelCount interpreter source.data.config).map fun count =>
      isZipHandle interpreter "output_" edge.sourceHandle count = true ∧
        edge.targetHandle = "asset_input"
  else .ok false

def plannerEdgeErrors : Except String (List ValidationError) :=
  (isPlannerValid interpreter edge source target).map fun valid =>
    if valid then [] else
      [mismatch edge ("Invalid planner connection '" ++ edge.sourceHandle ++
        "' -> '" ++ edge.targetHandle ++ "'")]

/-- A source that is known to yield another type than its target takes. -/
def actualTypeErrors : List ValidationError :=
  match inferActualOutputPortType interpreter source,
    registry.getType target.type with
  | some actual, some definition =>
    match findPort definition.inputs edge.targetHandle with
    | some port =>
      if port.portType ≠ .anyMedia ∧ actual ≠ port.portType then
        [mismatch edge ("Cannot connect '" ++ labelOr source source.type ++
          "' (" ++ actual.value ++ ") to '" ++ labelOr target target.type ++
          "' input '" ++ edge.targetHandle ++ "' (" ++
          port.portType.value ++ ")")]
      else []
    | none => []
  | _, _ => []

def declaredEdgeErrors : List ValidationError :=
  if !registry.validateEdge source.type edge.sourceHandle target.type
    edge.targetHandle then [cannotConnect edge]
  else actualTypeErrors interpreter registry edge source target

def connectedEdgeErrors : Except String (List ValidationError) := do
  match ← dynamicVideoInputLimitError interpreter target.type
    edge.targetHandle with
  | some message => return [{
    type := .invalidDynamicInput
    message := message
    edgeID := some edge.id
    sourcePort := some edge.sourceHandle
    targetPort := some edge.targetHandle }]
  | none =>
    match ← dynamicVideoInputIndex interpreter target.type
      edge.targetHandle with
    | some _ =>
      return if validateDynamicVideoInputEdge interpreter registry
        source.type edge.sourceHandle source then []
        else [cannotConnect edge]
    | none =>
      if isPlannerEdge source target then
        plannerEdgeErrors interpreter edge source target
      else
        return declaredEdgeErrors interpreter registry edge source target

end

section

variable (definition : PipelineDefinition)

def edgeErrors (edge : PipelineEdge) : Except String (List ValidationError) :=
  match (nodesByID definition).get? edge.source,
    (nodesByID definition).get? edge.target with
  | some source, some target => connectedEdgeErrors interpreter registry edge source target
  | _, _ => .ok []

def collect {ρ : Type} (check : ρ → Except String (List ValidationError)) :
  List ρ → Except String (List ValidationError)
  | [] => .ok []
  | row :: rows => do
    let first ← check row
    let rest ← collect check rows
    return first ++ rest

def canonicalInput (edge : PipelineEdge) : String :=
  match (nodesByID definition).get? edge.target with
  | some target => canonicalTargetHandle target.type edge.targetHandle
  | none => edge.targetHandle

def connectedInputs (edges : List PipelineEdge) (id : String) : List String :=
  (edges.filter fun edge => edge.target = id).map (canonicalInput definition)

end

def duplicateInputErrorsFrom (definition : PipelineDefinition)
  (seen : List PipelineEdge) : List PipelineEdge → List ValidationError
  | [] => []
  | edge :: edges =>
    let handle := canonicalInput definition edge
    (if handle ∈ connectedInputs definition seen edge.target then
      let label :=
        match (nodesByID definition).get? edge.target with
        | some target => labelOr target target.type
        | none => edge.target
      [{
        type := .duplicateInputPort
        message := "Input port '" ++ handle ++ "' on '" ++ label ++
          "' has multiple connections (only one allowed)"
        nodeID := some edge.target
        targetPort := some handle }]
    else []) ++ duplicateInputErrorsFrom definition (seen ++ [edge]) edges

variable (definition : PipelineDefinition)

def duplicateInputErrors : List ValidationError :=
  duplicateInputErrorsFrom definition [] definition.edges

section

variable (node : PipelineNode)

def missingInput (port message : String) : ValidationError where
  type := .missingRequiredInput
  message := message
  nodeID := some node.id
  targetPort := some port

def notConnected (port : String) : ValidationError :=
  missingInput node port ("Required input '" ++ port ++ "' on '" ++
    labelOr node node.type ++ "' is not connected")

def connectedDynamicInputs (node : PipelineNode) : List PipelineEdge → Except String (List String)
  | [] => .ok []
  | edge :: edges =>
    if edge.target = node.id then do
      let index ← dynamicVideoInputIndex interpreter node.type
        edge.targetHandle
      let rest ← connectedDynamicInputs node edges
      return if index.isSome then
        canonicalTargetHandle node.type edge.targetHandle :: rest
      else rest
    else connectedDynamicInputs node edges

/-- `input_1` up to the channel count. -/
def zipHandles (stem : String) (channelCount : Int) : List String :=
  (List.range channelCount.toNat).map fun index =>
    stem ++ toString (index + 1)

def requiredInputErrors : Except String (List ValidationError) :=
  match registry.getType node.type with
  | none => .ok []
  | some typeDefinition =>
    if node.type ∈ dynamicVideoInputNodeTypes then
      (connectedDynamicInputs interpreter node definition.edges).map fun inputs =>
        if inputs.dedup.length < 2 then
          [missingInput node "video_*" ("At least two video inputs on '" ++
            labelOr node node.type ++ "' must be connected")]
        else []
    else
      let connected := connectedInputs definition definition.edges node.id
      if node.type = "zip_records" then
        (zipChannelCount interpreter node.data.config).map fun count =>
          ((zipHandles "input_" count).filter fun handle =>
            handle ∉ connected).map (notConnected node)
      else .ok ((typeDefinition.inputs.filter fun port =>
        port.required ∧ port.name ∉ connected).map
        fun port => notConnected node port.name)

end

def missingAssetErrors : List ValidationError :=
  (definition.nodes.filter fun node =>
    node.type = "source" ∧ truthy (node.data.config.getD "asset_id" .null) = false ∧
      node.data.assetID.getD "" = "" ∧
      node.id ∉ plannerBoundSourceNodes definition).map fun node => {
        type := .missingAsset
        message := "Source node '" ++ labelOr node "Source" ++ "' has no asset_id configured"
        nodeID := some node.id }

section

variable (node : PipelineNode) (param : ParamDefinition φ)

def invalidParam (message : String) : ValidationError where
  type := .invalidParam
  message := message
  nodeID := some node.id
  paramName := some param.name

def onNode : String :=
  "'" ++ param.name ++ "' on '" ++ labelOr node node.type ++ "'"

def isPlannerParam : Bool :=
  (node.type = "url_download" ∧ param.name = "url" ∧ node.id ∈ plannerBoundURLNodes definition) ∨
  (node.type = "source" ∧ param.name = "asset_id" ∧ node.id ∈ plannerBoundSourceNodes definition)

def rangeErrors (value : φ) : List ValidationError :=
  (match param.minValue with
  | some least =>
    if interpreter.lt value least then
      [invalidParam node param ("Parameter " ++ onNode node param ++
        " must be >= " ++ interpreter.floatText least ++ " (got " ++
        interpreter.floatText value ++ ")")]
    else []
  | none => []) ++
  match param.maxValue with
  | some greatest =>
    if interpreter.lt greatest value then
      [invalidParam node param ("Parameter " ++ onNode node param ++
        " must be <= " ++ interpreter.floatText greatest ++ " (got " ++
        interpreter.floatText value ++ ")")]
    else []
  | none => []

def optionErrors (value : ConfigValue) : List ValidationError :=
  match param.paramType, param.options with
  | .select, some options =>
    if value ≠ .null ∧ value ∉ options.map ConfigValue.str then
      [invalidParam node param ("Parameter " ++ onNode node param ++ " must be one of [" ++
        ", ".intercalate (options.map fun option => "'" ++ option ++ "'") ++
        "] (got '" ++ str value ++ "')")]
    else []
  | _, _ => []

/-- A value that is no number ends the checks of a parameter. -/
def valueErrors (value : ConfigValue) : Except String (List ValidationError) :=
  if param.paramType = .number ∧ value ≠ .null then
    match interpreter.float value with
    | .ok number => .ok (rangeErrors interpreter node param number ++ optionErrors node param value)
    | .error .notNumber =>
      .ok [invalidParam node param ("Parameter " ++ onNode node param ++ " must be a number")]
    | .error .overflow => .error "int too large to convert to float"
  else .ok (optionErrors node param value)

def paramErrors : Except String (List ValidationError) :=
  let value := node.data.config.getD param.name .null
  if isPlannerParam definition node param then .ok []
  else if param.required ∧ isMissing value then
    .ok [invalidParam node param
      ("Required parameter " ++ onNode node param ++ " is missing or empty")]
  else valueErrors interpreter node param value

def nodeParamErrors : Except String (List ValidationError) :=
  match registry.getType node.type with
  | none => .ok []
  | some typeDefinition => collect (paramErrors interpreter definition node) typeDefinition.params

def zipOutputErrors : Except String (List ValidationError) :=
  if node.type ≠ "zip_records" then .ok []
  else
    (zipChannelCount interpreter node.data.config).map fun count =>
      (zipHandles "output_" count).flatMap fun handle =>
        let targets := definition.edges.filter fun edge =>
          edge.source = node.id ∧ edge.sourceHandle = handle
        if targets = [] then [{
          type := .missingRequiredOutput
          message := "Required output '" ++ handle ++ "' on '" ++
            labelOr node node.type ++ "' is not connected"
          nodeID := some node.id
          sourcePort := some handle }]
        else if 1 < targets.length then [{
          type := .duplicateOutputPort
          message := "Output port '" ++ handle ++ "' on '" ++ labelOr node node.type ++
            "' has multiple connections (only one allowed)"
          nodeID := some node.id
          sourcePort := some handle }]
        else []

end

def disconnectedWarnings : List ValidationWarning :=
  (definition.nodes.filter fun node =>
    (registry.getType node.type).any (fun typeDefinition =>
      typeDefinition.outputs ≠ []) ∧
    node.type ∉ plannerNodeTypes ∧
    node.id ∉ definition.edges.map (·.source) ∧
    node.type ∉ ["transcode", "material_library_ingest"]).map fun node => {
      nodeID := node.id
      message := "Node '" ++ labelOr node node.type ++ "' has outputs but none are connected" }

def validatePipeline : Except String ValidationResult := do
  let ports ← collect (edgeErrors interpreter registry definition)
    definition.edges
  let inputs ← collect (requiredInputErrors interpreter registry definition)
    definition.nodes
  let params ← collect (nodeParamErrors interpreter registry definition)
    definition.nodes
  let outputs ← collect (zipOutputErrors interpreter definition)
    definition.nodes
  let errors := unknownTypeErrors registry definition ++
    graphErrors definition ++ cycleErrors definition ++ ports ++
    duplicateInputErrors definition ++ inputs ++
    missingAssetErrors definition ++ params ++ outputs
  return {
    valid := errors.isEmpty
    errors := errors
    warnings := disconnectedWarnings registry definition }

def Accepts : Prop :=
  ∃ result, validatePipeline interpreter registry definition = .ok result ∧ result.valid = true

end VideoProcess.Validation.Python
