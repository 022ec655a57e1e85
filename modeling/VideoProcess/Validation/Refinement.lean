import VideoProcess.Program.Basic
import VideoProcess.Validation.Go
import VideoProcess.Validation.Python

namespace VideoProcess.Validation

open Data Program List

/-! Where the Python validator accepts what the Go validator accepts. -/

section

variable {φ : Type} {interpreter : Python.Interpreter φ}
  {registry : Registry φ} {definition : PipelineDefinition}

theorem collect_eq_nil_iff {rows : List ρ} :
  Python.collect check rows = .ok [] ↔ ∀ row ∈ rows, check row = .ok [] := by
  induction rows with
  | nil => simp [Python.collect]
  | cons _ _ ih =>
    rw [forall_mem_cons, ← ih, Python.collect]
    constructor
    · intro collected
      obtain ⟨_, checked, collected⟩ := bind_eq_ok collected
      obtain ⟨_, others, collected⟩ := bind_eq_ok collected
      obtain ⟨rfl, rfl⟩ := append_eq_nil_iff.1 (Except.ok.inj collected)
      exact ⟨checked, others⟩
    · rintro ⟨checked, others⟩
      rw [checked, others]
      rfl

structure Python.Clean (interpreter : Python.Interpreter φ)
  (registry : Registry φ) (definition : PipelineDefinition) : Prop where
  types : Python.unknownTypeErrors registry definition = []
  graph : Python.graphErrors definition = []
  cycles : Python.cycleErrors definition = []
  ports : ∀ edge ∈ definition.edges, Python.edgeErrors interpreter registry definition edge = .ok []
  duplicates : Python.duplicateInputErrors definition = []
  inputs : ∀ node ∈ definition.nodes,
    Python.requiredInputErrors interpreter registry definition node = .ok []
  assets : Python.missingAssetErrors definition = []
  params : ∀ node ∈ definition.nodes,
    Python.nodeParamErrors interpreter registry definition node = .ok []
  outputs : ∀ node ∈ definition.nodes, Python.zipOutputErrors interpreter definition node = .ok []

theorem accepts_iff_clean : Python.Accepts interpreter registry definition ↔
  Python.Clean interpreter registry definition := by
  constructor
  · rintro ⟨_, validated, valid⟩
    obtain ⟨_, portsRead, validated⟩ := bind_eq_ok validated
    obtain ⟨_, inputsRead, validated⟩ := bind_eq_ok validated
    obtain ⟨_, paramsRead, validated⟩ := bind_eq_ok validated
    obtain ⟨_, outputsRead, validated⟩ := bind_eq_ok validated
    cases validated
    simp only [List.isEmpty_iff, List.append_eq_nil_iff] at valid
    obtain ⟨⟨⟨⟨⟨⟨⟨⟨types, graph⟩, cycles⟩, rfl⟩, duplicates⟩, rfl⟩, assets⟩, rfl⟩, rfl⟩ := valid
    exact ⟨types, graph, cycles, collect_eq_nil_iff.1 portsRead, duplicates,
      collect_eq_nil_iff.1 inputsRead, assets,
      collect_eq_nil_iff.1 paramsRead, collect_eq_nil_iff.1 outputsRead⟩
  · intro clean
    refine ⟨⟨true, [], Python.disconnectedWarnings registry definition⟩, ?_, rfl⟩
    rw [Python.validatePipeline, collect_eq_nil_iff.2 clean.ports,
      collect_eq_nil_iff.2 clean.inputs, collect_eq_nil_iff.2 clean.params,
      collect_eq_nil_iff.2 clean.outputs, clean.types, clean.graph,
      clean.cycles, clean.duplicates, clean.assets]
    rfl

theorem accepts_iff_valid : Python.Accepts interpreter registry definition ↔
  (Python.validatePipeline interpreter registry definition).map
    ValidationResult.valid = .ok true := by
  unfold Python.Accepts
  cases Python.validatePipeline interpreter registry definition <;>
    simp [Except.map]

theorem get?_nodesByID (definition : PipelineDefinition) (id : String) :
  (nodesByID definition).get? id = definition.nodes.reverse.find? fun node => node.id = id := by
  have fold (nodes : List PipelineNode) (start : Dict String PipelineNode) :
    (nodes.foldl (fun map node => map.set node.id node) start).get? id =
      (nodes.reverse.find? fun node => node.id = id).or (start.get? id) := by
    induction nodes generalizing start with
    | nil => simp
    | cons node nodes ih =>
      rw [foldl_cons, ih, Dict.get?_set, reverse_cons, find?_append]
      by_cases same : node.id = id <;>
        cases nodes.reverse.find? (fun node => node.id = id) <;> simp [same]
  rw [nodesByID, fold]
  simp [Dict.empty, Dict.get?]

variable {id handle sourcePort targetType targetPort : String} {node source target : PipelineNode}
  {edges : List PipelineEdge} {edge : PipelineEdge} {param : ParamDefinition φ}

theorem mem_of_get?_nodesByID (found : (nodesByID definition).get? id = some node) :
  node ∈ definition.nodes ∧ node.id = id := by
  rw [get?_nodesByID] at found
  exact ⟨mem_reverse.1 (mem_of_find?_eq_some found), by simpa using find?_some found⟩

theorem get?_nodesByID_isSome_iff : ((nodesByID definition).get? id).isSome = true ↔
  id ∈ definition.nodeIDs := by
  rw [get?_nodesByID, find?_isSome]
  simp [PipelineDefinition.nodeIDs]

theorem mem_keys_byNode {value : ν} : id ∈ (VideoProcess.Python.byNode definition value).keys ↔
  id ∈ definition.nodeIDs := by
  have fold (nodes : List PipelineNode) (start : Dict String ν) :
    id ∈ (nodes.foldl (fun map node => map.set node.id value) start).keys ↔
      id ∈ start.keys ∨ id ∈ nodes.map PipelineNode.id := by
    induction nodes generalizing start with
    | nil => simp
    | cons _ _ ih =>
      rw [foldl_cons, ih, Dict.keys_set, map_cons, mem_cons]
      split <;> grind
  rw [VideoProcess.Python.byNode, fold]
  simp [Dict.empty, Dict.keys, PipelineDefinition.nodeIDs]

theorem getD_byNode_zero (id : String) :
  (VideoProcess.Python.byNode definition (0 : Int)).getD id 0 = 0 := by
  have fold (nodes : List PipelineNode) (start : Dict String Int) (zero : start.getD id 0 = 0) :
    (nodes.foldl (fun map node => map.set node.id (0 : Int)) start).getD id 0 = 0 := by
    induction nodes generalizing start with
    | nil => exact zero
    | cons _ _ ih =>
      apply ih
      rw [Dict.getD_set]
      split
      · rfl
      · exact zero
  exact fold _ _ rfl

theorem mem_graphEdges {edge : String × String}
  (member : edge ∈ VideoProcess.Python.graphEdges definition) :
  edge.1 ∈ definition.nodeIDs ∧ edge.2 ∈ definition.nodeIDs := by
  obtain ⟨_, held, rfl⟩ := mem_map.1 member
  simpa using (mem_filter.1 held).2

def sortFrom (definition : PipelineDefinition) (keys : List String) : List String :=
  let degree := VideoProcess.Python.inDegree definition
  Kahn.loop (VideoProcess.Python.graphEdges definition)
    (definition.nodes.length + definition.edges.length + 1) degree
    (keys.filter fun id => degree.getD id 0 = 0) []

theorem sortFrom_spec {keys : List String}
  (ordered : keys.Perm (VideoProcess.Python.inDegree definition).keys) :
  (sortFrom definition keys).Nodup ∧ (∀ id, id ∈ sortFrom definition keys ↔
    id ∈ definition.nodeIDs ∧ Acc (fun source target =>
      (source, target) ∈ VideoProcess.Python.graphEdges definition) id) ∧
    ∀ edge ∈ VideoProcess.Python.graphEdges definition, edge.2 ∈ sortFrom definition keys →
      [edge.1, edge.2].Sublist (sortFrom definition keys) := by
  refine Kahn.sort_spec getD_byNode_zero (fun id => mem_keys_byNode)
    (fun edge member => (mem_graphEdges member).1)
    (fun edge member => (mem_graphEdges member).2) ordered ?_
  rw [PipelineDefinition.nodeIDs, length_map]
  omega

theorem length_topologicalOrder (order : Go.MapOrder) :
  (Go.topologicalOrder order definition).length =
    (VideoProcess.Python.topologicalSort definition).length := by
  obtain ⟨goDistinct, goSorted, -⟩ := sortFrom_spec
    (order.perm (VideoProcess.Python.inDegree definition).keys)
  obtain ⟨distinct, sorted, -⟩ := sortFrom_spec
    (List.Perm.refl (VideoProcess.Python.inDegree definition).keys)
  refine List.Perm.length_eq ((perm_ext_iff_of_nodup goDistinct distinct).2 fun id => ?_)
  exact (goSorted id).trans (sorted id).symm

structure Go.Passed (registry : Registry φ) (order : Go.MapOrder)
  (definition : PipelineDefinition) : Prop where
  types : ∀ node ∈ definition.nodes, (registry.getType node.type).isSome = true
  edges : ∀ edge ∈ definition.edges, ∃ source target,
    (nodesByID definition).get? edge.source = some source ∧
      (nodesByID definition).get? edge.target = some target ∧
      registry.validateEdge source.type edge.sourceHandle target.type edge.targetHandle = true
  once : definition.edges.Pairwise fun earlier later =>
    earlier.target = later.target → earlier.targetHandle ≠ later.targetHandle
  sorted : (nodesByID definition).keys.length ≤ (Go.topologicalOrder order definition).length
  inputs : ∀ node ∈ definition.nodes, ∀ typeDefinition,
    registry.getType node.type = some typeDefinition →
    ∀ port ∈ typeDefinition.inputs, port.required = true →
    ∃ edge ∈ definition.edges, edge.target = node.id ∧ edge.targetHandle = port.name
  params : ∀ node ∈ definition.nodes, ∀ typeDefinition,
    registry.getType node.type = some typeDefinition →
    ∀ param ∈ typeDefinition.params, param.required = true →
    isMissing (node.data.config.getD param.name .null) = false

theorem mem_connectedInputs : handle ∈ Go.connectedInputs definition edges id ↔
  ∃ edge ∈ edges, Go.isJoined definition edge = true ∧ edge.target = id ∧
    edge.targetHandle = handle := by
  simp [Go.connectedInputs, and_assoc]

theorem isJoined_of_get? (sourceFound : (nodesByID definition).get? edge.source = some source)
  (targetFound : (nodesByID definition).get? edge.target = some target) :
  Go.isJoined definition edge = true := by
  rw [Go.isJoined, decide_eq_true_eq, ← get?_nodesByID_isSome_iff,
    ← get?_nodesByID_isSome_iff, sourceFound, targetFound]
  exact ⟨rfl, rfl⟩

theorem edgeErrorsFrom_eq_nil (clean : Go.edgeErrorsFrom registry definition seen edges = []) :
  (∀ edge ∈ edges, ∃ source target, (nodesByID definition).get? edge.source = some source ∧
    (nodesByID definition).get? edge.target = some target ∧
    registry.validateEdge source.type edge.sourceHandle target.type edge.targetHandle = true) ∧
  (edges.Pairwise fun earlier later => earlier.target = later.target →
    earlier.targetHandle ≠ later.targetHandle) ∧
  ∀ edge ∈ edges, edge.targetHandle ∉ Go.connectedInputs definition seen edge.target := by
  induction edges generalizing seen with
  | nil => simp
  | cons edge _ ih =>
    rw [Go.edgeErrorsFrom, append_eq_nil_iff] at clean
    obtain ⟨first, rest⟩ := clean
    obtain ⟨connected, once, new⟩ := ih rest
    split at first
    · cases first
    · cases first
    next source target sourceFound targetFound =>
      rw [Go.connectErrors, append_eq_nil_iff] at first
      have valid : registry.validateEdge source.type edge.sourceHandle
        target.type edge.targetHandle = true := by
        by_contra invalid
        simp [invalid] at first
      have fresh : edge.targetHandle ∉ Go.connectedInputs definition seen edge.target := by
        intro known
        simp [known] at first
      have joined := isJoined_of_get? sourceFound targetFound
      refine ⟨?_, pairwise_cons.2 ⟨?_, once⟩, ?_⟩
      · intro other member
        obtain rfl | member := mem_cons.1 member
        · exact ⟨source, target, sourceFound, targetFound, valid⟩
        · exact connected other member
      · intro other member sameTarget sameHandle
        apply new other member
        exact mem_connectedInputs.2 ⟨edge, by simp, joined, sameTarget, sameHandle⟩
      · intro other member
        obtain rfl | member := mem_cons.1 member
        · exact fresh
        · intro known
          apply new other member
          obtain ⟨earlier, held, facts⟩ := mem_connectedInputs.1 known
          exact mem_connectedInputs.2 ⟨earlier, mem_append_left _ held, facts⟩

variable {order : Go.MapOrder}

theorem Go.Passed.of_valid (valid : (Go.validate registry order definition).valid = true) :
  Go.Passed registry order definition := by
  unfold Go.validate at valid
  split at valid
  · cases valid
  · simp only [List.isEmpty_iff, List.append_eq_nil_iff] at valid
    obtain ⟨⟨⟨types, edges⟩, cycles⟩, nodes⟩ := valid
    obtain ⟨connected, once, -⟩ := edgeErrorsFrom_eq_nil edges
    have nodeClean {node : PipelineNode} (member : node ∈ definition.nodes)
      {typeDefinition : NodeTypeDefinition φ}
      (found : registry.getType node.type = some typeDefinition) := by
      have clean : Go.nodeErrors registry definition node = [] :=
        flatMap_eq_nil_iff.1 nodes node member
      rw [Go.nodeErrors, found] at clean
      simp only [append_eq_nil_iff, map_eq_nil_iff, filter_eq_nil_iff] at clean
      exact clean
    constructor
    case types =>
      intro node member
      simp only [Go.unknownTypeErrors, map_eq_nil_iff, filter_eq_nil_iff] at types
      simpa [Option.isSome_iff_ne_none] using types node member
    case edges => exact connected
    case once => exact once
    case sorted =>
      by_contra unsorted
      simp [Go.cycleErrors, Nat.lt_of_not_le unsorted] at cycles
    case inputs =>
      intro node member typeDefinition found port declared required
      have connected := (nodeClean member found).1.1 port declared
      simp only [required, true_and, decide_eq_true_eq, not_not] at connected
      obtain ⟨edge, held, -, target, handle⟩ := mem_connectedInputs.1 connected
      exact ⟨edge, held, target, handle⟩
    case params =>
      intro node member typeDefinition found param declared required
      have present := (nodeClean member found).2 param declared
      simpa [required] using present

section

variable (eligible : Go.classifyGoEligibility definition = none)

include eligible

theorem ineligible?_eq_none (member : node ∈ definition.nodes) :
  (node.type = "source" ∧ Go.sourceHasAssetID node = true) ∨
    node.type ∈ Go.firstWaveGoNodeTypes := by
  have plain := findSome?_eq_none_iff.1 eligible node member
  unfold Go.ineligible? at plain
  split at plain
  next source =>
    split at plain
    next bound => exact .inl ⟨source, bound⟩
    · cases plain
  · split at plain
    next allowed => exact .inr allowed
    · cases plain

theorem ne_planner (member : node ∈ definition.nodes) :
  node.type ≠ "zip_records" ∧ node.type ∉ Python.searchNodeTypes := by
  obtain ⟨source, -⟩ | allowed := ineligible?_eq_none eligible member
  · rw [source]
    decide
  · have outside : ∀ type ∈ Go.firstWaveGoNodeTypes,
      type ≠ "zip_records" ∧ type ∉ Python.searchNodeTypes := by
      decide
    exact outside node.type allowed

theorem plannerBound_eq_nil (type handle : String) :
  Python.plannerBound definition type handle = [] := by
  rw [Python.plannerBound, map_eq_nil_iff, filter_eq_nil_iff]
  intro edge _
  split
  next found _ =>
    have := (ne_planner eligible (mem_of_get?_nodesByID found).1).1
    simp [this]
  · simp

end

section

variable (interpreter : Python.Interpreter φ)

theorem matchedIndex_video_1 : Python.matchedIndex interpreter "video_1" = .ok (some 1) := by
  have one := interpreter.digit_ascii '1' (by decide)
  simp [Python.matchedIndex, Python.videoInputDigits, Python.beforeNewline,
    one, Python.intOfDigits, Python.decimal, Except.map]

theorem matchedIndex_video_2 : Python.matchedIndex interpreter "video_2" = .ok (some 2) := by
  have two := interpreter.digit_ascii '2' (by decide)
  simp [Python.matchedIndex, Python.videoInputDigits, Python.beforeNewline,
    two, Python.intOfDigits, Python.decimal, Except.map]

theorem matchedIndex_timelineInput (declared : handle = "video_1" ∨ handle = "video_2") :
  ∃ index, Python.matchedIndex interpreter handle = .ok (some index) ∧ 1 ≤ index ∧ index ≤ 2 := by
  obtain rfl | rfl := declared
  · exact ⟨1, matchedIndex_video_1 interpreter, by decide, by decide⟩
  · exact ⟨2, matchedIndex_video_2 interpreter, by decide, by decide⟩

end

theorem getType_dynamic (registry : Registry φ)
  (dynamic : type ∈ Python.dynamicVideoInputNodeTypes) :
  ∃ typeDefinition, registry.getType type = some typeDefinition ∧
    typeDefinition.inputs = timelineInputs := by
  simp only [Python.dynamicVideoInputNodeTypes, mem_cons,
    not_mem_nil, or_false] at dynamic
  obtain rfl | rfl := dynamic
  · exact Option.map_eq_some_iff.1 registry.concatTimeline
  · exact Option.map_eq_some_iff.1 registry.concatMany

theorem findPort_timelineInputs (found : findPort timelineInputs handle = some port) :
  (handle = "video_1" ∨ handle = "video_2") ∧ port.portType = .video := by
  simp only [findPort, timelineInputs, find?_cons] at found
  split at found
  next named =>
    cases found
    exact ⟨.inl (of_decide_eq_true named).symm, rfl⟩
  · split at found
    next named =>
      cases found
      exact ⟨.inr (of_decide_eq_true named).symm, rfl⟩
    · cases found

theorem validateEdge_eq_true (valid : registry.validateEdge sourceType sourcePort targetType
  targetPort = true) :
  ∃ source output target input, registry.getType sourceType = some source ∧
    findPort source.outputs sourcePort = some output ∧
    registry.getType targetType = some target ∧
    findPort target.inputs targetPort = some input ∧
    (input.portType = .anyMedia ∨ output.portType = .anyMedia ∨
      output.portType = input.portType) := by
  unfold Registry.validateEdge at valid
  split at valid
  next source target sourceFound targetFound =>
    split at valid
    next output input outputFound inputFound =>
      exact ⟨source, output, target, input, sourceFound, outputFound,
        targetFound, inputFound, of_decide_eq_true valid⟩
    · cases valid
  · cases valid

theorem handle_of_validateEdge (dynamic : targetType ∈ Python.dynamicVideoInputNodeTypes)
  (valid : registry.validateEdge sourceType sourcePort targetType targetPort = true) :
  targetPort = "video_1" ∨ targetPort = "video_2" := by
  obtain ⟨-, -, target, _, -, -, targetFound, inputFound, -⟩ := validateEdge_eq_true valid
  obtain ⟨timeline, timelineFound, inputs⟩ := getType_dynamic registry dynamic
  obtain rfl : timeline = target := Option.some.inj (timelineFound.symm.trans targetFound)
  rw [inputs] at inputFound
  exact (findPort_timelineInputs inputFound).1

theorem canonicalTargetHandle_timelineInput (declared : handle = "video_1" ∨ handle = "video_2") :
  Python.canonicalTargetHandle nodeType handle = handle := by
  obtain rfl | rfl := declared <;>
    simp [Python.canonicalTargetHandle, Python.legacyTimelineInputHandle]

theorem dynamicVideoInputIndex_timelineInput
  (dynamic : nodeType ∈ Python.dynamicVideoInputNodeTypes)
  (declared : handle = "video_1" ∨ handle = "video_2")
  (matched : Python.matchedIndex interpreter handle = .ok (some index))
  (least : 1 ≤ index) :
  Python.dynamicVideoInputIndex interpreter nodeType handle = .ok (some index) := by
  rw [Python.dynamicVideoInputIndex, if_neg (not_not.2 dynamic),
    canonicalTargetHandle_timelineInput declared, matched]
  simp [Except.map, least]

/-- A source node that names its media type yields what the input takes. -/
def MediaFits (interpreter : Python.Interpreter φ) (registry : Registry φ)
  (edge : PipelineEdge) (source target : PipelineNode) : Prop :=
  ∀ actual, Python.inferActualOutputPortType interpreter source = some actual →
    ∀ typeDefinition, registry.getType target.type = some typeDefinition →
    ∀ port, findPort typeDefinition.inputs edge.targetHandle = some port →
      port.portType = .anyMedia ∨ actual = port.portType

theorem actualTypeErrors_eq_nil_iff :
  Python.actualTypeErrors interpreter registry edge source target = [] ↔
    MediaFits interpreter registry edge source target := by
  unfold Python.actualTypeErrors MediaFits
  cases Python.inferActualOutputPortType interpreter source with
  | none => simp
  | some =>
    cases registry.getType target.type with
    | none => simp
    | some typeDefinition =>
      cases found : findPort typeDefinition.inputs edge.targetHandle with
      | none => simp [found]
      | some =>
        simp only [Option.some.injEq, forall_eq', found]
        split
        next unfit =>
          simp only [cons_ne_nil, false_iff, not_or]
          exact unfit
        next fit =>
          simp only [true_iff]
          grind

theorem connectedEdgeErrors_plain (plain : target.type ∉ Python.dynamicVideoInputNodeTypes)
  (planned : Python.isPlannerEdge source target = false)
  (valid : registry.validateEdge source.type edge.sourceHandle target.type
    edge.targetHandle = true) :
  Python.connectedEdgeErrors interpreter registry edge source target =
    .ok (Python.actualTypeErrors interpreter registry edge source target) := by
  have limit : Python.dynamicVideoInputLimitError interpreter target.type
    edge.targetHandle = .ok none := if_pos plain
  have index : Python.dynamicVideoInputIndex interpreter target.type
    edge.targetHandle = .ok none := if_pos plain
  simp only [Python.connectedEdgeErrors, limit, index, planned, Python.declaredEdgeErrors, valid]
  rfl

section

variable (dynamic : target.type ∈ Python.dynamicVideoInputNodeTypes)

include dynamic

theorem connectedEdgeErrors_dynamic
  (declared : edge.targetHandle = "video_1" ∨ edge.targetHandle = "video_2") :
  Python.connectedEdgeErrors interpreter registry edge source target =
    .ok (if Python.validateDynamicVideoInputEdge interpreter registry
      source.type edge.sourceHandle source then []
      else [Python.cannotConnect edge]) := by
  obtain ⟨index, matched, least, _⟩ := matchedIndex_timelineInput interpreter declared
  have within : index ≤ Python.dynamicVideoInputMaxCount := by
    rw [Python.dynamicVideoInputMaxCount]
    omega
  have limit : Python.dynamicVideoInputLimitError interpreter target.type
    edge.targetHandle = .ok none := by
    rw [Python.dynamicVideoInputLimitError, if_neg (not_not.2 dynamic),
      canonicalTargetHandle_timelineInput declared, matched]
    simp [Except.map, within]
  simp only [Python.connectedEdgeErrors, limit,
    dynamicVideoInputIndex_timelineInput dynamic declared matched least]
  rfl

theorem validateDynamicVideoInputEdge_iff
  (valid : registry.validateEdge source.type edge.sourceHandle target.type
    edge.targetHandle = true) :
  Python.validateDynamicVideoInputEdge interpreter registry source.type
    edge.sourceHandle source = true ↔
    MediaFits interpreter registry edge source target := by
  obtain ⟨_, output, targetType, input, sourceFound, outputFound,
    targetFound, inputFound, compatible⟩ := validateEdge_eq_true valid
  obtain ⟨timeline, timelineFound, inputs⟩ := getType_dynamic registry dynamic
  obtain rfl : timeline = targetType := Option.some.inj (timelineFound.symm.trans targetFound)
  have video : input.portType = .video := by
    rw [inputs] at inputFound
    exact (findPort_timelineInputs inputFound).2
  have declared : output.portType = .video ∨ output.portType = .anyMedia := by
    rw [video] at compatible
    obtain impossible | any | same := compatible
    · cases impossible
    · exact .inr any
    · exact .inl same
  rw [Python.validateDynamicVideoInputEdge, sourceFound]
  simp only [outputFound, decide_eq_true_eq, declared, true_and, MediaFits,
    targetFound, Option.some.injEq, forall_eq', inputFound, video]
  cases Python.inferActualOutputPortType interpreter source with
  | none | some => simp

end

theorem edgeErrors_eq_nil_iff (eligible : Go.classifyGoEligibility definition = none)
  (sourceFound : (nodesByID definition).get? edge.source = some source)
  (targetFound : (nodesByID definition).get? edge.target = some target)
  (valid : registry.validateEdge source.type edge.sourceHandle target.type
    edge.targetHandle = true) :
  Python.edgeErrors interpreter registry definition edge = .ok [] ↔
    MediaFits interpreter registry edge source target := by
  rw [Python.edgeErrors, sourceFound, targetFound]
  by_cases dynamic : target.type ∈ Python.dynamicVideoInputNodeTypes
  · have declared := handle_of_validateEdge dynamic valid
    simp only [connectedEdgeErrors_dynamic dynamic declared, Except.ok.injEq]
    rw [← validateDynamicVideoInputEdge_iff dynamic valid]
    split
    next accepted => simp [accepted]
    next rejected => simp [rejected]
  · have sourcePlain := ne_planner eligible (mem_of_get?_nodesByID sourceFound).1
    have targetPlain := ne_planner eligible (mem_of_get?_nodesByID targetFound).1
    have planned : Python.isPlannerEdge source target = false := by
      simp [Python.isPlannerEdge, sourcePlain, targetPlain]
    simp only [connectedEdgeErrors_plain dynamic planned valid, Except.ok.injEq]
    exact actualTypeErrors_eq_nil_iff

theorem canonicalInput_eq (passed : Go.Passed registry order definition)
  (member : edge ∈ definition.edges) :
  Python.canonicalInput definition edge = edge.targetHandle := by
  obtain ⟨_, target, -, targetFound, valid⟩ := passed.edges edge member
  rw [Python.canonicalInput, targetFound]
  by_cases timeline : target.type = "concat_timeline"
  · have dynamic : target.type ∈ Python.dynamicVideoInputNodeTypes := by
      rw [timeline]
      decide
    exact canonicalTargetHandle_timelineInput (handle_of_validateEdge dynamic valid)
  · exact if_neg timeline

theorem duplicateInputErrorsFrom_eq_nil (plain : ∀ edge ∈ seen ++ edges,
  Python.canonicalInput definition edge = edge.targetHandle)
  (once : (seen ++ edges).Pairwise fun earlier later =>
    earlier.target = later.target → earlier.targetHandle ≠ later.targetHandle) :
  Python.duplicateInputErrorsFrom definition seen edges = [] := by
  induction edges generalizing seen with
  | nil => rfl
  | cons edge _ ih =>
    have own := plain edge (by simp)
    have fresh : Python.canonicalInput definition edge ∉
      Python.connectedInputs definition seen edge.target := by
      rw [own, Python.connectedInputs, mem_map]
      rintro ⟨earlier, held, same⟩
      obtain ⟨held, target⟩ := mem_filter.1 held
      rw [plain earlier (by simp [held])] at same
      exact (pairwise_append.1 once).2.2 earlier held edge (by simp)
        (of_decide_eq_true target) same
    rw [Python.duplicateInputErrorsFrom]
    simp only [fresh, if_false, nil_append]
    apply ih
    · simpa using plain
    · simpa using once

theorem videoInputDigits_length
  (matched : Python.videoInputDigits interpreter handle = some digits) :
  digits.length ≤ handle.length := by
  unfold Python.videoInputDigits at matched
  split at matched
  · dsimp only at matched
    split at matched
    · cases matched
      rw [length_map, length_map, Python.beforeNewline]
      have whole : handle.toList.length = handle.length := String.length_toList
      split
      · rw [length_dropLast, length_drop]
        omega
      · rw [length_drop]
        omega
    · cases matched
  · cases matched

theorem dynamicVideoInputIndex_isOk (interpreter : Python.Interpreter φ)
  (nodeType : String) (short : handle.length ≤ 4300) :
  ∃ index, Python.dynamicVideoInputIndex interpreter nodeType handle = .ok index := by
  have canonical : (Python.canonicalTargetHandle nodeType handle).length ≤ 4300 := by
    unfold Python.canonicalTargetHandle Python.legacyTimelineInputHandle
    split_ifs <;> first | exact short | decide
  rw [Python.dynamicVideoInputIndex]
  split
  · exact ⟨none, rfl⟩
  · rw [Python.matchedIndex]
    split
    · exact ⟨none, rfl⟩
    next matched =>
      rw [Python.intOfDigits, if_pos ((videoInputDigits_length matched).trans canonical)]
      exact ⟨_, rfl⟩

theorem connectedDynamicInputs_spec (interpreter : Python.Interpreter φ)
  (dynamic : node.type ∈ Python.dynamicVideoInputNodeTypes)
  (short : ∀ edge ∈ edges, edge.targetHandle.length ≤ 4300) :
  ∃ inputs, Python.connectedDynamicInputs interpreter node edges = .ok inputs ∧
    ∀ edge ∈ edges, edge.target = node.id →
      (edge.targetHandle = "video_1" ∨ edge.targetHandle = "video_2") →
      edge.targetHandle ∈ inputs := by
  induction edges with
  | nil => exact ⟨[], rfl, by simp⟩
  | cons edge _ ih =>
    obtain ⟨inputs, connected, held⟩ := ih fun other member =>
      short other (by simp [member])
    obtain ⟨_, found⟩ := dynamicVideoInputIndex_isOk interpreter node.type (short edge (by simp))
    rw [Python.connectedDynamicInputs]
    by_cases own : edge.target = node.id
    · rw [if_pos own, found, connected]
      refine ⟨_, rfl, fun other member target declared => ?_⟩
      obtain rfl | member := mem_cons.1 member
      · obtain ⟨_, matched, least, -⟩ := matchedIndex_timelineInput interpreter declared
        rw [dynamicVideoInputIndex_timelineInput dynamic declared matched least] at found
        cases found
        simp [canonicalTargetHandle_timelineInput declared]
      · have later := held other member target declared
        split
        · exact mem_cons_of_mem _ later
        · exact later
    · rw [if_neg own]
      refine ⟨inputs, connected, fun other member target declared => ?_⟩
      obtain rfl | member := mem_cons.1 member
      · exact absurd target own
      · exact held other member target declared

theorem short_targetHandle (passed : Go.Passed registry order definition)
  (member : edge ∈ definition.edges) : edge.targetHandle.length ≤ 4300 := by
  obtain ⟨_, _, -, -, valid⟩ := passed.edges edge member
  obtain ⟨-, -, _, port, -, -, found, declared, -⟩ := validateEdge_eq_true valid
  have named : port.name = edge.targetHandle := by simpa using find?_some declared
  rw [← named]
  exact registry.shortNames _ _ found _ (mem_of_find?_eq_some declared)

theorem requiredInputErrors_eq_nil (eligible : Go.classifyGoEligibility definition = none)
  (passed : Go.Passed registry order definition)
  (member : node ∈ definition.nodes) :
  Python.requiredInputErrors interpreter registry definition node = .ok [] := by
  rw [Python.requiredInputErrors]
  split
  · rfl
  next typeDefinition found =>
    split
    next dynamic =>
      obtain ⟨inputs, connected, held⟩ :=
        connectedDynamicInputs_spec interpreter dynamic
          fun edge member => short_targetHandle passed member
      obtain ⟨timeline, timelineFound, declared⟩ := getType_dynamic registry dynamic
      obtain rfl : timeline = typeDefinition := Option.some.inj (timelineFound.symm.trans found)
      have both (port : PortDefinition) (listed : port ∈ timelineInputs) :
        port.name ∈ inputs.dedup := by
        have facts : port.required = true ∧ (port.name = "video_1" ∨ port.name = "video_2") := by
          revert port
          decide
        obtain ⟨edge, edgeHeld, target, handle⟩ := passed.inputs node member _
          found port (declared ▸ listed) facts.1
        rw [mem_dedup, ← handle]
        exact held edge edgeHeld target (handle ▸ facts.2)
      have distinct : ["video_1", "video_2"] ⊆ inputs.dedup := by
        intro name listed
        simp only [mem_cons, not_mem_nil, or_false] at listed
        obtain rfl | rfl := listed
        · exact both ⟨"video_1", .video, true⟩ (by decide)
        · exact both ⟨"video_2", .video, true⟩ (by decide)
      have enough : 2 ≤ inputs.dedup.length :=
        (subperm_of_subset (by decide) distinct).length_le
      rw [connected]
      simp [Except.map, Nat.not_lt.2 enough]
    · rw [if_neg (ne_planner eligible member).1, Except.ok.injEq,
        map_eq_nil_iff, filter_eq_nil_iff]
      intro port listed
      simp only [decide_eq_true_eq, not_and, not_not]
      intro required
      obtain ⟨edge, held, target, handle⟩ := passed.inputs node member _ found port listed required
      rw [Python.connectedInputs, mem_map]
      refine ⟨edge, mem_filter.2 ⟨held, by simpa using target⟩, ?_⟩
      rw [canonicalInput_eq passed held, handle]

/-- A number that `float` reads and that lies between the bounds. -/
def NumberFits (interpreter : Python.Interpreter φ) (param : ParamDefinition φ)
  (value : ConfigValue) : Prop :=
  ∃ number, interpreter.float value = .ok number ∧
    (∀ least ∈ param.minValue, interpreter.lt number least = false) ∧
    ∀ greatest ∈ param.maxValue, interpreter.lt greatest number = false

def ValueFits (interpreter : Python.Interpreter φ) (param : ParamDefinition φ)
  (value : ConfigValue) : Prop :=
  value = .null ∨ (param.paramType = .number → NumberFits interpreter param value) ∧
    (param.paramType = .select → ∀ options ∈ param.options, value ∈ options.map ConfigValue.str)

theorem rangeErrors_eq_nil_iff : Python.rangeErrors interpreter node param number = [] ↔
  (∀ least ∈ param.minValue, interpreter.lt number least = false) ∧
  ∀ greatest ∈ param.maxValue, interpreter.lt greatest number = false := by
  rw [Python.rangeErrors, append_eq_nil_iff]
  cases param.minValue <;> cases param.maxValue <;> simp

theorem optionErrors_eq_nil_iff : Python.optionErrors node param value = [] ↔
  value = .null ∨ (param.paramType = .select → ∀ options ∈ param.options,
    value ∈ options.map ConfigValue.str) := by
  unfold Python.optionErrors
  cases param.paramType <;> cases param.options <;> simp
  tauto

theorem valueErrors_eq_nil_iff : Python.valueErrors interpreter node param value = .ok [] ↔
  ValueFits interpreter param value := by
  unfold Python.valueErrors ValueFits
  split
  next number =>
    obtain ⟨number, set⟩ := number
    have plain : Python.optionErrors node param value = [] :=
      optionErrors_eq_nil_iff.2 (.inr (by simp [number]))
    rw [plain]
    simp only [number, set, false_or, reduceCtorEq, false_implies, and_true,
      true_implies, NumberFits]
    cases interpreter.float value with
    | ok => simp [rangeErrors_eq_nil_iff]
    | error failure => cases failure <;> simp
  next other =>
    rw [Except.ok.injEq, optionErrors_eq_nil_iff]
    tauto

section

variable (eligible : Go.classifyGoEligibility definition = none)

include eligible

theorem nodeParamErrors_eq_nil_iff (passed : Go.Passed registry order definition)
  (member : node ∈ definition.nodes) :
  Python.nodeParamErrors interpreter registry definition node = .ok [] ↔
    ∀ typeDefinition, registry.getType node.type = some typeDefinition →
    ∀ param ∈ typeDefinition.params, ValueFits interpreter param
      (node.data.config.getD param.name .null) := by
  rw [Python.nodeParamErrors]
  split
  next missing => simp [missing]
  next found =>
    simp only [found, Option.some.injEq, forall_eq', collect_eq_nil_iff]
    refine forall₂_congr fun param declared => ?_
    have planned : Python.isPlannerParam definition node param = false := by
      simp [Python.isPlannerParam, Python.plannerBoundURLNodes,
        Python.plannerBoundSourceNodes, plannerBound_eq_nil eligible]
    have present : ¬ (param.required = true ∧
      isMissing (node.data.config.getD param.name .null) = true) := by
      rintro ⟨required, missing⟩
      rw [passed.params node member _ found param declared required] at missing
      cases missing
    rw [Python.paramErrors]
    simp only [planned, present, Bool.false_eq_true, if_false]
    exact valueErrors_eq_nil_iff

theorem missingAssetErrors_eq_nil : Python.missingAssetErrors definition = [] := by
  rw [Python.missingAssetErrors, map_eq_nil_iff, filter_eq_nil_iff]
  intro node member
  simp only [decide_eq_true_eq]
  rintro ⟨source, unbound, unset, -⟩
  obtain ⟨-, bound⟩ | allowed := ineligible?_eq_none eligible member
  · rw [Go.sourceHasAssetID, decide_eq_true_eq] at bound
    obtain bound | bound := bound
    · exact bound unset
    · apply bound
      rw [Dict.getD] at unbound
      cases read : node.data.config.get? "asset_id" with
      | none => rfl
      | some value =>
        rw [read] at unbound
        cases value <;>
          simp_all [Go.stringOf, VideoProcess.Python.truthy]
  · rw [source] at allowed
    revert allowed
    decide

end

/-- What the Python validator asks of a definition beyond the Go validator:
every parameter holds a value its type admits, and every source yields the
media its target takes. -/
structure Sanctioned (interpreter : Python.Interpreter φ)
  (registry : Registry φ) (definition : PipelineDefinition) : Prop where
  values : ∀ node ∈ definition.nodes, ∀ typeDefinition,
    registry.getType node.type = some typeDefinition →
    ∀ param ∈ typeDefinition.params,
      ValueFits interpreter param (node.data.config.getD param.name .null)
  media : ∀ edge ∈ definition.edges, ∀ source target,
    (nodesByID definition).get? edge.source = some source →
    (nodesByID definition).get? edge.target = some target →
    MediaFits interpreter registry edge source target

section

variable (eligible : Go.classifyGoEligibility definition = none)
  (passed : Go.Passed registry order definition)

include eligible passed

theorem Python.Clean.of_sanctioned (sanctioned : Sanctioned interpreter registry definition) :
  Python.Clean interpreter registry definition := by
  constructor
  case types =>
    rw [Python.unknownTypeErrors, map_eq_nil_iff, filter_eq_nil_iff]
    intro node member
    simpa [Option.isSome_iff_ne_none] using passed.types node member
  case graph =>
    rw [Python.graphErrors, flatMap_eq_nil_iff]
    intro edge member
    obtain ⟨_, _, sourceFound, targetFound, -⟩ := passed.edges edge member
    have sourceKnown : edge.source ∈ definition.nodeIDs := by
      rw [← get?_nodesByID_isSome_iff, sourceFound]
      rfl
    have targetKnown : edge.target ∈ definition.nodeIDs := by
      rw [← get?_nodesByID_isSome_iff, targetFound]
      rfl
    simp [sourceKnown, targetKnown]
  case cycles =>
    have sorted := passed.sorted
    rw [length_topologicalOrder] at sorted
    simp [Python.cycleErrors, Nat.not_lt.2 sorted]
  case ports =>
    intro edge member
    obtain ⟨source, target, sourceFound, targetFound, valid⟩ := passed.edges edge member
    exact (edgeErrors_eq_nil_iff eligible sourceFound targetFound valid).2
      (sanctioned.media edge member source target sourceFound targetFound)
  case duplicates =>
    exact duplicateInputErrorsFrom_eq_nil
      (fun edge member => canonicalInput_eq passed member) passed.once
  case inputs =>
    intro node member
    exact requiredInputErrors_eq_nil eligible passed member
  case assets => exact missingAssetErrors_eq_nil eligible
  case params =>
    intro node member
    exact (nodeParamErrors_eq_nil_iff eligible passed member).2 (sanctioned.values node member)
  case outputs =>
    intro node member
    exact if_pos (ne_planner eligible member).1

theorem Python.Clean.sanctioned (clean : Python.Clean interpreter registry definition) :
  Sanctioned interpreter registry definition := by
  constructor
  case values =>
    intro node member
    exact (nodeParamErrors_eq_nil_iff eligible passed member).1 (clean.params node member)
  case media =>
    intro edge member source target sourceFound targetFound
    obtain ⟨_, _, sourceRead, targetRead, valid⟩ := passed.edges edge member
    rw [sourceFound] at sourceRead
    rw [targetFound] at targetRead
    cases sourceRead
    cases targetRead
    exact (edgeErrors_eq_nil_iff eligible sourceFound targetFound valid).1 (clean.ports edge member)

end

end

/-- Of the definitions that are eligible for Go and that Go accepts, in any
order of its maps, the Python validator accepts the sanctioned ones. -/
theorem accepts_iff_sanctioned {φ : Type} (interpreter : Python.Interpreter φ)
  (registry : Registry φ) (order : Go.MapOrder)
  (definition : PipelineDefinition)
  (eligible : Go.classifyGoEligibility definition = none)
  (valid : (Go.validate registry order definition).valid = true) :
  Python.Accepts interpreter registry definition ↔ Sanctioned interpreter registry definition := by
  have passed := Go.Passed.of_valid valid
  rw [accepts_iff_clean]
  exact ⟨Python.Clean.sanctioned eligible passed, Python.Clean.of_sanctioned eligible passed⟩

def selectParam (name : String) (options : List String) : ParamDefinition Int :=
  ⟨name, .select, false, some options, none, none⟩

def numberParam (name : String) (least greatest : Option Int) : ParamDefinition Int :=
  ⟨name, .number, false, none, least, greatest⟩

def sourceType : NodeTypeDefinition Int where
  inputs := [⟨"asset_input", .assetValue, false⟩]
  outputs := [⟨"output", .anyMedia, true⟩]
  params := [⟨"asset_id", .string, true, none, none, none⟩,
    selectParam "media_type" ["video", "audio", "image", "subtitle"]]

def transcodeType : NodeTypeDefinition Int where
  inputs := [⟨"input", .video, true⟩]
  outputs := [⟨"output", .video, true⟩]
  params := [selectParam "format" ["mp4", "mkv", "webm", "avi", "mov"],
    selectParam "video_codec" ["libx264", "libx265", "h264_nvenc",
      "hevc_nvenc", "libvpx-vp9", "copy"],
    selectParam "audio_codec" ["aac", "libopus", "libmp3lame", "copy"],
    selectParam "resolution" ["original", "3840x2160", "1920x1080", "1280x720", "854x480"],
    ⟨"bitrate", .string, false, none, none, none⟩,
    numberParam "crf" (some 0) (some 51),
    selectParam "preset" ["ultrafast", "superfast", "veryfast", "faster",
      "fast", "medium", "slow", "slower", "veryslow"]]

/-- `concat_many` has the parameters of `concat_timeline` and others, none of
them required. -/
def timelineType : NodeTypeDefinition Int where
  inputs := timelineInputs
  outputs := [⟨"output", .video, true⟩]
  params := [numberParam "input_count" (some 2) none,
    selectParam "output_format" ["mp4", "mkv", "webm"],
    selectParam "transition" ["none", "fade", "dissolve"],
    numberParam "transition_duration" (some 0) (some 5)]

def builtinType (type : String) : Option (NodeTypeDefinition Int) :=
  if type = "source" then some sourceType
  else if type = "transcode" then some transcodeType
  else if type ∈ Python.dynamicVideoInputNodeTypes then some timelineType
  else none

theorem builtinType_shortNames (type : String) (definition : NodeTypeDefinition Int)
  (found : builtinType type = some definition) :
  ∀ port ∈ definition.inputs, port.name.length ≤ 4300 := by
  unfold builtinType at found
  split_ifs at found <;> cases found <;> decide

def builtinRegistry : Registry Int where
  getType := builtinType
  concatMany := by decide
  concatTimeline := by decide
  shortNames := builtinType_shortNames

def integerOf : ConfigValue → Except Python.FloatFailure Int
  | .int value => .ok value
  | _ => .error .notNumber

def asciiDigit (char : Char) : Option Nat :=
  if char.isDigit then some (char.toNat - 48) else none

theorem asciiDigit_eq (char : Char) (_ : char.toNat < 128) : asciiDigit char =
  if char.isDigit then some (char.toNat - 48) else none := rfl

def asciiInterpreter : Python.Interpreter Int where
  unicode := VideoProcess.Python.ascii
  digit := asciiDigit
  float := integerOf
  lt left right := left < right
  floatText := toString
  int := integerOf
  intText := String.toInt?
  digit_ascii := asciiDigit_eq

theorem perm_declared (keys : List String) : (id keys).Perm keys := List.Perm.refl keys

def declaredOrder : Go.MapOrder where
  range := id
  perm := perm_declared

def transcodeOf (crf : Int) : PipelineDefinition where
  nodes := [
    ⟨"clip", "source", ⟨"Clip", Dict.empty.set "asset_id" (.str "asset"), none⟩⟩,
    ⟨"encode", "transcode", ⟨"Encode", Dict.empty.set "crf" (.int crf), none⟩⟩]
  edges := [⟨"edge", "clip", "encode", "output", "input"⟩]

/-- The rate factor 99 is beyond the bound 51. -/
theorem transcode_beyond_bound : Go.classifyGoEligibility (transcodeOf 99) = none ∧
  (Go.validate builtinRegistry declaredOrder (transcodeOf 99)).valid = true ∧
  ¬ Python.Accepts asciiInterpreter builtinRegistry (transcodeOf 99) := by
  rw [accepts_iff_valid]
  decide +kernel

theorem transcode_within_bound : Sanctioned asciiInterpreter builtinRegistry (transcodeOf 20) :=
  (accepts_iff_sanctioned asciiInterpreter builtinRegistry declaredOrder
    (transcodeOf 20) (by decide +kernel) (by decide +kernel)).1
      (accepts_iff_valid.2 (by decide +kernel))

end VideoProcess.Validation
