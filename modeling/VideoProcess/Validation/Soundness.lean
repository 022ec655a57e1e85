import VideoProcess.Validation.DynamicInputs
import VideoProcess.Validation.Ordering

namespace VideoProcess

open Data Program Validation Validation.Python List

/-! What `validate_pipeline` has made sure of when it accepts a definition. -/

section

variable {φ : Type}

section

variable (interpreter : Interpreter φ)

def Feeds (edge : PipelineEdge) (node : PipelineNode) (index : Nat) : Prop :=
  edge.target = node.id ∧ dynamicVideoInputIndex interpreter node.type edge.targetHandle =
    .ok (some index)

/-- The edge joins declared ports of compatible types, or a port that may yield
a video to one of the first 64 dynamic video inputs. -/
def Fits (registry : Registry φ) (edge : PipelineEdge) (source target : PipelineNode) : Prop :=
  ∃ sourceType output, registry.getType source.type = some sourceType ∧
    findPort sourceType.outputs edge.sourceHandle = some output ∧
    ((∃ targetType input, registry.getType target.type = some targetType ∧
      findPort targetType.inputs edge.targetHandle = some input ∧
      (input.portType = .anyMedia ∨ output.portType = .anyMedia ∨
        output.portType = input.portType)) ∨
    (output.portType = .video ∨ output.portType = .anyMedia) ∧
      ∃ index, Feeds interpreter edge target index ∧ 1 ≤ index ∧ index ≤ 64)

structure Sound (registry : Registry φ) (definition : PipelineDefinition) : Prop where
  formed : definition.WellFormed
  acyclic : Graph.Acyclic definition.Edge
  single : definition.edges.Pairwise fun first second =>
    first.target = second.target →
      canonicalInput definition first ≠ canonicalInput definition second
  required : ∀ node ∈ definition.nodes,
    node.type ∉ dynamicVideoInputNodeTypes → node.type ≠ "zip_records" →
    ∀ typeDefinition, registry.getType node.type = some typeDefinition →
    ∀ port ∈ typeDefinition.inputs, port.required = true →
      port.name ∈ connectedInputs definition definition.edges node.id
  channels : ∀ node ∈ definition.nodes, node.type = "zip_records" →
    ∃ count, zipChannelCount interpreter node.data.config = .ok count ∧
      ∀ handle ∈ zipHandles "input_" count,
        handle ∈ connectedInputs definition definition.edges node.id
  dynamic : ∀ node ∈ definition.nodes, node.type ∈ dynamicVideoInputNodeTypes →
    ∃ first ∈ definition.edges, ∃ second ∈ definition.edges,
      (∃ index, Feeds interpreter first node index) ∧
      (∃ index, Feeds interpreter second node index) ∧
      canonicalTargetHandle node.type first.targetHandle ≠
        canonicalTargetHandle node.type second.targetHandle
  ports : ∀ edge ∈ definition.edges, ∀ source ∈ definition.nodes,
    ∀ target ∈ definition.nodes, source.id = edge.source →
    target.id = edge.target → source.type ∉ plannerNodeTypes →
    target.type ∉ plannerNodeTypes → Fits interpreter registry edge source target

end

theorem wellFormed_of_graphErrors (unique : definition.nodeIDs.Nodup)
  (clean : graphErrors definition = []) : definition.WellFormed := by
  have each := flatMap_eq_nil_iff.1 clean
  refine ⟨unique, fun edge held => ?_, fun edge held => ?_⟩
  · have none := each edge held
    by_contra missing
    simp [missing] at none
  · have none := each edge held
    by_contra missing
    split at none <;> simp at none

theorem mem_connectedDynamicInputs
  (read : connectedDynamicInputs interpreter node edges = .ok inputs)
  (member : handle ∈ inputs) :
  ∃ edge ∈ edges, (∃ index, Feeds interpreter edge node index) ∧
    canonicalTargetHandle node.type edge.targetHandle = handle := by
  induction edges generalizing inputs with
  | nil =>
    cases read
    cases member
  | cons edge edges ih =>
    have later (inputs : List String)
      (read : connectedDynamicInputs interpreter node edges = .ok inputs)
      (member : handle ∈ inputs) :
      ∃ other ∈ edge :: edges, (∃ index, Feeds interpreter other node index) ∧
        canonicalTargetHandle node.type other.targetHandle = handle := by
      obtain ⟨other, held, rest⟩ := ih read member
      exact ⟨other, mem_cons_of_mem edge held, rest⟩
    rw [connectedDynamicInputs] at read
    split at read
    next own =>
      obtain ⟨index, indexed, read⟩ := bind_eq_ok read
      obtain ⟨rest, others, read⟩ := bind_eq_ok read
      cases read
      split at member
      next dynamic =>
        obtain ⟨number, rfl⟩ := Option.isSome_iff_exists.1 dynamic
        obtain rfl | member := mem_cons.1 member
        · exact ⟨edge, mem_cons_self, ⟨number, own, indexed⟩, rfl⟩
        · exact later rest others member
      · exact later rest others member
    · exact later inputs read member

theorem one_le_index (found : dynamicVideoInputIndex interpreter nodeType handle =
    .ok (some index)) : 1 ≤ index := by
  unfold dynamicVideoInputIndex at found
  split at found
  · cases found
  · cases matched : matchedIndex interpreter (canonicalTargetHandle nodeType handle) with
    | error =>
      rw [matched] at found
      cases found
    | ok =>
      rw [matched] at found
      simp only [Except.map, Except.ok.injEq, Option.filter_eq_some_iff] at found
      exact of_decide_eq_true found.2

theorem fits_of_connectedEdgeErrors {source target : PipelineNode} (named : edge.target = target.id)
  (plain : isPlannerEdge source target = false)
  (read : connectedEdgeErrors interpreter registry edge source target =
    .ok []) : Fits interpreter registry edge source target := by
  obtain ⟨limit, limited, read⟩ := bind_eq_ok read
  cases limit with
  | some => cases read
  | none =>
    obtain ⟨index, indexed, read⟩ := bind_eq_ok read
    cases index with
    | some index =>
      have valid : validateDynamicVideoInputEdge interpreter registry
        source.type edge.sourceHandle source = true := by
        by_contra invalid
        simp only [invalid] at read
        cases read
      unfold validateDynamicVideoInputEdge at valid
      split at valid
      · cases valid
      next sourceType typed =>
        split at valid
        · cases valid
        next output found =>
          have video := (of_decide_eq_true valid).1
          exact ⟨sourceType, output, typed, found, .inr ⟨video, index,
            ⟨named, indexed⟩, one_le_index indexed,
            index_le_of_limitError limited indexed⟩⟩
    | none =>
      simp only [plain] at read
      have valid : registry.validateEdge source.type edge.sourceHandle
        target.type edge.targetHandle = true := by
        by_contra invalid
        rw [Bool.not_eq_true] at invalid
        simp only [declaredEdgeErrors, invalid] at read
        cases read
      obtain ⟨sourceType, output, targetType, input, typed, found, rest⟩ :=
        validateEdge_eq_true valid
      exact ⟨sourceType, output, typed, found, .inl ⟨targetType, input, rest⟩⟩

theorem two_inputs_of_clean (known : registry.getType node.type = some typed)
  (dynamic : node.type ∈ dynamicVideoInputNodeTypes)
  (read : requiredInputErrors interpreter registry definition node = .ok []) :
  ∃ first ∈ definition.edges, ∃ second ∈ definition.edges,
    (∃ index, Feeds interpreter first node index) ∧
    (∃ index, Feeds interpreter second node index) ∧
    canonicalTargetHandle node.type first.targetHandle ≠
      canonicalTargetHandle node.type second.targetHandle := by
  unfold requiredInputErrors at read
  rw [known] at read
  dsimp only at read
  rw [if_pos dynamic] at read
  cases connected : connectedDynamicInputs interpreter node definition.edges with
  | error =>
    rw [connected] at read
    cases read
  | ok inputs =>
    rw [connected] at read
    have several : ¬ inputs.dedup.length < 2 := by
      intro few
      simp [Except.map, few] at read
    obtain ⟨one, two, rest, listed⟩ : ∃ one two rest, inputs.dedup = one :: two :: rest := by
      cases listed : inputs.dedup with
      | nil => simp [listed] at several
      | cons one rest =>
        cases rest with
        | nil => simp [listed] at several
        | cons two rest => exact ⟨one, two, rest, rfl⟩
    have distinct := inputs.nodup_dedup
    rw [listed] at distinct
    obtain ⟨first, held, feeds, rfl⟩ := mem_connectedDynamicInputs connected
      (mem_dedup.1 (listed ▸ mem_cons_self))
    obtain ⟨second, member, also, rfl⟩ := mem_connectedDynamicInputs connected (mem_dedup.1
      (listed ▸ mem_cons_of_mem _ mem_cons_self))
    refine ⟨first, held, second, member, feeds, also, fun same => ?_⟩
    simp [same] at distinct

end

/-- What a definition has that `validate_pipeline` accepts. -/
theorem sound_of_accepts (unique : definition.nodeIDs.Nodup)
  (accepted : Accepts interpreter registry definition) :
  Sound interpreter registry definition := by
  have clean := accepts_iff_clean.1 accepted
  have formed := wellFormed_of_graphErrors unique clean.graph
  have typed (node : PipelineNode) (held : node ∈ definition.nodes) :
    ∃ typeDefinition, registry.getType node.type = some typeDefinition := by
    by_contra unknown
    have types := map_eq_nil_iff.1 clean.types
    have absent := filter_eq_nil_iff.1 types node held
    rw [← Option.isSome_iff_exists] at unknown
    exact absent (by simpa using unknown)
  refine ⟨formed, (cycleErrors_eq_nil_iff formed).1 clean.cycles,
    (duplicateInputErrorsFrom_once clean.duplicates).1, ?_, ?_, ?_, ?_⟩
  · intro node held plain other typeDefinition known port member needed
    have inputs := clean.inputs node held
    unfold requiredInputErrors at inputs
    rw [known] at inputs
    dsimp only at inputs
    rw [if_neg plain, if_neg other] at inputs
    have none := map_eq_nil_iff.1 (Except.ok.inj inputs)
    simpa [needed] using filter_eq_nil_iff.1 none port member
  · intro node held zip
    have inputs := clean.inputs node held
    obtain ⟨typeDefinition, known⟩ := typed node held
    have plain : node.type ∉ dynamicVideoInputNodeTypes := by
      rw [zip]
      decide
    unfold requiredInputErrors at inputs
    rw [known] at inputs
    dsimp only at inputs
    rw [if_neg plain, if_pos zip] at inputs
    cases counted : zipChannelCount interpreter node.data.config with
    | error =>
      rw [counted] at inputs
      cases inputs
    | ok count =>
      rw [counted] at inputs
      have none := map_eq_nil_iff.1 (Except.ok.inj inputs)
      refine ⟨count, rfl, fun handle member => ?_⟩
      simpa using filter_eq_nil_iff.1 none handle member
  · intro node held dynamic
    obtain ⟨typeDefinition, known⟩ := typed node held
    exact two_inputs_of_clean known dynamic (clean.inputs node held)
  · intro edge held source sourceHeld target targetHeld leaves enters sourcePlain targetPlain
    have ports := clean.ports edge held
    rw [edgeErrors, ← leaves, ← enters, get?_nodesByID_of_mem unique sourceHeld,
      get?_nodesByID_of_mem unique targetHeld] at ports
    refine fits_of_connectedEdgeErrors enters.symm ?_ ports
    simp only [plannerNodeTypes, mem_append, mem_singleton, not_or]
      at sourcePlain targetPlain
    simp [isPlannerEdge, sourcePlain, targetPlain]

theorem concat_sound : Sound asciiInterpreter builtinRegistry (concatOf "video_1" "video_2") :=
  sound_of_accepts (by decide) (accepts_iff_valid.2 (by decide +kernel))

/-- The two inputs that a node declares and requires stay unconnected. -/
theorem undeclared_inputs_accepted : (concatOf "video_3" "video_4").nodeIDs.Nodup ∧
  Accepts asciiInterpreter builtinRegistry (concatOf "video_3" "video_4") ∧
  (builtinRegistry.getType "concat_many").map
    (fun typeDefinition => typeDefinition.inputs.map fun port =>
      (port.name, port.required)) =
    some [("video_1", true), ("video_2", true)] ∧
  (concatOf "video_3" "video_4").edges.map (·.targetHandle) = ["video_3", "video_4"] :=
  ⟨by decide, accepts_iff_valid.2 (by decide +kernel), by decide +kernel, rfl⟩

end VideoProcess
