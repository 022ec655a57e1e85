import VideoProcess.Go.Effect
import VideoProcess.Python.Tables
import VideoProcess.Validation.Refinement

namespace VideoProcess

open Data Program Validation Validation.Python List

/-! The node executions of a job that is created from an accepted definition. -/

variable {ρ φ : Type}

/-- Each node id has one execution, and the maps of the engines, which keep the
last one of an id, hold them all. -/
structure Identified (definition : PipelineDefinition) (nodeID : ρ → String)
  (executions : List ρ) : Prop where
  once : ∀ id ∈ definition.nodeIDs, executions.countP (fun execution => nodeID execution = id) = 1
  covered : ∀ execution ∈ executions,
    executions.reverse.find? (fun other => nodeID other = nodeID execution) = some execution

theorem identified_iff {nodeID : ρ → String}
  (listed : (executions.map nodeID).Perm definition.nodeIDs) :
  Identified definition nodeID executions ↔ definition.nodeIDs.Nodup := by
  have counted (id : String) : definition.nodeIDs.count id =
    executions.countP (fun execution => nodeID execution = id) := by
    rw [← listed.count_eq, count, countP_map]
    refine countP_congr fun execution _ => ?_
    simp
  rw [nodup_iff_count_eq_one]
  constructor
  · intro identified id member
    rw [counted, identified.once id member]
  · intro unique
    refine ⟨fun id member => counted id ▸ unique id member, ?_⟩
    intro execution member
    have distinct := listed.nodup_iff.2 (nodup_iff_count_eq_one.2 unique)
    cases located : executions.reverse.find? fun other =>
      nodeID other = nodeID execution with
    | none =>
      have missed := find?_eq_none.1 located execution (mem_reverse.2 member)
      simp at missed
    | some found =>
      exact congrArg some (inj_on_of_nodup_map distinct
        (mem_reverse.1 (mem_of_find?_eq_some located)) member
        (by simpa using find?_some located))

def nodeConfig (node : PipelineNode) : Dict String ConfigValue :=
  let config := node.data.config
  let configured := config.getD "asset_id" .null
  if node.type ≠ "source" then config
  else if Python.truthy configured then config.set "asset_id" configured
  else if node.data.assetID.getD "" ≠ "" then
    config.set "asset_id" (.str (node.data.assetID.getD ""))
  else config

/-- The rows that `_create_job_from_definition` adds, by node id. The keys are
drawn by the database. -/
def createJobFromDefinition (interpreter : Interpreter φ)
  (registry : Registry φ) (keys : Nat → Uuid)
  (definition : PipelineDefinition) :
  Except String (List (String × Python.NodeExecution)) := do
  let validation ← validatePipeline interpreter registry definition
  if validation.valid then
    return definition.nodes.zipIdx.map fun entry => (entry.1.id, {
      id := keys entry.2
      nodeType := entry.1.type
      nodeLabel := labelOr entry.1 entry.1.type
      nodeConfig := nodeConfig entry.1
      status := .pending
      workerID := none
      workerRegistrationID := none
      workerLeaseEpoch := none
      startedAt := none
      errorMessage := none
      retryCount := 0
      inputArtifactIDs := []
      outputArtifactID := none })
  else throw ("Pipeline validation failed: " ++
    "; ".intercalate (validation.errors.map ValidationError.message))

/-- Whatever the validators accept, the executions are told apart by their node
ids exactly if the definition's nodes are. -/
theorem identified_created_iff (interpreter : Interpreter φ)
  (registry : Registry φ) (order : Validation.Go.MapOrder)
  (definition : PipelineDefinition) :
  (∀ keys created executions, createJobFromDefinition interpreter registry keys definition =
    .ok created → executions.Perm created →
    (Identified definition Prod.fst executions ↔ definition.nodeIDs.Nodup)) ∧
  ∀ env world jobID after job, (Validation.Go.validate registry order definition).valid = true →
    Go.Linked world.database →
    Go.exec env (.createGoJob definition) world = (.ok jobID, after) →
    Go.jobDetail after.database jobID = some job →
    (Identified definition Go.NodeExecutionView.nodeID job.nodes ↔ definition.nodeIDs.Nodup) := by
  constructor
  · intro keys created executions succeeded listed
    refine identified_iff ((listed.map Prod.fst).trans (.of_eq ?_))
    obtain ⟨validation, -, succeeded⟩ := bind_eq_ok succeeded
    split at succeeded
    · cases succeeded
      rw [PipelineDefinition.nodeIDs, ← zipIdx_map_fst 0 definition.nodes,
        map_map, map_map, zipIdx_map_fst]
      rfl
    · cases succeeded
  · intro env world jobID after job _ linked created shown
    obtain ⟨fresh, found, record⟩ := Go.createGoJob_created linked created
    obtain rfl : fresh = job := Option.some.inj (found.symm.trans shown)
    exact identified_iff record.nodeIDs

theorem transcode_identified :
  ∃ created, createJobFromDefinition asciiInterpreter builtinRegistry id
    (transcodeOf 23) = .ok created ∧
    Identified (transcodeOf 23) Prod.fst created :=
  ⟨_, rfl, ((identified_created_iff asciiInterpreter builtinRegistry
    declaredOrder _).1 _ _ _ rfl (.refl _)).2 (by decide)⟩

def doubled : PipelineDefinition where
  nodes := replicate 2 ⟨"clip", "source",
    ⟨"Clip", Dict.empty.set "asset_id" (.str "asset"), none⟩⟩
  edges := []

theorem doubled_unidentified :
  (∃ created, createJobFromDefinition asciiInterpreter builtinRegistry id
    doubled = .ok created ∧ ¬ Identified doubled Prod.fst created) ∧
    (Validation.Go.validate builtinRegistry declaredOrder doubled).valid = true ∧
    ∃ after job, Go.exec Go.calm (.createGoJob doubled) Go.World.initial = (.ok 1, after) ∧
      Go.jobDetail after.database 1 = some job ∧
      ¬ Identified doubled Go.NodeExecutionView.nodeID job.nodes := by
  refine ⟨⟨_, rfl, fun identified => ?_⟩, by decide +kernel, _, _, rfl, rfl, fun identified => ?_⟩
  · exact absurd (identified.once "clip" (by decide)) (by decide +kernel)
  · exact absurd (identified.once "clip" (by decide)) (by decide +kernel)

end VideoProcess
