import VideoProcess.Go.Dag
import VideoProcess.Validation.Refinement

namespace VideoProcess

open Data Program Validation Validation.Python List

/-! The topological orders of a definition, and when a cycle is reported. -/

variable {φ : Type} {interpreter : Interpreter φ} {registry : Registry φ}
  {definition : PipelineDefinition}

section

variable (formed : definition.WellFormed)

include formed

theorem edge_eq : (fun source target =>
  (source, target) ∈ Python.graphEdges definition) =
  definition.Edge := by
  funext source target
  simp only [Python.graphEdges, mem_map, mem_filter,
    decide_eq_true_eq, Prod.mk.injEq, eq_iff_iff, PipelineDefinition.Edge]
  refine exists_congr fun edge => ⟨?_, ?_⟩
  · rintro ⟨⟨held, -⟩, joins⟩
    exact ⟨held, joins⟩
  · rintro ⟨held, joins⟩
    exact ⟨⟨held, formed.sources edge held, formed.targets edge held⟩, joins⟩

theorem mem_topologicalSort_iff {id : String} : id ∈ Python.topologicalSort definition ↔
  id ∈ definition.nodeIDs ∧ ∀ cycle, Relation.TransGen definition.Edge cycle cycle →
    ¬ Relation.ReflTransGen definition.Edge cycle id := by
  have known : ∀ source target, definition.Edge source target → source ∈ definition.nodeIDs := by
    rintro _ _ ⟨edge, held, rfl, -⟩
    exact formed.sources edge held
  rw [← Graph.acc_iff_unreached known, ← edge_eq formed]
  exact (sortFrom_spec (.refl _)).2.1 id

theorem acyclic_iff_sorted : Graph.Acyclic definition.Edge ↔
  definition.nodeIDs ⊆ Python.topologicalSort definition := by
  constructor
  · intro acyclic id member
    exact (mem_topologicalSort_iff formed).2
      ⟨member, fun cycle closed => absurd closed (acyclic cycle)⟩
  · intro sorted id closed
    obtain ⟨_, ⟨edge, held, rfl, -⟩, -⟩ := Relation.TransGen.head'_iff.1 closed
    have emitted := sorted (formed.sources edge held)
    exact ((mem_topologicalSort_iff formed).1 emitted).2 _ closed .refl

theorem acyclic_iff_length : Graph.Acyclic definition.Edge ↔
  (Python.topologicalSort definition).length = definition.nodes.length := by
  have distinct : (Python.topologicalSort definition).Nodup := (sortFrom_spec (.refl _)).1
  have inside : Python.topologicalSort definition ⊆ definition.nodeIDs := fun id member =>
    ((mem_topologicalSort_iff formed).1 member).1
  have size : definition.nodeIDs.length = definition.nodes.length := length_map _
  rw [acyclic_iff_sorted formed, ← size]
  constructor
  · intro sorted
    exact ((perm_ext_iff_of_nodup distinct formed.unique).2 fun id =>
      ⟨@inside id, @sorted id⟩).length_eq
  · intro full
    exact ((distinct.subperm inside).perm_of_length_le full.ge).symm.subset

theorem cycleErrors_eq_nil_iff : cycleErrors definition = [] ↔ Graph.Acyclic definition.Edge := by
  have inside : Python.topologicalSort definition ⊆ definition.nodeIDs := fun id member =>
    ((mem_topologicalSort_iff formed).1 member).1
  have distinct : (Python.topologicalSort definition).Nodup := (sortFrom_spec (.refl _)).1
  have bounded := (distinct.subperm inside).length_le
  have keys : (nodesByID definition).keys.length = definition.nodes.length := by
    have perm : (nodesByID definition).keys.Perm definition.nodeIDs := by
      refine (perm_ext_iff_of_nodup (nodesByID definition).nodup formed.unique).2 fun id => ?_
      rw [← get?_nodesByID_isSome_iff, Option.isSome_iff_ne_none, ne_eq,
        Dict.get?_eq_none_iff, not_not]
      rfl
    rw [perm.length_eq, PipelineDefinition.nodeIDs, length_map]
  rw [PipelineDefinition.nodeIDs, length_map] at bounded
  rw [acyclic_iff_length formed, cycleErrors, keys]
  split <;> simp <;> omega

omit formed in
theorem get?_nodesByID_of_mem (unique : definition.nodeIDs.Nodup)
  (member : node ∈ definition.nodes) :
  (nodesByID definition).get? node.id = some node := by
  obtain ⟨other, found⟩ := Option.isSome_iff_exists.1
    (get?_nodesByID_isSome_iff.2 (mem_map_of_mem member))
  obtain ⟨present, named⟩ := mem_of_get?_nodesByID found
  rw [found, inj_on_of_nodup_map unique present member named]

end

section

variable {node : PipelineNode}

variable {rows : List ρ}

end

/-- The two orders are right, and a report that is returned names a cycle where
there is one. -/
structure Ordered (interpreter : Interpreter φ) (registry : Registry φ)
  (definition : PipelineDefinition) : Prop where
  distinct : (Python.topologicalSort definition).Nodup
  members : ∀ id, id ∈ Python.topologicalSort definition ↔ id ∈ definition.nodeIDs ∧
    ∀ cycle, Relation.TransGen definition.Edge cycle cycle →
      ¬ Relation.ReflTransGen definition.Edge cycle id
  before : ∀ source target, definition.Edge source target →
    target ∈ Python.topologicalSort definition →
    [source, target].Sublist (Python.topologicalSort definition)
  reports : ∀ result, validatePipeline interpreter registry definition = .ok result →
    ((∃ error ∈ result.errors, error.type = .cycleDetected) ↔ ¬ Graph.Acyclic definition.Edge)
  permutes : (Go.topologicalOrder definition).Perm definition.nodeIDs
  agrees : Graph.Acyclic definition.Edge →
    Go.topologicalOrder definition = Python.topologicalSort definition

end VideoProcess
