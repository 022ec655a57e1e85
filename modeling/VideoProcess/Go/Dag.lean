import VideoProcess.Dependencies
import VideoProcess.Data.Kahn

namespace VideoProcess.Go

open Data List

/-! `internal/orchestrator/dag.go`. -/

def leafNodeIDs (definition : PipelineDefinition) : List String :=
  definition.nodeIDs.filter fun id =>
    definition.edges.all fun edge => edge.source ≠ id

def dependencyMap (definition : PipelineDefinition) : Dict String (List String) :=
  definition.edges.foldl (fun deps edge => deps.modify edge.target [] (· ++ [edge.source]))
    (definition.nodes.foldl (fun deps node => deps.set node.id []) .empty)

namespace TopologicalOrder

variable (definition : PipelineDefinition)

def edges : List (String × String) :=
  (definition.edges.filter fun edge =>
    edge.source ∈ definition.nodeIDs ∧ edge.target ∈ definition.nodeIDs).map
    fun edge => (edge.source, edge.target)

def inDegree : Dict String Int :=
  (edges definition).foldl (fun degree edge => degree.modify edge.2 0 (· + 1))
    (definition.nodes.foldl (fun degree node => degree.set node.id 0) .empty)

def queue : List String :=
  definition.nodeIDs.filter fun id => (inDegree definition).getD id 0 = 0

/-- What the queue loop emits. A node is queued at the start or when an edge
brings its in-degree to zero, which bounds the number of rounds. -/
def order : List String :=
  Kahn.loop (edges definition) (definition.nodes.length + definition.edges.length + 1)
    (inDegree definition) (queue definition) []

end TopologicalOrder

def topologicalOrder (definition : PipelineDefinition) : List String :=
  let order := TopologicalOrder.order definition
  if order.length = definition.nodes.length then order
  else order ++ definition.nodeIDs.filter fun id => id ∉ order

private theorem getD_initial (nodes : List PipelineNode) (start : Dict String ν)
  (value : ν) (id : String) (initial : start.getD id value = value) :
  (nodes.foldl (fun map node => map.set node.id value) start).getD id value = value := by
  induction nodes generalizing start with
  | nil => exact initial
  | cons _ _ ih =>
    refine ih _ ?_
    rw [Dict.getD_set]
    split
    · rfl
    · exact initial

theorem getD_dependencyMap (definition : PipelineDefinition) (id : String) :
  (dependencyMap definition).getD id [] =
    (definition.edges.filter fun edge => edge.target = id).map PipelineEdge.source := by
  have collect : ∀ (edges : List PipelineEdge) (start : Dict String (List String)),
    (edges.foldl (fun deps edge =>
      deps.modify edge.target [] (· ++ [edge.source])) start).getD id [] =
      start.getD id [] ++ (edges.filter fun edge => edge.target = id).map
        PipelineEdge.source := by
    intro edges
    induction edges with
    | nil => simp
    | cons edge _ ih =>
      intro start
      rw [foldl_cons, ih, Dict.getD_modify]
      by_cases target : edge.target = id <;> simp [target]
  rw [dependencyMap, collect, getD_initial _ _ _ _ rfl, nil_append]

variable {id : String}

theorem mem_dependencyMap : dependency ∈ (dependencyMap definition).getD id [] ↔
  definition.Edge dependency id := by
  rw [getD_dependencyMap]
  simp only [mem_map, mem_filter, decide_eq_true_eq, PipelineDefinition.Edge]
  exact exists_congr fun edge => by tauto

theorem mem_downstreamNodeIDs : id ∈ downstreamNodeIDs failed (dependencyMap definition) ↔
  Relation.TransGen definition.Edge failed id := by
  have same : (fun source target =>
    source ∈ (dependencyMap definition).getD target []) =
    definition.Edge := by
    funext source target
    rw [mem_dependencyMap]
  rw [mem_downstreamNodeIDs_iff, same]

namespace TopologicalOrder

private theorem getD_inDegree (definition : PipelineDefinition) (id : String) :
  (inDegree definition).getD id 0 = Kahn.waiting (edges definition) [] id := by
  have count : ∀ (edges : List (String × String)) (start : Dict String Int),
    (edges.foldl (fun degree edge => degree.modify edge.2 0 (· + 1)) start).getD id 0 =
      start.getD id 0 + Kahn.waiting edges [] id := by
    intro edges
    induction edges with
    | nil => simp [Kahn.waiting]
    | cons edge _ ih =>
      intro start
      rw [foldl_cons, ih, Dict.getD_modify]
      by_cases target : edge.2 = id
      · simp [Kahn.waiting, target]
        omega
      · simp [Kahn.waiting, target]
  rw [inDegree, count, getD_initial _ _ _ _ rfl, zero_add]

private theorem initial_progress (unique : definition.nodeIDs.Nodup) :
  Kahn.Progress (edges definition) definition.nodeIDs (inDegree definition)
    (queue definition) [] [] := by
  refine ⟨?_, ?_, ?_, ?_⟩
  · exact unique.filter _
  · exact fun id member => (mem_filter.1 member).1
  · intro id
    rw [getD_inDegree]
    simp
  · intro id member
    simpa using (mem_filter.1 member).2

theorem order_spec (unique : definition.nodeIDs.Nodup) : (order definition).Nodup ∧
  ∀ id ∈ order definition, id ∈ definition.nodeIDs := by
  refine Kahn.loop_progress ?_ (initial_progress unique)
  intro edge member
  simp only [edges, mem_map, mem_filter, decide_eq_true_eq] at member
  obtain ⟨source, ⟨-, -, target⟩, rfl⟩ := member
  exact target

end TopologicalOrder

theorem mem_topologicalOrder (unique : definition.nodeIDs.Nodup)
  (member : id ∈ definition.nodeIDs) :
  id ∈ topologicalOrder definition := by
  obtain ⟨nodup, inside⟩ := TopologicalOrder.order_spec unique
  unfold topologicalOrder
  by_cases full : (TopologicalOrder.order definition).length = definition.nodes.length
  · -- A duplicate-free list of known nodes that is as long as the definition.
    rw [if_pos full]
    have permutation := nodup.subperm inside |>.perm_of_length_le
      (by simp [PipelineDefinition.nodeIDs, full])
    exact permutation.mem_iff.2 member
  · rw [if_neg full]
    by_cases emitted : id ∈ TopologicalOrder.order definition
    · exact mem_append_left _ emitted
    · exact mem_append_right _ (mem_filter.2 ⟨member, by simpa using emitted⟩)

end VideoProcess.Go
