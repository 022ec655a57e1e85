import VideoProcess.Dependencies
import VideoProcess.Data.Kahn

namespace VideoProcess.Python

open Data

/-! `backend/app/orchestrator/dag.py`; `_leaf_node_ids` of the engine. -/

def leafNodeIDs (definition : PipelineDefinition) : List String :=
  definition.nodeIDs.filter fun id =>
    definition.edges.all fun edge => edge.source ≠ id

/-- `{n.id: value for n in definition.nodes}`. -/
def byNode {ν : Type} (definition : PipelineDefinition) (value : ν) : Dict String ν :=
  definition.nodes.foldl (fun map node => map.set node.id value) .empty

/-- An edge into a node the definition does not have is ignored. -/
def addDependency (deps : Dict String (List String)) (edge : PipelineEdge) :
  Dict String (List String) :=
  if edge.target ∈ deps.keys then
    deps.modify edge.target [] (· ++ [edge.source])
  else deps

section

variable (definition : PipelineDefinition)

def buildDependencyMap : Dict String (List String) :=
  definition.edges.foldl addDependency (byNode definition [])

/-- The edges `_build_graph` reports no error for. -/
def graphEdges : List (String × String) :=
  (definition.edges.filter fun edge =>
    edge.source ∈ definition.nodeIDs ∧ edge.target ∈ definition.nodeIDs).map
    fun edge => (edge.source, edge.target)

def inDegree : Dict String Int :=
  (graphEdges definition).foldl (fun degree edge => degree.modify edge.2 0 (· + 1))
    (byNode definition 0)

/-- A node enters the queue at the start or when an edge brings its in-degree
to zero, which bounds the rounds of the loop. -/
def topologicalSort : List String :=
  let degree := inDegree definition
  Kahn.loop (graphEdges definition) (definition.nodes.length + definition.edges.length + 1) degree
    (degree.keys.filter fun id => degree.getD id 0 = 0) []

end

private theorem foldl_set_keys (nodes : List PipelineNode) (value : ν) (start : Dict String ν)
  (unique : (start.keys ++ nodes.map PipelineNode.id).Nodup) :
  (nodes.foldl (fun map node => map.set node.id value) start).keys =
    start.keys ++ nodes.map PipelineNode.id := by
  induction nodes generalizing start with
  | nil => simp
  | cons node _ ih =>
    have new : node.id ∉ start.keys := by
      intro member
      exact (List.nodup_append.1 unique).2.2 _ member _ (by simp) rfl
    have extended : (start.set node.id value).keys = start.keys ++ [node.id] := by
      rw [Dict.keys_set, if_neg new]
    rw [List.foldl_cons, ih, extended]
    · simp
    · rw [extended]
      simpa using unique

theorem keys_byNode {definition : PipelineDefinition}
  (unique : definition.nodeIDs.Nodup) (value : ν) :
  (byNode definition value).keys = definition.nodeIDs := by
  unfold byNode
  rw [foldl_set_keys]
  · rfl
  · exact unique

private theorem getD_byNode (definition : PipelineDefinition) (id : String) :
  (byNode definition ([] : List String)).getD id [] = [] := by
  have kept : ∀ (nodes : List PipelineNode) (start : Dict String (List String)),
    start.getD id [] = [] →
    (nodes.foldl (fun map node => map.set node.id []) start).getD id [] = [] := by
    intro nodes
    induction nodes with
    | nil => exact fun start empty => empty
    | cons _ _ ih =>
      intro start empty
      apply ih
      rw [Dict.getD_set]
      split
      · rfl
      · exact empty
  exact kept definition.nodes .empty rfl

private theorem keys_addDependency (deps : Dict String (List String))
  (edge : PipelineEdge) : (addDependency deps edge).keys = deps.keys := by
  unfold addDependency
  split
  next known => rw [Dict.modify, Dict.keys_set, if_pos known]
  · rfl

private theorem getD_addDependency {deps : Dict String (List String)}
  (edge : PipelineEdge) {id : String} (member : id ∈ deps.keys) :
  (addDependency deps edge).getD id [] = if edge.target = id then deps.getD id [] ++ [edge.source]
    else deps.getD id [] := by
  unfold addDependency
  split
  · exact Dict.getD_modify ..
  next unknown =>
    have other : ¬ edge.target = id := by
      rintro rfl
      exact unknown member
    rw [if_neg other]

private theorem foldl_addDependency (edges : List PipelineEdge)
  (start : Dict String (List String)) :
  ((edges.foldl addDependency start).keys = start.keys) ∧ ∀ id ∈ start.keys,
    (edges.foldl addDependency start).getD id [] = start.getD id [] ++
      (edges.filter fun edge => edge.target = id).map PipelineEdge.source := by
  induction edges generalizing start with
  | nil => simp
  | cons edge _ ih =>
    obtain ⟨keys, lists⟩ := ih (addDependency start edge)
    rw [keys_addDependency] at keys lists
    refine ⟨keys, fun id member => ?_⟩
    rw [List.foldl_cons, lists id member, getD_addDependency edge member]
    by_cases target : edge.target = id <;> simp [target]

theorem keys_buildDependencyMap (unique : definition.nodeIDs.Nodup) :
  (buildDependencyMap definition).keys = definition.nodeIDs :=
  (foldl_addDependency _ _).1.trans (keys_byNode unique _)

theorem getD_buildDependencyMap (unique : definition.nodeIDs.Nodup)
  {id : String} (member : id ∈ definition.nodeIDs) :
  (buildDependencyMap definition).getD id [] =
    (definition.edges.filter fun edge => edge.target = id).map PipelineEdge.source := by
  have listed : id ∈ (byNode definition ([] : List String)).keys := by rwa [keys_byNode unique]
  rw [buildDependencyMap, (foldl_addDependency _ _).2 id listed, getD_byNode, List.nil_append]

end VideoProcess.Python
