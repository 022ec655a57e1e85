import VideoProcess.Contracts
import VideoProcess.Data.Graph

namespace VideoProcess

open Data

/-! The walk down a dependency map from a failed node. -/

def reverseEdges (dependencies : Dict String (List String)) : List (String × String) :=
  dependencies.entries.flatMap fun entry =>
    entry.2.map fun dependency => (dependency, entry.1)

def downstreamNodeIDs (nodeID : String) (dependencies : Dict String (List String)) : List String :=
  Graph.closure (reverseEdges dependencies) (Graph.successors (reverseEdges dependencies) nodeID)

theorem mem_reverseEdges : (source, target) ∈ reverseEdges dependencies ↔
  source ∈ dependencies.getD target [] := by
  have entry : source ∈ dependencies.getD target [] ↔
    ∃ sources, (target, sources) ∈ dependencies.entries ∧ source ∈ sources := by
    rw [Dict.getD]
    cases found : dependencies.get? target with
    | none =>
      refine ⟨fun member => absurd member (List.not_mem_nil), ?_⟩
      rintro ⟨sources, member, -⟩
      rw [Dict.get?_eq_some_iff.2 member] at found
      cases found
    | some sources =>
      constructor
      · exact fun member =>
          ⟨sources, Dict.get?_eq_some_iff.1 found, member⟩
      · rintro ⟨others, member, inside⟩
        rw [Dict.get?_eq_some_iff.2 member] at found
        cases found
        exact inside
  rw [entry]
  simp only [reverseEdges, List.mem_flatMap, List.mem_map, Prod.mk.injEq, Prod.exists]
  constructor
  · rintro ⟨_, sources, member, _, inside, rfl, rfl⟩
    exact ⟨sources, member, inside⟩
  · rintro ⟨sources, member, inside⟩
    exact ⟨target, sources, member, source, inside, rfl, rfl⟩

theorem mem_downstreamNodeIDs_iff {id : String} : id ∈ downstreamNodeIDs failed dependencies ↔
  Relation.TransGen (fun source target => source ∈ dependencies.getD target []) failed id := by
  have same : (fun source target =>
    (source, target) ∈ reverseEdges dependencies) =
    fun source target => source ∈ dependencies.getD target [] := by
    funext source target
    rw [mem_reverseEdges]
  rw [downstreamNodeIDs, Graph.mem_closure_iff, same, Relation.TransGen.head'_iff]
  refine exists_congr fun root => ?_
  rw [Graph.mem_successors, mem_reverseEdges]

end VideoProcess
