import VideoProcess.Python.Engine

namespace VideoProcess.Python

open Data

/-! When a job is finalized, and with which status. -/

section

variable (job : Job)

def NodeIn (holds : NodeStatus → Bool) (nodeID : String) : Prop :=
  ∃ node, job.node? nodeID = some node ∧ holds node.status = true

abbrev FailedNode (nodeID : String) : Prop := NodeIn job NodeStatus.isFailed nodeID

abbrev ActiveNode (nodeID : String) : Prop := NodeIn job NodeStatus.isActive nodeID

abbrev SucceededNode (nodeID : String) : Prop :=
  NodeIn job (fun status => status = .succeeded) nodeID

structure Fails : Prop where
  inactive : ∀ nodeID, ¬ ActiveNode job nodeID
  failed : ∃ nodeID, FailedNode job nodeID
  leaves : (∃ nodeID ∈ leafNodeIDs job.pipelineSnapshot, FailedNode job nodeID) ∨
    ∀ nodeID ∈ leafNodeIDs job.pipelineSnapshot, ¬ SucceededNode job nodeID

end

section

variable {job : Job}

theorem any_entries_iff : job.nodes.entries.any holds = true ↔
  ∃ nodeID node, job.node? nodeID = some node ∧ holds (nodeID, node) = true := by
  simp [Job.node?, Dict.get?_eq_some_iff]

theorem any_status_iff : (job.nodes.entries.any fun entry => holds entry.2.status) = true ↔
  ∃ nodeID, NodeIn job holds nodeID := any_entries_iff

theorem any_leaf_iff : (job.nodes.entries.any fun entry =>
  decide (entry.1 ∈ leafNodeIDs job.pipelineSnapshot ∧ holds entry.2.status = true)) = true ↔
  ∃ nodeID ∈ leafNodeIDs job.pipelineSnapshot, NodeIn job holds nodeID := by
  rw [any_entries_iff]
  refine exists_congr fun nodeID => ?_
  simp only [decide_eq_true_eq, NodeIn]
  constructor
  · rintro ⟨node, found, leaf, status⟩
    exact ⟨leaf, node, found, status⟩
  · rintro ⟨leaf, node, found, status⟩
    exact ⟨node, found, leaf, status⟩

theorem failedStatus_eq_failed_iff : failedStatus job = .failed ↔
  (∃ nodeID ∈ leafNodeIDs job.pipelineSnapshot, FailedNode job nodeID) ∨
    ∀ nodeID ∈ leafNodeIDs job.pipelineSnapshot, ¬ SucceededNode job nodeID := by
  have failed : job.nodes.entries.any (isFailedLeaf job.pipelineSnapshot) =
    true ↔ ∃ nodeID ∈ leafNodeIDs job.pipelineSnapshot, FailedNode job nodeID :=
    any_leaf_iff
  have successful : job.nodes.entries.any (isSuccessfulLeaf job.pipelineSnapshot) = true ↔
    ∃ nodeID ∈ leafNodeIDs job.pipelineSnapshot, SucceededNode job nodeID := by
    rw [← any_leaf_iff]
    simp only [decide_eq_true_eq]
    rfl
  have chosen : failedStatus job = .failed ↔
    job.nodes.entries.any (isFailedLeaf job.pipelineSnapshot) = true ∨
      ¬ job.nodes.entries.any (isSuccessfulLeaf job.pipelineSnapshot) = true := by
    unfold failedStatus
    dsimp only
    split
    · exact iff_of_true rfl ‹_›
    · exact iff_of_false (by decide) ‹_›
  rw [chosen, failed, successful]
  simp

theorem failed_of_inactive (inactive : ∀ nodeID, ¬ ActiveNode job nodeID)
  (unfinished : (job.nodes.entries.all fun entry =>
    entry.2.status = .succeeded) = false) :
  ∃ nodeID, FailedNode job nodeID := by
  rw [List.all_eq_false] at unfinished
  obtain ⟨⟨nodeID, node⟩, member, _⟩ := unfinished
  have found : job.node? nodeID = some node := Dict.get?_eq_some_iff.2 member
  refine ⟨nodeID, node, found, ?_⟩
  have rest : node.status.isActive = false := by
    rw [Bool.eq_false_iff]
    exact fun active => inactive nodeID ⟨node, found, active⟩
  cases status : node.status <;> simp_all [NodeStatus.isActive, NodeStatus.isFailed]

inductive Finalized (job : Job) : Option Job → Prop
  | active (nodeID : String) (active : ActiveNode job nodeID) :
    Finalized job none
  | succeeded (inactive : ∀ nodeID, ¬ ActiveNode job nodeID)
    (succeeded : ∀ nodeID, ¬ FailedNode job nodeID) :
    Finalized job (some { job with status := .succeeded })
  | failed (inactive : ∀ nodeID, ¬ ActiveNode job nodeID)
    (failed : ∃ nodeID, FailedNode job nodeID) :
    Finalized job (some { job with
      status := failedStatus job
      errorMessage := failedMessage job })

theorem finalized_applyJobFinalization (job : Job) : Finalized job (applyJobFinalization job) := by
  unfold applyJobFinalization
  dsimp only
  split
  next active =>
    obtain ⟨nodeID, active⟩ := any_status_iff.1 active
    exact .active nodeID active
  next idle =>
    have inactive : ∀ nodeID, ¬ ActiveNode job nodeID :=
      fun nodeID active => idle (any_status_iff.2 ⟨nodeID, active⟩)
    split
    next all =>
      refine .succeeded inactive ?_
      rintro nodeID ⟨node, found, failed⟩
      have succeeded := List.all_eq_true.1 all (nodeID, node) (Dict.get?_eq_some_iff.1 found)
      rw [of_decide_eq_true succeeded] at failed
      cases failed
    next unfinished =>
      have failed := failed_of_inactive inactive (Bool.eq_false_iff.2 unfinished)
      rw [if_pos (any_status_iff.2 failed)]
      exact .failed inactive failed

structure Final (before after : Job) : Prop where
  terminal : after.status.isTerminal = true
  nodes : after.nodes = before.nodes
  pipelineSnapshot : after.pipelineSnapshot = before.pipelineSnapshot
  executionPlan : after.executionPlan = before.executionPlan

theorem isTerminal_failedStatus (job : Job) : (failedStatus job).isTerminal = true := by
  unfold failedStatus
  dsimp only
  split <;> rfl

theorem final_of_applyJobFinalization
  (finalized : applyJobFinalization job = some final) : Final job final := by
  have outcome := finalized ▸ finalized_applyJobFinalization job
  cases outcome with
  | succeeded => exact ⟨rfl, rfl, rfl, rfl⟩
  | failed => exact ⟨isTerminal_failedStatus job, rfl, rfl, rfl⟩

end

theorem maybeFinalizeJob_cases (tables : Tables) : (∃ nodeID, ActiveNode tables.job nodeID) ∧
  maybeFinalizeJob tables = tables ∨
  ∃ final, Final tables.job final ∧ maybeFinalizeJob tables = tables.setJob final := by
  have finalized := finalized_applyJobFinalization tables.job
  unfold maybeFinalizeJob
  cases outcome : applyJobFinalization tables.job with
  | none =>
    rw [outcome] at finalized
    cases finalized with
    | active nodeID active => exact .inl ⟨⟨nodeID, active⟩, rfl⟩
  | some final => exact .inr ⟨final, final_of_applyJobFinalization outcome, rfl⟩

theorem maybeFinalizeJob_nodes (tables : Tables) :
  (maybeFinalizeJob tables).job.nodes = tables.job.nodes ∧
    (maybeFinalizeJob tables).job.pipelineSnapshot = tables.job.pipelineSnapshot := by
  obtain ⟨-, same⟩ | ⟨_, kept, same⟩ := maybeFinalizeJob_cases tables
  · rw [same]
    exact ⟨rfl, rfl⟩
  · rw [same]
    exact ⟨kept.nodes, kept.pipelineSnapshot⟩

theorem maybeFinalizeJob_failed_iff (unfailed : tables.job.status ≠ .failed) :
  (maybeFinalizeJob tables).job.status = .failed ↔ Fails tables.job := by
  have finalized := finalized_applyJobFinalization tables.job
  unfold maybeFinalizeJob
  revert finalized
  cases applyJobFinalization tables.job with
  | none =>
    intro finalized
    cases finalized with
    | active nodeID active => exact iff_of_false unfailed fun fails => fails.inactive nodeID active
  | some =>
    intro finalized
    cases finalized with
    | succeeded _ succeeded =>
      refine iff_of_false (show ¬ JobStatus.succeeded = .failed by decide) fun fails => ?_
      obtain ⟨nodeID, failed⟩ := fails.failed
      exact succeeded nodeID failed
    | failed inactive failed =>
      refine failedStatus_eq_failed_iff.trans ?_
      exact ⟨fun leaves => ⟨inactive, failed, leaves⟩, fun fails => fails.leaves⟩

end VideoProcess.Python
