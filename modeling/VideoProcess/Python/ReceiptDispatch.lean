import VideoProcess.Program.Basic
import VideoProcess.Python.Dispatch

namespace VideoProcess.Python

open Data Program

/-! The dispatches of a registered completion are staged in rounds, each a
sweep, until one takes nothing up. -/

theorem applyCachedArtifact_registered (applied : applyCachedArtifact services tables nodeID node
  (inputArtifactsByHandle services inputs) true = .ok reused) :
  reused = (reusable services true node inputs).join.map fun artifact =>
    tables.modifyNode nodeID (reuseArtifact services artifact
      (inputArtifactsByHandle services inputs) true) fun _ => rfl := by
  unfold applyCachedArtifact at applied
  split at applied
  · cases applied
  · obtain ⟨hit, found, rest⟩ := bind_eq_ok applied
    rw [reusable, found]
    cases hit <;> cases rest <;> rfl

theorem stageReceiptNode_idle (idle : ¬ Sweep.Ready (dispatchRules services true tables.job)
  (mark tables.job) nodeID) :
  stageReceiptNode services receipt (progressed, tables)
    (nodeID, (buildDependencyMap tables.job.pipelineSnapshot).getD nodeID [])
      = .ok (progressed, tables) := by
  unfold stageReceiptNode
  dsimp only
  split
  · rfl
  next node found =>
    have unready : isReady tables.job ((buildDependencyMap
      tables.job.pipelineSnapshot).getD nodeID []) nodeID = false := by
      rw [Bool.eq_false_iff]
      exact fun ready => idle (isReady_iff.1 ready)
    rw [unready]
    rfl

theorem stageReceiptNode_ready (ready : Sweep.Ready (dispatchRules services true tables.job)
  (mark tables.job) nodeID)
  (staged : stageReceiptNode services receipt (progressed, tables)
    (nodeID, (buildDependencyMap tables.job.pipelineSnapshot).getD nodeID [])
      = .ok (moved, after)) :
  moved = true ∧ tables.job.Advances after.job ∧
    mark after.job = Sweep.visit (dispatchRules services true tables.job)
      (mark tables.job) nodeID := by
  obtain ⟨node, found, pending⟩ := mark_eq_waiting_iff.1 ready.1
  have answer := answer_eq found ready
  unfold stageReceiptNode at staged
  simp only [found, isReady_iff.2 ready, Bool.not_true, Bool.false_eq_true, if_false] at staged
  obtain ⟨_, applied, rest⟩ := bind_eq_ok staged
  have outcome := applyCachedArtifact_registered applied
  rw [Sweep.visit_ready ready, Sweep.taken, answer]
  cases hit : reusable services true node (inputArtifacts
    tables.job.pipelineSnapshot (outputArtifact tables.job) nodeID) with
  | none =>
    rw [hit] at outcome
    cases outcome
    cases rest
    refine ⟨rfl, ?_, ?_⟩
    · exact .modifyNode found (queueNode _) (fun _ => rfl) ⟨rfl, .inr ⟨pending, .inr rfl⟩⟩
    · exact mark_modifyNode found (queueNode _) fun _ => rfl
  | some value =>
    cases value with
    | none => exact absurd hit reusable_ne_some_none
    | some artifact =>
      rw [hit] at outcome
      cases outcome
      cases rest
      refine ⟨rfl, ?_, ?_⟩
      · exact .modifyNode found (reuseArtifact services artifact _ true)
          (fun _ => rfl) ⟨rfl, .inr ⟨pending, .inl rfl⟩⟩
      · exact mark_modifyNode found (reuseArtifact services artifact _ true) fun _ => rfl

theorem stageReceiptNode_ok (staged : stageReceiptNode services receipt (progressed, tables)
  (nodeID, (buildDependencyMap tables.job.pipelineSnapshot).getD nodeID []) = .ok (moved, after)) :
  (moved = (progressed || decide (Sweep.Ready
    (dispatchRules services true tables.job) (mark tables.job) nodeID))) ∧
    tables.job.Advances after.job ∧
    mark after.job = Sweep.visit (dispatchRules services true tables.job)
      (mark tables.job) nodeID := by
  by_cases ready : Sweep.Ready (dispatchRules services true tables.job) (mark tables.job) nodeID
  · obtain ⟨moved, advances, marks⟩ := stageReceiptNode_ready ready staged
    exact ⟨by simp [moved, ready], advances, marks⟩
  · rw [stageReceiptNode_idle ready] at staged
    cases staged
    exact ⟨by simp [ready], .refl _, (Sweep.visit_idle ready).symm⟩

theorem foldlM_stageReceiptNode {entries : List (String × List String)}
  (listed : ∀ entry ∈ entries, entry.2 =
    (buildDependencyMap tables.job.pipelineSnapshot).getD entry.1 [])
  (staged : entries.foldlM (stageReceiptNode services receipt)
    (progressed, tables) = .ok (moved, after)) :
  (moved = (progressed || Sweep.progressed
    (dispatchRules services true tables.job) (entries.map Prod.fst)
    (mark tables.job))) ∧
    tables.job.Advances after.job ∧
    mark after.job = Sweep.sweep (dispatchRules services true tables.job)
      (entries.map Prod.fst) (mark tables.job) := by
  induction entries generalizing progressed tables with
  | nil =>
    cases staged
    exact ⟨(Bool.or_false _).symm, .refl _, rfl⟩
  | cons entry rest ih =>
    obtain ⟨_, _⟩ := entry
    have named := listed _ List.mem_cons_self
    dsimp only at named
    subst named
    obtain ⟨⟨_, middle⟩, visit, later⟩ := bind_eq_ok staged
    obtain ⟨flag, step, marks⟩ := stageReceiptNode_ok visit
    have others : ∀ entry ∈ rest, entry.2 =
      (buildDependencyMap middle.job.pipelineSnapshot).getD entry.1 [] := by
      rw [step.pipelineSnapshot]
      exact fun entry member => listed entry (List.mem_cons_of_mem _ member)
    obtain ⟨laterFlag, laterStep, laterMarks⟩ := ih others later
    refine ⟨?_, step.trans laterStep, ?_⟩
    · rw [laterFlag, flag, dispatchRules_eq step, marks, Bool.or_assoc]
      rfl
    · rw [laterMarks, dispatchRules_eq step, marks]
      rfl

theorem stageReadyReceiptDispatchesOnce_ok
  (staged : stageReadyReceiptDispatchesOnce services receipt
    (buildDependencyMap tables.job.pipelineSnapshot) tables = .ok (moved, after)) :
  (moved = Sweep.progressed (dispatchRules services true tables.job)
    tables.job.pipelineSnapshot.nodeIDs (mark tables.job)) ∧
    tables.job.Advances after.job ∧
    mark after.job = Sweep.sweep (dispatchRules services true tables.job)
      tables.job.pipelineSnapshot.nodeIDs (mark tables.job) := by
  rw [← keys_buildDependencyMap tables.job.unique]
  have listed : ∀ entry ∈ (buildDependencyMap tables.job.pipelineSnapshot).entries, entry.2 =
    (buildDependencyMap tables.job.pipelineSnapshot).getD entry.1 [] :=
    fun entry member => (Dict.getD_of_mem member []).symm
  obtain ⟨flag, rest⟩ := foldlM_stageReceiptNode listed staged
  exact ⟨flag.trans (Bool.false_or _), rest⟩

theorem stageRounds_ok (enough : Sweep.waitingCount tables.job.pipelineSnapshot.nodeIDs
  (mark tables.job) < rounds) (staged : stageRounds services receipt
  (buildDependencyMap tables.job.pipelineSnapshot) rounds tables = .ok after) :
  tables.job.Advances after.job ∧ Sweep.Complete (dispatchRules services true after.job)
    (mark after.job) := by
  induction rounds generalizing tables with
  | zero => exact absurd enough (Nat.not_lt_zero _)
  | succ rounds ih =>
    obtain ⟨⟨_, middle⟩, once, rest⟩ := bind_eq_ok staged
    obtain ⟨flag, step, marks⟩ := stageReadyReceiptDispatchesOnce_ok once
    dsimp only at rest
    split at rest
    next progress =>
      rw [← step.pipelineSnapshot] at rest
      have fewer := Sweep.waitingCount_sweep_lt (fun _ member => member) (flag.symm.trans progress)
      rw [← marks] at fewer
      have left : Sweep.waitingCount middle.job.pipelineSnapshot.nodeIDs
        (mark middle.job) < rounds := by
        rw [step.pipelineSnapshot]
        omega
      obtain ⟨later, complete⟩ := ih left rest
      exact ⟨step.trans later, complete⟩
    next stuck =>
      cases rest
      refine ⟨step, ?_⟩
      have idle : Sweep.progressed (dispatchRules services true tables.job)
        tables.job.pipelineSnapshot.nodeIDs (mark tables.job) = false := by
        rw [← flag, Bool.eq_false_iff]
        exact stuck
      rw [dispatchRules_eq step, marks, (Sweep.idle_of_not_progressed idle).1]
      exact Sweep.complete_of_not_progressed waiting_listed idle

theorem stageReceiptDispatches_ok (staged : stageReceiptDispatches services receipt
  (buildDependencyMap tables.job.pipelineSnapshot) tables = .ok after) :
  tables.job.Advances after.job ∧ ∀ nodeID, ¬ ReadyNode after.job nodeID := by
  have enough : Sweep.waitingCount tables.job.pipelineSnapshot.nodeIDs
    (mark tables.job) ≤ tables.job.pipelineSnapshot.nodes.length := by
    rw [← List.length_map (f := PipelineNode.id)]
    exact List.countP_le_length
  obtain ⟨advances, complete⟩ := stageRounds_ok (Nat.lt_succ_of_le enough) staged
  exact ⟨advances, fun nodeID ready =>
    complete nodeID ((readyNode_iff services true).1 ready)⟩

end VideoProcess.Python
