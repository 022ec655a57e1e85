import VideoProcess.Schema
import Mathlib.Data.List.Dedup
import Mathlib.Logic.Relation

namespace VideoProcess.Inventory.Lineage

open List

/-! `require_upload_lineage` of `owned_producer_lineage.py`. Whatever it raises is a refusal. -/

def reason : String := "owned_inventory_artifact_lineage"

def parents (graph : PipelineDefinition) (name : String) : List String :=
  (graph.edges.filter (·.target = name)).map (·.source)

variable {graph : PipelineDefinition} {artifacts : List ArtifactRow} {jobID uploadID inputID : Uuid}
  {nodes members : List NodeExecutionRow} {upload current : NodeExecutionRow}

theorem mem_parents : source ∈ parents graph name ↔ graph.Edge source name := by
  simp [parents, PipelineDefinition.Edge, and_assoc, and_comm]

section

variable (graph artifacts jobID members upload)

/-- Names are unique by now: a row of the name of the upload is the upload. -/
def clean (node : NodeExecutionRow) : Bool :=
  node.errorMessage = none ∧ node.retryCount = 0 ∧
    (node.nodeID = upload.nodeID ∨ node.status = .succeeded)

variable (current : NodeExecutionRow)

def previousOf : Except String (Option { node // node ∈ members }) :=
  if current.nodeType = "source" then
    if parents graph current.nodeID = [] ∧ current.inputArtifactIDs = [] then .ok none
    else .error reason
  else
    match parents graph current.nodeID with
    | [name] =>
      match found : members.reverse.find? (·.nodeID = name) with
      | none => .error reason
      | some previous =>
        if previous.outputArtifactID.any fun output =>
            (artifacts.reverse.find? (·.id = output)).any fun artifact =>
              artifact.jobID = jobID ∧ artifact.nodeExecutionID = previous.id ∧
                current.inputArtifactIDs = [output] then
          .ok (some ⟨previous, mem_reverse.1 (mem_of_find?_eq_some found)⟩)
        else .error reason
    | _ => .error reason

/-- Every turn sees a member that was not seen before. -/
def walk (current : { node // node ∈ members }) (seen : List String) : Except String Unit :=
  if current.1.nodeID ∈ seen ∨ ¬ clean upload current.1 then .error reason
  else
    match previousOf graph artifacts jobID members current.1 with
    | .error error => .error error
    | .ok none => .ok ()
    | .ok (some previous) => walk previous (current.1.nodeID :: seen)
  termination_by (members.filter (·.nodeID ∉ seen)).length
  decreasing_by
    have split : members.filter (·.nodeID ∉ current.1.nodeID :: seen) =
        (members.filter (·.nodeID ∉ seen)).filter (·.nodeID ≠ current.1.nodeID) := by
      rw [filter_filter]
      exact filter_congr fun node _ => by simp
    rw [split]
    exact length_filter_lt_length_iff_exists.2 ⟨current.1,
      mem_filter.2 ⟨current.2, by simpa using (not_or.1 ‹¬ (_ ∨ _)›).1⟩, by simp⟩

def requireUploadLineage (nodes : List NodeExecutionRow) (uploadID inputID : Uuid) :
  Except String Unit :=
  let members := nodes.filter (·.jobID = jobID)
  let names := members.map (·.nodeID)
  if names.dedup.length = members.length ∧ names ⊆ graph.nodeIDs ∧ graph.nodeIDs ⊆ names then
    match only : members.filter fun node =>
      node.id = uploadID ∧ node.nodeType = "youtube_upload" with
    | [upload] =>
      if upload.status = .running ∧ upload.inputArtifactIDs = [inputID] then
        walk graph artifacts jobID members upload
          ⟨upload, (mem_filter.1 (only ▸ mem_singleton_self upload)).1⟩ []
      else .error reason
    | _ => .error reason
  else .error reason

/-- All of the input is the output of `previous`, an artifact of that node and of the job. -/
def Feeds (previous current : NodeExecutionRow) : Prop :=
  ∃ artifact ∈ artifacts, previous.outputArtifactID = some artifact.id ∧
    artifact.jobID = jobID ∧ artifact.nodeExecutionID = previous.id ∧
    current.inputArtifactIDs = [artifact.id]

/-- `path` leads from `current` to a source and holds all that comes before `current`. -/
structure Path (path : List NodeExecutionRow) : Prop where
  starts : path.head? = some current
  ends : ∃ source ∈ path.getLast?, source.nodeType = "source" ∧
    parents graph source.nodeID = [] ∧ source.inputArtifactIDs = []
  simple : (path.map (·.nodeID)).Nodup
  ancestors : ∀ name, name ∈ path.map (·.nodeID) ↔
    Relation.ReflTransGen (fun target source => graph.Edge source target) current.nodeID name
  clean : ∀ node ∈ path, node ∈ members ∧ clean upload node
  linked : path.IsChain fun current previous =>
    parents graph current.nodeID = [previous.nodeID] ∧ Feeds artifacts jobID previous current

end

theorem previousOf_cases (known : previousOf graph artifacts jobID members current = .ok outcome) :
  (outcome = none ∧ current.nodeType = "source" ∧ parents graph current.nodeID = [] ∧
    current.inputArtifactIDs = []) ∨
  ∃ previous, outcome = some previous ∧ parents graph current.nodeID = [previous.1.nodeID] ∧
    Feeds artifacts jobID previous.1 current := by
  unfold previousOf at known
  split_ifs at known with source bare
  · cases known
    exact .inl ⟨rfl, source, bare⟩
  · split at known
    next parents =>
      split at known
      · cases known
      next previous found =>
        split_ifs at known with feeds
        cases known
        obtain ⟨output, produced, feeds⟩ := (Option.any_eq_true ..).1 feeds
        obtain ⟨artifact, kept, feeds⟩ := (Option.any_eq_true ..).1 feeds
        have named := find?_some found
        have same := find?_some kept
        simp only [decide_eq_true_eq] at named same feeds
        subst named same
        exact .inr ⟨_, rfl, parents, artifact,
          mem_reverse.1 (mem_of_find?_eq_some kept), produced, feeds⟩
    · cases known

theorem walk_path {current : { node // node ∈ members }}
  (returns : walk graph artifacts jobID members upload current seen = .ok ()) :
  ∃ path, Path graph artifacts jobID members upload current.1 path ∧
    ∀ name ∈ path.map (·.nodeID), name ∉ seen := by
  fun_induction walk with
  | case1 | case2 => cases returns
  | case3 current seen refused stops =>
    obtain ⟨_, source, bare, free⟩ | ⟨_, other, _⟩ := previousOf_cases stops
    · obtain ⟨fresh, clean⟩ := not_or.1 refused
      refine ⟨[current.1], ⟨rfl, ⟨_, rfl, source, bare, free⟩, nodup_singleton _, ?_, ?_,
        .singleton _⟩, by simpa using fresh⟩
      · intro name
        rw [Relation.ReflTransGen.cases_head_iff]
        simp [← mem_parents, bare, eq_comm]
      · simpa using ⟨current.2, not_not.1 clean⟩
    · cases other
  | case4 current seen refused previous step ih =>
    obtain ⟨other, _⟩ | ⟨_, same, parents, feeds⟩ := previousOf_cases step
    · cases other
    · cases same
      obtain ⟨fresh, clean⟩ := not_or.1 refused
      obtain ⟨path, rest, apart⟩ := ih returns
      refine ⟨current.1 :: path, ⟨rfl, ?_, ?_, ?_, ?_, ?_⟩, ?_⟩
      · obtain ⟨source, last, ends⟩ := rest.ends
        exact ⟨source, by simp_all [getLast?_cons], ends⟩
      · exact nodup_cons.2 ⟨fun again => apart _ again mem_cons_self, rest.simple⟩
      · intro name
        rw [Relation.ReflTransGen.cases_head_iff, map_cons, mem_cons, rest.ancestors]
        simp [← mem_parents, parents, eq_comm]
      · simpa using ⟨⟨current.2, not_not.1 clean⟩, rest.clean⟩
      · obtain ⟨tail, rfl⟩ := head?_eq_some_iff.1 rest.starts
        exact isChain_cons_cons.2 ⟨⟨parents, feeds⟩, rest.linked⟩
      · exact forall_mem_cons.2 ⟨fresh, fun name member old =>
          apart name member (mem_cons_of_mem _ old)⟩

theorem lineage_exact
  (returns : requireUploadLineage graph artifacts jobID nodes uploadID inputID = .ok ()) :
  ∃ upload path, upload.id = uploadID ∧ upload.nodeType = "youtube_upload" ∧
    upload.inputArtifactIDs = [inputID] ∧
    Path graph artifacts jobID (nodes.filter (·.jobID = jobID)) upload upload path := by
  unfold requireUploadLineage at returns
  dsimp only at returns
  split_ifs at returns
  split at returns
  next upload only =>
    split_ifs at returns with running
    obtain ⟨path, found, _⟩ := walk_path returns
    have chosen := (mem_filter.1 (only ▸ mem_singleton_self upload)).2
    rw [decide_eq_true_eq] at chosen
    exact ⟨upload, path, chosen.1, chosen.2, running.2, found⟩
  · cases returns

def sample (id : Uuid) (type : String) (status : NodeStatus) (inputs : List Uuid) :
  NodeExecutionRow :=
  ⟨id, 0, type, type, "", .empty, status, 0, none, none, none, inputs, some (id + 1), none⟩

theorem lineage_exact_pair : ∃ upload path, upload.id = 4 ∧
  upload.nodeType = "youtube_upload" ∧ upload.inputArtifactIDs = [3] ∧
    Path ⟨["source", "youtube_upload"].map fun type => ⟨type, type, ⟨"", .empty, none⟩⟩,
        [⟨"", "source", "youtube_upload", "", ""⟩]⟩ [⟨3, 0, 2, .intermediate⟩] 0
      ([sample 2 "source" .succeeded [], sample 4 "youtube_upload" .running [3]].filter
        (·.jobID = 0)) upload upload path :=
  lineage_exact (by decide +kernel)

end VideoProcess.Inventory.Lineage
