import VideoProcess.Autoflow.Rights

namespace VideoProcess.Autoflow

open Data Python

/-! How restrictive the merge of rights statuses and the rights policy are. -/

def suppliedStatuses (sources : List (Option Metadata)) : List ConfigValue :=
  sources.filterMap fun source =>
    (source.bind fun metadata => metadata.get? "rights_status").filter (· ≠ .null)

private theorem get?_pickKey (metadata facts : Metadata) (key wanted : String) :
  (pickKey metadata facts key).get? wanted =
    if key = wanted then (metadata.get? wanted).or (facts.get? wanted)
    else facts.get? wanted := by
  unfold pickKey
  by_cases same : key = wanted
  · subst same
    cases found : metadata.get? key with
    | none => simp
    | some => simp [Dict.get?_set]
  · cases metadata.get? key with
    | none => simp [same]
    | some => simp [Dict.get?_set, same]

theorem get?_pick (metadata : Metadata) (listed : wanted ∈ keys) :
  (pick metadata keys).get? wanted = metadata.get? wanted := by
  have collected : ∀ (keys : List String) (start : Metadata),
    (keys.foldl (pickKey metadata) start).get? wanted =
      if wanted ∈ keys then (metadata.get? wanted).or (start.get? wanted)
      else start.get? wanted := by
    intro keys
    induction keys with
    | nil => exact fun start => rfl
    | cons key _ ih =>
      intro start
      rw [List.foldl_cons, ih, get?_pickKey]
      by_cases same : key = wanted
      · subst same
        cases metadata.get? key <;> simp
      · simp [same, Ne.symm same]
  rw [pick, collected, if_pos listed]
  exact Option.or_none

theorem get?_rightsMetadataFromMapping (source : Option Metadata)
  (listed : key ∈ rightsMetadataKeys) :
  (rightsMetadataFromMapping source).get? key = source.bind fun metadata => metadata.get? key := by
  cases source with
  | none => rfl
  | some metadata => exact get?_pick metadata listed

private theorem foldl_mergeSource (sources : List (Option Metadata))
  (state : Metadata × List ConfigValue)
  (absent : state.1.get? "rights_status" = none) :
  let merged := sources.foldl mergeSource state
  (merged.1.get? "rights_status" = none) ∧ merged.2 = state.2 ++ suppliedStatuses sources := by
  induction sources generalizing state with
  | nil => exact ⟨absent, by simp [suppliedStatuses]⟩
  | cons source _ ih =>
    have named : (rightsMetadataFromMapping source).get? "rights_status" =
      source.bind fun metadata => metadata.get? "rights_status" :=
      get?_rightsMetadataFromMapping source (by decide)
    have kept : (mergeSource state source).1.get? "rights_status" = none := by
      simp [mergeSource, Dict.get?_update, Dict.get?_erase, absent]
    obtain ⟨absent, statuses⟩ := ih (mergeSource state source) kept
    refine ⟨absent, ?_⟩
    rw [List.foldl_cons, statuses]
    simp only [mergeSource, suppliedStatuses, List.filterMap_cons, named]
    cases source.bind fun metadata => metadata.get? "rights_status" with
    | none => simp
    | some status => cases status <;> simp [Option.filter]

theorem get?_mergeRightsMetadata (unicode : Unicode) (sources : List (Option Metadata)) :
  (mergeRightsMetadata unicode sources).get? "rights_status" =
    if suppliedStatuses sources = [] then none
    else some (.str (mostRestrictiveStatus unicode (suppliedStatuses sources)).token) := by
  obtain ⟨absent, statuses⟩ := foldl_mergeSource sources (.empty, []) rfl
  rw [List.nil_append] at statuses
  unfold mergeRightsMetadata
  simp only [statuses]
  split
  · exact absent
  · rw [Dict.get?_set, if_pos rfl]

section

variable (unicode : Unicode)

section

variable (value : ConfigValue)

/-- A status that normalizes to one of the four the policy knows. -/
def Recognised : Prop :=
  ∃ status : RightsStatus, normalizedToken unicode (some value) = status.token

/-- A status that normalizes to one more restrictive than `allowed`. -/
def Restricts : Prop :=
  ∃ status : RightsStatus, status ≠ .allowed ∧ normalizedToken unicode (some value) = status.token

def Allows : Prop :=
  normalizedToken unicode (some value) = RightsStatus.allowed.token

end

theorem Recognised.restricts_or_allows (recognised : Recognised unicode value) :
  Restricts unicode value ∨ Allows unicode value := by
  obtain ⟨status, named⟩ := recognised
  by_cases allowed : status = .allowed
  · subst allowed
    exact .inr named
  · exact .inl ⟨status, allowed, named⟩

theorem mostRestrictiveStatus_eq_allowed_iff (values : List ConfigValue) :
  mostRestrictiveStatus unicode values = .allowed ↔ (∃ value ∈ values, Allows unicode value) ∧
    ∀ value ∈ values, ¬ Restricts unicode value := by
  let Present (status : RightsStatus) : Prop :=
    ∃ value ∈ values, normalizedToken unicode (some value) = status.token
  have free : (∀ value ∈ values, ¬ Restricts unicode value) ↔
    ¬ Present .blocked ∧ ¬ Present .reviewRequired ∧ ¬ Present .unknown := by
    constructor
    · intro free
      refine ⟨?_, ?_, ?_⟩ <;> rintro ⟨value, member, named⟩ <;>
        exact free value member ⟨_, by decide, named⟩
    · rintro ⟨blocked, review, unknown⟩ value member ⟨status, other, named⟩
      cases status with
      | blocked => exact blocked ⟨value, member, named⟩
      | reviewRequired => exact review ⟨value, member, named⟩
      | unknown => exact unknown ⟨value, member, named⟩
      | allowed => exact other rfl
  have chosen : mostRestrictiveStatus unicode values =
    ([RightsStatus.blocked, .reviewRequired, .unknown, .allowed].find?
      fun status => decide (Present status)).getD .unknown := by
    simp [mostRestrictiveStatus, Present]
  rw [chosen, free]
  change _ ↔ Present .allowed ∧ _
  by_cases blocked : Present .blocked
  · simp [blocked]
  by_cases review : Present .reviewRequired
  · simp [blocked, review]
  by_cases unknown : Present .unknown
  · simp [blocked, review, unknown]
  by_cases allowed : Present .allowed <;>
    simp [blocked, review, unknown, allowed]

variable (sources : List (Option Metadata))

theorem merged_allowed_iff :
  (mergeRightsMetadata unicode sources).get? "rights_status" = some (.str "allowed") ↔
    (∃ value ∈ suppliedStatuses sources, Allows unicode value) ∧
      ∀ value ∈ suppliedStatuses sources, ¬ Restricts unicode value := by
  rw [get?_mergeRightsMetadata, ← mostRestrictiveStatus_eq_allowed_iff]
  split
  next none => simp [none, mostRestrictiveStatus]
  · rw [Option.some.injEq, ConfigValue.str.injEq]
    constructor
    · exact fun named => RightsStatus.token_injective named
    · exact fun allowed => congrArg RightsStatus.token allowed

/-- `allowed` comes out of a merge only if every status put in says so. -/
structure MergesRestrictively : Prop where
  allowed : (mergeRightsMetadata unicode sources).get? "rights_status" = some (.str "allowed") →
    ∀ status ∈ suppliedStatuses sources, truthy status = true → Allows unicode status
  unrecognised : ∀ status ∈ suppliedStatuses sources, truthy status = true →
    ¬ Recognised unicode status →
    (mergeRightsMetadata unicode sources).get? "rights_status" ≠ some (.str "allowed")

theorem mergesRestrictively_iff (sources : List (Option Metadata)) :
  MergesRestrictively unicode sources ↔
    (∃ status ∈ suppliedStatuses sources, Restricts unicode status) ∨
    (∀ status ∈ suppliedStatuses sources, ¬ Allows unicode status) ∨
    ∀ status ∈ suppliedStatuses sources, truthy status = true → Recognised unicode status := by
  constructor
  · intro restrictive
    by_cases restricted : ∃ status ∈ suppliedStatuses sources, Restricts unicode status
    · exact .inl restricted
    by_cases allows : ∃ status ∈ suppliedStatuses sources, Allows unicode status
    · have merged := (merged_allowed_iff unicode sources).2 ⟨allows, fun value member restricts =>
        restricted ⟨value, member, restricts⟩⟩
      refine .inr (.inr fun status member supplied => ?_)
      exact ⟨.allowed, restrictive.allowed merged status member supplied⟩
    · exact .inr (.inl fun status member allowed =>
        allows ⟨status, member, allowed⟩)
  · intro condition
    have allowed : (mergeRightsMetadata unicode sources).get? "rights_status" =
      some (.str "allowed") →
      ∀ status ∈ suppliedStatuses sources, truthy status = true → Allows unicode status := by
      intro merged status member supplied
      obtain ⟨⟨other, otherMember, allows⟩, free⟩ := (merged_allowed_iff unicode sources).1 merged
      rcases condition with ⟨strict, strictMember, restricts⟩ | none | known
      · exact absurd restricts (free strict strictMember)
      · exact absurd allows (none other otherMember)
      · have recognised := known status member supplied
        exact (recognised.restricts_or_allows unicode).resolve_left (free status member)
    refine ⟨allowed, fun status member supplied unrecognised merged => ?_⟩
    exact unrecognised ⟨.allowed, allowed merged status member supplied⟩

end

/-- A status the policy does not know is dropped from a merge with
`allowed`. -/
theorem merge_drops_denied : (mergeRightsMetadata ascii
  [some (Dict.empty.set "rights_status" (.str "allowed")),
    some (Dict.empty.set "rights_status" (.str "denied"))]).get?
  "rights_status" = some (.str "allowed") ∧
  ¬ MergesRestrictively ascii [some (Dict.empty.set "rights_status" (.str "allowed")),
    some (Dict.empty.set "rights_status" (.str "denied"))] := by
  have merged : (mergeRightsMetadata ascii [some (Dict.empty.set "rights_status" (.str "allowed")),
    some (Dict.empty.set "rights_status" (.str "denied"))]).get?
    "rights_status" = some (.str "allowed") := by decide +kernel
  refine ⟨merged, fun restrictive => ?_⟩
  have denied : normalizedToken ascii (some (.str "denied")) = "allowed" :=
    restrictive.allowed merged (.str "denied") (by decide +kernel) (by decide +kernel)
  revert denied
  decide +kernel

theorem mem_defaultModes_iff : mode ∈ defaultModes ↔ mode ≠ .publicAfterReview := by
  cases mode <;> decide

namespace RightsPolicy

def judge (blocked external mismatched unproven strict reviewed : Bool) : Verdict :=
  if blocked then .blocked
  else if strict ∧ external then .blocked
  else if external then .reviewRequired
  else if mismatched then .blocked
  else if unproven then .reviewRequired
  else if reviewed then .reviewRequired
  else .allowed

section

variable (unicode : Unicode) (request : AutoFlowRequest) (candidates : List AutoFlowClipCandidate)

def verdict : Verdict :=
  judge (candidates.any fun candidate =>
    effectiveStatus unicode candidate = .blocked)
    (candidates.any isExternal)
    (candidates.any (isMismatched unicode request.sourcePolicy))
    (candidates.any (isUnproven unicode request.sourcePolicy))
    request.sourcePolicy.isStrict
    (request.publishMode = .publicAfterReview)

end

variable {unicode : Unicode} {request : AutoFlowRequest} {candidates : List AutoFlowClipCandidate}

theorem evaluate_eq (material : candidates ≠ []) : (evaluate unicode request candidates).status =
  verdict unicode request candidates ∧
  ((evaluate unicode request candidates).publishAllowed = true ↔
    verdict unicode request candidates = .allowed) := by
  unfold evaluate verdict judge
  rw [if_neg material]
  by_cases blocked : (candidates.any fun candidate =>
    decide (effectiveStatus unicode candidate = .blocked)) = true
  · simp [blocked, RightsDecision.block]
  by_cases external : candidates.any isExternal = true
  · cases strict : request.sourcePolicy.isStrict <;>
      simp [blocked, external, RightsDecision.block, RightsDecision.review]
  by_cases mismatched : candidates.any (isMismatched unicode request.sourcePolicy) = true
  · simp [blocked, external, mismatched, RightsDecision.block]
  by_cases unproven : candidates.any (isUnproven unicode request.sourcePolicy) = true
  · simp [blocked, external, mismatched, unproven, RightsDecision.review]
  by_cases reviewed : request.publishMode = .publicAfterReview
  · simp [blocked, external, mismatched, unproven, reviewed, RightsDecision.review]
  · simp [blocked, external, mismatched, unproven, reviewed, mem_defaultModes_iff]

private theorem judge_allowed_iff : ∀ blocked external mismatched unproven strict reviewed : Bool,
  judge blocked external mismatched unproven strict reviewed = .allowed ↔
    blocked = false ∧ external = false ∧ mismatched = false ∧
      unproven = false ∧ reviewed = false := by
  decide

theorem verdict_allowed_iff : verdict unicode request candidates = .allowed ↔
  (∀ candidate ∈ candidates, effectiveStatus unicode candidate ≠ .blocked ∧
    isExternal candidate = false ∧
    isMismatched unicode request.sourcePolicy candidate = false ∧
    isUnproven unicode request.sourcePolicy candidate = false) ∧
    request.publishMode ≠ .publicAfterReview := by
  rw [verdict, judge_allowed_iff]
  simp only [List.any_eq_false, decide_eq_true_eq, decide_eq_false_iff_not, Bool.not_eq_true]
  constructor
  · rintro ⟨blocked, external, mismatched, unproven, mode⟩
    exact ⟨fun candidate member => ⟨blocked candidate member,
      external candidate member, mismatched candidate member,
      unproven candidate member⟩, mode⟩
  · rintro ⟨fit, mode⟩
    exact ⟨fun candidate member => (fit candidate member).1,
      fun candidate member => (fit candidate member).2.1,
      fun candidate member => (fit candidate member).2.2.1,
      fun candidate member => (fit candidate member).2.2.2, mode⟩

/-- What may be published is owned or licensed as the request asks. -/
theorem publishAllowed_sound
  (published : (evaluate unicode request candidates).publishAllowed = true) :
  candidates ≠ [] ∧ (∀ candidate ∈ candidates, isExternal candidate = false ∧
    effectiveStatus unicode candidate = .allowed ∧
    candidateMatchesPolicy unicode candidate request.sourcePolicy = true) ∧
    request.publishMode ≠ .publicAfterReview := by
  have material : candidates ≠ [] := by
    rintro rfl
    cases published
  obtain ⟨fit, mode⟩ := verdict_allowed_iff.1 ((evaluate_eq material).2.1 published)
  refine ⟨material, fun candidate member => ?_, mode⟩
  obtain ⟨-, external, -, unproven⟩ := fit candidate member
  simp only [isUnproven, decide_eq_false_iff_not, not_or, not_not] at unproven
  exact ⟨external, unproven⟩

def ownedClip : AutoFlowClipCandidate where
  sourceType := "asset"
  url := none
  assetID := some "clip"
  rightsStatus := "allowed"
  metadata := Dict.empty.set "license" (.str "Owned")

theorem publishAllowed_sound_ownedClip : isExternal ownedClip = false ∧
  effectiveStatus ascii ownedClip = .allowed ∧
  candidateMatchesPolicy ascii ownedClip .ownedOnly = true :=
  (@publishAllowed_sound ascii ⟨.ownedOnly, .privateUpload⟩ [ownedClip]
    (by decide +kernel)).2.1 ownedClip (by decide +kernel)

theorem evaluate_perm {permuted : List AutoFlowClipCandidate} (same : permuted.Perm candidates) :
  evaluate unicode request permuted = evaluate unicode request candidates := by
  have asked : ∀ question : AutoFlowClipCandidate → Bool,
    permuted.any question = candidates.any question := by
    intro question
    rw [Bool.eq_iff_iff, List.any_eq_true, List.any_eq_true]
    simp only [same.mem_iff]
  have empty : permuted = [] ↔ candidates = [] := by
    constructor
    · rintro rfl
      exact same.symm.eq_nil
    · rintro rfl
      exact same.eq_nil
  simp only [evaluate, asked, empty]

/-- The order of the candidates does not matter, and a further candidate never
makes the outcome less restrictive. -/
structure IsRestrictive (unicode : Unicode) (request : AutoFlowRequest)
  (candidates : List AutoFlowClipCandidate)
  (further : AutoFlowClipCandidate) : Prop where
  unordered : ∀ permuted : List AutoFlowClipCandidate, permuted.Perm candidates →
    (evaluate unicode request permuted).status = (evaluate unicode request candidates).status ∧
      (evaluate unicode request permuted).publishAllowed =
        (evaluate unicode request candidates).publishAllowed
  severity : (evaluate unicode request candidates).status.severity ≤
    (evaluate unicode request (candidates ++ [further])).status.severity
  publish : (evaluate unicode request (candidates ++ [further])).publishAllowed = true →
    (evaluate unicode request candidates).publishAllowed = true

/-- The further candidate is external and turns the block for a mismatched
license into a review: the policy tolerates external candidates, and nothing
else blocks the list. -/
structure Masks (unicode : Unicode) (request : AutoFlowRequest)
  (candidates : List AutoFlowClipCandidate)
  (further : AutoFlowClipCandidate) : Prop where
  tolerant : request.sourcePolicy.isStrict = false
  unblocked : ∀ candidate ∈ candidates ++ [further], effectiveStatus unicode candidate ≠ .blocked
  domestic : ∀ candidate ∈ candidates, isExternal candidate = false
  mismatched : ∃ candidate ∈ candidates, isMismatched unicode request.sourcePolicy candidate = true
  external : isExternal further = true

private theorem judge_extend : ∀ blocked external mismatched unproven strict reviewed
  blocked' external' mismatched' unproven' : Bool,
  ((judge blocked external mismatched unproven strict reviewed).severity ≤
    (judge (blocked || blocked') (external || external')
      (mismatched || mismatched') (unproven || unproven') strict
      reviewed).severity ↔
    ¬ (strict = false ∧ (blocked || blocked') = false ∧
      external = false ∧ mismatched = true ∧ external' = true)) ∧
  (judge (blocked || blocked') (external || external')
    (mismatched || mismatched') (unproven || unproven') strict
    reviewed = .allowed →
    judge blocked external mismatched unproven strict reviewed = .allowed) := by
  decide +kernel

theorem masks_iff : Masks unicode request candidates further ↔
  request.sourcePolicy.isStrict = false ∧ ((candidates ++ [further]).any fun candidate =>
    effectiveStatus unicode candidate = .blocked) = false ∧
    candidates.any isExternal = false ∧
    candidates.any (isMismatched unicode request.sourcePolicy) = true ∧
    isExternal further = true := by
  simp only [List.any_eq_false, List.any_eq_true, decide_eq_true_eq, Bool.not_eq_true]
  constructor
  · rintro ⟨tolerant, unblocked, domestic, mismatched, external⟩
    exact ⟨tolerant, unblocked, domestic, mismatched, external⟩
  · rintro ⟨tolerant, unblocked, domestic, mismatched, external⟩
    exact ⟨tolerant, unblocked, domestic, mismatched, external⟩

theorem verdict_extend (further : AutoFlowClipCandidate) :
  ((verdict unicode request candidates).severity ≤
    (verdict unicode request (candidates ++ [further])).severity ↔
    ¬ Masks unicode request candidates further) ∧
  (verdict unicode request (candidates ++ [further]) = .allowed →
    verdict unicode request candidates = .allowed) := by
  have asked : ∀ question : AutoFlowClipCandidate → Bool, (candidates ++ [further]).any question =
    (candidates.any question || question further) := by
    intro question
    simp [List.any_append]
  rw [masks_iff]
  unfold verdict
  simp only [asked]
  exact judge_extend ..

theorem isRestrictive_iff (material : candidates ≠ []) (further : AutoFlowClipCandidate) :
  IsRestrictive unicode request candidates further ↔
    ¬ Masks unicode request candidates further := by
  have extended : candidates ++ [further] ≠ [] := by simp
  obtain ⟨status, published⟩ := @evaluate_eq unicode request candidates material
  obtain ⟨status', published'⟩ := @evaluate_eq unicode request (candidates ++ [further]) extended
  obtain ⟨severity, allowed⟩ := @verdict_extend unicode request candidates further
  rw [← severity, ← status, ← status']
  constructor
  · exact IsRestrictive.severity
  · intro severe
    refine ⟨fun permuted same => ?_, severe, fun publish => ?_⟩
    · rw [evaluate_perm same]
      exact ⟨rfl, rfl⟩
    · exact published.2 (allowed (published'.1 publish))

def heldClip : AutoFlowClipCandidate := { ownedClip with rightsStatus := "review_required" }

def externalClip : AutoFlowClipCandidate where
  sourceType := "youtube"
  url := some "https://example.test/a.mp4"
  assetID := none
  rightsStatus := "unknown"
  metadata := .empty

theorem isRestrictive_iff_ownedClip : IsRestrictive ascii ⟨.researchOnly, .previewOnly⟩ [ownedClip]
  externalClip := by
  apply (isRestrictive_iff (by simp) _).2
  intro masks
  obtain ⟨_, member, mismatched⟩ := masks.mismatched
  rw [List.mem_singleton.1 member] at mismatched
  revert mismatched
  decide +kernel

/-- The block for a clip whose license is known but not cleared gives way to a
review when an external clip joins it. -/
theorem external_masks_block : (evaluate ascii ⟨.researchOnly, .previewOnly⟩ [heldClip]).status =
  .blocked ∧
  (evaluate ascii ⟨.researchOnly, .previewOnly⟩ [heldClip, externalClip]).status = .reviewRequired ∧
  ¬ IsRestrictive ascii ⟨.researchOnly, .previewOnly⟩ [heldClip] externalClip := by
  have before : (evaluate ascii ⟨.researchOnly, .previewOnly⟩
    [heldClip]).status = .blocked := by decide +kernel
  have after : (evaluate ascii ⟨.researchOnly, .previewOnly⟩
    ([heldClip] ++ [externalClip])).status = .reviewRequired := by
    decide +kernel
  refine ⟨before, after, fun restrictive => ?_⟩
  have severe := restrictive.severity
  rw [before, after] at severe
  revert severe
  decide

end RightsPolicy

end VideoProcess.Autoflow
