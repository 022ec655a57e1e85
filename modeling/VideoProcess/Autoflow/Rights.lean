import VideoProcess.Python.Value

namespace VideoProcess.Autoflow

open Data Python

/-! `backend/app/autoflow/rights_policy.py`. -/

abbrev Metadata := Dict String ConfigValue

inductive RightsStatus where
  | blocked
  | reviewRequired
  | unknown
  | allowed
deriving DecidableEq, Repr

namespace RightsStatus

def token : RightsStatus → String
  | blocked => "blocked"
  | reviewRequired => "review_required"
  | unknown => "unknown"
  | allowed => "allowed"

theorem token_injective {left right : RightsStatus}
  (same : left.token = right.token) : left = right := by
  revert same
  cases left <;> cases right <;> decide

end RightsStatus

inductive SourcePolicy where
  | ownedOnly
  | licensedOnly
  | publicDomainOrCC
  | researchOnly
  | remixWithReview
deriving DecidableEq, Repr

namespace SourcePolicy

def token : SourcePolicy → String
  | ownedOnly => "owned_only"
  | licensedOnly => "licensed_only"
  | publicDomainOrCC => "public_domain_or_cc"
  | researchOnly => "research_only"
  | remixWithReview => "remix_with_review"

def isStrict : SourcePolicy → Bool
  | ownedOnly | licensedOnly | publicDomainOrCC => true
  | researchOnly | remixWithReview => false

end SourcePolicy

inductive PublishMode where
  | previewOnly
  | privateUpload
  | unlistedUpload
  | publicAfterReview
deriving DecidableEq, Repr

structure AutoFlowRequest where
  sourcePolicy : SourcePolicy
  publishMode : PublishMode
deriving DecidableEq, Repr

structure AutoFlowClipCandidate where
  sourceType : String
  (url assetID : Option String)
  rightsStatus : String
  metadata : Metadata
deriving DecidableEq

inductive Verdict where
  | allowed
  | reviewRequired
  | blocked
deriving DecidableEq, Repr

/-- The place of a verdict in `allowed < review_required < blocked`. -/
def Verdict.severity : Verdict → Nat
  | allowed => 0
  | reviewRequired => 1
  | blocked => 2

structure RightsDecision where
  status : Verdict
  reasons : List String
  allowedPublishModes : List PublishMode
  (executeAllowed publishAllowed : Bool)
deriving DecidableEq, Repr

def rightsMetadataKeys : List String :=
  ["license", "provenance", "evidence", "rights_evidence", "license_evidence",
    "provenance_evidence", "evidence_ref", "evidence_refs", "license_scope",
    "license_source", "rights_source", "rights_status"]

def publicDomainOrCCLicenses : List String :=
  ["public_domain", "creative_commons", "cc0", "cc_by", "cc_by_sa"]

def ownedLicenses : List String := ["owned"]

def licensedLicenses : List String :=
  ["licensed", "standard_library", "commercial", "royalty_free"] ++ publicDomainOrCCLicenses

def externalSources : List String :=
  ["youtube", "x", "bilibili", "xiaohongshu", "external_url", "url"]

def pickKey (metadata facts : Metadata) (key : String) : Metadata :=
  match metadata.get? key with
  | some value => facts.set key value
  | none => facts

/-- `{key: metadata[key] for key in keys if key in metadata}`. -/
def pick (metadata : Metadata) (keys : List String) : Metadata :=
  keys.foldl (pickKey metadata) .empty

/-- `none` is an argument that is not a mapping. -/
def rightsMetadataFromMapping : Option Metadata → Metadata
  | none => .empty
  | some metadata => pick metadata rightsMetadataKeys

section

variable (unicode : Unicode)

/-- `none` is a missing key. -/
def normalizedToken (value : Option ConfigValue) : String :=
  let text := match value with
    | some value => if truthy value then str value else ""
    | none => ""
  replaceChar ' ' '_' (replaceChar '-' '_' (unicode.lower (unicode.strip text)))

def mostRestrictiveStatus (values : List ConfigValue) : RightsStatus :=
  let statuses := values.map fun value => normalizedToken unicode (some value)
  ([.blocked, .reviewRequired, .unknown, .allowed].find? fun status =>
    status.token ∈ statuses).getD .unknown

/-- One turn of the loop of `merge_rights_metadata`: the facts merged and the
statuses collected so far. -/
def mergeSource (state : Metadata × List ConfigValue)
  (source : Option Metadata) : Metadata × List ConfigValue :=
  let facts := rightsMetadataFromMapping source
  (state.1.update (facts.erase "rights_status"), match facts.get? "rights_status" with
    | none | some .null => state.2
    | some status => state.2 ++ [status])

def mergeRightsMetadata (sources : List (Option Metadata)) : Metadata :=
  let state := sources.foldl mergeSource (.empty, [])
  if state.2 = [] then state.1
  else
    state.1.set "rights_status" (.str (mostRestrictiveStatus unicode state.2).token)

section

variable (candidate : AutoFlowClipCandidate)

def candidateRightsFacts : Metadata :=
  mergeRightsMetadata unicode [some candidate.metadata,
    some (Dict.empty.set "rights_status" (.str candidate.rightsStatus))]

def rightsStatusFromMetadata (metadata : Option Metadata) : RightsStatus :=
  let facts := rightsMetadataFromMapping metadata
  let explicit := normalizedToken unicode (facts.get? "rights_status")
  match [RightsStatus.blocked, .reviewRequired, .unknown].find? fun status =>
    status.token = explicit with
  | some status => status
  | none =>
    if normalizedToken unicode (facts.get? "license") ∈
      ownedLicenses ++ licensedLicenses then .allowed
    else .unknown

/-- `rights_status_from_metadata(candidate_rights_facts(candidate))`. -/
def effectiveStatus : RightsStatus :=
  rightsStatusFromMetadata unicode (some (candidateRightsFacts unicode candidate))

def isLocalCandidate : Bool :=
  effectiveStatus unicode candidate = .allowed ∧ candidate.url = none ∧
    candidate.sourceType ∈ ["asset", "material"] ∧
    candidate.assetID.getD "" ≠ ""

def candidateLicense : String :=
  normalizedToken unicode (candidate.metadata.get? "license")

def candidateIsOwned : Bool :=
  isLocalCandidate unicode candidate ∧ candidateLicense unicode candidate ∈ ownedLicenses

def candidateIsLicensed : Bool :=
  isLocalCandidate unicode candidate ∧ candidateLicense unicode candidate ∈ licensedLicenses

def candidateIsPublicDomainOrCC : Bool :=
  isLocalCandidate unicode candidate ∧ candidateLicense unicode candidate ∈ publicDomainOrCCLicenses

def candidateHasKnownLicense : Bool :=
  candidateLicense unicode candidate ∈ ownedLicenses ++ licensedLicenses

def candidateMatchesPolicy : SourcePolicy → Bool
  | .ownedOnly => candidateIsOwned unicode candidate
  | .licensedOnly => candidateIsLicensed unicode candidate
  | .publicDomainOrCC => candidateIsPublicDomainOrCC unicode candidate
  | .researchOnly | .remixWithReview => effectiveStatus unicode candidate = .allowed

def isExternal : Bool :=
  candidate.url.getD "" ≠ "" ∨ candidate.sourceType ∈ externalSources

end

variable (policy : SourcePolicy) (candidate : AutoFlowClipCandidate)

def isMismatched : Bool :=
  candidateHasKnownLicense unicode candidate ∧ ¬ candidateMatchesPolicy unicode candidate policy

def isUnproven : Bool :=
  effectiveStatus unicode candidate ≠ .allowed ∨ ¬ candidateMatchesPolicy unicode candidate policy

end

def RightsDecision.block (reason : String) : RightsDecision where
  status := .blocked
  reasons := [reason]
  allowedPublishModes := [.previewOnly]
  executeAllowed := false
  publishAllowed := false

def RightsDecision.review (reason : String) (modes : List PublishMode) : RightsDecision where
  status := .reviewRequired
  reasons := [reason]
  allowedPublishModes := modes
  executeAllowed := true
  publishAllowed := false

def defaultModes : List PublishMode := [.previewOnly, .privateUpload, .unlistedUpload]

namespace RightsPolicy

def evaluate (unicode : Unicode) (request : AutoFlowRequest)
  (candidates : List AutoFlowClipCandidate) : RightsDecision :=
  if candidates = [] then .block "no_material"
  else if candidates.any fun candidate =>
    effectiveStatus unicode candidate = .blocked then
    .block "one or more candidates are blocked by rights policy"
  else if request.sourcePolicy.isStrict ∧ candidates.any isExternal then
    .block (request.sourcePolicy.token ++ " policy does not allow external URL candidates")
  else if candidates.any isExternal then
    .review ("external URL candidates require human review and " ++
      "private/unlisted defaults") defaultModes
  else if candidates.any (isMismatched unicode request.sourcePolicy) then
    .block ("one or more candidates do not satisfy " ++ request.sourcePolicy.token)
  else if candidates.any (isUnproven unicode request.sourcePolicy) then
    .review "unknown or review-required candidate rights require human review" defaultModes
  else if request.publishMode = .publicAfterReview then
    .review "public publishing requires explicit human approval"
      (defaultModes ++ [.publicAfterReview])
  else
    { status := .allowed
      reasons := ["owned or library-backed candidates are allowed for " ++
        "preview/private execution"]
      allowedPublishModes := defaultModes
      executeAllowed := true
      publishAllowed := request.publishMode ∈ defaultModes }

end RightsPolicy

end VideoProcess.Autoflow
