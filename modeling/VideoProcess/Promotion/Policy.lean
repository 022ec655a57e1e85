import VideoProcess.Promotion.Handler

namespace VideoProcess.Promotion

open Data Program ChannelOps

/-! The client of the policy service (`pds_client.go`). -/

structure PDSClient where
  (enabled devAllowAll : Bool)
deriving DecidableEq, Repr

/-- What becomes of one request. The body is there if it has been decoded. -/
inductive Exchange where
  | unmarshalable
  | unbuildable
  | unanswered
  | responded (status : Nat) (body : Option PDSDecision)

def failPolicyByAction : Dict String String :=
  ((((Dict.empty.set "candidate_accept" "allow").set "plan_approval" "flag").set
    "publish" "block").set "promote_publication" "block")

def failPolicy (actionType : String) : String := (failPolicyByAction.get? actionType).getD "allow"

theorem failPolicy_publish : failPolicy "publish" ≠ "allow" := by decide

namespace Policy

def failPolicyDecision (actionType warning : String) : PDSDecision :=
  ⟨"", failPolicy actionType, warning, failPolicy actionType⟩

end Policy

def Runtime.normalizeVerdict (go : Runtime) (value : String) : Option String :=
  let verdict := go.normalized value
  if verdict ∈ ["allow", "flag", "block"] then some verdict else none

def Exchange.decision? (go : Runtime) : Exchange → Except String PDSDecision
  | .unmarshalable => .error "pds_parse_failed"
  | .unbuildable | .unanswered => .error "pds_unavailable"
  | .responded status body =>
    if status ≥ 400 then .error "pds_unavailable"
    else match body with
      | none => .error "pds_parse_failed"
      | some decision =>
        match go.normalizeVerdict decision.verdict with
        | none => .error "pds_parse_failed"
        | some verdict => .ok { decision with verdict := verdict }

namespace PDSClient

def decide (go : Runtime) (client : PDSClient) (actionType : String)
  (exchange : Exchange) : PDSDecision :=
  if client.devAllowAll then ⟨"", "allow", "dev_allow_all", "allow"⟩
  else if !client.enabled then
    Policy.failPolicyDecision actionType "pds_disabled"
  else match exchange.decision? go with
    | .error warning => Policy.failPolicyDecision actionType warning
    | .ok decision => decision

end PDSClient

def Exchange.Allows (go : Runtime) (exchange : Exchange) : Prop :=
  ∃ status decision, exchange = .responded status (some decision) ∧
    status < 400 ∧ go.normalizeVerdict decision.verdict = some "allow"

theorem Exchange.allows_of_decision {exchange : Exchange}
  (decided : exchange.decision? go = .ok decision)
  (allowed : decision.verdict = "allow") : exchange.Allows go := by
  unfold decision? at decided
  split at decided
  · cases decided
  · cases decided
  · cases decided
  next status _ =>
    split at decided
    · cases decided
    next below =>
      split at decided
      · cases decided
      next received =>
        split at decided
        · cases decided
        next known =>
          cases decided
          cases allowed
          exact ⟨status, received, rfl, Nat.not_le.1 below, known⟩

theorem PDSClient.allows_of_decide {client : PDSClient} (strict : client.devAllowAll = false)
  (allowed : (client.decide go "publish" exchange).verdict = "allow") :
  client.enabled = true ∧ exchange.Allows go := by
  unfold decide at allowed
  rw [strict, if_neg Bool.false_ne_true] at allowed
  split at allowed
  · exact absurd allowed failPolicy_publish
  next enabled =>
    refine ⟨by simpa using enabled, ?_⟩
    split at allowed
    · exact absurd allowed failPolicy_publish
    next decided => exact Exchange.allows_of_decision decided allowed

end VideoProcess.Promotion
