import VideoProcess.Python.Tables

namespace VideoProcess.Python

/-! Execution authority over one job (`job_execution_authority.py`). -/

structure LockedJobExecutionAuthority where
  rows : Authority
  jobID : Uuid
  jobStatus : JobStatus
  node : Option NodeExecution
deriving DecidableEq

variable (authority : LockedJobExecutionAuthority)

/-- Without `nodeStatuses` the node execution is not looked at. -/
def requireActiveExecutionAuthority
  (jobStatuses : List JobStatus) (nodeStatuses : Option (List NodeStatus)) :
  Except String Unit :=
  let schedule := authority.rows.schedule
  if authority.rows.channel.any fun channel =>
    !channel.enabled || channel.haltedAt.isSome then
    .error "channel execution is blocked"
  else if authority.rows.task.any fun task => !task.producing then
    .error "production task is not producing"
  else if schedule.state = .draining ∧ authority.jobStatus ≠ .running then
    .error "runtime schedule is draining"
  else if schedule.state ≠ .opened ∧ schedule.state ≠ .draining then
    .error "runtime schedule is not open"
  else if schedule.guardedJobID.any fun guarded => authority.jobID ≠ guarded then
    .error "job does not hold guarded schedule authority"
  else if authority.jobStatus ∉ jobStatuses then
    .error "job status no longer permits execution"
  else if nodeStatuses.any fun statuses =>
    authority.node.all fun node => node.status ∉ statuses then
    .error "node status no longer permits execution"
  else .ok ()

def requireMatchingNodeExecutionClaim (claim : NodeExecutionClaim) : Except String Unit :=
  let changed := .error "node execution claim changed"
  match authority.node with
  | none => changed
  | some node =>
    if authority.jobID = claim.jobID ∧ node.id = claim.nodeExecutionID ∧
      node.workerID = some claim.workerID ∧
      node.startedAt = some claim.startedAt ∧
      node.workerRegistrationID = claim.workerRegistrationID ∧
      node.workerLeaseEpoch = claim.workerLeaseEpoch then .ok ()
    else changed

end VideoProcess.Python
