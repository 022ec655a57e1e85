import VideoProcess.Go.Effect

namespace VideoProcess.Go

open Data Program List

/-! `RecoveryRunner.RunOnce` over `RecoveryStore` and `JobStarter`. -/

inductive RecoveryCall where
  | listRecoverableGoJobs
  | resetStaleGoNodes (jobID : Uuid) (staleBefore : Nat)
  | startJob (jobID : Uuid)
deriving DecidableEq

@[reducible] def RecoveryCall.Result : RecoveryCall → Type
  | .listRecoverableGoJobs => List JobView
  | _ => Unit

abbrev recoveryInterface : Interface where
  Call := RecoveryCall
  Reply call := Except String call.Result

namespace RecoveryRunner

def request (call : RecoveryCall) : Fallible recoveryInterface call.Result :=
  ExceptT.mk (.call call .done)

def recoverEach (staleBefore : Nat) : List JobView → Fallible recoveryInterface Unit
  | [] => pure ()
  | job :: rest =>
    if job.orchestratorOwner ≠ .go then recoverEach staleBefore rest
    else do
      (request (.resetStaleGoNodes job.id staleBefore)).withContext
        ("reset stale Go nodes for job " ++ toString job.id ++ ": ")
      (request (.startJob job.id)).withContext
        ("start recovered Go job " ++ toString job.id ++ ": ")
      recoverEach staleBefore rest

def runOnce (now staleNodeAge : Nat) : Fallible recoveryInterface Unit := do
  let jobs ← request .listRecoverableGoJobs
  recoverEach (now - staleNodeAge) jobs

def engine : (call : RecoveryCall) → Prog storeInterface (Except String call.Result)
  | .listRecoverableGoJobs => EngineStore.listRecoverableGoJobs.run
  | .resetStaleGoNodes jobID staleBefore => (EngineStore.resetStaleGoNodes jobID staleBefore).run
  | .startJob jobID => (Go.startJob jobID).run

theorem expand_bind {call : RecoveryCall} {context : String}
  (rest : call.Result → Fallible recoveryInterface α) :
  (((request call).withContext context >>= rest).run).expand engine =
    (Fallible.withContext context (ExceptT.mk (engine call)) >>=
      fun result => ExceptT.mk ((rest result).run.expand engine)).run := by
  change engine call >>= _ = (engine call >>= _) >>= _
  rw [Prog.bind_assoc]
  congr 1
  funext reply
  cases reply with
  | ok | error => rfl

theorem expand_recoverEach (staleBefore : Nat) (jobs : List JobView) :
  (recoverEach staleBefore jobs).run.expand engine = (Go.recoverEach staleBefore jobs).run := by
  induction jobs with
  | nil => rfl
  | cons _ rest ih =>
    rw [recoverEach, Go.recoverEach]
    split
    · exact ih
    · rw [expand_bind]
      refine congrArg (fun rest => (Fallible.withContext _ _ >>= rest).run) ?_
      funext _
      refine congrArg ExceptT.mk ((expand_bind _).trans ?_)
      rw [ih]
      rfl

theorem expand_runOnce (now staleNodeAge : Nat) : (runOnce now staleNodeAge).run.expand engine =
  (Go.runOnce now staleNodeAge).run := by
  change Prog.call _ _ = Prog.call _ _
  congr 1
  funext reply
  cases reply with
  | ok jobs => exact expand_recoverEach _ jobs
  | error => rfl

section

variable (resetFails startFails : Uuid → Bool)

def answers (database : Database) : (call : RecoveryCall) → Except String call.Result
  | .listRecoverableGoJobs => .ok (Go.listRecoverableGoJobs database)
  | .resetStaleGoNodes jobID _ =>
    if resetFails jobID then .error errNoRows else .ok ()
  | .startJob jobID => if startFails jobID then .error errNoRows else .ok ()

def Fails (jobID : Uuid) : Prop := resetFails jobID = true ∨ startFails jobID = true

def Listed (database : Database) (jobID : Uuid) : Prop :=
  jobID ∈ (Go.listRecoverableGoJobs database).map JobView.id

def Starts (now staleNodeAge : Nat) (database : Database) (jobID : Uuid) : Prop :=
  .startJob jobID ∈ (runOnce now staleNodeAge).run.requests (answers resetFails startFails database)

/-- Every job that works is started by the first run that finds it
recoverable; the `n`-th run starts with the database `runs n`. -/
def StartsEach (now : Nat → Nat) (staleNodeAge : Nat) (runs : Nat → Database) : Prop :=
  ∀ jobID, ¬ Fails resetFails startFails jobID → ∀ first,
    Listed (runs first) jobID → (∀ run < first, ¬ Listed (runs run) jobID) →
      Starts resetFails startFails (now first) staleNodeAge (runs first) jobID

variable {resetFails startFails}

theorem requests_of_ok (answered : answers resetFails startFails database call = .ok result) :
  ((request call).withContext context >>= rest).run.requests
    (answers resetFails startFails database) =
    call :: (rest result).run.requests (answers resetFails startFails database) := by
  refine congrArg (call :: ·) ?_
  rw [answered]
  rfl

theorem requests_of_error
  (answered : answers resetFails startFails database call = .error message) :
  ((request call).withContext context >>= rest).run.requests
    (answers resetFails startFails database) = [call] := by
  refine congrArg (call :: ·) ?_
  rw [answered]
  rfl

theorem requests_recoverEach {job : JobView} (rest : List JobView)
  (go : job.orchestratorOwner = .go) :
  (recoverEach staleBefore (job :: rest)).run.requests (answers resetFails startFails database) =
    .resetStaleGoNodes job.id staleBefore :: if resetFails job.id then []
      else .startJob job.id :: if startFails job.id then []
        else (recoverEach staleBefore rest).run.requests
          (answers resetFails startFails database) := by
  rw [recoverEach, if_neg (not_not.2 go)]
  cases reset : resetFails job.id with
  | true => exact requests_of_error (by rw [answers, reset]; rfl)
  | false =>
    refine (requests_of_ok (by rw [answers, reset]; rfl)).trans ?_
    refine congrArg (_ :: ·) ?_
    cases start : startFails job.id with
    | true => exact requests_of_error (by rw [answers, start]; rfl)
    | false => exact requests_of_ok (by rw [answers, start]; rfl)

theorem starts_recoverEach_iff {jobs : List JobView}
  (go : ∀ job ∈ jobs, job.orchestratorOwner = .go)
  (listed : jobID ∈ jobs.map JobView.id)
  (works : ¬ Fails resetFails startFails jobID) :
  .startJob jobID ∈ (recoverEach staleBefore jobs).run.requests
    (answers resetFails startFails database) ↔
    ∀ other ∈ (jobs.map JobView.id).takeWhile (· ≠ jobID), ¬ Fails resetFails startFails other := by
  induction jobs with
  | nil => cases listed
  | cons job rest ih =>
    rw [requests_recoverEach rest (go job mem_cons_self), map_cons]
    by_cases same : job.id = jobID
    · subst same
      simp [(not_or.1 works).1]
    · have later := ih (fun other member =>
        go other (mem_cons_of_mem _ member))
        ((mem_cons.1 listed).resolve_left fun first => same first.symm)
      rw [takeWhile_cons_of_pos (by simpa using same), forall_mem_cons, ← later]
      simp only [Fails]
      cases resetFails job.id <;> cases startFails job.id <;>
        simp [Ne.symm same]

theorem go_of_listed (listed : job ∈ Go.listRecoverableGoJobs database) :
  job.orchestratorOwner = .go := by
  obtain ⟨row, member, shown⟩ := mem_filterMap.1 listed
  have kept := (mem_filter.1 ((mem_insertionSort _).1 member))
  have found : database.jobs.find? row.id = some row := Table.find?_eq_some_iff.2 ⟨kept.1, rfl⟩
  rw [jobDetail, found] at shown
  cases shown
  exact (of_decide_eq_true kept.2).1

theorem starts_iff (works : ¬ Fails resetFails startFails jobID) (listed : Listed database jobID) :
  Starts resetFails startFails now staleNodeAge database jobID ↔
    ∀ other ∈ ((Go.listRecoverableGoJobs database).map JobView.id).takeWhile (· ≠ jobID),
      ¬ Fails resetFails startFails other := by
  rw [← starts_recoverEach_iff (fun _ => go_of_listed) listed works]
  exact ⟨fun starts => (mem_cons.1 starts).resolve_left
    fun same => RecoveryCall.noConfusion same,
    mem_cons_of_mem _⟩

/-- A job that works is started by the first run that lists it exactly where
no failing job is listed before it. -/
theorem startsEach_iff (now : Nat → Nat) (staleNodeAge : Nat) (runs : Nat → Database) :
  StartsEach resetFails startFails now staleNodeAge runs ↔
    ∀ jobID, ¬ Fails resetFails startFails jobID → ∀ first,
      Listed (runs first) jobID → (∀ run < first, ¬ Listed (runs run) jobID) →
      ∀ other ∈ ((Go.listRecoverableGoJobs (runs first)).map JobView.id).takeWhile (· ≠ jobID),
        ¬ Fails resetFails startFails other := by
  exact forall₅_congr fun jobID works first listed _ => starts_iff works listed

end

def twoJobs : Database :=
  (exec { calm with now := 1, id := 2, nodeIDs := [3, 4] }
    (.createGoJob (chain "transcode")) (chainWorld "transcode")).2.database

/-- As long as resetting the job submitted first fails, no run starts the
other one. -/
theorem failing_job_starves : ∃ runs : Nat → Database,
  (∀ run, Listed (runs run) 1 ∧ Listed (runs run) 2) ∧
    ¬ Fails (fun jobID => jobID = 1) (fun _ => false) 2 ∧
    ∀ run, ¬ Starts (fun jobID => jobID = 1) (fun _ => false) run 0 (runs run) 2 := by
  have order : (Go.listRecoverableGoJobs twoJobs).map JobView.id = [1, 2] := by decide +kernel
  have listed : Listed twoJobs 1 ∧ Listed twoJobs 2 := by simp [Listed, order]
  have works : ¬ Fails (fun jobID => jobID = 1) (fun _ => false) 2 := by simp [Fails]
  refine ⟨fun _ => twoJobs, fun _ => listed, works, fun run starts => ?_⟩
  rw [starts_iff works listed.2, order] at starts
  simp [Fails] at starts

end RecoveryRunner

end VideoProcess.Go
