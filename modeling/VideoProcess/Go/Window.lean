import VideoProcess.Go.Authority

namespace VideoProcess.Go

open Data Program List

/-! A window that is opened for one job. The guard is looked at when a job is
planned and never again. -/

namespace Window

def GuardedBy (world : World) (jobID : Uuid) : Prop :=
  world.database.schedule = ⟨.opened, some jobID⟩

instance (world : World) (jobID : Uuid) : Decidable (GuardedBy world jobID) :=
  inferInstanceAs (Decidable (_ = _))

/-- Every operation that handles an event of a job or has claimed its planning
does so for this job. -/
def OnlyFor (jobID : Uuid) (pool : Interleaved) : Prop :=
  ∀ thread ∈ pool.threads, ∀ other, thread.note.job = some other → other = jobID

/-- A window opens while no operation is at work for another job, and no event
of another job is taken up in it. -/
structure Respectful (before after : Interleaved) : Prop where
  step : Pool.Step machine observer unrestricted before after
  opening : ∀ jobID, GuardedBy after.state jobID →
    ¬ GuardedBy before.state jobID → OnlyFor jobID before
  events : ∀ jobID event, GuardedBy before.state jobID → after.threads = before.threads ++
    [⟨(Activity.handle event).program.run, (Activity.handle event).note, []⟩] →
    event.jobID = jobID

variable {world : World} {env : Env} {jobID other : Uuid}

theorem claim_guarded (claimed : (exec env (.claimGoJobPlanning other plan) world).1 = .ok true)
  (guarded : GuardedBy (exec env (.claimGoJobPlanning other plan) world).2
    jobID) : other = jobID := by
  cases found : jobDetail world.database other with
  | none =>
    unfold exec at claimed
    split at claimed
    · cases claimed
    · have absent : goJobRow? world.database other = none := by
        rw [jobDetail, Option.map_eq_none_iff] at found
        rw [goJobRow?, found, Option.filter_none]
      simp only [answer, claimGoJobPlanning, absent] at claimed
      cases claimed
  | some job =>
    have named := jobDetail_id found
    subst named
    have concerns : (Call.claimGoJobPlanning job.id plan).Concerns job := rfl
    have same : (exec env (.claimGoJobPlanning job.id plan)
      world).2.database.schedule = world.database.schedule :=
      exec_schedule env concerns
    have action := (claimGoJobPlanning_replied found claimed).2.1 rfl
    rw [GuardedBy, same] at guarded
    rw [guarded] at action
    by_contra different
    have parks : goJobPlanningActionFor ⟨.opened, some jobID⟩ job.id job.status ≠ .claim := by
      unfold goJobPlanningActionFor
      split
      · decide
      · simp [Ne.symm different]
    exact parks action

variable {before after pool : Interleaved}

def Exclusive (pool : Interleaved) : Prop :=
  ∀ jobID, GuardedBy pool.state jobID → OnlyFor jobID pool

theorem Respectful.exclusive (respects : Respectful before after)
  (exclusive : Exclusive before) : Exclusive after := by
  intro jobID guarded
  -- Whether the window was open before or opens now, nobody else is at work.
  have alone : OnlyFor jobID before := by
    by_cases open? : GuardedBy before.state jobID
    · exact exclusive jobID open?
    · exact respects.opening jobID guarded open?
  have events := respects.events jobID
  cases respects.step with
  | start _ _ permitted =>
    obtain ⟨activity, -, -, rfl, rfl⟩ := permitted
    intro thread member other authority
    rcases mem_append.1 member with old | new
    · exact alone thread old other authority
    · rw [mem_singleton.1 new] at authority
      cases activity with
      | handle event =>
        cases authority
        exact events event guarded rfl
      | _ => cases authority
  | @call state front back note heard request next env permitted =>
    have own : (⟨.call request next, note, heard⟩ : Thread storeInterface
      Note (List Uuid) (Except String Unit)) ∈
        front ++ ⟨.call request next, note, heard⟩ :: back := by simp
    intro thread member other authority
    simp only [Pool.answered, mem_append, mem_cons, mem_map] at member
    rcases member with ⟨old, present, rfl⟩ | rfl | ⟨old, present, rfl⟩
    · exact alone old (by simp [present]) other authority
    · change GuardedBy (exec env request state).2 jobID at guarded
      change (note.next request (exec env request state).1).job = some other at authority
      generalize replied : (exec env request state).1 = reply at authority
      cases nextJob request reply authority with
      | kept held => exact alone _ own other held
      | claimed => exact claim_guarded replied guarded
    · exact alone old (by simp [present]) other authority
  | finish | abandon =>
    intro thread member
    exact alone thread (mem_of_others member)

theorem exclusive_of_run (reached : Relation.ReflTransGen Respectful ⟨initial, []⟩ pool) :
  Pool.Reachable machine observer unrestricted initial pool ∧ Exclusive pool := by
  induction reached with
  | refl => exact ⟨.refl, fun _ _ _ none => absurd none not_mem_nil⟩
  | tail _ respects ih =>
    obtain ⟨steps, exclusive⟩ := ih
    exact ⟨steps.tail respects.step, respects.exclusive exclusive⟩

theorem invariant_unrestricted : Pool.Invariant machine observer unrestricted
  protocol (fun _ => True) fun world books => Coherent world books ∧ True :=
  invariant_coherent (fun _ => trivial) (fun starts => ⟨_, starts⟩)
    (fun _ _ _ => trivial) (fun _ _ _ _ => trivial) (fun _ _ => trivial)
    fun _ _ => trivial

/-- In every run in which a window opens while no operation is at work for
another job, and no event of another job is taken up in it, tasks are dispatched
in the window for the node executions of its job only. -/
theorem guarded_window_exclusive {initial : World} (blank : initial.Blank)
  (reached : Relation.ReflTransGen Respectful ⟨initial, []⟩ pool)
  {payload : TaskPayload}
  {next : Except String Unit → Prog storeInterface (Except String Unit)}
  {note : Note} {heard : List Uuid}
  (member : ⟨.call (.dispatch payload) next, note, heard⟩ ∈ pool.threads)
  (guarded : GuardedBy pool.state jobID) : payload.jobID = jobID := by
  obtain ⟨steps, exclusive⟩ := exclusive_of_run reached
  have kept := Pool.Reachable.kept invariant_unrestricted ⟨.of_blank blank, trivial⟩ steps
  have permits : note.Permits (.dispatch payload) := (kept.promises _ member).1
  exact exclusive jobID guarded _ member _ (permits.allows rfl)

def guard (world : World) : Option Uuid :=
  if world.database.schedule.state = .opened then
    world.database.schedule.guardedJobID
  else none

theorem guard_eq (guarded : GuardedBy world jobID) : guard world = some jobID := by
  rw [guard, guarded, if_pos rfl]

theorem guardedBy_of_guard (guarded : guard world = some jobID) : GuardedBy world jobID := by
  obtain ⟨opened, named⟩ := Option.ite_none_right_eq_some.1 guarded
  unfold GuardedBy
  cases row : world.database.schedule
  rw [row] at opened named
  cases opened
  cases named
  rfl

def onlyFor (jobID : Uuid) (pool : Interleaved) : Bool :=
  pool.threads.all fun thread => thread.note.job.all fun other => other = jobID

theorem onlyFor_of_check (checked : onlyFor jobID pool = true) : OnlyFor jobID pool := by
  intro thread member other authority
  have held := all_eq_true.1 checked thread member
  rw [authority] at held
  exact of_decide_eq_true held

def attentive (before after : Interleaved) : Bool :=
  (guard before.state).all (fun jobID => onlyFor jobID after) &&
    (guard after.state).all fun jobID =>
      guard before.state = some jobID || onlyFor jobID before

def attend : List (Pool.Action Env Activity) → Interleaved → Option Interleaved
  | [], pool => some pool
  | action :: rest, pool =>
    (Pool.act machine observer free action pool).bind fun after =>
      if attentive pool after then attend rest after else none

theorem respectful_of_attentive (step : Pool.Step machine observer unrestricted before after)
  (checked : attentive before after = true) : Respectful before after := by
  obtain ⟨inside, opening⟩ := Bool.and_eq_true_iff.1 checked
  refine ⟨step, fun jobID guarded closed => ?_, fun jobID event guarded new => ?_⟩
  · rw [guard_eq guarded, Option.all_some, Bool.or_eq_true] at opening
    refine onlyFor_of_check (opening.resolve_left fun already => closed ?_)
    exact guardedBy_of_guard (of_decide_eq_true already)
  · rw [guard_eq guarded, Option.all_some] at inside
    have started := mem_append_right before.threads
      (mem_singleton.2 (Eq.refl (⟨(Activity.handle event).program.run,
        (Activity.handle event).note, []⟩ : Thread storeInterface Note
          (List Uuid) (Except String Unit))))
    rw [← new] at started
    exact onlyFor_of_check inside _ started event.jobID rfl

theorem run_of_attend (attended : attend actions before = some after) :
  Relation.ReflTransGen Respectful before after := by
  induction actions generalizing before with
  | nil =>
    cases attended
    exact .refl
  | cons _ _ ih =>
    obtain ⟨_, acted, attended⟩ := Option.bind_eq_some_iff.1 attended
    obtain ⟨checked, attended⟩ := Option.ite_none_right_eq_some.1 attended
    exact .head (respectful_of_attentive (Pool.step_of_act sound_free acted) checked) (ih attended)

def dispatching (pool : Interleaved) : Option TaskPayload :=
  pool.threads.findSome? fun thread =>
    match thread.program with
    | .call (.dispatch payload) _ => some payload
    | _ => none

theorem of_dispatching (found : dispatching pool = some payload) : ∃ next note heard,
  ⟨.call (.dispatch payload) next, note, heard⟩ ∈ pool.threads := by
  obtain ⟨⟨_, note, heard⟩, member, asks⟩ := exists_of_findSome?_eq_some found
  dsimp only at asks
  split at asks
  · cases asks
    exact ⟨_, note, heard, member⟩
  · cases asks

/-- A job waits for the window, which is opened for it; then it is started. -/
def waited : List (Pool.Action Env Activity) :=
  [.start (.setVideoScheduleState .closed), .call 0 calm, .finish 0,
    .start (.createGoJob (chain "transcode")), .call 0 calm, .finish 0,
    .start (.startJob 1), .call 0 calm, .call 0 calm, .call 0 calm, .finish 0,
    .start (.openVideoScheduleForJob 1), .call 0 calm, .finish 0,
    .start (.startJob 1), .call 0 calm, .call 0 calm, .call 0 calm,
    .call 0 calm, .call 0 calm]

theorem guarded_window_exclusive_chain : ∃ (pool : Interleaved)
  (payload : TaskPayload), World.initial.Blank ∧
  dispatching pool = some payload ∧ GuardedBy pool.state 1 ∧
  payload.jobID = 1 := by
  have ran : ((attend waited ⟨World.initial, []⟩).any fun pool =>
    (dispatching pool).isSome && decide (GuardedBy pool.state 1)) = true := by
    decide +kernel
  simp only [Option.any_eq_true_iff_get, Bool.and_eq_true, decide_eq_true_eq] at ran
  obtain ⟨reached, dispatches, guarded⟩ := ran
  have found := (Option.some_get dispatches).symm
  obtain ⟨_, _, _, member⟩ := of_dispatching found
  exact ⟨_, _, blank_initial, found, guarded, guarded_window_exclusive
    blank_initial (run_of_attend (Option.some_get reached).symm) member guarded⟩

def second : Env := { calm with id := 2, nodeIDs := [3, 4] }

/-- A node of the first job is claimed. The window is closed, a second job comes
to wait for it and the first one is cancelled; then the window is opened for the
second job. -/
def cancelledMeanwhile : List (Pool.Action Env Activity) :=
  [.start (.createGoJob (chain "transcode")), .call 0 calm, .finish 0,
    .start (.startJob 1), .call 0 calm, .call 0 calm, .call 0 calm,
    .call 0 calm, .call 0 calm,
    .start (.setVideoScheduleState .closed), .call 1 calm, .finish 1,
    .start (.createGoJob (chain "transcode")), .call 1 second, .finish 1,
    .start (.startJob 2), .call 1 calm, .call 1 calm, .call 1 calm, .finish 1,
    .start (.cancelJob 1), .call 1 calm, .finish 1,
    .start (.openVideoScheduleForJob 2), .call 1 calm, .finish 1]

/-- The task of the cancelled job is dispatched in the window of the other. -/
theorem dispatch_in_foreign_window : ∃ (pool : Interleaved) (payload : TaskPayload),
  Pool.Reachable machine observer unrestricted World.initial pool ∧
  (∃ next note heard, ⟨.call (.dispatch payload) next, note, heard⟩ ∈ pool.threads) ∧
  GuardedBy pool.state 2 ∧ payload.jobID = 1 := by
  have ran : ((Pool.play machine observer free cancelledMeanwhile
    ⟨World.initial, []⟩).any fun pool =>
      decide (GuardedBy pool.state 2) &&
      (dispatching pool).any fun payload => decide (payload.jobID = 1)) = true := by
    decide +kernel
  simp only [Option.any_eq_true_iff_get, Bool.and_eq_true, decide_eq_true_eq] at ran
  obtain ⟨reached, guarded, dispatches, other⟩ := ran
  exact ⟨_, _, Pool.steps_of_play sound_free (Option.some_get reached).symm,
    of_dispatching (Option.some_get dispatches).symm, guarded, other⟩

end Window

end VideoProcess.Go
