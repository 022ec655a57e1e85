import VideoProcess.Program.Basic
import Mathlib.Logic.Relation

namespace VideoProcess.Program

variable {I : Interface} {α σ ε γ δ : Type}

theorem mem_of_others {other : α}
  (member : other ∈ front ++ back) : other ∈ front ++ own :: back := by
  simp only [List.mem_append, List.mem_cons] at member ⊢
  exact member.imp_right .inr

/-! A machine answers requests. What its environment decides (clock readings,
generated identifiers, injected failures) is the choice handed to every
request. -/

structure Machine (I : Interface) (σ ε : Type) where
  exec : ε → (request : I.Call) → σ → I.Reply request × σ

/-! A fault of the environment makes a request fail, with or without its having
taken effect. -/

structure Fault where
  message : String
  effective : Bool

def interrupt (fault : Option Fault) (before : σ)
  (outcome : Except String α × σ) : Except String α × σ :=
  match fault with
  | none => outcome
  | some fault => (.error fault.message, if fault.effective then outcome.2 else before)

section

variable {before : σ}

theorem interrupt_eq_ok {result : α} (succeeded : (interrupt fault before outcome).1 = .ok result) :
  interrupt fault before outcome = outcome := by
  cases fault with
  | none => rfl
  | some => cases succeeded

theorem interrupt_state (property : σ → Prop) (unchanged : property before)
  (changed : property outcome.2) :
  property (interrupt fault before outcome).2 := by
  unfold interrupt
  split
  · exact changed
  · dsimp only
    split
    · exact changed
    · exact unchanged

end

namespace Machine

variable (M : Machine I σ ε) (allowed : I.Call → ε → Prop)

def contract : Contract I σ where
  requires _ _ := True
  ensures state request reply after :=
    ∃ choice, allowed request choice ∧ M.exec choice request state = (reply, after)

/-- A complete execution of one program with nothing in between. -/
inductive Runs : Prog I α → σ → α → σ → Prop
  | done (result : α) (state : σ) : Runs (.done result) state result state
  | call {request : I.Call} {next : I.Reply request → Prog I α}
    {state after : σ} {result : α} (choice : ε)
    (permitted : allowed request choice)
    (rest : Runs (next (M.exec choice request state).1)
      (M.exec choice request state).2 result after) :
    Runs (.call request next) state result after

variable {M allowed} {state after : σ} {other : I.Call → ε → Prop}

theorem wp_contract_iff : program.wp (M.contract allowed) post state ↔
  ∀ result after, M.Runs allowed program state result after → post result after := by
  constructor
  · intro holds result after run
    induction run with
    | done => exact holds
    | call choice permitted _ ih => exact ih (holds.2 _ _ ⟨choice, permitted, rfl⟩)
  · intro holds
    induction program generalizing state with
    | done => exact holds _ _ (.done _ _)
    | call _ _ ih =>
      refine ⟨trivial, ?_⟩
      rintro reply _ ⟨choice, permitted, executed⟩
      refine ih reply fun result final run => ?_
      refine holds result final (.call choice permitted ?_)
      rw [executed]
      exact run

theorem Runs.of_wp (run : M.Runs allowed program state result after)
  (holds : program.wp (M.contract allowed) post state) :
  post result after := wp_contract_iff.1 holds result after run

theorem Runs.returned {program : Fallible I α}
  (run : M.Runs allowed program.run state (.ok result) after)
  (post : α → σ → Prop)
  (holds : Fallible.safe (M.contract allowed) program post (fun _ => True)
    state) : post result after := run.of_wp holds

theorem Runs.ended {program : Fallible I α} {result : Except String α}
  (run : M.Runs allowed program.run state result after)
  (property : σ → Prop)
  (holds : Fallible.safe (M.contract allowed) program (fun _ => property)
    property state) : property after := by
  have outcome := run.of_wp holds
  cases result with
  | ok | error => exact outcome

def run (M : Machine I σ ε) (choose : I.Call → ε) : Prog I α → σ → α × σ
  | .done result, state => (result, state)
  | .call request next, state =>
    let answer := M.exec (choose request) request state
    M.run choose (next answer.1) answer.2

theorem runs_run (program : Prog I α) (state : σ)
  (permitted : ∀ request, allowed request (choose request)) :
  M.Runs allowed program state (M.run choose program state).1 (M.run choose program state).2 := by
  induction program generalizing state with
  | done result => exact .done result state
  | call request _ ih => exact .call (choose request) (permitted request) (ih _ _)

variable (choose : I.Call → ε)

theorem Runs.of_run (ran : M.run choose program state = (result, after))
  (permitted : ∀ request, allowed request (choose request)) :
  M.Runs allowed program state result after := by
  have runs : M.Runs allowed program state _ _ := runs_run program state permitted
  rwa [ran] at runs

theorem Runs.unique (fixed : ∀ request choice choice', permits request →
  allowed request choice → other request choice' →
  M.exec choice request = M.exec choice' request)
  (asks : program.wp (asking permits) post ())
  (first : M.Runs allowed program state result after)
  (second : M.Runs other program state result' after') :
  result = result' ∧ after = after' := by
  induction first with
  | done =>
    cases second
    exact ⟨rfl, rfl⟩
  | call choice permitted _ ih =>
    cases second with
    | call choice' permitted' rest' =>
      rw [← fixed _ choice choice' asks.1 permitted permitted'] at rest'
      exact ih (asks.2 _ () trivial) rest'

private theorem Runs.bind (rest : α → Prog I γ) {result : γ}
  (run : M.Runs allowed (program >>= rest) state result after) :
  ∃ value middle, M.Runs allowed program state value middle ∧
    M.Runs allowed (rest value) middle result after := by
  induction program generalizing state with
  | done value => exact ⟨value, state, .done value state, run⟩
  | call _ _ ih =>
    cases run with
    | call choice permitted run =>
      obtain ⟨value, middle, first, second⟩ := ih _ run
      exact ⟨value, middle, .call choice permitted first, second⟩

theorem Runs.bind_both (fixed : ∀ request choice choice', permits request →
  allowed request choice → other request choice' →
  M.exec choice request = M.exec choice' request) {program : Fallible I α}
  (asks : program.asks permits) {result : Except String γ}
  (first : M.Runs allowed (program >>= rest).run state result after)
  (second : M.Runs other (program >>= rest).run state result' after') :
  (result = result' ∧ after = after') ∨
    ∃ value middle, M.Runs allowed program.run state (.ok value) middle ∧
      M.Runs allowed (rest value).run middle result after ∧
      M.Runs other (rest value).run middle result' after' := by
  obtain ⟨value, middle, started, continued⟩ := Runs.bind (ExceptT.bindCont rest) first
  obtain ⟨_, _, started', continued'⟩ := Runs.bind (ExceptT.bindCont rest) second
  obtain ⟨rfl, rfl⟩ := started.unique fixed asks started'
  cases value with
  | ok value => exact .inr ⟨value, middle, started, continued, continued'⟩
  | error =>
    cases continued
    cases continued'
    exact .inl ⟨rfl, rfl⟩

theorem exists_returned {program : Fallible I α} (post : α → σ → Prop)
  (permitted : ∀ request, allowed request (choose request))
  (holds : Fallible.safe (M.contract allowed) program post (fun _ => False) state) :
  ∃ result after, M.Runs allowed program.run state (.ok result) after ∧ post result after := by
  have runs : M.Runs allowed program.run state _ _ := runs_run program.run state permitted
  have outcome := runs.of_wp holds
  generalize M.run choose program.run state = reached at runs outcome
  obtain ⟨result, after⟩ := reached
  cases result with
  | error => exact outcome.elim
  | ok result => exact ⟨result, after, runs, outcome⟩

end Machine

/-! A pool of programs interleaves their requests. Every program in flight
carries a note, a function of its own requests and replies, and a hearing:
what the requests of the others have done since. Both are bookkeeping of the
observer and never influence the execution. -/

section

variable (I : Interface)

structure Observer (σ γ δ : Type) where
  note : γ → (request : I.Call) → I.Reply request → γ
  silent : δ
  /-- The hearing after a request of the program itself. -/
  resume : δ → (request : I.Call) → I.Reply request → δ
  /-- The hearing after a request of another program. -/
  hear : δ → σ → σ → δ

structure Thread (γ δ α : Type) where
  program : Prog I α
  note : γ
  heard : δ

structure Pool (σ γ δ α : Type) where
  state : σ
  threads : List (Thread I γ δ α)

/-- Which programs may start and with which first note, which requests may be
made with which choice, and which programs may be abandoned unfinished. -/
structure Rules (σ ε γ δ α : Type) where
  start : σ → Prog I α → γ → Prop
  call : γ → δ → I.Call → ε → σ → Prop
  abandon : Prog I α → Prop

end

namespace Pool

variable (M : Machine I σ ε) (O : Observer I σ γ δ)

def Thread.listen (O : Observer I σ γ δ) (before after : σ)
  (thread : Thread I γ δ α) : Thread I γ δ α :=
  { thread with heard := O.hear thread.heard before after }

/-- What the pool looks like after one request of the thread between `front`
and `back`. -/
def answered (state : σ) (front : List (Thread I γ δ α)) (note : γ)
  (heard : δ) (request : I.Call) (next : I.Reply request → Prog I α)
  (back : List (Thread I γ δ α)) (choice : ε) : Pool I σ γ δ α :=
  let answer := M.exec choice request state
  { state := answer.2
    threads := front.map (Thread.listen O state answer.2) ++
      ⟨next answer.1, O.note note request answer.1, O.resume heard request answer.1⟩ ::
      back.map (Thread.listen O state answer.2) }

inductive Step (R : Rules I σ ε γ δ α) : Pool I σ γ δ α → Pool I σ γ δ α → Prop
  | start {state : σ} {threads : List (Thread I γ δ α)}
    (program : Prog I α) (note : γ)
    (permitted : R.start state program note) :
    Step R ⟨state, threads⟩
      ⟨state, threads ++ [⟨program, note, O.silent⟩]⟩
  | call {state : σ} {front back : List (Thread I γ δ α)} {note : γ}
    {heard : δ} {request : I.Call} {next : I.Reply request → Prog I α}
    (choice : ε) (permitted : R.call note heard request choice state) :
    Step R ⟨state, front ++ ⟨.call request next, note, heard⟩ :: back⟩
      (answered M O state front note heard request next back choice)
  | finish {state : σ} {front back : List (Thread I γ δ α)} {note : γ}
    {heard : δ} (result : α) :
    Step R ⟨state, front ++ ⟨.done result, note, heard⟩ :: back⟩
      ⟨state, front ++ back⟩
  | abandon {state : σ} {front back : List (Thread I γ δ α)}
    {thread : Thread I γ δ α} (permitted : R.abandon thread.program) :
    Step R ⟨state, front ++ thread :: back⟩ ⟨state, front ++ back⟩

def Reachable (R : Rules I σ ε γ δ α) (initial : σ)
  (pool : Pool I σ γ δ α) : Prop := Relation.ReflTransGen (Step M O R) ⟨initial, []⟩ pool

def Thread.books (thread : Thread I γ δ α) : γ × δ := (thread.note, thread.heard)

@[simp] theorem books_mk (program : Prog I α) (note : γ) (heard : δ) :
  Thread.books ⟨program, note, heard⟩ = (note, heard) := rfl

def listenBooks (O : Observer I σ γ δ) (before after : σ) (books : γ × δ) : γ × δ :=
  (books.1, O.hear books.2 before after)

theorem books_listen (before after : σ) (threads : List (Thread I γ δ α)) :
  (threads.map (Thread.listen O before after)).map Thread.books =
    (threads.map Thread.books).map (listenBooks O before after) := by
  simp only [List.map_map]
  rfl

@[simp] theorem map_listenBooks_unit (O : Observer I σ γ Unit)
  (before after : σ) (books : List (γ × Unit)) :
  books.map (listenBooks O before after) = books := List.map_id' books

end Pool

/-! The invariant rule. Every program keeps a protocol, a contract over its own
notes; an invariant of the shared state and of all books is kept by every
request that the protocol permits. -/

namespace Pool

variable {M : Machine I σ ε} {O : Observer I σ γ δ} {R : Rules I σ ε γ δ α}

/-- The obligations of an invariant over the shared state and the books. -/
structure Invariant (M : Machine I σ ε) (O : Observer I σ γ δ)
  (R : Rules I σ ε γ δ α) (protocol : Contract I γ)
  (final : γ → Prop) (Inv : σ → List (γ × δ) → Prop) : Prop where
  start : ∀ {state books program note}, Inv state books → R.start state program note →
    program.wp protocol (fun _ => final) note ∧ Inv state (books ++ [(note, O.silent)])
  call : ∀ {state front note heard back request choice},
    Inv state (front ++ (note, heard) :: back) →
    protocol.requires note request → R.call note heard request choice state →
    let answer := M.exec choice request state
    protocol.ensures note request answer.1 (O.note note request answer.1) ∧
      Inv answer.2 (front.map (listenBooks O state answer.2) ++
        (O.note note request answer.1, O.resume heard request answer.1) ::
        back.map (listenBooks O state answer.2))
  leave : ∀ {state front note heard back}, final note →
    Inv state (front ++ (note, heard) :: back) → Inv state (front ++ back)
  abandon : ∀ {program : Prog I α} {note : γ}, R.abandon program →
    program.wp protocol (fun _ => final) note → final note

/-- The invariant together with every thread's promise to keep the protocol. -/
structure Kept (protocol : Contract I γ) (final : γ → Prop)
  (Inv : σ → List (γ × δ) → Prop) (pool : Pool I σ γ δ α) : Prop where
  invariant : Inv pool.state (pool.threads.map Thread.books)
  promises : ∀ thread ∈ pool.threads, thread.program.wp protocol (fun _ => final) thread.note

variable {protocol : Contract I γ} {final : γ → Prop} {Inv : σ → List (γ × δ) → Prop} {state : σ}
  {front back : List (Thread I γ δ α)} {before after : Pool I σ γ δ α}

private theorem Kept.leave (rule : Invariant M O R protocol final Inv)
  {thread : Thread I γ δ α} (settled : final thread.note)
  (kept : Kept protocol final Inv ⟨state, front ++ thread :: back⟩) :
  Kept protocol final Inv ⟨state, front ++ back⟩ := by
  constructor
  · have before := kept.invariant
    simp only [List.map_append, List.map_cons] at before ⊢
    exact rule.leave settled before
  · intro other member
    exact kept.promises other (mem_of_others member)

theorem Kept.calling (kept : Kept protocol final Inv
  ⟨state, front ++ ⟨.call request next, note, heard⟩ :: back⟩) :
  protocol.requires note request ∧ Inv state (front.map Thread.books ++
    (note, heard) :: back.map Thread.books) := by
  have promise := kept.promises ⟨.call request next, note, heard⟩ (by simp)
  have before := kept.invariant
  simp only [List.map_append, List.map_cons] at before
  exact ⟨promise.1, before⟩

private theorem Kept.call (rule : Invariant M O R protocol final Inv)
  {state : σ} {front back : List (Thread I γ δ α)} {note : γ} {heard : δ}
  {next : I.Reply request → Prog I α} {choice : ε}
  (permitted : R.call note heard request choice state)
  (kept : Kept protocol final Inv ⟨state, front ++ ⟨.call request next, note, heard⟩ :: back⟩) :
  Kept protocol final Inv (answered M O state front note heard request next back choice) := by
  have promise := kept.promises ⟨.call request next, note, heard⟩ (by simp)
  obtain ⟨replied, after⟩ := rule.call kept.calling.2 promise.1 permitted
  constructor
  · simpa only [answered, List.map_append, List.map_cons, books_listen, books_mk] using after
  · intro thread member
    simp only [answered, List.mem_append, List.mem_cons, List.mem_map] at member
    rcases member with ⟨other, member, rfl⟩ | rfl | ⟨other, member, rfl⟩
    · exact kept.promises other (by simp [member])
    · exact promise.2 _ _ replied
    · exact kept.promises other (by simp [member])

section

variable (rule : Invariant M O R protocol final Inv)

include rule

theorem Step.kept (step : Step M O R before after) (kept : Kept protocol final Inv before) :
  Kept protocol final Inv after := by
  cases step with
  | start _ _ permitted =>
    obtain ⟨promise, invariant⟩ := rule.start kept.invariant permitted
    constructor
    · simpa using invariant
    · intro thread member
      simp only [List.mem_append, List.mem_singleton] at member
      rcases member with member | rfl
      · exact kept.promises thread member
      · exact promise
  | call _ permitted => exact kept.call rule permitted
  | finish result => exact kept.leave rule (kept.promises ⟨.done result, _, _⟩ (by simp))
  | abandon permitted => exact kept.leave rule (rule.abandon permitted (kept.promises _ (by simp)))

theorem Reachable.kept (holds : Inv initial []) (reachable : Reachable M O R initial pool) :
  Kept protocol final Inv pool := by
  induction reachable with
  | refl => exact ⟨holds, by simp⟩
  | tail _ step ih => exact step.kept rule ih

theorem Reachable.promised (post : α → γ → Prop)
  (starts : ∀ {state program note}, R.start state program note → program.wp protocol post note)
  (holds : Inv initial []) (reachable : Reachable M O R initial pool) :
  ∀ thread ∈ pool.threads, thread.program.wp protocol post thread.note := by
  induction reachable with
  | refl => simp
  | tail earlier step ih =>
    have kept := Reachable.kept rule holds earlier
    intro thread member
    cases step with
    | start _ _ permitted =>
      simp only [List.mem_append, List.mem_singleton] at member
      rcases member with member | rfl
      · exact ih thread member
      · exact starts permitted
    | call _ permitted =>
      obtain ⟨allowed, before⟩ := kept.calling
      have replied := (rule.call before allowed permitted).1
      have promise := ih _ (List.mem_append_right _ List.mem_cons_self)
      simp only [answered, List.mem_append, List.mem_cons, List.mem_map] at member
      rcases member with ⟨other, member, rfl⟩ | rfl | ⟨other, member, rfl⟩
      · exact ih other (by simp [member])
      · exact promise.2 _ _ replied
      · exact ih other (by simp [member])
    | finish | abandon => exact ih thread (mem_of_others member)

end

theorem related {relation : σ → σ → Prop} (refl : ∀ state, relation state state)
  (trans : ∀ {first second third}, relation first second →
    relation second third → relation first third)
  (respects : ∀ choice request state, relation state (M.exec choice request state).2)
  (steps : Relation.ReflTransGen (Step M O R) before after) :
  relation before.state after.state := by
  induction steps with
  | refl => exact refl _
  | tail _ step ih =>
    apply trans ih
    cases step with
    | start => exact refl _
    | call choice => exact respects choice _ _
    | finish | abandon => exact refl _

/-! Schedules are finite lists of actions, so a run can be evaluated. The
programs of a schedule are named by labels, and the rules are checked as it is
played. -/

inductive Action (ε ι : Type) where
  | start (label : ι)
  | call (thread : Nat) (choice : ε)
  | finish (thread : Nat)
  | abandon (thread : Nat)

structure Checks (I : Interface) (σ ε γ δ α ι : Type) where
  program : ι → Prog I α
  note : ι → γ
  start : σ → ι → Bool
  call : γ → δ → I.Call → ε → σ → Bool
  abandon : Prog I α → Bool

structure Checks.Sound {ι : Type} (C : Checks I σ ε γ δ α ι) (R : Rules I σ ε γ δ α) : Prop where
  start : ∀ state label, C.start state label = true → R.start state (C.program label) (C.note label)
  call : ∀ note heard request choice state, C.call note heard request choice state = true →
    R.call note heard request choice state
  abandon : ∀ program, C.abandon program = true → R.abandon program

variable {ι : Type}

def act (M : Machine I σ ε) (O : Observer I σ γ δ) (C : Checks I σ ε γ δ α ι) :
  Action ε ι → Pool I σ γ δ α → Option (Pool I σ γ δ α)
  | .start label, pool =>
    if C.start pool.state label then
      some { pool with
        threads := pool.threads ++ [⟨C.program label, C.note label, O.silent⟩] }
    else none
  | .call index choice, pool =>
    match pool.threads.splitAt index with
    | (front, ⟨.call request next, note, heard⟩ :: back) =>
      if C.call note heard request choice pool.state then
        some (answered M O pool.state front note heard request next back
          choice)
      else none
    | _ => none
  | .finish index, pool =>
    match pool.threads.splitAt index with
    | (front, ⟨.done _, _, _⟩ :: back) => some { pool with threads := front ++ back }
    | _ => none
  | .abandon index, pool =>
    match pool.threads.splitAt index with
    | (front, thread :: back) =>
      if C.abandon thread.program then
        some { pool with threads := front ++ back }
      else none
    | _ => none

def play (M : Machine I σ ε) (O : Observer I σ γ δ) (C : Checks I σ ε γ δ α ι) :
  List (Action ε ι) → Pool I σ γ δ α → Option (Pool I σ γ δ α)
  | [], pool => some pool
  | action :: rest, pool => (act M O C action pool).bind (play M O C rest)

private theorem threads_of_splitAt {threads : List (Thread I γ δ α)}
  (split : threads.splitAt index = (front, back)) :
  threads = front ++ back := by
  rw [List.splitAt_eq] at split
  cases split
  exact (List.take_append_drop index threads).symm

variable {C : Checks I σ ε γ δ α ι}

theorem step_of_act (sound : C.Sound R) (acted : act M O C action before = some after) :
  Step M O R before after := by
  obtain ⟨state, _⟩ := before
  cases action with
  | start label =>
    obtain ⟨permitted, same⟩ := Option.ite_none_right_eq_some.1 acted
    cases same
    exact .start _ _ (sound.start state label permitted)
  | call _ choice =>
    simp only [act] at acted
    split at acted
    next split =>
      obtain ⟨permitted, same⟩ := Option.ite_none_right_eq_some.1 acted
      cases same
      cases threads_of_splitAt split
      exact .call choice (sound.call _ _ _ _ _ permitted)
    · cases acted
  | finish =>
    simp only [act] at acted
    split at acted
    next split =>
      cases acted
      cases threads_of_splitAt split
      exact .finish _
    · cases acted
  | abandon =>
    simp only [act] at acted
    split at acted
    next split =>
      obtain ⟨permitted, same⟩ := Option.ite_none_right_eq_some.1 acted
      cases same
      cases threads_of_splitAt split
      exact .abandon (sound.abandon _ permitted)
    · cases acted

theorem steps_of_play (sound : C.Sound R) (played : play M O C actions before = some after) :
  Relation.ReflTransGen (Step M O R) before after := by
  induction actions generalizing before with
  | nil =>
    cases played
    exact .refl
  | cons _ _ ih =>
    simp only [play, Option.bind_eq_some_iff] at played
    obtain ⟨_, acted, played⟩ := played
    exact .head (step_of_act sound acted) (ih played)

end Pool

end VideoProcess.Program
