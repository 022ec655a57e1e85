import Mathlib.Tactic.Basic

namespace VideoProcess.Program

/-! Programs that talk to a shared service through typed requests, as trees of
their requests and of what follows every reply. -/

/-- The requests a service answers, and the type of each answer. -/
structure Interface where
  Call : Type
  Reply : Call → Type

inductive Prog (I : Interface) (α : Type) : Type where
  | done (result : α) : Prog I α
  | call (request : I.Call) (next : I.Reply request → Prog I α) : Prog I α

variable {I : Interface} {α β γ : Type}

namespace Prog

def bind : Prog I α → (α → Prog I β) → Prog I β
  | .done result, rest => rest result
  | .call request next, rest => .call request fun reply => (next reply).bind rest

instance : Monad (Prog I) where
  pure := .done
  bind := bind

@[simp] theorem pure_eq_done (result : α) : (pure result : Prog I α) = .done result := rfl

@[simp] theorem bind_done (result : α) (rest : α → Prog I β) :
  (.done result >>= rest) = rest result := rfl

@[simp] theorem bind_call (request : I.Call)
  (next : I.Reply request → Prog I α) (rest : α → Prog I β) :
  (.call request next >>= rest) = .call request fun reply => next reply >>= rest := rfl

theorem bind_assoc (program : Prog I α) (first : α → Prog I β) (second : β → Prog I γ) :
  (program >>= first) >>= second = program >>= fun result => first result >>= second := by
  induction program with
  | done => rfl
  | call _ _ ih => simp only [bind_call, ih]

/-- The program with every request carried out by another program. -/
def expand {J : Interface} (implement : (request : I.Call) → Prog J (I.Reply request)) :
  Prog I α → Prog J α
  | .done result => .done result
  | .call request next => implement request >>= fun reply => (next reply).expand implement

def requests (answer : (request : I.Call) → I.Reply request) : Prog I α → List I.Call
  | .done _ => []
  | .call request next => request :: (next (answer request)).requests answer

end Prog

/-! A contract says, for a state of the reader's choice, which requests may be
made and which replies and next states can follow. A running service, a
protocol that programs have to keep and an abstraction of either are all
contracts; `Prog.wp` is the one weakest precondition they share. -/

structure Contract (I : Interface) (σ : Type) where
  requires : σ → I.Call → Prop
  ensures : σ → (request : I.Call) → I.Reply request → σ → Prop

variable {σ τ : Type}

namespace Prog

/-- Every request the program makes is permitted, and every complete execution
ends in `post`. -/
def wp (contract : Contract I σ) : Prog I α → (α → σ → Prop) → σ → Prop
  | .done result, post, state => post result state
  | .call request next, post, state =>
    contract.requires state request ∧ ∀ reply after, contract.ensures state request reply after →
      (next reply).wp contract post after

variable {contract : Contract I σ} {post : α → σ → Prop} {state : σ}

@[simp] theorem wp_done :
  (Prog.done result : Prog I α).wp contract post state ↔ post result state := Iff.rfl

variable {program : Prog I α}

theorem wp_bind {post : β → σ → Prop} :
  (program >>= rest).wp contract post state ↔ program.wp contract
    (fun result after => (rest result).wp contract post after) state := by
  induction program generalizing state with
  | done => rfl
  | call _ _ ih => simp only [bind_call, wp, ih]

theorem wp_mono (holds : program.wp contract post state)
  (implies : ∀ result after, post result after → weaker result after) :
  program.wp contract weaker state := by
  induction program generalizing state with
  | done result => exact implies result state holds
  | call _ _ ih =>
    exact ⟨holds.1, fun reply after step =>
      ih reply (holds.2 reply after step)⟩

end Prog

abbrev Fallible (I : Interface) (α : Type) := ExceptT String (Prog I) α

namespace Fallible

/-- A value satisfies `post`, an error leaves a state in `failed`. -/
def Outcome (post : α → σ → Prop) (failed : σ → Prop) : Except String α → σ → Prop
  | .ok result, state => post result state
  | .error _, state => failed state

def safe (contract : Contract I σ) (program : Fallible I α)
  (post : α → σ → Prop) (failed : σ → Prop) (state : σ) : Prop :=
  Prog.wp contract program.run (Outcome post failed) state

variable {contract : Contract I σ} {post : α → σ → Prop} {failed : σ → Prop} {state : σ}

theorem safe_pure (holds : post result state) :
  safe contract (pure result) post failed state := holds

theorem safe_throw (holds : failed state) :
  safe contract (throw message : Fallible I α) post failed state := holds

variable {program : Fallible I α}

theorem safe_bind {post : β → σ → Prop} (holds : safe contract program
  (fun result after => safe contract (rest result) post failed after)
  failed state) :
  safe contract (program >>= rest) post failed state := by
  change Prog.wp contract (program.run >>= ExceptT.bindCont rest) _ state
  rw [Prog.wp_bind]
  refine Prog.wp_mono holds ?_
  intro result after outcome
  cases result with
  | ok | error => exact outcome

theorem safe_ite [Decidable condition] (holds : condition → safe contract first post failed state)
  (fails : ¬ condition → safe contract second post failed state) :
  safe contract (if condition then first else second) post failed state := by
  split
  · exact holds ‹_›
  · exact fails ‹_›

theorem safe_mono (holds : safe contract program post failed state)
  (value : ∀ result after, post result after → weaker result after)
  (error : ∀ after, failed after → failed' after) :
  safe contract program weaker failed' state := by
  refine Prog.wp_mono holds ?_
  intro result after outcome
  cases result with
  | ok result => exact value result after outcome
  | error => exact error after outcome

/-- The outcome of a program as a value: an error can be looked at. -/
def result (program : Fallible I α) : Fallible I (Except String α) :=
  ExceptT.mk <| program.run >>= fun outcome => .done (.ok outcome)

theorem safe_result {post : Except String α → σ → Prop}
  (holds : safe contract program (fun value => post (.ok value))
    (fun after => ∀ message, post (.error message) after) state) :
  safe contract program.result post failed state := by
  change Prog.wp contract (program.run >>= _) _ state
  rw [Prog.wp_bind]
  refine Prog.wp_mono holds ?_
  intro outcome after satisfied
  cases outcome with
  | ok => exact satisfied
  | error message => exact satisfied message

def send (request : I.Call) (reply : I.Reply request = Except String α) : Fallible I α :=
  ExceptT.mk (.call request fun answer => .done (cast reply answer))

def ask (request : I.Call) : Fallible I (I.Reply request) :=
  ExceptT.mk (.call request fun answer => .done (.ok answer))

def require (outcome : Except String α) : Fallible I α := ExceptT.mk (.done outcome)

def withContext (context : String) (program : Fallible I α) : Fallible I α :=
  ExceptT.mk <| program.run >>= fun outcome =>
    .done (outcome.mapError (context ++ ·))

theorem safe_withContext (holds : safe contract program post failed state) :
  safe contract (program.withContext context) post failed state := by
  change Prog.wp contract (program.run >>= _) _ state
  rw [Prog.wp_bind]
  refine Prog.wp_mono holds ?_
  intro outcome after satisfied
  cases outcome with
  | ok | error => exact satisfied

end Fallible

def asking (permits : I.Call → Prop) : Contract I Unit where
  requires _ request := permits request
  ensures _ _ _ _ := True

namespace Fallible

variable {permits : I.Call → Prop}

def asks (permits : I.Call → Prop) (program : Fallible I α) : Prop :=
  safe (asking permits) program (fun _ _ => True) (fun _ => True) ()

theorem asks_pure {result : α} : asks permits (pure result : Fallible I α) := trivial

theorem asks_throw : asks permits (throw message : Fallible I α) := trivial

theorem asks_require (outcome : Except String α) : asks permits (require outcome) := by
  cases outcome <;> trivial

theorem asks_send (permitted : permits request) : asks permits (send request reply) := by
  refine ⟨permitted, fun answer _ _ => ?_⟩
  have checked : asks permits (require (cast reply answer)) := asks_require _
  exact checked

theorem asks_ask (permitted : permits request) : asks permits (ask request) :=
  ⟨permitted, fun _ _ _ => trivial⟩

variable {program : Fallible I α}

theorem asks_bind (first : asks permits program) (next : ∀ result, asks permits (rest result)) :
  asks permits (program >>= rest) :=
  safe_bind (safe_mono first (fun result _ _ => next result) fun _ holds => holds)

theorem asks_result (holds : asks permits program) : asks permits program.result :=
  safe_result (safe_mono holds (fun _ _ _ => trivial) fun _ _ _ => trivial)

end Fallible

theorem Prog.wp_of_asking {permits : I.Call → Prop} {contract : Contract I σ}
  {keeps : σ → σ → Prop} (refl : ∀ state, keeps state state)
  (trans : ∀ {first second third}, keeps first second → keeps second third → keeps first third)
  (allowed : ∀ {state request}, permits request → contract.requires state request)
  (kept : ∀ {state request reply after}, permits request →
    contract.ensures state request reply after → keeps state after)
  {program : Prog I α} {post : α → Unit → Prop}
  (asks : program.wp (asking permits) post ()) (state : σ) :
  program.wp contract (fun _ after => keeps state after) state := by
  induction program generalizing state with
  | done => exact refl state
  | call _ _ ih =>
    refine ⟨allowed asks.1, ?_⟩
    intro reply after step
    apply Prog.wp_mono (ih reply (asks.2 reply () trivial) after)
    intro result final held
    exact trans (kept asks.1 step) held

theorem bind_eq_ok {rest : α → Except ε β} (succeeded : (first >>= rest) = .ok result) :
  ∃ middle, first = .ok middle ∧ rest middle = .ok result := by
  cases first with
  | error => cases succeeded
  | ok middle => exact ⟨middle, rfl, succeeded⟩

variable {items : List α}

/-- The rule of a loop that may fail: what every round preserves of the items
that it has taken. -/
theorem foldlM_rule {σ : Type} {step : σ → α → Except ε σ}
  (kept : List α → σ → Prop) {first last : σ} (start : kept [] first)
  (keeps : ∀ front item before after, kept front before →
    step before item = .ok after → kept (front ++ [item]) after)
  (ran : items.foldlM step first = .ok last) : kept items last := by
  suffices continued : ∀ (rest front : List α) (middle : σ),
    kept front middle → rest.foldlM step middle = .ok last →
      kept (front ++ rest) last from continued items [] first start ran
  intro rest
  induction rest with
  | nil =>
    intro front middle held ran
    cases ran
    rwa [List.append_nil]
  | cons item _ ih =>
    intro front middle held ran
    rw [List.foldlM_cons] at ran
    obtain ⟨after, stepped, ran⟩ := bind_eq_ok ran
    rw [List.append_cons]
    exact ih _ after (keeps front item middle after held stepped) ran

theorem exists_of_mapM {f : α → Except ε β}
  (ran : items.mapM f = .ok results) {item : α} (member : item ∈ items) :
  ∃ result ∈ results, f item = .ok result := by
  induction items generalizing results with
  | nil => cases member
  | cons _ _ ih =>
    rw [List.mapM_cons] at ran
    obtain ⟨first, headed, ran⟩ := bind_eq_ok ran
    obtain ⟨others, rested, ran⟩ := bind_eq_ok ran
    cases ran
    rcases List.mem_cons.1 member with rfl | later
    · exact ⟨first, List.mem_cons_self, headed⟩
    · obtain ⟨result, among, found⟩ := ih rested later
      exact ⟨result, List.mem_cons_of_mem first among, found⟩

end VideoProcess.Program
