import Mathlib.Logic.Function.Basic
import Mathlib.Logic.Relation

/-! Transactions that lock rows, statement by statement, and keep every lock
until they end. -/

namespace VideoProcess

open Relation List

variable {ι Statement Row Data : Type}

theorem not_transGen_self (level : ι → Nat) (rises : ∀ {i j k}, W i j → W j k → level i ≤ level j)
  (strict : ∀ {i j k l}, W i j → W j k → W k l →
    level i = level j → level j = level k → False) (i : ι) :
  ¬ TransGen W i i := by
  intro cycle
  have climbs : ∀ {i j k}, ReflTransGen W i j → W j k → level i ≤ level j := by
    intro i j k path next
    induction path generalizing k with
    | refl => exact Nat.le_refl _
    | tail _ edge ih => exact Nat.le_trans (ih edge) (rises edge next)
  obtain ⟨_, first, toI⟩ := TransGen.head'_iff.mp cycle
  obtain ⟨_, second, toJ⟩ := TransGen.head'_iff.mp (.tail' toI first)
  obtain ⟨_, third, -⟩ := TransGen.head'_iff.mp (.tail' toJ second)
  exact strict first second third (Nat.le_antisymm (rises first second) (climbs toI first))
    (Nat.le_antisymm (rises second third) (climbs toJ second))

/-- What statements lock, and in which order. -/
structure Locking (Statement Row Data : Type) where
  select : Data → Statement → List Row
  rank : Statement → Nat
  /-- Statements whose rows are locked before those of a statement. -/
  fences : Statement → List Statement
  /-- What a transaction may write that has locked some rows. -/
  Writes : List Row → Data → Data → Prop
  stable : Writes held data written →
    (∀ fence ∈ fences statement, ∀ row ∈ select data fence, row ∉ held) →
    select written statement = select data statement

structure Session (Statement Row : Type) where
  passed : List Statement := []
  ahead : List Statement := []
  held : List Row := []
  pending : Option Row := none

structure Sessions (ι Statement Row Data : Type) where
  data : Data
  session : ι → Session Statement Row

def Session.Begun (session : Session Statement Row) (statement : Statement) : Prop :=
  statement ∈ session.ahead.head? ∨ statement ∈ session.passed

namespace Locking

section

variable (locking : Locking Statement Row Data)

/-- Fences come first, and ranks rise. -/
def Ordered (mine : Statement → Prop) : List Statement → List Statement → Prop
  | _, [] => True
  | passed, statement :: rest =>
    mine statement ∧ locking.fences statement ⊆ passed ∧
      (∀ earlier ∈ passed, locking.rank earlier < locking.rank statement) ∧
      Ordered mine (statement :: passed) rest

structure SoundSession (mine : Statement → Prop) (data : Data)
  (session : Session Statement Row) : Prop where
  ordered : locking.Ordered mine session.passed session.ahead
  fenced : ∀ statement ∈ session.passed, mine statement ∧ locking.fences statement ⊆ session.passed
  locked : ∀ statement ∈ session.passed, locking.select data statement ⊆ session.held
  selected : ∀ row ∈ session.held,
    ∃ statement, session.Begun statement ∧ row ∈ locking.select data statement
  waiting : ∀ row ∈ session.pending, row ∉ session.held ∧
    ∃ statement ∈ session.ahead.head?, row ∈ locking.select data statement

structure Sound (mine : ι → Statement → Prop) (state : Sessions ι Statement Row Data) : Prop where
  session : ∀ i, locking.SoundSession (mine i) state.data (state.session i)
  exclusive : ∀ {i j row}, row ∈ (state.session i).held → row ∈ (state.session j).held → i = j

end

section

variable {locking : Locking Statement Row Data} {mine : Statement → Prop}
  {data written : Data} {session : Session Statement Row}
  {current statement : Statement} {held : List Row}

theorem SoundSession.idle (ordered : locking.Ordered mine [] ahead) :
  locking.SoundSession mine data { ahead } := ⟨ordered, by simp, by simp, by simp, by simp⟩

section

variable (sound : locking.SoundSession mine data session)

include sound

theorem SoundSession.ordered_current (now : current ∈ session.ahead.head?) :
  ∃ rest, session.ahead = current :: rest ∧
    locking.Ordered mine session.passed (current :: rest) := by
  obtain ⟨rest, ahead⟩ := head?_eq_some_iff.mp now
  exact ⟨rest, ahead, ahead ▸ sound.ordered⟩

theorem SoundSession.begun (begun : session.Begun statement) :
  mine statement ∧ locking.fences statement ⊆ session.passed := by
  obtain now | earlier := begun
  · obtain ⟨_, -, belongs, fenced, -⟩ := sound.ordered_current now
    exact ⟨belongs, fenced⟩
  · exact sound.fenced statement earlier

theorem SoundSession.eq_or_rank_lt (now : current ∈ session.ahead.head?)
  (begun : session.Begun statement) :
  statement = current ∨ locking.rank statement < locking.rank current := by
  obtain same | earlier := begun
  · exact .inl (Option.mem_unique same now)
  · obtain ⟨_, -, -, -, lower, -⟩ := sound.ordered_current now
    exact .inr (lower statement earlier)

theorem SoundSession.of_writes (writes : locking.Writes held data written)
  (apart : ∀ row ∈ session.held, row ∉ held) :
  locking.SoundSession mine written session := by
  have same : ∀ statement, session.Begun statement →
    locking.select written statement = locking.select data statement := by
    intro statement begun
    refine locking.stable writes fun fence member row selected => ?_
    exact apart row (sound.locked fence ((sound.begun begun).2 member) selected)
  refine { sound with locked := ?_, selected := ?_, waiting := ?_ }
  · intro statement member
    rw [same statement (.inr member)]
    exact sound.locked statement member
  · intro row member
    obtain ⟨statement, begun, selected⟩ := sound.selected row member
    exact ⟨statement, begun, same statement begun ▸ selected⟩
  · intro row pending
    obtain ⟨fresh, statement, now, _⟩ := sound.waiting row pending
    refine ⟨fresh, statement, now, ?_⟩
    rwa [same statement (.inl now)]

end

end

def Waits (state : Sessions ι Statement Row Data) (i j : ι) : Prop :=
  ∃ row ∈ (state.session i).pending, row ∈ (state.session j).held

/-- The statements that ask for a row and that have locked it. -/
structure Blocks (locking : Locking Statement Row Data)
  (state : Sessions ι Statement Row Data) (i j : ι)
  (asking holding : Statement) (row : Row) : Prop where
  current : asking ∈ (state.session i).ahead.head?
  fresh : row ∉ (state.session i).held
  asked : row ∈ locking.select state.data asking
  begun : (state.session j).Begun holding
  held : row ∈ (state.session j).held
  selected : row ∈ locking.select state.data holding

variable {locking : Locking Statement Row Data} {mine : ι → Statement → Prop}
  {state : Sessions ι Statement Row Data}

theorem Sound.blocks (sound : locking.Sound mine state) (waits : Waits state i j) :
  ∃ asking holding row, locking.Blocks state i j asking holding row := by
  obtain ⟨row, pending, held⟩ := waits
  obtain ⟨fresh, asking, now, asked⟩ := (sound.session i).waiting row pending
  obtain ⟨holding, begun, selected⟩ := (sound.session j).selected row held
  exact ⟨asking, holding, row, now, fresh, asked, begun, held, selected⟩

/-- No transactions wait for each other in a cycle, if a row has one rank, and
statements of several rows that meet in a row are never both under way. -/
theorem Sound.not_cycle (sound : locking.Sound mine state) (same : ∀ {i j asking holding row},
  locking.Blocks state i j asking holding row →
  locking.rank asking = locking.rank holding)
  (apart : ∀ {i j asking holding row}, locking.Blocks state i j asking holding row →
    holding ∈ (state.session j).ahead.head? →
    (∃ other ∈ locking.select state.data asking, other ≠ row) →
    (∃ other ∈ locking.select state.data holding, other ≠ row) → False)
  (i : ι) : ¬ TransGen (Waits state) i i := by
  let level i := ((state.session i).ahead.head?.map locking.rank).getD 0
  have level_eq : ∀ {i statement}, statement ∈ (state.session i).ahead.head? →
    level i = locking.rank statement := by
    intro i statement current
    simp [level, Option.mem_def.mp current]
  refine not_transGen_self level ?_ ?_ i
  · intro i j k first second
    obtain ⟨_, _, _, blocked⟩ := sound.blocks first
    obtain ⟨_, _, _, nextBlocked⟩ := sound.blocks second
    rw [level_eq blocked.current, level_eq nextBlocked.current, same blocked]
    obtain rfl | lower := (sound.session j).eq_or_rank_lt nextBlocked.current blocked.begun
    · exact Nat.le_refl _
    · exact Nat.le_of_lt lower
  · intro i j k l first second third levelIJ levelJK
    obtain ⟨_, _, rowJ, blockedI⟩ := sound.blocks first
    obtain ⟨_, _, _, blockedJ⟩ := sound.blocks second
    obtain ⟨_, _, rowL, blockedK⟩ := sound.blocks third
    rw [level_eq blockedI.current, level_eq blockedJ.current, same blockedI] at levelIJ
    rw [level_eq blockedJ.current, level_eq blockedK.current, same blockedJ] at levelJK
    obtain rfl := ((sound.session j).eq_or_rank_lt blockedJ.current
      blockedI.begun).resolve_right (by omega)
    obtain rfl := ((sound.session k).eq_or_rank_lt blockedK.current
      blockedJ.begun).resolve_right (by omega)
    refine apart blockedJ blockedK.current ⟨rowJ, blockedI.selected, ?_⟩ ⟨rowL, blockedK.asked, ?_⟩
    · rintro rfl
      exact blockedJ.fresh blockedI.held
    · rintro rfl
      exact blockedK.fresh blockedJ.held

section

variable [DecidableEq ι] {script : Data → ι → List Statement}
  {after : Sessions ι Statement Row Data}

def set (state : Sessions ι Statement Row Data) (i : ι) (data : Data)
  (session : Session Statement Row) : Sessions ι Statement Row Data :=
  ⟨data, Function.update state.session i session⟩

/-- A statement requests the rows it selects one at a time, in any order, and
ends when all are locked. A transaction can be rolled back at any time, and a
caller may begin it again. -/
inductive Step (locking : Locking Statement Row Data) (script : Data → ι → List Statement)
  (state : Sessions ι Statement Row Data) : Sessions ι Statement Row Data → Prop
  | start (i : ι) (idle : state.session i = {}) :
    Step locking script state (set state i state.data { ahead := script state.data i })
  | request (i : ι) (row : Row)
    (current : (state.session i).ahead = statement :: rest)
    (free : (state.session i).pending = none)
    (selected : row ∈ locking.select state.data statement)
    (fresh : row ∉ (state.session i).held) :
    Step locking script state
      (set state i state.data { state.session i with pending := some row })
  | grant (i : ι) (waiting : (state.session i).pending = some row)
    (free : ∀ j, row ∉ (state.session j).held) :
    Step locking script state (set state i state.data { state.session i with
      held := row :: (state.session i).held, pending := none })
  | advance (i : ι) (statement : Statement)
    (current : (state.session i).ahead = statement :: rest)
    (free : (state.session i).pending = none)
    (locked : locking.select state.data statement ⊆ (state.session i).held) :
    Step locking script state (set state i state.data { state.session i with
      passed := statement :: (state.session i).passed, ahead := rest })
  | finish (i : ι)
    (writes : locking.Writes (state.session i).held state.data written) :
    Step locking script state (set state i written {})

theorem Sound.set (sound : locking.Sound mine state) {i : ι} {data : Data}
  {session : Session Statement Row}
  (kept : locking.SoundSession (mine i) data session)
  (others : ∀ j ≠ i, locking.SoundSession (mine j) data (state.session j))
  (exclusive : ∀ row ∈ session.held, ∀ j ≠ i, row ∉ (state.session j).held) :
  locking.Sound mine (set state i data session) := by
  constructor
  · intro j
    by_cases same : j = i
    · subst same
      simpa [Locking.set] using kept
    · simpa [Locking.set, same] using others j same
  · intro j k row atJ atK
    by_cases isJ : j = i <;> by_cases isK : k = i <;>
      simp [Locking.set, isJ, isK] at atJ atK ⊢
    · exact absurd atK (exclusive row atJ k isK)
    · exact absurd atJ (exclusive row atK j isJ)
    · exact sound.exclusive atJ atK

section

variable (ordered : ∀ data i, locking.Ordered (mine i) [] (script data i))

include ordered

theorem Sound.step (sound : locking.Sound mine state)
  (step : locking.Step script state after) : locking.Sound mine after := by
  have apart : ∀ i, ∀ row ∈ (state.session i).held, ∀ j ≠ i, row ∉ (state.session j).held :=
    fun i row held j other taken => other (sound.exclusive taken held)
  have kept : ∀ i, ∀ j ≠ i, locking.SoundSession (mine j) state.data (state.session j) :=
    fun _ j _ => sound.session j
  cases step with
  | start i => exact sound.set (.idle (ordered _ _)) (kept i) (by simp)
  | request i _ current _ selected fresh =>
    refine sound.set { sound.session i with waiting := ?_ } (kept i) (apart i)
    rintro _ ⟨⟩
    exact ⟨fresh, _, by simp [current], selected⟩
  | grant i waiting free =>
    have own := sound.session i
    refine sound.set ⟨own.ordered, own.fenced, ?_, ?_, by simp⟩ (kept i) ?_
    · intro statement member
      exact List.Subset.trans (own.locked statement member) (subset_cons_self _ _)
    · intro held member
      obtain rfl | earlier := mem_cons.mp member
      · obtain ⟨-, statement, current, selected⟩ := own.waiting held waiting
        exact ⟨statement, .inl current, selected⟩
      · exact own.selected held earlier
    · intro held member j other
      obtain rfl | earlier := mem_cons.mp member
      · exact free j
      · exact apart i held earlier j other
  | advance i statement current free locked =>
    have own := sound.session i
    obtain ⟨belongs, fenced⟩ := own.begun (.inl (by simp [current] : statement ∈ _))
    refine sound.set ⟨?_, ?_, ?_, ?_, by simp [free]⟩ (kept i) (apart i)
    · have ordered := own.ordered
      rw [current] at ordered
      exact ordered.2.2.2
    · intro earlier member
      obtain rfl | member := mem_cons.mp member
      · exact ⟨belongs, List.Subset.trans fenced (subset_cons_self _ _)⟩
      · obtain ⟨belongs, fenced⟩ := own.fenced earlier member
        exact ⟨belongs, List.Subset.trans fenced (subset_cons_self _ _)⟩
    · intro earlier member
      obtain rfl | member := mem_cons.mp member
      · exact locked
      · exact own.locked earlier member
    · intro row held
      obtain ⟨earlier, member, selected⟩ := own.selected row held
      refine ⟨earlier, .inr ?_, selected⟩
      simpa [Session.Begun, current, eq_comm] using member
  | finish i writes =>
    refine sound.set (.idle trivial) (fun j other => ?_) (by simp)
    exact (sound.session j).of_writes writes fun row held taken =>
      apart j row held i (Ne.symm other) taken

theorem sound_of_reached {data : Data}
  (reached : ReflTransGen (locking.Step script) ⟨data, fun _ => {}⟩ state) :
  locking.Sound mine state := by
  induction reached with
  | refl => exact ⟨fun _ => .idle trivial, by simp⟩
  | tail _ step ih => exact ih.step ordered step

end

end

end Locking

end VideoProcess
