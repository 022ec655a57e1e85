import Mathlib.Data.List.Induction
import Mathlib.Data.List.TakeWhile

namespace VideoProcess.Data.Sweep

open List

/-! Passes over items that depend on each other: answered, which settles an item
on the spot, or sent away. -/

inductive Mark (β : Type) where
  | settled (value : β)
  | waiting
  | away
deriving DecidableEq

namespace Mark

variable {β : Type}

def value? : Mark β → Option β
  | settled value => some value
  | waiting | away => none

variable {mark : Mark β}

theorem value?_eq_some_iff {value : β} : mark.value? = some value ↔ mark = .settled value := by
  cases mark <;> simp [value?]

theorem isSome_value?_iff : mark.value?.isSome = true ↔ ∃ value, mark = .settled value := by
  cases mark <;> simp [value?]

end Mark

/-- An answer reads the values of what the item depends on and no others. -/
@[ext]
structure Rules (α β : Type) where
  depends : α → List α
  answer : α → (α → Option β) → Option β
  reads : ∀ item left right, (∀ other ∈ depends item, left other = right other) →
    answer item left = answer item right

variable {α β : Type}

def values (marks : α → Mark β) (item : α) : Option β := (marks item).value?

section

variable (rules : Rules α β) (marks : α → Mark β)

def Ready (item : α) : Prop :=
  (marks item = .waiting) ∧ ∀ other ∈ rules.depends item, (values marks other).isSome = true

instance [DecidableEq β] (rules : Rules α β) (marks : α → Mark β) (item : α) :
  Decidable (Ready rules marks item) := inferInstanceAs (Decidable (_ ∧ _))

def taken (item : α) : Mark β :=
  match rules.answer item (values marks) with
  | some value => .settled value
  | none => .away

def Complete : Prop := ∀ item, ¬ Ready rules marks item

end

section

variable {rules : Rules α β} {marks : α → Mark β} {item : α} {value : β}

theorem taken_ne_waiting : taken rules marks item ≠ .waiting := by
  unfold taken
  split <;> simp

theorem taken_eq_settled_iff : taken rules marks item = .settled value ↔
  rules.answer item (values marks) = some value := by
  unfold taken
  split <;> simp_all

theorem answer_of_settled {given : α → β} (settled : ∀ other ∈ rules.depends item,
  marks other = .settled (given other)) :
  rules.answer item (values marks) = rules.answer item fun other => some (given other) := by
  apply rules.reads
  intro other member
  exact Mark.value?_eq_some_iff.2 (settled other member)

theorem Ready.settled (ready : Ready rules marks item) (default : β) : ∀ other ∈ rules.depends item,
  marks other = .settled ((values marks other).getD default) := by
  intro other member
  obtain ⟨_, settled⟩ := Mark.isSome_value?_iff.1 (ready.2 other member)
  rw [settled]
  simp [values, settled, Mark.value?]

end

section

variable [DecidableEq α]

/-! What the outcome of a sweep is, from the marks before it. `Derives` closes
the settled items under answers, whatever the order; `Attains` lets an item
count on a waiting one only if that one is listed earlier. -/

inductive Derives (rules : Rules α β) (marks : α → Mark β) : α → β → Prop
  | settled {item : α} {value : β} (settled : marks item = .settled value) :
    Derives rules marks item value
  | answered {item : α} {value : β} (given : α → β)
    (waiting : marks item = .waiting)
    (derived : ∀ other ∈ rules.depends item, Derives rules marks other (given other))
    (answer : rules.answer item (fun other => some (given other)) = some value) :
    Derives rules marks item value

def earlier (listing : List α) (item : α) : List α := listing.takeWhile (· ≠ item)

inductive Attains (rules : Rules α β) (listing : List α) (marks : α → Mark β) : α → β → Prop
  | settled {item : α} {value : β} (settled : marks item = .settled value) :
    Attains rules listing marks item value
  | answered {item : α} {value : β} (given : α → β)
    (waiting : marks item = .waiting)
    (attained : ∀ other ∈ rules.depends item, Attains rules listing marks other (given other))
    (inOrder : ∀ other ∈ rules.depends item, marks other = .waiting →
      other ∈ earlier listing item)
    (answer : rules.answer item (fun other => some (given other)) = some value) :
    Attains rules listing marks item value

/-- The item waits, and finds all it depends on settled when its turn comes. -/
structure Due (rules : Rules α β) (listing : List α) (marks : α → Mark β) (item : α) : Prop where
  waiting : marks item = .waiting
  attained : ∀ other ∈ rules.depends item, ∃ value, Attains rules listing marks other value
  inOrder : ∀ other ∈ rules.depends item, marks other = .waiting → other ∈ earlier listing item

/-- No waiting item that could ever be taken up is listed before a waiting one
it depends on. -/
def Ordered (rules : Rules α β) (listing : List α) (marks : α → Mark β) : Prop :=
  ∀ item, marks item = .waiting →
    (∀ other ∈ rules.depends item, ∃ value, Derives rules marks other value) →
    ∀ other ∈ rules.depends item, marks other = .waiting → other ∈ earlier listing item

theorem earlier_append {front back : List α} {item : α}
  (new : item ∉ front) : earlier (front ++ item :: back) item = front := by
  unfold earlier
  rw [takeWhile_append_of_pos]
  · simp
  · intro other member
    have different : other ≠ item := by
      rintro rfl
      exact new member
    simpa using different

variable {rules : Rules α β} {listing : List α} {marks : α → Mark β} {item : α} {value : β}

theorem Attains.derives (attains : Attains rules listing marks item value) :
  Derives rules marks item value := by
  induction attains with
  | settled settled => exact .settled settled
  | answered given waiting _ _ answer ih => exact .answered given waiting ih answer

theorem Attains.settled_of_ne (attains : Attains rules listing marks item value)
  (busy : marks item ≠ .waiting) : marks item = .settled value := by
  cases attains with
  | settled settled => exact settled
  | answered _ waiting => exact absurd waiting busy

end

variable {front back items : List α} {item other : α}

theorem notMem_front {listing : List α}
  (listed : listing = front ++ item :: back) (nodup : listing.Nodup) :
  item ∉ front := by
  rw [listed] at nodup
  exact fun member =>
    (nodup_append.1 nodup).2.2 item member item (by simp) rfl

variable [DecidableEq α] [DecidableEq β]

def visit (rules : Rules α β) (marks : α → Mark β) (item : α) : α → Mark β :=
  if Ready rules marks item then
    Function.update marks item (taken rules marks item)
  else marks

def sweep (rules : Rules α β) (listing : List α) (marks : α → Mark β) : α → Mark β :=
  listing.foldl (visit rules) marks

variable {rules : Rules α β} {marks : α → Mark β} {listing : List α}

theorem visit_ready (ready : Ready rules marks item) : visit rules marks item =
  Function.update marks item (taken rules marks item) := by
  rw [visit, if_pos ready]

theorem visit_idle (idle : ¬ Ready rules marks item) : visit rules marks item = marks := by
  rw [visit, if_neg idle]

theorem visit_of_ne (different : other ≠ item) : visit rules marks item other = marks other := by
  by_cases ready : Ready rules marks item
  · rw [visit_ready ready, Function.update_of_ne different]
  · rw [visit_idle ready]

theorem visit_of_not_waiting (busy : marks other ≠ .waiting) :
  visit rules marks item other = marks other := by
  by_cases same : other = item
  · subst same
    rw [visit_idle fun ready => busy ready.1]
  · exact visit_of_ne same

theorem sweep_append (front back : List α) : sweep rules (front ++ back) marks =
  sweep rules back (sweep rules front marks) := by
  unfold sweep
  exact foldl_append

theorem sweep_of_notMem (absent : item ∉ listing) :
  sweep rules listing marks item = marks item := by
  induction listing generalizing marks with
  | nil => rfl
  | cons head rest ih =>
    rw [mem_cons, not_or] at absent
    calc sweep rules rest (visit rules marks head) item
      = visit rules marks head item := ih absent.2
      _ = marks item := visit_of_ne absent.1

theorem sweep_of_not_waiting (busy : marks item ≠ .waiting) :
  sweep rules listing marks item = marks item := by
  induction listing generalizing marks with
  | nil => rfl
  | cons head rest ih =>
    have kept : visit rules marks head item = marks item := visit_of_not_waiting busy
    calc sweep rules rest (visit rules marks head) item
      = visit rules marks head item := ih (kept ▸ busy)
      _ = marks item := kept

theorem settled_sweep_iff (listed : listing = front ++ back)
  (nodup : listing.Nodup) (item : α) (value : β) :
  sweep rules front marks item = .settled value ↔ Attains rules listing marks item value ∧
    (marks item = .waiting → item ∈ front) := by
  induction front using reverseRecOn generalizing back item value with
  | nil =>
    constructor
    · intro settled
      refine ⟨.settled settled, fun waiting => ?_⟩
      cases waiting.symm.trans settled
    · rintro ⟨attains, absent⟩
      exact attains.settled_of_ne fun waiting =>
        not_mem_nil (absent waiting)
  | append_singleton front last ih =>
    have before : listing = front ++ last :: back := by simpa using listed
    have ih := ih before
    have new : last ∉ front := notMem_front before nodup
    have turn : earlier listing last = front := before ▸ earlier_append new
    rw [sweep_append]
    change visit rules (sweep rules front marks) last item = _ ↔ _
    by_cases same : item = last
    · subst same
      have unvisited : sweep rules front marks item = marks item := sweep_of_notMem new
      by_cases waiting : marks item = .waiting
      · constructor
        · intro settled
          have ready : Ready rules (sweep rules front marks) item := by
            by_contra idle
            rw [visit_idle idle, unvisited, waiting] at settled
            cases settled
          rw [visit_ready ready, Function.update_self, taken_eq_settled_iff] at settled
          have collected := ready.settled value
          rw [answer_of_settled collected] at settled
          refine ⟨.answered _ waiting ?_ ?_ settled, by simp⟩
          · exact fun other member =>
              ((ih _ _).1 (collected other member)).1
          · rw [turn]
            exact fun other member =>
              ((ih _ _).1 (collected other member)).2
        · rintro ⟨attains, -⟩
          cases attains with
          | settled settled => cases waiting.symm.trans settled
          | answered given _ attained inOrder answer =>
            have collected : ∀ other ∈ rules.depends item, sweep rules front marks other =
              .settled (given other) := by
              intro other member
              apply (ih _ _).2
              exact ⟨attained other member, turn ▸ inOrder other member⟩
            have ready : Ready rules (sweep rules front marks) item :=
              ⟨unvisited.trans waiting, fun other member =>
                Mark.isSome_value?_iff.2 ⟨_, collected other member⟩⟩
            rw [visit_ready ready, Function.update_self,
              taken_eq_settled_iff, answer_of_settled collected]
            exact answer
      · rw [visit_of_not_waiting (unvisited ▸ waiting), ih item value]
        simp [waiting]
    · rw [visit_of_ne same, ih item value]
      simp [same]

section

variable (listed : listing = front ++ item :: back) (nodup : listing.Nodup)

include listed nodup

theorem ready_turn_iff : Ready rules (sweep rules front marks) item ↔
  Due rules listing marks item := by
  have new : item ∉ front := notMem_front listed nodup
  have unvisited : sweep rules front marks item = marks item := sweep_of_notMem new
  have turn : earlier listing item = front := listed ▸ earlier_append new
  have settled : ∀ other value, sweep rules front marks other = .settled value ↔
    Attains rules listing marks other value ∧ (marks other = .waiting → other ∈ front) :=
    settled_sweep_iff listed nodup
  constructor
  · rintro ⟨waiting, collected⟩
    have attained : ∀ other ∈ rules.depends item, ∃ value, Attains rules listing marks other value ∧
      (marks other = .waiting → other ∈ front) := by
      intro other member
      obtain ⟨value, found⟩ := Mark.isSome_value?_iff.1 (collected other member)
      exact ⟨value, (settled other value).1 found⟩
    refine ⟨unvisited ▸ waiting, fun other member => ?_, fun other member => ?_⟩
    · obtain ⟨value, attains, -⟩ := attained other member
      exact ⟨value, attains⟩
    · obtain ⟨_, -, inOrder⟩ := attained other member
      exact turn ▸ inOrder
  · intro due
    refine ⟨unvisited.trans due.waiting, fun other member => ?_⟩
    obtain ⟨value, attains⟩ := due.attained other member
    apply Mark.isSome_value?_iff.2
    exact ⟨value, (settled other value).2 ⟨attains, turn ▸ due.inOrder other member⟩⟩

theorem attains_turn_iff {value : β} (ready : Ready rules (sweep rules front marks) item) :
  Attains rules listing marks item value ↔
    rules.answer item (values (sweep rules front marks)) = some value := by
  have through : listing = (front ++ [item]) ++ back := by simp [listed]
  have settled : sweep rules (front ++ [item]) marks item = .settled value ↔
    rules.answer item (values (sweep rules front marks)) = some value := by
    rw [sweep_append]
    change visit rules (sweep rules front marks) item item = _ ↔ _
    rw [visit_ready ready, Function.update_self, taken_eq_settled_iff]
  rw [← settled, settled_sweep_iff through nodup]
  simp

theorem sweep_turn : sweep rules listing marks item =
  visit rules (sweep rules front marks) item item := by
  have past : item ∉ back := by
    rw [listed] at nodup
    exact (nodup_cons.1 (nodup_append.1 nodup).2.1).1
  rw [listed, sweep_append]
  exact sweep_of_notMem past

end

theorem waiting_sweep_iff (nodup : listing.Nodup)
  (listed : marks item = .waiting → item ∈ listing) :
  sweep rules listing marks item = .waiting ↔
    (marks item = .waiting) ∧ ¬ Due rules listing marks item := by
  by_cases waiting : marks item = .waiting
  · obtain ⟨front, _, split⟩ := append_of_mem (listed waiting)
    rw [sweep_turn split nodup, ← ready_turn_iff split nodup]
    by_cases ready : Ready rules (sweep rules front marks) item
    · rw [visit_ready ready, Function.update_self]
      simp [taken_ne_waiting, ready]
    · rw [visit_idle ready, sweep_of_notMem (notMem_front split nodup)]
      simp [waiting, ready]
  · rw [sweep_of_not_waiting waiting]
    simp [waiting]

/-- One pass leaves nothing behind exactly for orderly listings. -/
theorem complete_sweep_iff (nodup : listing.Nodup)
  (listed : ∀ item, marks item = .waiting → item ∈ listing) :
  Complete rules (sweep rules listing marks) ↔ Ordered rules listing marks := by
  have settled : ∀ item value, sweep rules listing marks item = .settled value ↔
    Attains rules listing marks item value := by
    intro item value
    rw [settled_sweep_iff (append_nil listing).symm nodup]
    exact and_iff_left (listed item)
  have waits : ∀ item, sweep rules listing marks item = .waiting ↔
    (marks item = .waiting) ∧ ¬ Due rules listing marks item :=
    fun item => waiting_sweep_iff nodup (listed item)
  constructor
  · intro complete
    -- A waiting item with settled dependencies had its turn.
    have due : ∀ item, marks item = .waiting → (∀ other ∈ rules.depends item,
      ∃ value, Attains rules listing marks other value) →
      Due rules listing marks item := by
      intro item waiting attained
      by_contra missed
      refine complete item ⟨(waits item).2 ⟨waiting, missed⟩, ?_⟩
      intro other member
      obtain ⟨value, attains⟩ := attained other member
      exact Mark.isSome_value?_iff.2 ⟨value, (settled other value).2 attains⟩
    have attains : ∀ item value, Derives rules marks item value →
      Attains rules listing marks item value := by
      intro item value derives
      induction derives with
      | settled settled => exact .settled settled
      | answered given waiting _ answer ih =>
        have turn := due _ waiting fun other member =>
          ⟨_, ih other member⟩
        exact .answered given waiting ih turn.inOrder answer
    intro item waiting derived
    apply (due item waiting _).inOrder
    intro other member
    obtain ⟨value, derives⟩ := derived other member
    exact ⟨value, attains other value derives⟩
  · rintro ordered item ⟨waiting, collected⟩
    obtain ⟨waiting, missed⟩ := (waits item).1 waiting
    have attained : ∀ other ∈ rules.depends item,
      ∃ value, Attains rules listing marks other value := by
      intro other member
      obtain ⟨value, found⟩ := Mark.isSome_value?_iff.1 (collected other member)
      exact ⟨value, (settled other value).1 found⟩
    refine missed ⟨waiting, attained, ordered item waiting ?_⟩
    intro other member
    obtain ⟨value, attains⟩ := attained other member
    exact ⟨value, attains.derives⟩

def progressed (rules : Rules α β) : List α → (α → Mark β) → Bool
  | [], _ => false
  | item :: rest, marks =>
    decide (Ready rules marks item) || progressed rules rest (visit rules marks item)

theorem idle_of_not_progressed (idle : progressed rules listing marks = false) :
  sweep rules listing marks = marks ∧ ∀ item ∈ listing, ¬ Ready rules marks item := by
  induction listing with
  | nil => exact ⟨rfl, by simp⟩
  | cons head rest ih =>
    rw [progressed, Bool.or_eq_false_iff, decide_eq_false_iff_not] at idle
    have unmoved : visit rules marks head = marks := visit_idle idle.1
    rw [unmoved] at idle
    obtain ⟨same, others⟩ := ih idle.2
    refine ⟨?_, ?_⟩
    · calc sweep rules rest (visit rules marks head) = sweep rules rest marks := by rw [unmoved]
        _ = marks := same
    · intro item member
      rcases mem_cons.1 member with rfl | member
      · exact idle.1
      · exact others item member

/-- A pass that took nothing up shows that nothing could be. -/
theorem complete_of_not_progressed (listed : ∀ item, marks item = .waiting → item ∈ listing)
  (idle : progressed rules listing marks = false) :
  Complete rules marks :=
  fun item ready =>
    (idle_of_not_progressed idle).2 item (listed item ready.1) ready

def waitingCount (items : List α) (marks : α → Mark β) : Nat :=
  items.countP fun item => marks item = .waiting

theorem waitingCount_visit_le (items : List α) (item : α) :
  waitingCount items (visit rules marks item) ≤ waitingCount items marks := by
  apply countP_mono_left
  intro other _ waiting
  simp only [decide_eq_true_eq] at waiting ⊢
  by_contra busy
  exact busy (visit_of_not_waiting busy ▸ waiting)

theorem waitingCount_sweep_le (items : List α) : waitingCount items (sweep rules listing marks) ≤
  waitingCount items marks := by
  induction listing generalizing marks with
  | nil => exact le_rfl
  | cons head _ ih => exact ih.trans (waitingCount_visit_le items head)

theorem waitingCount_visit_lt (member : item ∈ items) (ready : Ready rules marks item) :
  waitingCount items (visit rules marks item) < waitingCount items marks := by
  induction items with
  | nil => exact absurd member not_mem_nil
  | cons head rest ih =>
    have others : waitingCount rest (visit rules marks item) ≤
      waitingCount rest marks := waitingCount_visit_le rest item
    simp only [waitingCount, countP_cons, decide_eq_true_eq] at *
    by_cases same : head = item
    · subst same
      have left : ¬ visit rules marks head head = .waiting := by
        rw [visit_ready ready, Function.update_self]
        exact taken_ne_waiting
      rw [if_pos ready.1, if_neg left]
      omega
    · have elsewhere : item ∈ rest := (mem_cons.1 member).resolve_left (Ne.symm same)
      rw [visit_of_ne same]
      exact Nat.add_lt_add_right (ih elsewhere) _

theorem waitingCount_sweep_lt (inside : ∀ item ∈ listing, item ∈ items)
  (progress : progressed rules listing marks = true) :
  waitingCount items (sweep rules listing marks) < waitingCount items marks := by
  induction listing generalizing marks with
  | nil => cases progress
  | cons head rest ih =>
    rw [progressed, Bool.or_eq_true, decide_eq_true_eq] at progress
    have restInside : ∀ item ∈ rest, item ∈ items :=
      fun item member => inside item (mem_cons_of_mem _ member)
    by_cases ready : Ready rules marks head
    · calc waitingCount items (sweep rules rest (visit rules marks head))
        ≤ waitingCount items (visit rules marks head) :=
          waitingCount_sweep_le items
        _ < waitingCount items marks :=
          waitingCount_visit_lt (inside head (by simp)) ready
    · have later := progress.resolve_left ready
      calc waitingCount items (sweep rules rest (visit rules marks head))
        < waitingCount items (visit rules marks head) :=
          ih restInside later
        _ ≤ waitingCount items marks := waitingCount_visit_le items head

end VideoProcess.Data.Sweep
