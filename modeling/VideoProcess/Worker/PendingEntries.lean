import Mathlib.Order.Lattice

namespace VideoProcess.Worker.PendingEntries

open List

/-! `visitRegisteredPendingEntries` of `consumer.go`. The pending list of a
group may be another one at every call of Redis. -/

variable {ι ε : Type} [LinearOrder ι]

def InOrder (entries : List (ι × ε)) : Prop :=
  entries.Pairwise fun earlier later => earlier.1 < later.1

structure Pending (ι ε : Type) [LinearOrder ι] where
  entries : List (ι × ε)
  sorted : InOrder entries

def Pending.higher (pending : Pending ι ε) : Option ι := pending.entries.getLast?.map Prod.fst

/-- `XPENDING` with a range; no start is `-`, any other one is exclusive. -/
def Pending.range (pending : Pending ι ε) (start : Option ι) (last : ι) (count : Nat) :
  List (ι × ε) :=
  (pending.entries.filter fun entry => start.all (· < entry.1) && entry.1 ≤ last).take count

def pageSize : Nat := 50

/-- What the calls of Redis answer, by their number. -/
abbrev Replies (ι ε : Type) [LinearOrder ι] := Nat → Except String (Pending ι ε)

def readPages (replies : Replies ι ε) (higher : ι) (start : Option ι) (remaining call : Nat) :
  Except String (List (ι × ε)) :=
  if remaining = 0 then .ok []
  else
    match replies call with
    | .error error => .error error
    | .ok pending =>
      let count := min pageSize remaining
      let page := pending.range start higher count
      if empty : page = [] then .ok []
      else
        let last := (page.getLast empty).1
        if last = higher ∨ page.length < count then .ok page
        else if start = some last then .error "registered pending pagination is invalid"
        else (readPages replies higher (some last) (remaining - page.length) (call + 1)).map
          (page ++ ·)
  termination_by remaining
  decreasing_by exact Nat.sub_lt (by omega) (length_pos_iff.2 empty)

def visitEach {α : Type} (visit : α → Option String) : List α → List α × Option String
  | [] => ([], none)
  | entry :: rest =>
    if (visit entry).isSome then ([entry], visit entry)
    else (visitEach visit rest).map (entry :: ·) id

/-- The entries visited, and the error if there is one. -/
def visitRegisteredPendingEntries (replies : Replies ι ε) (visit : ι × ε → Option String) :
  List (ι × ε) × Option String :=
  match replies 0 with
  | .error error => ([], some error)
  | .ok snapshot =>
    match snapshot.higher with
    | none => ([], none)
    | some higher =>
      match readPages replies higher none snapshot.entries.length 1 with
      | .error error => ([], some error)
      | .ok entries => visitEach visit entries

section

variable {α : Type} {visit : α → Option String}

theorem visitEach_sublist (entries : List α) : (visitEach visit entries).1.Sublist entries := by
  induction entries with
  | nil => exact .slnil
  | cons entry rest ih =>
    rw [visitEach]
    split
    · exact (nil_sublist rest).cons_cons entry
    · exact ih.cons_cons entry

theorem visitEach_eq (works : ∀ entry, visit entry = none) (entries : List α) :
  visitEach visit entries = (entries, none) := by
  induction entries with
  | nil => rfl
  | cons entry rest ih => simp [visitEach, works, ih]

end

variable {replies : Replies ι ε} {pending : Pending ι ε} {start : Option ι} {higher : ι}
  {entries front rest : List (ι × ε)} {entry last : ι × ε}

theorem le_last (sorted : InOrder entries)
  (ends : entries.getLast? = some last) (member : entry ∈ entries) : entry.1 ≤ last.1 := by
  obtain ⟨front, rfl⟩ := getLast?_eq_some_iff.1 ends
  rcases mem_append.1 member with earlier | same
  · exact ((pairwise_append.1 sorted).2.2 entry earlier last (by simp)).le
  · rw [mem_singleton.1 same]

theorem Pending.le_higher (known : pending.higher = some higher)
  (member : entry ∈ pending.entries) : entry.1 ≤ higher := by
  obtain ⟨last, ends, rfl⟩ := Option.map_eq_some_iff.1 known
  exact le_last pending.sorted ends member

/-- The ids rise within a page and from one page to the next. -/
theorem readPages_sorted {remaining call : Nat}
  (read : readPages replies higher start remaining call = .ok entries) :
  (∀ entry ∈ entries, ∀ id ∈ start, id < entry.1) ∧ InOrder entries := by
  have admitted {pending : Pending ι ε} {start : Option ι} {count : Nat} :
      (∀ entry ∈ pending.range start higher count, ∀ id ∈ start, id < entry.1) ∧
        InOrder (pending.range start higher count) := by
    refine ⟨fun entry member => ?_, pending.sorted.sublist
      ((take_sublist _ _).trans filter_sublist)⟩
    have kept := (mem_filter.1 (mem_of_mem_take member)).2
    simp only [Bool.and_eq_true, Option.all_eq_true, decide_eq_true_eq] at kept
    exact kept.1
  fun_induction readPages generalizing entries with
  | case1 | case3 =>
    cases read
    simp [InOrder]
  | case2 | case5 => cases read
  | case4 =>
    cases read
    exact admitted
  | case6 start remaining call _ pending _ _ page empty last _ _ =>
    rename_i ih
    cases later : readPages replies higher (some last) (remaining - page.length) (call + 1) with
    | error => simp [later, Except.map] at read
    | ok rest =>
      obtain ⟨beyond, rising⟩ := ih later
      rw [later] at read
      cases read
      have within : ∀ entry ∈ page, entry.1 ≤ last := fun entry =>
        le_last admitted.2 (getLast?_eq_some_getLast empty)
      refine ⟨fun entry member id known => ?_, pairwise_append.2 ⟨admitted.2, rising, ?_⟩⟩
      · rcases mem_append.1 member with here | there
        · exact admitted.1 entry here id known
        · exact (admitted.1 _ (getLast_mem empty) id known).trans (beyond entry there last rfl)
      · exact fun entry here next there => (within entry here).trans_lt (beyond next there last rfl)

/-- Of a list that does not change, the pages are what comes after the start. -/
theorem readPages_static (call : Nat) (split : pending.entries = front ++ rest)
  (known : pending.higher = some higher) :
  readPages (fun _ => .ok pending) higher (front.getLast?.map Prod.fst) rest.length call =
    .ok rest := by
  induction size : rest.length using Nat.strong_induction_on generalizing front rest call with
  | h _ ih =>
    subst size
    have sorted := pending.sorted
    rw [split, InOrder, pairwise_append] at sorted
    have page : pending.range (front.getLast?.map Prod.fst) higher (min pageSize rest.length) =
        rest.take pageSize := by
      have past : (front.filter fun entry => (front.getLast?.map Prod.fst).all (· < entry.1) &&
          entry.1 ≤ higher) = [] := by
        refine filter_eq_nil_iff.2 fun entry member => ?_
        obtain ⟨last, ends⟩ := Option.isSome_iff_exists.1
          (getLast?_isSome.2 (ne_nil_of_mem member))
        simp [ends, le_last sorted.1 ends member]
      have coming : (rest.filter fun entry => (front.getLast?.map Prod.fst).all (· < entry.1) &&
          entry.1 ≤ higher) = rest := by
        refine filter_eq_self.2 fun entry member => ?_
        have below := pending.le_higher known (split ▸ mem_append_right front member)
        cases ends : front.getLast? with
        | none => simp [below]
        | some last =>
          simp [below, sorted.2.2 last (mem_of_getLast? ends) entry member]
      rw [Pending.range, split, filter_append, past, coming, nil_append]
      exact take_eq_take_iff.2 (by omega)
    rw [readPages]
    simp only [page]
    have parts := take_append_drop pageSize rest
    split_ifs with done empty ends repeated
    · rw [length_eq_zero_iff.1 done]
    · rcases take_eq_nil_iff.1 empty with no | nil
      · cases no
      · rw [nil]
    · suffices whole : rest.drop pageSize = [] by
        rw [whole, append_nil] at parts
        rw [parts]
      rcases ends with reached | short
      · refine eq_nil_iff_forall_not_mem.2 fun entry member => ?_
        have rises := sorted.2.1
        rw [← parts, pairwise_append] at rises
        have past := rises.2.2 _ (getLast_mem empty) entry member
        have within := pending.le_higher known
          (split ▸ mem_append_right front (mem_of_mem_drop member))
        exact absurd past (reached ▸ within.not_gt)
      · exact absurd short (by simp)
    · obtain ⟨last, known, same⟩ := Option.map_eq_some_iff.1 repeated
      have before := sorted.2.2 last (mem_of_getLast? known) _
        (mem_of_mem_take (getLast_mem empty))
      exact absurd same before.ne
    · have fewer : (rest.drop pageSize).length < rest.length := by
        rw [length_drop]
        exact Nat.sub_lt (by omega) (by decide)
      have left : rest.length - (rest.take pageSize).length = (rest.drop pageSize).length := by
        rw [length_take, length_drop]
        omega
      have later := ih _ fewer (call + 1)
        (by rw [split, append_assoc, parts] : _ = (front ++ rest.take pageSize) ++ _) rfl
      rw [getLast?_append, getLast?_eq_some_getLast empty, Option.some_or,
        Option.map_some] at later
      rw [left, later, Except.map, parts]

theorem visits_once (replies : Replies ι ε) (visit : ι × ε → Option String)
  (pending : Pending ι ε) :
  InOrder (visitRegisteredPendingEntries replies visit).1 ∧ ((∀ entry, visit entry = none) →
      visitRegisteredPendingEntries (fun _ => .ok pending) visit = (pending.entries, none)) := by
  constructor
  · unfold visitRegisteredPendingEntries
    split
    · exact .nil
    · split
      · exact .nil
      · split
        · exact .nil
        next read => exact (readPages_sorted read).2.sublist (visitEach_sublist _)
  · intro works
    rw [visitRegisteredPendingEntries]
    dsimp only
    split
    next empty =>
      rw [show pending.entries = [] by simpa [Pending.higher] using empty]
    next higher known =>
      have read := readPages_static 1 (nil_append _).symm known
      rw [getLast?_nil, Option.map_none] at read
      rw [read]
      exact visitEach_eq works _

end VideoProcess.Worker.PendingEntries
