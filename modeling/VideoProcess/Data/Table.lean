import Mathlib.Order.Lattice
import Mathlib.Data.List.Nodup

namespace VideoProcess.Data

open List

/-! Relational tables: the list of the rows in the order of their primary
key. -/

structure Table {ρ κ : Type} [LinearOrder κ] (key : ρ → κ) where
  rows : List ρ
  ordered : rows.Pairwise fun left right => key left < key right

namespace Table

variable {ρ κ : Type} [LinearOrder κ] {key : ρ → κ}

def empty : Table key := ⟨[], .nil⟩

section

variable (table : Table key)

theorem nodup_keys : (table.rows.map key).Nodup := by
  rw [nodup_iff_pairwise_ne, pairwise_map]
  exact table.ordered.imp ne_of_lt

theorem eq_of_key_eq (leftMember : left ∈ table.rows)
  (rightMember : right ∈ table.rows) (same : key left = key right) :
  left = right := inj_on_of_nodup_map table.nodup_keys leftMember rightMember same

def find? (wanted : κ) : Option ρ :=
  table.rows.find? fun row => key row = wanted

end

variable {row : ρ} {table extended before : Table key} {rows : List ρ}

theorem find?_eq_some_iff :
  table.find? wanted = some row ↔ row ∈ table.rows ∧ key row = wanted := by
  constructor
  · intro found
    exact ⟨mem_of_find?_eq_some found, by simpa using find?_some found⟩
  · rintro ⟨member, rfl⟩
    cases found : table.find? (key row) with
    | none =>
      have := find?_eq_none.1 found row member
      simp at this
    | some other =>
      have same : key other = key row := by simpa using find?_some found
      rw [table.eq_of_key_eq (mem_of_find?_eq_some found) member same]

theorem find?_eq_none_iff : table.find? wanted = none ↔ ∀ row ∈ table.rows, key row ≠ wanted := by
  simp [find?, find?_eq_none]

def update (table : Table key) (selected : ρ → Bool) (change : ρ → ρ)
  (keeps : ∀ row, key (change row) = key row) : Table key where
  rows := table.rows.map fun row => if selected row then change row else row
  ordered := by
    rw [pairwise_map]
    refine table.ordered.imp fun {left right} less => ?_
    have keyed (row : ρ) : key (if selected row then change row else row) = key row := by
      split
      · exact keeps row
      · rfl
    rwa [keyed, keyed]

section

variable (table : Table key) (selected : ρ → Bool) (change : ρ → ρ)
  (keeps : ∀ row, key (change row) = key row)

theorem rows_update : (table.update selected change keeps).rows =
  table.rows.map fun row => if selected row then change row else row := rfl

theorem find?_update (wanted : κ) : (table.update selected change keeps).find? wanted =
  (table.find? wanted).map fun row =>
    if selected row then change row else row := by
  have keyed : ((fun row => decide (key row = wanted)) ∘ fun row =>
    if selected row then change row else row) =
    fun row => decide (key row = wanted) := by
    funext row
    by_cases chosen : selected row <;> simp [chosen, keeps]
  rw [find?, rows_update, find?_map, keyed]
  rfl

theorem filter_update (kept : ρ → Bool) (stable : ∀ row, kept (change row) = kept row) :
  (table.update selected change keeps).rows.filter kept = (table.rows.filter kept).map fun row =>
    if selected row then change row else row := by
  rw [rows_update, filter_map]
  congr 2
  funext row
  by_cases chosen : selected row <;> simp [chosen, stable]

end

def place (key : ρ → κ) (row : ρ) : List ρ → List ρ
  | [] => [row]
  | head :: tail =>
    if key row < key head then row :: head :: tail
    else head :: place key row tail

theorem mem_place : other ∈ place key row rows ↔ other = row ∨ other ∈ rows := by
  induction rows with
  | nil => simp [place]
  | cons _ _ ih =>
    simp only [place]
    split
    · simp
    · simp only [mem_cons, ih]
      exact or_left_comm

private theorem place_ordered (ordered : rows.Pairwise fun left right => key left < key right)
  (new : ∀ other ∈ rows, key other ≠ key row) :
  (place key row rows).Pairwise fun left right => key left < key right := by
  induction rows with
  | nil => simp [place]
  | cons head _ ih =>
    rw [pairwise_cons] at ordered
    simp only [place]
    split
    next less =>
      refine pairwise_cons.2 ⟨?_, pairwise_cons.2 ordered⟩
      intro other member
      rcases mem_cons.1 member with rfl | member
      · exact less
      · exact less.trans (ordered.1 other member)
    next notLess =>
      have above : key head < key row := lt_of_le_of_ne (not_lt.1 notLess) (new head (by simp))
      refine pairwise_cons.2 ⟨?_, ih ordered.2 ?_⟩
      · intro other member
        rcases mem_place.1 member with rfl | member
        · exact above
        · exact ordered.1 other member
      · exact fun other member => new other (by simp [member])

def insert (table : Table key) (row : ρ) : Option (Table key) :=
  if new : ∀ other ∈ table.rows, key other ≠ key row then
    some ⟨place key row table.rows, place_ordered table.ordered new⟩
  else none

theorem insert_eq_some_iff : table.insert row = some extended ↔
  (∀ other ∈ table.rows, key other ≠ key row) ∧ extended.rows = place key row table.rows := by
  unfold insert
  split
  next new =>
    constructor
    · intro inserted
      cases inserted
      exact ⟨new, rfl⟩
    · rintro ⟨-, rows⟩
      obtain ⟨_, _⟩ := extended
      cases rows
      rfl
  next clash => simp [clash]

theorem filter_place_of_not (outside : kept row = false) :
  (place key row rows).filter kept = rows.filter kept := by
  induction rows with
  | nil => simp [place, outside]
  | cons _ _ ih =>
    simp only [place]
    split
    · rw [filter_cons_of_neg (by simp [outside])]
    · simp only [filter_cons, ih]

theorem place_perm : (place key row rows).Perm (row :: rows) := by
  induction rows with
  | nil => exact .refl _
  | cons head tail ih =>
    simp only [place]
    split
    · exact .refl _
    · exact (ih.cons head).trans (.swap row head tail)

theorem insertAll_perm (inserted : rows.foldlM insert table = some extended) :
  extended.rows.Perm (rows ++ table.rows) := by
  induction rows generalizing table with
  | nil =>
    cases inserted
    exact .refl _
  | cons row rest ih =>
    rw [foldlM_cons, Option.bind_eq_bind, Option.bind_eq_some_iff] at inserted
    obtain ⟨middle, first, inserted⟩ := inserted
    have placed : middle.rows.Perm (row :: table.rows) := by
      rw [(insert_eq_some_iff.1 first).2]
      exact place_perm
    refine (ih inserted).trans ?_
    exact (placed.append_left rest).trans perm_middle

theorem filter_insertAll (outside : ∀ row ∈ rows, kept row = false)
  (inserted : rows.foldlM insert table = some extended) :
  extended.rows.filter kept = table.rows.filter kept := by
  induction rows generalizing table with
  | nil =>
    cases inserted
    rfl
  | cons row _ ih =>
    rw [foldlM_cons, Option.bind_eq_bind, Option.bind_eq_some_iff] at inserted
    obtain ⟨_, first, inserted⟩ := inserted
    rw [ih (fun other member => outside other (by simp [member]))
      inserted, (insert_eq_some_iff.1 first).2,
      filter_place_of_not (outside row (by simp))]

def created (before after : Table key) : List ρ :=
  after.rows.filter fun row => (before.find? (key row)).isNone

theorem created_self (table : Table key) : table.created table = [] := by
  rw [created, filter_eq_nil_iff]
  intro row member
  rw [find?_eq_some_iff.2 ⟨member, rfl⟩]
  simp

theorem created_insert {after : Table key} (inserted : after.insert row = some extended)
  (new : before.find? (key row) = none) :
  (before.created extended).Perm (row :: before.created after) := by
  rw [created, (insert_eq_some_iff.1 inserted).2]
  refine (place_perm.filter _).trans ?_
  rw [filter_cons_of_pos (by simp [new])]
  rfl

theorem created_update (after : Table key) (selected : ρ → Bool)
  (change : ρ → ρ) (keeps : ∀ row, key (change row) = key row) :
  before.created (after.update selected change keeps) = (before.created after).map fun row =>
    if selected row then change row else row :=
  after.filter_update selected change keeps _ fun row => by rw [keeps]

theorem find?_insert (inserted : table.insert row = some extended) : extended.find? wanted =
  if key row = wanted then some row else table.find? wanted := by
  obtain ⟨_, rows⟩ := insert_eq_some_iff.1 inserted
  split
  next same =>
    rw [find?_eq_some_iff, rows, mem_place]
    exact ⟨.inl rfl, same⟩
  next different =>
    cases found : table.find? wanted with
    | none =>
      rw [find?_eq_none_iff] at found ⊢
      intro other member
      rw [rows, mem_place] at member
      rcases member with rfl | member
      · exact different
      · exact found other member
    | some =>
      rw [find?_eq_some_iff] at found ⊢
      rw [rows, mem_place]
      exact ⟨.inr found.1, found.2⟩

end Table

end VideoProcess.Data
