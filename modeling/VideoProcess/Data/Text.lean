import Mathlib.Data.List.DropRight

namespace VideoProcess.Data

open List

/-! Texts as lists of characters, trimmed at both ends of what counts as
blank. -/

variable {α : Type}

def trim (blank : α → Bool) (text : List α) : List α := (text.dropWhile blank).rdropWhile blank

variable {blank : α → Bool} {text : List α}

theorem trim_sublist (blank : α → Bool) (text : List α) : (trim blank text).Sublist text := by
  have shorter := rdropWhile_prefix blank (text.dropWhile blank)
  exact shorter.sublist.trans (dropWhile_suffix blank).sublist

theorem trim_eq_nil_iff : trim blank text = [] ↔ ∀ char ∈ text, blank char = true := by
  rw [trim, rdropWhile_eq_nil_iff]
  constructor
  · intro all
    by_cases empty : text.dropWhile blank = []
    · exact dropWhile_eq_nil_iff.1 empty
    · have solid := head_dropWhile_not blank empty
      rw [all _ (head_mem empty)] at solid
      cases solid
  · intro all char member
    apply all
    exact (dropWhile_suffix blank).subset member

theorem trim_cons_of_not_blank {char : α} (solid : blank char = false) :
  ∃ rest, trim blank (char :: text) = char :: rest := by
  have kept : (char :: text).dropWhile blank = char :: text := by simp [solid]
  rw [trim, kept, rdropWhile, reverse_cons, dropWhile_append]
  split
  · exact ⟨[], by simp [solid]⟩
  · exact ⟨_, by rw [reverse_append]; rfl⟩

theorem trim_eq_self (solid : ∀ char ∈ text, blank char = false) : trim blank text = text := by
  have unchanged {other : List α} (all : ∀ char ∈ other, blank char = false) :
    other.dropWhile blank = other := by
    cases other with
    | nil => rfl
    | cons char =>
      rw [dropWhile_cons, all char mem_cons_self]
      rfl
  rw [trim, unchanged solid, rdropWhile,
    unchanged fun char member => solid char (mem_reverse.1 member),
    reverse_reverse]

end VideoProcess.Data
