import Mathlib.Data.List.TakeWhile

namespace VideoProcess.Data.Dedupe

open List

/-! Keeping the items whose keys do not clash with the keys seen before. -/

variable {α κ : Type} (clashes : κ → κ → Bool) (keys : α → List κ)

def isFree (seen : List κ) (key : κ) : Bool := !seen.any (clashes key)

/-- The items, each with whether it is kept. The keys of an item enter one by
one, up to the first that clashes with a key of an item before. -/
def marks (seen : List κ) : List α → List (α × Bool)
  | [] => []
  | item :: rest =>
    (item, (keys item).all (isFree clashes seen)) ::
      marks ((keys item).takeWhile (isFree clashes seen) ++ seen) rest

def kept (marked : List (α × Bool)) : List α := (marked.filter Prod.snd).map Prod.fst

def Conflict (item other : α) : Prop :=
  ∃ key ∈ keys item, ∃ seen ∈ keys other, clashes key seen = true

def Free (seen : List κ) (item : α) : Prop :=
  ∀ key ∈ keys item, ∀ other ∈ seen, clashes key other = false

variable {clashes keys}

theorem all_isFree :
  (keys item).all (isFree clashes seen) = true ↔ Free clashes keys seen item := by
  simp [isFree, Free]

theorem free_append : Free clashes keys (own ++ seen) item ↔
  Free clashes keys own item ∧ Free clashes keys seen item := by
  simp only [Free, mem_append, or_imp, forall_and]

theorem not_conflict {other : α} :
  ¬ Conflict clashes keys item other ↔ Free clashes keys (keys other) item := by
  simp [Conflict, Free]

theorem Free.mono (free : Free clashes keys seen item)
  (subset : fewer ⊆ seen) : Free clashes keys fewer item :=
  fun key own other held => free key own other (subset held)

theorem kept_marks_cons : kept (marks clashes keys seen (item :: items)) =
  (if (keys item).all (isFree clashes seen) then [item] else []) ++ kept (marks clashes keys
    ((keys item).takeWhile (isFree clashes seen) ++ seen) items) := by
  cases done : (keys item).all (isFree clashes seen) <;>
    simp [kept, marks, done]

theorem kept_sublist : (kept (marks clashes keys seen items)).Sublist items := by
  induction items generalizing seen with
  | nil => exact .refl _
  | cons item rest ih =>
    rw [kept_marks_cons]
    split
    · exact .cons_cons item ih
    · exact .cons item ih

theorem kept_apart : (∀ item ∈ kept (marks clashes keys seen items), Free clashes keys seen item) ∧
  (kept (marks clashes keys seen items)).Pairwise
    fun item later => ¬ Conflict clashes keys later item := by
  induction items generalizing seen with
  | nil => exact ⟨by simp [kept, marks], .nil⟩
  | cons item rest ih =>
    obtain ⟨free, apart⟩ := @ih ((keys item).takeWhile (isFree clashes seen) ++ seen)
    have older := fun other member => (free_append.1 (free other member)).2
    rw [kept_marks_cons]
    split
    next done =>
      rw [takeWhile_eq_self_iff.2 (all_eq_true.1 done)] at free apart older ⊢
      refine ⟨forall_mem_cons.2 ⟨all_isFree.1 done, older⟩,
        pairwise_cons.2 ⟨fun later member => ?_, apart⟩⟩
      exact not_conflict.2 (free_append.1 (free later member)).1
    · exact ⟨older, apart⟩

theorem kept_eq (free : ∀ item ∈ items, Free clashes keys seen item)
  (apart : items.Pairwise fun item later => ¬ Conflict clashes keys later item) :
  kept (marks clashes keys seen items) = items := by
  induction items generalizing seen with
  | nil => rfl
  | cons item rest ih =>
    have ⟨first, later⟩ := pairwise_cons.1 apart
    have ⟨own, others⟩ := forall_mem_cons.1 free
    have done := all_isFree.2 own
    rw [kept_marks_cons, if_pos done,
      takeWhile_eq_self_iff.2 (all_eq_true.1 done), ih _ later]
    · rfl
    · exact fun other member => free_append.2
        ⟨not_conflict.1 (first other member), others other member⟩

theorem conflict_of_dropped {before after : List (α × Bool)}
  (split : marks clashes keys seen items = before ++ (item, false) :: after) :
  ¬ Free clashes keys seen item ∨ ∃ other ∈ before, Conflict clashes keys item other.1 := by
  induction items generalizing seen before with
  | nil => simp [marks] at split
  | cons first rest ih =>
    cases before with
    | nil =>
      simp only [marks, nil_append, cons.injEq, Prod.mk.injEq] at split
      obtain ⟨⟨rfl, dropped⟩, -⟩ := split
      rw [← all_isFree, dropped]
      exact .inl Bool.false_ne_true
    | cons head before =>
      simp only [marks, cons_append, cons.injEq] at split
      obtain ⟨rfl, split⟩ := split
      by_contra none
      simp only [not_or, not_not, mem_cons, exists_eq_or_imp] at none
      obtain ⟨free, apart, others⟩ := none
      refine (ih split).elim (fun clash => clash ?_) others
      exact free_append.2 ⟨(not_conflict.1 apart).mono (takeWhile_subset _), free⟩

end VideoProcess.Data.Dedupe
