import Mathlib.Data.List.Basic
import Mathlib.Logic.Relation

namespace VideoProcess.Data.Saturation

open List

/-! Two ways to collect all rows of a table that links lead to. -/

variable {ρ : Type} (rows : List ρ) (linked : ρ → ρ → Bool)

def Link (source target : ρ) : Prop := target ∈ rows ∧ linked source target = true

def Reached (seed : ρ → Bool) (row : ρ) : Prop :=
  ∃ root ∈ rows, seed root = true ∧ Relation.ReflTransGen (Link rows linked) root row

/-! In rounds, each a selection over the whole table, until one selects no more
rows than the last. -/

def expand (found : List ρ) : List ρ :=
  rows.filter fun row => found.any fun other => linked other row

def saturate : Nat → List ρ → List ρ
  | 0, found => found
  | fuel + 1, found =>
    let expanded := expand rows linked found
    if expanded.length = found.length then found
    else saturate fuel expanded

variable {rows linked} {left right seed chosen : ρ → Bool}

section

variable (grows : ∀ row ∈ rows, left row = true → right row = true)

include grows

private theorem filter_filter_of_imp : (rows.filter right).filter left = rows.filter left := by
  rw [filter_filter]
  apply filter_congr
  intro row member
  cases selected : left row with
  | false => rfl
  | true => simp [grows row member selected]

private theorem imp_of_length_eq (same : (rows.filter right).length = (rows.filter left).length) :
  ∀ row ∈ rows, right row = true → left row = true := by
  intro row member selected
  rw [← filter_filter_of_imp grows, eq_comm, length_filter_eq_length_iff] at same
  exact same row (mem_filter.2 ⟨member, selected⟩)

private theorem length_filter_le_of_imp :
  (rows.filter left).length ≤ (rows.filter right).length := by
  rw [← filter_filter_of_imp grows]
  exact length_filter_le _ _

end

structure Collects (rows : List ρ) (linked : ρ → ρ → Bool) (seed chosen : ρ → Bool) : Prop where
  seeds : ∀ row ∈ rows, seed row = true → chosen row = true
  closed : ∀ source ∈ rows, chosen source = true →
    ∀ target, Link rows linked source target → chosen target = true
  reached : ∀ row ∈ rows, chosen row = true → Reached rows linked seed row

theorem mem_of_path (held : root ∈ rows)
  (path : Relation.ReflTransGen (Link rows linked) root row) :
  row ∈ rows := by
  cases path with
  | refl => exact held
  | tail _ step => exact step.1

theorem Collects.chosen_iff (collects : Collects rows linked seed chosen) (member : row ∈ rows) :
  chosen row = true ↔ Reached rows linked seed row := by
  constructor
  · exact collects.reached row member
  · rintro ⟨root, held, seeded, path⟩
    clear member
    induction path with
    | refl => exact collects.seeds root held seeded
    | tail path step ih => exact collects.closed _ (mem_of_path held path) ih _ step

theorem saturate_filter (reflexive : ∀ row, linked row row = true)
  (fuel : Nat) (seeds : ∀ row ∈ rows, seed row = true → chosen row = true)
  (reached : ∀ row ∈ rows, chosen row = true → Reached rows linked seed row)
  (enough : rows.length ≤ fuel + (rows.filter chosen).length) :
  ∃ final, saturate rows linked fuel (rows.filter chosen) =
    rows.filter final ∧ Collects rows linked seed final := by
  induction fuel generalizing chosen with
  | zero =>
    refine ⟨chosen, rfl, seeds, ?_, reached⟩
    -- Every row is chosen.
    have all : ∀ row ∈ rows, chosen row = true := by
      rw [← length_filter_eq_length_iff]
      have := length_filter_le chosen rows
      omega
    exact fun _ _ _ target step => all target step.1
  | succ fuel ih =>
    let next : ρ → Bool := fun row =>
      (rows.filter chosen).any fun other => linked other row
    have grows : ∀ row ∈ rows, chosen row = true → next row = true := by
      intro row member selected
      exact any_eq_true.2 ⟨row, mem_filter.2 ⟨member, selected⟩, reflexive row⟩
    have steps : ∀ source ∈ rows, chosen source = true →
      ∀ target, Link rows linked source target → next target = true := by
      intro source member selected target step
      exact any_eq_true.2 ⟨source, mem_filter.2 ⟨member, selected⟩, step.2⟩
    rw [saturate]
    change ∃ final, (if (rows.filter next).length = (rows.filter
      chosen).length then rows.filter chosen
      else saturate rows linked fuel (rows.filter next)) = _ ∧ _
    split
    next same =>
      refine ⟨chosen, rfl, seeds, ?_, reached⟩
      intro source member selected target step
      exact imp_of_length_eq grows same target step.1 (steps source member selected target step)
    next differ =>
      have longer := length_filter_le_of_imp grows
      refine ih (fun row member seeded =>
        grows row member (seeds row member seeded)) ?_ (by omega)
      intro row member selected
      obtain ⟨other, found, link⟩ := any_eq_true.1 selected
      obtain ⟨otherHeld, otherChosen⟩ := mem_filter.1 found
      obtain ⟨root, held, seeded, path⟩ := reached other otherHeld otherChosen
      exact ⟨root, held, seeded, path.tail ⟨member, link⟩⟩

theorem saturate_seeds (rows : List ρ)
  (reflexive : ∀ row, linked row row = true) (seed : ρ → Bool) :
  ∃ final, saturate rows linked rows.length (rows.filter seed) =
    rows.filter final ∧ Collects rows linked seed final :=
  saturate_filter reflexive rows.length (fun _ _ seeded => seeded)
    (fun row member seeded => ⟨row, member, seeded, .refl⟩)
    (Nat.le_add_right _ _)

theorem saturate_filter_rows (reflexive : ∀ row, linked row row = true)
  (seed keep : ρ → Bool) (safe : ρ → Prop)
  (seeds : ∀ row ∈ rows, seed row = true → safe row)
  (closed : ∀ source ∈ rows, safe source → ∀ target, Link rows linked source target → safe target)
  (kept : ∀ row ∈ rows, safe row → keep row = true) :
  saturate (rows.filter keep) linked (rows.filter keep).length ((rows.filter keep).filter seed) =
    saturate rows linked rows.length (rows.filter seed) := by
  obtain ⟨_, sameAll, collectsAll⟩ := saturate_seeds rows reflexive seed
  obtain ⟨_, sameSome, collectsSome⟩ := saturate_seeds (rows.filter keep) reflexive seed
  have stays {root row : ρ} (held : root ∈ rows) (seeded : seed root = true)
    (path : Relation.ReflTransGen (Link rows linked) root row) :
    safe row ∧ Relation.ReflTransGen (Link (rows.filter keep) linked) root row := by
    induction path with
    | refl => exact ⟨seeds root held seeded, .refl⟩
    | tail path step ih =>
      have next := closed _ (mem_of_path held path) ih.1 _ step
      exact ⟨next, ih.2.tail ⟨mem_filter.2 ⟨step.1, kept _ step.1 next⟩, step.2⟩⟩
  rw [sameAll, sameSome, filter_filter]
  apply filter_congr
  intro row member
  rw [Bool.eq_iff_iff, Bool.and_eq_true, collectsAll.chosen_iff member]
  constructor
  · rintro ⟨chosen, keeps⟩
    obtain ⟨root, held, seeded, path⟩ := (collectsSome.chosen_iff
      (mem_filter.2 ⟨member, keeps⟩)).1 chosen
    refine ⟨root, (mem_filter.1 held).1, seeded, Relation.ReflTransGen.mono ?_ _ _ path⟩
    exact fun _ _ step => ⟨(mem_filter.1 step.1).1, step.2⟩
  · rintro ⟨root, held, seeded, path⟩
    obtain ⟨safeRow, inside⟩ := stays held seeded path
    have keeps := kept row member safeRow
    refine ⟨(collectsSome.chosen_iff
      (mem_filter.2 ⟨member, keeps⟩)).2 ⟨root, ?_, seeded, inside⟩, keeps⟩
    exact mem_filter.2 ⟨held, kept root held (seeds root held seeded)⟩

/-! By a working table, as a recursive query does: a round joins the rows that
the last round found, and keeps those that are new. -/

section

variable [DecidableEq ρ]

def joined (rows : List ρ) (linked : ρ → ρ → Bool) (working result : List ρ) : List ρ :=
  rows.filter fun row =>
    working.any (fun other => linked other row) && row ∉ result

def recurse (rows : List ρ) (linked : ρ → ρ → Bool) : Nat → List ρ → List ρ → List ρ
  | 0, _, result => result
  | fuel + 1, working, result =>
    let next := joined rows linked working result
    if next = [] then result
    else recurse rows linked fuel next (result ++ next)

theorem mem_joined : row ∈ joined rows linked working result ↔
  (∃ other ∈ working, Link rows linked other row) ∧ row ∉ result := by
  simp only [joined, Link, mem_filter, Bool.and_eq_true, any_eq_true, decide_eq_true_eq]
  grind

private def missing (rows result : List ρ) : List ρ := rows.filter fun row => row ∉ result

private theorem length_missing_lt (some : joined rows linked working result ≠ []) :
  (missing rows (result ++ joined rows linked working result)).length <
    (missing rows result).length := by
  obtain ⟨row, member⟩ := exists_mem_of_ne_nil _ some
  obtain ⟨⟨_, -, step⟩, new⟩ := mem_joined.1 member
  have split : missing rows (result ++ joined rows linked working result) =
    (missing rows result).filter fun row =>
      row ∉ joined rows linked working result := by
    simp only [missing, filter_filter, mem_append, not_or]
    apply filter_congr
    intro other _
    rw [Bool.decide_and, Bool.and_comm]
  rw [split, length_filter_lt_length_iff_exists]
  exact ⟨row, mem_filter.2 ⟨step.1, decide_eq_true new⟩, by simp [member]⟩

/-- The result holds the seeds and is closed under links: what was joined in an
earlier round has nothing more to add. -/
theorem recurse_closed (fuel : Nat) (settled : ∀ source ∈ result, source ∉ working →
  ∀ target, Link rows linked source target → target ∈ result)
  (enough : (missing rows result).length ≤ fuel) :
  result ⊆ recurse rows linked fuel working result ∧
    ∀ source ∈ recurse rows linked fuel working result, ∀ target, Link rows linked source target →
      target ∈ recurse rows linked fuel working result := by
  induction fuel generalizing working result with
  | zero =>
    refine ⟨List.Subset.refl _, fun source _ target step => ?_⟩
    by_contra absent
    have : target ∈ missing rows result := mem_filter.2 ⟨step.1, decide_eq_true absent⟩
    rw [length_eq_zero_iff.1 (Nat.le_zero.1 enough)] at this
    cases this
  | succ _ ih =>
    have stays : ∀ source ∈ result, ∀ target, Link rows linked source target →
      target ∈ result ++ joined rows linked working result := by
      intro source member target step
      rw [mem_append, mem_joined]
      by_cases known : target ∈ result
      · exact .inl known
      · by_cases active : source ∈ working
        · exact .inr ⟨⟨source, active, step⟩, known⟩
        · exact absurd (settled source member active target step) known
    rw [recurse]
    split
    next done =>
      rw [done, append_nil] at stays
      exact ⟨List.Subset.refl _, stays⟩
    next more =>
      have shorter := length_missing_lt more
      obtain ⟨kept, closed⟩ := ih (fun source member inactive target step => by
        obtain member | member := mem_append.1 member
        · exact stays source member target step
        · exact absurd member inactive) (by omega)
      exact ⟨fun row member => kept (mem_append_left _ member), closed⟩

theorem recurse_seeds (rows seeds : List ρ) (linked : ρ → ρ → Bool) :
  seeds ⊆ recurse rows linked rows.length seeds seeds ∧
    ∀ source ∈ recurse rows linked rows.length seeds seeds,
      ∀ target, Link rows linked source target →
        target ∈ recurse rows linked rows.length seeds seeds :=
  recurse_closed rows.length (fun _ member inactive => absurd member inactive)
    (length_filter_le _ _)

end

end VideoProcess.Data.Saturation
