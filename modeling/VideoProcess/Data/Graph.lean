import Mathlib.Order.WellFounded
import Mathlib.Data.Finite.Prod

namespace VideoProcess.Data.Graph

open List

/-! Finite directed graphs given by their edges. -/

variable {α : Type}

def Acyclic (edge : α → α → Prop) : Prop := ∀ node, ¬ Relation.TransGen edge node node

theorem acyclic_of_rank (rank : α → Nat)
  (rises : ∀ source target, edge source target → rank source < rank target) :
  Acyclic edge := by
  intro node cycle
  have climbs : ∀ target, Relation.TransGen edge node target → rank node < rank target := by
    intro target path
    induction path with
    | single step => exact rises _ _ step
    | tail _ step ih => exact ih.trans (rises _ _ step)
  exact lt_irrefl _ (climbs node cycle)

/-- Among finitely many nodes of an acyclic graph, a property that holds
somewhere holds at a node none of whose predecessors has it. -/
theorem Acyclic.exists_first (acyclic : Acyclic edge) (nodes : List α)
  (holds : α → Prop) (member : node ∈ nodes) (witness : holds node) :
  ∃ first ∈ nodes, holds first ∧ ∀ source ∈ nodes, edge source first → ¬ holds source := by
  let below : { node // node ∈ nodes } → { node // node ∈ nodes } → Prop :=
    fun source target => Relation.TransGen edge source.1 target.1
  have : Finite { node // node ∈ nodes } := finite_toSet nodes
  have : IsTrans { node // node ∈ nodes } below := ⟨fun _ _ _ => .trans⟩
  have : Std.Irrefl below := ⟨fun node => acyclic node.1⟩
  have founded : WellFounded below := Finite.wellFounded_of_trans_of_irrefl below
  obtain ⟨first, firstHolds, minimal⟩ :=
    founded.has_min { node | holds node.1 } ⟨⟨node, member⟩, witness⟩
  refine ⟨first.1, first.2, firstHolds, fun source sourceMember step => ?_⟩
  exact fun sourceHolds =>
    minimal ⟨source, sourceMember⟩ sourceHolds (.single step)

/-- Of a finite graph, the accessible nodes are those no cycle leads to. -/
theorem acc_iff_unreached {nodes : List α} {edge : α → α → Prop}
  (sources : ∀ source target, edge source target → source ∈ nodes) :
  Acc edge node ↔ ∀ cycle, Relation.TransGen edge cycle cycle →
    ¬ Relation.ReflTransGen edge cycle node := by
  constructor
  · intro founded cycle closed path
    have grounded : Acc (Relation.TransGen edge) cycle := by
      have founded := acc_transGen_iff.2 founded
      obtain rfl | path := Relation.reflTransGen_iff_eq_or_transGen.1 path
      · exact founded
      · exact founded.inv path
    induction grounded with
    | intro other _ ih => exact ih other closed closed path
  · intro free
    by_contra ungrounded
    have acyclic : Acyclic fun source target : α =>
      edge source target ∧ Relation.ReflTransGen edge target node := by
      intro cycle closed
      obtain ⟨_, -, -, above⟩ := Relation.TransGen.tail'_iff.1 closed
      exact free cycle (Relation.TransGen.mono (fun _ _ => And.left) _ _ closed) above
    obtain ⟨first, -, ⟨above, lost⟩, minimal⟩ := acyclic.exists_first
      (node :: nodes) (fun other => Relation.ReflTransGen edge other node ∧
        ¬ Acc edge other) mem_cons_self ⟨.refl, ungrounded⟩
    refine lost (Acc.intro first fun source step => ?_)
    by_contra further
    exact minimal source (mem_cons_of_mem _ (sources source first step))
      ⟨step, above⟩ ⟨.head step above, further⟩

/-! The nodes reachable from a list of roots, by a worklist. Every step takes
one node off the queue; a node is expanded the first time it is met. -/

section

variable [DecidableEq α]

def successors (edges : List (α × α)) (node : α) : List α :=
  (edges.filter fun edge => edge.1 = node).map Prod.snd

variable {edges : List (α × α)}

theorem mem_successors : target ∈ successors edges source ↔ (source, target) ∈ edges := by
  simp [successors]

def explore (edges : List (α × α)) : Nat → List α → List α → List α
  | 0, _, seen => seen
  | _ + 1, [], seen => seen
  | fuel + 1, node :: queue, seen =>
    if node ∈ seen then explore edges fuel queue seen
    else explore edges fuel (queue ++ successors edges node) (seen ++ [node])

section

variable (edges : List (α × α))

/-- Every node is expanded once, so each edge enters the queue at most once. -/
def closure (roots : List α) : List α :=
  explore edges (roots.length + edges.length + 1) roots []

private def work (queue seen : List α) : Nat :=
  queue.length + (edges.filter fun edge => edge.1 ∉ seen).length

private theorem work_expand (queue : List α) (new : node ∉ seen) :
  work edges (queue ++ successors edges node) (seen ++ [node]) + 1 =
    work edges (node :: queue) seen := by
  have split : (edges.filter fun edge => edge.1 ∉ seen).length =
    (edges.filter fun edge => edge.1 = node).length +
      (edges.filter fun edge => edge.1 ∉ seen ++ [node]).length := by
    induction edges with
    | nil => rfl
    | cons edge _ ih =>
      by_cases same : edge.1 = node
      · simp only [filter_cons, same, new, decide_true, if_true,
          mem_append, mem_singleton, or_true, not_true_eq_false,
          decide_false, not_false_eq_true, Bool.false_eq_true, if_false,
          length_cons, ih]
        omega
      · by_cases met : edge.1 ∈ seen
        · simpa [filter_cons, same, met] using ih
        · simp only [filter_cons, same, met, mem_append,
            mem_singleton, or_self, not_false_eq_true, decide_true,
            decide_false, Bool.false_eq_true, if_true, if_false,
            length_cons, ih]
          omega
  simp only [work, successors, length_append, length_map, length_cons, split]
  omega

private theorem work_skip (node : α) (queue seen : List α) :
  work edges queue seen + 1 = work edges (node :: queue) seen := by
  simp only [work, length_cons]
  omega

end

private theorem explore_sound (reached : α → Prop)
  (closed : ∀ source target, (source, target) ∈ edges → reached source → reached target) :
  ∀ {fuel : Nat} {queue seen : List α},
    (∀ node ∈ queue, reached node) → (∀ node ∈ seen, reached node) →
    ∀ node ∈ explore edges fuel queue seen, reached node := by
  intro fuel
  induction fuel with
  | zero => exact fun _ seenReached => seenReached
  | succ _ ih =>
    intro queue seen queueReached seenReached
    cases queue with
    | nil => exact seenReached
    | cons head =>
      have headReached := queueReached head (by simp)
      simp only [explore]
      split
      · exact ih (fun node member =>
          queueReached node (by simp [member])) seenReached
      · refine ih ?_ ?_
        · intro node member
          rcases mem_append.1 member with member | member
          · exact queueReached node (by simp [member])
          · exact closed _ _ (mem_successors.1 member) headReached
        · intro node member
          rcases mem_append.1 member with member | member
          · exact seenReached node member
          · exact mem_singleton.1 member ▸ headReached

private def Covered (edges : List (α × α)) (queue seen : List α) : Prop :=
  ∀ source target, source ∈ seen → (source, target) ∈ edges → target ∈ seen ∨ target ∈ queue

private theorem explore_complete : ∀ (fuel : Nat) (queue seen : List α),
  work edges queue seen < fuel → Covered edges queue seen →
  (∀ node, node ∈ seen ∨ node ∈ queue → node ∈ explore edges fuel queue seen) ∧
  Covered edges [] (explore edges fuel queue seen) := by
  intro fuel
  induction fuel with
  | zero => exact fun _ _ enough => absurd enough (Nat.not_lt_zero _)
  | succ _ ih =>
    intro queue seen enough covered
    cases queue with
    | nil => exact ⟨fun node member => by simpa [explore] using member, covered⟩
    | cons head queue =>
      simp only [explore]
      split
      next met =>
        have less := work_skip edges head queue seen
        obtain ⟨keeps, closed⟩ := ih queue seen (by omega) (fun source target member step => by
          rcases covered source target member step with done | queued
          · exact .inl done
          · rcases mem_cons.1 queued with rfl | queued
            · exact .inl met
            · exact .inr queued)
        refine ⟨fun node member => keeps node ?_, closed⟩
        rcases member with done | queued
        · exact .inl done
        · rcases mem_cons.1 queued with rfl | queued
          · exact .inl met
          · exact .inr queued
      next new =>
        have less := work_expand edges queue new
        have moved {node : α} (member : node ∈ seen ∨ node ∈ head :: queue) :
          (node ∈ seen ∨ node = head) ∨ node ∈ queue ∨ node ∈ successors edges head := by
          rw [mem_cons] at member
          tauto
        obtain ⟨keeps, closed⟩ := ih
          (queue ++ successors edges head) (seen ++ [head]) (by omega) (by
            intro source target member step
            simp only [mem_append, mem_singleton] at member ⊢
            rcases member with member | rfl
            · exact moved (covered source target member step)
            · exact .inr (.inr (mem_successors.2 step)))
        refine ⟨fun node member => keeps node ?_, closed⟩
        simp only [mem_append, mem_singleton]
        exact moved member

theorem mem_closure_iff {roots : List α} : node ∈ closure edges roots ↔
  ∃ root ∈ roots, Relation.ReflTransGen
    (fun source target => (source, target) ∈ edges) root node := by
  constructor
  · refine explore_sound (fun node => ∃ root ∈ roots,
      Relation.ReflTransGen _ root node) ?_ ?_ (by simp) node
    · rintro _ _ step ⟨root, member, path⟩
      exact ⟨root, member, path.tail step⟩
    · exact fun root member => ⟨root, member, .refl⟩
  · rintro ⟨root, member, path⟩
    have bound : work edges roots [] < roots.length + edges.length + 1 := by
      have := length_filter_le (fun edge => edge.1 ∉ ([] : List α)) edges
      simp only [work]
      omega
    obtain ⟨keeps, closed⟩ := explore_complete _ _ _ bound
      (fun _ _ member => absurd member (not_mem_nil))
    induction path with
    | refl => exact keeps root (.inr member)
    | tail _ step ih =>
      rcases closed _ _ ih step with found | queued
      · exact found
      · exact absurd queued (not_mem_nil)

end

end VideoProcess.Data.Graph
