import VideoProcess.Data.Dict
import VideoProcess.Data.Graph

namespace VideoProcess.Data.Kahn

open Graph List

/-! Kahn's topological sort with a first-in first-out queue and a dictionary of
remaining in-degrees. -/

variable {α : Type} [DecidableEq α]

/-- Lower the in-degree of every target; one that reaches zero is queued. -/
def relax (degree : Dict α Int) (queue : List α) : List α → Dict α Int × List α
  | [] => (degree, queue)
  | target :: rest =>
    let remaining := degree.getD target 0 - 1
    relax (degree.set target remaining) (if remaining = 0 then queue ++ [target] else queue) rest

def loop (edges : List (α × α)) : Nat → Dict α Int → List α → List α → List α
  | 0, _, _, order => order
  | _ + 1, _, [], order => order
  | fuel + 1, degree, node :: queue, order =>
    let relaxed := relax degree queue (successors edges node)
    loop edges fuel relaxed.1 relaxed.2 (order ++ [node])

def waiting (edges : List (α × α)) (order : List α) (node : α) : Nat :=
  edges.countP fun edge => edge.2 = node ∧ edge.1 ∉ order

/-- Between two relaxations: the in-degrees count the edges still waiting and
those of `rest`, and nodes emitted or queued wait for nothing. -/
structure Progress (edges : List (α × α)) (nodes : List α)
  (degree : Dict α Int) (queue order rest : List α) : Prop where
  nodup : (order ++ queue).Nodup
  known : ∀ node ∈ order ++ queue, node ∈ nodes
  degrees : ∀ node, degree.getD node 0 = waiting edges order node + rest.count node
  settled : ∀ node ∈ order ++ queue, degree.getD node 0 = 0

namespace Progress

variable {edges : List (α × α)} {nodes : List α} {degree : Dict α Int} {queue order rest : List α}

private theorem relax_target (progress : Progress edges nodes degree queue order (target :: rest))
  (inside : target ∈ nodes) :
  let remaining := degree.getD target 0 - 1
  Progress edges nodes (degree.set target remaining)
    (if remaining = 0 then queue ++ [target] else queue) order rest := by
  intro remaining
  have positive : 0 < degree.getD target 0 := by
    rw [progress.degrees]
    simp only [count_cons_self]
    omega
  have new : target ∉ order ++ queue := fun member =>
    positive.ne' (progress.settled target member)
  have lowered : ∀ node, (degree.set target remaining).getD node 0 =
    waiting edges order node + rest.count node := by
    intro node
    rw [Dict.getD_set]
    split
    next same =>
      subst same
      have := progress.degrees target
      simp only [count_cons_self] at this
      omega
    next different =>
      have := progress.degrees node
      rwa [count_cons_of_ne different] at this
  by_cases zero : remaining = 0
  · rw [if_pos zero]
    refine ⟨?_, ?_, lowered, ?_⟩ <;> rw [← append_assoc]
    · rw [nodup_append]
      refine ⟨progress.nodup, nodup_singleton target, ?_⟩
      rintro _ leftMember _ rightMember rfl
      exact new (mem_singleton.1 rightMember ▸ leftMember)
    · intro node member
      rcases mem_append.1 member with member | member
      · exact progress.known node member
      · exact mem_singleton.1 member ▸ inside
    · intro node member
      rw [Dict.getD_set]
      split
      · exact zero
      next different =>
        rcases mem_append.1 member with member | member
        · exact progress.settled node member
        · exact absurd (mem_singleton.1 member).symm different
  · rw [if_neg zero]
    refine ⟨progress.nodup, progress.known, lowered, ?_⟩
    intro node member
    have other : ¬ target = node := by
      rintro rfl
      exact new member
    rw [Dict.getD_set, if_neg other]
    exact progress.settled node member

private theorem relax_all (progress : Progress edges nodes degree queue order rest)
  (inside : ∀ target ∈ rest, target ∈ nodes) :
  Progress edges nodes (relax degree queue rest).1 (relax degree queue rest).2 order [] := by
  induction rest generalizing degree queue with
  | nil => exact progress
  | cons target _ ih =>
    exact ih (progress.relax_target (inside target (by simp)))
      fun other member => inside other (by simp [member])

private theorem waiting_emit (edges : List (α × α)) (other : α) (new : node ∉ order) :
  waiting edges order other = waiting edges (order ++ [node]) other +
    (successors edges node).count other := by
  induction edges with
  | nil => rfl
  | cons edge =>
    simp only [waiting, successors, countP_cons, filter_cons] at *
    by_cases source : edge.1 = node
    · have emitted : edge.1 ∈ order ++ [node] := by simp [source]
      have fresh : edge.1 ∉ order := source ▸ new
      by_cases target : edge.2 = other
      · simp only [source ▸ emitted, source ▸ fresh, source, target,
          decide_true, if_true, true_and, not_false_eq_true,
          not_true_eq_false, decide_false, Bool.false_eq_true, if_false,
          map_cons, count_cons_self]
        omega
      · simp only [source, target, false_and, decide_false, decide_true,
          Bool.false_eq_true, if_false, if_true, map_cons,
          count_cons_of_ne target]
        omega
    · have same : edge.1 ∈ order ++ [node] ↔ edge.1 ∈ order := by simp [source]
      simp only [source, same, decide_false, Bool.false_eq_true, if_false]
      omega

private theorem emit (progress : Progress edges nodes degree (node :: queue) order []) :
  Progress edges nodes degree queue (order ++ [node]) (successors edges node) := by
  have shifted : order ++ [node] ++ queue = order ++ node :: queue := by simp
  have new : node ∉ order := fun member =>
    (nodup_append.1 progress.nodup).2.2 node member node (by simp) rfl
  refine ⟨shifted ▸ progress.nodup, shifted ▸ progress.known, ?_, shifted ▸ progress.settled⟩
  intro other
  have before := progress.degrees other
  rw [waiting_emit edges other new] at before
  simp only [count_nil] at before
  omega

end Progress

variable {edges : List (α × α)} {nodes : List α}

theorem loop_progress (inside : ∀ edge ∈ edges, edge.2 ∈ nodes) :
  ∀ {fuel : Nat} {degree : Dict α Int} {queue order : List α},
    Progress edges nodes degree queue order [] →
    (loop edges fuel degree queue order).Nodup ∧
      ∀ node ∈ loop edges fuel degree queue order, node ∈ nodes := by
  intro fuel
  induction fuel with
  | zero =>
    intro degree queue order progress
    exact ⟨(nodup_append.1 progress.nodup).1,
      fun node member => progress.known node (by simp [loop] at member; simp [member])⟩
  | succ _ ih =>
    intro degree queue order progress
    cases queue with
    | nil =>
      exact ⟨(nodup_append.1 progress.nodup).1, fun node member =>
        progress.known node (by simp [loop] at member; simp [member])⟩
    | cons node =>
      refine ih (progress.emit.relax_all ?_)
      intro target member
      exact inside (node, target) (mem_successors.1 member)

/-- Between two relaxations: a node whose in-degree is down to zero is emitted
or queued, and what is emitted or queued comes after its predecessors. -/
structure Served (edges : List (α × α)) (nodes : List α)
  (degree : Dict α Int) (queue order : List α) : Prop where
  all : ∀ node ∈ nodes, degree.getD node 0 = 0 → node ∈ order ++ queue
  grounded : ∀ node ∈ order ++ queue, Acc (fun source target => (source, target) ∈ edges) node

section

variable {degree : Dict α Int} {queue order rest : List α}

private theorem mem_of_waiting (none : waiting edges order node = 0)
  (step : (source, node) ∈ edges) : source ∈ order := by
  by_contra absent
  have := countP_eq_zero.1 none (source, node) step
  simp [absent] at this

private theorem Served.relax_target (served : Served edges nodes degree queue order)
  (progress : Progress edges nodes degree queue order (target :: rest)) :
  let remaining := degree.getD target 0 - 1
  Served edges nodes (degree.set target remaining)
    (if remaining = 0 then queue ++ [target] else queue) order := by
  intro remaining
  constructor
  · intro node member zero
    rw [Dict.getD_set] at zero
    split at zero
    next same =>
      rw [if_pos zero, same]
      simp
    · have kept := served.all node member zero
      split
      · rw [← append_assoc]
        exact mem_append_left _ kept
      · exact kept
  · intro node member
    split at member
    next zero =>
      rw [← append_assoc] at member
      obtain member | member := mem_append.1 member
      · exact served.grounded node member
      · -- The last edge that the node waited for is relaxed now.
        rw [mem_singleton.1 member]
        have counted := progress.degrees target
        simp only [count_cons_self] at counted
        have none : waiting edges order target = 0 := by omega
        refine Acc.intro target fun source step => ?_
        exact served.grounded source (mem_append_left _ (mem_of_waiting none step))
    · exact served.grounded node member

private theorem Served.relax_all (inside : ∀ target ∈ rest, target ∈ nodes)
  (served : Served edges nodes degree queue order)
  (progress : Progress edges nodes degree queue order rest) :
  Served edges nodes (relax degree queue rest).1 (relax degree queue rest).2 order := by
  induction rest generalizing degree queue with
  | nil => exact served
  | cons target _ ih =>
    exact ih (fun other member => inside other (by simp [member])) (served.relax_target progress)
      (progress.relax_target (inside target (by simp)))

theorem loop_served (inside : ∀ edge ∈ edges, edge.2 ∈ nodes) :
  ∀ {fuel : Nat} {degree : Dict α Int} {queue order : List α},
    Progress edges nodes degree queue order [] →
    Served edges nodes degree queue order →
    nodes.length < fuel + order.length →
    (∀ node ∈ loop edges fuel degree queue order,
      Acc (fun source target => (source, target) ∈ edges) node) ∧
    ∀ node ∈ nodes, (∀ source, (source, node) ∈ edges →
      source ∈ loop edges fuel degree queue order) →
      node ∈ loop edges fuel degree queue order := by
  intro fuel
  induction fuel with
  | zero =>
    intro degree queue order progress _ enough
    have distinct := (nodup_append.1 progress.nodup).1
    have inside : order ⊆ nodes := fun node member =>
      progress.known node (mem_append_left _ member)
    have := (subperm_of_subset distinct inside).length_le
    omega
  | succ _ ih =>
    intro degree queue order progress served enough
    cases queue with
    | nil =>
      rw [loop]
      refine ⟨fun node member =>
        served.grounded node (mem_append_left _ member),
        fun node member preceded => ?_⟩
      have none : waiting edges order node = 0 := by
        rw [waiting, countP_eq_zero]
        intro edge held
        simp only [decide_eq_true_eq, not_and, not_not]
        rintro rfl
        exact preceded edge.1 held
      have zero : degree.getD node 0 = 0 := by
        rw [progress.degrees, none]
        rfl
      simpa using served.all node member zero
    | cons node queue =>
      have inner : ∀ target ∈ successors edges node, target ∈ nodes :=
        fun target member =>
          inside (node, target) (mem_successors.1 member)
      have shifted : order ++ [node] ++ queue = order ++ node :: queue := by simp
      have emitted : Served edges nodes degree queue (order ++ [node]) :=
        ⟨shifted ▸ served.all, shifted ▸ served.grounded⟩
      refine ih (progress.emit.relax_all inner) (emitted.relax_all inner progress.emit) ?_
      rw [length_append, length_singleton]
      omega

theorem loop_ordered (inside : ∀ edge ∈ edges, edge.2 ∈ nodes) :
  ∀ {fuel : Nat} {degree : Dict α Int} {queue order : List α},
    Progress edges nodes degree queue order [] →
    (∀ edge ∈ edges, edge.2 ∈ order → [edge.1, edge.2].Sublist order) →
    ∀ edge ∈ edges, edge.2 ∈ loop edges fuel degree queue order →
      [edge.1, edge.2].Sublist (loop edges fuel degree queue order) := by
  intro fuel
  induction fuel with
  | zero => exact fun _ ordered => ordered
  | succ _ ih =>
    intro degree queue order progress ordered
    cases queue with
    | nil => exact ordered
    | cons node =>
      refine ih (progress.emit.relax_all ?_) ?_
      · exact fun target member =>
          inside (node, target) (mem_successors.1 member)
      · rintro ⟨_, target⟩ held emitted
        obtain earlier | own := mem_append.1 emitted
        · exact (ordered _ held earlier).trans (sublist_append_left order [node])
        · obtain rfl : target = node := mem_singleton.1 own
          have none : waiting edges order target = 0 := by
            have settled := progress.settled target (by simp)
            rw [progress.degrees] at settled
            simpa using settled
          exact (singleton_sublist.2 (mem_of_waiting none held)).append (.refl [target])

theorem mem_loop_iff (sources : ∀ edge ∈ edges, edge.1 ∈ nodes)
  (targets : ∀ edge ∈ edges, edge.2 ∈ nodes)
  (counted : ∀ node, degree.getD node 0 = edges.countP (·.2 = node))
  (distinct : queue.Nodup)
  (queued : ∀ node, node ∈ queue ↔ node ∈ nodes ∧ degree.getD node 0 = 0)
  (enough : nodes.length < fuel) {node : α} :
  node ∈ loop edges fuel degree queue [] ↔ node ∈ nodes ∧
    Acc (fun source target => (source, target) ∈ edges) node := by
  have progress : Progress edges nodes degree queue [] [] :=
    ⟨distinct, fun node member => ((queued node).1 member).1,
      fun node => by simpa [waiting] using counted node,
      fun node member => ((queued node).1 member).2⟩
  have served : Served edges nodes degree queue [] := by
    refine ⟨fun node member zero => (queued node).2 ⟨member, zero⟩, ?_⟩
    intro node member
    have none := counted node
    rw [((queued node).1 member).2] at none
    refine Acc.intro node fun source step => ?_
    have := countP_eq_zero.1 (Int.ofNat_eq_zero.1 none.symm) _ step
    simp at this
  obtain ⟨grounded, closed⟩ :=
    @loop_served _ _ _ _ targets fuel _ _ _ progress served (by simpa using enough)
  constructor
  · exact fun member => ⟨(loop_progress targets progress).2 node member, grounded node member⟩
  · rintro ⟨member, founded⟩
    induction founded with
    | intro node _ ih =>
      exact closed node member fun source step =>
        ih source step (sources _ step)

end

section

variable {start : Dict α Int}

def inDegrees (start : Dict α Int) (edges : List (α × α)) : Dict α Int :=
  edges.foldl (fun degree edge => degree.modify edge.2 0 (· + 1)) start

theorem getD_inDegrees (start : Dict α Int) (edges : List (α × α)) (node : α) :
  (inDegrees start edges).getD node 0 = start.getD node 0 + edges.countP (·.2 = node) := by
  unfold inDegrees
  induction edges generalizing start with
  | nil => simp
  | cons edge _ ih =>
    rw [foldl_cons, ih, Dict.getD_modify, countP_cons]
    by_cases same : edge.2 = node <;> simp [same]
    omega

theorem keys_inDegrees (inside : ∀ edge ∈ edges, edge.2 ∈ start.keys) :
  (inDegrees start edges).keys = start.keys := by
  unfold inDegrees
  induction edges generalizing start with
  | nil => rfl
  | cons edge _ ih =>
    have kept : (start.modify edge.2 0 (· + 1)).keys = start.keys := by
      rw [Dict.modify, Dict.keys_set, if_pos (inside edge (by simp))]
    rw [foldl_cons, ih, kept]
    intro other member
    rw [kept]
    exact inside other (by simp [member])

/-- The sort, with the nodes without predecessors in the order of `keys`. -/
def sort (edges : List (α × α)) (fuel : Nat) (degree : Dict α Int) (keys : List α) : List α :=
  loop edges fuel degree (keys.filter fun node => degree.getD node 0 = 0) []

theorem sort_spec (zero : ∀ node, start.getD node 0 = 0)
  (keyed : ∀ node, node ∈ start.keys ↔ node ∈ nodes)
  (sources : ∀ edge ∈ edges, edge.1 ∈ nodes)
  (targets : ∀ edge ∈ edges, edge.2 ∈ nodes) {keys : List α}
  (ordered : keys.Perm (inDegrees start edges).keys)
  (enough : nodes.length < fuel) :
  (sort edges fuel (inDegrees start edges) keys).Nodup ∧
    (∀ node, node ∈ sort edges fuel (inDegrees start edges) keys ↔ node ∈ nodes ∧
      Acc (fun source target => (source, target) ∈ edges) node) ∧
    ∀ edge ∈ edges, edge.2 ∈ sort edges fuel (inDegrees start edges) keys →
      [edge.1, edge.2].Sublist (sort edges fuel (inDegrees start edges) keys) := by
  have counted (node : α) : (inDegrees start edges).getD node 0 = edges.countP (·.2 = node) := by
    rw [getD_inDegrees, zero, Int.zero_add]
  have distinct : (keys.filter fun node =>
    (inDegrees start edges).getD node 0 = 0).Nodup :=
    (ordered.nodup_iff.2 (inDegrees start edges).nodup).filter _
  have queued (node : α) : node ∈ (keys.filter fun node =>
    (inDegrees start edges).getD node 0 = 0) ↔
      node ∈ nodes ∧ (inDegrees start edges).getD node 0 = 0 := by
    rw [mem_filter, ordered.mem_iff, decide_eq_true_eq,
      keys_inDegrees fun edge held => (keyed _).2 (targets edge held), keyed]
  have progress : Progress edges nodes (inDegrees start edges)
    (keys.filter fun node => (inDegrees start edges).getD node 0 = 0) [] [] :=
    ⟨distinct, fun node member => ((queued node).1 member).1,
      fun node => by simpa [waiting] using counted node,
      fun node member => ((queued node).1 member).2⟩
  exact ⟨(loop_progress targets progress).1, fun node =>
    mem_loop_iff sources targets counted distinct queued enough,
    loop_ordered targets progress (by simp)⟩

end

end VideoProcess.Data.Kahn
