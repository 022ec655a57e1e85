import VideoProcess.Program.Pool
import Mathlib.Data.List.Nodup

namespace VideoProcess.Program

/-! Actions that are taken at most once for each key, and are owed in
between. -/

structure Ledger (σ γ κ : Type) where
  taken : σ → κ → Nat
  owed : γ → List κ
  begun : σ → κ → Prop

namespace Ledger

variable {σ γ δ κ : Type} [DecidableEq κ] (L : Ledger σ γ κ)

def tally (state : σ) (books : List (γ × δ)) (key : κ) : Nat :=
  L.taken state key + (books.flatMap fun book => L.owed book.1).count key

structure Sound (state : σ) (books : List (γ × δ)) : Prop where
  once : ∀ key, L.tally state books key ≤ 1
  begun : ∀ key, L.tally state books key ≠ 0 → L.begun state key

variable {L} {state after : σ} {front back : List (γ × δ)} {note : γ} {heard : δ}

theorem Sound.of_le (sound : L.Sound state books)
  (begun : ∀ key, L.begun state key → L.begun after key)
  (fewer : ∀ key, L.tally after later key ≤ L.tally state books key) :
  L.Sound after later where
  once key := Nat.le_trans (fewer key) (sound.once key)
  begun key counted := by
    apply begun
    apply sound.begun
    have := fewer key
    omega

theorem sound_nil (fresh : ∀ key, L.taken state key = 0) : L.Sound state ([] : List (γ × δ)) :=
  ⟨by simp [tally, fresh], by simp [tally, fresh]⟩

theorem Sound.start (sound : L.Sound state books) (free : L.owed note = []) :
  L.Sound state (books ++ [(note, heard)]) := by
  apply sound.of_le fun _ begun => begun
  intro key
  simp [tally, free]

section

variable (sound : L.Sound state (front ++ (note, heard) :: back))

include sound

theorem Sound.leave : L.Sound state (front ++ back) := by
  apply sound.of_le fun _ begun => begun
  intro key
  simp only [tally, List.flatMap_append, List.flatMap_cons, List.count_append]
  omega

section

variable (begun : ∀ key, L.begun state key → L.begun after key)

include begun

theorem Sound.keep (same : ∀ key, L.taken after key = L.taken state key)
  (owed : L.owed next = L.owed note) :
  L.Sound after (front ++ (next, resumed) :: back) := by
  apply sound.of_le begun
  intro key
  simp [tally, same, owed]

theorem Sound.take {key : κ}
  (taken : ∀ other, L.taken after other = L.taken state other + if key = other then 1 else 0)
  (owed : L.owed note = key :: L.owed next) :
  L.Sound after (front ++ (next, resumed) :: back) := by
  apply sound.of_le begun
  intro other
  simp only [tally, taken, owed, List.flatMap_append, List.flatMap_cons,
    List.count_append, List.count_cons, beq_iff_eq]
  omega

theorem Sound.owe (same : ∀ key, L.taken after key = L.taken state key)
  (nodup : (L.owed next).Nodup)
  (fresh : ∀ key ∈ L.owed next, ¬ L.begun state key ∧ L.begun after key) :
  L.Sound after (front ++ (next, resumed) :: back) := by
  have grown (key : κ) : L.tally after (front ++ (next, resumed) :: back) key ≤
    L.tally state (front ++ (note, heard) :: back) key + (L.owed next).count key := by
    simp only [tally, same, List.flatMap_append, List.flatMap_cons, List.count_append]
    omega
  constructor
  · intro key
    apply Nat.le_trans (grown key)
    by_cases member : key ∈ L.owed next
    · -- Nobody has counted a key that is owed only now.
      have new : L.tally state (front ++ (note, heard) :: back) key = 0 := by
        by_contra counted
        exact (fresh key member).1 (sound.begun key counted)
      rw [new, Nat.zero_add]
      exact List.nodup_iff_count_le_one.1 nodup key
    · rw [List.count_eq_zero_of_not_mem member]
      exact sound.once key
  · intro key counted
    by_cases member : key ∈ L.owed next
    · exact (fresh key member).2
    · apply begun key
      apply sound.begun key
      have fewer := grown key
      rw [List.count_eq_zero_of_not_mem member] at fewer
      omega

end

end

theorem Sound.taken_le_one (sound : L.Sound state books) (key : κ) : L.taken state key ≤ 1 :=
  Nat.le_trans (Nat.le_add_right _ _) (sound.once key)

end Ledger

end VideoProcess.Program
