import Mathlib.Tactic.Linarith

namespace VideoProcess.Worker.MergeWindows

open List

/-! `_merge_windows` of `smart_trim.py`, over exact rationals. -/

structure ScoredWindow where
  start : Rat
  finish : Rat
  score : Rat
  visualScore : Rat
  subtitleScore : Rat
  keywordScore : Rat

def ScoredWindow.length (window : ScoredWindow) : Rat := window.finish - window.start

def merge (current window : ScoredWindow) : ScoredWindow where
  start := current.start
  finish := max current.finish window.finish
  score := (current.score * current.length + window.score * window.length) /
    max (1 / 1000) (current.length + window.length)
  visualScore := max current.visualScore window.visualScore
  subtitleScore := max current.subtitleScore window.subtitleScore
  keywordScore := max current.keywordScore window.keywordScore

variable (gap : Rat)

/-- The loop from where `current` is the last of `merged`. -/
def mergeFrom (current : ScoredWindow) : List ScoredWindow → List ScoredWindow
  | [] => [current]
  | window :: rest =>
    if window.start - current.finish ≤ gap then mergeFrom (merge current window) rest
    else current :: mergeFrom window rest

def mergeWindows : List ScoredWindow → List ScoredWindow
  | [] => []
  | window :: rest => mergeFrom gap window rest

def Within (window output : ScoredWindow) : Prop :=
  output.start ≤ window.start ∧ window.finish ≤ output.finish

/-- A stretch of at most `gap` around `point`, inside of `output`, that no window enters. -/
def Bridged (windows : List ScoredWindow) (output : ScoredWindow) (point : Rat) : Prop :=
  ∃ before ∈ windows, ∃ after ∈ windows, before.finish < point ∧ point < after.start ∧
    after.start - before.finish ≤ gap ∧ output.start ≤ before.finish ∧
    after.start ≤ output.finish ∧
    ∀ window ∈ windows, window.finish ≤ before.finish ∨ after.start ≤ window.start

structure Spans (windows : List ScoredWindow) (output : ScoredWindow) : Prop where
  upright : output.start ≤ output.finish
  starts : ∃ window ∈ windows, window.start = output.start
  finishes : ∃ window ∈ windows, window.finish = output.finish
  covered : ∀ point, output.start ≤ point → point ≤ output.finish →
    (∃ window ∈ windows, window.start ≤ point ∧ point ≤ window.finish) ∨
      Bridged gap windows output point
  scored : (∀ window ∈ windows, 1 / 1000 ≤ window.length) → ∃ low ∈ windows, ∃ high ∈ windows,
    Within low output ∧ Within high output ∧ low.score ≤ output.score ∧ output.score ≤ high.score

structure Partition (windows outputs : List ScoredWindow) : Prop where
  separate : outputs.Pairwise fun earlier later =>
    earlier.start ≤ later.start ∧ gap < later.start - earlier.finish
  owned : ∀ window ∈ windows, ∃! output, output ∈ outputs ∧ Within window output
  spans : ∀ output ∈ outputs, Spans gap windows output

variable {gap} {windows rest : List ScoredWindow} {current window output : ScoredWindow}

theorem merge_score (nonneg : 0 ≤ current.length) (long : 1 / 1000 ≤ window.length) :
  min current.score window.score ≤ (merge current window).score ∧
    (merge current window).score ≤ max current.score window.score := by
  have total : 1 / 1000 ≤ current.length + window.length := by linarith
  have positive : 0 < current.length + window.length := by linarith
  simp only [merge, max_eq_right total, le_div_iff₀ positive, div_le_iff₀ positive, mul_add]
  have width : 0 ≤ window.length := by linarith
  exact ⟨add_le_add (mul_le_mul_of_nonneg_right (min_le_left _ _) nonneg)
      (mul_le_mul_of_nonneg_right (min_le_right _ _) width),
    add_le_add (mul_le_mul_of_nonneg_right (le_max_left _ _) nonneg)
      (mul_le_mul_of_nonneg_right (le_max_right _ _) width)⟩

theorem Spans.single (valid : window.start ≤ window.finish) : Spans gap [window] window where
  upright := valid
  starts := ⟨window, by simp⟩
  finishes := ⟨window, by simp⟩
  covered := fun _ after before => .inl ⟨window, by simp, after, before⟩
  scored := fun _ => ⟨window, by simp, window, by simp [Within]⟩

/-- Windows on either side of an output change nothing for it. -/
theorem Spans.mono (spans : Spans gap windows output) (part : windows ⊆ rest)
  (apart : ∀ window ∈ rest,
    window ∈ windows ∨ window.finish < output.start ∨ output.finish < window.start) :
  Spans gap rest output where
  upright := spans.upright
  starts := spans.starts.imp fun _ first => ⟨part first.1, first.2⟩
  finishes := spans.finishes.imp fun _ last => ⟨part last.1, last.2⟩
  covered := by
    intro point after before
    obtain ⟨window, inside, covers⟩ | ⟨left, leftOf, right, rightOf, low, high, short, starts,
      finishes, free⟩ := spans.covered point after before
    · exact .inl ⟨window, part inside, covers⟩
    · refine .inr ⟨left, part leftOf, right, part rightOf, low, high, short, starts, finishes, ?_⟩
      intro window member
      rcases apart window member with own | earlier | later
      · exact free window own
      · exact .inl (earlier.le.trans starts)
      · exact .inr (finishes.trans later.le)
  scored := by
    intro long
    obtain ⟨low, lowOf, high, highOf, bounds⟩ := spans.scored fun _ own => long _ (part own)
    exact ⟨low, part lowOf, high, part highOf, bounds⟩

theorem Within.merge_left (within : Within window current) : Within window (merge current output) :=
  ⟨within.1, within.2.trans (le_max_left _ _)⟩

theorem Spans.merge (spans : Spans gap windows current)
  (inside : ∀ earlier ∈ windows, Within earlier current)
  (later : ∀ earlier ∈ windows, earlier.start ≤ window.start)
  (valid : window.start ≤ window.finish) (near : window.start - current.finish ≤ gap) :
  Spans gap (windows ++ [window]) (merge current window) ∧
    ∀ earlier ∈ windows ++ [window], Within earlier (merge current window) := by
  obtain ⟨first, firstOf, starts⟩ := spans.starts
  obtain ⟨last, lastOf, finishes⟩ := spans.finishes
  have old := subset_append_left windows [window]
  have all {holds : ScoredWindow → Prop} (before : ∀ earlier ∈ windows, holds earlier)
      (here : holds window) : ∀ earlier ∈ windows ++ [window], holds earlier :=
    forall_mem_append.2 ⟨before, forall_mem_singleton.2 here⟩
  have around : Within window (MergeWindows.merge current window) :=
    ⟨starts ▸ later first firstOf, le_max_right _ _⟩
  refine ⟨⟨spans.upright.trans (le_max_left _ _), ⟨first, old firstOf, starts⟩, ?_, ?_, ?_⟩,
    all (fun earlier member => (inside earlier member).merge_left) around⟩
  · rcases le_total window.finish current.finish with short | long
    · exact ⟨last, old lastOf, by simp [MergeWindows.merge, finishes, short]⟩
    · exact ⟨window, by simp, by simp [MergeWindows.merge, long]⟩
  · intro point after before
    rcases le_or_gt point current.finish with reached | ahead
    · obtain ⟨earlier, member, covers⟩ | ⟨left, leftOf, right, rightOf, low, high, short, starts,
        finishes, free⟩ := spans.covered point after reached
      · exact .inl ⟨earlier, old member, covers⟩
      · exact .inr ⟨left, old leftOf, right, old rightOf, low, high, short, starts,
          finishes.trans (le_max_left _ _), all free (.inr (later right rightOf))⟩
    · rcases le_or_gt window.start point with covers | waits
      · exact .inl ⟨window, by simp, covers, (le_max_iff.1 before).resolve_left ahead.not_ge⟩
      · -- The stretch from where `current` ends to where the window starts.
        refine .inr ⟨last, old lastOf, window, by simp, finishes ▸ ahead, waits, finishes ▸ near,
          finishes ▸ spans.upright, valid.trans (le_max_right _ _), all ?_ (.inr le_rfl)⟩
        exact fun earlier member => .inl (finishes ▸ (inside earlier member).2)
  · intro long
    rw [forall_mem_append, forall_mem_singleton] at long
    obtain ⟨low, lowOf, high, highOf, lowIn, highIn, above, below⟩ := spans.scored long.1
    obtain ⟨least, most⟩ := merge_score (sub_nonneg.2 spans.upright) long.2
    rcases le_total current.score window.score with rises | falls
    · rw [min_eq_left rises] at least
      rw [max_eq_right rises] at most
      exact ⟨low, old lowOf, window, by simp, lowIn.merge_left, around, above.trans least, most⟩
    · rw [min_eq_right falls] at least
      rw [max_eq_left falls] at most
      exact ⟨window, by simp, high, old highOf, around, highIn.merge_left, least, most.trans below⟩

theorem mergeFrom_partition (nonneg : 0 ≤ gap)
  (sorted : (windows ++ rest).Pairwise (·.start ≤ ·.start))
  (valid : ∀ window ∈ windows ++ rest, window.start ≤ window.finish)
  (spans : Spans gap windows current) (inside : ∀ earlier ∈ windows, Within earlier current) :
  Partition gap (windows ++ rest) (mergeFrom gap current rest) := by
  induction rest generalizing windows current with
  | nil =>
    rw [append_nil, mergeFrom]
    exact ⟨by simp, fun window member => ⟨current, ⟨by simp, inside window member⟩, by simp⟩,
      by simpa using spans⟩
  | cons window rest ih =>
    have ordered := pairwise_append.1 sorted
    have wide := valid window (by simp)
    rw [mergeFrom]
    split
    next near =>
      rw [append_cons] at sorted valid ⊢
      obtain ⟨spans, inside⟩ := spans.merge inside (fun earlier member =>
        ordered.2.2 earlier member window mem_cons_self) wide near
      exact ih sorted valid spans inside
    next far =>
      obtain ⟨separate, owned, spanned⟩ := @ih [window] window ordered.2.1
        (fun other member => valid other (mem_append_right _ member)) (.single wide)
        (by simp [Within])
      have beyond : ∀ other ∈ window :: rest, gap < other.start - current.finish := by
        intro other member
        have follows : window.start ≤ other.start := by
          rcases mem_cons.1 member with rfl | behind
          · exact le_rfl
          · exact (pairwise_cons.1 ordered.2.1).1 other behind
        linarith
      have past : ∀ output ∈ mergeFrom gap window rest, gap < output.start - current.finish := by
        intro output member
        obtain ⟨first, firstOf, starts⟩ := (spanned output member).starts
        exact starts ▸ beyond first firstOf
      have upright := spans.upright
      refine ⟨pairwise_cons.2 ⟨fun output member => ?_, separate⟩,
        forall_mem_append.2 ⟨fun other old => ?_, fun other new => ?_⟩,
        forall_mem_cons.2 ⟨?_, fun output member => ?_⟩⟩
      · have := past output member
        exact ⟨by linarith, this⟩
      · refine ⟨current, ⟨mem_cons_self, inside other old⟩, fun output => ?_⟩
        rintro ⟨found, around⟩
        refine (mem_cons.1 found).resolve_right fun member => ?_
        linarith [past output member, around.1, (inside other old).2,
          valid other (mem_append_left _ old)]
      · obtain ⟨output, ⟨found, around⟩, only⟩ := owned other new
        refine ⟨output, ⟨mem_cons_of_mem _ found, around⟩, fun another => ?_⟩
        rintro ⟨present, encloses⟩
        refine only another ⟨(mem_cons.1 present).resolve_left ?_, encloses⟩
        rintro rfl
        linarith [beyond other new, encloses.2, valid other (mem_append_right _ new)]
      · refine spans.mono (subset_append_left _ _) (forall_mem_append.2
          ⟨fun _ => .inl, fun other new => .inr (.inr ?_)⟩)
        linarith [beyond other new]
      · refine (spanned output member).mono (subset_append_right _ _)
          (forall_mem_append.2 ⟨fun other old => .inr (.inl ?_), fun _ => .inl⟩)
        linarith [past output member, (inside other old).2]

theorem mergeFrom_head : ∃ output outputs, mergeFrom gap current windows = output :: outputs ∧
    output.start = current.start := by
  fun_induction mergeFrom gap current windows with
  | case1 | case3 => exact ⟨_, _, rfl, rfl⟩
  | case2 _ _ _ _ ih => exact ih

/-- Nothing is left to merge, whatever the order of the windows was. -/
theorem mergeWindows_idem :
  mergeWindows gap (mergeWindows gap windows) = mergeWindows gap windows := by
  cases windows with
  | nil => rfl
  | cons window rest =>
    rw [mergeWindows]
    fun_induction mergeFrom gap window rest with
    | case1 => rfl
    | case2 _ _ _ _ ih => exact ih
    | case3 current window rest apart ih =>
      obtain ⟨output, outputs, merged, starts⟩ := @mergeFrom_head gap rest window
      rw [merged] at ih ⊢
      rw [mergeWindows, mergeFrom, if_neg (starts ▸ apart)]
      exact congrArg _ ih

theorem mergeWindows_partition (nonneg : 0 ≤ gap) (sorted : windows.Pairwise (·.start ≤ ·.start))
  (valid : ∀ window ∈ windows, window.start ≤ window.finish) :
  Partition gap windows (mergeWindows gap windows) := by
  cases windows with
  | nil => exact ⟨.nil, by simp, by simp [mergeWindows]⟩
  | cons window rest =>
    exact @mergeFrom_partition gap [window] rest window nonneg sorted valid
      (.single (valid window (by simp))) (by simp [Within])

theorem mergeWindows_partition_pair :
  Partition 1 [⟨0, 2, 1, 0, 0, 0⟩, ⟨3, 4, 0, 0, 0, 0⟩]
    (mergeWindows 1 [⟨0, 2, 1, 0, 0, 0⟩, ⟨3, 4, 0, 0, 0, 0⟩]) :=
  mergeWindows_partition (by decide) (by simp) (by norm_num)

end VideoProcess.Worker.MergeWindows
