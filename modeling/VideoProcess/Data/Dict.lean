import Mathlib.Data.List.Nodup

namespace VideoProcess.Data

open List

/-! Dictionaries in insertion order. -/

structure Dict (κ ν : Type) where
  entries : List (κ × ν)
  nodup : (entries.map Prod.fst).Nodup
deriving DecidableEq

namespace Dict

variable {κ ν : Type} [DecidableEq κ]

def empty : Dict κ ν := ⟨[], .nil⟩

section

variable (dict : Dict κ ν)

def keys : List κ := dict.entries.map Prod.fst

variable (key : κ)

def get? : Option ν :=
  (dict.entries.find? fun entry => entry.1 = key).map Prod.snd

def getD (default : ν) : ν := (dict.get? key).getD default

private def assign (key : κ) (value : ν) : List (κ × ν) → List (κ × ν)
  | [] => [(key, value)]
  | entry :: rest =>
    if entry.1 = key then (key, value) :: rest
    else entry :: assign key value rest

private theorem keys_assign (value : ν) (entries : List (κ × ν)) :
  (assign key value entries).map Prod.fst = if key ∈ entries.map Prod.fst then entries.map Prod.fst
    else entries.map Prod.fst ++ [key] := by
  induction entries with
  | nil => simp [assign]
  | cons entry _ ih =>
    simp only [assign]
    split
    next same =>
      subst same
      simp
    next different =>
      have absent : ¬ key = entry.1 := fun same => different same.symm
      simp only [map_cons, ih, mem_cons, absent, false_or]
      split <;> simp

def set (value : ν) : Dict κ ν where
  entries := assign key value dict.entries
  nodup := by
    rw [keys_assign]
    split
    · exact dict.nodup
    next absent =>
      exact nodup_append.2 ⟨dict.nodup, nodup_singleton key,
        fun left leftMember right rightMember same =>
          absent (mem_singleton.1 rightMember ▸ same ▸ leftMember)⟩

def modify (default : ν) (change : ν → ν) : Dict κ ν :=
  dict.set key (change (dict.getD key default))

def mapValues (change : κ → ν → ν) : Dict κ ν where
  entries := dict.entries.map fun entry => (entry.1, change entry.1 entry.2)
  nodup := by
    rw [map_map]
    exact dict.nodup

end

omit [DecidableEq κ] in
theorem keys_mapValues (dict : Dict κ ν) (change : κ → ν → ν) :
  (dict.mapValues change).keys = dict.keys := by
  unfold keys mapValues
  rw [map_map]
  rfl

theorem get?_mapValues (dict : Dict κ ν) (change : κ → ν → ν) (key : κ) :
  (dict.mapValues change).get? key = (dict.get? key).map (change key) := by
  unfold get? mapValues
  rw [find?_map, Option.map_map, Option.map_map]
  change Option.map _ (dict.entries.find? fun entry => entry.1 = key) = _
  cases found : dict.entries.find? (fun entry => entry.1 = key) with
  | none => rfl
  | some entry =>
    have named : entry.1 = key := by simpa using find?_some found
    subst named
    rfl

theorem keys_set (dict : Dict κ ν) (key : κ) (value : ν) : (dict.set key value).keys =
  if key ∈ dict.keys then dict.keys else dict.keys ++ [key] :=
  keys_assign key value dict.entries

private theorem find?_assign (key : κ) (value : ν) (wanted : κ) (entries : List (κ × ν)) :
  ((assign key value entries).find? fun entry => entry.1 = wanted) =
    if key = wanted then some (key, value)
    else entries.find? fun entry => entry.1 = wanted := by
  induction entries with
  | nil => by_cases same : key = wanted <;> simp [assign, same]
  | cons entry _ ih =>
    by_cases same : entry.1 = key
    · by_cases found : key = wanted
      · simp [assign, same, found]
      · simp [assign, same, found]
    · by_cases found : entry.1 = wanted
      · have other : ¬ key = wanted := fun equal =>
          same (found.trans equal.symm)
        rw [assign, if_neg same, if_neg other]
        simp [found]
      · simpa [assign, same, found] using ih

theorem get?_set (dict : Dict κ ν) (key : κ) (value : ν) (wanted : κ) :
  (dict.set key value).get? wanted = if key = wanted then some value else dict.get? wanted := by
  change Option.map Prod.snd (find? _ (assign key value dict.entries)) = _
  rw [find?_assign]
  split <;> rfl

theorem getD_set (dict : Dict κ ν) (key : κ) (value default : ν) (wanted : κ) :
  (dict.set key value).getD wanted default =
    if key = wanted then value else dict.getD wanted default := by
  unfold getD
  rw [get?_set]
  split <;> rfl

theorem getD_modify (dict : Dict κ ν) (key : κ) (default : ν) (change : ν → ν) (wanted : κ) :
  (dict.modify key default change).getD wanted default =
    if key = wanted then change (dict.getD wanted default)
    else dict.getD wanted default := by
  rw [modify, getD_set]
  split
  next same => rw [same]
  · rfl

variable {dict : Dict κ ν} {key : κ} {value : ν}

theorem get?_eq_some_iff : dict.get? key = some value ↔ (key, value) ∈ dict.entries := by
  unfold get?
  rw [Option.map_eq_some_iff]
  constructor
  · rintro ⟨entry, found, rfl⟩
    have named : entry.1 = key := by simpa using find?_some found
    subst named
    exact mem_of_find?_eq_some found
  · intro member
    cases found : dict.entries.find? (fun entry => entry.1 = key) with
    | none =>
      have absent := find?_eq_none.1 found _ member
      simp at absent
    | some entry =>
      have named : entry.1 = key := by simpa using find?_some found
      refine ⟨entry, rfl, ?_⟩
      rw [inj_on_of_nodup_map dict.nodup (mem_of_find?_eq_some found) member named]

theorem getD_of_mem (member : entry ∈ dict.entries) (default : ν) :
  dict.getD entry.1 default = entry.2 := by
  rw [getD, get?_eq_some_iff.2 member, Option.getD_some]

theorem get?_eq_none_iff : dict.get? key = none ↔ key ∉ dict.keys := by
  simp only [get?, keys, Option.map_eq_none_iff, find?_eq_none,
    decide_eq_true_eq, mem_map, not_exists, not_and]

section

variable (dict : Dict κ ν)

def erase (key : κ) : Dict κ ν where
  entries := dict.entries.filter fun entry => entry.1 ≠ key
  nodup := dict.nodup.sublist (filter_sublist.map Prod.fst)

theorem get?_erase (key wanted : κ) : (dict.erase key).get? wanted =
  if key = wanted then none else dict.get? wanted := by
  apply Option.ext
  intro value
  rw [get?_eq_some_iff]
  split
  next same => simp [erase, same]
  next different =>
    rw [get?_eq_some_iff]
    simp [erase, Ne.symm different]

def filter (keep : κ → ν → Bool) : Dict κ ν where
  entries := dict.entries.filter fun entry => keep entry.1 entry.2
  nodup := dict.nodup.sublist (filter_sublist.map Prod.fst)

end

theorem get?_filter_eq_some_iff : (dict.filter keep).get? key = some value ↔
  dict.get? key = some value ∧ keep key value = true := by
  rw [get?_eq_some_iff, get?_eq_some_iff, filter, mem_filter]

private theorem assign_of_notMem {entries : List (κ × ν)} (absent : key ∉ entries.map Prod.fst) :
  assign key value entries = entries ++ [(key, value)] := by
  induction entries with
  | nil => rfl
  | cons _ _ ih =>
    rw [map_cons, mem_cons, not_or] at absent
    rw [assign, if_neg (Ne.symm absent.1), ih absent.2, cons_append]

theorem entries_set_of_notMem (absent : key ∉ dict.keys) :
  (dict.set key value).entries = dict.entries ++ [(key, value)] := assign_of_notMem absent

/-- A loop that assigns the keys it does not find appends its rows where their
keys are new and distinct. -/
theorem entries_foldl {key : ρ → κ} {value : ρ → ν} {rows : List ρ}
  {start : Dict κ ν} (assigns : ∀ dict, ∀ row ∈ rows, key row ∉ dict.keys →
    step dict row = dict.set (key row) (value row))
  (distinct : (start.keys ++ rows.map key).Nodup) :
  (rows.foldl step start).entries = start.entries ++ rows.map fun row => (key row, value row) := by
  induction rows generalizing start with
  | nil => simp
  | cons row _ ih =>
    have absent : key row ∉ start.keys := fun present =>
      (nodup_append.1 distinct).2.2 _ present (key row) (by simp) rfl
    have first := assigns start row (by simp) absent
    rw [foldl_cons, ih, first, entries_set_of_notMem absent, map_cons, append_assoc]
    · rfl
    · exact fun dict other member =>
        assigns dict other (mem_cons_of_mem row member)
    · rw [first, keys_set, if_neg absent, append_assoc]
      exact distinct

variable (dict other : Dict κ ν)

def update : Dict κ ν :=
  other.entries.foldl (fun merged entry => merged.set entry.1 entry.2) dict

theorem get?_update (wanted : κ) : (dict.update other).get? wanted =
  (other.get? wanted).or (dict.get? wanted) := by
  have assigned : ∀ (entries : List (κ × ν)) (start : Dict κ ν), (entries.map Prod.fst).Nodup →
    (entries.foldl (fun merged entry => merged.set entry.1 entry.2) start).get? wanted =
      ((entries.find? fun entry => entry.1 = wanted).map Prod.snd).or (start.get? wanted) := by
    intro entries
    induction entries with
    | nil => exact fun _ _ => rfl
    | cons entry rest ih =>
      intro start distinct
      obtain ⟨absent, distinct⟩ := nodup_cons.1 distinct
      rw [foldl_cons, ih _ distinct, get?_set]
      by_cases same : entry.1 = wanted
      · have none : rest.find? (fun entry => entry.1 = wanted) = none := by
          refine find?_eq_none.2 fun other member named => absent ?_
          rw [same, ← of_decide_eq_true named]
          exact mem_map_of_mem member
        simp [same, none]
      · simp [same]
  exact assigned other.entries dict other.nodup

end Dict

end VideoProcess.Data
