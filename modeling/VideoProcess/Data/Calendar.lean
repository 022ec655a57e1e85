import VideoProcess.Data.Json

namespace VideoProcess.Data.Calendar

open List

/-! The proleptic Gregorian calendar, day by day from 1 January 1970. -/

structure Date where
  year : Int
  (month day : Nat)
deriving DecidableEq, Repr

def isLeap (year : Int) : Bool := year % 4 = 0 && (year % 100 ≠ 0 || year % 400 = 0)

def monthLength (year : Int) (month : Nat) : Nat :=
  if month = 2 then if isLeap year then 29 else 28
  else if month ∈ [4, 6, 9, 11] then 30
  else 31

theorem monthLength_le (year : Int) (month : Nat) : monthLength year month ≤ 31 := by
  unfold monthLength
  split
  · split <;> omega
  · split <;> omega

variable (date : Date)

def Date.next : Date :=
  if date.day < monthLength date.year date.month then
    { date with day := date.day + 1 }
  else if date.month < 12 then ⟨date.year, date.month + 1, 1⟩
  else ⟨date.year + 1, 1, 1⟩

def Date.previous : Date :=
  if 1 < date.day then { date with day := date.day - 1 }
  else if 1 < date.month then
    ⟨date.year, date.month - 1, monthLength date.year (date.month - 1)⟩
  else ⟨date.year - 1, 12, 31⟩

def epoch : Date := ⟨1970, 1, 1⟩

def dateAfter : Nat → Date
  | 0 => epoch
  | days + 1 => (dateAfter days).next

def dateBefore : Nat → Date
  | 0 => epoch
  | days + 1 => (dateBefore days).previous

def dateOf : Int → Date
  | .ofNat days => dateAfter days
  | .negSucc days => dateBefore (days + 1)

/-- A number that grows with the date: every month has 31 places. -/
def Date.place : Int := date.year * 372 + date.month * 31 + date.day

structure Date.Proper : Prop where
  year : 1970 ≤ date.year
  month : 1 ≤ date.month ∧ date.month ≤ 12
  day : 1 ≤ date.day ∧ date.day ≤ 31

theorem Date.Proper.next {date : Date} (proper : date.Proper) :
  date.next.Proper ∧ date.place < date.next.place := by
  obtain ⟨year, ⟨first, last⟩, ⟨_, _⟩⟩ := proper
  have short := monthLength_le date.year date.month
  unfold Date.next
  split
  · exact ⟨⟨year, ⟨first, last⟩, by simp only; omega⟩, by
      simp only [Date.place]; omega⟩
  · split
    · exact ⟨⟨year, by simp only; omega, by simp⟩, by
        simp only [Date.place]; omega⟩
    · exact ⟨⟨by simp only; omega, by simp, by simp⟩, by
        simp only [Date.place]; omega⟩

theorem dateAfter_proper (days : Nat) : (dateAfter days).Proper := by
  induction days with
  | zero => exact ⟨by decide, by decide, by decide⟩
  | succ _ ih => exact ih.next.1

theorem place_dateAfter_lt (before : early < late) :
  (dateAfter early).place < (dateAfter late).place := by
  induction late with
  | zero => omega
  | succ late ih =>
    have grows := (dateAfter_proper late).next.2
    rcases Nat.lt_succ_iff_lt_or_eq.1 before with earlier | rfl
    · exact (ih earlier).trans grows
    · exact grows

theorem dateAfter_injective (same : dateAfter left = dateAfter right) : left = right := by
  rcases Nat.lt_trichotomy left right with less | equal | more
  · exact absurd (congrArg Date.place same) (place_dateAfter_lt less).ne
  · exact equal
  · exact absurd (congrArg Date.place same).symm (place_dateAfter_lt more).ne

variable {left right : Int}

theorem dateOf_proper (from_epoch : 0 ≤ day) : (dateOf day).Proper := by
  obtain ⟨days, rfl⟩ := Int.eq_ofNat_of_zero_le from_epoch
  exact dateAfter_proper days

theorem dateOf_injective (first : 0 ≤ left) (second : 0 ≤ right)
  (same : dateOf left = dateOf right) :
  left = right := by
  obtain ⟨_, rfl⟩ := Int.eq_ofNat_of_zero_le first
  obtain ⟨_, rfl⟩ := Int.eq_ofNat_of_zero_le second
  exact congrArg Int.ofNat (dateAfter_injective same)

def padded (width value : Nat) : List Char :=
  replicate (width - (natText value).length) '0' ++ natText value

theorem ofDigitChars_padded (width value : Nat) :
  Nat.ofDigitChars 10 (padded width value) 0 = value := by
  rw [padded, Nat.ofDigitChars_append, Nat.ofDigitChars_replicate_zero, Nat.mul_zero]
  exact Nat.ofDigitChars_toDigits (by decide) (by decide)

theorem padded_injective {left right : Nat}
  (same : padded width left = padded width right) : left = right := by
  rw [← ofDigitChars_padded width left, same, ofDigitChars_padded]

theorem isDigit_padded (member : char ∈ padded width value) : char.isDigit = true := by
  rcases mem_append.1 member with zero | digit
  · rw [eq_of_mem_replicate zero]
    rfl
  · exact isDigit_natText digit

theorem dash_notMem_padded (width value : Nat) : '-' ∉ padded width value :=
  fun member => absurd (isDigit_padded member) (by decide)

def yearText (year : Int) : List Char := signText (year < 0) ++ padded 4 year.natAbs

theorem yearText_of_nonneg (positive : 0 ≤ year) : yearText year = padded 4 year.natAbs := by
  have sign : decide (year < 0) = false := by simpa using positive
  rw [yearText, sign]
  rfl

/-- `2006-01-02`. -/
def dayText (day : Int) : List Char :=
  yearText (dateOf day).year ++ '-' :: (padded 2 (dateOf day).month ++
    '-' :: padded 2 (dateOf day).day)

/-- `2006-01-02-15`, of minutes. -/
def hourText (minutes : Int) : List Char :=
  dayText (minutes / 1440) ++ '-' :: padded 2 (minutes / 60 % 24).toNat

/-- `2006-01-02-15-04`. -/
def minuteText (minutes : Int) : List Char :=
  hourText minutes ++ '-' :: padded 2 (minutes % 60).toNat

theorem dash_split {left right : List Char} (leftPlain : '-' ∉ left) (rightPlain : '-' ∉ right)
  (same : left ++ '-' :: leftRest = right ++ '-' :: rightRest) :
  left = right ∧ leftRest = rightRest := by
  induction left generalizing right with
  | nil =>
    cases right with
    | nil => exact ⟨rfl, (cons.inj same).2⟩
    | cons =>
      obtain ⟨rfl, -⟩ := cons.inj same
      exact absurd mem_cons_self rightPlain
  | cons _ _ ih =>
    cases right with
    | nil =>
      obtain ⟨rfl, -⟩ := cons.inj same
      exact absurd mem_cons_self leftPlain
    | cons =>
      obtain ⟨rfl, rest⟩ := cons.inj same
      obtain ⟨rfl, ends⟩ := ih (fun member => leftPlain (mem_cons_of_mem _ member))
        (fun member => rightPlain (mem_cons_of_mem _ member)) rest
      exact ⟨rfl, ends⟩

theorem dayText_split (first : 0 ≤ day) (second : 0 ≤ other)
  (same : dayText day ++ '-' :: rest = dayText other ++ '-' :: otherRest) :
  day = other ∧ rest = otherRest := by
  have year := (dateOf_proper first).year
  have otherYear := (dateOf_proper second).year
  simp only [dayText, yearText_of_nonneg (Int.le_trans (by decide) year),
    yearText_of_nonneg (Int.le_trans (by decide) otherYear),
    append_assoc, cons_append] at same
  obtain ⟨years, same⟩ := dash_split (dash_notMem_padded _ _) (dash_notMem_padded _ _) same
  obtain ⟨months, same⟩ := dash_split (dash_notMem_padded _ _) (dash_notMem_padded _ _) same
  obtain ⟨days, rests⟩ := dash_split (dash_notMem_padded _ _) (dash_notMem_padded _ _) same
  refine ⟨dateOf_injective first second ?_, rests⟩
  have sameYear := padded_injective years
  have sameMonth := padded_injective months
  have sameDay := padded_injective days
  generalize dateOf day = left at *
  generalize dateOf other = right at *
  obtain ⟨_, _, _⟩ := left
  obtain ⟨_, _, _⟩ := right
  simp only [Date.mk.injEq] at *
  exact ⟨by omega, sameMonth, sameDay⟩

theorem minutes_eq (days : left / 1440 = right / 1440)
  (hours : (left / 60 % 24).toNat = (right / 60 % 24).toNat)
  (minutes : left % 60 = right % 60) : left = right := by
  omega

section

variable (first : 0 ≤ left) (second : 0 ≤ right)

include first second

theorem minuteText_injective (same : minuteText left = minuteText right) : left = right := by
  simp only [minuteText, hourText, append_assoc, cons_append] at same
  obtain ⟨days, same⟩ := dayText_split (by omega) (by omega) same
  obtain ⟨hours, minutes⟩ := dash_split (dash_notMem_padded _ _) (dash_notMem_padded _ _) same
  have sameMinutes := padded_injective minutes
  exact minutes_eq days (padded_injective hours) (by omega)

theorem hourText_injective (leftFull : left % 60 = 0)
  (rightFull : right % 60 = 0) (same : hourText left = hourText right) :
  left = right := by
  obtain ⟨days, hours⟩ := dayText_split (by omega) (by omega) same
  exact minutes_eq days (padded_injective hours) (by omega)

theorem hourText_ne_minuteText : hourText left ≠ minuteText right := by
  intro same
  simp only [minuteText, hourText, append_assoc, cons_append] at same
  obtain ⟨-, rest⟩ := dayText_split (by omega) (by omega) same
  exact dash_notMem_padded 2 (left / 60 % 24).toNat (by rw [rest]; simp)

end

end VideoProcess.Data.Calendar
