import VideoProcess.Data.Json
import VideoProcess.Data.Utf8
import VideoProcess.Validation.DynamicInputs

namespace VideoProcess.ChannelOps

open Data Validation

/-! The discovery policy of a content mix, as the scheduler reads it
(`discovery_policy.go`) and as the ingester does (`discovery_policy.py`). -/

structure DiscoveryPolicy where
  enabled : Bool
  (intervalMinutes maxQueriesPerRun maxResultsPerQuery minViewCount : Int)
  regionCode : String
deriving DecidableEq, Repr

namespace DiscoveryPolicy

abbrev Fields := List (String × Json)

/-- The value of a key. Of equal keys both decoders keep the last. -/
def valueOf (fields : Fields) (key : String) : Option Json := fields.reverse.lookup key

def discoveryBool (value : Fields) (field : String) (fallback : Bool) : Except String Bool :=
  match valueOf value field with
  | none => .ok fallback
  | some (.bool parsed) => .ok parsed
  | some _ => .error s!"{field} must be a boolean"

def isLexicallyIntegralJSONNumber (value : List Char) : Bool :=
  match if value.head? = some '-' then value.tail else value with
  | [] => false
  | first :: rest =>
    if first = '0' then rest.isEmpty
    else '1' ≤ first && first ≤ '9' && rest.all Char.isDigit

/-- `strconv.ParseInt(number.String(), 10, 64)` reads what `Atoi` does. -/
def discoveryInt (value : Fields) (field : String)
  (fallback minimum maximum : Int) : Except String Int :=
  let refused := .error
    s!"{field} must be an integer between {minimum} and {maximum}"
  match valueOf value field with
  | none => .ok fallback
  | some (.number number) =>
    if isLexicallyIntegralJSONNumber number.text then
      match Go.atoi number.text with
      | none => refused
      | some parsed =>
        if parsed < minimum ∨ maximum < parsed then refused else .ok parsed
    else refused
  | some _ => refused

def discoveryRegion : Json → Except String String
  | .string region =>
    match Utf8.encode region.toList with
    | [first, second] =>
      if first < 65 ∨ 90 < first ∨ second < 65 ∨ 90 < second then
        .error "region_code must be two uppercase ASCII letters"
      else .ok region
    | _ => .error "region_code must be two uppercase ASCII letters"
  | _ => .error "region_code must be two uppercase ASCII letters"

/-- `none` is the nil map. -/
def discoveryPolicyFromContentMix : Option (Fields) → Except String DiscoveryPolicy
  | none => .error "content mix policy must be an object"
  | some contentMix => do
    let nested ← (match valueOf contentMix "youtube_discovery" with
      | none => .ok []
      | some (.object nested) => .ok nested
      | some _ => .error "youtube discovery policy must be an object")
    let enabled ← discoveryBool nested "enabled" false
    let interval ← discoveryInt nested "interval_minutes" 360 60 1440
    let queries ← discoveryInt nested "max_queries_per_run" 3 1 5
    let results ← discoveryInt nested "max_results_per_query" 10 1 25
    let minViews ← discoveryInt nested "min_view_count" 1000 0 1000000000
    let region ← (match valueOf nested "region_code" with
      | some raw => discoveryRegion raw
      | none => match valueOf contentMix "region_code" with
        | some raw => discoveryRegion raw
        | none => .ok "US")
    return ⟨enabled, interval, queries, results, minViews, region⟩

namespace Python

def exactBool (value : Fields) (field : String) (default : Bool) : Except String Bool :=
  match (valueOf value field).getD (.bool default) with
  | .bool parsed => .ok parsed
  | _ => .error s!"{field} must be a boolean"

/-- `json.loads` makes an `int` of a number without fraction and exponent. -/
def int? : Json → Option Int
  | .number ⟨negative, whole, [], none⟩ => some (if negative then -(whole : Int) else whole)
  | _ => none

def boundedInt (value : Fields) (field : String)
  (default minimum maximum : Int) : Except String Int :=
  match (valueOf value field).elim (some default) int? with
  | none => .error s!"{field} must be an integer"
  | some parsed =>
    if minimum ≤ parsed ∧ parsed ≤ maximum then .ok parsed
    else .error s!"{field} must be between {minimum} and {maximum}"

def regionCode : Json → Except String String
  | .string value =>
    if value.toList.length = 2 ∧ value.toList.all Char.isUpper then .ok value
    else .error "region_code must be two uppercase ASCII letters"
  | _ => .error "region_code must be two uppercase ASCII letters"

def fromContentMix : Json → Except String DiscoveryPolicy
  | .object value => do
    let nested ← (
      match (valueOf value "youtube_discovery").getD (.object []) with
      | .object nested => .ok nested
      | _ => .error "youtube discovery policy must be an object")
    let enabled ← exactBool nested "enabled" false
    let interval ← boundedInt nested "interval_minutes" 360 60 1440
    let queries ← boundedInt nested "max_queries_per_run" 3 1 5
    let results ← boundedInt nested "max_results_per_query" 10 1 25
    let minViews ← boundedInt nested "min_view_count" 1000 0 1000000000
    let region ← regionCode ((valueOf nested "region_code").getD
      ((valueOf value "region_code").getD (.string "US")))
    return ⟨enabled, interval, queries, results, minViews, region⟩
  | _ => .error "content mix policy must be an object"

end Python

theorem natText_cons_of_pos (positive : 0 < value) :
  ∃ first rest, natText value = first :: rest ∧ first ≠ '0' := by
  induction value using Nat.strongRecOn with
  | ind value ih =>
    by_cases small : value < 10
    · have solid : ∀ digit < 10, 0 < digit → Nat.digitChar digit ≠ '0' := by decide
      exact ⟨_, [], Nat.toDigits_of_lt_base small, solid value small positive⟩
    · obtain ⟨first, rest, text, solid⟩ := ih (value / 10) (by omega) (by omega)
      refine ⟨first, rest ++ [(value % 10).digitChar], ?_, solid⟩
      rw [natText, Nat.toDigits_of_base_le (by omega) (by omega)]
      exact congrArg (· ++ _) text

theorem isLexicallyIntegral_append (negative : Bool) (whole : Nat)
  {rest : List Char} (apart : ∀ char ∈ rest.head?, char.isDigit = false) :
  isLexicallyIntegralJSONNumber (signText negative ++ natText whole ++ rest) = rest.isEmpty := by
  rcases Nat.eq_zero_or_pos whole with rfl | positive
  · cases negative <;> rfl
  · obtain ⟨first, others, text, solid⟩ := natText_cons_of_pos positive
    have digits : ∀ char ∈ first :: others, char.isDigit = true := by
      rw [← text]
      exact fun char => isDigit_natText
    have leading : '1' ≤ first ∧ first ≤ '9' ∧ first ≠ '-' := by
      have digit := digits first List.mem_cons_self
      simp only [Char.isDigit, Bool.and_eq_true, decide_eq_true_eq] at digit
      refine ⟨?_, digit.2, ?_⟩
      · exact lt_of_le_of_ne digit.1 solid.symm
      · rintro rfl
        exact absurd digit.1 (by decide)
    have trailing : others.all Char.isDigit = true := by
      simpa using fun char member => digits char (by simp [member])
    have unsigned : (if (signText negative ++ first :: others ++ rest).head? =
      some '-' then (signText negative ++ first :: others ++ rest).tail
      else signText negative ++ first :: others ++ rest) = first :: (others ++ rest) := by
      cases negative <;> simp [signText, leading.2.2]
    rw [text, isLexicallyIntegralJSONNumber, unsigned]
    simp only [if_neg solid, leading, List.all_append, trailing, decide_true, Bool.true_and]
    cases rest with
    | nil => rfl
    | cons char => simp [apart char rfl]

theorem isLexicallyIntegral_text (number : Number) :
  isLexicallyIntegralJSONNumber number.text = true ↔
    number.fraction = [] ∧ number.exponent = none := by
  obtain ⟨negative, whole, fraction, exponent⟩ := number
  rw [Number.text, List.append_assoc, isLexicallyIntegral_append]
  · cases fraction <;> cases exponent <;> simp
  · cases fraction <;> cases exponent <;> simp

theorem magnitude?_natText (value : Nat) : Go.magnitude? (natText value) = some value := by
  have digits : natText value ≠ [] ∧ (natText value).all Char.isDigit = true :=
    ⟨Nat.toDigits_ne_nil, List.all_eq_true.2 fun _ => isDigit_natText⟩
  have read : Nat.ofDigitChars 10 (natText value) 0 = value :=
    Nat.ofDigitChars_toDigits (by decide) (by decide)
  simp only [Nat.ofDigitChars, Nat.mul_comm 10] at read
  rw [Go.magnitude?, if_pos digits, Validation.Python.decimal, List.foldl_map]
  exact congrArg some read

theorem atoi_text (negative : Bool) (whole : Nat) :
  Go.atoi (Number.text ⟨negative, whole, [], none⟩) =
    (Python.int? (.number ⟨negative, whole, [], none⟩)).filter
      fun value => -(Go.intLimit : Int) ≤ value ∧ value < Go.intLimit := by
  have text : Number.text ⟨negative, whole, [], none⟩ = signText negative ++ natText whole := by
    simp [Number.text]
  have positive : 0 < Go.intLimit := by decide
  rw [text]
  cases negative with
  | true =>
    rw [show signText true ++ natText whole = '-' :: natText whole from rfl,
      Go.atoi, magnitude?_natText]
    by_cases small : whole ≤ Go.intLimit
    · simp [Option.filter, small, Int.negOfNat_eq, Python.int?]
      omega
    · simp [Option.filter, small, Python.int?]
  | false =>
    rw [show signText false ++ natText whole = natText whole from rfl,
      atoi_of_isDigit fun char => isDigit_natText, magnitude?_natText]
    by_cases small : whole < Go.intLimit <;>
      simp [Option.filter, small, Python.int?]

/-- A number in the bounds of a field is one that 64 bits hold. -/
theorem discoveryInt_eq_boundedInt (value : Fields) (field : String)
  (within : 0 ≤ minimum ∧ minimum ≤ fallback ∧ fallback ≤ maximum ∧ maximum < Go.intLimit) :
  (discoveryInt value field fallback minimum maximum).toOption =
    (Python.boundedInt value field fallback minimum maximum).toOption := by
  unfold discoveryInt Python.boundedInt
  cases valueOf value field with
  | none => simp [within]
  | some json =>
    cases json with
    | number number =>
      have lexical := isLexicallyIntegral_text number
      obtain ⟨negative, whole, fraction, exponent⟩ := number
      by_cases integral : fraction = [] ∧ exponent = none
      · obtain ⟨rfl, rfl⟩ := integral
        simp only [lexical.2 ⟨rfl, rfl⟩, if_true, atoi_text, Option.elim_some,
          Python.int?, Option.filter_some, decide_eq_true_eq]
        generalize (if negative = true then -(whole : Int) else whole) = parsed
        by_cases bounded : minimum ≤ parsed ∧ parsed ≤ maximum
        · rw [if_pos (by omega), if_pos bounded]
          exact congrArg Except.toOption (if_neg (by omega))
        · rw [if_neg bounded]
          split
          · rfl
          next held =>
            split at held <;> cases held
            rw [if_pos (by omega)]
            rfl
      · have unread : Python.int? (.number ⟨negative, whole, fraction, exponent⟩) = none := by
          cases fraction <;> cases exponent <;> first | rfl | simp at integral
        simp only [Bool.eq_false_iff.2 (mt lexical.1 integral), Option.elim_some, unread]
        rfl
    | _ => rfl

theorem utf8EncodeChar_of_upper : ∀ code < 91, 65 ≤ code →
  String.utf8EncodeChar (Char.ofNat code) = [UInt8.ofNat code] ∧ (Char.ofNat code).isUpper = true ∧
    ¬ (UInt8.ofNat code < 65 ∨ 90 < UInt8.ofNat code) := by
  decide

theorem utf8EncodeChar_upper {char : Char} (upper : char.isUpper = true) :
  ∃ byte, String.utf8EncodeChar char = [byte] ∧ ¬ (byte < 65 ∨ 90 < byte) := by
  have letter : 65 ≤ char.toNat ∧ char.toNat ≤ 90 := of_decide_eq_true upper
  have encoded := utf8EncodeChar_of_upper char.toNat (Nat.lt_succ_of_le letter.2) letter.1
  rw [Char.ofNat_toNat] at encoded
  exact ⟨_, encoded.1, encoded.2.2⟩

theorem discoveryRegion_eq_regionCode (json : Json) :
  (discoveryRegion json).toOption = (Python.regionCode json).toOption := by
  cases json with
  | string region =>
    simp only [discoveryRegion, Python.regionCode]
    by_cases upper : region.toList.length = 2 ∧ region.toList.all Char.isUpper = true
    · rw [if_pos upper]
      obtain ⟨first, second, text⟩ := List.length_eq_two.1 upper.1
      have letters : first.isUpper = true ∧ second.isUpper = true := by simpa [text] using upper.2
      obtain ⟨_, firstBytes, firstRange⟩ := utf8EncodeChar_upper letters.1
      obtain ⟨_, secondBytes, secondRange⟩ := utf8EncodeChar_upper letters.2
      rw [text, Utf8.encode_cons, Utf8.encode_cons, firstBytes, secondBytes]
      refine congrArg Except.toOption (if_neg ?_)
      tauto
    · rw [if_neg upper]
      split
      next first second bytes =>
        split
        · rfl
        next ranges =>
          simp only [not_or, UInt8.not_lt, UInt8.le_iff_toNat_le] at ranges
          obtain ⟨firstLow, firstHigh, secondLow, secondHigh⟩ := ranges
          have firstUpper := utf8EncodeChar_of_upper first.toNat
            (Nat.lt_succ_of_le firstHigh) firstLow
          have secondUpper := utf8EncodeChar_of_upper second.toNat
            (Nat.lt_succ_of_le secondHigh) secondLow
          have text : region.toList = [Char.ofNat first.toNat, Char.ofNat second.toNat] := by
            apply Utf8.encode_injective
            rw [bytes, Utf8.encode_cons, Utf8.encode_cons, firstUpper.1,
              secondUpper.1, UInt8.ofNat_toNat, UInt8.ofNat_toNat]
            rfl
          refine absurd ?_ upper
          simp [text, firstUpper.2.1, secondUpper.2.1]
      · rfl
  | _ => rfl

theorem discoveryBool_eq_exactBool (value : Fields) (field : String) (fallback : Bool) :
  (discoveryBool value field fallback).toOption =
    (Python.exactBool value field fallback).toOption := by
  unfold discoveryBool Python.exactBool
  cases valueOf value field with
  | none => rfl
  | some json => cases json <;> rfl

theorem toOption_bind_congr {left right : Except String α} {next other : α → Except String β}
  (first : left.toOption = right.toOption)
  (rest : ∀ value, (next value).toOption = (other value).toOption) :
  (left >>= next).toOption = (right >>= other).toOption := by
  cases left <;> cases right <;> cases first
  · rfl
  · exact rest _

theorem discovery_policies_agree (contentMix : Fields) :
  (discoveryPolicyFromContentMix (some contentMix)).toOption =
    (Python.fromContentMix (.object contentMix)).toOption := by
  rw [discoveryPolicyFromContentMix, Python.fromContentMix]
  refine toOption_bind_congr ?_ fun nested => ?_
  · cases valueOf contentMix "youtube_discovery" with
    | none => rfl
    | some json => cases json <;> rfl
  refine toOption_bind_congr (discoveryBool_eq_exactBool _ _ _) fun _ => ?_
  iterate 4 refine toOption_bind_congr (discoveryInt_eq_boundedInt nested _ (by decide)) fun _ => ?_
  refine toOption_bind_congr ?_ fun _ => rfl
  cases valueOf nested "region_code" with
  | some => exact discoveryRegion_eq_regionCode _
  | none =>
    cases valueOf contentMix "region_code" with
    | some => exact discoveryRegion_eq_regionCode _
    | none => rfl

end DiscoveryPolicy

end VideoProcess.ChannelOps
