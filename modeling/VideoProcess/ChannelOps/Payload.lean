import VideoProcess.Data.Json
import VideoProcess.GoText
import VideoProcess.Schema
import Mathlib.Data.List.Sort

namespace VideoProcess.ChannelOps

open Data GoText List

/-! A queue item's JSON payload, as the claim query and as the runner read
one of its fields. -/

abbrev Payload := Dict String Json

/-- The shortest digits of a `float64`, read as `0.d₁d₂… × 10 ^ point`. -/
structure Decimal where
  negative : Bool
  digits : List (Fin 10)
  point : Int

namespace Decimal

variable (value : Decimal)

def exponentForm : List Char :=
  let exponent := value.point - 1
  let power := natText exponent.natAbs
  digitsText (value.digits.take 1) ++ (if value.digits.length ≤ 1 then []
    else '.' :: digitsText (value.digits.drop 1)) ++
    'e' :: (if exponent < 0 then '-' else '+') ::
    (if power.length < 2 then '0' :: power else power)

def plainForm : List Char :=
  let whole := value.point.toNat
  (if whole = 0 then ['0']
    else digitsText (value.digits.take whole) ++
      replicate (whole - value.digits.length) '0') ++
    if value.digits.length ≤ whole then []
    else '.' :: replicate (-value.point).toNat '0' ++ digitsText (value.digits.drop whole)

/-- `fmt.Sprint` of a `float64`. -/
def text : List Char :=
  let exponent := value.point - 1
  signText value.negative ++ if exponent < -4 ∨ 6 ≤ exponent then value.exponentForm
    else value.plainForm

end Decimal

/-- How `encoding/json` rounds a number to a `float64`. -/
abbrev Rounding := Number → Decimal

mutual

/-- `fmt.Sprint` of a decoded value. -/
def sprint (round : Rounding) : Json → List Char
  | .null => "<nil>".toList
  | .bool true => "true".toList
  | .bool false => "false".toList
  | .number value => (round value).text
  | .string text => text.toList
  | .array items => '[' :: [' '].intercalate (sprintItems round items) ++ [']']
  | .object fields =>
    -- A map prints in the order of its keys.
    "map[".toList ++ [' '].intercalate (((sprintFields round fields).insertionSort fun left right =>
      left.1 ≤ right.1).map fun field =>
        field.1.toList ++ ':' :: field.2) ++ [']']

def sprintItems (round : Rounding) : List Json → List (List Char)
  | [] => []
  | item :: items => sprint round item :: sprintItems round items

def sprintFields (round : Rounding) : List (String × Json) → List (String × List Char)
  | [] => []
  | (key, value) :: fields => (key, sprint round value) :: sprintFields round fields

end

theorem sprint_null (round : Rounding) : sprint round .null = "<nil>".toList := rfl

theorem sprint_string (round : Rounding) (text : String) :
  sprint round (.string text) = text.toList := rfl

def firstString (round : Rounding) (values : Payload) : List String → List Char
  | [] => []
  | key :: keys =>
    let value := trimSpace (sprint round (values.getD key .null))
    if value ≠ [] ∧ value ≠ "<nil>".toList then value
    else firstString round values keys

/-- `payload_json ->> key`. -/
def fieldText (payload : Payload) (key : String) : Option (List Char) :=
  match payload.getD key .null with
  | .null => none
  | .string text => some text.toList
  | value => some value.text

/-- `BTRIM(text)`. -/
def btrim (text : List Char) : List Char := trim (· = ' ') text

def hexGroup (size : Nat) (text : List Char) : Bool :=
  text.length = size && text.all fun char => (hexDigit? char).isSome

def hexGroups : List Nat → List Char → Bool
  | [], _ => false
  | [size], text => hexGroup size text
  | size :: sizes, text =>
    hexGroup size (text.take size) && match text.drop size with
      | '-' :: rest => hexGroups sizes rest
      | _ => false

variable (text : List Char)

def uuidPattern : Bool := hexGroups [8, 4, 4, 4, 12] text

/-- `text::uuid`, for a text of that pattern. -/
def uuidValue : Uuid :=
  (text.filterMap hexDigit?).foldl (fun value digit => value * 16 + digit) 0

def castUUID : Option Uuid :=
  if uuidPattern text then some (uuidValue text) else none

def hexText : Nat → Nat → List Char
  | 0, _ => []
  | width + 1, value => hexText width (value / 16) ++ [(value % 16).digitChar]

/-- `id::text`. -/
def uuidText (id : Uuid) : List Char :=
  let digits := hexText 32 id
  digits.take 8 ++ '-' :: ((digits.drop 8).take 4 ++ '-' :: ((digits.drop 12).take 4 ++
    '-' :: ((digits.drop 16).take 4 ++ '-' :: digits.drop 20)))

def uuidCount : Nat := 0x100000000000000000000000000000000

theorem hexDigit?_digitChar : ∀ digit < 16, hexDigit? (Nat.digitChar digit) = some digit := by
  decide

theorem foldl_hexText (width value : Nat) : ((hexText width value).filterMap hexDigit?).foldl
  (fun total digit => total * 16 + digit) 0 = value % Nat.pow 16 width := by
  induction width generalizing value with
  | zero => simp [hexText, Nat.mod_one]
  | succ width ih =>
    have last := hexDigit?_digitChar (value % 16) (Nat.mod_lt _ (by decide))
    have split : value % (16 * Nat.pow 16 width) =
      value % 16 + 16 * (value / 16 % Nat.pow 16 width) := Nat.mod_mul
    have power : Nat.pow 16 (width + 1) = 16 * Nat.pow 16 width := Nat.mul_comm _ _
    simp only [hexText, filterMap_append, filterMap_cons, last,
      filterMap_nil, foldl_append, ih, foldl_cons,
      foldl_nil, power, split]
    omega

theorem filterMap_uuidText (id : Uuid) : (uuidText id).filterMap hexDigit? =
  (hexText 32 id).filterMap hexDigit? := by
  have dash : hexDigit? '-' = none := rfl
  have parts (digits : List Char) : digits =
    digits.take 8 ++ ((digits.drop 8).take 4 ++ ((digits.drop 12).take 4 ++
      ((digits.drop 16).take 4 ++ digits.drop 20))) := by
    rw [show 20 = 16 + 4 from rfl, ← drop_drop, take_append_drop,
      show 16 = 12 + 4 from rfl, ← drop_drop, take_append_drop,
      show 12 = 8 + 4 from rfl, ← drop_drop, take_append_drop,
      take_append_drop]
  conv_rhs => rw [parts (hexText 32 id)]
  simp [uuidText, dash]

theorem uuidValue_uuidText {id : Uuid} (small : id < uuidCount) : uuidValue (uuidText id) = id := by
  rw [uuidValue, filterMap_uuidText, foldl_hexText]
  exact Nat.mod_eq_of_lt small

theorem hexText_eq_map (width value : Nat) :
  hexText width value = (range width).map fun place =>
    Nat.digitChar (value / Nat.pow 16 (width - 1 - place) % 16) := by
  induction width generalizing value with
  | zero => rfl
  | succ width ih =>
    rw [hexText, ih, range_succ, map_append]
    congr 1
    · apply map_congr_left
      intro place listed
      have before : place < width := mem_range.1 listed
      have power : Nat.pow 16 (width + 1 - 1 - place) = 16 * Nat.pow 16 (width - 1 - place) := by
        rw [show width + 1 - 1 - place = (width - 1 - place) + 1 by omega]
        exact Nat.mul_comm _ _
      rw [Nat.div_div_eq_div_mul, power]
    · simp

theorem toList_uuidString (id : Uuid) : (uuidString id).toList = uuidText id := by
  have digits : (range 32).map (fun place =>
    Nat.digitChar (id / Nat.pow 16 (31 - place) % 16)) = hexText 32 id :=
    (hexText_eq_map 32 id).symm
  simp only [uuidString, uuidText, digits, String.toList_ofList,
    intercalate_cons_cons, intercalate_singleton]
  simp

theorem uuidString_inj (first : left < uuidCount) (second : right < uuidCount)
  (same : uuidString left = uuidString right) :
  left = right := by
  have texts : uuidText left = uuidText right := by
    rw [← toList_uuidString, same, toList_uuidString]
  rw [← uuidValue_uuidText first, texts, uuidValue_uuidText second]
inductive UUIDError where
  | required (field : String)
  | malformed (field : String) (value : List Char)
deriving DecidableEq, Repr

def requireUUID (field : String) (value : List Char) : Except UUIDError Unit :=
  if value = [] then .error (.required field)
  else if uuidPattern value then .ok ()
  else .error (.malformed field value)

end VideoProcess.ChannelOps
