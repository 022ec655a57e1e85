import VideoProcess.ChannelOps.Retention

namespace VideoProcess.Inventory

open Data ChannelOps Program
open Retention (historyReference)

/-! Facts about owned inventories are rows of JSON values
(`owned_inventory_history.go`); a reader panics with a reason. -/

/-- A `map[string]any`. -/
abbrev Row := List (String × Json)

namespace Row

def field? (row : Row) (key : String) : Option Json :=
  (row.find? fun entry => entry.1 = key).map Prod.snd

/-- `row[key]`, which is nil where there is none. -/
def field (row : Row) (key : String) : Json := (row.field? key).getD .null

end Row

def isNull : Json → Bool
  | .null => true
  | _ => false

/-- `left == right`. Two arrays or two objects are never the same; to compare
them would crash. -/
def identical : Json → Json → Bool
  | .null, .null => true
  | .bool left, .bool right => left = right
  | .number left, .number right => left = right
  | .string left, .string right => left = right
  | _, _ => false

def isText (value : Json) (text : String) : Bool := identical value (.string text)

def invalid : String := "owned_history_invalid"

def historyRequire (reason : String) : List (Except String Bool) → Except String Unit
  | [] => .ok ()
  | .error failure :: _ => .error failure
  | .ok false :: _ => .error reason
  | .ok true :: checks => historyRequire reason checks

def historyObject : Json → Except String Row
  | .object fields => .ok fields
  | _ => .error invalid

def historyArray : Json → Except String (List Json)
  | .array items => .ok items
  | _ => .error invalid

def historyString : Json → Except String String
  | .string text => .ok text
  | _ => .error invalid

def historyGet (row : Row) (key : String) : Except String Json :=
  match row.field? key with
  | some value => .ok value
  | none => .error invalid

def historyDefaultObject (row : Row) (key : String) : Except String Row :=
  match row.field? key with
  | none => .ok []
  | some value => historyObject value

def historyFields (row : Row) (names : List String) : Except String Row :=
  names.mapM fun name => do
    let value ← historyGet row name
    pure (name, value)

def historyExact (value : Json) (names : List String) : Except String Row := do
  let row ← historyObject value
  historyRequire invalid [.ok (row.length = names.length)]
  let _ ← historyFields row names
  pure row

def historyID (value : Json) : Except String String := do
  let text ← historyString value
  historyRequire invalid [.ok (isUuidText text)]
  pure text

/-- `^[0-9a-f]{64}$`. -/
def isSHA (text : String) : Bool :=
  text.length = 64 && text.toList.all fun char =>
    char.isDigit || ('a' ≤ char && char ≤ 'f')

/-- `^[A-Za-z0-9_-]{size}$`. -/
def isIdentifier (size : Nat) (text : List Char) : Bool :=
  text.length = size && text.all fun char =>
    char.isAlphanum || char = '_' || char = '-'

def isVideo (text : String) : Bool := isIdentifier 11 text.toList

/-- `^UC[A-Za-z0-9_-]{22}$`. -/
def isUC (text : String) : Bool :=
  text.toList.take 2 = ['U', 'C'] && isIdentifier 22 (text.toList.drop 2)

def integer? (number : Number) : Option Int :=
  if number.fraction = [] ∧ number.exponent = none then
    some (if number.negative then -number.whole else number.whole)
  else none

def historyInt : Json → Except String Int
  | .number number =>
    match integer? number with
    | none => .error invalid
    | some value => .ok (max (-0x4000000000000000) (min 0x4000000000000000 value))
  | _ => .error invalid

def historyIs (value : Json) (texts : List String) : Except String Bool := do
  let _ ← historyReference value
  pure (texts.any fun text => isText value text)

def ownedMap : Json → Row
  | .object fields => fields
  | _ => []

def ownedArray : Json → List Json
  | .array items => items
  | _ => []

def ownedString : Json → String
  | .string text => text
  | _ => ""

/-- A number that is no `int64` is -1. -/
def ownedInt : Json → Int
  | .number number =>
    match integer? number with
    | some value =>
      if -0x8000000000000000 ≤ value ∧ value ≤ 0x7fffffffffffffff then value
      else -1
    | none => -1
  | _ => -1

def historyRows (value : Json) : Except String (List Row) := do
  let items ← historyArray value
  items.mapM historyObject

def historyOne (rows : List Row) (reason : String) : Except String Row :=
  match rows with
  | [row] => .ok row
  | _ => .error reason

/-! Instants are nanoseconds; differences saturate as an `int64` does. -/

abbrev Instant := Int

def hour : Int := 3600 * 1000000000

def zeroInstant : Instant := -62135596800 * 1000000000

def sub (left right : Instant) : Int :=
  max (-0x8000000000000000) (min 0x7fffffffffffffff (left - right))

def historyBetween (instant first last : Instant) : Bool := first ≤ instant && instant ≤ last

/-- What the assessment takes from the library. -/
structure Library where
  /-- `ownedCanonical`. -/
  canonical : Json → Option String
  /-- Of SHA-256, in hexadecimal digits. -/
  sha256 : String → String
  /-- The layouts of `ownedTime`. -/
  parseOwnedTime : String → Option Instant
  ownedISO : Instant → String
  /-- The layouts of `historyTime`. -/
  parseHistoryTime : String → Option Instant
  historyZ : Instant → String
  parseFloat : Number → Option Rat
  /-- The weight of a lane or a format as a finite `float64`. -/
  weight : Json → Option Json
  pathClean : String → String

namespace Library

variable (go : Library)

def ownedTime : Json → Option Instant
  | .string text => (go.parseOwnedTime text).filter (· ≠ zeroInstant)
  | _ => none

def historyTime (value : Json) : Except String Instant := do
  let text ← historyString value
  match go.parseHistoryTime text with
  | some instant => pure instant
  | none => .error invalid

def historyHash (value : Json) : Except String String :=
  match go.canonical value with
  | some text =>
    if text.utf8ByteSize ≤ 16 * 1024 * 1024 then .ok (go.sha256 text)
    else .error "owned_history_invalid_json"
  | none => .error "owned_history_invalid_json"

def numeric (number : Number) : Except String Rat :=
  match integer? number with
  | some value => .ok value
  | none =>
    match go.parseFloat number with
    | some value => .ok value
    | none => .error "owned_history_invalid_json"

def historyNumeric : Json → Except String (Option Rat)
  | .bool value => .ok (some (if value then 1 else 0))
  | .number number => (go.numeric number).map some
  | _ => .ok none

def historyTruth : Json → Except String Bool
  | .null => .ok false
  | .bool value => .ok value
  | .string text => .ok (text ≠ "")
  | .array items => .ok (!items.isEmpty)
  | .object fields => .ok (!fields.isEmpty)
  | .number number => (go.numeric number).map (· ≠ 0)

def numericEqual (value : Rat) (other : Json) : Except String Bool :=
  (go.historyNumeric other).map (· = some value)

mutual

def historyEqual : Json → Json → Except String Bool
  | .null, other => .ok (isNull other)
  | .bool value, other => go.numericEqual (if value then 1 else 0) other
  | .number number, other => do
    let value ← go.numeric number
    go.numericEqual value other
  | .string text, other => .ok (isText other text)
  | .array items, .array others =>
    if items.length = others.length then itemsEqual items others
    else .ok false
  | .object fields, .object others =>
    if fields.length = others.length then fieldsEqual fields others
    else .ok false
  | _, _ => .ok false

def itemsEqual : List Json → List Json → Except String Bool
  | item :: items, other :: others => do
    let same ← historyEqual item other
    if same then itemsEqual items others else pure false
  | _, _ => .ok true

def fieldsEqual : List (String × Json) → Row → Except String Bool
  | [], _ => .ok true
  | (key, value) :: fields, others =>
    match others.field? key with
    | none => .ok false
    | some other => do
      let same ← historyEqual value other
      if same then fieldsEqual fields others else pure false

end

def historyPlatform (account : Row) : Except String Json := do
  let named ← go.historyTruth (account.field "platform")
  pure (if named then account.field "platform" else .string "youtube")

/-- `historyPlatform(account) == "youtube"`. -/
def onYouTube (account : Row) : Except String Bool :=
  (go.historyPlatform account).map fun platform => isText platform "youtube"

end Library

theorem historyRequire_eq_ok {checks : List (Except String Bool)}
  (passed : historyRequire reason checks = .ok result) :
  ∀ check ∈ checks, check = .ok true := by
  induction checks with
  | nil => simp
  | cons check _ ih =>
    rcases check with failure | (_ | _)
    · cases passed
    · cases passed
    · intro other member
      rcases List.mem_cons.1 member with rfl | later
      · rfl
      · exact ih passed other later

end VideoProcess.Inventory
