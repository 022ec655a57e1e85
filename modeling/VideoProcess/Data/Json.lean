import Mathlib.Data.Nat.Digits.Defs

namespace VideoProcess.Data

open List

/-! JSON values and the text a database prints for them. -/

def digitChar (digit : Fin 10) : Char := Char.ofNat (48 + digit)

def digitsText (digits : List (Fin 10)) : List Char := digits.map digitChar

def natText (value : Nat) : List Char := Nat.toDigits 10 value

def signText (negative : Bool) : List Char := if negative then ['-'] else []

/-- A number as it is written: no fraction is the empty one. -/
structure Number where
  negative : Bool
  whole : Nat
  fraction : List (Fin 10)
  exponent : Option Int
deriving DecidableEq, Repr

def Number.text (number : Number) : List Char :=
  signText number.negative ++ natText number.whole ++
    (if number.fraction = [] then [] else '.' :: digitsText number.fraction) ++
    match number.exponent with
    | none => []
    | some exponent => 'e' :: signText (exponent < 0) ++ natText exponent.natAbs

inductive Json where
  | null
  | bool (value : Bool)
  | number (value : Number)
  | string (text : String)
  | array (items : List Json)
  | object (fields : List (String × Json))
deriving Repr

/-- `\u` and four hexadecimal digits. -/
def escapeUnit (unit : Nat) : List Char :=
  ['\\', 'u', Nat.digitChar (unit / 4096 % 16), Nat.digitChar (unit / 256 % 16),
    Nat.digitChar (unit / 16 % 16), Nat.digitChar (unit % 16)]

def escapeChar (char : Char) : List Char :=
  if char = '"' then ['\\', '"']
  else if char = '\\' then ['\\', '\\']
  else if char = '\n' then ['\\', 'n']
  else if char = '\r' then ['\\', 'r']
  else if char = '\t' then ['\\', 't']
  else if char.toNat = 8 then ['\\', 'b']
  else if char.toNat = 12 then ['\\', 'f']
  else if char.toNat < 32 then escapeUnit char.toNat
  else [char]

def quoted (text : List Char) : List Char := '"' :: text.flatMap escapeChar ++ ['"']

mutual

def Json.text : Json → List Char
  | .null => "null".toList
  | .bool true => "true".toList
  | .bool false => "false".toList
  | .number value => value.text
  | .string text => quoted text.toList
  | .array items => '[' :: [',', ' '].intercalate (Json.itemTexts items) ++ [']']
  | .object fields => '\x7b' :: [',', ' '].intercalate (Json.fieldTexts fields) ++ ['\x7d']

def Json.itemTexts : List Json → List (List Char)
  | [] => []
  | item :: items => item.text :: Json.itemTexts items

def Json.fieldTexts : List (String × Json) → List (List Char)
  | [] => []
  | (key, value) :: fields =>
    (quoted key.toList ++ [':', ' '] ++ value.text) :: Json.fieldTexts fields

end

def isNumeric (char : Char) : Bool := char.isDigit || char ∈ ['+', '-', '.', 'e']

theorem isDigit_natText (member : char ∈ natText value) : char.isDigit = true :=
  Nat.isDigit_of_mem_toDigits (by decide) (by decide) member

theorem isDigit_digitsText (member : char ∈ digitsText digits) : char.isDigit = true := by
  obtain ⟨digit, -, rfl⟩ := mem_map.1 member
  clear member
  revert digit
  decide

theorem count_dash_eq_zero {text : List Char}
  (digits : ∀ char ∈ text, char.isDigit = true) : text.count '-' = 0 := by
  rw [count_eq_zero]
  exact fun member => absurd (digits '-' member) (by decide)

@[simp] theorem count_dash_natText (value : Nat) : (natText value).count '-' = 0 :=
  count_dash_eq_zero fun _ => isDigit_natText

@[simp] theorem count_dash_digitsText (digits : List (Fin 10)) :
  (digitsText digits).count '-' = 0 := count_dash_eq_zero fun _ => isDigit_digitsText

theorem count_dash_signText (negative : Bool) : (signText negative).count '-' ≤ 1 := by
  cases negative <;> decide

theorem isNumeric_of_isDigit (digit : char.isDigit = true) : isNumeric char = true := by
  simp [isNumeric, digit]

theorem isNumeric_signText (member : char ∈ signText negative) : isNumeric char = true := by
  cases negative with
  | false => cases member
  | true =>
    rw [mem_singleton.1 member]
    decide

namespace Number

theorem isNumeric_text {number : Number} (member : char ∈ number.text) : isNumeric char = true := by
  simp only [text, mem_append] at member
  rcases member with ((sign | whole) | fraction) | power
  · exact isNumeric_signText sign
  · exact isNumeric_of_isDigit (isDigit_natText whole)
  · split at fraction
    · cases fraction
    · rcases mem_cons.1 fraction with rfl | digits
      · decide
      · exact isNumeric_of_isDigit (isDigit_digitsText digits)
  · split at power
    · cases power
    · simp only [cons_append, mem_cons, mem_append] at power
      rcases power with rfl | sign | digits
      · decide
      · exact isNumeric_signText sign
      · exact isNumeric_of_isDigit (isDigit_natText digits)

theorem text_ne_nil (number : Number) : number.text ≠ [] := by
  simp [text, natText, Nat.toDigits_ne_nil]

theorem count_dash_text (number : Number) : number.text.count '-' ≤ 2 := by
  have sign := count_dash_signText number.negative
  have fraction : (if number.fraction = [] then []
    else '.' :: digitsText number.fraction).count '-' = 0 := by
    split <;> simp
  have power : (match number.exponent with
    | none => []
    | some exponent => 'e' :: signText (exponent < 0) ++ natText exponent.natAbs).count
    '-' ≤ 1 := by
    split
    · simp
    next exponent _ =>
      have sign := count_dash_signText (decide (exponent < 0))
      simpa using sign
  simp only [text, count_append, count_dash_natText, fraction]
  omega

end Number

end VideoProcess.Data
