import VideoProcess.Data.Dict
import VideoProcess.Data.Json
import VideoProcess.Data.Utf8
import Mathlib.Data.List.Sort
import Mathlib.Data.Nat.Bitwise

namespace VideoProcess.Worker

open Data Utf8 List

/-! The canonical JSON of a Redis payload, encoded in Go and in Python. -/

/-- A Go `map[string]string`: any bytes. -/
abbrev GoMap := Dict Bytes Bytes

abbrev Payload := Dict String String

def validString (value : Bytes) : Bool := (decode? value).isSome

/-- What `range` yields over a valid string. -/
def runes (value : Bytes) : List Char := (decode? value).getD []

/-- One turn of the loop of `writePythonJSONString`. -/
def writeRune (char : Char) : List Char :=
  let code := char.toNat
  if char = '"' ∨ char = '\\' then ['\\', char]
  else if code = 8 then ['\\', 'b']
  else if code = 12 then ['\\', 'f']
  else if char = '\n' then ['\\', 'n']
  else if char = '\r' then ['\\', 'r']
  else if char = '\t' then ['\\', 't']
  else if code < 0x20 then escapeUnit code
  else if code ≤ 0x7f then [char]
  else if code ≤ 0xffff then escapeUnit code
  else
    let scalar := code - 0x10000
    escapeUnit (0xd800 + (scalar >>> 10)) ++ escapeUnit (0xdc00 + (scalar &&& 0x3ff))

def writePythonJSONString (value : Bytes) : List Char :=
  '"' :: (runes value).flatMap writeRune ++ ['"']

def canonicalRedisPayloadJSON (values : Option GoMap) : Except String Bytes :=
  match values with
  | none => .error "Redis payload is invalid"
  | some values =>
    if ∀ entry ∈ values.entries, validString entry.1 ∧ validString entry.2 then
      let keys := values.keys.insertionSort fun left right => ¬ right < left
      .ok (encode ('\x7b' :: [','].intercalate (keys.map fun key =>
        writePythonJSONString key ++
          ':' :: writePythonJSONString (values.getD key [])) ++ ['\x7d']))
    else .error "Redis payload is invalid"

theorem exists_canonicalRedisPayloadJSON_iff {values : GoMap} :
  (∃ payload, canonicalRedisPayloadJSON (some values) = .ok payload) ↔
    ∀ entry ∈ values.entries, validString entry.1 ∧ validString entry.2 := by
  simp only [canonicalRedisPayloadJSON]
  split
  next valid => exact ⟨fun _ => valid, fun _ => ⟨_, rfl⟩⟩
  next invalid =>
    constructor
    · rintro ⟨_, encoded⟩
      cases encoded
    · exact fun valid => absurd valid invalid

variable (digest : Bytes → String)

/-- `CanonicalRedisPayloadSHA256`, with the digest as a parameter. -/
def canonicalRedisPayloadSHA256
  (values : Option GoMap) : Except String String := (canonicalRedisPayloadJSON values).map digest

/-- `json.encoder.py_encode_basestring_ascii`, for one character. -/
def escapeASCII (char : Char) : List Char :=
  let code := char.toNat
  if char = '\\' then ['\\', '\\']
  else if char = '"' then ['\\', '"']
  else if code = 8 then ['\\', 'b']
  else if code = 12 then ['\\', 'f']
  else if char = '\n' then ['\\', 'n']
  else if char = '\r' then ['\\', 'r']
  else if char = '\t' then ['\\', 't']
  else if ' ' ≤ char ∧ char ≤ '~' then [char]
  else if code < 0x10000 then escapeUnit code
  else
    let scalar := code - 0x10000
    escapeUnit (0xd800 ||| ((scalar >>> 10) &&& 0x3ff)) ++
      escapeUnit (0xdc00 ||| (scalar &&& 0x3ff))

def dumpsWith (escape : Char → List Char) (payload : Payload) : List Char :=
  let string (text : String) := '"' :: text.toList.flatMap escape ++ ['"']
  let items := payload.entries.insertionSort fun left right =>
    ¬ right.1.toList < left.1.toList
  '\x7b' :: [','].intercalate (items.map fun item =>
    string item.1 ++ ':' :: string item.2) ++ ['\x7d']

/-- `json.dumps(payload, sort_keys=True, separators=(",", ":")).encode()`. -/
def canonicalPayload (payload : Payload) : Bytes := encode (dumpsWith escapeASCII payload)

def canonicalPayloadSHA256 (payload : Payload) : String :=
  digest (canonicalPayload payload)

def utf8 (text : String) : Bytes := encode text.toList

theorem utf8_injective : Function.Injective utf8 := fun _ _ same =>
  String.toList_inj.1 (encode_injective same)

def goMap (payload : Payload) : GoMap where
  entries := payload.entries.map fun entry => (utf8 entry.1, utf8 entry.2)
  nodup := by
    rw [List.map_map]
    have keys := payload.nodup.map utf8_injective
    rwa [List.map_map] at keys

theorem validString_utf8 (text : String) : validString (utf8 text) = true := by
  simp [validString, utf8, decode?_encode]

theorem writePythonJSONString_utf8 (text : String) : writePythonJSONString (utf8 text) =
  '"' :: text.toList.flatMap writeRune ++ ['"'] := by
  simp [writePythonJSONString, runes, utf8, decode?_encode]

theorem getD_goMap (member : entry ∈ payload.entries) :
  (goMap payload).getD (utf8 entry.1) [] = utf8 entry.2 := by
  have mapped : (utf8 entry.1, utf8 entry.2) ∈ (goMap payload).entries :=
    List.mem_map.2 ⟨entry, member, rfl⟩
  exact Dict.getD_of_mem mapped []

section

variable (payload : Payload)

theorem sorted_keys_goMap : (goMap payload).keys.insertionSort (fun left right => ¬ right < left) =
    (payload.entries.insertionSort fun left right =>
      ¬ right.1.toList < left.1.toList).map fun entry => utf8 entry.1 := by
  have sorted := List.map_insertionSort
    (fun left right : String × String => ¬ right.1.toList < left.1.toList)
    (fun left right : Bytes => ¬ right < left) (fun entry => utf8 entry.1)
    payload.entries fun _ _ _ _ => not_congr encode_lt_iff.symm
  rw [sorted, Dict.keys, goMap, List.map_map]
  rfl

theorem canonicalRedisPayloadJSON_goMap : canonicalRedisPayloadJSON (some (goMap payload)) =
    .ok (encode (dumpsWith writeRune payload)) := by
  have valid : ∀ entry ∈ (goMap payload).entries, validString entry.1 ∧ validString entry.2 := by
    intro entry member
    obtain ⟨_, -, rfl⟩ := List.mem_map.1 member
    exact ⟨validString_utf8 _, validString_utf8 _⟩
  simp only [canonicalRedisPayloadJSON, if_pos valid, sorted_keys_goMap, List.map_map, dumpsWith]
  congr 5
  apply List.map_congr_left
  intro entry member
  rw [List.mem_insertionSort] at member
  simp [writePythonJSONString_utf8, getD_goMap member]

def del : Char := Char.ofNat 0x7f

theorem high_surrogate_eq (small : scalar < 0x100000) :
  0xd800 + (scalar >>> 10) = 0xd800 ||| ((scalar >>> 10) &&& 0x3ff) := by
  have bound : scalar >>> 10 < 2 ^ 10 := by
    rw [Nat.shiftRight_eq_div_pow]
    omega
  rw [show 0x3ff = 2 ^ 10 - 1 from rfl, Nat.and_two_pow_sub_one_of_lt_two_pow bound]
  exact Nat.two_pow_add_eq_or_of_lt bound 54

theorem low_surrogate_eq (scalar : Nat) :
  0xdc00 + (scalar &&& 0x3ff) = 0xdc00 ||| (scalar &&& 0x3ff) := by
  have bound : scalar &&& 0x3ff < 2 ^ 10 := Nat.and_lt_two_pow _ (by decide)
  exact Nat.two_pow_add_eq_or_of_lt bound 55

theorem toNat_lt (char : Char) : char.toNat < 0x110000 := by
  have valid := char.valid
  change char.val.toNat < 0x110000
  rcases valid with low | high <;> omega

theorem toNat_eq_del_iff : char.toNat = 0x7f ↔ char = del := by
  constructor
  · intro code
    rw [← Char.ofNat_toNat char, code]
    rfl
  · rintro rfl
    decide

theorem writeRune_tail_eq (other : char ≠ del) : (if char.toNat < 0x20 then escapeUnit char.toNat
  else if char.toNat ≤ 0x7f then [char]
  else if char.toNat ≤ 0xffff then escapeUnit char.toNat
  else escapeUnit (0xd800 + ((char.toNat - 0x10000) >>> 10)) ++
    escapeUnit (0xdc00 + ((char.toNat - 0x10000) &&& 0x3ff))) =
  if ' ' ≤ char ∧ char ≤ '~' then [char]
    else if char.toNat < 0x10000 then escapeUnit char.toNat
    else escapeUnit (0xd800 ||| (((char.toNat - 0x10000) >>> 10) &&& 0x3ff)) ++
      escapeUnit (0xdc00 ||| ((char.toNat - 0x10000) &&& 0x3ff)) := by
  have range := toNat_lt char
  have plain : (' ' ≤ char ∧ char ≤ '~') ↔ 32 ≤ char.toNat ∧ char.toNat ≤ 126 := Iff.rfl
  have code : char.toNat ≠ 0x7f := fun same => other (toNat_eq_del_iff.1 same)
  have scalar : char.toNat - 0x10000 < 0x100000 := by omega
  rw [high_surrogate_eq scalar, low_surrogate_eq]
  simp only [plain]
  split_ifs <;> first | rfl | omega

theorem writeRune_eq (other : char ≠ del) : writeRune char = escapeASCII char := by
  simp only [writeRune, escapeASCII]
  by_cases quote : char = '"'
  · subst quote
    decide
  by_cases backslash : char = '\\'
  · subst backslash
    decide
  simp [quote, backslash, writeRune_tail_eq other]

theorem del_notMem_escapeUnit (unit : Nat) : del ∉ escapeUnit unit := by
  have hex (digit : Nat) : del ≠ Nat.digitChar (digit % 16) := by
    have small : digit % 16 < 16 := Nat.mod_lt _ (by decide)
    generalize digit % 16 = value at small
    revert value
    decide
  simp only [escapeUnit, mem_cons, not_mem_nil, or_false, not_or]
  exact ⟨by decide, by decide, hex _, hex _, hex _, hex _⟩

theorem del_notMem_escapeASCII (char : Char) : del ∉ escapeASCII char := by
  have short (letter : Char) (other : letter ≠ del) : del ∉ ['\\', letter] := by
    simp only [mem_cons, not_mem_nil, or_false, not_or]
    exact ⟨by decide, other.symm⟩
  simp only [escapeASCII]
  split_ifs with _ _ _ _ _ _ _ plain _
  iterate 7 exact short _ (by decide)
  · rw [mem_singleton]
    rintro rfl
    exact absurd plain.2 (by decide)
  · exact del_notMem_escapeUnit _
  · rw [mem_append, not_or]
    exact ⟨del_notMem_escapeUnit _, del_notMem_escapeUnit _⟩

def Payload.Lacks (char : Char) : Prop :=
  ∀ entry ∈ payload.entries, char ∉ entry.1.toList ∧ char ∉ entry.2.toList

end

theorem mem_intercalate_iff {texts : List (List Char)} (other : char ≠ ',') :
  char ∈ [','].intercalate texts ↔ ∃ text ∈ texts, char ∈ text := by
  induction texts with
  | nil => simp
  | cons _ texts ih =>
    cases texts with
    | nil => simp
    | cons =>
      rw [intercalate_cons_cons, mem_append, mem_append, ih]
      simp [other]

theorem mem_dumpsWith_iff : del ∈ dumpsWith escape payload ↔ ∃ entry ∈ payload.entries,
  (∃ char ∈ entry.1.toList, del ∈ escape char) ∨ ∃ char ∈ entry.2.toList, del ∈ escape char := by
  have quote : del ≠ '"' := by decide
  have colon : del ≠ ':' := by decide
  have opened : del ≠ '\x7b' := by decide
  have closed : del ≠ '\x7d' := by decide
  simp only [dumpsWith, List.mem_cons, List.mem_append, List.cons_append,
    mem_intercalate_iff (show del ≠ ',' by decide), List.mem_map,
    List.mem_insertionSort, List.mem_flatMap, List.not_mem_nil, quote, colon,
    opened, closed, false_or, or_false, exists_exists_and_eq_and]

theorem dumpsWith_congr (same : ∀ entry ∈ payload.entries,
  (∀ char ∈ entry.1.toList, first char = second char) ∧
    ∀ char ∈ entry.2.toList, first char = second char) :
  dumpsWith first payload = dumpsWith second payload := by
  have quoted {text : String} (chars : ∀ char ∈ text.toList, first char = second char) :
    text.toList.flatMap first = text.toList.flatMap second := by
    rw [List.flatMap_def, List.flatMap_def, List.map_congr_left chars]
  simp only [dumpsWith]
  congr 3
  apply List.map_congr_left
  intro entry member
  rw [List.mem_insertionSort] at member
  rw [quoted (same entry member).1, quoted (same entry member).2]

/-- The two encodings of a payload are the same bytes exactly if it holds no
DEL character. -/
theorem canonicalRedisPayloadJSON_eq_iff (payload : Payload) :
  canonicalRedisPayloadJSON (some (goMap payload)) =
    .ok (canonicalPayload payload) ↔ payload.Lacks del := by
  rw [canonicalRedisPayloadJSON_goMap, canonicalPayload, Except.ok.injEq, encode_injective.eq_iff]
  constructor
  · intro same
    have absent : del ∉ dumpsWith writeRune payload := by
      rw [same, mem_dumpsWith_iff]
      simp [del_notMem_escapeASCII]
    have written : del ∈ writeRune del := by decide
    rw [mem_dumpsWith_iff] at absent
    intro entry member
    refine ⟨fun key => absent ⟨entry, member, .inl ⟨del, key, written⟩⟩, ?_⟩
    exact fun value => absent ⟨entry, member, .inr ⟨del, value, written⟩⟩
  · intro lacks
    apply dumpsWith_congr
    intro entry member
    have free {text : List Char} (clean : del ∉ text) :
      ∀ char ∈ text, writeRune char = escapeASCII char := by
      intro char present
      apply writeRune_eq
      rintro rfl
      exact clean present
    exact ⟨free (lacks entry member).1, free (lacks entry member).2⟩

/-- An error text that ends in DEL. -/
def delPayload : Payload := Dict.empty.set "error" "\x7f"

/-- Go writes the character, Python its escape. -/
theorem canonicalRedisPayloadJSON_del : canonicalRedisPayloadJSON (some (goMap delPayload)) =
  .ok (utf8 "\x7b\"error\":\"\x7f\"\x7d") ∧
  canonicalPayload delPayload = utf8 "\x7b\"error\":\"\\u007f\"\x7d" ∧
  utf8 "\x7b\"error\":\"\x7f\"\x7d" ≠ utf8 "\x7b\"error\":\"\\u007f\"\x7d" := by
  rw [canonicalRedisPayloadJSON_goMap]
  decide +kernel

end VideoProcess.Worker
