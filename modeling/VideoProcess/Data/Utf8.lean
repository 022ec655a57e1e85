import Mathlib.Data.String.Basic

namespace VideoProcess.Data.Utf8

open List

/-! Byte strings and the texts they encode. -/

abbrev Bytes := List UInt8

def encode (text : List Char) : Bytes := text.flatMap String.utf8EncodeChar

@[simp] theorem encode_nil : encode [] = [] := rfl

@[simp] theorem encode_cons (char : Char) (text : List Char) :
  encode (char :: text) = String.utf8EncodeChar char ++ encode text := rfl

theorem utf8EncodeChar_ne_nil (char : Char) : String.utf8EncodeChar char ≠ [] := by
  rw [← length_pos_iff, String.length_utf8EncodeChar]
  exact char.utf8Size_pos

variable {left right bytes : Bytes} {first second : List Char}

theorem utf8EncodeChar_append_inj {first second : Char}
  (same : String.utf8EncodeChar first ++ left =
    String.utf8EncodeChar second ++ right) : first = second := by
  have arrays := congrArg (fun bytes =>
    ByteArray.utf8DecodeChar? (toByteArray bytes) 0) same
  simpa only [toByteArray_append,
    ByteArray.utf8DecodeChar?_utf8EncodeChar_append, Option.some.injEq] using
    arrays

theorem starts_of_encode (starts : encode first <+: encode second) : first <+: second := by
  induction first generalizing second with
  | nil => exact ⟨second, rfl⟩
  | cons char _ ih =>
    obtain ⟨rest, same⟩ := starts
    cases second with
    | nil => simp at same
    | cons =>
      simp only [encode_cons, append_assoc] at same
      have head := utf8EncodeChar_append_inj same
      subst head
      have tail := append_cancel_left same
      obtain ⟨remaining, whole⟩ := ih ⟨rest, tail⟩
      exact ⟨remaining, congrArg (char :: ·) whole⟩

theorem encode_injective : Function.Injective encode := by
  intro first second same
  have left : first <+: second := starts_of_encode ⟨[], by simp [same]⟩
  have right : second <+: first := starts_of_encode ⟨[], by simp [same]⟩
  exact left.eq_of_length_le right.length_le

theorem isValidUTF8_iff : bytes.toByteArray.IsValidUTF8 ↔ ∃ text, encode text = bytes := by
  constructor
  · rintro ⟨text, same⟩
    exact ⟨text, toByteArray_inj.1 same.symm⟩
  · rintro ⟨text, rfl⟩
    exact ⟨text, rfl⟩

def decode? (bytes : Bytes) : Option (List Char) :=
  if valid : bytes.toByteArray.validateUTF8 = true then
    some (String.fromUTF8 bytes.toByteArray (ByteArray.validateUTF8_eq_true_iff.1 valid)).toList
  else none

theorem decode?_encode (text : List Char) : decode? (encode text) = some text := by
  have valid : (encode text).toByteArray.IsValidUTF8 := isValidUTF8_iff.2 ⟨text, rfl⟩
  rw [decode?, dif_pos (ByteArray.validateUTF8_eq_true_iff.2 valid)]
  have whole : String.fromUTF8 (encode text).toByteArray valid = String.ofList text := by
    apply String.toByteArray_inj.1
    rw [String.toByteArray_ofList]
    rfl
  rw [whole, String.toList_ofList]

theorem decode?_eq_some_iff : decode? bytes = some text ↔ encode text = bytes := by
  constructor
  · intro decoded
    unfold decode? at decoded
    split at decoded
    next valid =>
      obtain ⟨other, rfl⟩ := isValidUTF8_iff.1 (ByteArray.validateUTF8_eq_true_iff.1 valid)
      have again := decode?_encode other
      rw [decode?, dif_pos valid, decoded, Option.some.injEq] at again
      rw [again]
    · cases decoded
  · rintro rfl
    exact decode?_encode text

theorem append_lt_append_iff : common ++ left < common ++ right ↔ left < right := by
  induction common with
  | nil => rfl
  | cons _ _ ih =>
    rw [cons_append, cons_append, cons_lt_cons_iff, ih]
    simp

theorem utf8EncodeChar_lt {first second : Char} (less : first < second) (left right : Bytes) :
  String.utf8EncodeChar first ++ left < String.utf8EncodeChar second ++ right := by
  have order : first.val.toNat < second.val.toNat := less
  have small : second.val.toNat < 0x110000 := by rcases second.valid with low | high <;> omega
  simp only [String.utf8EncodeChar]
  generalize first.val.toNat = value at order
  generalize second.val.toNat = other at order small
  split_ifs <;>
    simp only [cons_append, nil_append, cons_lt_cons_iff,
      UInt8.lt_iff_toNat_lt, ← UInt8.toNat_inj, UInt8.toNat_ofNat'] <;>
    simp (disch := omega) only [Nat.mod_eq_of_lt] <;>
    omega

theorem encode_lt_of_lt (less : first < second) : encode first < encode second := by
  induction first generalizing second with
  | nil =>
    cases second with
    | nil => exact absurd less (lt_irrefl [])
    | cons char =>
      obtain ⟨byte, rest, bytes⟩ := exists_cons_of_ne_nil (utf8EncodeChar_ne_nil char)
      rw [encode_cons, bytes]
      exact nil_lt_cons _ _
  | cons _ _ ih =>
    cases second with
    | nil => exact absurd less (not_lt_nil _)
    | cons =>
      rcases cons_lt_cons_iff.1 less with head | ⟨rfl, tail⟩
      · exact utf8EncodeChar_lt head _ _
      · exact append_lt_append_iff.2 (ih tail)

theorem encode_lt_iff : encode first < encode second ↔ first < second := by
  constructor
  · intro less
    rcases lt_trichotomy first second with before | same | after
    · exact before
    · rw [same] at less
      exact absurd less (List.lt_irrefl _)
    · exact absurd (encode_lt_of_lt after) (List.lt_asymm less)
  · exact encode_lt_of_lt

end VideoProcess.Data.Utf8
