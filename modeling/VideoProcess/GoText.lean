import VideoProcess.Data.Text
import VideoProcess.Data.Utf8

namespace VideoProcess.GoText

open Data Utf8

/-! `strings.TrimSpace` and what it takes for a space. -/

def isSpace (char : Char) : Bool :=
  let code := char.toNat
  (9 ≤ code ∧ code ≤ 13) ∨ (0x2000 ≤ code ∧ code ≤ 0x200a) ∨
    code ∈ [0x20, 0x85, 0xa0, 0x1680, 0x2028, 0x2029, 0x202f, 0x205f, 0x3000]

def trimSpace (text : List Char) : List Char := trim isSpace text

/-- `strings.TrimSpace(value) == ""`. A byte that starts no character counts
as one that is not a space. -/
def isBlank (value : Bytes) : Bool :=
  match decode? value with
  | none => false
  | some text => text.all isSpace

theorem isBlank_encode {text : List Char} :
  isBlank (encode text) = true ↔ ∀ char ∈ text, isSpace char = true := by
  simp [isBlank, decode?_encode]

end VideoProcess.GoText
