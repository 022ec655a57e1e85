import VideoProcess.Contracts

namespace VideoProcess.Python

/-! What Python makes of a JSON value. -/

/-- `bool(value)`. A `raw` value is empty or zero by its text. -/
def truthy : ConfigValue → Bool
  | .null => false
  | .bool value => value
  | .int value => value ≠ 0
  | .str value => value ≠ ""
  | .raw text => text ∉ ["[]", "\x7b\x7d", "0.0", "-0.0"]

def str : ConfigValue → String
  | .null => "None"
  | .bool true => "True"
  | .bool false => "False"
  | .int value => toString value
  | .str value => value
  | .raw text => text

/-- `str.strip` and `str.lower`, which follow the Unicode tables of the
interpreter. -/
structure Unicode where
  (strip lower : String → String)

def ascii : Unicode where
  strip text := String.ofList ((text.toList.dropWhile Char.isWhitespace).reverse.dropWhile
    Char.isWhitespace).reverse
  lower text := String.ofList (text.toList.map Char.toLower)

def replaceChar (old new : Char) (text : String) : String :=
  String.ofList (text.toList.map fun char => if char = old then new else char)

end VideoProcess.Python
