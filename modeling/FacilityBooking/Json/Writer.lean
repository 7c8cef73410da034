import FacilityBooking.Text.Numeral

/-!
# Writing JSON

Compact JSON texts, put together from the texts of their parts.
-/

namespace FacilityBooking.Json

/-- A letter inside a JSON text: quotes, backslashes and controls are escaped. -/
def letterText (letter : Char) : String :=
  match letter with
  | '"' => "\\\""
  | '\\' => "\\\\"
  | '\x08' => "\\b"
  | '\t' => "\\t"
  | '\n' => "\\n"
  | '\x0c' => "\\f"
  | '\r' => "\\r"
  | _ =>
      if letter.toNat < 0x20 then "\\u" ++ Text.padZeros 4 (Text.hexadecimal letter.toNat)
      else letter.toString

/-- A JSON string. -/
def textOf (text : String) : String :=
  "\"" ++ String.join (text.toList.map letterText) ++ "\""

/-- A JSON array of items that are written already. -/
def listOf (items : List String) : String :=
  "[" ++ String.intercalate "," items ++ "]"

/-- A JSON object of named values that are written already. -/
def objectOf (members : List (String × String)) : String :=
  "\x7b" ++ String.intercalate "," (members.map fun (name, value) =>
    textOf name ++ ":" ++ value) ++ "\x7d"

end FacilityBooking.Json
