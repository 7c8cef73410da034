import FacilityBooking.Text.Numeral
import FacilityBooking.Text.Printable

/-!
# Quoted text

Text between double quotes in which every character is visible: quotes and
backslashes carry a backslash, and characters without a visible form are written
by name or by code point.
-/

namespace FacilityBooking.Text

/-- A character by its hexadecimal code point, between braces. -/
def codePointEscape (letter : Char) : String :=
  "\\u\x7b" ++ hexadecimal letter.toNat ++ "\x7d"

/-- One character inside quotes. -/
def quotedChar (letter : Char) : String :=
  match letter with
  | '\x00' => "\\0"
  | '\t' => "\\t"
  | '\r' => "\\r"
  | '\n' => "\\n"
  | '\\' => "\\\\"
  | '"' => "\\\""
  | _ =>
      if ' ' ≤ letter ∧ letter ≤ '~' ∨ isPrintable letter then letter.toString
      else codePointEscape letter

/-- The text between double quotes, every character visible. -/
def quoted (text : String) : String :=
  "\"" ++ String.join (text.toList.map quotedChar) ++ "\""

end FacilityBooking.Text
