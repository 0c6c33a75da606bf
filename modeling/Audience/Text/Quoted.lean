import Audience.Text.Category
import Audience.Text.Grapheme

/-!
# Quoted text

Messages show a text between double quotes so that it can be read off a terminal: quotes,
backslashes and the common controls get a backslash, and every other character that is not drawn by
itself is written as its code point, as in `\u{200b}`.
-/

namespace Audience.Text

/-- The code point of a character in hexadecimal. -/
def hexCode (c : Char) : String :=
  String.ofList (Nat.toDigits 16 c.toNat)

/-- The categories of characters that are not drawn: controls, unassigned ones and separators. -/
def undrawnCategories : List String := ["Cc", "Cf", "Cs", "Co", "Cn", "Zl", "Zp", "Zs"]

/-- Whether a character is drawn by itself: it is neither a control, unassigned or a separator other
than the space, nor drawn with the character before. -/
def drawn (c : Char) : Bool :=
  c == ' ' ||
    (!isGraphemeExtend .seventeenth c.toNat &&
      !undrawnCategories.contains (generalCategory .seventeenth c.toNat))

/-- One character of a quoted text. -/
def quotedChar : Char → String
  | '\x00' => "\\0"
  | '\t' => "\\t"
  | '\n' => "\\n"
  | '\r' => "\\r"
  | '\\' => "\\\\"
  | '"' => "\\\""
  | c => if drawn c then c.toString else "\\u\x7b" ++ hexCode c ++ "\x7d"

/-- A text between double quotes. -/
def quoted (s : String) : String :=
  "\"" ++ String.join (s.toList.map quotedChar) ++ "\""

end Audience.Text
