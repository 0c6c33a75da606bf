import Audience.Text.Case
import Audience.Text.Letter

/-!
# Lower case of a whole text

A text is lowered character by character, save for the capital sigma: at the end of a word it
becomes the final sigma. It ends a word when a cased letter stands before it and none after it,
characters that letter case looks past being skipped on both sides.
-/

namespace Audience.Text

/-- Whether the first character that letter case does not look past is cased. -/
def casedNext (cs : List Char) : Bool :=
  match cs.find? fun c => !isCaseIgnorable .seventeenth c.toNat with
  | some c => isCased .seventeenth c.toNat
  | none => false

/-- Lowers the characters `cs` that follow those of `before`, which are listed backwards. -/
def lowerAfter (before : List Char) : List Char → List Char
  | [] => []
  | c :: cs =>
    (if c = 'Σ' then [if casedNext before && !casedNext cs then 'ς' else 'σ'] else lowerChar c) ++
      lowerAfter (c :: before) cs

/-- The text in lower case. -/
def lower (s : String) : String :=
  String.ofList (lowerAfter [] s.toList)

end Audience.Text
