/-!
# Blank characters

White space is the Unicode property `White_Space`. `trim` drops it at both ends of a text and
`trimStart` at the front; a text is `blank` when nothing else is in it.
-/

namespace Audience.Text

/-- The code points with the property `White_Space`, as closed intervals. -/
def blankIntervals : List (Nat × Nat) :=
  [(0x9, 0xD), (0x20, 0x20), (0x85, 0x85), (0xA0, 0xA0), (0x1680, 0x1680), (0x2000, 0x200A),
    (0x2028, 0x2029), (0x202F, 0x202F), (0x205F, 0x205F), (0x3000, 0x3000)]

/-- White space, in any script. -/
def isBlank (c : Char) : Bool :=
  blankIntervals.any fun i => i.1 ≤ c.toNat && c.toNat ≤ i.2

/-- The characters after the leading white space. -/
def trimStartChars (cs : List Char) : List Char :=
  cs.dropWhile isBlank

/-- The characters between leading and trailing white space. -/
def trimChars (cs : List Char) : List Char :=
  (trimStartChars (trimStartChars cs).reverse).reverse

/-- The text between leading and trailing white space. -/
def trim (s : String) : String :=
  String.ofList (trimChars s.toList)

/-- Nothing but white space. -/
def blank (s : String) : Bool :=
  s.toList.all isBlank

/-- Whether the characters `part` stand together somewhere in `cs`. -/
def containsChars (part : List Char) : List Char → Bool
  | [] => part.isEmpty
  | c :: cs => part.isPrefixOf (c :: cs) || containsChars part cs

/-- Whether `part` occurs in `s`. -/
def contains (s part : String) : Bool :=
  containsChars part.toList s.toList

end Audience.Text
