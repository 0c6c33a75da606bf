import Audience.Text.Case
import Audience.Text.Feature
import Audience.Text.Property
import Audience.Text.ScriptUse

/-!
# Sets of characters

A pattern names the characters it accepts by intervals, by what Unicode says of them, and by unions,
intersections and differences of such sets. `CharSet.contains` decides whether a code point is in a
set.
-/

namespace Audience

/-- A set of code points. -/
inductive CharSet where
  | empty
  | interval (first last : Nat)
  /-- The characters at which a feature has one of the values. -/
  | feature (f : Text.Feature) (values : List String)
  /-- The characters used in a script, though they may belong to another. -/
  | scriptUse (code : String)
  | property (name : String)
  | union (a b : CharSet)
  | inter (a b : CharSet)
  | diff (a b : CharSet)
  | compl (a : CharSet)
  /-- What equals a member when case is ignored. -/
  | anyCase (a : CharSet)
  /-- What equals a member when the case of ASCII letters is ignored. -/
  | anyAsciiCase (a : CharSet)
deriving DecidableEq, Repr

namespace CharSet

/-- The other case of an ASCII letter. -/
def otherAsciiCase (n : Nat) : Nat :=
  if 0x41 ≤ n ∧ n ≤ 0x5A then n + 0x20
  else if 0x61 ≤ n ∧ n ≤ 0x7A then n - 0x20
  else n

/-- Whether a code point is one of the two characters beside the surrogates. -/
def besideSurrogates (n : Nat) : Bool :=
  n == 0xD7FF || n == 0xE000

/-- Whether a code point is in a set. A set that ends beside the surrogates and goes on after them
leaves a gap without characters there, which its complement counts by its two ends. -/
def contains : CharSet → Nat → Bool
  | empty, _ => false
  | interval first last, n => first ≤ n && n ≤ last
  | feature f values, n => values.contains (f.value n)
  | scriptUse code, n => (Text.scriptsOf n).contains code
  | property name, n => (Text.property? name).any (·.holds n)
  | union a b, n => a.contains n || b.contains n
  | inter a b, n => a.contains n && b.contains n
  | diff a b, n => a.contains n && !b.contains n
  | compl a, n =>
    !a.contains n ||
      (besideSurrogates n && a.contains 0xD7FF && !a.contains 0xD800 && a.contains 0xE000)
  | anyCase a, n => (Text.caseOrbit n).any a.contains
  | anyAsciiCase a, n => a.contains n || a.contains (otherAsciiCase n)

/-- One code point. -/
def single (n : Nat) : CharSet :=
  interval n n

/-- All code points. -/
def all : CharSet :=
  compl empty

/-- The union of sets. -/
def ofList : List CharSet → CharSet
  | [] => empty
  | [a] => a
  | a :: as => union a (ofList as)

/-- The union of intervals. -/
def ofIntervals (intervals : List (Nat × Nat)) : CharSet :=
  ofList (intervals.map fun i => interval i.1 i.2)

/-- What is in one of the sets alone. -/
def symmDiff (a b : CharSet) : CharSet :=
  union (diff a b) (diff b a)

/-- The complement, if asked for. -/
def negate (negated : Bool) (a : CharSet) : CharSet :=
  if negated then compl a else a

/-- Whether no code point from 128 to 255 is in a set. -/
def isAscii (a : CharSet) : Bool :=
  (List.range 128).all fun n => !a.contains (128 + n)

/-! ## Named sets -/

/-- Decimal digits, of any script or of ASCII. -/
def digit (unicode : Bool) : CharSet :=
  if unicode then feature .category ["Nd"] else interval 0x30 0x39

/-- White space, of any script or of ASCII. -/
def space (unicode : Bool) : CharSet :=
  if unicode then property "whitespace" else ofIntervals [(0x9, 0xD), (0x20, 0x20)]

/-- Letters, marks, digits and what joins them, of any script or of ASCII. -/
def word (unicode : Bool) : CharSet :=
  if unicode then
    ofList [property "alphabetic", feature .category ["Mc", "Me", "Mn", "Nd", "Pc"],
      property "joincontrol"]
  else ofIntervals [(0x30, 0x39), (0x41, 0x5A), (0x5F, 0x5F), (0x61, 0x7A)]

/-- The ASCII characters of a named class. -/
def ascii? (name : String) : Option CharSet :=
  (table.find? (·.1 == name)).map fun entry => ofIntervals entry.2
where
  /-- The classes by name. -/
  table : List (String × List (Nat × Nat)) :=
    [("alnum", [(0x30, 0x39), (0x41, 0x5A), (0x61, 0x7A)]), ("alpha", [(0x41, 0x5A), (0x61, 0x7A)]),
      ("ascii", [(0x0, 0x7F)]), ("blank", [(0x9, 0x9), (0x20, 0x20)]),
      ("cntrl", [(0x0, 0x1F), (0x7F, 0x7F)]), ("digit", [(0x30, 0x39)]), ("graph", [(0x21, 0x7E)]),
      ("lower", [(0x61, 0x7A)]), ("print", [(0x20, 0x7E)]),
      ("punct", [(0x21, 0x2F), (0x3A, 0x40), (0x5B, 0x60), (0x7B, 0x7E)]),
      ("space", [(0x9, 0xD), (0x20, 0x20)]), ("upper", [(0x41, 0x5A)]),
      ("word", [(0x30, 0x39), (0x41, 0x5A), (0x5F, 0x5F), (0x61, 0x7A)]),
      ("xdigit", [(0x30, 0x39), (0x41, 0x46), (0x61, 0x66)])]

/-- A name of a property without separators, in lower case and without a leading `is`; characters
outside ASCII do not count. -/
def normalizeName (name : String) : String :=
  let cs := name.toList
  let lead := (cs.take 2).map Char.toLower == ['i', 's']
  let short := ((if lead then cs.drop 2 else cs).filter fun c =>
    c.toNat < 0x80 && c != ' ' && c != '_' && c != '-').map Char.toLower
  if lead && short == ['c'] then "isc" else String.ofList short

/-- The characters at which a feature has a value, both given by normalised names. Three names that
are no categories go with these: `any`, `assigned` and `ascii`. -/
def featured? (f : Text.Feature) (value : String) : Option CharSet :=
  match f, value with
  | .category, "any" => some all
  | .category, "assigned" => some (compl (feature .category ["Cn"]))
  | .category, "ascii" => some (interval 0 0x7F)
  | _, _ => (f.values? value).map (feature f)

/-- The set of a property, general category or script. -/
def named? (name : String) : Option CharSet :=
  let name := normalizeName name
  if (Text.property? name).isSome then some (property name)
  else (featured? .category name).or (featured? .script name)

/-- The set of a named feature with a named value. -/
def valued? (name value : String) : Option CharSet :=
  let name := normalizeName name
  let value := normalizeName value
  if name = "scx" ∨ name = "scriptextensions" then (Text.scriptCode? value).map scriptUse
  else (Text.Feature.ofName? name).bind (featured? · value)

end CharSet

end Audience
