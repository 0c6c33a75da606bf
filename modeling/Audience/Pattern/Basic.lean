import Audience.Pattern.CharSet

/-!
# Patterns

A pattern describes texts: one character of a set, a condition on the place, sequences, choices and
repetitions. `Pattern.search` decides whether a pattern describes a part of a text.

It follows all ways through the text at once. After each character the ways are patterns for what
may still come (`Pattern.next`), and a way is through when it accepts the empty text at its place
(`Pattern.accepts`). Conditions on a place see the characters on both sides of it, so both functions
take the place.
-/

namespace Audience

/-- A place in a text, by the characters on its two sides. -/
structure Place where
  before : Option Char
  after : Option Char
deriving DecidableEq, Repr

/-- A condition on a place. -/
inductive Look where
  | textStart
  | textEnd
  | lineStart
  | lineEnd
  /-- Line starts and ends where a carriage return with a line feed ends one line. -/
  | crlfStart
  | crlfEnd
  | wordBoundary (unicode : Bool)
  | notWordBoundary (unicode : Bool)
  | wordStart (unicode : Bool)
  | wordEnd (unicode : Bool)
  | wordStartHalf (unicode : Bool)
  | wordEndHalf (unicode : Bool)
deriving DecidableEq, Repr

namespace Look

/-- Whether a side of a place holds a word character. -/
def isWord (unicode : Bool) (side : Option Char) : Bool :=
  side.any fun c => (CharSet.word unicode).contains c.toNat

/-- Whether a place meets a condition. -/
def holds (place : Place) : Look → Bool
  | textStart => place.before.isNone
  | textEnd => place.after.isNone
  | lineStart => place.before.isNone || place.before == some '\n'
  | lineEnd => place.after.isNone || place.after == some '\n'
  | crlfStart =>
    place.before.isNone || place.before == some '\n' ||
      (place.before == some '\r' && place.after != some '\n')
  | crlfEnd =>
    place.after.isNone || place.after == some '\r' ||
      (place.after == some '\n' && place.before != some '\r')
  | wordBoundary u => isWord u place.before != isWord u place.after
  | notWordBoundary u => isWord u place.before == isWord u place.after
  | wordStart u => !isWord u place.before && isWord u place.after
  | wordEnd u => isWord u place.before && !isWord u place.after
  | wordStartHalf u => !isWord u place.before
  | wordEndHalf u => !isWord u place.after

end Look

/-- A description of texts. -/
inductive Pattern where
  | empty
  | one (set : CharSet)
  | look (condition : Look)
  | seq (a b : Pattern)
  | alt (a b : Pattern)
  /-- What stands in brackets that keep it apart. -/
  | group (a : Pattern)
  /-- From `least` to `most` times, or as often as one likes. -/
  | times (a : Pattern) (least : Nat) (most : Option Nat)
deriving DecidableEq, Repr

namespace Pattern

/-- Whether the empty text at a place is described. -/
def accepts (place : Place) : Pattern → Bool
  | empty => true
  | one _ => false
  | look condition => condition.holds place
  | seq a b => a.accepts place && b.accepts place
  | alt a b => a.accepts place || b.accepts place
  | group a => a.accepts place
  | times a least _ => least == 0 || a.accepts place

/-- Two patterns in a row, nothing being put before the second if the first is empty. -/
def andThen : Pattern → Pattern → Pattern
  | empty, b => b
  | a, b => seq a b

/-- The patterns for what may follow a character `c` at a place. A repetition whose body accepts the
empty text there may count that as often as it needs to. -/
def next (place : Place) (c : Char) : Pattern → List Pattern
  | empty => []
  | one set => if set.contains c.toNat then [empty] else []
  | look _ => []
  | seq a b =>
    (a.next place c).map (·.andThen b) ++ if a.accepts place then b.next place c else []
  | alt a b => a.next place c ++ b.next place c
  | group a => a.next place c
  | times a least most =>
    if most == some 0 then []
    else
      let rest := times a (if a.accepts place then 0 else least - 1) (most.map (· - 1))
      (a.next place c).map (·.andThen rest)

/-- Follows the ways through the characters after `before`; the pattern may also begin anywhere. -/
def searchFrom (p : Pattern) (ways : List Pattern) (before : Option Char) : List Char → Bool
  | [] => (p :: ways).any (·.accepts ⟨before, none⟩)
  | c :: cs =>
    let place : Place := ⟨before, some c⟩
    let ways := (p :: ways).eraseDups
    ways.any (·.accepts place) ||
      searchFrom p (ways.flatMap (·.next place c)) (some c) cs

/-- Whether some part of a text is described. -/
def search (p : Pattern) (text : String) : Bool :=
  p.searchFrom [] none text.toList

/-- Patterns in a row. -/
def ofSeq : List Pattern → Pattern
  | [] => empty
  | [a] => a
  | a :: as => seq a (ofSeq as)

/-- A choice of patterns. -/
def ofAlt : List Pattern → Pattern
  | [] => empty
  | [a] => a
  | a :: as => alt a (ofAlt as)

end Pattern

end Audience
