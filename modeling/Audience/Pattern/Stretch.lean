import Audience.Pattern.CharSet

/-!
# Sets as stretches

`CharSet.stretches` lists a set as stretches of code points, in increasing order and as few as there
can be. The surrogates, which are no characters, part two stretches where both end beside
them, and lie within a stretch that has characters on both sides.
-/

namespace Audience

/-- All code points from a first to a last one. -/
abbrev Stretch := Nat × Nat

namespace Stretch

/-- Puts a stretch before others that do not begin earlier, joining it with those that it reaches
or touches. -/
def joinBefore (i : Stretch) : List Stretch → List Stretch
  | [] => [i]
  | j :: js => if j.1 ≤ i.2 + 1 then joinBefore (i.1, max i.2 j.2) js else i :: j :: js

/-- The stretches in order and joined where they overlap or touch. -/
def normalize (is : List Stretch) : List Stretch :=
  (is.mergeSort fun i j => i.1 ≤ j.1).foldr joinBefore []

/-- The character after a code point. -/
def after (n : Nat) : Nat :=
  if n = 0xD7FF then 0xE000 else n + 1

/-- The character before a code point. -/
def before (n : Nat) : Nat :=
  if n = 0xE000 then 0xD7FF else n - 1

/-- The ends of the gaps after a code point, up to the last one. Between stretches that end beside
the surrogates there is a gap without characters, whose ends are in the wrong order. -/
def gapsAfter (last : Nat) : List Stretch → List (Nat × Nat)
  | [] => if last < 0x10FFFF then [(after last, 0x10FFFF)] else []
  | i :: is => (after last, before i.1) :: gapsAfter i.2 is

/-- The ends of the gaps that stretches leave. -/
def gaps : List Stretch → List (Nat × Nat)
  | [] => [(0, 0x10FFFF)]
  | i :: is => (if 0 < i.1 then [(0, before i.1)] else []) ++ gapsAfter i.2 is

/-- The complement of stretches. A gap without characters counts by its ends. -/
def complement (is : List Stretch) : List Stretch :=
  (gaps is).map fun g => (min g.1 g.2, max g.1 g.2)

/-- What is in both of two lists of stretches. -/
def meet (is js : List Stretch) : List Stretch :=
  match is, js with
  | [], _ | _, [] => []
  | i :: is, j :: js =>
    let rest := if i.2 < j.2 then meet is (j :: js) else meet (i :: is) js
    if max i.1 j.1 ≤ min i.2 j.2 then (max i.1 j.1, min i.2 j.2) :: rest else rest
termination_by is.length + js.length

/-- Whether a code point is in one of the stretches. -/
def covers (is : List Stretch) (n : Nat) : Bool :=
  is.any fun i => i.1 ≤ n && n ≤ i.2

end Stretch

namespace CharSet

/-- The stretches of a set. -/
def stretches : CharSet → List Stretch
  | empty => []
  | interval first last => [(first, last)]
  | feature f values => Stretch.normalize (f.table.stretches values.contains)
  | scriptUse code =>
    let own := Stretch.normalize (Text.scriptTable.stretches (· == code))
    let unshared := Stretch.normalize (Text.sharedScriptTable.stretches (· == "="))
    let shared := Text.sharedScriptTable.stretches fun s => (s.splitOn "+").contains code
    Stretch.normalize (Stretch.meet own unshared ++ shared)
  | property name => (Text.property? name).elim [] fun t => Stretch.normalize (t.stretches id)
  | union a b => Stretch.normalize (a.stretches ++ b.stretches)
  | inter a b => Stretch.meet a.stretches b.stretches
  | diff a b => Stretch.meet a.stretches ((Stretch.gaps b.stretches).filter fun g => g.1 ≤ g.2)
  | compl a => Stretch.complement a.stretches
  | anyCase a =>
    let is := a.stretches
    let letters := Text.casedLetters.filter (Stretch.covers is)
    Stretch.normalize (is ++ letters.flatMap fun n => (Text.caseOrbit n).map fun m => (m, m))
  | anyAsciiCase a =>
    let is := a.stretches
    let letters := (List.range 0x80).filter (Stretch.covers is)
    Stretch.normalize (is ++ letters.map fun n => (otherAsciiCase n, otherAsciiCase n))

end CharSet

end Audience
