import Audience.Pattern.Form

/-!
# The size of patterns

Repetitions let a short text stand for a very large pattern. Before a pattern is used it is written
out as states that follow each other, once for going forwards and once for going backwards through
the bytes of a text, with a copy for each time that a part is repeated. `Pattern.fits` holds of the
patterns for which both take up no more than `Extent.sizeLimit`.
-/

namespace Audience

namespace Form

/-- Texts up to each empty one. -/
def segments (all : List (List Nat)) : List (List (List Nat)) :=
  all.foldr
    (fun t segments =>
      match t, segments with
      | [], segments => [] :: segments
      | t, [] => [[t]]
      | t, segment :: segments => (t :: segment) :: segments)
    [[]]

/-- The extent of a choice between texts, without its end: a state for each beginning that they
share, with one more for the bytes that lead on between two texts that end there. -/
def textsExtent : (longest : Nat) → List (List Nat) → Extent
  | 0, _ => ⟨0, 0⟩
  | longest + 1, all =>
    if all.all (·.isEmpty) then ⟨0, 0⟩
    else
      let parts := segments all
      parts.foldl
        (fun e part =>
          let bytes := (part.filterMap (·.head?)).eraseDups
          let own : Extent := match bytes.length with
            | 0 => ⟨0, 0⟩
            | 1 => ⟨1, 4⟩
            | n => ⟨1, 4 + 8 * n⟩
          bytes.foldl
            (fun e byte =>
              let rests := (part.filter (·.head? == some byte)).map (·.drop 1)
              e.add (textsExtent longest rests))
            (e.add own))
        ⟨1, 4 * (parts.length - 1)⟩

/-- Writing out, which ends when the limit is passed. -/
abbrev Writer := StateT Extent Option

/-- Adds states. -/
def add (more : Extent) : Writer Unit := fun e =>
  let e := e.add more
  if e.size ≤ Extent.sizeLimit then some ((), e) else none

/-- Writes the same so many times. -/
def copies : (count : Nat) → Writer Unit → Writer Unit
  | 0, _ => pure ()
  | count + 1, w => do
    w
    copies count w

/-- What joins a part to a choice, by the number of parts before it: the second one brings the two
states at which the choice begins and ends. -/
def join : (before : Nat) → Writer Unit
  | 0 => pure ()
  | 1 => add ⟨2, 8⟩
  | _ => add ⟨0, 4⟩

/-- Writes a form that is a part of a choice with so many parts before it. -/
def write (backward : Bool) : (before : Nat) → Form → Writer Unit
  | before, empty | before, look _ => do
    add ⟨1, 0⟩
    join before
  | before, text cs => do
    add ⟨(cs.flatMap utf8).length, 0⟩
    join before
  | before, texts choices => do
    let choices := choices.map fun cs =>
      let bytes := cs.flatMap utf8
      if backward then bytes.reverse else bytes
    let longest := choices.foldl (fun n t => max n t.length) 0
    add ((textsExtent longest choices).add ⟨1, 0⟩)
    join before
  | before, set s => do
    add (s.extent backward (← get).states)
    join before
  | before, seq a b => do
    if backward then
      b.write backward 0
      a.write backward 0
    else
      a.write backward 0
      b.write backward 0
    join before
  | before, alt a b => do
    a.write backward 0
    join before
    b.write backward (before + 1)
  | before, group a => do
    if backward then a.write backward 0
    else
      add ⟨1, 0⟩
      a.write backward 0
      add ⟨1, 0⟩
    join before
  | before, times a least most => do
    let body := a.write backward 0
    match least, most with
    | 0, none =>
      if a.isProper then
        add ⟨1, 8⟩
        body
      else
        body
        add ⟨3, 16⟩
    | least, none =>
      copies least body
      add ⟨1, 8⟩
    | 0, some 1 =>
      add ⟨1, 8⟩
      body
      add ⟨1, 0⟩
    | least, some most =>
      if least = 0 then add ⟨1, 0⟩ else copies least body
      if least < most then
        add ⟨1, 0⟩
        copies (most - least) do
          add ⟨1, 8⟩
          body
    join before

/-- Writes out a whole pattern. Unless it is anchored, states that pass over the beginning of a text
come first, and one at which a text is found comes last. -/
def writeAll (backward : Bool) (a : Form) : Writer Unit := do
  if a.isAnchored backward then add ⟨1, 0⟩ else add ⟨3, 16⟩
  (group a).write backward 0
  add ⟨1, 0⟩

end Form

namespace Pattern

/-- Whether a pattern is small enough to be used. -/
def fits (p : Pattern) : Bool :=
  let a := Form.choice (Form.ofPattern p)
  [false, true].all fun backward => ((a.writeAll backward).run ⟨0, 0⟩).isSome

end Pattern

end Audience
