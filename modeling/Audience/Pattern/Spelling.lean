import Audience.Pattern.Bytes

/-!
# Sets of characters spelled out

A set of characters that is followed byte by byte takes several states. `Spelling.extent` says how
many they are and what they keep beside: four bytes for each way on, or eight for each range of
bytes that leads on.

Going forwards, equal states are written once. Going backwards, a state is shared where it leads to
the same state by the same range of bytes, as long as it is kept (`SharedStates`).
-/

namespace Audience

/-- What has been written out: the number of states and the bytes that these keep beside. -/
structure Extent where
  states : Nat
  beside : Nat
deriving DecidableEq, Repr

namespace Extent

/-- The bytes for a state. -/
def stateSize : Nat := 32

/-- The bytes that a pattern may take up in one direction. -/
def sizeLimit : Nat := 10485760

/-- Two extents together. -/
def add (a b : Extent) : Extent :=
  ⟨a.states + b.states, a.beside + b.beside⟩

/-- The bytes taken up. -/
def size (e : Extent) : Nat :=
  e.states * stateSize + e.beside

end Extent

namespace Spelling

/-! ## Going forwards -/

/-- A state for going forwards: the ranges of bytes that lead on, each with the number of the state
that it leads to. The number `0` stands for the end. -/
abbrev Node := List (ByteRange × Nat)

/-- Sequences by their first item: those with equal first items next to each other are one entry. -/
def byFirst {α : Type} [DecidableEq α] (sequences : List (List α)) : List (α × List (List α)) :=
  sequences.foldr
    (fun s entries =>
      match s, entries with
      | [], entries => entries
      | a :: s, (b, rests) :: entries =>
        if a = b then (b, (s :: rests)) :: entries else (a, [s]) :: (b, rests) :: entries
      | a :: s, [] => [(a, [s])])
    []

/-- The number of a state, equal states being written once. -/
def shared (node : Node) : StateM (List Node) Nat := do
  let nodes ← get
  match nodes.reverse.findIdx? (· == node) with
  | some i => return i + 1
  | none =>
    set (node :: nodes)
    return nodes.length + 1

/-- Writes the states for going forwards through sequences of bytes that are in order and of which
none goes on where another ends. The number of the first state is the answer. -/
def nodesOf : (longest : Nat) → List (List ByteRange) → StateM (List Node) Nat
  | 0, _ => return 0
  | longest + 1, sequences => do
    if sequences.all (·.isEmpty) then return 0
    else
      let node ← (byFirst sequences).mapM fun entry => do
        return (entry.1, ← nodesOf longest entry.2)
      shared node

/-- The extent of a set that is followed forwards, the end being a state of its own. -/
def forwardExtent (sequences : List (List ByteRange)) : Extent :=
  let nodes := ((nodesOf 4 sequences).run []).2
  ⟨1 + nodes.length, nodes.foldl (fun n node => n + 8 * node.length) 0⟩

/-! ## Going backwards -/

/-- The states that a set going backwards can share: each leads by a range of bytes to a state, and
is kept at one of a thousand places, where a later one takes its place. -/
abbrev SharedStates := Array (Option ((Nat × ByteRange) × Nat))

namespace SharedStates

/-- No states. -/
def initial : SharedStates :=
  Array.replicate 1000 none

/-- The place of a state by where it leads to and by which range, three numbers mixed one after the
other. -/
def place (next : Nat) (range : ByteRange) : Nat :=
  let mix (h : UInt64) (n : Nat) : UInt64 := (h ^^^ n.toUInt64) * 1099511628211
  (mix (mix (mix 14695981039346656037 next) range.1) range.2).toNat % 1000

/-- Goes backwards through the rest of a sequence from the state `next`, when there are `states`
states: the states that can be shared, the number of states and the last of the sequence. -/
def follow (known : SharedStates) (states next : Nat) :
    List ByteRange → SharedStates × Nat × Nat
  | [] => (known, states, next)
  | range :: rest =>
    let spot := place next range
    let found := match known[spot]? with
      | some (some (key, state)) => if key = (next, range) then some state else none
      | _ => none
    match found with
    | some state => follow known states state rest
    | none =>
      follow (known.setIfInBounds spot (some ((next, range), states))) (states + 1) states rest

end SharedStates

/-- The number of states when a set going backwards is added to `states` states: one from which all
sequences begin, the end, and those that the sequences do not share. -/
def backwardStates (states : Nat) (sequences : List (List ByteRange)) : Nat :=
  (sequences.foldl
    (fun (known, count) s =>
      let (known, count, _) := known.follow count (states + 1) s
      (known, count))
    (SharedStates.initial, states + 2)).2

end Spelling

/-- A set that is spelled out. -/
structure Spelling where
  stretches : List Stretch
  sequences : List (List ByteRange)
  forward : Extent

namespace Spelling

/-- Spells out the characters of stretches. -/
def ofStretches (stretches : List Stretch) : Spelling :=
  let sequences := stretches.flatMap Stretch.byteSequences
  ⟨stretches, sequences, forwardExtent sequences⟩

/-- Whether all characters of a set are of ASCII. Such a set is one state and the end. -/
def isAscii (s : Spelling) : Bool :=
  s.stretches.all (·.2 < 0x80)

/-- What a set adds to `states` states. -/
def extent (backward : Bool) (states : Nat) (s : Spelling) : Extent :=
  if s.isAscii then ⟨2, 8 * s.stretches.length⟩
  else if backward then
    ⟨backwardStates states s.sequences - states, 4 * s.sequences.length⟩
  else s.forward

end Spelling

end Audience
