import Audience.Comparison.Standard
import Audience.Report

/-!
# Stores

A store keeps predicates under the names of their segments, in the order in which the names were
first loaded. Loading a name again replaces its predicate where it stands; removing a name leaves
the order of the others, and a name loaded after that goes to the end. A batch is loaded whole or
not at all. Calls on a store are `Store.Action`s, and those that may change it are listed as
`Store.Change`. Callers hold a `Handle` on a store, and a clone of it is a handle on the same content.

An `Engine` evaluates what a store holds. Selecting passes over predicates whose evaluation fails.
-/

namespace Audience

/-- How predicates are evaluated: by which comparison, and with a trace in reports or without. -/
structure Engine where
  compare : Comparison
  traced : Bool

/-- The standard comparison, without a trace. -/
def Engine.standard : Engine := ⟨.standard, false⟩

/-- Predicates under their names, in order of arrival. -/
structure Store where
  entries : List (String × Predicate)
deriving Repr

namespace Store

/-- A store without segments. -/
def empty : Store := ⟨[]⟩

/-- The names, in order. -/
def names (s : Store) : List String :=
  s.entries.map (·.1)

/-- The predicates, in order. -/
def predicates (s : Store) : List Predicate :=
  s.entries.map (·.2)

/-- How many segments there are. -/
def size (s : Store) : Nat :=
  s.entries.length

/-- The predicate under a name. -/
def get? (s : Store) (name : String) : Option Predicate :=
  s.entries.lookup name

/-- Whether a name is there. -/
def has (s : Store) (name : String) : Bool :=
  (s.get? name).isSome

/-- Sets the predicate under a name: in its place if the name is there, else at the end. -/
def putEntry (name : String) (p : Predicate) : List (String × Predicate) → List (String × Predicate)
  | [] => [(name, p)]
  | (n, q) :: entries => if n = name then (n, p) :: entries else (n, q) :: putEntry name p entries

/-- Keeps a predicate under its name. -/
def insert (s : Store) (p : Predicate) : Store :=
  ⟨putEntry p.name p s.entries⟩

/-- Keeps predicates, one after the other. -/
def insertAll (s : Store) (ps : List Predicate) : Store :=
  ps.foldl insert s

/-- Takes a name out. -/
def erase (s : Store) (name : String) : Store :=
  ⟨s.entries.filter fun e => e.1 ≠ name⟩

/-! ## Calls -/

/-- A call on a store. It answers or fails, and either way leaves the store with what it has written
by then. -/
abbrev Action (α : Type) := ExceptT Error (StateM Store) α

/-- Carries a call out: its answer, and the store after it. -/
def Action.on {α : Type} (a : Action α) (s : Store) : Except Error α × Store :=
  a.run.run s

/-- Makes a segment ready and keeps it. -/
def load (segment : Segment) : Action Unit := do
  let p ← Predicate.ofSegment segment
  modify (·.insert p)

/-- Makes the segment ready that a text describes and keeps it; the answer is its name. -/
def loadText (text : String) : Action String := do
  let p ← Predicate.ofText text
  modify (·.insert p)
  return p.name

/-- Makes segments ready, at least one, and keeps them once all are; the answer has their names. -/
def loadAll (segments : List Segment) : Action (List String) := do
  if segments.isEmpty then throw .noSegments
  let ps ← Predicate.ofSegments segments
  modify (·.insertAll ps)
  return ps.map Predicate.name

/-- Takes a name out, which must be there. -/
def remove (name : String) : Action Unit := do
  if (← get).has name then modify (·.erase name) else throw (.segmentNotFound name)

/-- Takes all names out. -/
def clear : Action Unit :=
  set empty

/-- A call that may change a store. -/
inductive Change where
  | load (segment : Segment)
  | loadText (text : String)
  | loadAll (segments : List Segment)
  | remove (name : String)
  | clear

/-- What the call does; the answer has the names that it tells. -/
def Change.action : Change → Action (List String)
  | .load segment => do Store.load segment; return []
  | .loadText text => do return [← Store.loadText text]
  | .loadAll segments => Store.loadAll segments
  | .remove name => do Store.remove name; return []
  | .clear => do Store.clear; return []

/-! ## Batches -/

/-- The segments that a value describes: those of a list, or a single one; none for `null`. -/
def segmentsOfJson : Json → Except Json.Mismatch (List Segment)
  | .array items => items.mapM Segment.ofJson
  | .null => .ok []
  | j => (Segment.ofJson j).map ([·])

/-- A store of the given segments. -/
def ofSegments (segments : List Segment) : Except Error Store :=
  let (answer, s) := (loadAll segments).on empty
  answer.map fun _ => s

/-- A store of the segments that a text describes. -/
def ofText (text : String) : Except Error Store := do
  let j ← (Json.ofText? text).mapError .document
  let segments ← (segmentsOfJson j).mapError fun fault => .document (.ofMismatch fault)
  ofSegments segments

/-! ## Figures -/

/-- Counts over a store. -/
structure Stats where
  segments : Nat
  conditions : Nat
  groups : Nat
deriving DecidableEq, Repr

/-- The counts of a store. -/
def stats (s : Store) : Stats :=
  ⟨s.size, (s.predicates.map (·.checks.length)).foldl (· + ·) 0,
    (s.predicates.map (·.groups.length)).foldl (· + ·) 0⟩

/-- The number of conditions for each segment, zero if there are no segments. -/
def Stats.average (t : Stats) : Binary64 :=
  if t.segments = 0 then ⟨false, 0⟩
  else (Binary64.ofRatio? false t.conditions t.segments).getD ⟨false, 0⟩

/-! ## Evaluation -/

/-- The outcome for the predicate under a name. -/
def evaluate (s : Store) (engine : Engine) (name : String) (r : Record) : Except Error Outcome :=
  match s.get? name with
  | some p => .ok (p.outcome engine.compare r)
  | none => .error (.segmentNotFound name)

/-- The segments that match, in order. -/
def selectAll (s : Store) (engine : Engine) (r : Record) : List Segment :=
  s.predicates.filterMap fun p => (p.outcome engine.compare r).segment?

/-- The first segment that matches. -/
def selectFirst (s : Store) (engine : Engine) (r : Record) : Outcome :=
  match s.predicates.findSome? fun p => (p.outcome engine.compare r).segment? with
  | some segment => .matched segment
  | none => .notMatched

/-- A report for each predicate, in order. -/
def reportAll (s : Store) (engine : Engine) (r : Record) : List Report :=
  s.predicates.map fun p => p.report engine.compare engine.traced r

end Store

/-! ## Sharing -/

/-- What a caller holds of a store: the place of its content, and how it evaluates. Handles with one
place share the content. -/
structure Handle where
  place : Nat
  engine : Engine

/-- A further handle on the content. -/
def Handle.clone (h : Handle) : Handle := h

/-- The contents of all stores, each at its place. -/
structure Stores where
  contents : List Store

namespace Stores

/-- What a handle's store holds. -/
def content (w : Stores) (h : Handle) : Store :=
  w.contents.getD h.place .empty

/-- A new store with some content, and the handle on it. -/
def create (w : Stores) (s : Store) (engine : Engine) : Handle × Stores :=
  (⟨w.contents.length, engine⟩, ⟨w.contents ++ [s]⟩)

/-- Carries a call out through a handle. -/
def perform {α : Type} (w : Stores) (h : Handle) (a : Store.Action α) : Except Error α × Stores :=
  let (answer, s) := a.on (w.content h)
  (answer, ⟨w.contents.set h.place s⟩)

end Stores

end Audience
