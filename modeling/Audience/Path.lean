import Audience.Json.Basic
import Audience.Number.Decimal
import Audience.Text.Blank

/-!
# Paths

A path names a place inside a value by the steps that lead there. A step is written plainly, as a
run of characters without `.` and `[`, or in brackets: between quotes of either kind as it stands,
or without quotes, white space around it being dropped. Dots divide runs and are otherwise ignored.

`Path.parse?` gives the steps, at least one, and `Path.follow?` takes them: a step names a field of
an object or the place of an item of an array.
-/

namespace Audience

/-- A step of a path. -/
inductive Step where
  | key (name : String)
  | index (name : String)
deriving DecidableEq, Repr

namespace Step

/-- The text of a step, whichever way it is written. -/
def name : Step → String
  | key name => name
  | index name => name

/-- The number that names an item: digits after an optional plus sign, at most 64 bits. -/
def index? (name : String) : Option Nat :=
  let ds :=
    match name.toList with
    | '+' :: ds => ds
    | ds => ds
  if ds.isEmpty || !ds.all isDigit then none
  else
    let n := natOfDigits ds
    if n < Nat.pow 2 64 then some n else none

/-- Takes a step from a value. -/
def follow? (step : Step) : Json → Option Json
  | .object fields => Fields.get? step.name fields
  | .array items => (index? step.name).bind fun i => items[i]?
  | _ => none

end Step

namespace Path

/-- A character of a run. -/
def isPlain (c : Char) : Bool :=
  c != '.' && c != '['

/-- The characters up to the first `c` and those after it. -/
def upTo? (c : Char) : List Char → Option (List Char × List Char)
  | [] => none
  | d :: cs => if d = c then some ([], cs) else (upTo? c cs).map fun p => (d :: p.1, p.2)

theorem upTo?_length {c : Char} {cs inner rest : List Char} (h : upTo? c cs = some (inner, rest)) :
    rest.length < cs.length := by
  induction cs generalizing inner with
  | nil => simp [upTo?] at h
  | cons d ds ih =>
    by_cases hd : d = c
    · simp only [upTo?, hd, if_true, Option.some.injEq, Prod.mk.injEq] at h
      simp [h.2]
    · simp only [upTo?, hd, if_false, Option.map_eq_some_iff, Prod.mk.injEq] at h
      obtain ⟨p, hp, -, rfl⟩ := h
      exact Nat.lt_succ_of_lt (ih hp)

/-- A step in brackets, the opening one being taken, and the characters after it. -/
def bracket? (cs : List Char) : Option (Step × List Char) :=
  match cs with
  | '\'' :: more => quoted '\'' more
  | '"' :: more => quoted '"' more
  | _ => (upTo? ']' cs).map fun p => (.index (String.ofList (Text.trimChars p.1)), p.2)
where
  /-- A step between quotes, whose closing bracket must follow at once. -/
  quoted (quote : Char) (cs : List Char) : Option (Step × List Char) :=
    match upTo? quote cs with
    | some (inner, ']' :: rest) => some (.key (String.ofList inner), rest)
    | _ => none

theorem bracket?_length {cs rest : List Char} {step : Step} (h : bracket? cs = some (step, rest)) :
    rest.length < cs.length := by
  have quoted {q : Char} {more : List Char} (h : bracket?.quoted q more = some (step, rest)) :
      rest.length < more.length := by
    unfold bracket?.quoted at h
    split at h
    · rename_i inner after heq
      simp only [Option.some.injEq, Prod.mk.injEq] at h
      have := upTo?_length heq
      simp only [List.length_cons, h.2] at this
      omega
    · simp at h
  unfold bracket? at h
  split at h
  · exact Nat.lt_succ_of_lt (quoted h)
  · exact Nat.lt_succ_of_lt (quoted h)
  · simp only [Option.map_eq_some_iff, Prod.mk.injEq] at h
    obtain ⟨p, hp, -, rfl⟩ := h
    exact upTo?_length hp

theorem dropWhile_length_le (p : Char → Bool) (cs : List Char) :
    (cs.dropWhile p).length ≤ cs.length := by
  induction cs with
  | nil => simp
  | cons c cs ih =>
    rw [List.dropWhile_cons]
    split
    · exact Nat.le_succ_of_le ih
    · exact Nat.le_refl _

/-- The steps that characters spell. -/
def steps? (cs : List Char) : Option (List Step) :=
  match cs with
  | [] => some []
  | '.' :: cs => steps? cs
  | '[' :: cs =>
    match _h : bracket? cs with
    | some (step, rest) => (steps? rest).map (step :: ·)
    | none => none
  | c :: cs =>
    (steps? (cs.dropWhile isPlain)).map
      (.key (String.ofList (c :: cs.takeWhile isPlain)) :: ·)
termination_by cs.length
decreasing_by
  · simp
  · have := bracket?_length _h
    simp only [List.length_cons]
    omega
  · have := dropWhile_length_le isPlain cs
    simp only [List.length_cons]
    omega

/-- The steps of a path, if it is well formed and has any. -/
def parse? (path : String) : Option (List Step) :=
  match steps? path.toList with
  | some [] => none
  | steps => steps

/-- Takes steps from a value. -/
def follow? (steps : List Step) (j : Json) : Option Json :=
  steps.foldlM (fun j step => step.follow? j) j

end Path

end Audience
