/-!
# Tables over code points

Most properties of characters are constant over long stretches of code points, so a `Table` lists
the code points at which its value changes. `value?` finds the last step at or before a code point
by halving. `ofText` reads the written form: words `41:Lu`, in increasing order, each a code point
in hexadecimal and the label of the value from there on. A property that holds or does not is
written as its steps alone (`ofSteps`), the first of which begins a stretch where it holds. The other
way round, `stretches` lists where a table has values of a kind.
-/

namespace Audience.Text

/-- A function on code points, by the steps at which its value changes. -/
structure Table (α : Type) where
  steps : Array (Nat × α)

namespace Table

variable {α : Type}

/-- The value of the last step at or before `n` among the steps `lo, …, hi - 1`, where every step
before `lo` is at or before `n` and every step from `hi` on is after it. -/
def search (t : Table α) (n lo hi : Nat) : Option α :=
  if lo < hi then
    let mid := (lo + hi) / 2
    match t.steps[mid]? with
    | none => none
    | some (start, _) => if start ≤ n then t.search n (mid + 1) hi else t.search n lo mid
  else if lo = 0 then none
  else t.steps[lo - 1]?.map (·.2)
termination_by hi - lo

/-- The value at a code point. -/
def value? (t : Table α) (n : Nat) : Option α :=
  t.search n 0 t.steps.size

/-- The value of a hexadecimal digit. -/
def hexDigit? (c : Char) : Option Nat :=
  if '0' ≤ c ∧ c ≤ '9' then some (c.toNat - '0'.toNat)
  else if 'a' ≤ c ∧ c ≤ 'f' then some (c.toNat - 'a'.toNat + 10)
  else if 'A' ≤ c ∧ c ≤ 'F' then some (c.toNat - 'A'.toNat + 10)
  else none

/-- The number written in hexadecimal, other characters skipped. -/
def hexValue (cs : List Char) : Nat :=
  cs.foldl (fun n c => match hexDigit? c with | some d => 16 * n + d | none => n) 0

/-- The words of a text, which blanks and line ends divide. -/
def words (s : String) : List String :=
  (s.split fun c => c = ' ' || c = '\n').toStringList.filter fun w => !w.isEmpty

/-- One word of a written table: the code point and the label. -/
def step (w : String) : Nat × String :=
  let cs := w.toList
  (hexValue (cs.takeWhile (· ≠ ':')), String.ofList ((cs.dropWhile (· ≠ ':')).drop 1))

/-- Reads a table with labelled steps. -/
def ofText (s : String) : Table String :=
  ⟨((words s).map step).toArray⟩

/-- Reads the steps of a property, which holds from the first on. -/
def ofSteps (s : String) : Table Bool :=
  ⟨((words s).zipIdx.map fun w => (hexValue w.1.toList, w.2 % 2 == 0)).toArray⟩

/-- The stretches of code points at which the value is of a kind, each by its ends. -/
def stretches (t : Table α) (p : α → Bool) : List (Nat × Nat) :=
  let steps := t.steps.toList
  let lasts := (steps.drop 1).map (·.1 - 1) ++ [0x10FFFF]
  ((steps.zip lasts).filter fun s => p s.1.2).map fun s => (s.1.1, s.2)

/-- Whether a property holds of a code point. -/
def holds (t : Table Bool) (n : Nat) : Bool :=
  (t.value? n).getD false

end Table

end Audience.Text
