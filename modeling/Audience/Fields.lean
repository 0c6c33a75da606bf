/-!
# Fields in key order

The fields of an object are a list of keys with values, in increasing order of the keys' code
points and without repetition. `put` keeps that order and replaces the value of a key that is
there; `get?` and `erase` look a key up and take it out.
-/

namespace Audience

/-- Keys with values. -/
abbrev Fields (α : Type) := List (String × α)

namespace Fields

variable {α : Type}

/-- The value of a key. -/
def get? (key : String) : Fields α → Option α
  | [] => none
  | (k, v) :: fields => if k = key then some v else get? key fields

/-- Whether a key is there. -/
def has (key : String) (fields : Fields α) : Bool :=
  (get? key fields).isSome

/-- Gives a key its value, at the key's place in the order. -/
def put (key : String) (value : α) : Fields α → Fields α
  | [] => [(key, value)]
  | (k, v) :: fields =>
    if k = key then (key, value) :: fields
    else if key < k then (key, value) :: (k, v) :: fields
    else (k, v) :: put key value fields

/-- Takes a key out. -/
def erase (key : String) : Fields α → Fields α
  | [] => []
  | (k, v) :: fields => if k = key then fields else (k, v) :: erase key fields

/-- The fields that remain when every pair is put in turn, so that the last value of a key counts. -/
def ofList (pairs : List (String × α)) : Fields α :=
  pairs.foldl (fun fields p => put p.1 p.2 fields) []

/-- Puts all of `upper` over `lower`. -/
def putAll (upper lower : Fields α) : Fields α :=
  upper.foldl (fun fields p => put p.1 p.2 fields) lower

/-- The keys. -/
def keys (fields : Fields α) : List String :=
  fields.map (·.1)

end Fields

end Audience
