import Audience.Path

/-!
# Records

A record is the value that the variables of a segment are looked up in. `Record.resolve` chooses it:
the state if it is an object, else the input if that is one, else an object without fields.
`Record.get?` looks a variable up, first as a key of the record and then as a path into it.
-/

namespace Audience

/-- The value that variables are looked up in. -/
structure Record where
  data : Json
deriving Repr, Inhabited

namespace Record

/-- The record of an evaluation. -/
def resolve (input : Json) (state : Option Json) : Record :=
  let chosen :=
    match state with
    | some (.object fields) => .object fields
    | _ => input
  ⟨if chosen.isObject then chosen else .object []⟩

/-- The value of the variable with a name. -/
def get? (r : Record) (name : String) : Option Json :=
  match r.data.field? name with
  | some j => some j
  | none => (Path.parse? name).bind fun steps => Path.follow? steps r.data

end Record

end Audience
