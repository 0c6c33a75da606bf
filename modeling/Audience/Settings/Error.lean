import Audience.Settings.Tree
import Audience.Text.Quoted

/-!
# Why settings are refused

A settings file may not be read, as one that is not TOML though its ending says so, or a setting may
not be what it has to be. `Mismatch` tells what was found and expected, the key of the setting, and
its origin if it has one.
-/

namespace Audience.Settings

/-- What a setting was found to be. -/
inductive Found where
  | absent
  | scalar (value : Scalar)
  | list
  | table
deriving DecidableEq, Repr

/-- What a tree was found to be. -/
def Tree.found : Tree → Found
  | absent _ => .absent
  | scalar _ value => .scalar value
  | list _ _ => .list
  | table _ _ => .table

/-- The words for what was found. -/
def Found.text : Found → String
  | absent => "unit value"
  | scalar (.boolean b) => "boolean \x60" ++ (if b then "true" else "false") ++ "\x60"
  | scalar (.integer i) => "integer \x60" ++ toString i ++ "\x60"
  | scalar (.float x) => "floating point \x60" ++ x.text true ++ "\x60"
  | scalar (.text s) => "string " ++ Text.quoted s
  | list => "sequence"
  | table => "map"

/-- A setting that is not what it has to be. -/
structure Mismatch where
  found : Found
  expected : String
  key : List KeyStep
  origin : Option String
deriving DecidableEq, Repr

namespace Mismatch

/-- The text of the steps of a key. -/
def keyText : List KeyStep → String
  | [] => ""
  | [.name name] => name
  | .name name :: .place i :: steps => name ++ keyText (.place i :: steps)
  | .name name :: steps => name ++ "." ++ keyText steps
  | [.place i] => "[" ++ toString i ++ "]"
  | .place i :: .place j :: steps => "[" ++ toString i ++ "]" ++ keyText (.place j :: steps)
  | .place i :: steps => "[" ++ toString i ++ "]." ++ keyText steps

/-- The words for a mismatch. -/
def message (m : Mismatch) : String :=
  "invalid type: " ++ m.found.text ++ ", expected " ++ m.expected ++
    (if m.key.isEmpty then "" else " for key \x60" ++ keyText m.key ++ "\x60") ++
    (match m.origin with | some origin => " in " ++ origin | none => "")

/-- A mismatch in a part, told of the whole. -/
def within (m : Mismatch) (step : KeyStep) : Mismatch :=
  { m with key := step :: m.key }

end Mismatch

/-- Why settings are refused. -/
inductive Error where
  | notToml (file : String)
  | mismatch (fault : Mismatch)
deriving DecidableEq, Repr

/-- The words for an error. -/
def Error.message : Error → String
  | notToml file => "not a document of the form that its ending tells: " ++ file
  | mismatch fault => fault.message

end Audience.Settings
