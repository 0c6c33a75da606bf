import Audience.Settings.Key
import Audience.Toml.Basic

/-!
# Trees of settings

Settings are collected in a tree. Each node remembers the origin of its value, the file or place it
was given in; a table that was put together from several origins has none.

`Tree.set` puts a value at a key. A table is merged into what is there, key by key, and any other
value replaces it. What stands in the way of a key gives way to a table or a list.
-/

namespace Audience.Settings

/-- A single value. -/
inductive Scalar where
  | boolean (value : Bool)
  | integer (value : Int)
  | float (value : Extended)
  | text (value : String)
deriving DecidableEq, Repr, Inhabited

/-- A tree of settings. -/
inductive Tree where
  | absent (origin : Option String)
  | scalar (origin : Option String) (value : Scalar)
  | list (origin : Option String) (items : List Tree)
  | table (origin : Option String) (fields : List (String × Tree))
deriving Repr, Inhabited

namespace Tree

/-- Where a value was given. -/
def origin? : Tree → Option String
  | absent origin => origin
  | scalar origin _ => origin
  | list origin _ => origin
  | table origin _ => origin

/-- The fields of a table; what is not a table gives way to one. -/
def fields : Tree → Fields Tree
  | table _ fields => fields
  | _ => []

/-- The items of a list; what is not a list gives way to one. -/
def items : Tree → List Tree
  | list _ items => items
  | _ => []

/-- Changes the value of a name in a table. -/
def atName (name : String) (change : Tree → Tree) (t : Tree) : Tree :=
  let origin := match t with | table origin _ => origin | _ => none
  table origin (Fields.put name (change ((Fields.get? name t.fields).getD (absent none))) t.fields)

/-- A list that has a place, and the place in it: the list is lengthened at its end, or at its start
for a place before it. -/
def withPlace (index : Int) (items : List Tree) : List Tree × Nat :=
  let place := if index < 0 then items.length + index else index
  if place < 0 then (List.replicate (-place).toNat (absent none) ++ items, 0)
  else (items ++ List.replicate (place.toNat + 1 - items.length) (absent none), place.toNat)

/-- Changes the value at a place of a list. -/
def atPlace (index : Int) (change : Tree → Tree) (t : Tree) : Tree :=
  let origin := match t with | list origin _ => origin | _ => none
  let (items, place) := withPlace index t.items
  list origin (items.modify place change)

/-- Changes the value that steps lead to. -/
def atSteps (change : Tree → Tree) : List KeyStep → Tree → Tree
  | [], t => change t
  | .name name :: steps, t => atName name (atSteps change steps) t
  | .place index :: steps, t => atPlace index (atSteps change steps) t

mutual

/-- Puts a value over another. -/
def merge : Tree → Tree → Tree
  | table _ fields, lower =>
    let lower := match lower with | absent _ => table none [] | t => t
    mergeFields fields lower
  | upper, _ => upper

/-- Puts fields over a value, one after the other. -/
def mergeFields : List (String × Tree) → Tree → Tree
  | [], lower => lower
  | (name, upper) :: fields, lower => mergeFields fields (atName name (merge upper) lower)

end

/-- Puts a value at a key. -/
def set (key : Key) (value : Tree) (t : Tree) : Tree :=
  atSteps (merge value) (.name key.top :: key.steps) t

/-- A layer of settings: values and their keys. -/
abbrev Layer := List (Key × Tree)

/-- Puts a layer over a tree. -/
def addLayer (t : Tree) (layer : Layer) : Tree :=
  layer.foldl (fun t (key, value) => set key value t) t

/-- The tree of layers, of which later ones count more. -/
def ofLayers (layers : List Layer) : Tree :=
  layers.foldl addLayer (table none [])

end Tree

end Audience.Settings
