import Audience.Toml.Basic

/-!
# Tables under construction

A document builds its tables piece by piece. A table may be implied by a longer path, defined by a
header of its own, or made by a key with dots; it may be defined once, and once it is, keys with
dots no longer reach into it. A header in double brackets begins a further table of a list. What is
written as a value, be it a list or a table, is closed.
-/

namespace Audience.Toml

/-- How a table came to be. -/
inductive Making where
  | implied
  | defined
  | dotted
deriving DecidableEq, Repr

/-- What a key of a table under construction has. -/
inductive Node where
  | value (v : Toml)
  | table (making : Making) (fields : List (String × Node))
  /-- The tables of a list, the last one first. -/
  | tables (items : List (List (String × Node)))
deriving Repr

/-- A table under construction. -/
abbrev Tree := Fields Node

namespace Tree

/-- Changes the table that a header's path leads to; tables on the way are implied, and of a list
the last table is meant. -/
def inside (change : Tree → Option Tree) : List String → Tree → Option Tree
  | [], tree => change tree
  | key :: path, tree => do
    match Fields.get? key tree with
    | none => return Fields.put key (.table .implied (← inside change path [])) tree
    | some (.table making inner) =>
      return Fields.put key (.table making (← inside change path inner)) tree
    | some (.tables (item :: items)) =>
      return Fields.put key (.tables ((← inside change path item) :: items)) tree
    | _ => none

/-- Defines a table, which may have been implied before. -/
def define (key : String) (tree : Tree) : Option Tree :=
  match Fields.get? key tree with
  | none => some (Fields.put key (.table .defined []) tree)
  | some (.table .implied inner) => some (Fields.put key (.table .defined inner) tree)
  | _ => none

/-- Begins a further table of a list. -/
def extend (key : String) (tree : Tree) : Option Tree :=
  match Fields.get? key tree with
  | none => some (Fields.put key (.tables [[]]) tree)
  | some (.tables items) => some (Fields.put key (.tables ([] :: items)) tree)
  | _ => none

/-- Gives a key a value, at the end of a path of dotted keys. -/
def assign (v : Toml) (last : String) : List String → Tree → Option Tree
  | [], tree => if Fields.has last tree then none else some (Fields.put last (.value v) tree)
  | key :: path, tree => do
    match Fields.get? key tree with
    | none => return Fields.put key (.table .dotted (← assign v last path [])) tree
    | some (.table making inner) =>
      if making = .defined then none
      else return Fields.put key (.table making (← assign v last path inner)) tree
    | _ => none

mutual

/-- What was built at a key. -/
def nodeValue : Node → Toml
  | .value v => v
  | .table _ fields => .table (fieldValues fields)
  | .tables items => .array (itemValues items).reverse

/-- What was built, key by key. -/
def fieldValues : List (String × Node) → List (String × Toml)
  | [] => []
  | (key, node) :: fields => (key, nodeValue node) :: fieldValues fields

/-- What was built, table by table. -/
def itemValues : List (List (String × Node)) → List Toml
  | [] => []
  | fields :: items => .table (fieldValues fields) :: itemValues items

end

end Tree

end Audience.Toml
