import Audience.Settings.Basic
import Audience.Settings.FileForm

/-!
# Layers of settings

Settings come in layers, each over the ones before it: the names of the service and its environment,
the files `default.toml`, the file of the environment and that of the service as far as they are
there, and the variables that begin with `SEGMENT_`. `Settings.load` reads them all. In which order
the entries of one layer are taken is left to the `Manner` of loading.

The name of a variable is taken in lower case without that beginning, and two underscores in it
divide sections. Its value is a truth value, a whole number of 64 bits or a decimal number if it
reads like one, and else a text.
-/

namespace Audience.Settings

/-- How variables for settings begin, in lower case. -/
def variableStart : String := "segment_"

/-- Characters with a dot for two underscores. -/
def dotted : List Char → List Char
  | '_' :: '_' :: cs => '.' :: dotted cs
  | c :: cs => c :: dotted cs
  | [] => []

/-- The key that a variable sets. -/
def variableKey? (name : String) : Option Key :=
  let name := (Text.lower name).toList
  if variableStart.toList.isPrefixOf name then
    some (Key.ofText (String.ofList (dotted (name.drop variableStart.length))))
  else none

/-- The value of a variable. -/
def variableValue (s : String) : Scalar :=
  let word := Text.lower s
  if word = "true" then .boolean true
  else if word = "false" then .boolean false
  else
    match (intOfChars? s.toList).filter (fitsSigned 64) with
    | some i => .integer i
    | none =>
      match Extended.ofChars? s.toList with
      | some x => .float x
      | none => .text s

/-- The layer of variables, given by name and value. -/
def Layer.ofVariables (vars : List (String × String)) : Tree.Layer :=
  vars.filterMap fun (name, value) =>
    (variableKey? name).map (·, .scalar (some "the environment") (variableValue value))

/-- The layer of the names that settings are loaded for. -/
def Layer.ofNames (service environment : String) : Tree.Layer :=
  [(⟨"service_name", []⟩, .scalar none (.text service)),
    (⟨"environment", []⟩, .scalar none (.text environment))]

/-- How the names of settings files end. -/
def fileEnding : String := ".toml"

/-- The names, without their ending, of the files that settings are read from. -/
def fileNames (service environment : String) : List String :=
  ["default", environment, service]

/-- What is left open about how settings are loaded: the forms of files, in the order in which they
are looked for, and for each layer, told by its place, the order in which its entries are put over
the layers below. -/
structure Manner where
  forms : List FileForm
  order (place : Nat) (layer : Tree.Layer) : Tree.Layer
  toml_mem : FileForm.toml ∈ forms
  distinct : (forms.map FileForm.ending).Nodup
  perm (place : Nat) (layer : Tree.Layer) : (order place layer).Perm layer

/-- The known forms, and the entries as they stand. -/
def Manner.plain : Manner where
  forms := FileForm.known
  order _ layer := layer
  toml_mem := List.mem_cons_self
  distinct := by decide
  perm _ _ := .refl _

/-- The settings of a service, of which the layers of its files are given. -/
def load (manner : Manner) (service environment : String) (files : List Tree.Layer)
    (vars : List (String × String)) : Except Error Settings :=
  let layers := Layer.ofNames service environment :: files ++ [Layer.ofVariables vars]
  (ofTree (.ofLayers (layers.mapIdx manner.order))).mapError .mismatch

end Audience.Settings
