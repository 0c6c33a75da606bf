import Audience.Settings.Error
import Audience.Text.Lower

/-!
# Settings

`Settings` holds what may be set: the names of the service and its environment, the level and form
of the log, and whether evaluations are traced. `Settings.ofTree` reads them from a tree. Numbers
and truth values serve as texts; numbers and a few words serve as truth values. A section is a table
or a list of its settings in order; what is not there keeps its default, and what is not known is
passed over.
-/

namespace Audience

/-- What may be set about the log. -/
structure Observability where
  logLevel : String
  logFormat : String
deriving DecidableEq, Repr

/-- What may be set. -/
structure Settings where
  serviceName : String
  environment : String
  observability : Observability
  traced : Bool
deriving DecidableEq, Repr

/-- The log tells what is informative and above, in lines to be read. -/
def Observability.default : Observability := ⟨"info", "pretty"⟩

/-- Whether the log is written as JSON. -/
def Observability.asJson (o : Observability) : Bool :=
  Text.equalIgnoringAsciiCase o.logFormat "json"

namespace Settings

/-- The settings when nothing is set. -/
def default : Settings := ⟨"segment-engine", "development", .default, false⟩

/-- Whether this is the environment for real use. -/
def isProduction (s : Settings) : Bool :=
  s.environment == "production"

variable {α : Type}

/-- Refuses a setting, with its origin. -/
def refuse (expected : String) (t : Tree) : Except Mismatch α :=
  .error ⟨t.found, expected, [], t.origin?⟩

/-- The text of a single value. -/
def Scalar.toText : Scalar → String
  | boolean b => if b then "true" else "false"
  | integer i => toString i
  | float x => x.text false
  | text s => s

/-- A setting that is a text. -/
def text : Tree → Except Mismatch String
  | .scalar _ v => .ok v.toText
  | t => refuse "a string" t

/-- A setting that is a truth value. -/
def truth : Tree → Except Mismatch Bool
  | .scalar _ (.boolean b) => .ok b
  | .scalar _ (.integer i) => .ok (i != 0)
  | .scalar _ (.float x) => .ok !x.isZero
  | .scalar origin (.text s) =>
    let word := Text.lower s
    if ["1", "true", "on", "yes"].contains word then .ok true
    else if ["0", "false", "off", "no"].contains word then .ok false
    else .error ⟨.scalar (.text word), "a boolean", [], origin⟩
  | t => refuse "a boolean" t

/-- The part of a section that has a name and, in a list, a place. -/
def part? (name : String) (place : Nat) : Tree → Option (KeyStep × Tree)
  | .table _ fields => (Fields.get? name fields).map (.name name, ·)
  | .list _ items => items[place]?.map (.place place, ·)
  | _ => none

/-- Reads a part of a section, if it is there. -/
def partOr (default : α) (read : Tree → Except Mismatch α) (name : String) (place : Nat)
    (t : Tree) : Except Mismatch α :=
  match part? name place t with
  | some (step, t) => (read t).mapError (·.within step)
  | none => .ok default

/-- A section: a table or a list. Of anything else the origin is not told. -/
def sectionOf (title : String) (read : Tree → Except Mismatch α) (t : Tree) : Except Mismatch α :=
  match t with
  | .table _ _ | .list _ _ => read t
  | _ => .error ⟨t.found, title, [], none⟩

/-- The settings of the log. -/
def observabilityOf : Tree → Except Mismatch Observability :=
  sectionOf "struct ObservabilityConfig" fun t => do
    let level ← partOr Observability.default.logLevel text "log_level" 0 t
    let format ← partOr Observability.default.logFormat text "log_format" 1 t
    return ⟨level, format⟩

/-- Whether evaluations are traced. -/
def tracedOf : Tree → Except Mismatch Bool :=
  sectionOf "struct EngineConfig" (partOr false truth "trace_enabled" 0)

/-- The settings of a tree. -/
def ofTree : Tree → Except Mismatch Settings :=
  sectionOf "struct AppConfig" fun t => do
    let service ← partOr default.serviceName text "service_name" 0 t
    let environment ← partOr default.environment text "environment" 1 t
    let observability ← partOr Observability.default observabilityOf "observability" 2 t
    let traced ← partOr false tracedOf "engine" 3 t
    return ⟨service, environment, observability, traced⟩

end Settings

end Audience
