import Audience.Error
import Audience.Json.Source

/-!
# Failures

An error met while a record is judged is handed out as a `Failure`: its message and, if a test
failed, the detail. `Failure.read` reads one from a list or an object, where the detail may be
missing.
-/

namespace Audience

/-- A failed evaluation in words. -/
structure Failure where
  message : String
  detail : String
deriving DecidableEq, Repr

namespace Failure

/-- The failure that an error is handed out as. -/
def ofError (e : Error) : Failure :=
  match e with
  | .operatorFailure _ detail => ⟨e.message, detail⟩
  | _ => ⟨e.message, ""⟩

/-- What has been read of a failure. -/
structure Draft where
  message : Option String
  detail : Option String

section Reading

variable {m : Type → Type} [Monad m] (src : Json.Source m)

/-- Reads the message. -/
def readMessage (d : Draft) : m Draft := do
  return { d with message := some (← src.string) }

/-- Reads the detail. -/
def readDetail (d : Draft) : m Draft := do
  return { d with detail := some (← src.string) }

/-- Reads the item at a place of a list. -/
def readItem (i : Nat) (d : Draft) : m Draft :=
  if i = 0 then readMessage src d else readDetail src d

/-- Reads the value of a key; a known key may not be repeated. -/
def readMember (k : String) (d : Draft) : Except Json.Mismatch (m Draft) :=
  if k = "message" then
    if d.message.isSome then .error (.duplicateField k) else .ok (readMessage src d)
  else if k = "error" then
    if d.detail.isSome then .error (.duplicateField k) else .ok (readDetail src d)
  else .ok (do src.ignore; return d)

/-- What a failure is called in messages. -/
def title : String := "struct EvaluationFailure"

/-- The failure of a list. -/
def ofItems : m Failure := do
  let (d, count) ← src.items 2 (readItem src) ⟨none, none⟩
  match d.message with
  | none => src.refuse (.invalidLength count (title ++ " with 2 elements"))
  | some message => return ⟨message, d.detail.getD ""⟩

/-- The failure of an object. -/
def ofMembers : m Failure := do
  let d ← src.fields (readMember src) ⟨none, none⟩
  match d.message with
  | none => src.refuse (.missingField "message")
  | some message => return ⟨message, d.detail.getD ""⟩

/-- Reads a failure. -/
def read : m Failure :=
  src.record title 2 (ofItems src) (ofMembers src)

end Reading

/-- The failure that a value describes. -/
def ofJson (j : Json) : Except Json.Mismatch Failure :=
  read .ofValue j

/-- The failure that a text describes. -/
def ofText (text : String) : Except Json.Error Failure :=
  Json.readText read text

/-- A failure's document. -/
def toJson (f : Failure) : Json :=
  .ofFields [("message", .string f.message), ("error", .string f.detail)]

end Failure

end Audience
