import Audience.Fields
import Audience.Number.Binary64

/-!
# JSON values

A number is a whole number or a binary64 number, and `1` differs from `1.0`. The fields of an object
stand in key order without repetition (`Json.Sorted`). `Json.same` is equality of values: it tells
all values apart but the two zeros of binary64.
-/

namespace Audience

/-- A number of a JSON value. -/
inductive Number where
  | integer (value : Int)
  | float (value : Binary64)
deriving DecidableEq, Repr, Inhabited

/-- Whether two numbers are equal; a whole number never equals a binary64 number. -/
def Number.same : Number → Number → Bool
  | .integer a, .integer b => a == b
  | .float a, .float b => a.same b
  | _, _ => false

/-- A JSON value. -/
inductive Json where
  | null
  | boolean (value : Bool)
  | number (value : Number)
  | string (value : String)
  | array (items : List Json)
  | object (fields : List (String × Json))
deriving Repr, Inhabited

namespace Json

/-- A whole number as a value. -/
def ofInt (i : Int) : Json :=
  .number (.integer i)

/-- An object with the given fields, of which the last counts where a key is repeated. -/
def ofFields (pairs : List (String × Json)) : Json :=
  .object (Fields.ofList pairs)

/-- The fields of an object. -/
def fields? : Json → Option (Fields Json)
  | .object fields => some fields
  | _ => none

/-- The items of an array. -/
def items? : Json → Option (List Json)
  | .array items => some items
  | _ => none

/-- The text of a string. -/
def string? : Json → Option String
  | .string s => some s
  | _ => none

/-- Whether a value is an object. -/
def isObject : Json → Bool
  | .object _ => true
  | _ => false

/-- The value of a field of an object. -/
def field? (key : String) (j : Json) : Option Json :=
  j.fields?.bind (Fields.get? key)

mutual

/-- Equality of values, the two zeros of binary64 being equal. -/
def same : Json → Json → Bool
  | .null, .null => true
  | .boolean a, .boolean b => a == b
  | .number a, .number b => a.same b
  | .string a, .string b => a == b
  | .array a, .array b => sameItems a b
  | .object a, .object b => sameFields a b
  | _, _ => false

/-- Equality of items, one by one. -/
def sameItems : List Json → List Json → Bool
  | [], [] => true
  | a :: as, b :: bs => same a b && sameItems as bs
  | _, _ => false

/-- Equality of fields, one by one. -/
def sameFields : List (String × Json) → List (String × Json) → Bool
  | [], [] => true
  | (k, a) :: as, (l, b) :: bs => k == l && same a b && sameFields as bs
  | _, _ => false

end

/-- Equality of values that may be absent. -/
def sameOption : Option Json → Option Json → Bool
  | none, none => true
  | some a, some b => same a b
  | _, _ => false

mutual

/-- Every object has its keys in strictly increasing order. -/
def Sorted : Json → Prop
  | .array items => SortedItems items
  | .object fields => fields.Pairwise (fun a b => a.1 < b.1) ∧ SortedFields fields
  | _ => True

/-- Every item is sorted. -/
def SortedItems : List Json → Prop
  | [] => True
  | j :: items => Sorted j ∧ SortedItems items

/-- The value of every field is sorted. -/
def SortedFields : List (String × Json) → Prop
  | [] => True
  | (_, j) :: fields => Sorted j ∧ SortedFields fields

end

end Json

end Audience
