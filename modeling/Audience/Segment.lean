import Audience.Condition

/-!
# Segments

A segment has a name, conditions, and further fields that are kept as they are. A segment read from
a document remembers it: as long as the segment still equals the one read, `Segment.toJson` gives
back that very document; once it has been changed, a document is written from its fields.
Equality of segments does not look at the remembered document.
-/

namespace Audience

/-- The name, the conditions and the further fields of a segment. -/
structure SegmentFields where
  name : String
  conditions : List Condition
  extra : Fields Json
deriving Repr, Inhabited

namespace SegmentFields

/-- Equality of the fields. -/
def same (a b : SegmentFields) : Bool :=
  a.name == b.name && Condition.sameAll a.conditions b.conditions &&
    Json.sameFields a.extra b.extra

/-- Reads a list of conditions. -/
def conditionsOfJson : Json → Except Json.Mismatch (List Condition)
  | .array items => items.mapM Condition.ofJson
  | j => .error (.invalidType (Json.found j) "a sequence")

/-- What has been read of an object, `none` for a field not met. -/
structure Draft where
  name : Option String
  conditions : Option (List Condition)
  extra : Fields Json

/-- Reads one field of an object. -/
def readMember (d : Draft) (member : String × Json) : Except Json.Mismatch Draft :=
  match member with
  | ("name", j) => do return { d with name := ← Json.Part.string j }
  | ("conditions", j) => do return { d with conditions := ← conditionsOfJson j }
  | (k, j) => .ok { d with extra := d.extra ++ [(k, j)] }

/-- The fields of a segment's document, which must be an object. -/
def ofJson : Json → Except Json.Mismatch SegmentFields
  | .object fields => do
    let d ← fields.foldlM readMember ⟨none, none, []⟩
    match d.name, d.conditions with
    | none, _ => .error (.missingField "name")
    | _, none => .error (.missingField "conditions")
    | some name, some conditions => return ⟨name, conditions, d.extra⟩
  | j => .error (.invalidType (Json.found j) "struct SegmentFields")

/-- The document written from the fields; a further field takes the place of a field of its name. -/
def toJson (s : SegmentFields) : Json :=
  .object (Fields.putAll s.extra
    (Fields.ofList
      [("name", .string s.name), ("conditions", .array (s.conditions.map Condition.toJson))]))

end SegmentFields

/-- A named group of records, by conditions, and the document it was read from, if any. -/
structure Segment extends SegmentFields where
  document : Option Json
deriving Repr, Inhabited

namespace Segment

/-- A segment that was not read from a document. -/
def new (name : String) (conditions : List Condition) : Segment :=
  ⟨⟨name, conditions, []⟩, none⟩

/-- Equality of segments, whatever documents they were read from. -/
def same (a b : Segment) : Bool :=
  a.toSegmentFields.same b.toSegmentFields

/-- The segment that a value describes. -/
def ofJson (j : Json) : Except Json.Mismatch Segment := do
  return ⟨← SegmentFields.ofJson j, some j⟩

/-- The segment that a text describes. What follows the value is looked at last. -/
def ofText (text : String) : Except Json.Error Segment :=
  Json.Reader.run (do
    match ofJson (← Json.Reader.nested 0) with
    | .ok s =>
      Json.Reader.theEnd
      return s
    | .error fault => Json.Reader.mismatch fault) text

/-- The document that the segment was read from, as long as it still describes the segment. -/
def source? (s : Segment) : Option Json := do
  let j ← s.document
  let fields ← (SegmentFields.ofJson j).toOption
  if fields.same s.toSegmentFields then some j else none

/-- The segment's document. -/
def toJson (s : Segment) : Json :=
  s.source?.getD s.toSegmentFields.toJson

end Segment

end Audience
