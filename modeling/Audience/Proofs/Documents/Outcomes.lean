import Audience.Proofs.Documents.Matches

/-!
# Documents of outcomes

An outcome is written without a mark of its kind, and yet what is written tells the three kinds
apart: `false`, an object with a name and conditions, or an object of a message and an error. For
the document of a segment always has both a name and conditions (`Segment.looksLikeSegment_toJson`),
whichever way the segment was made: a document that was read would not have been read without them,
and one that is written has them, whatever further fields take their places.
-/

namespace Audience

namespace Json

/-- Whether a value is an object with a key. -/
def has (key : String) (j : Json) : Bool :=
  (j.field? key).isSome

/-- A value is an object that has a name and conditions. -/
def LooksLikeSegment (j : Json) : Prop :=
  j.has "name" = true ∧ j.has "conditions" = true

/-- A value is an object that has a message and an error, and no other key. -/
def LooksLikeFailure (j : Json) : Prop :=
  ∀ key, j.has key = true ↔ key = "message" ∨ key = "error"

theorem has_object_iff {key : String} {fields : Fields Json} :
    (object fields).has key = true ↔ key ∈ fields.keys :=
  Fields.isSome_get?_iff

theorem LooksLikeSegment.not_looksLikeFailure {j : Json} (h : j.LooksLikeSegment) :
    ¬ j.LooksLikeFailure := by
  intro hfailure
  have hname := (hfailure "name").1 h.1
  revert hname
  decide

end Json

/-! ## Segments -/

namespace SegmentFields

variable {s : SegmentFields} {d d' : Draft} {fields : List (String × Json)}

/-- A name, or conditions, that a member adds stand under their own key. -/
theorem key_of_readMember {member : String × Json} (h : readMember d member = .ok d') :
    (d'.name.isSome → d.name.isSome ∨ member.1 = "name") ∧
      (d'.conditions.isSome → d.conditions.isSome ∨ member.1 = "conditions") := by
  unfold readMember at h
  split at h
  · obtain ⟨name, -, h⟩ := bind_eq_ok_iff.1 h
    obtain rfl := Except.ok.inj h
    exact ⟨fun _ => .inr rfl, .inl⟩
  · obtain ⟨cs, -, h⟩ := bind_eq_ok_iff.1 h
    obtain rfl := Except.ok.inj h
    exact ⟨.inl, fun _ => .inr rfl⟩
  · obtain rfl := Except.ok.inj h
    exact ⟨.inl, .inl⟩

theorem key_of_foldlM_readMember (h : fields.foldlM readMember d = .ok d') :
    (d'.name.isSome → d.name.isSome ∨ "name" ∈ Fields.keys fields) ∧
      (d'.conditions.isSome → d.conditions.isSome ∨ "conditions" ∈ Fields.keys fields) := by
  induction fields generalizing d with
  | nil =>
    obtain rfl := Except.ok.inj h
    exact ⟨.inl, .inl⟩
  | cons member fields ih =>
    rw [List.foldlM_cons] at h
    obtain ⟨d₁, hd₁, h⟩ := bind_eq_ok_iff.1 h
    obtain ⟨hname, hconditions⟩ := key_of_readMember hd₁
    obtain ⟨hname', hconditions'⟩ := ih h
    simp only [Fields.keys_cons, List.mem_cons]
    constructor
    · intro hd'
      rcases hname' hd' with hd | hrest
      · exact (hname hd).imp_right fun heq => .inl heq.symm
      · exact .inr (.inr hrest)
    · intro hd'
      rcases hconditions' hd' with hd | hrest
      · exact (hconditions hd).imp_right fun heq => .inl heq.symm
      · exact .inr (.inr hrest)

/-- A document that was read as a segment has a name and conditions. -/
theorem looksLikeSegment_of_ofJson {j : Json} (h : ofJson j = .ok s) : j.LooksLikeSegment := by
  obtain ⟨fields, rfl, -⟩ := extra_of_ofJson h
  obtain ⟨hname, hconditions⟩ := key_of_foldlM_readMember (ofJson_eq_ok_iff.1 h)
  constructor
  · exact Json.has_object_iff.2 ((hname rfl).resolve_left Bool.false_ne_true)
  · exact Json.has_object_iff.2 ((hconditions rfl).resolve_left Bool.false_ne_true)

/-- A document that is written from the fields has a name and conditions, for a further field that
takes the place of one of them has its key. -/
theorem looksLikeSegment_toJson (s : SegmentFields) : s.toJson.LooksLikeSegment := by
  have hown (key : String) (hkey : key = "name" ∨ key = "conditions") : key ∈ s.written.keys := by
    refine Fields.mem_keys_foldl_put.2 (.inl (Fields.mem_keys_ofList.2 ?_))
    rcases hkey with rfl | rfl <;> simp
  exact ⟨Json.has_object_iff.2 (hown _ (.inl rfl)), Json.has_object_iff.2 (hown _ (.inr rfl))⟩

end SegmentFields

namespace Segment

/-- The document of a segment has a name and conditions, whether the segment was read or built, and
whether it was changed or not. -/
theorem looksLikeSegment_toJson (s : Segment) : s.toJson.LooksLikeSegment := by
  unfold toJson
  rcases hsource : s.source? with _ | v
  · exact s.toSegmentFields.looksLikeSegment_toJson
  · obtain ⟨j, -, hj⟩ := Option.bind_eq_some_iff.1 hsource
    obtain ⟨fields, hfields, hj⟩ := Option.bind_eq_some_iff.1 hj
    split at hj
    · obtain rfl := Option.some.inj hj
      exact SegmentFields.looksLikeSegment_of_ofJson (toOption_eq_some_iff.1 hfields)
    · cases hj

/-- Segments that were read are told apart by their documents. -/
theorem ReadFrom.eq_of_toJson_eq {v v' : Json} {s s' : Segment} (h : s.ReadFrom v)
    (h' : s'.ReadFrom v') (heq : s.toJson = s'.toJson) : s = s' := by
  rw [h.toJson, h'.toJson] at heq
  subst heq
  exact Except.ok.inj (h.ofJson.symm.trans h'.ofJson)

end Segment

/-! ## Failures -/

namespace Failure

theorem toJson_eq_object (f : Failure) :
    f.toJson = .object [("error", .string f.detail), ("message", .string f.message)] := by
  have hlt : "error" < "message" := by decide
  simp [toJson, Json.ofFields, Fields.ofList, Fields.put, hlt]

theorem looksLikeFailure_toJson (f : Failure) : f.toJson.LooksLikeFailure := by
  intro key
  rw [toJson_eq_object, Json.has_object_iff, or_comm]
  simp [Fields.keys]

/-- Reading the document of a failure gives the failure. -/
theorem ofJson_toJson (f : Failure) : ofJson f.toJson = .ok f := by
  rw [toJson_eq_object]
  rfl

end Failure

/-! ## Outcomes -/

namespace Outcome

variable {o o' : Outcome}

theorem toJson_eq_false_iff : o.toJson = .boolean false ↔ o = .notMatched := by
  cases o with
  | matched s =>
    refine iff_of_false (fun h => ?_) (fun h => by cases h)
    have hname := s.looksLikeSegment_toJson.1
    rw [show s.toJson = .boolean false from h] at hname
    cases hname
  | notMatched => exact iff_of_true rfl rfl
  | failed f =>
    refine iff_of_false (fun h => ?_) (fun h => by cases h)
    cases f.toJson_eq_object.symm.trans h

theorem looksLikeSegment_iff : o.toJson.LooksLikeSegment ↔ ∃ s, o = .matched s := by
  cases o with
  | matched s => exact iff_of_true s.looksLikeSegment_toJson ⟨s, rfl⟩
  | notMatched =>
    refine iff_of_false (fun h => ?_) (fun ⟨s, h⟩ => by cases h)
    cases h.1
  | failed f =>
    refine iff_of_false (fun h => ?_) (fun ⟨s, h⟩ => by cases h)
    exact h.not_looksLikeFailure f.looksLikeFailure_toJson

theorem looksLikeFailure_iff : o.toJson.LooksLikeFailure ↔ ∃ f, o = .failed f := by
  cases o with
  | matched s =>
    refine iff_of_false (fun h => ?_) (fun ⟨f, h⟩ => by cases h)
    exact s.looksLikeSegment_toJson.not_looksLikeFailure h
  | notMatched =>
    refine iff_of_false (fun h => ?_) (fun ⟨f, h⟩ => by cases h)
    cases (h "error").2 (.inr rfl)
  | failed f => exact iff_of_true f.looksLikeFailure_toJson ⟨f, rfl⟩

/-- Outcomes of one document are one outcome, or matches. -/
theorem eq_or_matched_of_toJson_eq (h : o.toJson = o'.toJson) :
    o = o' ∨ ∃ s s', o = .matched s ∧ o' = .matched s' := by
  cases o with
  | matched s =>
    have hlooks : o'.toJson.LooksLikeSegment := h ▸ looksLikeSegment_iff.2 ⟨s, rfl⟩
    obtain ⟨s', hs'⟩ := looksLikeSegment_iff.1 hlooks
    exact .inr ⟨s, s', rfl, hs'⟩
  | notMatched => exact .inl (toJson_eq_false_iff.1 h.symm).symm
  | failed f =>
    have hlooks : o'.toJson.LooksLikeFailure := h ▸ looksLikeFailure_iff.2 ⟨f, rfl⟩
    obtain ⟨f', rfl⟩ := looksLikeFailure_iff.1 hlooks
    have hsame : Failure.ofJson f.toJson = Failure.ofJson f'.toJson := congrArg _ h
    rw [f.ofJson_toJson, f'.ofJson_toJson] at hsame
    exact .inl (congrArg _ (Except.ok.inj hsame))

/-- The document of an outcome tells its kind. It is `false` for one that does not match, an object
with a name and conditions for a match, and an object of a message and an error for a failure. So
only matches can have a document in common without being equal, and not if their segments were read
and have been left as they were. The document of a failure is read as that failure. -/
theorem toJson_tells_kind (o : Outcome) :
    (o.toJson = .boolean false ↔ o = .notMatched) ∧
      (o.toJson.LooksLikeSegment ↔ ∃ s, o = .matched s) ∧
      (o.toJson.LooksLikeFailure ↔ ∃ f, o = .failed f) ∧
      (∀ o' : Outcome, o.toJson = o'.toJson →
        o = o' ∨ ∃ s s', o = .matched s ∧ o' = .matched s') ∧
      (∀ f, o = .failed f → Failure.ofJson o.toJson = .ok f) ∧
      ∀ s s' v v', o = .matched s → s.ReadFrom v → s'.ReadFrom v' →
        o.toJson = (matched s').toJson → s = s' := by
  refine ⟨toJson_eq_false_iff, looksLikeSegment_iff, looksLikeFailure_iff,
    fun o' => eq_or_matched_of_toJson_eq, ?_, ?_⟩
  · rintro f rfl
    exact f.ofJson_toJson
  · rintro s s' v v' rfl hs hs' heq
    exact hs.eq_of_toJson_eq hs' heq

/-- A match whose further fields are a message and an error is not taken for a failure. -/
theorem sample_match_with_message :
    (matched { Segment.sample with
        extra := [("error", .string ""), ("message", .string "")] }).toJson.LooksLikeSegment ∧
      ¬ (matched { Segment.sample with
        extra := [("error", .string ""), ("message", .string "")] }).toJson.LooksLikeFailure ∧
      Failure.ofJson (failed ⟨"", ""⟩).toJson = .ok ⟨"", ""⟩ := by
  obtain ⟨-, hsegment, hfailure, -⟩ := toJson_tells_kind (matched { Segment.sample with
    extra := [("error", .string ""), ("message", .string "")] })
  obtain ⟨-, -, -, -, hread, -⟩ := toJson_tells_kind (failed ⟨"", ""⟩)
  refine ⟨hsegment.2 ⟨_, rfl⟩, fun h => ?_, hread _ rfl⟩
  obtain ⟨f, hf⟩ := hfailure.1 h
  cases hf

end Outcome

end Audience
