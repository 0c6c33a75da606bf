import Audience.Predicate
import Audience.Proofs.Documents.Segments

/-!
# Documents of edited segments

A segment is built from a name and conditions or read from a document (`Segment.Origin`), and its
fields may then be changed in any way (`Segment.Edit`). No edit touches the document that it was
read from, and its further fields stay in key order (`Segment.edit_preserves`). So there are two
cases for the document of an edited segment (`Segment.Origin.toJson_edit`): the one that was read, if
the fields equal those that were read, and else one that is written from the fields. Either way the
fields are read back from it, and the same checks are made from it (`Segment.RoundTrips`).
-/

namespace Audience

/-! ## Making conditions ready -/

namespace Check

variable {index : Nat} {groups : List String}

theorem ofCondition_withoutId (c : Condition) :
    ofCondition index groups c.withoutId = ofCondition index groups c := by
  have hoperand : c.withoutId.operand index = c.operand index := by
    funext slot
    cases slot <;> rfl
  unfold ofCondition
  rw [hoperand]
  rfl

/-- A change that no check depends on makes no difference to the checks. -/
theorem ofConditions_map {change : Condition → Condition}
    (h : ∀ index groups c, ofCondition index groups (change c) = ofCondition index groups c)
    (cs : List Condition) :
    ofConditions index groups (cs.map change) = ofConditions index groups cs := by
  induction cs generalizing index groups with
  | nil => rfl
  | cons c cs ih => simp only [List.map_cons, ofConditions, h, ih]

end Check

namespace Predicate

/-- What evaluation takes from a predicate, besides the segment that it returns. -/
def content (p : Predicate) : List Check × List String × List String :=
  (p.checks, p.groups, p.requiredFields)

/-- Segments are made ready alike, and refused alike, if they have the same name and a change that
no check depends on makes their conditions the same. -/
theorem map_content_ofSegment_of {change : Condition → Condition}
    (h : ∀ index groups c, Check.ofCondition index groups (change c) =
      Check.ofCondition index groups c) {s s' : Segment} (hname : s.name = s'.name)
    (hconditions : s.conditions.map change = s'.conditions.map change) :
    (ofSegment s).map content = (ofSegment s').map content := by
  have hchecks : Check.ofConditions 0 [] s.conditions = Check.ofConditions 0 [] s'.conditions := by
    rw [← Check.ofConditions_map h s.conditions, hconditions, Check.ofConditions_map h]
  unfold ofSegment
  rw [hname, hchecks]
  split_ifs
  · rfl
  · rcases Check.ofConditions 0 [] s'.conditions with e | ⟨checks, groups⟩ <;> rfl

/-- No check depends on a group identifier. -/
theorem map_content_ofSegment {s s' : Segment} (hname : s.name = s'.name)
    (hconditions : s.conditions.map Condition.withoutId = s'.conditions.map Condition.withoutId) :
    (ofSegment s).map content = (ofSegment s').map content :=
  map_content_ofSegment_of (fun _ _ => Check.ofCondition_withoutId) hname hconditions

theorem ofJson_of_segment {j : Json} {s : Segment} (h : Segment.ofJson j = .ok s) :
    ofJson j = ofSegment s := by
  unfold ofJson
  rw [h]
  rfl

end Predicate

namespace Condition

theorem withoutId_withoutNullId (c : Condition) : c.withoutNullId.withoutId = c.withoutId := by
  unfold withoutNullId
  split <;> rfl

/-- A condition that equals one whose group identifier is not `null` has no `null` either. -/
theorem groupId_of_same {c c' : Condition} (hc : c.groupId ≠ some .null) (h : c.same c' = true) :
    c'.groupId ≠ some .null := by
  intro hnull
  simp only [same, Bool.and_eq_true] at h
  have hid : Json.sameOption c.groupId (some .null) = true := hnull ▸ h.2
  rcases hj : c.groupId with _ | j
  · rw [hj] at hid
    cases hid
  · rw [hj] at hid hc
    cases j <;> first | exact hc rfl | cases hid

end Condition

/-! ## Edits -/

namespace Segment

/-- A change to the fields of a segment. -/
inductive Edit where
  | rename (name : String)
  | setConditions (conditions : List Condition)
  | setExtra (pairs : List (String × Json))
  | putExtra (key : String) (value : Json)
  | eraseExtra (key : String)

/-- Carries a change out. -/
def Edit.apply (s : Segment) : Edit → Segment
  | rename name => { s with name := name }
  | setConditions conditions => { s with conditions := conditions }
  | setExtra pairs => { s with extra := Fields.ofList pairs }
  | putExtra key value => { s with extra := Fields.put key value s.extra }
  | eraseExtra key => { s with extra := Fields.erase key s.extra }

/-- Carries changes out, one after the other. -/
def edit (s : Segment) (edits : List Edit) : Segment :=
  edits.foldl Edit.apply s

/-- Where a segment comes from: it was built, or it was read from a value or from a text. -/
inductive Origin : Segment → Prop
  | built (name : String) (conditions : List Condition) : Origin (.new name conditions)
  | value {v : Json} {s : Segment} (hv : v.Sorted) (h : ofJson v = .ok s) : Origin s
  | text {text : String} {s : Segment} (h : ofText text = .ok s) : Origin s

variable {c₀ c : Segment} {v : Json}

/-- A segment that has a document was read from it, and the document is sorted. -/
theorem Origin.document_spec (h : c₀.Origin) (hv : c₀.document = some v) :
    v.Sorted ∧ ofJson v = .ok c₀ := by
  cases h with
  | built name conditions => cases hv
  | value hsorted h =>
    obtain rfl := Option.some.inj ((ofJson_eq_ok_iff.1 h).2.symm.trans hv)
    exact ⟨hsorted, h⟩
  | text h =>
    obtain ⟨v', hv', h⟩ := ofText_eq_ok_iff.1 h
    obtain rfl := Option.some.inj ((ofJson_eq_ok_iff.1 h).2.symm.trans hv)
    exact ⟨Json.sorted_of_ofText hv', h⟩

/-- A segment without a document was built, and has no further fields. -/
theorem Origin.extra_eq_nil (h : c₀.Origin) (hnone : c₀.document = none) : c₀.extra = [] := by
  cases h with
  | built name conditions => rfl
  | value hsorted h => cases (ofJson_eq_ok_iff.1 h).2.symm.trans hnone
  | text h =>
    obtain ⟨v, -, h⟩ := ofText_eq_ok_iff.1 h
    cases (ofJson_eq_ok_iff.1 h).2.symm.trans hnone

theorem Origin.sorted (h : c₀.Origin) : c₀.extra.keys.Pairwise (· < ·) := by
  rcases hv : c₀.document with _ | v
  · rw [h.extra_eq_nil hv]
    exact List.Pairwise.nil
  · obtain ⟨hsorted, hread⟩ := h.document_spec hv
    obtain ⟨fields, rfl, hextra⟩ := SegmentFields.extra_of_ofJson (ofJson_eq_ok_iff.1 hread).1
    have hfields : (Fields.keys fields).Pairwise (· < ·) := List.pairwise_map.2 hsorted.1
    rw [hextra]
    exact hfields.sublist (List.filter_sublist.map _)

theorem Edit.apply_preserves (e : Edit) (h : c.extra.keys.Pairwise (· < ·)) :
    (e.apply c).document = c.document ∧ (e.apply c).extra.keys.Pairwise (· < ·) := by
  refine ⟨by cases e <;> rfl, ?_⟩
  cases e with
  | rename name => exact h
  | setConditions conditions => exact h
  | setExtra pairs => exact Fields.pairwise_keys_ofList pairs
  | putExtra key value => exact Fields.pairwise_keys_put h
  | eraseExtra key => exact Fields.pairwise_keys_erase h

/-- Edits leave the document as it is, and the further fields in order. -/
theorem edit_preserves (edits : List Edit) (h : c.extra.keys.Pairwise (· < ·)) :
    (c.edit edits).document = c.document ∧ (c.edit edits).extra.keys.Pairwise (· < ·) := by
  induction edits generalizing c with
  | nil => exact ⟨rfl, h⟩
  | cons e edits ih =>
    obtain ⟨hdocument, hsorted⟩ := e.apply_preserves h
    obtain ⟨hdocument', hsorted'⟩ := ih hsorted
    exact ⟨hdocument'.trans hdocument, hsorted'⟩

/-! ## Writing an edited segment -/

/-- The number -0.0 does not occur in what the conditions compare with. -/
def NoNegativeZero (s : Segment) : Prop :=
  ∀ k ∈ s.conditions, k.NoNegativeZero

/-- The document of an edited segment is the one that was read, if the fields equal those that were
read, and is else written from the fields. -/
theorem Origin.toJson_edit (h : c₀.Origin) (edits : List Edit) :
    (∃ v, ofJson v = .ok c₀ ∧ c₀.same (c₀.edit edits) = true ∧ (c₀.edit edits).toJson = v) ∨
      (¬ ∃ v, ofJson v = .ok c₀ ∧ c₀.same (c₀.edit edits) = true) ∧
        (c₀.edit edits).toJson = (c₀.edit edits).toSegmentFields.toJson := by
  have hdocument := (edit_preserves edits h.sorted).1
  rcases hv : c₀.document with _ | v
  · refine .inr ⟨?_, toJson_of_no_document (hdocument.trans hv)⟩
    rintro ⟨v, hread, -⟩
    cases hv.symm.trans (ofJson_eq_ok_iff.1 hread).2
  · have hread := (h.document_spec hv).2
    have hwritten := toJson_of_document hread (hdocument.trans hv)
    by_cases hsame : c₀.same (c₀.edit edits) = true
    · rw [if_pos hsame] at hwritten
      exact .inl ⟨v, hread, hsame, hwritten⟩
    · rw [if_neg hsame] at hwritten
      exact .inr ⟨fun hkept => hsame hkept.choose_spec.2, hwritten⟩

/-- A segment that equals one that was read has no `null` for a group identifier. -/
theorem withoutNullIds_of_same (hread : ofJson v = .ok c₀) (hsame : c₀.same c = true) :
    c.toSegmentFields.withoutNullIds = c.toSegmentFields := by
  have hids := SegmentFields.groupId_of_ofJson (ofJson_eq_ok_iff.1 hread).1
  simp only [same, SegmentFields.same, Bool.and_eq_true] at hsame
  have hsameAll := Condition.forall₂_of_sameAll hsame.1.2
  have hkept : c.conditions.map Condition.withoutNullId = c.conditions := by
    have hkeep : ∀ k ∈ c.conditions, k.withoutNullId = id k := by
      intro k hk
      obtain ⟨k₀, hk₀, hsame⟩ := exists_left_of_mem hsameAll hk
      exact Condition.withoutNullId_eq_self (Condition.groupId_of_same (hids k₀ hk₀) hsame)
    rw [List.map_congr_left hkeep, List.map_id]
  exact congrArg (fun cs => { c.toSegmentFields with conditions := cs }) hkept

/-- Equal segments without -0.0 are made ready alike. -/
theorem map_content_of_same (hc₀ : c₀.NoNegativeZero) (hc : c.NoNegativeZero)
    (hsame : c₀.same c = true) :
    (Predicate.ofSegment c₀).map Predicate.content =
      (Predicate.ofSegment c).map Predicate.content := by
  simp only [same, SegmentFields.same, Bool.and_eq_true, beq_iff_eq] at hsame
  obtain ⟨⟨hname, hconditions⟩, -⟩ := hsame
  exact Predicate.map_content_ofSegment hname
    (Condition.map_withoutId_of_sameAll hc₀ hc hconditions)

/-- Decoding undoes encoding for a segment that came about by editing another. -/
structure RoundTrips (c₀ c : Segment) : Prop where
  /-- What is written is read back, but for group identifiers that are `null`. -/
  returns : ∃ back, ofJson c.toJson = .ok back ∧
    back.toSegmentFields.same c.toSegmentFields.withoutNullIds = true
  /-- A segment that equals the one that was read is written as it was read. -/
  kept : ∀ v, ofJson v = .ok c₀ → c₀.same c = true → c.toJson = v
  /-- Any other is written from its fields, and these are what is read back. -/
  rewritten : (¬ ∃ v, ofJson v = .ok c₀ ∧ c₀.same c = true) →
    c.toJson = c.toSegmentFields.toJson ∧
      SegmentFields.ofJson c.toJson = .ok c.toSegmentFields.withoutNullIds
  /-- What is written is made ready as the segment is, or refused as it is. -/
  remade : c₀.NoNegativeZero → c.NoNegativeZero →
    (Predicate.ofJson c.toJson).map Predicate.content =
      (Predicate.ofSegment c).map Predicate.content

/-- However a segment is edited, as long as no further field takes the place of its name or of its
conditions: decoding undoes encoding. -/
theorem roundTrips_edit (h : c₀.Origin) (edits : List Edit)
    (hname : "name" ∉ (c₀.edit edits).extra.keys)
    (hconditions : "conditions" ∉ (c₀.edit edits).extra.keys) :
    c₀.RoundTrips (c₀.edit edits) := by
  have hproper : (c₀.edit edits).toSegmentFields.Proper :=
    ⟨(edit_preserves edits h.sorted).2, hname, hconditions⟩
  rcases h.toJson_edit edits with ⟨v, hread, hsame, hwritten⟩ | ⟨hchanged, hwritten⟩
  · exact {
      returns := by
        refine ⟨c₀, hwritten ▸ hread, ?_⟩
        rw [withoutNullIds_of_same hread hsame]
        exact hsame
      kept := fun v' hread' _ => by
        have hv := (ofJson_eq_ok_iff.1 hread).2
        have hv' := (ofJson_eq_ok_iff.1 hread').2
        rw [hwritten]
        exact Option.some.inj (hv.symm.trans hv')
      rewritten := fun hchanged => absurd ⟨v, hread, hsame⟩ hchanged
      remade := fun hc₀ hc => by
        rw [hwritten, Predicate.ofJson_of_segment hread]
        exact map_content_of_same hc₀ hc hsame }
  · have hback := hproper.ofJson_toJson
    rw [← hwritten] at hback
    have hread : ofJson (c₀.edit edits).toJson =
        .ok ⟨(c₀.edit edits).toSegmentFields.withoutNullIds, some (c₀.edit edits).toJson⟩ :=
      ofJson_eq_ok_iff.2 ⟨hback, rfl⟩
    exact {
      returns := ⟨_, hread, SegmentFields.same_refl _⟩
      kept := fun v' hread' hsame => absurd ⟨v', hread', hsame⟩ hchanged
      rewritten := fun _ => ⟨hwritten, hback⟩
      remade := fun _ _ => by
        rw [Predicate.ofJson_of_segment hread]
        refine Predicate.map_content_ofSegment rfl ?_
        change ((c₀.edit edits).conditions.map Condition.withoutNullId).map _ = _
        rw [List.map_map]
        exact List.map_congr_left fun k _ => k.withoutId_withoutNullId }

/-- Changes to every field of the sample, one of which sets a group identifier to `null`. -/
def sampleEdits : List Edit :=
  [.rename "adults", .setConditions [{ Condition.new "age" "Is Null" with groupId := some .null }],
    .eraseExtra "owner", .putExtra "note" (.ofInt 1)]

/-- The sample is written as it was read once its old name is back, and anew after changes that
last; only the identifier that is `null` is then not read back. -/
theorem sample_round_trips :
    sampleRead.Origin ∧
      (sampleRead.edit [.rename "adults", .rename "minors"]).toJson = sampleDocument ∧
      SegmentFields.ofJson (sampleRead.edit sampleEdits).toJson =
        .ok ⟨"adults", [.new "age" "Is Null"], [("note", .ofInt 1)]⟩ := by
  have horigin : sampleRead.Origin := by
    refine .value ?_ ofJson_sampleDocument
    simp only [sampleDocument, sampleCondition, Json.Sorted, Json.SortedFields, Json.SortedItems]
    decide
  refine ⟨horigin, ?_, ?_⟩
  · have hundone := roundTrips_edit horigin [.rename "adults", .rename "minors"] (by decide)
      (by decide)
    exact hundone.kept sampleDocument ofJson_sampleDocument (SegmentFields.same_refl _)
  · have hchanged := roundTrips_edit horigin sampleEdits (by decide) (by decide)
    have hdiffers : sampleRead.same (sampleRead.edit sampleEdits) = false := by
      decide
    refine (hchanged.rewritten ?_).2
    rintro ⟨v, -, hsame⟩
    rw [hdiffers] at hsame
    cases hsame

end Segment

end Audience
