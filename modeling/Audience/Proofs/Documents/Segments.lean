import Audience.Proofs.Documents.Conditions
import Audience.Proofs.Documents.Texts
import Audience.Proofs.Equality

/-!
# Documents of segments

A segment's document is an object with its name, its conditions and its further fields, in the order
of their keys. Reading such an object gives the fields back, as long as no further field takes the
place of another (`SegmentFields.Proper.ofJson_toJson`). A segment that was read from a document is
written as that very document for as long as its fields equal those that were read
(`Segment.toJson_of_document`), so one that has not been changed is written as it was read
(`Segment.toJson_of_ofJson`).
-/

namespace Audience

namespace SegmentFields

/-! ## Members -/

/-- A member that is neither the name nor the conditions. -/
def isFurther (member : String × Json) : Bool :=
  member.1 ≠ "name" && member.1 ≠ "conditions"

theorem readMember_further {d : Draft} {member : String × Json} (h : isFurther member) :
    readMember d member = .ok { d with extra := d.extra ++ [member] } := by
  unfold readMember
  split
  · simp [isFurther] at h
  · simp [isFurther] at h
  · rfl

/-- What a member says of a segment that has these fields. -/
inductive Describes (s : SegmentFields) : String × Json → Prop
  | name : Describes s ("name", .string s.name)
  | conditions {j : Json} (h : conditionsOfJson j = .ok s.conditions) :
    Describes s ("conditions", j)
  | further {member : String × Json} (h : isFurther member) : Describes s member

variable {s : SegmentFields} {d d' : Draft} {member : String × Json} {fields : List (String × Json)}

theorem Describes.readMember (h : s.Describes member) (d : Draft) :
    readMember d member = .ok
      ⟨if member.1 = "name" then some s.name else d.name,
        if member.1 = "conditions" then some s.conditions else d.conditions,
        d.extra ++ [member].filter isFurther⟩ := by
  cases h with
  | name => simp [SegmentFields.readMember, isFurther, Json.Part.string, pure, Except.pure, bind,
      Except.bind]
  | conditions h => simp [SegmentFields.readMember, isFurther, h, pure, Except.pure, bind,
      Except.bind]
  | further h =>
    have hne := h
    simp only [isFurther, Bool.and_eq_true, decide_eq_true_eq] at hne
    rw [readMember_further h, if_neg hne.1, if_neg hne.2, List.filter_cons_of_pos h,
      List.filter_nil]

/-- Members that describe a segment are taken over, and the further ones are kept in their order. -/
theorem foldlM_readMember_of_describes (h : ∀ member ∈ fields, s.Describes member) (d : Draft) :
    fields.foldlM readMember d = .ok
      ⟨if "name" ∈ Fields.keys fields then some s.name else d.name,
        if "conditions" ∈ Fields.keys fields then some s.conditions else d.conditions,
        d.extra ++ fields.filter isFurther⟩ := by
  induction fields generalizing d with
  | nil => simp [Fields.keys, pure, Except.pure]
  | cons member fields ih =>
    obtain ⟨hmember, hrest⟩ := List.forall_mem_cons.1 h
    have hfilter : (member :: fields).filter isFurther =
        [member].filter isFurther ++ fields.filter isFurther := by
      rw [← List.filter_append, List.singleton_append]
    rw [List.foldlM_cons, hmember.readMember]
    change fields.foldlM readMember _ = _
    rw [ih hrest, hfilter, Fields.keys_cons]
    simp only [List.mem_cons, List.append_assoc, eq_comm (a := member.1)]
    congr 2
    · split_ifs <;> first | rfl | simp_all
    · split_ifs <;> first | rfl | simp_all

/-- A member is kept if it is further, and conditions come from the member that lists them. -/
theorem readMember_spec (h : readMember d member = .ok d') :
    d'.extra = d.extra ++ [member].filter isFurther ∧
      (d'.conditions = d.conditions ∨
        ∃ j cs, conditionsOfJson j = .ok cs ∧ d'.conditions = some cs) := by
  unfold readMember at h
  split at h
  · obtain ⟨name, -, h⟩ := bind_eq_ok_iff.1 h
    obtain rfl := Except.ok.inj h
    exact ⟨by simp [isFurther], .inl rfl⟩
  · rename_i j
    obtain ⟨cs, hcs, h⟩ := bind_eq_ok_iff.1 h
    obtain rfl := Except.ok.inj h
    exact ⟨by simp [isFurther], .inr ⟨j, cs, hcs, rfl⟩⟩
  · rename_i k j hname hconditions
    have hfurther : isFurther (k, j) := by
      simp_all [isFurther]
    obtain rfl := Except.ok.inj h
    rw [List.filter_cons_of_pos hfurther]
    exact ⟨rfl, .inl rfl⟩

/-- Whatever else the members say, the further ones are kept in their order. -/
theorem foldlM_readMember_spec (h : fields.foldlM readMember d = .ok d') :
    d'.extra = d.extra ++ fields.filter isFurther ∧
      (d'.conditions = d.conditions ∨
        ∃ j cs, conditionsOfJson j = .ok cs ∧ d'.conditions = some cs) := by
  induction fields generalizing d with
  | nil =>
    obtain rfl := Except.ok.inj h
    exact ⟨by simp, .inl rfl⟩
  | cons member fields ih =>
    rw [List.foldlM_cons] at h
    obtain ⟨d₁, hd₁, h⟩ := bind_eq_ok_iff.1 h
    obtain ⟨hextra, hconditions⟩ := readMember_spec hd₁
    obtain ⟨hextra', hconditions'⟩ := ih h
    constructor
    · rw [hextra', hextra, List.append_assoc, ← List.filter_append, List.singleton_append]
    · rcases hconditions' with heq | hread
      · rwa [heq]
      · exact .inr hread

theorem ofJson_eq_ok_iff {fields : List (String × Json)} : ofJson (.object fields) = .ok s ↔
    fields.foldlM readMember ⟨none, none, []⟩ = .ok ⟨some s.name, some s.conditions, s.extra⟩ := by
  change (fields.foldlM readMember ⟨none, none, []⟩ >>= _) = _ ↔ _
  rw [bind_eq_ok_iff]
  constructor
  · rintro ⟨⟨name, conditions, extra⟩, hd, h⟩
    rcases name with _ | name
    · cases h
    · rcases conditions with _ | conditions
      · cases h
      · obtain rfl := Except.ok.inj h
        exact hd
  · intro hd
    exact ⟨_, hd, rfl⟩

/-- The further fields that were read are those of the document, in its order. -/
theorem extra_of_ofJson {j : Json} (h : ofJson j = .ok s) :
    ∃ fields, j = .object fields ∧ s.extra = fields.filter isFurther := by
  cases j with
  | object fields => exact ⟨fields, rfl, (foldlM_readMember_spec (ofJson_eq_ok_iff.1 h)).1⟩
  | _ => cases h

/-- No condition that was read has `null` for a group identifier. -/
theorem groupId_of_ofJson {j : Json} (h : ofJson j = .ok s) :
    ∀ c ∈ s.conditions, c.groupId ≠ some .null := by
  intro c hc
  obtain ⟨fields, rfl, -⟩ := extra_of_ofJson h
  rcases (foldlM_readMember_spec (ofJson_eq_ok_iff.1 h)).2 with hnone | ⟨j, cs, hcs, hconditions⟩
  · cases hnone
  · obtain rfl := Option.some.inj hconditions
    cases j with
    | array items =>
      obtain ⟨item, -, hitem⟩ := exists_left_of_mem (mapM_eq_ok_iff.1 hcs) hc
      exact Condition.groupId_of_ofJson hitem
    | _ => cases hcs

/-! ## Reading what was written -/

theorem conditionsOfJson_toJson (cs : List Condition) :
    conditionsOfJson (.array (cs.map Condition.toJson)) = .ok (cs.map Condition.withoutNullId) := by
  refine mapM_eq_ok_iff.2 ?_
  rw [List.forall₂_map_left_iff, List.forall₂_map_right_iff, List.forall₂_same]
  exact fun c _ => c.ofJson_toJson

/-- The fields with no group identifier where a condition had `null`. -/
def withoutNullIds (s : SegmentFields) : SegmentFields :=
  { s with conditions := s.conditions.map Condition.withoutNullId }

/-- The further fields are in key order, and none has the key of the name or of the conditions. -/
structure Proper (s : SegmentFields) : Prop where
  sorted : s.extra.keys.Pairwise (· < ·)
  name : "name" ∉ s.extra.keys
  conditions : "conditions" ∉ s.extra.keys

theorem Proper.isFurther (h : s.Proper) {member : String × Json} (hm : member ∈ s.extra) :
    isFurther member := by
  have hkey : member.1 ∈ s.extra.keys := List.mem_map.2 ⟨member, hm, rfl⟩
  have hname : member.1 ≠ "name" := fun heq => h.name (heq ▸ hkey)
  have hconditions : member.1 ≠ "conditions" := fun heq => h.conditions (heq ▸ hkey)
  simp [SegmentFields.isFurther, hname, hconditions]

/-- The fields of the document that is written. -/
def written (s : SegmentFields) : Fields Json :=
  Fields.putAll s.extra (Fields.ofList
    [("name", .string s.name), ("conditions", .array (s.conditions.map Condition.toJson))])

theorem toJson_eq_written (s : SegmentFields) : s.toJson = .object s.written := rfl

theorem pairwise_written (s : SegmentFields) : s.written.keys.Pairwise (· < ·) :=
  Fields.pairwise_keys_foldl_put (Fields.pairwise_keys_ofList _)

/-- The document has the name, the conditions and the further fields, and nothing else. -/
theorem Proper.written_perm (h : s.Proper) :
    s.written.Perm (("name", .string s.name) ::
      ("conditions", .array (s.conditions.map Condition.toJson)) :: s.extra) := by
  have hown : (Fields.ofList [("name", Json.string s.name),
      ("conditions", .array (s.conditions.map Condition.toJson))]).Perm
      [("name", .string s.name), ("conditions", .array (s.conditions.map Condition.toJson))] :=
    Fields.ofList_perm (by simp)
  have hnodup : (["name", "conditions"] ++ s.extra.keys).Nodup := by
    have hextra : s.extra.keys.Nodup := h.sorted.imp fun hlt => hlt.ne
    simp [hextra, h.name, h.conditions]
  have hkeys := (hown.map (·.1)).append_right s.extra.keys
  exact (Fields.foldl_put_perm (hkeys.nodup_iff.2 hnodup)).trans (hown.append_right _)

/-- Reading the document of a segment gives its fields, without group identifiers that are
`null`. -/
theorem Proper.ofJson_toJson (h : s.Proper) : ofJson s.toJson = .ok s.withoutNullIds := by
  have hdescribes : ∀ member ∈ s.written, s.withoutNullIds.Describes member := by
    intro member hm
    rcases List.mem_cons.1 (h.written_perm.mem_iff.1 hm) with rfl | hm
    · exact .name
    rcases List.mem_cons.1 hm with rfl | hm
    · exact .conditions (conditionsOfJson_toJson s.conditions)
    · exact .further (h.isFurther hm)
  have hmem (k : String) (hk : k = "name" ∨ k = "conditions") : k ∈ s.written.keys := by
    refine (h.written_perm.map (·.1)).mem_iff.2 ?_
    rcases hk with rfl | rfl <;> simp
  have hextra : s.written.filter SegmentFields.isFurther = s.extra := by
    have hkept : s.extra.filter SegmentFields.isFurther = s.extra :=
      List.filter_eq_self.2 fun member hm => h.isFurther hm
    have hperm := h.written_perm.filter SegmentFields.isFurther
    rw [List.filter_cons_of_neg (by simp [SegmentFields.isFurther]),
      List.filter_cons_of_neg (by simp [SegmentFields.isFurther]), hkept] at hperm
    refine Fields.eq_of_perm hperm ?_ h.sorted
    exact s.pairwise_written.sublist (List.filter_sublist.map _)
  rw [toJson_eq_written, ofJson_eq_ok_iff, foldlM_readMember_of_describes hdescribes,
    if_pos (hmem _ (.inl rfl)), if_pos (hmem _ (.inr rfl)), hextra]
  rfl

end SegmentFields

namespace Segment

variable {s c₀ c : Segment} {v : Json}

/-! ## The document that was read -/

theorem ofJson_eq_ok_iff : ofJson v = .ok s ↔
    SegmentFields.ofJson v = .ok s.toSegmentFields ∧ s.document = some v := by
  obtain ⟨fields, document⟩ := s
  change (SegmentFields.ofJson v >>= _) = _ ↔ _
  rw [bind_eq_ok_iff]
  constructor
  · rintro ⟨fields', hfields, h⟩
    obtain ⟨rfl, rfl⟩ := Segment.mk.inj (Except.ok.inj h)
    exact ⟨hfields, rfl⟩
  · rintro ⟨hfields, rfl⟩
    exact ⟨_, hfields, rfl⟩

/-- A segment that has the document of another is written as that document if it equals the other,
and otherwise from its own fields. -/
theorem toJson_of_document (h : ofJson v = .ok c₀) (hc : c.document = some v) :
    c.toJson = if c₀.same c then v else c.toSegmentFields.toJson := by
  obtain ⟨hfields, -⟩ := ofJson_eq_ok_iff.1 h
  have hsource : c.source? = if c₀.same c then some v else none := by
    unfold source?
    rw [hc]
    change ((SegmentFields.ofJson v).toOption >>= _) = _
    rw [hfields]
    rfl
  rw [toJson, hsource]
  split_ifs <;> rfl

theorem toJson_of_no_document (hc : c.document = none) :
    c.toJson = c.toSegmentFields.toJson := by
  unfold toJson source?
  rw [hc]
  rfl

/-- A segment is written as it was read. -/
theorem toJson_of_ofJson (h : ofJson v = .ok s) : s.toJson = v := by
  rw [toJson_of_document h (ofJson_eq_ok_iff.1 h).2, same, SegmentFields.same_refl, if_pos rfl]

/-- A text describes the segment that its value describes. -/
theorem ofText_eq_ok_iff {text : String} :
    ofText text = .ok s ↔ ∃ v, Json.ofText? text = .ok v ∧ ofJson v = .ok s := by
  unfold ofText Json.ofText?
  simp only [Json.Reader.run_eq_ok_iff, Json.Reader.bind_eq_ok_iff]
  constructor
  · rintro ⟨cur, v, cur₁, hv, h⟩
    rcases hs : ofJson v with fault | s'
    · rw [hs] at h
      cases h
    · rw [hs] at h
      obtain ⟨u, cur₂, hend, h⟩ := Json.Reader.bind_eq_ok_iff.1 h
      obtain ⟨rfl, -⟩ := Prod.mk.inj (Except.ok.inj h)
      exact ⟨v, ⟨cur₂, v, cur₁, hv, u, cur₂, hend, rfl⟩, hs⟩
  · rintro ⟨v, ⟨cur, v', cur₁, hv, u, cur₂, hend, h⟩, hs⟩
    obtain ⟨rfl, -⟩ := Prod.mk.inj (Except.ok.inj h)
    refine ⟨cur₂, v', cur₁, hv, ?_⟩
    rw [hs]
    exact Json.Reader.bind_eq_ok_iff.2 ⟨u, cur₂, hend, rfl⟩

/-! ## A sample -/

/-- A condition's document, with a mark in capitals, a `null` and a field that is not known. -/
def sampleCondition : Json :=
  .object
    [("condition_group_id", .null), ("condition_test", .string "Is Null"), ("note", .boolean true),
      ("rule_name", .string " free "), ("rule_type", .string "OR"),
      ("variable_name", .string "plan")]

/-- A document with a condition in a list and one in an object, and a further field. -/
def sampleDocument : Json :=
  .object
    [("conditions", .array
      [.array [.string "age", .string "Less Than", .string "limit", .string "variable"],
        sampleCondition]),
      ("name", .string "minors"), ("owner", .null)]

/-- The segment that the document describes. -/
def sampleRead : Segment where
  name := "minors"
  conditions := [(Condition.new "age" "Less Than").against "limit",
    (Condition.new "plan" "Is Null").orGroup " free "]
  extra := [("owner", .null)]
  document := some sampleDocument

theorem ofJson_sampleCondition :
    Condition.ofJson sampleCondition = .ok ((Condition.new "plan" "Is Null").orGroup " free ") := by
  have hor : normalize "OR" = "or" := by decide +kernel
  have hmark : Connective.ofMark (some "OR") = .ok .or := by simp [Connective.ofMark, hor]
  have hread (d : Condition.Draft) :
      Condition.readInto Json.Source.ofValue .connective d (.string "OR") =
        .ok ⟨{ d.condition with connective := .or }, .connective :: d.seen⟩ :=
    Condition.readInto_of_readField
      (Condition.readField_connective (Connective.read_of_ofMark hmark) d.condition)
  -- the fields before the mark, then the mark, then the rest
  have hstart : Json.Part.fieldsFrom (Condition.readMember Json.Source.ofValue) ⟨.new "" "", []⟩
      (sampleCondition.fields?.getD []) =
        Json.Part.fieldsFrom (Condition.readMember Json.Source.ofValue)
          ⟨{ Condition.new "" "Is Null" with groupName := some " free " },
            [.groupName, .test, .groupId]⟩
          [("rule_type", .string "OR"), ("variable_name", .string "plan")] := rfl
  have hall : Json.Part.fieldsFrom (Condition.readMember Json.Source.ofValue) ⟨.new "" "", []⟩
      (sampleCondition.fields?.getD []) =
        .ok ⟨(Condition.new "plan" "Is Null").orGroup " free ",
          [.subject, .connective, .groupName, .test, .groupId]⟩ :=
    hstart.trans (Eq.trans (Json.Part.fieldsFrom_cons rfl (hread _)) rfl)
  exact Condition.ofJson_object hall (by decide) (by decide)

theorem ofJson_sampleDocument : ofJson sampleDocument = .ok sampleRead := by
  have hconditions : SegmentFields.conditionsOfJson (.array
      [.array [.string "age", .string "Less Than", .string "limit", .string "variable"],
        sampleCondition]) = .ok sampleRead.conditions :=
    mapM_eq_ok_iff.2 (.cons rfl (.cons ofJson_sampleCondition .nil))
  have hdescribes : ∀ member ∈ sampleDocument.fields?.getD [],
      sampleRead.toSegmentFields.Describes member := by
    intro member hm
    rcases List.mem_cons.1 hm with rfl | hm
    · exact .conditions hconditions
    rcases List.mem_cons.1 hm with rfl | hm
    · exact .name
    · obtain rfl := List.mem_singleton.1 hm
      exact .further (by decide)
  refine ofJson_eq_ok_iff.2 ⟨SegmentFields.ofJson_eq_ok_iff.2 ?_, rfl⟩
  exact SegmentFields.foldlM_readMember_of_describes hdescribes ⟨none, none, []⟩

end Segment

end Audience
