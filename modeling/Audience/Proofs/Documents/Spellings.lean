import Audience.Proofs.Documents.Edits
import Audience.Proofs.Kinds
import Audience.Proofs.Names
import Audience.Proofs.Trimming

/-!
# Spellings in documents

Names of tests and marks are compared by their normal forms, and names of groups without the white
space around them. Documents that differ in how these are spelled (`Segment.Respelled`) are read in
parallel: either fails where the other does, and with the same mismatch, or the conditions read from
them are the same once their texts are brought into one form (`Condition.canonical`). Since checks
are made from that form, the segments are made ready alike, and evaluated alike
(`Predicate.spellings_agree`).
-/

namespace Audience

open Json

/-! ## Spellings -/

namespace Condition

/-- Two texts for a field mean the same: for a test or a mark if they have one normal form, and for
the name of a group if they are the same without white space around them. -/
def Field.Respells : Field → String → String → Prop
  | .test, s, s' | .connective, s, s' => normalize s' = normalize s
  | .groupName, s, s' => Text.trim s' = Text.trim s
  | _, s, s' => s' = s

/-- Values that are the same, or texts for a field that mean the same. -/
inductive Field.Respelled (f? : Option Field) : Json → Json → Prop
  | same (j : Json) : Respelled f? j j
  | text {f : Field} {s s' : String} (hf : f? = some f) (h : f.Respells s s') :
    Respelled f? (.string s) (.string s')

/-- Documents of conditions, objects or lists, that have the same fields but for spellings. -/
inductive Respelled : Json → Json → Prop
  | same (j : Json) : Respelled j j
  | members {fields fields' : List (String × Json)}
      (h : List.Forall₂ (fun m m' => m'.1 = m.1 ∧ Field.Respelled (Field.ofKey? m.1) m.2 m'.2)
        fields fields') : Respelled (.object fields) (.object fields')
  | items {items items' : List Json}
      (h : List.Forall₂ (fun a a' => a'.2 = a.2 ∧ Field.Respelled Field.all[a.2]? a.1 a'.1)
        items.zipIdx items'.zipIdx) : Respelled (.array items) (.array items')

/-- The condition with its texts in the form in which they are compared. -/
def canonical (c : Condition) : Condition :=
  { c with test := normalize c.test, groupName := c.groupName.map Text.trim }

end Condition

/-- Members of segments' documents that are the same, or conditions that are but for spellings. -/
inductive Segment.MemberRespelled : String × Json → String × Json → Prop
  | same (m : String × Json) : MemberRespelled m m
  | conditions {items items' : List Json} (h : List.Forall₂ Condition.Respelled items items') :
    MemberRespelled ("conditions", .array items) ("conditions", .array items')

/-- Documents of segments that are the same but for the spellings of tests, marks and groups. -/
inductive Segment.Respelled : Json → Json → Prop
  | same (j : Json) : Respelled j j
  | object {fields fields' : List (String × Json)}
      (h : List.Forall₂ MemberRespelled fields fields') :
      Respelled (.object fields) (.object fields')

/-! ## Reading in parallel -/

namespace Json.Part

variable {σ τ : Type} {view : σ → τ} {s s' : σ}

/-- Fields are stepped through alike if each of them is. -/
theorem map_fieldsFrom {step : String → σ → Except Mismatch (Part σ)}
    {fields fields' : List (String × Json)}
    (h : List.Forall₂ (fun m m' => ∀ s s', view s' = view s →
      (step m'.1 s' >>= fun read => read m'.2).map view =
        (step m.1 s >>= fun read => read m.2).map view) fields fields')
    (hs : view s' = view s) :
    (fieldsFrom step s' fields').map view = (fieldsFrom step s fields).map view := by
  induction h generalizing s s' with
  | nil => exact congrArg Except.ok hs
  | @cons m m' fields fields' h _ ih =>
    have hunfold : ∀ (m : String × Json) fields s, fieldsFrom step s (m :: fields) =
        (step m.1 s >>= fun read => read m.2) >>= fun s => fieldsFrom step s fields := by
      intro m fields s
      rw [fieldsFrom, bind_assoc]
    rw [hunfold, hunfold]
    exact map_bind_congr (h s s' hs) fun _ _ hs => ih hs

/-- Items are stepped through alike if each of them is. -/
theorem map_itemsFrom {limit : Nat} {step : Nat → σ → Part σ} {items items' : List Json} {i : Nat}
    (h : List.Forall₂ (fun a a' => ∀ s s', view s' = view s →
      (step a'.2 s' a'.1).map view = (step a.2 s a.1).map view) (items.zipIdx i) (items'.zipIdx i))
    (hs : view s' = view s) :
    (itemsFrom limit step i s' items').map (Prod.map view id) =
      (itemsFrom limit step i s items).map (Prod.map view id) := by
  induction items generalizing items' i s s' with
  | nil =>
    rcases items' with _ | ⟨j', items'⟩
    · exact congrArg Except.ok (congrArg (·, i) hs)
    · cases h
  | cons j items ih =>
    rcases items' with _ | ⟨j', items'⟩
    · cases h
    rw [List.zipIdx_cons, List.zipIdx_cons, List.forall₂_cons] at h
    obtain ⟨h, hrest⟩ := h
    unfold itemsFrom
    split
    · exact congrArg Except.ok (congrArg (·, i) hs)
    · exact map_bind_congr (h s s' hs) fun _ _ hs => ih hrest hs

end Json.Part

namespace Condition

variable {f : Field} {c c' : Condition} {j j' : Json}

theorem ofMark_congr {mark mark' : String} (h : normalize mark' = normalize mark) :
    Connective.ofMark (some mark') = Connective.ofMark (some mark) := by
  simp only [Connective.ofMark, Option.map_some, h]

/-- A field is read alike into conditions that are alike. -/
theorem map_canonical_readField (hc : c'.canonical = c.canonical) :
    (readField Source.ofValue f c' j).map canonical =
      (readField Source.ofValue f c j).map canonical := by
  obtain ⟨subject, test, comparison, minimum, maximum, connective, groupName, groupId⟩ := c
  obtain ⟨subject', test', comparison', minimum', maximum', connective', groupName', groupId'⟩ := c'
  simp only [canonical, mk.injEq] at hc
  obtain ⟨rfl, htest, rfl, rfl, rfl, rfl, hgroup, rfl⟩ := hc
  cases f <;>
    exact map_bind_congr_right fun a => congrArg Except.ok (by simp [canonical, htest, hgroup])

/-- A field is read alike from values that are the same but for spellings. -/
theorem map_canonical_readField_of_respelled (hj : Field.Respelled (some f) j j') :
    (readField Source.ofValue f c j').map canonical =
      (readField Source.ofValue f c j).map canonical := by
  cases hj with
  | same => rfl
  | @text f' s s' hf h =>
    obtain rfl := Option.some.inj hf
    cases f with
    | test =>
      replace h : normalize s' = normalize s := h
      exact congrArg Except.ok (by simp [canonical, h])
    | groupName =>
      replace h : Text.trim s' = Text.trim s := h
      exact congrArg Except.ok (by simp [canonical, h])
    | connective =>
      replace h : normalize s' = normalize s := h
      have hread : Connective.read Source.ofValue (.string s') =
          Connective.read Source.ofValue (.string s) := by
        unfold Connective.read
        simp only [bind, Except.bind, Source.ofValue, Part.string, Except.map, ofMark_congr h]
        rcases Connective.ofMark (some s) with e | k <;> rfl
      change (Connective.read Source.ofValue (.string s') >>= _).map _ = _
      rw [hread]
      rfl
    | _ =>
      obtain rfl : s' = s := h
      rfl

namespace Draft

variable {d d' : Draft}

/-- The draft with its texts in the form in which they are compared. -/
def canonical (d : Draft) : Draft :=
  ⟨d.condition.canonical, d.seen⟩

theorem map_readInto (hj : Field.Respelled (some f) j j') (hd : d'.canonical = d.canonical) :
    (readInto Source.ofValue f d' j').map canonical =
      (readInto Source.ofValue f d j).map canonical := by
  obtain ⟨hcondition, hseen⟩ := mk.inj hd
  have hread : (readField Source.ofValue f d'.condition j').map Condition.canonical =
      (readField Source.ofValue f d.condition j).map Condition.canonical :=
    (map_canonical_readField hcondition).trans (map_canonical_readField_of_respelled hj)
  refine map_bind_congr hread fun c c' hc => congrArg Except.ok ?_
  rw [canonical, canonical, hc, hseen]

theorem map_readMember {k : String} (hj : Field.Respelled (Field.ofKey? k) j j')
    (hd : d'.canonical = d.canonical) :
    (readMember Source.ofValue k d' >>= fun read => read j').map canonical =
      (readMember Source.ofValue k d >>= fun read => read j).map canonical := by
  have hseen : d'.seen = d.seen := (mk.inj hd).2
  unfold readMember
  rcases hf : Field.ofKey? k with _ | f
  · exact congrArg Except.ok hd
  · rw [hf] at hj
    dsimp only
    rw [hseen]
    split
    · rfl
    · exact map_readInto hj hd

theorem map_readItem {i : Nat} (hj : Field.Respelled Field.all[i]? j j')
    (hd : d'.canonical = d.canonical) :
    (readItem Source.ofValue i d' j').map canonical =
      (readItem Source.ofValue i d j).map canonical := by
  unfold readItem
  rcases hf : Field.all[i]? with _ | f
  · exact congrArg Except.ok hd
  · rw [hf] at hj
    exact map_readInto hj hd

end Draft

theorem map_canonical_ofMembers {fields fields' : List (String × Json)}
    (h : List.Forall₂ (fun m m' => m'.1 = m.1 ∧ Field.Respelled (Field.ofKey? m.1) m.2 m'.2)
      fields fields') :
    (ofMembers Source.ofValue (.object fields')).map canonical =
      (ofMembers Source.ofValue (.object fields)).map canonical := by
  have hrun : (Part.fieldsFrom (readMember Source.ofValue) ⟨new "" "", []⟩ fields').map
      Draft.canonical =
        (Part.fieldsFrom (readMember Source.ofValue) ⟨new "" "", []⟩ fields).map
          Draft.canonical := by
    refine Part.map_fieldsFrom (h.imp fun m m' hm d d' hd => ?_) rfl
    rw [hm.1]
    exact Draft.map_readMember hm.2 hd
  refine map_bind_congr hrun fun d d' hd => ?_
  obtain ⟨hcondition, hseen⟩ := Draft.mk.inj hd
  dsimp only
  rw [hseen]
  split
  · rfl
  · split
    · rfl
    · exact congrArg Except.ok hcondition

theorem map_canonical_ofItems {items items' : List Json}
    (h : List.Forall₂ (fun a a' => a'.2 = a.2 ∧ Field.Respelled Field.all[a.2]? a.1 a'.1)
      items.zipIdx items'.zipIdx) :
    (ofItems Source.ofValue (.array items')).map canonical =
      (ofItems Source.ofValue (.array items)).map canonical := by
  have hrun : (Part.itemsFrom Field.all.length (readItem Source.ofValue) 0 ⟨new "" "", []⟩
      items').map (Prod.map Draft.canonical id) =
        (Part.itemsFrom Field.all.length (readItem Source.ofValue) 0 ⟨new "" "", []⟩ items).map
          (Prod.map Draft.canonical id) := by
    refine Part.map_itemsFrom (h.imp fun a a' ha d d' hd => ?_) rfl
    rw [ha.1]
    exact Draft.map_readItem ha.2 hd
  refine map_bind_congr hrun fun read read' heq => ?_
  obtain ⟨d, count⟩ := read
  obtain ⟨d', count'⟩ := read'
  obtain ⟨hd, rfl⟩ := Prod.mk.inj heq
  dsimp only [id]
  split
  · rfl
  · exact congrArg (fun d => Except.ok (Draft.condition d)) hd

/-- Documents of conditions that differ in spellings are read alike. -/
theorem map_canonical_ofJson (h : Respelled j j') :
    (ofJson j').map canonical = (ofJson j).map canonical := by
  cases h with
  | same => rfl
  | members h => exact map_canonical_ofMembers h
  | @items items items' h =>
    have hlength : items'.length = items.length := by
      simpa using h.length_eq.symm
    refine map_bind_congr (map_canonical_ofItems h) fun c c' hc => ?_
    rw [hlength]
    split
    · rfl
    · exact congrArg Except.ok hc

end Condition

namespace SegmentFields

variable {m m' : String × Json} {j j' : Json}

/-- The fields with the texts of the conditions in the form in which they are compared. -/
def canonical (s : SegmentFields) : SegmentFields :=
  { s with conditions := s.conditions.map Condition.canonical }

/-- The draft with the texts of the conditions in the form in which they are compared. -/
def Draft.canonical (d : Draft) : Draft :=
  { d with conditions := d.conditions.map (List.map Condition.canonical) }

theorem Draft.map_readMember {d d' : Draft} (h : Segment.MemberRespelled m m')
    (hd : d'.canonical = d.canonical) :
    (readMember d' m').map canonical = (readMember d m).map canonical := by
  obtain ⟨hname, hconditions, hextra⟩ := mk.inj hd
  have hread : ∀ m : String × Json,
      (readMember d' m).map canonical = (readMember d m).map canonical := by
    intro m
    unfold readMember
    split
    · refine map_bind_congr_right fun name => congrArg Except.ok ?_
      simp [canonical, hconditions, hextra]
    · refine map_bind_congr_right fun cs => congrArg Except.ok ?_
      simp [canonical, hname, hextra]
    · exact congrArg Except.ok (by simp [canonical, hname, hconditions, hextra])
  cases h with
  | same => exact hread m
  | @conditions items items' h =>
    refine (hread _).trans ?_
    have hitems : (conditionsOfJson (.array items')).map (List.map Condition.canonical) =
        (conditionsOfJson (.array items)).map (List.map Condition.canonical) :=
      map_mapM_congr (h.imp fun _ _ => Condition.map_canonical_ofJson)
    refine map_bind_congr hitems fun cs cs' hcs => congrArg Except.ok ?_
    simp [canonical, hcs]

/-- Documents of segments that differ in spellings are read alike. -/
theorem map_canonical_ofJson (h : Segment.Respelled j j') :
    (ofJson j').map canonical = (ofJson j).map canonical := by
  cases h with
  | same => rfl
  | @object fields fields' h =>
    have hrun : (fields'.foldlM readMember ⟨none, none, []⟩).map Draft.canonical =
        (fields.foldlM readMember ⟨none, none, []⟩).map Draft.canonical :=
      map_foldlM_congr (h.imp fun m m' hm d d' hd => Draft.map_readMember hm hd) rfl
    refine map_bind_congr hrun fun d d' hd => ?_
    obtain ⟨name, conditions, extra⟩ := d
    obtain ⟨name', conditions', extra'⟩ := d'
    obtain ⟨rfl, hconditions, rfl⟩ := Draft.mk.inj hd
    rcases name' with _ | name
    · rfl
    rcases conditions with _ | cs <;> rcases conditions' with _ | cs'
    · rfl
    · cases hconditions
    · cases hconditions
    · have hcs : cs'.map Condition.canonical = cs.map Condition.canonical :=
        Option.some.inj hconditions
      exact congrArg Except.ok (by simp [SegmentFields.canonical, hcs])

end SegmentFields

/-! ## Checks -/

theorem Check.ofCondition_canonical {index : Nat} {groups : List String} (c : Condition) :
    ofCondition index groups c.canonical = ofCondition index groups c := by
  have hoperand : c.canonical.operand index = c.operand index := by
    funext slot
    cases slot <;> rfl
  have hgroup : c.canonical.group? = c.group? := by
    unfold Condition.group? Condition.canonical
    rw [Option.map_map]
    refine congrArg _ (Option.map_congr fun name _ => ?_)
    exact Text.trim_trim name
  have hroute : c.canonical.route index groups = c.route index groups := by
    unfold Condition.route
    rw [hgroup]
    rfl
  have htest : normalize c.canonical.test = normalize c.test := normalize_normalize c.test
  unfold ofCondition
  rw [hoperand, hroute, htest]
  rfl

namespace Predicate

variable {j j' : Json} {p p' : Predicate}

/-- Documents of segments that differ in spellings are made ready alike, and refused alike. -/
theorem map_content_ofJson (h : Segment.Respelled j j') :
    (ofJson j').map content = (ofJson j).map content := by
  have hread : ((Segment.ofJson j').mapError fun fault => Error.document (.ofMismatch fault)).map
      (fun s => s.toSegmentFields.canonical) =
        ((Segment.ofJson j).mapError fun fault => Error.document (.ofMismatch fault)).map
          fun s => s.toSegmentFields.canonical := by
    have hfields := SegmentFields.map_canonical_ofJson h
    unfold Segment.ofJson
    generalize SegmentFields.ofJson j = read at hfields
    generalize SegmentFields.ofJson j' = read' at hfields
    rcases read with e | s <;> rcases read' with e' | s'
    · obtain rfl := Except.error.inj hfields
      rfl
    · cases hfields
    · cases hfields
    · exact congrArg Except.ok (Except.ok.inj hfields)
  refine map_bind_congr hread fun s s' hs => ?_
  obtain ⟨hname, hconditions, -⟩ := SegmentFields.mk.inj hs
  exact map_content_ofSegment_of (fun _ _ => Check.ofCondition_canonical) hname hconditions

/-- What comes of an evaluation does not depend on more than this, save for the segment that is
returned. -/
theorem outcome_congr (h : p'.content = p.content) (compare : Comparison) (r : Record) :
    (p'.outcome compare r).kind = (p.outcome compare r).kind ∧
      (p'.outcome compare r).failure? = (p.outcome compare r).failure? := by
  obtain ⟨hchecks, hrest⟩ := Prod.mk.inj h
  obtain ⟨hgroups, -⟩ := Prod.mk.inj hrest
  unfold outcome evaluate Evaluation.outcome
  rw [hchecks, hgroups]
  split
  · exact ⟨rfl, rfl⟩
  · split <;> exact ⟨rfl, rfl⟩

/-- A text is made ready as the value that it writes. -/
theorem ofText_of_value {text : String} (h : Json.ofText? text = .ok j) : ofText text = ofJson j := by
  obtain ⟨cur, hread⟩ := Reader.run_eq_ok_iff.1 h
  obtain ⟨j₁, cur₁, hvalue, hrest⟩ := Reader.bind_eq_ok_iff.1 hread
  obtain ⟨u, cur₂, hend, hreturn⟩ := Reader.bind_eq_ok_iff.1 hrest
  obtain ⟨rfl, rfl⟩ := Prod.mk.inj (Except.ok.inj hreturn)
  have hsegment : Segment.ofText text = (Segment.ofJson j₁).mapError .ofMismatch := by
    have hstart : ∀ {α : Type} (next : Json → Reader α),
        (Reader.nested 0 >>= next) ⟨text.toList, 0⟩ = next j₁ cur₁ := by
      intro α next
      change ((Reader.nested 0 _ : Except Fault (Json × Cursor)) >>= _) = _
      rw [hvalue]
      rfl
    unfold Segment.ofText Reader.run
    rw [hstart]
    rcases Segment.ofJson j₁ with fault | s
    · rfl
    · have hreturn : (Reader.theEnd >>= fun _ => pure s) cur₁ = .ok (s, cur₂) :=
        Reader.bind_eq_ok_iff.2 ⟨u, cur₂, hend, rfl⟩
      dsimp only
      rw [hreturn]
      rfl
  unfold ofText ofJson
  rw [hsegment]
  rcases Segment.ofJson j₁ with fault | s <;> rfl

/-- Predicates ask the same, and so outcomes are of one kind, and failures are told alike. -/
structure Alike (p p' : Predicate) : Prop where
  checks : p'.checks = p.checks
  groups : p'.groups = p.groups
  requiredFields : p'.requiredFields = p.requiredFields
  kind (compare : Comparison) (r : Record) :
    (p'.outcome compare r).kind = (p.outcome compare r).kind
  failure (compare : Comparison) (r : Record) :
    (p'.outcome compare r).failure? = (p.outcome compare r).failure?

theorem alike_of_content (h : p'.content = p.content) : p.Alike p' where
  checks := (Prod.mk.inj h).1
  groups := (Prod.mk.inj (Prod.mk.inj h).2).1
  requiredFields := (Prod.mk.inj (Prod.mk.inj h).2).2
  kind compare r := (outcome_congr h compare r).1
  failure compare r := (outcome_congr h compare r).2

/-- Spelling does not matter: a name keeps its meaning in its normal form, and documents that differ
in spellings are refused alike, or else made ready and evaluated alike. It is the same for texts that
write these documents. -/
theorem spellings_agree (name : String) (h : Segment.Respelled j j') :
    KeepsMeaning name ∧
      (∀ e, ofJson j' = .error e ↔ ofJson j = .error e) ∧
      (∀ p p', ofJson j = .ok p → ofJson j' = .ok p' → p.Alike p') ∧
      ∀ text, (Json.ofText? text = .ok j → ofText text = ofJson j) ∧
        (Json.ofText? text = .ok j' → ofText text = ofJson j') := by
  have hcontent := map_content_ofJson h
  refine ⟨keepsMeaning name, fun e => ?_, fun p p' hp hp' => ?_,
    fun text => ⟨ofText_of_value, ofText_of_value⟩⟩
  · generalize ofJson j = made at hcontent
    generalize ofJson j' = made' at hcontent
    rcases made with e₁ | p <;> rcases made' with e₂ | p'
    · obtain rfl := Except.error.inj hcontent
      rfl
    · cases hcontent
    · cases hcontent
    · exact iff_of_false (fun h => by cases h) fun h => by cases h
  · rw [hp, hp'] at hcontent
    exact alike_of_content (Except.ok.inj hcontent)

/-- The document of a segment with a condition in an object and one in a list. -/
def sampleSpelling : Json :=
  .object
    [("conditions", .array
      [.object
        [("condition_test", .string "greaterthan"), ("rule_name", .string "age"),
          ("rule_type", .string "or"), ("value_comparison", .ofInt 17),
          ("variable_name", .string "age")],
        .array [.string "plan", .string "isnull"]]),
      ("name", .string "adults")]

/-- The same in other spellings. -/
def sampleRespelling : Json :=
  .object
    [("conditions", .array
      [.object
        [("condition_test", .string " Greater THAN"), ("rule_name", .string " age "),
          ("rule_type", .string "O R"), ("value_comparison", .ofInt 17),
          ("variable_name", .string "age")],
        .array [.string "plan", .string "Is Null"]]),
      ("name", .string "adults")]

theorem respelled_sample : Segment.Respelled sampleSpelling sampleRespelling := by
  refine .object (.cons (.conditions (.cons (.members ?_) (.cons (.items ?_) .nil)))
    (.cons (.same _) .nil))
  · refine .cons ⟨rfl, .text rfl ?_⟩ (.cons ⟨rfl, .text rfl ?_⟩ (.cons ⟨rfl, .text rfl ?_⟩
      (.cons ⟨rfl, .same _⟩ (.cons ⟨rfl, .same _⟩ .nil))))
    · change normalize _ = normalize _
      decide +kernel
    · change Text.trim _ = Text.trim _
      decide +kernel
    · change normalize _ = normalize _
      decide +kernel
  · refine .cons ⟨rfl, .same _⟩ (.cons ⟨rfl, .text rfl ?_⟩ .nil)
    change normalize _ = normalize _
    decide +kernel

/-- The sample is made ready in either spelling. -/
theorem sample_spellings_agree : ∃ p p', ofJson sampleSpelling = .ok p ∧
    ofJson sampleRespelling = .ok p' ∧ p.Alike p' := by
  have hmade : (ofJson sampleSpelling).toOption.isSome = true := by decide +kernel
  have hmade' : (ofJson sampleRespelling).toOption.isSome = true := by decide +kernel
  obtain ⟨p, hp⟩ := Option.isSome_iff_exists.1 hmade
  obtain ⟨p', hp'⟩ := Option.isSome_iff_exists.1 hmade'
  have hp := toOption_eq_some_iff.1 hp
  have hp' := toOption_eq_some_iff.1 hp'
  exact ⟨p, p', hp, hp', (spellings_agree "Greater THAN" respelled_sample).2.2.1 p p' hp hp'⟩

end Predicate

end Audience
