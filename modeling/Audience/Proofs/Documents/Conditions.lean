import Audience.Condition
import Audience.Proofs.Fallible
import Audience.Proofs.Fields
import Mathlib.Tactic.SplitIfs

/-!
# Documents of conditions

`Condition.toJson` writes one member for each field that has a value (`Condition.written?`), and an
object lists them in key order (`Field.inKeyOrder`). Reading such an object takes the fields over
one by one (`readField_written`), so it gives back the condition that was written (`ofJson_toJson`),
but for one field: a group identifier that is `null` is read as none (`Condition.withoutNullId`),
and no condition that was read has one (`groupId_of_ofJson`).
-/

namespace Audience

open Json

/-! ## Steps through a value -/

namespace Json.Part

variable {α β σ : Type} {P : σ → Prop} {s s' : σ}

/-- A step that succeeds hands its result to the next. -/
theorem bind_of_ok {read : Part α} {next : α → Part β} {j : Json} {a : α} (h : read j = .ok a) :
    (read >>= next) j = next a j := by
  change (read j >>= fun a => next a j) = _
  rw [h]
  rfl

theorem fieldsFrom_cons {step : String → σ → Except Mismatch (Part σ)} {read : Part σ} {k : String}
    {j : Json} {fields : List (String × Json)} (hstep : step k s = .ok read)
    (hread : read j = .ok s') :
    fieldsFrom step s ((k, j) :: fields) = fieldsFrom step s' fields := by
  rw [fieldsFrom, hstep]
  change (read j >>= _) = _
  rw [hread]
  rfl

/-- What every step keeps is kept by stepping through fields. -/
theorem fieldsFrom_preserves {step : String → σ → Except Mismatch (Part σ)}
    (hstep : ∀ k s read j s', P s → step k s = .ok read → read j = .ok s' → P s')
    {fields : List (String × Json)} (hs : P s) (h : fieldsFrom step s fields = .ok s') : P s' := by
  induction fields generalizing s with
  | nil =>
    obtain rfl := Except.ok.inj h
    exact hs
  | cons m fields ih =>
    obtain ⟨k, j⟩ := m
    rw [fieldsFrom] at h
    obtain ⟨read, hread, h⟩ := bind_eq_ok_iff.1 h
    obtain ⟨s₁, hs₁, h⟩ := bind_eq_ok_iff.1 h
    exact ih (hstep k s read j s₁ hs hread hs₁) h

/-- What every step keeps is kept by stepping through items. -/
theorem itemsFrom_preserves {limit : Nat} {step : Nat → σ → Part σ}
    (hstep : ∀ i s j s', P s → step i s j = .ok s' → P s') {i n : Nat} {items : List Json}
    (hs : P s) (h : itemsFrom limit step i s items = .ok (s', n)) : P s' := by
  induction items generalizing i s with
  | nil =>
    obtain ⟨rfl, -⟩ := Prod.mk.inj (Except.ok.inj h)
    exact hs
  | cons j items ih =>
    unfold itemsFrom at h
    split_ifs at h with hlimit
    · obtain ⟨rfl, -⟩ := Prod.mk.inj (Except.ok.inj h)
      exact hs
    · obtain ⟨s₁, hs₁, h⟩ := bind_eq_ok_iff.1 h
      exact ih (hstep i s j s₁ hs hs₁) h

end Json.Part

theorem ValueKind.read_name (k : ValueKind) : read Source.ofValue (.string k.name) = .ok k := by
  cases k <;> rfl

namespace Connective

theorem ofMark_name (k : Connective) : ofMark (some k.name) = .ok k := by
  have hnames : normalize "and" = "and" ∧ normalize "or" = "or" := by decide +kernel
  cases k <;> simp [ofMark, name, hnames]

theorem read_of_ofMark {k : Connective} {mark : String} (h : ofMark (some mark) = .ok k) :
    read Source.ofValue (.string mark) = .ok k := by
  unfold read
  simp only [bind, Except.bind, Source.ofValue, Part.string, Except.map, h]
  rfl

end Connective

namespace Given

/-- A given value with the value of another in its place, if the other has one. -/
def withValueOf (g g' : Given) : Given :=
  ⟨g'.value <|> g.value, g.kind⟩

theorem withValueOf_eq_self {g g' : Given} (h : g'.value = none) : g.withValueOf g' = g := by
  simp [withValueOf, h]

theorem withValueOf_eq_mk {g g' : Given} {j : Json} (h : g'.value = some j) :
    g.withValueOf g' = ⟨some j, g.kind⟩ := by
  simp [withValueOf, h]

end Given

namespace Condition

/-- The condition with no group identifier where it had `null`. -/
def withoutNullId (c : Condition) : Condition :=
  match c.groupId with
  | some .null => { c with groupId := none }
  | _ => c

theorem withoutNullId_eq_self {c : Condition} (h : c.groupId ≠ some .null) :
    c.withoutNullId = c := by
  unfold withoutNullId
  split
  · rename_i hnull
    exact absurd hnull h
  · rfl

/-! ## The members that are written -/

namespace Field

/-- All fields, in the order of their keys. -/
def inKeyOrder : List Field :=
  [groupId, test, groupName, connective, comparison, comparisonKind, maximum, maximumKind, minimum,
    minimumKind, subject]

theorem pairwise_inKeyOrder : (inKeyOrder.map key).Pairwise (· < ·) := by
  decide

theorem ofKey?_key (f : Field) : ofKey? f.key = some f := by
  cases f <;> rfl

theorem all_perm_inKeyOrder : all.Perm inKeyOrder := by
  decide

end Field

/-- The value that is written for a field; none if the field is left out. -/
def written? (c : Condition) : Field → Option Json
  | .subject => some (.string c.subject)
  | .test => some (.string c.test)
  | .comparison => c.comparison.value
  | .comparisonKind => some (.string c.comparison.kind.name)
  | .minimum => c.minimum.value
  | .minimumKind => some (.string c.minimum.kind.name)
  | .maximum => c.maximum.value
  | .maximumKind => some (.string c.maximum.kind.name)
  | .connective => some (.string c.connective.name)
  | .groupName => c.groupName.map .string
  | .groupId => c.groupId

/-- The fields that are written, with their values. -/
def members (c : Condition) (fields : List Field) : List (Field × Json) :=
  fields.filterMap fun f => (c.written? f).map fun j => (f, j)

/-- Members under their keys. -/
def keyed (members : List (Field × Json)) : List (String × Json) :=
  members.map fun m => (m.1.key, m.2)

variable {c : Condition}

theorem keyed_members_nil (c : Condition) : keyed (c.members []) = [] := rfl

theorem keyed_members_cons (c : Condition) (f : Field) (fields : List Field) :
    keyed (c.members (f :: fields)) =
      optionalField f (c.written? f) ++ keyed (c.members fields) := by
  unfold members
  rw [List.filterMap_cons]
  rcases c.written? f with _ | j <;> rfl

theorem optionalField_some (f : Field) (j : Json) : optionalField f (some j) = [(f.key, j)] := rfl

theorem mem_members {c : Condition} {fields : List Field} {m : Field × Json} :
    m ∈ c.members fields ↔ m.1 ∈ fields ∧ c.written? m.1 = some m.2 := by
  obtain ⟨f, j⟩ := m
  simp only [members, List.mem_filterMap, Option.map_eq_some_iff, Prod.mk.injEq]
  constructor
  · rintro ⟨f', hf', j', hj', rfl, rfl⟩
    exact ⟨hf', hj'⟩
  · rintro ⟨hf, hj⟩
    exact ⟨f, hf, j, hj, rfl, rfl⟩

/-- The fields that are written are some of the fields, in their order. -/
theorem fst_members_sublist (c : Condition) (fields : List Field) :
    ((c.members fields).map (·.1)).Sublist fields := by
  induction fields with
  | nil => exact List.Sublist.refl _
  | cons f fields ih =>
    unfold members at ih ⊢
    rw [List.filterMap_cons]
    rcases c.written? f with _ | j
    · exact ih.cons f
    · exact ih.cons_cons f

/-- A condition's document has the members that are written, in key order. -/
theorem toJson_eq_members (c : Condition) :
    c.toJson = .object (keyed (c.members Field.inKeyOrder)) := by
  have hall : c.toJson = .ofFields (keyed (c.members Field.all)) := by
    simp only [toJson, Field.all, keyed_members_cons, keyed_members_nil, written?,
      optionalField_some, List.append_assoc, List.cons_append, List.nil_append, List.append_nil]
  have hkeys : (keyed (c.members Field.inKeyOrder)).map (·.1) =
      ((c.members Field.inKeyOrder).map (·.1)).map Field.key := by
    rw [keyed, List.map_map, List.map_map]
    rfl
  have hsorted : (Fields.keys (keyed (c.members Field.inKeyOrder))).Pairwise (· < ·) := by
    rw [Fields.keys, hkeys]
    exact Field.pairwise_inKeyOrder.sublist ((fst_members_sublist c _).map _)
  have hperm : (keyed (c.members Field.all)).Perm (keyed (c.members Field.inKeyOrder)) :=
    (Field.all_perm_inKeyOrder.filterMap _).map _
  have hnodup : ((keyed (c.members Field.all)).map (·.1)).Nodup :=
    (hperm.map _).nodup_iff.2 (hsorted.imp fun hlt => hlt.ne)
  have hsame : Fields.ofList (keyed (c.members Field.all)) = keyed (c.members Field.inKeyOrder) :=
    Fields.eq_of_perm ((Fields.ofList_perm hnodup).trans hperm)
      (Fields.pairwise_keys_ofList _) hsorted
  rw [hall, ofFields, hsame]

/-! ## Reading what was written -/

/-- The second condition with one field of the first. A field that has no value is left alone, and
no group identifier is taken from `null`. -/
def take (c : Condition) (f : Field) (d : Condition) : Condition :=
  match f with
  | .subject => { d with subject := c.subject }
  | .test => { d with test := c.test }
  | .comparison => { d with comparison := d.comparison.withValueOf c.comparison }
  | .comparisonKind => { d with comparison := ⟨d.comparison.value, c.comparison.kind⟩ }
  | .minimum => { d with minimum := d.minimum.withValueOf c.minimum }
  | .minimumKind => { d with minimum := ⟨d.minimum.value, c.minimum.kind⟩ }
  | .maximum => { d with maximum := d.maximum.withValueOf c.maximum }
  | .maximumKind => { d with maximum := ⟨d.maximum.value, c.maximum.kind⟩ }
  | .connective => { d with connective := c.connective }
  | .groupName => { d with groupName := c.groupName <|> d.groupName }
  | .groupId =>
    match c.groupId with
    | none => d
    | some .null => { d with groupId := none }
    | some j => { d with groupId := some j }

theorem take_of_written?_eq_none {c : Condition} {f : Field} (h : c.written? f = none)
    (d : Condition) : c.take f d = d := by
  cases f with
  | comparison => simp only [take, Given.withValueOf_eq_self h]
  | minimum => simp only [take, Given.withValueOf_eq_self h]
  | maximum => simp only [take, Given.withValueOf_eq_self h]
  | groupName => simp [take, show c.groupName = none from Option.map_eq_none_iff.1 h]
  | groupId => simp [take, show c.groupId = none from h]
  | _ => cases h

theorem readField_connective {k : Connective} {j : Json}
    (h : Connective.read Source.ofValue j = .ok k) (d : Condition) :
    readField Source.ofValue .connective d j = .ok { d with connective := k } :=
  Part.bind_of_ok h

/-- What is written for a field is read as this field. -/
theorem readField_written {c : Condition} {f : Field} {j : Json} (h : c.written? f = some j)
    (d : Condition) : readField Source.ofValue f d j = .ok (c.take f d) := by
  cases f with
  | subject =>
    obtain rfl := Option.some.inj h
    rfl
  | test =>
    obtain rfl := Option.some.inj h
    rfl
  | comparison =>
    simp only [take, Given.withValueOf_eq_mk h]
    rfl
  | minimum =>
    simp only [take, Given.withValueOf_eq_mk h]
    rfl
  | maximum =>
    simp only [take, Given.withValueOf_eq_mk h]
    rfl
  | comparisonKind =>
    obtain rfl := Option.some.inj h
    exact Part.bind_of_ok c.comparison.kind.read_name
  | minimumKind =>
    obtain rfl := Option.some.inj h
    exact Part.bind_of_ok c.minimum.kind.read_name
  | maximumKind =>
    obtain rfl := Option.some.inj h
    exact Part.bind_of_ok c.maximum.kind.read_name
  | connective =>
    obtain rfl := Option.some.inj h
    exact readField_connective (Connective.read_of_ofMark c.connective.ofMark_name) d
  | groupName =>
    obtain ⟨name, hname, rfl⟩ := Option.map_eq_some_iff.1 h
    simp only [take, hname]
    rfl
  | groupId =>
    replace h : c.groupId = some j := h
    simp only [take, h]
    cases j <;> rfl

theorem readInto_of_readField {f : Field} {c : Condition} {d : Draft} {j : Json}
    (h : readField Source.ofValue f d.condition j = .ok c) :
    readInto Source.ofValue f d j = .ok ⟨c, f :: d.seen⟩ :=
  Part.bind_of_ok h

theorem readMember_key {f : Field} {d : Draft} (h : f ∉ d.seen) :
    readMember Source.ofValue f.key d = .ok (readInto Source.ofValue f d) := by
  unfold readMember
  rw [Field.ofKey?_key]
  simp [h]

/-- Members with distinct fields, none of which has been seen, are taken over one by one. -/
theorem fieldsFrom_keyed {c : Condition} {ms : List (Field × Json)} {d : Draft}
    (hwritten : ∀ m ∈ ms, c.written? m.1 = some m.2) (hnew : ∀ m ∈ ms, m.1 ∉ d.seen)
    (hnodup : (ms.map (·.1)).Nodup) :
    Part.fieldsFrom (readMember Source.ofValue) d (keyed ms) =
      .ok ⟨(ms.map (·.1)).foldl (fun d f => c.take f d) d.condition,
        (ms.map (·.1)).reverse ++ d.seen⟩ := by
  induction ms generalizing d with
  | nil => rfl
  | cons m ms ih =>
    obtain ⟨f, j⟩ := m
    obtain ⟨hf, hwritten⟩ := List.forall_mem_cons.1 hwritten
    obtain ⟨hfnew, hnew⟩ := List.forall_mem_cons.1 hnew
    obtain ⟨hfrest, hnodup⟩ := List.nodup_cons.1 hnodup
    have hread : readInto Source.ofValue f d j = .ok ⟨c.take f d.condition, f :: d.seen⟩ :=
      readInto_of_readField (readField_written hf d.condition)
    have hstep : Part.fieldsFrom (readMember Source.ofValue) d (keyed ((f, j) :: ms)) =
        Part.fieldsFrom (readMember Source.ofValue) ⟨c.take f d.condition, f :: d.seen⟩
          (keyed ms) :=
      Part.fieldsFrom_cons (readMember_key hfnew) hread
    have hnew' : ∀ m ∈ ms, m.1 ∉ f :: d.seen := by
      intro m hm hmem
      rcases List.mem_cons.1 hmem with heq | hmem
      · exact hfrest (List.mem_map.2 ⟨m, hm, heq⟩)
      · exact hnew m hm hmem
    rw [hstep, ih hwritten hnew' hnodup]
    simp

/-- Taking over all fields gives the condition. -/
theorem foldl_take (c : Condition) :
    Field.inKeyOrder.foldl (fun d f => c.take f d) (new "" "") = c.withoutNullId := by
  obtain ⟨subject, test, comparison, minimum, maximum, connective, groupName, groupId⟩ := c
  rcases groupId with _ | j
  · simp [Field.inKeyOrder, take, new, withoutNullId, Given.absent, Given.withValueOf]
  · cases j <;> simp [Field.inKeyOrder, take, new, withoutNullId, Given.absent, Given.withValueOf]

/-- Fields that are not written do not count. -/
theorem foldl_take_members (c d : Condition) (fields : List Field) :
    ((c.members fields).map (·.1)).foldl (fun d f => c.take f d) d =
      fields.foldl (fun d f => c.take f d) d := by
  induction fields generalizing d with
  | nil => rfl
  | cons f fields ih =>
    have ih := ih (c.take f d)
    unfold members at ih ⊢
    rw [List.filterMap_cons, List.foldl_cons]
    rcases hf : c.written? f with _ | j
    · rwa [take_of_written?_eq_none hf] at ih ⊢
    · exact ih

/-- An object is read if its fields are and the variable and the test are among them. -/
theorem ofJson_object {fields : List (String × Json)} {d : Draft}
    (h : Part.fieldsFrom (readMember Source.ofValue) ⟨new "" "", []⟩ fields = .ok d)
    (hsubject : .subject ∈ d.seen) (htest : .test ∈ d.seen) :
    ofJson (.object fields) = .ok d.condition := by
  have hstart : ofJson (.object fields) = _ := Part.bind_of_ok h
  rw [hstart, if_neg (by simpa using hsubject), if_neg (by simpa using htest)]
  rfl

/-- Reading the document of a condition gives the condition, without a group identifier where that
was `null`. -/
theorem ofJson_toJson (c : Condition) : ofJson c.toJson = .ok c.withoutNullId := by
  have hnodup : ((c.members Field.inKeyOrder).map (·.1)).Nodup :=
    (fst_members_sublist c Field.inKeyOrder).nodup (by decide)
  have hrun := fieldsFrom_keyed (d := ⟨new "" "", []⟩) (fun m hm => (mem_members.1 hm).2)
    (fun m hm => List.not_mem_nil) hnodup
  rw [foldl_take_members, foldl_take, List.append_nil] at hrun
  have hseen (f : Field) (j : Json) (hf : f ∈ Field.inKeyOrder) (hj : c.written? f = some j) :
      f ∈ ((c.members Field.inKeyOrder).map (·.1)).reverse := by
    rw [List.mem_reverse]
    exact List.mem_map.2 ⟨(f, j), mem_members.2 ⟨hf, hj⟩, rfl⟩
  rw [toJson_eq_members]
  exact ofJson_object hrun (hseen .subject _ (by decide) rfl) (hseen .test _ (by decide) rfl)

/-! ## The group identifier -/

/-- No field that is read makes the group identifier `null`. -/
theorem groupId_of_readField {f : Field} {c c' : Condition} {j : Json}
    (hc : c.groupId ≠ some .null) (h : readField Source.ofValue f c j = .ok c') :
    c'.groupId ≠ some .null := by
  cases f with
  | groupId =>
    obtain ⟨id, hid, h⟩ := bind_eq_ok_iff.1 h
    obtain rfl := Except.ok.inj h
    rintro rfl
    cases j <;> cases hid
  | _ =>
    obtain ⟨a, -, h⟩ := bind_eq_ok_iff.1 h
    obtain rfl := Except.ok.inj h
    exact hc

theorem groupId_of_readInto {f : Field} {d d' : Draft} {j : Json}
    (hd : d.condition.groupId ≠ some .null) (h : readInto Source.ofValue f d j = .ok d') :
    d'.condition.groupId ≠ some .null := by
  obtain ⟨c, hc, h⟩ := bind_eq_ok_iff.1 h
  obtain rfl := Except.ok.inj h
  exact groupId_of_readField hd hc

theorem groupId_of_ofItems {items : List Json} {c : Condition}
    (h : ofItems Source.ofValue (.array items) = .ok c) : c.groupId ≠ some .null := by
  obtain ⟨⟨d, count⟩, hd, h⟩ := bind_eq_ok_iff.1 h
  have hkept : d.condition.groupId ≠ some .null := by
    refine Part.itemsFrom_preserves (P := fun d => d.condition.groupId ≠ some .null) ?_
      (by simp [new]) hd
    intro i d j d' hd hstep
    unfold readItem at hstep
    rcases hf : Field.all[i]? with _ | f
    · rw [hf] at hstep
      obtain rfl := Except.ok.inj hstep
      exact hd
    · rw [hf] at hstep
      exact groupId_of_readInto hd hstep
  dsimp only at h
  split at h
  · cases h
  · obtain rfl := Except.ok.inj h
    exact hkept

theorem groupId_of_ofMembers {fields : List (String × Json)} {c : Condition}
    (h : ofMembers Source.ofValue (.object fields) = .ok c) : c.groupId ≠ some .null := by
  obtain ⟨d, hd, h⟩ := bind_eq_ok_iff.1 h
  have hkept : d.condition.groupId ≠ some .null := by
    refine Part.fieldsFrom_preserves (P := fun d => d.condition.groupId ≠ some .null) ?_
      (by simp [new]) hd
    intro k d read j d' hd hread hstep
    unfold readMember at hread
    split at hread
    · obtain rfl := Except.ok.inj hread
      obtain rfl := Except.ok.inj hstep
      exact hd
    · split at hread
      · cases hread
      · obtain rfl := Except.ok.inj hread
        exact groupId_of_readInto hd hstep
  dsimp only at h
  split at h
  · cases h
  · split at h
    · cases h
    · obtain rfl := Except.ok.inj h
      exact hkept

/-- A condition that was read has no `null` for a group identifier. -/
theorem groupId_of_ofJson {j : Json} {c : Condition} (h : ofJson j = .ok c) :
    c.groupId ≠ some .null := by
  cases j with
  | array items =>
    obtain ⟨c', hc', h⟩ := bind_eq_ok_iff.1 h
    split at h
    · cases h
    · obtain rfl := Except.ok.inj h
      exact groupId_of_ofItems hc'
  | object fields => exact groupId_of_ofMembers h
  | _ => cases h

end Condition

end Audience
