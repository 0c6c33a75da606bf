import Audience.Segment
import Mathlib.Data.List.Forall2

/-!
# Equality of what documents say

Values, conditions and segments are compared by `same`, for which the two zeros of binary64 are
equal. Everything equals itself (the `same_refl` lemmas), and values equal each other in either
order (`Json.same_comm`). Where the number -0.0 does not occur, nothing else is equal: this is shown of
values (`Json.eq_of_same`) and of what the tests of a condition compare with
(`Condition.withoutId_eq_of_same`).
-/

namespace Audience

/-! ## Numbers -/

theorem Binary64.same_refl (x : Binary64) : x.same x = true := by
  simp [same]

/-- Only the two zeros are equal without being one number. -/
theorem Binary64.eq_of_same {x y : Binary64} (hx : x ≠ ⟨true, 0⟩) (hy : y ≠ ⟨true, 0⟩)
    (h : x.same y = true) : x = y := by
  obtain ⟨n, u⟩ := x
  obtain ⟨m, w⟩ := y
  have hsigned : signed ⟨n, u⟩ = signed ⟨m, w⟩ := by simpa [same] using h
  cases n <;> cases m <;> simp [signed] at hsigned hx hy ⊢ <;> omega

theorem Number.same_refl (n : Number) : n.same n = true := by
  cases n with
  | integer i => simp [same]
  | float x => exact x.same_refl

theorem Number.same_comm (n m : Number) : n.same m = m.same n := by
  cases n with
  | integer i =>
    cases m with
    | integer k => exact Bool.beq_comm
    | float y => rfl
  | float x =>
    cases m with
    | integer k => rfl
    | float y => exact Bool.beq_comm

theorem Number.eq_of_same {n m : Number} (hn : n ≠ .float ⟨true, 0⟩) (hm : m ≠ .float ⟨true, 0⟩)
    (h : n.same m = true) : n = m := by
  cases n with
  | integer i =>
    cases m with
    | integer k => simpa [same] using h
    | float y => simp [same] at h
  | float x =>
    cases m with
    | integer k => simp [same] at h
    | float y =>
      have hx : x ≠ ⟨true, 0⟩ := fun hx => hn (congrArg _ hx)
      have hy : y ≠ ⟨true, 0⟩ := fun hy => hm (congrArg _ hy)
      rw [Binary64.eq_of_same hx hy h]

/-! ## Values -/

namespace Json

mutual

/-- The number -0.0 occurs nowhere in a value. -/
def NoNegativeZero : Json → Prop
  | .number n => n ≠ .float ⟨true, 0⟩
  | .array items => NoNegativeZeroItems items
  | .object fields => NoNegativeZeroFields fields
  | _ => True

/-- It occurs in none of the items. -/
def NoNegativeZeroItems : List Json → Prop
  | [] => True
  | j :: items => NoNegativeZero j ∧ NoNegativeZeroItems items

/-- It occurs in the value of none of the fields. -/
def NoNegativeZeroFields : List (String × Json) → Prop
  | [] => True
  | (_, j) :: fields => NoNegativeZero j ∧ NoNegativeZeroFields fields

end

mutual

/-- A value equals itself. -/
theorem same_refl : ∀ j : Json, same j j = true
  | .null => rfl
  | .boolean b => by simp [same]
  | .number n => n.same_refl
  | .string s => by simp [same]
  | .array items => sameItems_refl items
  | .object fields => sameFields_refl fields

theorem sameItems_refl : ∀ items : List Json, sameItems items items = true
  | [] => rfl
  | j :: items => by rw [sameItems, same_refl j, sameItems_refl items, Bool.and_self]

theorem sameFields_refl : ∀ fields : List (String × Json), sameFields fields fields = true
  | [] => rfl
  | (k, j) :: fields => by
    rw [sameFields, beq_self_eq_true, same_refl j, sameFields_refl fields, Bool.and_self,
      Bool.and_self]

end

mutual

/-- It does not matter which of two values comes first. -/
theorem same_comm : ∀ a b : Json, same a b = same b a
  | .null, b => by cases b <;> rfl
  | .boolean x, b => by
    cases b with
    | boolean y => exact Bool.beq_comm
    | _ => rfl
  | .number n, b => by
    cases b with
    | number m => exact n.same_comm m
    | _ => rfl
  | .string s, b => by
    cases b with
    | string t => exact Bool.beq_comm
    | _ => rfl
  | .array as, b => by
    cases b with
    | array bs => exact sameItems_comm as bs
    | _ => rfl
  | .object as, b => by
    cases b with
    | object bs => exact sameFields_comm as bs
    | _ => rfl

theorem sameItems_comm : ∀ as bs : List Json, sameItems as bs = sameItems bs as
  | [], bs => by cases bs <;> rfl
  | a :: as, bs => by
    cases bs with
    | nil => rfl
    | cons b bs => rw [sameItems, sameItems, same_comm a b, sameItems_comm as bs]

theorem sameFields_comm : ∀ as bs : List (String × Json), sameFields as bs = sameFields bs as
  | [], bs => by cases bs <;> rfl
  | (k, a) :: as, bs => by
    cases bs with
    | nil => rfl
    | cons p bs =>
      obtain ⟨l, b⟩ := p
      rw [sameFields, sameFields, Bool.beq_comm (a := k), same_comm a b, sameFields_comm as bs]

end

mutual

/-- Values without -0.0 are equal only if they are one value. -/
theorem eq_of_same : ∀ {a b : Json}, NoNegativeZero a → NoNegativeZero b → same a b = true → a = b
  | .null, b, _, _, h => by cases b <;> simp_all [same]
  | .boolean _, b, _, _, h => by cases b <;> simp_all [same]
  | .number n, b, ha, hb, h => by
    cases b with
    | number m =>
      rw [same] at h
      rw [NoNegativeZero] at ha hb
      rw [Number.eq_of_same ha hb h]
    | _ => simp [same] at h
  | .string _, b, _, _, h => by cases b <;> simp_all [same]
  | .array as, b, ha, hb, h => by
    cases b with
    | array bs =>
      rw [same] at h
      rw [eq_of_sameItems ha hb h]
    | _ => simp [same] at h
  | .object as, b, ha, hb, h => by
    cases b with
    | object bs =>
      rw [same] at h
      rw [eq_of_sameFields ha hb h]
    | _ => simp [same] at h

theorem eq_of_sameItems : ∀ {as bs : List Json}, NoNegativeZeroItems as →
    NoNegativeZeroItems bs → sameItems as bs = true → as = bs
  | [], bs, _, _, h => by cases bs <;> simp_all [sameItems]
  | a :: as, bs, ha, hb, h => by
    cases bs with
    | nil => simp [sameItems] at h
    | cons b bs =>
      rw [sameItems, Bool.and_eq_true] at h
      rw [eq_of_same ha.1 hb.1 h.1, eq_of_sameItems ha.2 hb.2 h.2]

theorem eq_of_sameFields : ∀ {as bs : List (String × Json)}, NoNegativeZeroFields as →
    NoNegativeZeroFields bs → sameFields as bs = true → as = bs
  | [], bs, _, _, h => by cases bs <;> simp_all [sameFields]
  | (k, a) :: as, bs, ha, hb, h => by
    cases bs with
    | nil => simp [sameFields] at h
    | cons p bs =>
      obtain ⟨l, b⟩ := p
      rw [sameFields, Bool.and_eq_true, Bool.and_eq_true, beq_iff_eq] at h
      obtain ⟨⟨rfl, hvalue⟩, hrest⟩ := h
      rw [eq_of_same ha.1 hb.1 hvalue, eq_of_sameFields ha.2 hb.2 hrest]

end

theorem sameOption_refl (j : Option Json) : sameOption j j = true := by
  cases j with
  | none => rfl
  | some j => exact same_refl j

end Json

/-! ## Conditions -/

namespace Given

/-- The number -0.0 does not occur in the value. -/
def NoNegativeZero (g : Given) : Prop :=
  ∀ j, g.value = some j → j.NoNegativeZero

theorem same_refl (g : Given) : g.same g = true := by
  simp [same, Json.sameOption_refl]

theorem eq_of_same {g g' : Given} (hg : g.NoNegativeZero) (hg' : g'.NoNegativeZero)
    (h : g.same g' = true) : g = g' := by
  obtain ⟨value, kind⟩ := g
  obtain ⟨value', kind'⟩ := g'
  rw [same, Bool.and_eq_true, beq_iff_eq] at h
  obtain ⟨hvalue, hkind⟩ := h
  change kind = kind' at hkind
  subst hkind
  cases value with
  | none =>
    cases value' with
    | none => rfl
    | some j' => simp [Json.sameOption] at hvalue
  | some j =>
    cases value' with
    | none => simp [Json.sameOption] at hvalue
    | some j' => rw [Json.eq_of_same (hg j rfl) (hg' j' rfl) hvalue]

end Given

namespace Condition

/-- The number -0.0 does not occur in the values given for the test. -/
def NoNegativeZero (c : Condition) : Prop :=
  ∀ slot, (c.given slot).NoNegativeZero

/-- The condition without its group identifier, on which no test depends. -/
def withoutId (c : Condition) : Condition :=
  { c with groupId := none }

theorem same_refl (c : Condition) : c.same c = true := by
  simp [same, Given.same_refl, Json.sameOption_refl]

theorem sameAll_refl (cs : List Condition) : sameAll cs cs = true := by
  induction cs with
  | nil => rfl
  | cons c cs ih => rw [sameAll, same_refl, ih, Bool.and_self]

theorem forall₂_of_sameAll {cs cs' : List Condition} (h : sameAll cs cs' = true) :
    List.Forall₂ (fun c c' => c.same c' = true) cs cs' := by
  induction cs generalizing cs' with
  | nil =>
    cases cs' with
    | nil => exact .nil
    | cons c' cs' => simp [sameAll] at h
  | cons c cs ih =>
    cases cs' with
    | nil => simp [sameAll] at h
    | cons c' cs' =>
      rw [sameAll, Bool.and_eq_true] at h
      exact .cons h.1 (ih h.2)

/-- Conditions without -0.0 that are equal differ in their group identifiers at most. -/
theorem withoutId_eq_of_same {c c' : Condition} (hc : c.NoNegativeZero) (hc' : c'.NoNegativeZero)
    (h : c.same c' = true) : c.withoutId = c'.withoutId := by
  simp only [same, Bool.and_eq_true, beq_iff_eq] at h
  obtain ⟨⟨⟨⟨⟨⟨⟨hsubject, htest⟩, hcmp⟩, hmin⟩, hmax⟩, hconnective⟩, hname⟩, -⟩ := h
  have hcomparison : c.comparison = c'.comparison :=
    Given.eq_of_same (hc .comparison) (hc' .comparison) hcmp
  have hminimum : c.minimum = c'.minimum := Given.eq_of_same (hc .minimum) (hc' .minimum) hmin
  have hmaximum : c.maximum = c'.maximum := Given.eq_of_same (hc .maximum) (hc' .maximum) hmax
  simp [withoutId, hsubject, htest, hcomparison, hminimum, hmaximum, hconnective, hname]

theorem map_withoutId_of_sameAll {cs cs' : List Condition} (hcs : ∀ c ∈ cs, c.NoNegativeZero)
    (hcs' : ∀ c ∈ cs', c.NoNegativeZero) (h : sameAll cs cs' = true) :
    cs.map withoutId = cs'.map withoutId := by
  have hsame := forall₂_of_sameAll h
  clear h
  induction hsame with
  | nil => rfl
  | cons h _ ih =>
    obtain ⟨hc, hcs⟩ := List.forall_mem_cons.1 hcs
    obtain ⟨hc', hcs'⟩ := List.forall_mem_cons.1 hcs'
    rw [List.map_cons, List.map_cons, withoutId_eq_of_same hc hc' h, ih hcs hcs']

end Condition

/-! ## Segments -/

theorem SegmentFields.same_refl (s : SegmentFields) : s.same s = true := by
  simp [same, Condition.sameAll_refl, Json.sameFields_refl]

end Audience
