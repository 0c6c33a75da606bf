import Audience.Proofs.Comparison.Order
import Audience.Proofs.Equality

/-!
# Equality and membership

Equality looks at the numeric readings of two values if both have one, and at the values themselves
if not; either way it is reflexive and symmetric, so it does not matter on which side of a
membership test the list stands. Where two values have an order, those that are equal are neither
below nor above each other, and the other way round, except that two dates may write one instant
without being one text (`equal_of_compares_eq`). All this is `Comparison.equality_laws`.
-/

namespace Audience

namespace Comparison

variable {a b : Json} {o : Ordering}

/-! ## Equality -/

theorem equal_of_readings {m n : Numeric} (ha : Numeric.ofJson? a = some m)
    (hb : Numeric.ofJson? b = some n) : equal a b = (m.order n == .eq) := by
  rw [equal, ha, hb]

theorem equal_of_not_numeric (h : ¬ (a.IsNumeric ∧ b.IsNumeric)) : equal a b = a.same b := by
  unfold equal
  split
  · rename_i m n ha hb
    exact absurd ⟨isNumeric_of_reading ha, isNumeric_of_reading hb⟩ h
  · rfl

theorem equal_self (a : Json) : equal a a = true := by
  by_cases hnumeric : a.IsNumeric
  · obtain ⟨m, hm⟩ := hnumeric.exists_reading
    have hself : m.order m = .eq := Std.ReflCmp.compare_self
    rw [equal_of_readings hm hm, hself]
    rfl
  · rw [equal_of_not_numeric fun h => hnumeric h.1, Json.same_refl]

theorem equal_comm (a b : Json) : equal a b = equal b a := by
  by_cases hnumeric : a.IsNumeric ∧ b.IsNumeric
  · obtain ⟨m, hm⟩ := hnumeric.1.exists_reading
    obtain ⟨n, hn⟩ := hnumeric.2.exists_reading
    rw [equal_of_readings hm hn, equal_of_readings hn hm, Numeric.order_swap]
    cases n.order m <;> rfl
  · rw [equal_of_not_numeric hnumeric, equal_of_not_numeric fun h => hnumeric h.symm,
      Json.same_comm]

/-- Texts that are not both numeric are equal if they are one text. -/
theorem equal_string_iff {s t : String}
    (h : ¬ ((Json.string s).IsNumeric ∧ (Json.string t).IsNumeric)) :
    equal (.string s) (.string t) = true ↔ s = t := by
  rw [equal_of_not_numeric h, Json.same, beq_iff_eq]

/-! ## Equality and order -/

/-- Equal values are in no order but the same place. -/
theorem Compares.eq_of_equal (h : Compares a b o) (hequal : equal a b = true) : o = .eq := by
  by_cases hnumeric : a.IsNumeric ∧ b.IsNumeric
  · obtain ⟨m, hm⟩ := hnumeric.1.exists_reading
    obtain ⟨n, hn⟩ := hnumeric.2.exists_reading
    rw [h.unique (.numbers hm hn)]
    rw [equal_of_readings hm hn] at hequal
    exact eq_of_beq hequal
  · obtain ⟨s, t, rfl, rfl⟩ := h.comparable.resolve_left hnumeric
    obtain rfl := (equal_string_iff hnumeric).1 hequal
    exact h.eq_of_self

/-- Values in the same place are equal, unless they are dates. -/
theorem equal_of_compares_eq (h : Compares a b .eq) :
    equal a b = true ∨ a.IsInstant ∧ b.IsInstant := by
  generalize ho : Ordering.eq = o at h
  cases h with
  | numbers ha hb => exact .inl (by rw [equal_of_readings ha hb, ← ho]; rfl)
  | instants hs ht => exact .inr ⟨.text hs, .text ht⟩
  | texts hnumeric hinstant =>
    exact .inl ((equal_string_iff hnumeric).2 (Std.LawfulEqOrd.eq_of_compare ho.symm))

end Comparison

/-! ## The tests for equality and membership -/

namespace Operator

open Comparison

variable {a b : Json}

theorem answer_equal (a b : Json) : equal.answer a [b] = .ok (Comparison.equal a b) := by
  rw [answer_eq_apply]
  rfl

theorem answer_notEqual (a b : Json) : notEqual.answer a [b] = .ok (!Comparison.equal a b) := by
  rw [answer_eq_apply]
  rfl

theorem answer_isIn (a : Json) (items : List Json) :
    isIn.answer a [.array items] = .ok (items.any (Comparison.equal a)) := by
  rw [answer_eq_apply]
  rfl

theorem answer_includes (a : Json) (items : List Json) :
    includes.answer (.array items) [a] = .ok (items.any (Comparison.equal a)) := by
  have hcomm : (fun item => Comparison.equal item a) = Comparison.equal a :=
    funext fun item => equal_comm item a
  rw [answer_eq_apply, apply, Comparison.includes, hcomm]

theorem answer_notIn (a b : Json) : notIn.answer a [b] = (isIn.answer a [b]).map not := by
  rw [answer_eq_apply, answer_eq_apply]
  rfl

theorem answer_notIncludes (a b : Json) :
    notIncludes.answer a [b] = (includes.answer a [b]).map not := by
  rw [answer_eq_apply, answer_eq_apply]
  rfl

end Operator

/-- One answer is the contrary of another, or both are the same error. -/
def Contrary (x y : Except Error Bool) : Prop :=
  (∀ e, x = .error e ↔ y = .error e) ∧ ∀ passed, x = .ok (!passed) ↔ y = .ok passed

theorem contrary_map_not (x : Except Error Bool) : Contrary (x.map not) x := by
  cases x with
  | error e => simp [Contrary, Except.map]
  | ok passed => cases passed <;> simp [Contrary, Except.map]

namespace Comparison

open Operator

/-- The laws of equality and membership, for two values and a list. -/
structure EqualityLaws (a b : Json) (items : List Json) : Prop where
  answers : ∃ same : Bool, Operator.equal.answer a [b] = .ok same ∧
    Operator.equal.answer b [a] = .ok same ∧ notEqual.answer a [b] = .ok (!same)
  reflexive : Operator.equal.answer a [a] = .ok true
  /-- A value is in a list exactly if the list includes it, which is to say an equal item. -/
  members : ∃ found : Bool, isIn.answer a [.array items] = .ok found ∧
    Operator.includes.answer (.array items) [a] = .ok found ∧
    (found = true ↔ ∃ item ∈ items, Operator.equal.answer item [a] = .ok true) ∧
    (a ∈ items → found = true)
  notIn : Contrary (Operator.notIn.answer a [b]) (isIn.answer a [b])
  notIncludes : Contrary (Operator.notIncludes.answer a [b]) (Operator.includes.answer a [b])
  order_of_equal (h : a.Comparable b) (hequal : Operator.equal.answer a [b] = .ok true) :
    lessThanOrEqual.answer a [b] = .ok true ∧ greaterThanOrEqual.answer a [b] = .ok true
  equal_of_order (hle : lessThanOrEqual.answer a [b] = .ok true)
    (hge : greaterThanOrEqual.answer a [b] = .ok true) :
    Operator.equal.answer a [b] = .ok true ∨ a.IsInstant ∧ b.IsInstant

theorem equality_laws (a b : Json) (items : List Json) : EqualityLaws a b items where
  answers := ⟨_, answer_equal a b, by rw [answer_equal, equal_comm], answer_notEqual a b⟩
  reflexive := by rw [answer_equal, equal_self]
  members := by
    refine ⟨_, answer_isIn a items, answer_includes a items, ?_, fun hmem => ?_⟩
    · simp only [List.any_eq_true, answer_equal, Except.ok.injEq, equal_comm a]
    · exact List.any_eq_true.2 ⟨a, hmem, equal_self a⟩
  notIn := answer_notIn a b ▸ contrary_map_not _
  notIncludes := answer_notIncludes a b ▸ contrary_map_not _
  order_of_equal h hequal := by
    obtain ⟨o, ho⟩ := exists_compares h
    rw [answer_equal, Except.ok.injEq] at hequal
    obtain rfl := ho.eq_of_equal hequal
    exact ⟨answer_of_compares (by decide) ho, answer_of_compares (by decide) ho⟩
  equal_of_order hle hge := by
    obtain ⟨o, ho, hle⟩ := (answer_eq_ok_iff (by decide)).1 hle
    obtain ⟨o', ho', hge⟩ := (answer_eq_ok_iff (by decide)).1 hge
    obtain rfl := ho.unique ho'
    have heq : o = .eq := Ordering.eq_eq_of_isLE_of_isGE hle hge
    rw [answer_equal, Except.ok.injEq]
    exact equal_of_compares_eq (heq ▸ ho)

end Comparison

end Audience
