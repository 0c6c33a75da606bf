import Audience.Comparison.Standard
import Audience.Proofs.Comparison.Dates
import Audience.Proofs.Fallible
import Audience.Proofs.Names

/-!
# The order of values

Two values have an order if both are numeric or both are texts (`Json.Comparable`). `Compares` says
what it is: that of the numbers if both are numeric, that in time if both are dates, and else that
of the texts. As dates are not numeric, there is no choice between these.

The tests for order answer from it together (`answer_of_compares`), so they agree with each other
and with themselves when the values change places (`Comparison.orders_consistently`).
-/

namespace Audience

/-! ## Asking a test by its name -/

/-- What the standard comparison answers for a test, under the test's own name. -/
def Operator.answer (op : Operator) (a : Json) (operands : List Json) : Except Error Bool :=
  Comparison.standard a op.name operands

theorem Operator.answer_eq_apply (op : Operator) (a : Json) (operands : List Json) :
    op.answer a operands = op.apply a operands := by
  rw [answer, Comparison.standard, ofName?_name]

theorem Operator.answer_of_toOption {op : Operator} {a : Json} {operands : List Json}
    {passed : Bool} (h : (op.apply a operands).toOption = some passed) : op.answer a operands = .ok passed := by
  rw [answer_eq_apply, toOption_eq_some_iff.1 h]

/-! ## Which values have an order -/

/-- Texts that write an instant. -/
inductive Json.IsInstant : Json → Prop
  | text {s : String} {x : Instant} (h : Instant.ofText? s = some x) : IsInstant (.string s)

/-- Both values are numeric, or both are texts. -/
def Json.Comparable (a b : Json) : Prop :=
  (a.IsNumeric ∧ b.IsNumeric) ∨ ∃ s t, a = .string s ∧ b = .string t

theorem Json.Comparable.symm {a b : Json} (h : a.Comparable b) : b.Comparable a := by
  rcases h with ⟨ha, hb⟩ | ⟨s, t, ha, hb⟩
  · exact .inl ⟨hb, ha⟩
  · exact .inr ⟨t, s, hb, ha⟩

/-! ## Orders of numbers -/

instance Binary64.transCmp_order : Std.TransCmp Binary64.order :=
  inferInstanceAs (Std.TransCmp (compareOn Binary64.signed))

theorem Binary64.order_swap (x y : Binary64) : x.order y = (y.order x).swap :=
  Std.OrientedCmp.eq_swap

instance Numeric.orientedCmp_order : Std.OrientedCmp Numeric.order where
  eq_swap {m n} := by
    cases m <;> cases n
    case integer.integer i k => exact Std.OrientedOrd.eq_swap
    all_goals exact Binary64.order_swap _ _

theorem Numeric.order_swap (m n : Numeric) : m.order n = (n.order m).swap :=
  Std.OrientedCmp.eq_swap

namespace Comparison

variable {a b : Json} {o : Ordering}

/-- What the order of two values is. -/
inductive Compares : Json → Json → Ordering → Prop
  | numbers {a b : Json} {m n : Numeric} (ha : Numeric.ofJson? a = some m)
      (hb : Numeric.ofJson? b = some n) : Compares a b (m.order n)
  | instants {s t : String} {x y : Instant} (hs : Instant.ofText? s = some x)
      (ht : Instant.ofText? t = some y) : Compares (.string s) (.string t) (x.order y)
  | texts {s t : String} (hnumeric : ¬ ((Json.string s).IsNumeric ∧ (Json.string t).IsNumeric))
      (hinstant : ¬ ((Json.string s).IsInstant ∧ (Json.string t).IsInstant)) :
      Compares (.string s) (.string t) (compare s t)

theorem order_of_not_numeric (h : ¬ (a.IsNumeric ∧ b.IsNumeric)) : order a b = plainOrder a b := by
  unfold order
  split
  · rename_i m n ha hb
    exact absurd ⟨isNumeric_of_reading ha, isNumeric_of_reading hb⟩ h
  · rfl

theorem textOrder_of_not_instants {s t : String}
    (h : ¬ ((Json.string s).IsInstant ∧ (Json.string t).IsInstant)) :
    textOrder s t = compare s t := by
  unfold textOrder
  split
  · rename_i x y hs ht
    exact absurd ⟨.text hs, .text ht⟩ h
  · rfl

theorem Compares.order_eq (h : Compares a b o) : order a b = .ok o := by
  cases h with
  | numbers ha hb => rw [order, ha, hb]
  | instants hs ht =>
    rw [order_of_not_numeric fun h => Instant.not_isNumeric_of_ofText? hs h.1, plainOrder,
      textOrder, hs, ht]
  | texts hnumeric hinstant =>
    rw [order_of_not_numeric hnumeric, plainOrder, textOrder_of_not_instants hinstant]

theorem exists_compares (h : a.Comparable b) : ∃ o, Compares a b o := by
  by_cases hnumeric : a.IsNumeric ∧ b.IsNumeric
  · obtain ⟨m, hm⟩ := hnumeric.1.exists_reading
    obtain ⟨n, hn⟩ := hnumeric.2.exists_reading
    exact ⟨_, .numbers hm hn⟩
  · obtain ⟨s, t, rfl, rfl⟩ := h.resolve_left hnumeric
    by_cases hinstant : (Json.string s).IsInstant ∧ (Json.string t).IsInstant
    · obtain ⟨⟨hs⟩, ⟨ht⟩⟩ := hinstant
      exact ⟨_, .instants hs ht⟩
    · exact ⟨_, .texts hnumeric hinstant⟩

theorem Compares.comparable (h : Compares a b o) : a.Comparable b := by
  cases h with
  | numbers ha hb => exact .inl ⟨isNumeric_of_reading ha, isNumeric_of_reading hb⟩
  | instants hs ht => exact .inr ⟨_, _, rfl, rfl⟩
  | texts hnumeric hinstant => exact .inr ⟨_, _, rfl, rfl⟩

/-- Values without an order are refused for the kind of one of them. -/
theorem order_of_not_comparable (h : ¬ a.Comparable b) :
    ∃ expected actual, order a b = .error (.typeMismatch expected actual) := by
  rw [order_of_not_numeric fun hnumeric => h (.inl hnumeric)]
  unfold plainOrder
  split
  · exact absurd (.inr ⟨_, _, rfl, rfl⟩) h
  all_goals exact ⟨_, _, rfl⟩

theorem order_eq_ok_iff : order a b = .ok o ↔ Compares a b o := by
  refine ⟨fun h => ?_, Compares.order_eq⟩
  by_cases hcomparable : a.Comparable b
  · obtain ⟨o', ho'⟩ := exists_compares hcomparable
    obtain rfl := Except.ok.inj (h.symm.trans ho'.order_eq)
    exact ho'
  · obtain ⟨expected, actual, herror⟩ := order_of_not_comparable hcomparable
    cases h.symm.trans herror

theorem Compares.unique {o' : Ordering} (h : Compares a b o) (h' : Compares a b o') : o = o' :=
  Except.ok.inj (h.order_eq.symm.trans h'.order_eq)

/-- When the values change places, the order is turned around. -/
theorem Compares.swap (h : Compares a b o) : Compares b a o.swap := by
  cases h with
  | numbers ha hb =>
    rw [← Numeric.order_swap]
    exact .numbers hb ha
  | instants hs ht =>
    rw [← Instant.order_swap]
    exact .instants ht hs
  | texts hnumeric hinstant =>
    rw [← Std.OrientedOrd.eq_swap]
    exact .texts (fun h => hnumeric h.symm) fun h => hinstant h.symm

theorem Compares.eq_of_self (h : Compares a a o) : o = .eq := by
  have hswap := h.unique h.swap
  cases o <;> first | rfl | cases hswap

/-- A value is within bounds if it is not below the lower and not above the upper one. -/
theorem within_eq_true_iff {low high : Json} : within a low high = .ok true ↔
    (∃ o, Compares a low o ∧ o.isGE = true) ∧ ∃ o, Compares a high o ∧ o.isLE = true := by
  rw [within, bind_eq_ok_iff]
  constructor
  · rintro ⟨o, hlow, h⟩
    split_ifs at h with hge
    · obtain ⟨o', hhigh, h⟩ := bind_eq_ok_iff.1 h
      exact ⟨⟨o, order_eq_ok_iff.1 hlow, hge⟩, o', order_eq_ok_iff.1 hhigh, Except.ok.inj h⟩
    · cases h
  · rintro ⟨⟨o, hlow, hge⟩, o', hhigh, hle⟩
    refine ⟨o, hlow.order_eq, ?_⟩
    rw [if_pos hge, hhigh.order_eq, ← hle]
    rfl

/-- Bounds that both have an order with the value settle whether it is within them. -/
theorem within_of_compares {low high : Json} {o' : Ordering} (hlow : Compares a low o)
    (hhigh : Compares a high o') : within a low high = .ok (o.isGE && o'.isLE) := by
  rw [within, hlow.order_eq, hhigh.order_eq]
  cases o <;> rfl

end Comparison

/-! ## The tests for order -/

namespace Operator

/-- The tests for order. -/
def orderTests : List Operator :=
  [greaterThan, greaterThanOrEqual, lessThan, lessThanOrEqual]

/-- The orders that pass a test for order. -/
def passes : Operator → Ordering → Bool
  | greaterThan, o => o.isGT
  | greaterThanOrEqual, o => o.isGE
  | lessThan, o => o.isLT
  | lessThanOrEqual, o => o.isLE
  | _, _ => false

variable {op : Operator} {a b : Json} {o : Ordering} {passed : Bool}

theorem answer_eq_map_order (hop : op ∈ orderTests) :
    op.answer a [b] = (Comparison.order a b).map op.passes := by
  rw [answer_eq_apply]
  simp only [orderTests, List.mem_cons, List.not_mem_nil, or_false] at hop
  rcases hop with rfl | rfl | rfl | rfl <;> rfl

theorem answer_of_compares (hop : op ∈ orderTests) (h : Comparison.Compares a b o) :
    op.answer a [b] = .ok (op.passes o) := by
  rw [answer_eq_map_order hop, h.order_eq]
  rfl

theorem answer_eq_ok_iff (hop : op ∈ orderTests) : op.answer a [b] = .ok passed ↔
    ∃ o, Comparison.Compares a b o ∧ op.passes o = passed := by
  rw [answer_eq_map_order hop]
  constructor
  · intro h
    cases horder : Comparison.order a b with
    | error e =>
      rw [horder] at h
      cases h
    | ok o =>
      rw [horder] at h
      exact ⟨o, Comparison.order_eq_ok_iff.1 horder, Except.ok.inj h⟩
  · rintro ⟨o, ho, rfl⟩
    rw [ho.order_eq]
    rfl

theorem answer_fails_iff (hop : op ∈ orderTests) :
    (∃ e, op.answer a [b] = .error e) ↔ ¬ a.Comparable b := by
  constructor
  · rintro ⟨e, he⟩ hcomparable
    obtain ⟨o, ho⟩ := Comparison.exists_compares hcomparable
    cases he.symm.trans (answer_of_compares hop ho)
  · intro h
    obtain ⟨expected, actual, horder⟩ := Comparison.order_of_not_comparable h
    rw [answer_eq_map_order hop, horder]
    exact ⟨_, rfl⟩

/-- Two tests agree on values in the one order and in the other if they do on orders. -/
theorem answer_swap {op' : Operator} (hop : op ∈ orderTests) (hop' : op' ∈ orderTests)
    (h : ∀ o : Ordering, op'.passes o.swap = op.passes o) :
    op.answer a [b] = .ok passed ↔ op'.answer b [a] = .ok passed := by
  rw [answer_eq_ok_iff hop, answer_eq_ok_iff hop']
  constructor
  · rintro ⟨o, ho, hpassed⟩
    exact ⟨o.swap, ho.swap, (h o).trans hpassed⟩
  · rintro ⟨o, ho, hpassed⟩
    refine ⟨o.swap, ho.swap, ?_⟩
    rw [← h, Ordering.swap_swap, hpassed]

end Operator

namespace Comparison

open Operator

/-- The tests for order agree with each other on two values. -/
structure OrdersConsistently (a b : Json) : Prop where
  /-- On values with an order they all answer, those with `OrEqual` the contrary of the others, of
  which only one can pass. -/
  answers (h : a.Comparable b) : ∃ less greater : Bool,
    lessThan.answer a [b] = .ok less ∧ greaterThan.answer a [b] = .ok greater ∧
      greaterThanOrEqual.answer a [b] = .ok (!less) ∧
      lessThanOrEqual.answer a [b] = .ok (!greater) ∧ ¬ (less = true ∧ greater = true)
  /-- All others they refuse, for the kind of a value. -/
  refuses (h : ¬ a.Comparable b) : ∃ expected actual, ∀ op ∈ orderTests,
    op.answer a [b] = .error (.typeMismatch expected actual)
  lessThan_swap (passed : Bool) :
    lessThan.answer a [b] = .ok passed ↔ greaterThan.answer b [a] = .ok passed
  lessThanOrEqual_swap (passed : Bool) :
    lessThanOrEqual.answer a [b] = .ok passed ↔ greaterThanOrEqual.answer b [a] = .ok passed
  fails_swap (op : Operator) (hop : op ∈ orderTests) :
    (∃ e, op.answer a [b] = .error e) ↔ ∃ e, op.answer b [a] = .error e
  reflexive (h : a.IsNumeric ∨ ∃ s, a = .string s) :
    lessThanOrEqual.answer a [a] = .ok true ∧ greaterThanOrEqual.answer a [a] = .ok true

theorem orders_consistently (a b : Json) : OrdersConsistently a b where
  answers h := by
    obtain ⟨o, ho⟩ := exists_compares h
    have hall {op : Operator} (hop : op ∈ orderTests) := answer_of_compares hop ho
    refine ⟨o.isLT, o.isGT, hall (by decide), hall (by decide), ?_, ?_, ?_⟩
    · rw [hall (by decide)]
      cases o <;> rfl
    · rw [hall (by decide)]
      cases o <;> rfl
    · cases o <;> decide
  refuses h := by
    obtain ⟨expected, actual, horder⟩ := order_of_not_comparable h
    refine ⟨expected, actual, fun op hop => ?_⟩
    rw [answer_eq_map_order hop, horder]
    rfl
  lessThan_swap _ := answer_swap (by decide) (by decide) fun _ => Ordering.isGT_swap
  lessThanOrEqual_swap _ := answer_swap (by decide) (by decide) fun _ => Ordering.isGE_swap
  fails_swap op hop := by
    rw [answer_fails_iff hop, answer_fails_iff hop]
    exact not_congr ⟨Json.Comparable.symm, Json.Comparable.symm⟩
  reflexive h := by
    have hself : a.Comparable a := h.imp (fun h => ⟨h, h⟩) fun ⟨s, hs⟩ => ⟨s, s, hs, hs⟩
    obtain ⟨o, ho⟩ := exists_compares hself
    obtain rfl := ho.eq_of_self
    exact ⟨answer_of_compares (by decide) ho, answer_of_compares (by decide) ho⟩

end Comparison

end Audience
