import Audience.Proofs.Comparison.Order

/-!
# Tests of dates

The tests for what is before and after read their values as instants from the start, while the tests
for order look for numbers first. On dates there are none to be found, so both kinds of tests answer
alike and from a total order, and a range of dates is what is neither before nor after its bounds
(`Comparison.dates_consistently`).
-/

namespace Audience

/-- Both values write one instant. -/
def Json.SameInstant (a b : Json) : Prop :=
  ∃ s t x, a = .string s ∧ b = .string t ∧ Instant.ofText? s = some x ∧ Instant.ofText? t = some x

namespace Comparison

open Operator

variable {s t : String} {x y : Instant} {a b c : Json}

theorem timeOrder_of_instants (hs : Instant.ofText? s = some x) (ht : Instant.ofText? t = some y) :
    timeOrder (.string s) (.string t) = .ok (x.order y) := by
  have hx : instant (.string s) = .ok x := by rw [instant, hs]
  have hy : instant (.string t) = .ok y := by rw [instant, ht]
  rw [timeOrder, hx, hy]
  rfl

theorem before_of_instants (hs : Instant.ofText? s = some x) (ht : Instant.ofText? t = some y) :
    before.answer (.string s) [.string t] = .ok (x.order y).isLT := by
  rw [answer_eq_apply, apply, timeOrder_of_instants hs ht]
  rfl

theorem after_of_instants (hs : Instant.ofText? s = some x) (ht : Instant.ofText? t = some y) :
    after.answer (.string s) [.string t] = .ok (x.order y).isGT := by
  rw [answer_eq_apply, apply, timeOrder_of_instants hs ht]
  rfl

theorem sameInstant_iff (hs : Instant.ofText? s = some x) (ht : Instant.ofText? t = some y) :
    (Json.string s).SameInstant (.string t) ↔ x.order y = .eq := by
  rw [Instant.order_eq_eq_iff]
  constructor
  · rintro ⟨s', t', z, hs', ht', hx, hy⟩
    cases hs'
    cases ht'
    cases hs.symm.trans hx
    cases ht.symm.trans hy
    rfl
  · rintro rfl
    exact ⟨s, t, x, rfl, rfl, hs, ht⟩

/-- Tests of three values that write instants agree. -/
structure DatesConsistently (a b c : Json) : Prop where
  no_reading : Numeric.ofJson? a = none
  /-- Tests of time answer as those for order do, and one of two instants is before the other, or
  they are the same. -/
  answers : ∃ earlier later : Bool,
    before.answer a [b] = .ok earlier ∧ lessThan.answer a [b] = .ok earlier ∧
      after.answer a [b] = .ok later ∧ greaterThan.answer a [b] = .ok later ∧
      ((earlier = true ∧ later = false ∧ ¬ a.SameInstant b) ∨
        (earlier = false ∧ later = true ∧ ¬ a.SameInstant b) ∨
        (earlier = false ∧ later = false ∧ a.SameInstant b))
  before_trans (hab : before.answer a [b] = .ok true) (hbc : before.answer b [c] = .ok true) :
    before.answer a [c] = .ok true
  range : ∃ inside : Bool, Operator.range.answer a [b, c] = .ok inside ∧
    (inside = true ↔ ¬ before.answer a [b] = .ok true ∧ ¬ after.answer a [c] = .ok true)

theorem dates_consistently (ha : a.IsInstant) (hb : b.IsInstant) (hc : c.IsInstant) :
    DatesConsistently a b c := by
  obtain ⟨hs⟩ := ha
  obtain ⟨ht⟩ := hb
  obtain ⟨hu⟩ := hc
  rename_i s x t y u z
  have hst := Compares.instants hs ht
  have hsu := Compares.instants hs hu
  refine ⟨Instant.reading_eq_none hs, ?_, fun hab hbc => ?_, ?_⟩
  · refine ⟨_, _, before_of_instants hs ht, answer_of_compares (by decide) hst,
      after_of_instants hs ht, answer_of_compares (by decide) hst, ?_⟩
    rw [sameInstant_iff hs ht]
    cases x.order y <;> decide
  · rw [before_of_instants hs ht, Except.ok.injEq, Ordering.isLT_iff_eq_lt] at hab
    rw [before_of_instants ht hu, Except.ok.injEq, Ordering.isLT_iff_eq_lt] at hbc
    rw [before_of_instants hs hu, Std.TransCmp.lt_trans hab hbc]
    rfl
  · refine ⟨(x.order y).isGE && (x.order z).isLE, ?_, ?_⟩
    · rw [answer_eq_apply, apply, within_of_compares hst hsu]
    · rw [before_of_instants hs ht, after_of_instants hs hu, Except.ok.injEq, Except.ok.injEq]
      cases x.order y <;> cases x.order z <;> decide

/-- A leap second, a day with a signed year, and an instant told with an offset from UTC. -/
theorem sample_dates_consistently :
    before.answer (.string "2016-12-31T23:59:60.5Z") [.string "+2017-1-1"] = .ok true ∧
      DatesConsistently (.string "2016-12-31T23:59:60.5Z") (.string "+2017-1-1")
        (.string "2017-01-01 05:30:01+05:30") := by
  have hleap : Instant.ofText? "2016-12-31T23:59:60.5Z" = some ⟨1483228799, 1500000000⟩ := by
    decide +kernel
  have hday : Instant.ofText? "+2017-1-1" = some ⟨1483228800, 0⟩ := by decide +kernel
  have hoffset : Instant.ofText? "2017-01-01 05:30:01+05:30" = some ⟨1483228801, 0⟩ := by
    decide +kernel
  refine ⟨?_, dates_consistently (.text hleap) (.text hday) (.text hoffset)⟩
  rw [before_of_instants hleap hday]
  rfl

end Comparison

end Audience
