import Audience.Proofs.Comparison.Order
import Audience.Proofs.Kinds
import Audience.Proofs.Malformation

/-!
# Ranges and their bounds

A test for a range has two bounds, and there is a test for each bound alone. Whether a value is in
the range is what these two say together (`Comparison.ByBounds`), but for one case: a value below the
minimum is outside, and is not compared with the maximum any more. So a maximum without an order
with the value goes unnoticed there, while the test for that bound alone refuses it.

The same is true of conditions. `Segment.SplitsRange` puts two conditions, one for each bound, in the
place of a condition for a range, and the outcome is of the same kind unless the value is below the
minimum and has no order with the maximum (`Comparison.byBounds_iff_maximum_compared`).
-/

namespace Audience

open Operator

/-! ## Values -/

namespace Comparison

/-- The tests for a range say what the tests for its bounds say together, the minimum first: a value
is in the range if it passes both, and outside if it is beyond one of them. -/
structure ByBounds (a low high : Json) : Prop where
  range : Operator.range.answer a [low, high] = do
    let atLeast ← greaterThanOrEqual.answer a [low]
    let atMost ← lessThanOrEqual.answer a [high]
    return atLeast && atMost
  notRange : Operator.notRange.answer a [low, high] = do
    let below ← lessThan.answer a [low]
    let above ← greaterThan.answer a [high]
    return below || above

variable {a low high : Json} {o : Ordering} {e : Error}

theorem answer_range : Operator.range.answer a [low, high] = within a low high :=
  answer_eq_apply _ _ _

theorem answer_notRange : Operator.notRange.answer a [low, high] = (within a low high).map not :=
  answer_eq_apply _ _ _

theorem lessThan_iff : lessThan.answer a [low] = .ok true ↔ order a low = .ok .lt := by
  rw [answer_eq_ok_iff (by decide), order_eq_ok_iff]
  constructor
  · rintro ⟨o, ho, hpassed⟩
    rwa [← Ordering.isLT_iff_eq_lt.1 hpassed]
  · exact fun h => ⟨.lt, h, rfl⟩

theorem comparable_iff : a.Comparable high ↔ ∃ o, order a high = .ok o := by
  simp only [order_eq_ok_iff]
  exact ⟨exists_compares, fun ⟨o, ho⟩ => ho.comparable⟩

/-- Nothing has an order with `null`. -/
theorem not_comparable_null (a : Json) : ¬ a.Comparable .null := by
  rintro (⟨-, hnull⟩ | ⟨s, t, -, ht⟩)
  · cases hnull
  · cases ht

theorem within_of_error (h : order a low = .error e) : within a low high = .error e := by
  rw [within, h]
  rfl

/-- A value below the minimum is outside, whatever the maximum is. -/
theorem within_of_below (h : order a low = .ok .lt) : within a low high = .ok false := by
  rw [within, h]
  rfl

/-- Other values are in the range as the maximum says. -/
theorem within_of_not_below (h : order a low = .ok o) (hge : o.isGE = true) :
    within a low high = (order a high).map (·.isLE) := by
  rw [within, h]
  change (if o.isGE then _ else _) = _
  rw [if_pos hge]
  rfl

theorem exists_typeMismatch_of_order (h : order a low = .error e) :
    ∃ expected actual, e = .typeMismatch expected actual := by
  have hapart : ¬ a.Comparable low := fun hcomparable => by
    obtain ⟨o, ho⟩ := exists_compares hcomparable
    cases h.symm.trans ho.order_eq
  obtain ⟨expected, actual, herror⟩ := order_of_not_comparable hapart
  exact ⟨expected, actual, Except.error.inj (h.symm.trans herror)⟩

theorem exists_typeMismatch_of_within (h : within a low high = .error e) :
    ∃ expected actual, e = .typeMismatch expected actual := by
  rcases hlow : order a low with e' | o
  · obtain rfl := Except.error.inj ((within_of_error hlow).symm.trans h)
    exact exists_typeMismatch_of_order hlow
  by_cases hge : o.isGE = true
  · rw [within_of_not_below hlow hge] at h
    rcases hhigh : order a high with e' | o'
    · rw [hhigh] at h
      obtain rfl := Except.error.inj h
      exact exists_typeMismatch_of_order hhigh
    · rw [hhigh] at h
      cases h
  · obtain rfl : o = .lt := Ordering.isGE_eq_false.1 (Bool.eq_false_iff.2 hge)
    cases (within_of_below hlow).symm.trans h

theorem byBounds_of_error (h : order a low = .error e) : ByBounds a low high where
  range := by
    rw [answer_range, within_of_error h, answer_eq_map_order (by decide), h]
    rfl
  notRange := by
    rw [answer_notRange, within_of_error h, answer_eq_map_order (by decide), h]
    rfl

theorem byBounds_of_not_below (h : order a low = .ok o) (hge : o.isGE = true) :
    ByBounds a low high := by
  have hlt : o.isLT = false := by
    cases o <;> first | rfl | cases hge
  constructor
  · rw [answer_range, within_of_not_below h hge, answer_eq_map_order (by decide),
      answer_eq_map_order (by decide), h]
    change _ = (order a high).map _ >>= fun atMost => .ok (o.isGE && atMost)
    rw [hge]
    cases order a high <;> rfl
  · rw [answer_notRange, within_of_not_below h hge, answer_eq_map_order (by decide),
      answer_eq_map_order (by decide), h]
    change _ = (order a high).map _ >>= fun above => .ok (o.isLT || above)
    rw [hlt]
    rcases order a high with e | o'
    · rfl
    · cases o' <;> rfl

theorem byBounds_of_below_iff (h : order a low = .ok .lt) :
    ByBounds a low high ↔ a.Comparable high := by
  rw [comparable_iff]
  constructor
  · intro hby
    have hrange := hby.range
    rw [answer_range, within_of_below h, answer_eq_map_order (by decide),
      answer_eq_map_order (by decide), h] at hrange
    rcases hhigh : order a high with e | o
    · rw [hhigh] at hrange
      cases hrange
    · exact ⟨o, rfl⟩
  · rintro ⟨o, ho⟩
    constructor
    · rw [answer_range, within_of_below h, answer_eq_map_order (by decide),
        answer_eq_map_order (by decide), h, ho]
      rfl
    · rw [answer_notRange, within_of_below h, answer_eq_map_order (by decide),
        answer_eq_map_order (by decide), h, ho]
      rfl

/-- The tests for a range do what those for its bounds do, unless the value is below the minimum and
has no order with the maximum. -/
theorem byBounds_iff :
    ByBounds a low high ↔ (lessThan.answer a [low] = .ok true → a.Comparable high) := by
  rw [lessThan_iff]
  rcases h : order a low with e | o
  · exact iff_of_true (byBounds_of_error h) fun heq => by cases heq
  · by_cases hge : o.isGE = true
    · refine iff_of_true (byBounds_of_not_below h hge) fun heq => ?_
      obtain rfl := Except.ok.inj heq
      cases hge
    · obtain rfl : o = .lt := Ordering.isGE_eq_false.1 (Bool.eq_false_iff.2 hge)
      rw [byBounds_of_below_iff h]
      exact ⟨fun hcomparable _ => hcomparable, fun himp => himp rfl⟩

end Comparison

/-! ## Conditions -/

theorem Operator.standard_normalize {op : Operator} {test : String} (h : ofName? test = some op)
    (a : Json) (operands : List Json) :
    Comparison.standard a (normalize test) operands = op.answer a operands := by
  rw [answer_eq_apply, Comparison.standard, ofName?_normalize, h]

namespace Condition

variable {c c' : Condition} {r : Record} {compare : Comparison}

/-- The condition that asks about the minimum alone. -/
def atLeastMinimum (c : Condition) : Condition :=
  { c with test := greaterThanOrEqual.name, comparison := c.minimum }

/-- The condition that asks about the maximum alone. -/
def atMostMaximum (c : Condition) : Condition :=
  { c with test := lessThanOrEqual.name, comparison := c.maximum }

/-- The value of a condition's variable is below the minimum and has no order with the maximum. -/
def MissesMaximum (r : Record) (c : Condition) : Prop :=
  ∃ a low high, r.get? c.subject = some a ∧ c.minimum.valueIn? r = some low ∧
    c.maximum.valueIn? r = some high ∧ lessThan.answer a [low] = .ok true ∧ ¬ a.Comparable high

theorem slots_of_range (h : ofName? c.test = some .range) : c.slots = [.minimum, .maximum] := by
  have hall : ∀ test ∈ Operator.range.names, slotsOf test = [.minimum, .maximum] := by
    decide +kernel
  rw [slots_eq_slotsOf, hall _ (mem_names_of_ofName? h)]

theorem compared_of_range (h : ofName? c.test = some .range) :
    c.compared = [c.minimum, c.maximum] := by
  rw [compared_eq_map_given, ← slots_eq_slotsOf, slots_of_range h]
  rfl

theorem ofName?_atLeastMinimum (c : Condition) :
    ofName? c.atLeastMinimum.test = some greaterThanOrEqual :=
  ofName?_name greaterThanOrEqual

theorem ofName?_atMostMaximum (c : Condition) :
    ofName? c.atMostMaximum.test = some lessThanOrEqual :=
  ofName?_name lessThanOrEqual

theorem slots_atLeastMinimum (c : Condition) : c.atLeastMinimum.slots = [.comparison] := by
  have hslots : slotsOf greaterThanOrEqual.name = [.comparison] := by decide +kernel
  rw [slots_eq_slotsOf, atLeastMinimum, normalize_name, hslots]

theorem slots_atMostMaximum (c : Condition) : c.atMostMaximum.slots = [.comparison] := by
  have hslots : slotsOf lessThanOrEqual.name = [.comparison] := by decide +kernel
  rw [slots_eq_slotsOf, atMostMaximum, normalize_name, hslots]

/-! ### Results -/

theorem result?_of_range (h : ofName? c.test = some .range) : c.result? .standard r =
    (r.get? c.subject).bind fun a => (c.minimum.valueIn? r).bind fun low =>
      (c.maximum.valueIn? r).bind fun high => (Operator.range.answer a [low, high]).toOption := by
  unfold result?
  simp only [compared_of_range h, standard_normalize h]
  rcases r.get? c.subject with _ | a
  · rfl
  rcases hlow : c.minimum.valueIn? r with _ | low
  · simp [hlow]
  rcases hhigh : c.maximum.valueIn? r with _ | high
  · simp [hlow, hhigh]
  · simp [hlow, hhigh]

theorem result?_of_one {op : Operator} (hop : ofName? c.test = some op)
    (hslots : c.slots = [.comparison]) : c.result? .standard r =
    (r.get? c.subject).bind fun a => (c.comparison.valueIn? r).bind fun b =>
      (op.answer a [b]).toOption := by
  have hcompared : c.compared = [c.comparison] := by
    rw [compared_eq_map_given, ← slots_eq_slotsOf, hslots]
    rfl
  unfold result?
  simp only [hcompared, standard_normalize hop]
  rcases r.get? c.subject with _ | a
  · rfl
  rcases hb : c.comparison.valueIn? r with _ | b
  · simp [hb]
  · simp [hb]

theorem result?_atLeastMinimum : c.atLeastMinimum.result? .standard r =
    (r.get? c.subject).bind fun a => (c.minimum.valueIn? r).bind fun low =>
      (greaterThanOrEqual.answer a [low]).toOption :=
  result?_of_one c.ofName?_atLeastMinimum c.slots_atLeastMinimum

theorem result?_atMostMaximum : c.atMostMaximum.result? .standard r =
    (r.get? c.subject).bind fun a => (c.maximum.valueIn? r).bind fun high =>
      (lessThanOrEqual.answer a [high]).toOption :=
  result?_of_one c.ofName?_atMostMaximum c.slots_atMostMaximum

/-- The results for the bounds make the result for the range, unless the maximum is missed. -/
theorem result?_split (h : ofName? c.test = some .range) (hfine : ¬ c.MissesMaximum r) :
    c.result? .standard r = do
      let atLeast ← c.atLeastMinimum.result? .standard r
      let atMost ← c.atMostMaximum.result? .standard r
      return atLeast && atMost := by
  rw [result?_of_range h, result?_atLeastMinimum, result?_atMostMaximum]
  rcases ha : r.get? c.subject with _ | a
  · rfl
  rcases hlow : c.minimum.valueIn? r with _ | low
  · rfl
  rcases hhigh : c.maximum.valueIn? r with _ | high
  · dsimp only [Option.bind_some]
    rcases (greaterThanOrEqual.answer a [low]).toOption with _ | atLeast <;> rfl
  have hby : Comparison.ByBounds a low high := Comparison.byBounds_iff.2 fun hbelow =>
    by_contra fun hapart => hfine ⟨a, low, high, ha, hlow, hhigh, hbelow, hapart⟩
  dsimp only [Option.bind_some]
  rw [hby.range, toOption_bind]
  rcases greaterThanOrEqual.answer a [low] with e | atLeast
  · rfl
  · rcases lessThanOrEqual.answer a [high] with e | atMost <;> rfl

/-- A maximum that is missed makes the test for it fail, while the value is out of the range. -/
theorem MissesMaximum.results (hmisses : c.MissesMaximum r) (h : ofName? c.test = some .range) :
    c.result? .standard r = some false ∧ c.atMostMaximum.result? .standard r = none := by
  obtain ⟨a, low, high, ha, hlow, hhigh, hbelow, hapart⟩ := hmisses
  rw [result?_of_range h, result?_atMostMaximum, ha, hlow, hhigh]
  dsimp only [Option.bind_some]
  constructor
  · rw [Comparison.answer_range, Comparison.within_of_below (Comparison.lessThan_iff.1 hbelow)]
    rfl
  · have hfails : ∃ e, lessThanOrEqual.answer a [high] = .error e :=
      (answer_fails_iff (by decide)).2 hapart
    obtain ⟨e, he⟩ := hfails
    rw [he]
    rfl

/-! ### Rules -/

theorem not_breaks_test {op : Operator} (h : ofName? c.test = some op) : ¬ c.Breaks .test := by
  intro hempty
  have hnames : ∀ op ∈ Operator.all, "" ∉ op.names := by decide +kernel
  have hmem := mem_names_of_ofName? h
  rw [show normalize c.test = "" from hempty] at hmem
  exact hnames op op.mem_all hmem

theorem malformed_iff_of_and {op : Operator} (h : ofName? c.test = some op)
    (hand : c.connective = .and) :
    c.Malformed ↔ c.Breaks .subject ∨ ∃ slot ∈ c.slots, c.Breaks (.operand slot) := by
  have hgroup : ¬ c.Breaks .group := fun hbreaks => by cases hand.symm.trans hbreaks.1
  have htest : ¬ c.Breaks .test := not_breaks_test h
  constructor
  · rintro ⟨rule, hrule, hbreaks⟩
    cases rule with
    | subject => exact .inl hbreaks
    | test => exact absurd hbreaks htest
    | operand slot => exact .inr ⟨slot, by simpa [rules] using hrule, hbreaks⟩
    | group => exact absurd hbreaks hgroup
  · rintro (hbreaks | ⟨slot, hslot, hbreaks⟩)
    · exact ⟨.subject, by simp [rules], hbreaks⟩
    · exact ⟨.operand slot, by simpa [rules] using hslot, hbreaks⟩

/-- A condition for a range is malformed if one of those for its bounds is. -/
theorem malformed_iff_bounds (h : ofName? c.test = some .range) (hand : c.connective = .and) :
    c.Malformed ↔ c.atLeastMinimum.Malformed ∨ c.atMostMaximum.Malformed := by
  have hleast : c.atLeastMinimum.Malformed ↔ c.Breaks .subject ∨ c.Breaks (.operand .minimum) := by
    rw [malformed_iff_of_and c.ofName?_atLeastMinimum hand, slots_atLeastMinimum]
    simp [Breaks, given, atLeastMinimum]
  have hmost : c.atMostMaximum.Malformed ↔ c.Breaks .subject ∨ c.Breaks (.operand .maximum) := by
    rw [malformed_iff_of_and c.ofName?_atMostMaximum hand, slots_atMostMaximum]
    simp [Breaks, given, atMostMaximum]
  rw [malformed_iff_of_and h hand, slots_of_range h, hleast, hmost]
  simp only [List.mem_cons, List.not_mem_nil, or_false, exists_eq_or_imp, exists_eq_left]
  exact or_or_distrib_left

end Condition

/-! ## Segments -/

namespace Segment

variable {before after cs : List Condition} {c : Condition} {s s' rest : Segment}
  {compare : Comparison} {r : Record}

/-- An `and` condition for a range is in one segment, and those for its bounds are in its place in
the other. -/
structure SplitsRange (before : List Condition) (c : Condition) (after : List Condition)
    (s s' : Segment) : Prop where
  test : ofName? c.test = some .range
  connective : c.connective = .and
  name : s'.name = s.name
  whole : s.conditions = before ++ c :: after
  split : s'.conditions = before ++ c.atLeastMinimum :: c.atMostMaximum :: after

theorem fails_iff_of_mem_iff (hmem : ∀ c, c ∈ s.conditions ↔ c ∈ rest.conditions ∨ c ∈ cs) :
    s.Fails compare r ↔ rest.Fails compare r ∨ ∃ c ∈ cs, c.result? compare r = none := by
  simp only [Fails, hmem, or_and_right, exists_or]

/-- Conditions that are not in groups just have to hold beside the rest. -/
theorem holds_iff_of_mem_iff (hmem : ∀ c, c ∈ s.conditions ↔ c ∈ rest.conditions ∨ c ∈ cs)
    (hand : ∀ c ∈ cs, c.connective = .and) :
    s.Holds compare r ↔ rest.Holds compare r ∧ ∀ c ∈ cs, c.result? compare r = some true := by
  have hgroup : ∀ c name, c.InGroup name → c ∈ s.conditions → c ∈ rest.conditions := by
    intro c name hin hc
    refine ((hmem c).1 hc).resolve_right fun hcs => ?_
    cases (hand c hcs).symm.trans hin.1
  constructor
  · intro hholds
    refine ⟨⟨fun c hc => hholds.every c ((hmem c).2 (.inl hc)), ?_⟩, fun c hc => ?_⟩
    · rintro name ⟨c, hc, hin⟩
      obtain ⟨c', hc', hin', hresult⟩ := hholds.groups name ⟨c, (hmem c).2 (.inl hc), hin⟩
      exact ⟨c', hgroup c' name hin' hc', hin', hresult⟩
    · exact hholds.every c ((hmem c).2 (.inr hc)) (hand c hc)
  · rintro ⟨hrest, hcs⟩
    refine ⟨fun c hc hc_and => ?_, ?_⟩
    · rcases (hmem c).1 hc with hc | hc
      · exact hrest.every c hc hc_and
      · exact hcs c hc
    · rintro name ⟨c, hc, hin⟩
      obtain ⟨c', hc', hin', hresult⟩ := hrest.groups name ⟨c, hgroup c name hin hc, hin⟩
      exact ⟨c', (hmem c').2 (.inl hc'), hin', hresult⟩

namespace SplitsRange

variable {p p' : Predicate}

/-- Both segments are refused or none is. -/
theorem exists_ofSegment_iff (h : SplitsRange before c after s s') :
    (∃ p, Predicate.ofSegment s = .ok p) ↔ ∃ p', Predicate.ofSegment s' = .ok p' := by
  have hok : ∀ s, (∃ p, Predicate.ofSegment s = .ok p) ↔ ¬ ∃ e, Predicate.ofSegment s = .error e := by
    intro s
    cases Predicate.ofSegment s <;> simp
  rw [hok, hok, Predicate.exists_ofSegment_eq_error_iff, Predicate.exists_ofSegment_eq_error_iff,
    h.name, h.whole, h.split]
  simp only [List.mem_append, List.mem_cons, or_and_right, exists_or, exists_eq_left,
    c.malformed_iff_bounds h.test h.connective, or_assoc]

/-- The outcomes are of one kind, unless the maximum is missed and nothing else fails. -/
theorem kind_outcome_eq_iff (h : SplitsRange before c after s s') (hp : s.Prepares p)
    (hp' : s'.Prepares p') :
    (p'.outcome .standard r).kind = (p.outcome .standard r).kind ↔
      ¬ c.MissesMaximum r ∨ ∃ c' ∈ before ++ after, c'.result? .standard r = none := by
  obtain ⟨rest, hrest⟩ : ∃ rest : Segment, rest.conditions = before ++ after :=
    ⟨.new "" (before ++ after), rfl⟩
  have hmem : ∀ c', c' ∈ s.conditions ↔ c' ∈ rest.conditions ∨ c' ∈ [c] := by
    intro c'
    rw [h.whole, hrest]
    simp only [List.mem_append, List.mem_cons, List.not_mem_nil]
    tauto
  have hmem' : ∀ c', c' ∈ s'.conditions ↔
      c' ∈ rest.conditions ∨ c' ∈ [c.atLeastMinimum, c.atMostMaximum] := by
    intro c'
    rw [h.split, hrest]
    simp only [List.mem_append, List.mem_cons, List.not_mem_nil]
    tauto
  have hfails : s.Fails .standard r ↔ rest.Fails .standard r ∨ c.result? .standard r = none := by
    rw [fails_iff_of_mem_iff hmem]
    simp
  have hfails' : s'.Fails .standard r ↔ rest.Fails .standard r ∨
      c.atLeastMinimum.result? .standard r = none ∨ c.atMostMaximum.result? .standard r = none := by
    rw [fails_iff_of_mem_iff hmem']
    simp
  rw [← hrest]
  change _ ↔ _ ∨ rest.Fails .standard r
  by_cases hother : rest.Fails .standard r
  · -- both outcomes are failures, because of another condition
    refine iff_of_true ?_ (.inr hother)
    rw [(Predicate.kind_outcome_eq_failure_iff hp).2 (hfails.2 (.inl hother)),
      (Predicate.kind_outcome_eq_failure_iff hp').2 (hfails'.2 (.inl hother))]
  by_cases hmisses : c.MissesMaximum r
  · obtain ⟨hfalse, hnone⟩ := hmisses.results h.test
    have hfailure : (p'.outcome .standard r).kind = .failure :=
      (Predicate.kind_outcome_eq_failure_iff hp').2 (hfails'.2 (.inr (.inr hnone)))
    refine iff_of_false (fun heq => ?_) fun hor => hor.elim (absurd hmisses) hother
    rw [hfailure] at heq
    have hnone' := (hfails.1 ((Predicate.kind_outcome_eq_failure_iff hp).1 heq.symm)).resolve_left
      hother
    cases hfalse.symm.trans hnone'
  · have hresult := Condition.result?_split h.test hmisses
    refine iff_of_true (Predicate.kind_outcome_congr hp hp' ?_ fun _ => ?_) (.inl hmisses)
    · rw [hfails, hfails', hresult]
      refine or_congr_right ?_
      rcases c.atLeastMinimum.result? .standard r with _ | atLeast
      · simp
      · rcases c.atMostMaximum.result? .standard r with _ | atMost <;> simp
    · have hand : ∀ c' ∈ [c.atLeastMinimum, c.atMostMaximum], c'.connective = .and := by
        simp [Condition.atLeastMinimum, Condition.atMostMaximum, h.connective]
      rw [holds_iff_of_mem_iff hmem (by simp [h.connective]), holds_iff_of_mem_iff hmem' hand]
      refine and_congr_right fun _ => ?_
      simp only [List.forall_mem_cons, hresult]
      rcases c.atLeastMinimum.result? .standard r with _ | atLeast
      · simp
      · rcases c.atMostMaximum.result? .standard r with _ | atMost <;> simp

end SplitsRange

end Segment

namespace Comparison

/-- The tests for a range do what those for its bounds do, and the conditions for the bounds can take
the place of an `and` condition for the range, exactly as far as the maximum is compared. It is not
where the value is below the minimum: then it is out of the range, whatever the maximum is. -/
theorem byBounds_iff_maximum_compared (a low high : Json) :
    (ByBounds a low high ↔ (lessThan.answer a [low] = .ok true → a.Comparable high)) ∧
      (lessThan.answer a [low] = .ok true → Operator.range.answer a [low, high] = .ok false ∧
        Operator.notRange.answer a [low, high] = .ok true) ∧
      (∀ e, Operator.range.answer a [low, high] = .error e →
        ∃ expected actual, e = .typeMismatch expected actual) ∧
      ∀ before c after s s', Segment.SplitsRange before c after s s' →
        ((∃ p, Predicate.ofSegment s = .ok p) ↔ ∃ p', Predicate.ofSegment s' = .ok p') ∧
        ∀ p p', Predicate.ofSegment s = .ok p → Predicate.ofSegment s' = .ok p' → ∀ r,
          ((p'.outcome .standard r).kind = (p.outcome .standard r).kind ↔
            ¬ c.MissesMaximum r ∨ ∃ c' ∈ before ++ after, c'.result? .standard r = none) := by
  refine ⟨byBounds_iff, fun hbelow => ?_,
    fun e he => exists_typeMismatch_of_within (answer_range.symm.trans he),
    fun before c after s s' h => ⟨h.exists_ofSegment_iff, fun p p' hp hp' r => ?_⟩⟩
  · rw [answer_range, answer_notRange, within_of_below (lessThan_iff.1 hbelow)]
    exact ⟨rfl, rfl⟩
  · exact h.kind_outcome_eq_iff (Segment.prepares_of_ofSegment hp) (Segment.prepares_of_ofSegment hp')

/-- A condition for a range of which no value is compared with the maximum. -/
def sampleRange : Condition :=
  (Condition.new "age" "range").between (.ofInt 10) .null

/-- There is no match for the number 5 in a segment of that condition, but the conditions for its
bounds do not tell. -/
theorem sample_maximum_missed : ∃ p p', Predicate.ofSegment (.new "aged" [sampleRange]) = .ok p ∧
    Predicate.ofSegment (.new "aged" [sampleRange.atLeastMinimum, sampleRange.atMostMaximum]) =
      .ok p' ∧
    (p.outcome .standard ⟨.object [("age", .ofInt 5)]⟩).kind = .noMatch ∧
    (p'.outcome .standard ⟨.object [("age", .ofInt 5)]⟩).kind ≠ .noMatch := by
  have hnoMatch : ((Predicate.ofSegment (.new "aged" [sampleRange])).toOption.map fun p =>
      (p.outcome .standard ⟨.object [("age", .ofInt 5)]⟩).kind) = some .noMatch := by
    decide +kernel
  obtain ⟨p, hp, hkind⟩ := Option.map_eq_some_iff.1 hnoMatch
  replace hp := toOption_eq_some_iff.1 hp
  have hsplit : Segment.SplitsRange [] sampleRange [] (.new "aged" [sampleRange])
      (.new "aged" [sampleRange.atLeastMinimum, sampleRange.atMostMaximum]) :=
    ⟨by decide +kernel, rfl, rfl, rfl, rfl⟩
  obtain ⟨hmade, hkinds⟩ := (byBounds_iff_maximum_compared .null .null .null).2.2.2 _ _ _ _ _ hsplit
  obtain ⟨p', hp'⟩ := hmade.1 ⟨p, hp⟩
  refine ⟨p, p', hp, hp', hkind, fun hsame => ?_⟩
  have hbelow : lessThan.answer (.ofInt 5) [.ofInt 10] = .ok true :=
    answer_of_toOption (by decide +kernel)
  have hmisses : sampleRange.MissesMaximum ⟨.object [("age", .ofInt 5)]⟩ :=
    ⟨.ofInt 5, .ofInt 10, .null, rfl, rfl, rfl, hbelow, not_comparable_null _⟩
  rcases (hkinds p p' hp hp' _).1 (hsame.trans hkind.symm) with hfine | ⟨c, hc, -⟩
  · exact hfine hmisses
  · cases hc

/-- The number 5 is out of the range from 10 to `null`, although it cannot be compared with `null`. -/
theorem not_byBounds_null :
    Operator.range.answer (.ofInt 5) [.ofInt 10, .null] = .ok false ∧
      Operator.notRange.answer (.ofInt 5) [.ofInt 10, .null] = .ok true ∧
      lessThanOrEqual.answer (.ofInt 5) [.null] = .error (.typeMismatch "number" "null") ∧
      ¬ ByBounds (.ofInt 5) (.ofInt 10) .null := by
  have hbelow : lessThan.answer (.ofInt 5) [.ofInt 10] = .ok true :=
    answer_of_toOption (by decide +kernel)
  have hapart : ¬ Json.Comparable (.ofInt 5) .null := not_comparable_null _
  refine ⟨?_, ?_, ?_, fun h => hapart (byBounds_iff.1 h hbelow)⟩
  · rw [answer_range, within_of_below (lessThan_iff.1 hbelow)]
  · rw [answer_notRange, within_of_below (lessThan_iff.1 hbelow)]
    rfl
  · rw [answer_eq_map_order (by decide)]
    rfl

end Comparison

end Audience
