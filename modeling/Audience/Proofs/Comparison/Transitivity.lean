import Audience.Proofs.Comparison.Membership
import Audience.Proofs.Numbers.Rounding

/-!
# How far the order is transitive

Values are compared pair by pair, numbers as numbers, dates as instants and all else as texts, so
three values need not be compared in one way. If they are, then the order is transitive, but for one
case: a binary64 number may equal two whole numbers of which the first is greater
(`Numeric.Conflated`), which takes one beyond 2 ^ 53.

`Comparison.order_transitive` says so, and of ranges, inside of which nothing is when their bounds
are the wrong way round. `Comparison.order_not_transitive` has three values for every way in which
it fails.
-/

namespace Audience

/-! ## Numbers -/

namespace Numeric

variable {m n p : Numeric}

/-- Two whole numbers, of which the first is greater, both equal the binary64 number between. -/
def Conflated (m n p : Numeric) : Prop :=
  ∃ i k x, m = .integer i ∧ n = .float x ∧ p = .integer k ∧ k < i ∧
    m.order n = .eq ∧ n.order p = .eq

theorem isLE_binary64_order {x y : Binary64} : (x.order y).isLE = true ↔ x.signed ≤ y.signed :=
  Int.isLE_compare

/-- Taken as binary64 numbers, numbers are at least not in the opposite order. -/
theorem signed_le_of_isLE (h : (m.order n).isLE = true) :
    m.toBinary64.signed ≤ n.toBinary64.signed := by
  cases m with
  | integer i =>
    cases n with
    | integer k => exact Binary64.signed_ofInt_mono (Int.isLE_compare.1 h)
    | float y => exact isLE_binary64_order.1 h
  | float x => exact isLE_binary64_order.1 h

/-- Whole numbers with a number between them are in this order, unless that conflates them. -/
theorem isLE_of_integers {i k : Int} (hmn : ((integer i).order n).isLE = true)
    (hnp : (n.order (integer k)).isLE = true) (h : ¬ Conflated (integer i) n (integer k)) :
    i ≤ k := by
  cases n with
  | integer j => exact (Int.isLE_compare.1 hmn).trans (Int.isLE_compare.1 hnp)
  | float x =>
    by_contra hlt
    have hki := Binary64.signed_ofInt_mono (not_le.1 hlt).le
    have hix := signed_le_of_isLE hmn
    have hxk := signed_le_of_isLE hnp
    dsimp only [toBinary64] at hix hxk
    refine h ⟨i, k, x, rfl, rfl, rfl, not_le.1 hlt, ?_, ?_⟩
    · exact Std.compare_eq_iff_eq.2 (le_antisymm hix (hxk.trans hki))
    · exact Std.compare_eq_iff_eq.2 (le_antisymm hxk (hki.trans hix))

theorem order_trans (hmn : (m.order n).isLE = true) (hnp : (n.order p).isLE = true)
    (h : ¬ Conflated m n p) : (m.order p).isLE = true := by
  have hsigned := (signed_le_of_isLE hmn).trans (signed_le_of_isLE hnp)
  cases m with
  | integer i =>
    cases p with
    | integer k => exact Int.isLE_compare.2 (isLE_of_integers hmn hnp h)
    | float z => exact isLE_binary64_order.2 hsigned
  | float x => exact isLE_binary64_order.2 hsigned

theorem order_eq_trans (hmn : m.order n = .eq) (hnp : n.order p = .eq) (h : ¬ Conflated m n p)
    (h' : ¬ Conflated p n m) : m.order p = .eq := by
  have hnm : n.order m = .eq := by rw [order_swap, hmn]; rfl
  have hpn : p.order n = .eq := by rw [order_swap, hnp]; rfl
  have hle : (m.order p).isLE = true := order_trans (hmn ▸ rfl) (hnp ▸ rfl) h
  have hge : (p.order m).isLE = true := order_trans (hpn ▸ rfl) (hnm ▸ rfl) h'
  rw [order_swap, Ordering.isLE_swap] at hge
  exact Ordering.eq_eq_of_isLE_of_isGE hle hge

/-- Whole numbers of at most 53 bits are all told apart by binary64 numbers. -/
theorem Conflated.exists_large (h : Conflated m n p) :
    ∃ i, (m = .integer i ∨ p = .integer i) ∧ 2 ^ 53 < i.natAbs := by
  obtain ⟨i, k, x, rfl, rfl, rfl, hlt, hix, hxk⟩ := h
  by_contra hsmall
  have hi : i.natAbs ≤ 2 ^ 53 := not_lt.1 fun hlt => hsmall ⟨i, .inl rfl, hlt⟩
  have hk : k.natAbs ≤ 2 ^ 53 := not_lt.1 fun hlt => hsmall ⟨k, .inr rfl, hlt⟩
  have hsigned : (Binary64.ofInt i).signed = (Binary64.ofInt k).signed :=
    (Std.compare_eq_iff_eq.1 hix).trans (Std.compare_eq_iff_eq.1 hxk)
  rw [Binary64.signed_ofInt hi, Binary64.signed_ofInt hk] at hsigned
  exact hlt.ne' (Int.eq_of_mul_eq_mul_right (Int.natCast_ne_zero.2 Binary64.scale_pos.ne') hsigned)

end Numeric

/-! ## Values -/

namespace Json

/-- All of three values have a property, or no two of them. -/
def Uniform (property : Json → Prop) (a b c : Json) : Prop :=
  (property a ∧ property b ∧ property c) ∨
    (¬ (property a ∧ property b) ∧ ¬ (property b ∧ property c) ∧ ¬ (property a ∧ property c))

/-- The outer two values are read as whole numbers, of which the first is greater, and the one
between as a binary64 number that equals both. -/
def Conflated (a b c : Json) : Prop :=
  ∃ m n p, Numeric.ofJson? a = some m ∧ Numeric.ofJson? b = some n ∧ Numeric.ofJson? c = some p ∧
    m.Conflated n p

end Json

/-- One of the outer two values is a whole number beyond 2 ^ 53. -/
theorem Json.Conflated.exists_large {a b c : Json} (h : a.Conflated b c) :
    ∃ i, (Numeric.ofJson? a = some (.integer i) ∨ Numeric.ofJson? c = some (.integer i)) ∧
      2 ^ 53 < i.natAbs := by
  obtain ⟨m, n, p, hm, -, hp, hconflated⟩ := h
  obtain ⟨i, hi, hlarge⟩ := Numeric.Conflated.exists_large hconflated
  rcases hi with rfl | rfl
  · exact ⟨i, .inl hm, hlarge⟩
  · exact ⟨i, .inr hp, hlarge⟩

namespace Comparison

open Operator

variable {a b c : Json} {o o' : Ordering}

theorem Compares.trans (hnumeric : Json.Uniform Json.IsNumeric a b c)
    (hinstant : Json.Uniform Json.IsInstant a b c) (hapart : ¬ a.Conflated b c)
    (hab : Compares a b o) (hle : o.isLE = true) (hbc : Compares b c o') (hle' : o'.isLE = true) :
    ∃ o'', Compares a c o'' ∧ o''.isLE = true := by
  rcases hnumeric with ⟨ha, hb, hc⟩ | ⟨hnab, hnbc, hnac⟩
  · obtain ⟨m, hm⟩ := ha.exists_reading
    obtain ⟨n, hn⟩ := hb.exists_reading
    obtain ⟨p, hp⟩ := hc.exists_reading
    rw [hab.unique (.numbers hm hn)] at hle
    rw [hbc.unique (.numbers hn hp)] at hle'
    exact ⟨_, .numbers hm hp, Numeric.order_trans hle hle' fun h => hapart ⟨m, n, p, hm, hn, hp, h⟩⟩
  · obtain ⟨s, t, rfl, rfl⟩ := hab.comparable.resolve_left hnab
    obtain ⟨t', u, ht, rfl⟩ := hbc.comparable.resolve_left hnbc
    obtain rfl := Json.string.inj ht
    rcases hinstant with ⟨⟨hs⟩, ⟨ht⟩, ⟨hu⟩⟩ | ⟨hiab, hibc, hiac⟩
    · rw [hab.unique (.instants hs ht)] at hle
      rw [hbc.unique (.instants ht hu)] at hle'
      exact ⟨_, .instants hs hu, Std.TransCmp.isLE_trans hle hle'⟩
    · rw [hab.unique (.texts hnab hiab)] at hle
      rw [hbc.unique (.texts hnbc hibc)] at hle'
      exact ⟨_, .texts hnac hiac, Std.TransOrd.isLE_trans hle hle'⟩

theorem equal_trans_of_numeric (ha : a.IsNumeric) (hb : b.IsNumeric) (hc : c.IsNumeric)
    (hapart : ¬ a.Conflated b c) (hapart' : ¬ c.Conflated b a) (hab : equal a b = true)
    (hbc : equal b c = true) : equal a c = true := by
  obtain ⟨m, hm⟩ := ha.exists_reading
  obtain ⟨n, hn⟩ := hb.exists_reading
  obtain ⟨p, hp⟩ := hc.exists_reading
  rw [equal_of_readings hm hn, beq_iff_eq] at hab
  rw [equal_of_readings hn hp, beq_iff_eq] at hbc
  rw [equal_of_readings hm hp, beq_iff_eq]
  exact Numeric.order_eq_trans hab hbc (fun h => hapart ⟨m, n, p, hm, hn, hp, h⟩)
    fun h => hapart' ⟨p, n, m, hp, hn, hm, h⟩

/-- The order is transitive on three values of one kind, that is all numeric or no two of them, and
all dates or no two of them, unless one of them conflates the others: from the first to the third,
and from the lower bound of a range with the second inside to the upper one. So is equality of
numeric values. To conflate any values takes a whole number beyond 2 ^ 53. -/
theorem order_transitive (hnumeric : Json.Uniform Json.IsNumeric a b c)
    (hinstant : Json.Uniform Json.IsInstant a b c) (hapart : ¬ a.Conflated b c) :
    (lessThanOrEqual.answer a [b] = .ok true → lessThanOrEqual.answer b [c] = .ok true →
      lessThanOrEqual.answer a [c] = .ok true) ∧
    (range.answer b [a, c] = .ok true → lessThanOrEqual.answer a [c] = .ok true) ∧
    (a.IsNumeric → b.IsNumeric → c.IsNumeric → ¬ c.Conflated b a →
      Operator.equal.answer a [b] = .ok true → Operator.equal.answer b [c] = .ok true →
      Operator.equal.answer a [c] = .ok true) ∧
    ∀ x y z : Json, x.Conflated y z →
      ∃ i, (Numeric.ofJson? x = some (.integer i) ∨ Numeric.ofJson? z = some (.integer i)) ∧
        2 ^ 53 < i.natAbs := by
  refine ⟨fun hab hbc => ?_, fun hrange => ?_, fun ha hb hc hapart' hab hbc => ?_,
    fun _ _ _ => Json.Conflated.exists_large⟩
  · obtain ⟨o, ho, hle⟩ := (answer_eq_ok_iff (by decide)).1 hab
    obtain ⟨o', ho', hle'⟩ := (answer_eq_ok_iff (by decide)).1 hbc
    exact (answer_eq_ok_iff (by decide)).2 (Compares.trans hnumeric hinstant hapart ho hle ho' hle')
  · rw [answer_eq_apply, apply, within_eq_true_iff] at hrange
    obtain ⟨⟨o, ho, hge⟩, o', ho', hle'⟩ := hrange
    have hle : o.swap.isLE = true := by rw [Ordering.isLE_swap, hge]
    exact (answer_eq_ok_iff (by decide)).2
      (Compares.trans hnumeric hinstant hapart ho.swap hle ho' hle')
  · rw [answer_equal, Except.ok.injEq] at hab hbc ⊢
    exact equal_trans_of_numeric ha hb hc hapart hapart' hab hbc

/-- Neighbouring numbers that binary64 tells apart, though it rounds the outer two of them. -/
theorem sample_order_transitive :
    lessThanOrEqual.answer (.ofInt 9007199254740993) [.ofInt 9007199254740995] = .ok true := by
  have hnumeric : Json.Uniform Json.IsNumeric (.ofInt 9007199254740993)
      (.number (.float (.ofInt 9007199254740994))) (.ofInt 9007199254740995) :=
    .inl ⟨.number _, .number _, .number _⟩
  have hinstant : Json.Uniform Json.IsInstant (.ofInt 9007199254740993)
      (.number (.float (.ofInt 9007199254740994))) (.ofInt 9007199254740995) :=
    .inr ⟨nofun, nofun, nofun⟩
  have hapart : ¬ Json.Conflated (.ofInt 9007199254740993)
      (.number (.float (.ofInt 9007199254740994))) (.ofInt 9007199254740995) := by
    rintro ⟨m, n, p, hm, hn, -, _, _, _, -, -, -, -, hmn, -⟩
    obtain rfl := Option.some.inj hm
    obtain rfl := Option.some.inj hn
    revert hmn
    decide +kernel
  exact (order_transitive hnumeric hinstant hapart).1 (answer_of_toOption (by decide +kernel))
    (answer_of_toOption (by decide +kernel))

/-- A text between two numerals, a text between two dates, and a binary64 number between two whole
numbers are each in a range whose bounds are the wrong way round; and the last equals two numbers
that are not equal. -/
theorem order_not_transitive :
    (lessThanOrEqual.answer (.string "10") [.string "1a"] = .ok true ∧
      lessThanOrEqual.answer (.string "1a") [.string "9"] = .ok true ∧
      Operator.range.answer (.string "1a") [.string "10", .string "9"] = .ok true ∧
      lessThanOrEqual.answer (.string "10") [.string "9"] = .ok false) ∧
    (lessThanOrEqual.answer (.string "2024-01-01") [.string "2024-01-01A"] = .ok true ∧
      lessThanOrEqual.answer (.string "2024-01-01A") [.string "2024-01-01T00:00:00+05:00"] =
        .ok true ∧
      lessThanOrEqual.answer (.string "2024-01-01") [.string "2024-01-01T00:00:00+05:00"] =
        .ok false) ∧
    (lessThanOrEqual.answer (.ofInt 9007199254740993)
        [.number (.float (.ofInt 9007199254740992))] = .ok true ∧
      lessThanOrEqual.answer (.number (.float (.ofInt 9007199254740992)))
        [.ofInt 9007199254740992] = .ok true ∧
      lessThanOrEqual.answer (.ofInt 9007199254740993) [.ofInt 9007199254740992] = .ok false ∧
      Operator.equal.answer (.ofInt 9007199254740993)
        [.number (.float (.ofInt 9007199254740992))] = .ok true ∧
      Operator.equal.answer (.number (.float (.ofInt 9007199254740992)))
        [.ofInt 9007199254740992] = .ok true ∧
      Operator.equal.answer (.ofInt 9007199254740993) [.ofInt 9007199254740992] = .ok false) := by
  refine ⟨⟨?_, ?_, ?_, ?_⟩, ⟨?_, ?_, ?_⟩, ?_, ?_, ?_, ?_, ?_, ?_⟩ <;>
    exact answer_of_toOption (by decide +kernel)

end Comparison

end Audience
