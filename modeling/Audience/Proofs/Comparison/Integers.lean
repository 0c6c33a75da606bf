import Audience.Proofs.Comparison.Membership
import Mathlib.Data.Nat.Digits.Defs

/-!
# Whole numbers

A whole number is given as a number or as a text, and a text has many ways to write it: with a sign,
with zeros in front, with white space around it. `Json.Denotes` says which number a value stands for,
by the places of the digits. That number is the reading of the value (`Json.Denotes.reading`), and
readings that are whole numbers are compared as such. So values are compared as the numbers they stand
for, beyond what binary64 numbers can tell apart too, and nothing shows of how these are written
(`Comparison.comparesAs_of_denotes`).
-/

namespace Audience

/-! ## What a value stands for -/

/-- The number that digits make by their places, the last of which is that of the ones. -/
def placeValue (ds : List Char) : Nat :=
  Nat.ofDigits 10 (ds.reverse.map digitValue)

theorem natOfDigits_append_singleton (ds : List Char) (c : Char) :
    natOfDigits (ds ++ [c]) = 10 * natOfDigits ds + digitValue c := by
  rw [natOfDigits, List.foldl_append]
  rfl

theorem natOfDigits_eq_placeValue (ds : List Char) : natOfDigits ds = placeValue ds := by
  induction ds using List.reverseRecOn with
  | nil => rfl
  | append_singleton ds c ih =>
    rw [natOfDigits_append_singleton, ih, placeValue, placeValue, List.reverse_append,
      List.reverse_singleton, List.singleton_append, List.map_cons, Nat.ofDigits_cons, Nat.add_comm]

theorem natOfDigits_zeros_append (zeros : Nat) (ds : List Char) :
    natOfDigits (List.replicate zeros '0' ++ ds) = natOfDigits ds := by
  induction zeros with
  | zero => rfl
  | succ zeros ih => exact ih

/-- A value stands for a whole number: it is that number, or a text that is, without the white space
around it, a sign that may be left out and digits. -/
inductive Json.Denotes : Json → Int → Prop
  | number {i : Int} (hlow : -2 ^ 63 ≤ i) (hhigh : i < 2 ^ 64) : Denotes (.number (.integer i)) i
  | text {s : String} {sign ds : List Char} {negative : Bool} {i : Int}
      (htrim : Text.trimChars s.toList = sign ++ ds) (hsign : WritesSign sign negative)
      (hds : IsDigits ds) (hvalue : i = if negative then -(placeValue ds : Int) else placeValue ds)
      (hlow : -2 ^ 127 ≤ i) (hhigh : i < 2 ^ 127) : Denotes (.string s) i

namespace Json.Denotes

variable {j : Json} {i i' : Int}

/-- A value that stands for a whole number is read as it. -/
theorem reading (h : j.Denotes i) : Numeric.ofJson? j = some (.integer i) := by
  cases h with
  | number => rfl
  | @text s sign ds negative _ htrim hsign hds hvalue hlow hhigh =>
    have hwrites : WritesInteger (Text.trimChars s.toList) i := by
      rw [htrim, hvalue, ← natOfDigits_eq_placeValue]
      exact .mk hsign hds
    change Numeric.ofText? s = _
    unfold Numeric.ofText?
    dsimp only
    rw [integerOfChars?_eq_some_iff.2 ⟨hwrites, hlow, hhigh⟩]

theorem unique (h : j.Denotes i) (h' : j.Denotes i') : i = i' := by
  have heq := h.reading.symm.trans h'.reading
  exact Numeric.integer.inj (Option.some.inj heq)

/-- The digits of a number with zeros in front, a sign and white space around stand for it. -/
theorem padded {lead sign trail : List Char} {negative : Bool} {n : Nat} (zeros : Nat)
    (hlead : ∀ c ∈ lead, Text.isBlank c = true) (hsign : WritesSign sign negative)
    (htrail : ∀ c ∈ trail, Text.isBlank c = true) (hn : n < 2 ^ 127) :
    Denotes (.string (.ofList (lead ++ (sign ++ (List.replicate zeros '0' ++ Nat.toDigits 10 n)) ++
      trail))) (if negative then -(n : Int) else n) := by
  have hdigits : IsDigits (List.replicate zeros '0' ++ Nat.toDigits 10 n) := by
    refine ⟨by simp, fun c hc => ?_⟩
    rcases List.mem_append.1 hc with hc | hc
    · rw [List.eq_of_mem_replicate hc]
      rfl
    · exact isDigit_of_mem_toDigits hc
  have hblank : ∀ c ∈ sign ++ (List.replicate zeros '0' ++ Nat.toDigits 10 n),
      Text.isBlank c = false := by
    intro c hc
    rcases List.mem_append.1 hc with hc | hc
    · cases hsign with
      | absent => cases hc
      | plus => exact List.mem_singleton.1 hc ▸ rfl
      | minus => exact List.mem_singleton.1 hc ▸ rfl
    · exact Text.isBlank_of_isDigit (hdigits.2 c hc)
  have hvalue : placeValue (List.replicate zeros '0' ++ Nat.toDigits 10 n) = n := by
    rw [← natOfDigits_eq_placeValue, natOfDigits_zeros_append, natOfDigits_toDigits]
  refine .text ?_ hsign hdigits (by rw [hvalue]) ?_ ?_
  · rw [String.toList_ofList, Text.trimChars_padded _ hlead htrail, Text.trimChars_eq_self hblank]
  · split <;> omega
  · split <;> omega

end Json.Denotes

/-! ## Comparisons -/

namespace Comparison

open Operator

variable {a b : Json} {m n : Int}

/-- The tests answer for two values as for these numbers: those for equality and order, the one for a
range from the second value to another, and the one for membership in a list. -/
structure ComparesAs (a b : Json) (m n : Int) : Prop where
  equal : Operator.equal.answer a [b] = .ok (decide (m = n))
  greaterThan : Operator.greaterThan.answer a [b] = .ok (decide (m > n))
  greaterThanOrEqual : Operator.greaterThanOrEqual.answer a [b] = .ok (decide (m ≥ n))
  lessThan : Operator.lessThan.answer a [b] = .ok (decide (m < n))
  lessThanOrEqual : Operator.lessThanOrEqual.answer a [b] = .ok (decide (m ≤ n))
  range (high : Json) (h : Int) (hhigh : high.Denotes h) :
    Operator.range.answer a [b, high] = .ok (decide (n ≤ m ∧ m ≤ h))
  isIn (items : List Json) (is : List Int) (hitems : List.Forall₂ Json.Denotes items is) :
    Operator.isIn.answer a [.array items] = .ok (decide (m ∈ is))

theorem compares_of_denotes (ha : a.Denotes m) (hb : b.Denotes n) : Compares a b (compare m n) :=
  .numbers ha.reading hb.reading

theorem equal_of_denotes (ha : a.Denotes m) (hb : b.Denotes n) :
    Comparison.equal a b = decide (m = n) := by
  rw [equal_of_readings ha.reading hb.reading]
  change (compare m n == .eq) = _
  rw [Bool.eq_iff_iff, beq_iff_eq, Std.LawfulEqOrd.compare_eq_iff_eq, decide_eq_true_iff]

theorem any_equal_of_denotes {items : List Json} {is : List Int} (ha : a.Denotes m)
    (hitems : List.Forall₂ Json.Denotes items is) :
    items.any (Comparison.equal a) = decide (m ∈ is) := by
  induction hitems with
  | nil => rfl
  | cons hitem _ ih =>
    rw [List.any_cons, equal_of_denotes ha hitem, ih]
    simp

/-- The tests for order answer for numbers as they are ordered. -/
theorem passes_compare (m n : Int) :
    greaterThan.passes (compare m n) = decide (m > n) ∧
      greaterThanOrEqual.passes (compare m n) = decide (m ≥ n) ∧
      lessThan.passes (compare m n) = decide (m < n) ∧
      lessThanOrEqual.passes (compare m n) = decide (m ≤ n) := by
  rcases h : compare m n with _ | _ | _
  · have hlt : m < n := compare_lt_iff_lt.1 h
    simp [passes, hlt, hlt.le, hlt.not_ge]
  · obtain rfl : m = n := compare_eq_iff_eq.1 h
    simp [passes]
  · have hgt : n < m := compare_gt_iff_gt.1 h
    simp [passes, hgt, hgt.le, hgt.not_ge]

theorem comparesAs_of_denotes (ha : a.Denotes m) (hb : b.Denotes n) : ComparesAs a b m n := by
  have hab : Compares a b (compare m n) := compares_of_denotes ha hb
  obtain ⟨hgt, hge, hlt, hle⟩ := passes_compare m n
  refine ⟨?_, ?_, ?_, ?_, ?_, fun high h hhigh => ?_, fun items is hitems => ?_⟩
  · rw [answer_equal, equal_of_denotes ha hb]
  · rw [answer_of_compares (by decide) hab, hgt]
  · rw [answer_of_compares (by decide) hab, hge]
  · rw [answer_of_compares (by decide) hab, hlt]
  · rw [answer_of_compares (by decide) hab, hle]
  · have hah : Compares a high (compare m h) := compares_of_denotes ha hhigh
    have hlow : (compare m n).isGE = decide (m ≥ n) := hge
    have hhigh : (compare m h).isLE = decide (m ≤ h) := (passes_compare m h).2.2.2
    rw [answer_eq_apply, apply, within_of_compares hab hah, hlow, hhigh]
    simp
  · rw [answer_isIn, any_equal_of_denotes ha hitems]

/-- These differ by one, which binary64 numbers cannot tell, and one of them is written as a text. -/
theorem sample_comparesAs :
    (Json.ofInt 9007199254740993).Denotes 9007199254740993 ∧
      (Json.string " +0009007199254740992 ").Denotes 9007199254740992 ∧
      ComparesAs (.ofInt 9007199254740993) (.string " +0009007199254740992 ")
        9007199254740993 9007199254740992 := by
  have hspelled : " +0009007199254740992 " = String.ofList ([' '] ++ (['+'] ++
      (List.replicate 3 '0' ++ Nat.toDigits 10 9007199254740992)) ++ [' ']) := by decide +kernel
  have hnumber : (Json.ofInt 9007199254740993).Denotes 9007199254740993 :=
    .number (by decide) (by decide)
  have hblank : ∀ c ∈ [' '], Text.isBlank c = true := fun c hc => List.mem_singleton.1 hc ▸ rfl
  have htext : (Json.string " +0009007199254740992 ").Denotes 9007199254740992 := by
    rw [hspelled]
    exact .padded 3 hblank .plus hblank (by decide)
  exact ⟨hnumber, htext, comparesAs_of_denotes hnumber htext⟩

end Comparison

end Audience
