import Audience.Number.Binary64
import Mathlib.Algebra.Order.Ring.Nat
import Mathlib.Data.Nat.Log

/-!
# Rounding keeps the order

Rounding to the even neighbour keeps the order of quotients (`roundHalfEven_mono`). The counts of
units that binary64 has lie `spacing` apart, which doubles at every power of two; as a rounded count
never leaves the powers of two around it, `nearestUnits` keeps the order as well, and so does taking
a whole number as a binary64 number (`signed_ofInt_mono`). Different whole numbers may become the
same binary64 number, but only if one of them needs more than 53 bits (`signed_ofInt`).
-/

namespace Audience.Binary64

variable {m n d q : Nat}

/-! ## To the nearest whole number -/

theorem le_roundHalfEven (n d : Nat) : n / d ≤ roundHalfEven n d := by
  unfold roundHalfEven
  dsimp only
  split_ifs <;> omega

theorem roundHalfEven_le (n d : Nat) : roundHalfEven n d ≤ n / d + 1 := by
  unfold roundHalfEven
  dsimp only
  split_ifs <;> omega

theorem roundHalfEven_mono (h : m ≤ n) : roundHalfEven m d ≤ roundHalfEven n d := by
  rcases (Nat.div_le_div_right h : m / d ≤ n / d).lt_or_eq with hlt | heq
  · have hm := roundHalfEven_le m d
    have hn := le_roundHalfEven n d
    omega
  · -- with one quotient, the remainders are in the order of the numbers
    have hmod : m % d ≤ n % d := by
      have hm := Nat.div_add_mod m d
      have hn := Nat.div_add_mod n d
      rw [heq] at hm
      omega
    unfold roundHalfEven
    dsimp only
    rw [heq]
    split_ifs <;> omega

/-- A whole number is its own nearest. -/
theorem roundHalfEven_of_dvd (hd : 0 < d) (h : d ∣ n) : roundHalfEven n d = n / d := by
  have hmod : n % d = 0 := Nat.mod_eq_zero_of_dvd h
  unfold roundHalfEven
  dsimp only
  rw [hmod]
  split_ifs <;> omega

/-! ## To the nearest count of units -/

/-- How far apart counts of at most 53 significant bits are, from `q` to the next power of two. -/
def spacing (q : Nat) : Nat := 2 ^ (q.log2 - 52)

theorem spacing_pos (q : Nat) : 0 < spacing q :=
  Nat.two_pow_pos _

theorem two_pow_eq_mul_spacing {k : Nat} (h : q.log2 ≤ k) :
    2 ^ k = 2 ^ (k - (q.log2 - 52)) * spacing q := by
  rw [spacing, ← Nat.pow_add, Nat.sub_add_cancel ((Nat.sub_le _ _).trans h)]

theorem nearestUnits_eq (n d : Nat) :
    nearestUnits n d = roundHalfEven n (d * spacing (n / d)) * spacing (n / d) := by
  unfold nearestUnits
  dsimp only
  split_ifs with hsmall
  · -- below 2 ^ 53 all counts have few enough bits
    have hspacing : spacing (n / d) = 1 := by
      have hlog : (n / d).log2 ≤ 52 := by
        rcases eq_or_ne (n / d) 0 with hzero | hne
        · simp [hzero]
        · exact Nat.lt_succ_iff.1 ((Nat.log2_lt hne).2 hsmall)
      rw [spacing, Nat.sub_eq_zero_of_le hlog, Nat.pow_zero]
    rw [hspacing, Nat.mul_one, Nat.mul_one]
  · rfl

theorem nearestUnits_le (n d : Nat) : nearestUnits n d ≤ 2 ^ ((n / d).log2 + 1) := by
  have hpow := two_pow_eq_mul_spacing (Nat.le_succ (n / d).log2)
  have hlt : n / d / spacing (n / d) < 2 ^ ((n / d).log2 + 1 - ((n / d).log2 - 52)) := by
    rw [Nat.div_lt_iff_lt_mul (spacing_pos _), ← hpow]
    exact Nat.lt_log2_self
  rw [nearestUnits_eq, hpow]
  refine Nat.mul_le_mul_right _ ((roundHalfEven_le _ _).trans ?_)
  rw [← Nat.div_div_eq_div_mul]
  exact hlt

theorem le_nearestUnits (h : n / d ≠ 0) : 2 ^ (n / d).log2 ≤ nearestUnits n d := by
  have hpow := two_pow_eq_mul_spacing (Nat.le_refl (n / d).log2)
  have hle : 2 ^ ((n / d).log2 - ((n / d).log2 - 52)) ≤ n / d / spacing (n / d) := by
    rw [Nat.le_div_iff_mul_le (spacing_pos _), ← hpow]
    exact Nat.log2_self_le h
  rw [nearestUnits_eq, hpow]
  refine Nat.mul_le_mul_right _ (le_trans ?_ (le_roundHalfEven _ _))
  rw [← Nat.div_div_eq_div_mul]
  exact hle

theorem nearestUnits_mono (h : m ≤ n) : nearestUnits m d ≤ nearestUnits n d := by
  have hlog : (m / d).log2 ≤ (n / d).log2 := by
    rw [Nat.log2_eq_log_two, Nat.log2_eq_log_two]
    exact Nat.log_mono_right (Nat.div_le_div_right h)
  rcases hlog.lt_or_eq with hlt | heq
  · -- a power of two lies between the quotients, and neither is rounded past it
    have hne : n / d ≠ 0 := by
      intro hzero
      rw [hzero, Nat.log2_zero] at hlt
      exact Nat.not_lt_zero _ hlt
    calc nearestUnits m d ≤ 2 ^ ((m / d).log2 + 1) := nearestUnits_le m d
      _ ≤ 2 ^ (n / d).log2 := Nat.pow_le_pow_right (by decide) hlt
      _ ≤ nearestUnits n d := le_nearestUnits hne
  · have hspacing : spacing (m / d) = spacing (n / d) := by rw [spacing, heq, spacing]
    rw [nearestUnits_eq, nearestUnits_eq, hspacing]
    exact Nat.mul_le_mul_right _ (roundHalfEven_mono h)

/-! ## Whole numbers -/

theorem signed_ofInt_natCast (n : Nat) : (ofInt n).signed = nearestUnits (n * scale) 1 := by
  simp [ofInt, signed]

theorem signed_ofInt_neg_natCast (n : Nat) :
    (ofInt (-n)).signed = -(nearestUnits (n * scale) 1 : Int) := by
  rcases Nat.eq_zero_or_pos n with rfl | hpos
  · simp [ofInt, signed, nearestUnits, roundHalfEven]
  · simp [ofInt, signed, hpos]

/-- Taking whole numbers as binary64 numbers keeps their order. -/
theorem signed_ofInt_mono {i k : Int} (h : i ≤ k) : (ofInt i).signed ≤ (ofInt k).signed := by
  have hmono {m n : Nat} (h : m ≤ n) : nearestUnits (m * scale) 1 ≤ nearestUnits (n * scale) 1 :=
    nearestUnits_mono (Nat.mul_le_mul_right _ h)
  obtain ⟨m, rfl | rfl⟩ := i.eq_nat_or_neg <;> obtain ⟨n, rfl | rfl⟩ := k.eq_nat_or_neg
  · rw [signed_ofInt_natCast, signed_ofInt_natCast]
    exact Int.ofNat_le.2 (hmono (by omega))
  · obtain rfl : m = 0 := by omega
    obtain rfl : n = 0 := by omega
    exact le_rfl
  · rw [signed_ofInt_neg_natCast, signed_ofInt_natCast]
    omega
  · rw [signed_ofInt_neg_natCast, signed_ofInt_neg_natCast]
    exact Int.neg_le_neg (Int.ofNat_le.2 (hmono (by omega)))

/-- A whole number of at most 53 bits is a binary64 number in any unit, and so is 2 ^ 53. -/
theorem nearestUnits_mul_two_pow (h : n ≤ 2 ^ 53) (k : Nat) :
    nearestUnits (n * 2 ^ k) 1 = n * 2 ^ k := by
  have hdvd : spacing (n * 2 ^ k) ∣ n * 2 ^ k := by
    rcases h.lt_or_eq with hlt | rfl
    · have hlog : (n * 2 ^ k).log2 - 52 ≤ k := by
        rcases eq_or_ne (n * 2 ^ k) 0 with hzero | hne
        · simp [hzero]
        · have hbits : n * 2 ^ k < 2 ^ (53 + k) := by
            rw [Nat.pow_add]
            exact Nat.mul_lt_mul_of_pos_right hlt (Nat.two_pow_pos _)
          have hlt := (Nat.log2_lt hne).2 hbits
          omega
      exact Nat.dvd_trans (Nat.pow_dvd_pow 2 hlog) (Nat.dvd_mul_left _ _)
    · rw [spacing, ← Nat.pow_add, Nat.log2_two_pow]
      exact Nat.pow_dvd_pow 2 (Nat.sub_le _ _)
  rw [nearestUnits_eq, Nat.div_one, Nat.one_mul, roundHalfEven_of_dvd (spacing_pos _) hdvd,
    Nat.div_mul_cancel hdvd]

theorem exists_scale_eq : ∃ k, scale = Nat.pow 2 k := by
  unfold scale
  exact ⟨_, rfl⟩

theorem scale_pos : 0 < scale := by
  obtain ⟨k, hk⟩ := exists_scale_eq
  rw [hk]
  exact Nat.two_pow_pos k

theorem signed_ofInt {i : Int} (h : i.natAbs ≤ 2 ^ 53) : (ofInt i).signed = i * scale := by
  have hexact : nearestUnits (i.natAbs * scale) 1 = i.natAbs * scale := by
    obtain ⟨k, hk⟩ := exists_scale_eq
    rw [hk, Nat.pow_eq, nearestUnits_mul_two_pow h]
  obtain ⟨n, rfl | rfl⟩ := i.eq_nat_or_neg
  · rw [Int.natAbs_natCast] at hexact
    rw [signed_ofInt_natCast, hexact, Int.natCast_mul]
  · rw [Int.natAbs_neg, Int.natAbs_natCast] at hexact
    rw [signed_ofInt_neg_natCast, hexact, Int.natCast_mul, Int.neg_mul]

end Audience.Binary64
