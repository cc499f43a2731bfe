import RightSizing.Proofs.Number.Finite

/-!
# Counts of doubles that stand for whole numbers

A whole number beyond 64 signed bits becomes a double before it becomes a count, and loses digits on
the way.  It does not lose its size: the sign stays in the highest bit, so a negative one counts
nothing, and the exponent field of a positive one is at least that of `2 ^ 63`, and so is its count.

* `Binary64.exists_ofRatio`              every quotient is a magnitude up to infinity
* `Binary64.negative_ofDecimal`          a number keeps its sign
* `Binary64.roundToCount_of_negative`    a negative number counts nothing
* `Binary64.le_roundToCount_ofDecimal`   a large one counts at least `2 ^ 63`
-/

namespace RightSizing.Binary64

theorem negative_ofFields (negative : Bool) {magnitude : Nat} (h : magnitude < Nat.pow 2 63) :
    (ofFields negative magnitude).negative = negative := by
  unfold Binary64.negative
  rw [bits_ofFields negative h]
  simp only [Nat.pow_eq] at h ⊢
  cases negative with
  | true => simp
  | false => simpa using h

theorem fractionField_ofFields (negative : Bool) {magnitude : Nat} (h : magnitude < Nat.pow 2 63) :
    (ofFields negative magnitude).fractionField = magnitude % Nat.pow 2 52 := by
  unfold fractionField
  rw [bits_ofFields negative h]
  simp only [Nat.pow_eq]
  split <;> omega

/-- what is too large for a double becomes infinity, which is a magnitude too -/
theorem exists_capped (negative : Bool) (magnitude : Nat) :
    ∃ m ≤ 2047 * Nat.pow 2 52, (if 2047 * Nat.pow 2 52 ≤ magnitude then infinity negative
      else ofFields negative magnitude) = ofFields negative m := by
  by_cases h : 2047 * Nat.pow 2 52 ≤ magnitude
  · rw [if_pos h]
    exact ⟨2047 * Nat.pow 2 52, Nat.le_refl _, rfl⟩
  · rw [if_neg h]
    exact ⟨magnitude, Nat.le_of_not_le h, rfl⟩

theorem exists_ofRatio (negative : Bool) (num den : Nat) :
    ∃ magnitude ≤ 2047 * Nat.pow 2 52, ofRatio negative num den = ofFields negative magnitude := by
  unfold ofRatio
  split
  · exact ⟨0, Nat.zero_le _, rfl⟩
  · exact exists_capped negative _

theorem exists_ofDecimal (negative : Bool) (digits : Nat) (exponent : Int) :
    ∃ magnitude ≤ 2047 * Nat.pow 2 52,
      ofDecimal negative digits exponent = ofFields negative magnitude := by
  unfold ofDecimal
  dsimp only
  split
  · exact ⟨0, Nat.zero_le _, rfl⟩
  · split
    · exact ⟨2047 * Nat.pow 2 52, Nat.le_refl _, rfl⟩
    · split
      · exact exists_ofRatio negative _ _
      · exact exists_ofRatio negative _ _

theorem roundToCount_of_negative {x : Binary64} (h : x.negative = true) : x.roundToCount = 0 := by
  unfold roundToCount
  rw [h, Bool.or_true]
  exact if_pos rfl

theorem negative_ofDecimal (negative : Bool) (digits : Nat) (exponent : Int) :
    (ofDecimal negative digits exponent).negative = negative := by
  obtain ⟨magnitude, hle, h⟩ := exists_ofDecimal negative digits exponent
  have hlt : magnitude < Nat.pow 2 63 := Nat.lt_of_le_of_lt hle (by decide)
  rw [h, negative_ofFields negative hlt]

theorem le_divideToEven (num den : Nat) : num / den ≤ divideToEven num den := by
  unfold divideToEven
  dsimp only
  split
  · omega
  · split <;> omega

/-- from the exponent field of `2 ^ 63` on, infinity included -/
theorem le_roundToCount_ofFields {magnitude : Nat} (hlow : 1086 * Nat.pow 2 52 ≤ magnitude)
    (hhigh : magnitude ≤ 2047 * Nat.pow 2 52) :
    Nat.pow 2 63 ≤ (ofFields false magnitude).roundToCount := by
  have hlt : magnitude < Nat.pow 2 63 := Nat.lt_of_le_of_lt hhigh (by decide)
  have hexponent := exponentField_ofFields false hlt
  have hfraction := fractionField_ofFields false hlt
  have hnegative := negative_ofFields false hlt
  generalize ofFields false magnitude = x at hexponent hfraction hnegative
  simp only [Nat.pow_eq] at *
  have hnan : x.isNaN = false := by
    unfold isNaN
    rw [decide_eq_false_iff_not, hexponent, hfraction]
    omega
  unfold roundToCount
  rw [hnan, hnegative, if_neg (by decide)]
  split
  · decide
  · have hscale : 11 ≤ x.scale := by
      unfold scale
      omega
    have hsignificand : 2 ^ 52 ≤ x.significand := by
      unfold significand
      simp only [Nat.pow_eq]
      split <;> omega
    rw [if_pos (by omega)]
    apply Nat.le_min.mpr
    constructor
    · have hpow : 2 ^ 11 ≤ 2 ^ x.scale.toNat := Nat.pow_le_pow_right (by decide) (by omega)
      calc 2 ^ 63 = 2 ^ 52 * 2 ^ 11 := by decide
        _ ≤ x.significand * 2 ^ x.scale.toNat := Nat.mul_le_mul hsignificand hpow
    · decide

theorem le_roundToCount_capped {magnitude : Nat} (h : 1086 * Nat.pow 2 52 ≤ magnitude) :
    Nat.pow 2 63 ≤ (if 2047 * Nat.pow 2 52 ≤ magnitude then infinity false
      else ofFields false magnitude).roundToCount := by
  by_cases hlarge : 2047 * Nat.pow 2 52 ≤ magnitude
  · rw [if_pos hlarge]
    exact le_roundToCount_ofFields (by decide) (Nat.le_refl _)
  · rw [if_neg hlarge]
    exact le_roundToCount_ofFields h (Nat.le_of_not_le hlarge)

theorem le_roundToCount_ofRatio {n : Nat} (h : Nat.pow 2 63 ≤ n) :
    Nat.pow 2 63 ≤ (ofRatio false n 1).roundToCount := by
  simp only [Nat.pow_eq] at h
  have hn : n ≠ 0 := by omega
  have hlog : 63 ≤ n.log2 := (Nat.le_log2 hn).mpr h
  have hunit : max (floorLog2 n 1 - 52) (-1074) = (n.log2 : Int) - 52 := by
    rw [floorLog2_one hn]
    omega
  -- the quotient has 53 bits, since the highest bit of the number is kept
  have hq : Nat.pow 2 52 ≤ divideToEven n (1 * Nat.pow 2 ((n.log2 : Int) - 52).toNat) := by
    refine Nat.le_trans ?_ (le_divideToEven _ _)
    simp only [Nat.pow_eq]
    rw [Nat.one_mul, Nat.le_div_iff_mul_le (Nat.two_pow_pos _), ← Nat.pow_add]
    have hsplit : 52 + ((n.log2 : Int) - 52).toNat = n.log2 := by omega
    rw [hsplit]
    exact Nat.log2_self_le hn
  unfold ofRatio
  rw [if_neg hn]
  dsimp only
  have hpos : 0 ≤ (n.log2 : Int) - 52 := by omega
  rw [hunit, if_pos hpos, if_neg (Nat.not_lt.mpr hq)]
  generalize divideToEven n _ = q at hq ⊢
  apply le_roundToCount_capped
  simp only [Nat.pow_eq] at hq ⊢
  omega

theorem le_roundToCount_ofDecimal {n : Nat} (h : Nat.pow 2 63 ≤ n) :
    Nat.pow 2 63 ≤ (ofDecimal false n 0).roundToCount := by
  have hn : n ≠ 0 := by
    rintro rfl
    exact absurd h (by decide)
  unfold ofDecimal
  dsimp only
  rw [if_neg (by omega)]
  split
  · exact le_roundToCount_ofFields (by decide) (Nat.le_refl _)
  · show Nat.pow 2 63 ≤ (ofRatio false (n * 1) 1).roundToCount
    rw [Nat.mul_one]
    exact le_roundToCount_ofRatio h

end RightSizing.Binary64
