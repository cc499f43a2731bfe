import RightSizing.Number.Binary64

/-!
# Finite doubles

A word whose lower 63 bits stay below those of infinity is finite, and rounding a whole number of
64 bits never gets that far: its significand has 53 bits and a carry at most, and its exponent is
small.

* `Binary64.bits_ofFields`      the word of a sign and a magnitude
* `Binary64.isFinite_ofFields`  words below infinity
* `Binary64.divideToEven_le`    rounding adds one at most
* `Binary64.isFinite_ofInt`     whole numbers of 64 bits
-/

namespace RightSizing.Binary64

theorem bits_ofFields (negative : Bool) {magnitude : Nat} (h : magnitude < Nat.pow 2 63) :
    (ofFields negative magnitude).bits.toNat =
      (if negative then Nat.pow 2 63 else 0) + magnitude := by
  simp only [Nat.pow_eq] at h ⊢
  show (UInt64.ofNat ((if negative then 2 ^ 63 else 0) + magnitude)).toNat = _
  rw [UInt64.toNat_ofNat']
  apply Nat.mod_eq_of_lt
  split <;> omega

theorem exponentField_ofFields (negative : Bool) {magnitude : Nat} (h : magnitude < Nat.pow 2 63) :
    (ofFields negative magnitude).exponentField = magnitude / Nat.pow 2 52 := by
  unfold exponentField
  rw [bits_ofFields negative h]
  simp only [Nat.pow_eq] at h ⊢
  split <;> omega

theorem isFinite_ofFields (negative : Bool) {magnitude : Nat}
    (h : magnitude < 2047 * Nat.pow 2 52) :
    (ofFields negative magnitude).isFinite = true := by
  have hlt : magnitude < Nat.pow 2 63 := Nat.lt_of_lt_of_le h (by decide)
  unfold isFinite
  rw [exponentField_ofFields negative hlt, decide_eq_true_iff]
  simp only [Nat.pow_eq] at h ⊢
  omega

theorem divideToEven_le (num den : Nat) : divideToEven num den ≤ num / den + 1 := by
  unfold divideToEven
  dsimp only
  have hparity : num / den % 2 < 2 := Nat.mod_lt _ (by decide)
  split
  · omega
  · split <;> omega

/-- the exponent of a whole number is that of its highest bit -/
theorem floorLog2_one {n : Nat} (h : n ≠ 0) : floorLog2 n 1 = n.log2 := by
  have hguess : (n.log2 : Int) - (Nat.log2 1 : Nat) = n.log2 := Int.sub_zero _
  have hfits : 1 * Nat.pow 2 (n.log2 : Int).toNat ≤ n := by
    rw [Nat.one_mul, Int.toNat_natCast]
    exact Nat.log2_self_le h
  unfold floorLog2
  dsimp only
  rw [hguess]
  apply if_pos
  rw [if_pos (Int.natCast_nonneg _)]
  exact hfits

/-- the significand of a whole number has 53 bits, or carries into the next power of two -/
theorem significand_le (n : Nat) :
    (if 0 ≤ (n.log2 : Int) - 52 then divideToEven n (1 * Nat.pow 2 ((n.log2 : Int) - 52).toNat)
      else divideToEven (n * Nat.pow 2 (-((n.log2 : Int) - 52)).toNat) 1) ≤ Nat.pow 2 53 := by
  show _ ≤ 2 ^ 53
  have hlt : n < 2 ^ (n.log2 + 1) := Nat.lt_log2_self
  split
  · have hsplit : n.log2 + 1 = ((n.log2 : Int) - 52).toNat + 53 := by omega
    rw [hsplit, Nat.pow_add] at hlt
    have hquotient : n / (1 * Nat.pow 2 ((n.log2 : Int) - 52).toNat) < 2 ^ 53 := by
      rw [Nat.one_mul]
      exact Nat.div_lt_of_lt_mul hlt
    have hround := divideToEven_le n (1 * Nat.pow 2 ((n.log2 : Int) - 52).toNat)
    omega
  · have hsplit : 53 = n.log2 + 1 + (-((n.log2 : Int) - 52)).toNat := by omega
    have hquotient : n * Nat.pow 2 (-((n.log2 : Int) - 52)).toNat / 1 < 2 ^ 53 := by
      rw [Nat.div_one, hsplit, Nat.pow_add]
      exact Nat.mul_lt_mul_of_pos_right hlt (Nat.two_pow_pos _)
    have hround := divideToEven_le (n * Nat.pow 2 (-((n.log2 : Int) - 52)).toNat) 1
    omega

theorem isFinite_ofRatio_one (negative : Bool) {n : Nat} (h : n < Nat.pow 2 64) :
    (ofRatio negative n 1).isFinite = true := by
  simp only [Nat.pow_eq] at h
  by_cases hn : n = 0
  · rw [ofRatio, if_pos hn]
    exact isFinite_ofFields negative (by decide)
  · have hlog : n.log2 < 64 := (Nat.log2_lt hn).mpr h
    have hunit : max (floorLog2 n 1 - 52) (-1074) = (n.log2 : Int) - 52 := by
      rw [floorLog2_one hn]
      omega
    have hq : _ ≤ 2 ^ 53 := significand_le n
    unfold ofRatio
    rw [if_neg hn]
    dsimp only
    rw [hunit]
    generalize (if 0 ≤ (n.log2 : Int) - 52 then _ else _) = q at hq ⊢
    have hmagnitude : (if q < Nat.pow 2 52 then q else
        ((n.log2 : Int) - 52 + 1074).toNat * Nat.pow 2 52 + q) < 2047 * Nat.pow 2 52 := by
      simp only [Nat.pow_eq]
      split <;> omega
    rw [if_neg (Nat.not_le.mpr hmagnitude)]
    exact isFinite_ofFields negative hmagnitude

theorem isFinite_ofInt {n : Int} (hlow : -(Nat.pow 2 63 : Int) ≤ n)
    (hhigh : n < (Nat.pow 2 64 : Int)) : (ofInt n).isFinite = true := by
  apply isFinite_ofRatio_one
  simp only [Nat.pow_eq] at *
  omega

end RightSizing.Binary64
