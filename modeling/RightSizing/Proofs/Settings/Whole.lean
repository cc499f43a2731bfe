import Mathlib.Data.List.TakeDrop
import Mathlib.Data.List.TakeWhile
import RightSizing.Proofs.Number.Count
import RightSizing.Proofs.Settings.Documented
import RightSizing.Settings.FileTree

/-!
# Whole numbers in settings files

A whole number is written with digits, but not every format keeps it: what 64 bits do not hold
becomes a double in JSON and in YAML, and in YAML nothing at all if a tag says that it is a whole
number.

* `FileFormat.Reads`              what a whole number of a file is read as
* `Json.number?_numeral`, `Yaml.value?_numeral`   the readers on the digits of a number
* `FileFormat.Reads.standsFor`    the number stands for what it is read as
-/

namespace RightSizing

/-- the digits of a number, behind a minus sign if it is negative -/
def numeral (negative : Bool) (digits : List Char) : List Char :=
  if negative then '-' :: digits else digits

/-- the number of a sign and a magnitude -/
def signedNat (negative : Bool) (m : Nat) : Int := if negative then -(m : Int) else m

/-- what a whole number of a file is read as: itself, in whatever notation, or what JSON and YAML make
of its decimal digits -/
inductive FileFormat.Reads : Int → Value → Prop where
  | itself {n : Int} (h : -(Nat.pow 2 63) ≤ n) : Reads n (.integer n)
  | json {negative : Bool} {digits : List Char} {number : Number} (hne : digits ≠ [])
    (hdigits : ∀ c ∈ digits, c.isDigit = true)
    (h : Json.number? (numeral negative digits) = some (number, [])) :
    Reads (signedNat negative (ofDigits digits)) (.number number)
  | yaml {negative : Bool} {digits : List Char} {tag : Option (String × String)} {x : Value}
    (hne : digits ≠ []) (hdigits : ∀ c ∈ digits, c.isDigit = true)
    (htag : tag = none ∨ tag = some (Yaml.Reading.kindAddress, "int"))
    (h : (Yaml.Reading.scalarNode true tag (String.ofList (numeral negative digits))).value? =
      some x) :
    Reads (signedNat negative (ofDigits digits)) x

section
variable {c : Char} {digits : List Char}

theorem ne_of_isDigit {c' : Char} (h : c.isDigit = true) (h' : c'.isDigit = false) : c ≠ c' := by
  rintro rfl
  rw [h] at h'
  cases h'

theorem span_isDigit (h : ∀ c ∈ digits, c.isDigit = true) :
    digits.span Char.isDigit = (digits, []) := by
  rw [List.span_eq_takeWhile_dropWhile, List.takeWhile_eq_self_iff.mpr h,
    List.dropWhile_eq_nil_iff.mpr h]

theorem hexValue?_of_isDigit (h : c.isDigit = true) : Json.hexValue? c = some (digitValue c) :=
  if_pos h

theorem digitValue_lt (h : c.isDigit = true) : digitValue c < 10 := by
  unfold digitValue
  rw [Char.isDigit_iff_toNat] at h
  have hzero : '0'.toNat = 48 := rfl
  have hnine : '9'.toNat = 57 := rfl
  omega

theorem foldl_hexValue (h : ∀ c ∈ digits, c.isDigit = true) (n : Nat) :
    digits.foldl (fun n c => 10 * n + (Json.hexValue? c).getD 0) n =
      digits.foldl (fun n c => 10 * n + digitValue c) n := by
  induction digits generalizing n with
  | nil => rfl
  | cons c digits ih =>
    rw [List.forall_mem_cons] at h
    rw [List.foldl_cons, List.foldl_cons, hexValue?_of_isDigit h.1, Option.getD_some]
    exact ih h.2 _

end

/-! ## The digits of a number in JSON -/

namespace Json

variable {negative : Bool} {digits : List Char}

theorem number?_numeral_eq (hdigits : ∀ c ∈ digits, c.isDigit = true) :
    number? (numeral negative digits) = unsigned? negative digits := by
  cases negative with
  | true => rfl
  | false =>
    show number? digits = unsigned? false digits
    unfold number?
    split
    · exact absurd (hdigits '-' List.mem_cons_self) (by decide)
    · rfl

theorem whole?_append {whole rest : List Char} (hdigits : ∀ c ∈ digits, c.isDigit = true)
    (h : whole? digits = some (whole, rest)) : whole ++ rest = digits := by
  unfold whole? at h
  split at h
  · cases h
    rfl
  · rw [readDigits, span_isDigit hdigits] at h
    split at h
    · cases h
    · next heq =>
      cases heq
      cases h
      exact List.append_nil _

theorem fraction?_of_digits (hdigits : ∀ c ∈ digits, c.isDigit = true) :
    fraction? digits = some ([], digits) := by
  unfold fraction?
  split
  · exact absurd (hdigits '.' List.mem_cons_self) (by decide)
  · rfl

theorem exponent?_of_digits (hdigits : ∀ c ∈ digits, c.isDigit = true) :
    exponent? digits = some (none, digits) := by
  cases digits with
  | nil => rfl
  | cons c digits =>
    have hc := hdigits c List.mem_cons_self
    have hsmall : c ≠ 'e' := ne_of_isDigit hc rfl
    have hcapital : c ≠ 'E' := ne_of_isDigit hc rfl
    unfold exponent?
    split <;> simp_all

theorem finite?_eq_some {n n' : Number} (h : finite? n = some n') : n' = n := by
  cases n with
  | integer m =>
    cases h
    rfl
  | real x =>
    rw [finite?] at h
    split at h
    · cases h
      rfl
    · cases h

/-- a number that is all digits has neither point nor exponent -/
theorem number?_numeral {number : Number} (hdigits : ∀ c ∈ digits, c.isDigit = true)
    (h : number? (numeral negative digits) = some (number, [])) :
    number = wholeNumber negative (ofDigits digits) := by
  rw [number?_numeral_eq hdigits] at h
  unfold unsigned? at h
  simp only [Option.bind_eq_bind, Option.bind_eq_some_iff] at h
  obtain ⟨⟨whole, rest⟩, hwhole, ⟨behind, rest'⟩, hfraction, ⟨power, rest''⟩, hexponent, n, hfinite,
    h⟩ := h
  have hsplit := whole?_append hdigits hwhole
  have hrest : ∀ c ∈ rest, c.isDigit = true := by
    intro c hc
    apply hdigits
    rw [← hsplit]
    exact List.mem_append_right _ hc
  dsimp only at hfraction hexponent hfinite h
  rw [fraction?_of_digits hrest] at hfraction
  cases hfraction
  rw [exponent?_of_digits hrest] at hexponent
  cases hexponent
  cases h
  rw [List.append_nil] at hsplit
  rw [finite?_eq_some hfinite, hsplit]
  rfl

end Json

/-! ## The digits of a number in YAML -/

namespace Yaml

variable {negative : Bool} {digits : List Char}

/-- a text that starts with neither a minus sign nor a digit -/
theorem ofList_numeral_ne (hne : digits ≠ []) (hdigits : ∀ c ∈ digits, c.isDigit = true)
    {text : String} (h : text.toList.head?.any (fun c => c ≠ '-' && !c.isDigit) = true) :
    String.ofList (numeral negative digits) ≠ text := by
  rintro rfl
  rw [String.toList_ofList] at h
  cases negative with
  | true => cases h
  | false =>
    cases digits with
    | nil => exact hne rfl
    | cons c digits =>
      have hc := hdigits c List.mem_cons_self
      change (decide (c ≠ '-') && !c.isDigit) = true at h
      rw [hc, Bool.not_true, Bool.and_false] at h
      cases h

theorem splitSign_numeral (hdigits : ∀ c ∈ digits, c.isDigit = true) :
    splitSign (numeral negative digits) = (negative, digits) := by
  cases negative with
  | true => rfl
  | false =>
    show splitSign digits = (false, digits)
    unfold splitSign
    split
    · exact absurd (hdigits '-' List.mem_cons_self) (by decide)
    · exact absurd (hdigits '+' List.mem_cons_self) (by decide)
    · rfl

namespace Scalar

theorem inBase?_numeral (hne : digits ≠ []) (hdigits : ∀ c ∈ digits, c.isDigit = true) :
    inBase? 10 (numeral negative digits) =
      if FitsSigned (signedNat negative (ofDigits digits)) then
        some (signedNat negative (ofDigits digits))
      else none := by
  have hall : digits.all (fun c => (Json.hexValue? c).any (· < 10)) = true := by
    rw [List.all_eq_true]
    intro c hc
    rw [hexValue?_of_isDigit (hdigits c hc), Option.any_some]
    exact decide_eq_true (digitValue_lt (hdigits c hc))
  have hempty : digits.isEmpty = false := by
    rw [List.isEmpty_eq_false_iff]
    exact hne
  unfold inBase?
  rw [splitSign_numeral hdigits]
  dsimp only
  rw [hempty, hall, foldl_hexValue hdigits, if_neg (by decide)]
  show (if negative then _ else _) = _
  unfold ofDigits
  generalize digits.foldl (fun n c => 10 * n + digitValue c) 0 = m
  unfold FitsSigned signedNat
  simp only [Nat.pow_eq]
  cases negative with
  | true =>
    simp only [if_true]
    split <;> split <;> first | rfl | omega
  | false =>
    simp only [Bool.false_eq_true, if_false]
    split <;> split <;> first | rfl | omega

/-- no letter stands behind the first digit, so the base is ten -/
theorem integer?_numeral (hdigits : ∀ c ∈ digits, c.isDigit = true) :
    integer? (numeral negative digits) = inBase? 10 (numeral negative digits) := by
  cases negative with
  | true => rfl
  | false =>
    show integer? digits = inBase? 10 digits
    unfold integer?
    split
    · exact absurd (hdigits 'x' (by simp)) (by decide)
    · exact absurd (hdigits 'o' (by simp)) (by decide)
    · exact absurd (hdigits '+' (by simp)) (by decide)
    · rfl

theorem toLower_of_isDigit {c : Char} (h : c.isDigit = true) : c.toLower = c := by
  rw [Char.isDigit_iff_toNat] at h
  have hnine : '9'.toNat = 57 := rfl
  unfold Char.toLower
  apply dif_neg
  rintro ⟨hcapital, -⟩
  have hge : 65 ≤ c.toNat := UInt32.le_iff_toNat_le.mp hcapital
  omega

theorem double?_numeral (hne : digits ≠ []) (hdigits : ∀ c ∈ digits, c.isDigit = true) :
    double? (numeral negative digits) = some (.ofDecimal negative (ofDigits digits) 0) := by
  have hlower : digits.map Char.toLower = digits := by
    rw [List.map_congr_left fun c hc => toLower_of_isDigit (hdigits c hc)]
    exact List.map_id' digits
  -- the digits are no name of a number
  have hname : ∀ text : String, text.toList.head?.any (fun c => c ≠ '-' && !c.isDigit) = true →
      String.ofList digits ≠ text := fun _ h => @ofList_numeral_ne false digits hne hdigits _ h
  have hinf := hname "inf" (by decide)
  have hinfinity := hname "infinity" (by decide)
  have hnan := hname "nan" (by decide)
  have hempty : digits.isEmpty = false := by
    rw [List.isEmpty_eq_false_iff]
    exact hne
  unfold double?
  rw [splitSign_numeral hdigits]
  dsimp only
  rw [hlower, if_neg (not_or.mpr ⟨hinf, hinfinity⟩), if_neg hnan, readDigits, span_isDigit hdigits]
  dsimp only
  rw [hempty, List.append_nil]
  rfl

end Scalar

theorem ofPlain_numeral (hne : digits ≠ []) (hdigits : ∀ c ∈ digits, c.isDigit = true) :
    (Scalar.ofPlain (String.ofList (numeral negative digits))).value? =
      if FitsSigned (signedNat negative (ofDigits digits)) then
        some (.integer (signedNat negative (ofDigits digits)))
      else some (.real (.ofDecimal negative (ofDigits digits) 0)) := by
  have hword : ∀ text : String, text.toList.head?.any (fun c => c ≠ '-' && !c.isDigit) = true →
      String.ofList (numeral negative digits) ≠ text := fun _ h => ofList_numeral_ne hne hdigits h
  have htilde := hword "~" (by decide)
  have hnull := hword "null" (by decide)
  have htrue := hword "true" (by decide)
  have hfalse := hword "false" (by decide)
  have hreal : Scalar.isReal (String.ofList (numeral negative digits)) = true := by
    unfold Scalar.isReal
    rw [String.toList_ofList, Scalar.double?_numeral hne hdigits, Option.isSome_some, Bool.or_true]
  unfold Scalar.ofPlain
  rw [if_neg (not_or.mpr ⟨htilde, hnull⟩), if_neg htrue, if_neg hfalse, String.toList_ofList,
    Scalar.integer?_numeral hdigits, Scalar.inBase?_numeral hne hdigits]
  by_cases hfits : FitsSigned (signedNat negative (ofDigits digits))
  · rw [if_pos hfits, if_pos hfits]
    rfl
  · rw [if_neg hfits, if_neg hfits]
    dsimp only
    rw [if_pos hreal]
    show (Scalar.double? (String.ofList (numeral negative digits)).toList).map Value.real = _
    rw [String.toList_ofList, Scalar.double?_numeral hne hdigits]
    rfl

/-- what is tagged as an integer and is none that 64 bits hold means nothing -/
theorem ofKind?_numeral (hne : digits ≠ []) (hdigits : ∀ c ∈ digits, c.isDigit = true) :
    Scalar.ofKind? "int" (String.ofList (numeral negative digits)) =
      if FitsSigned (signedNat negative (ofDigits digits)) then
        some (.integer (signedNat negative (ofDigits digits)))
      else none := by
  show (Scalar.inBase? 10 (String.ofList (numeral negative digits)).toList).map Scalar.integer = _
  rw [String.toList_ofList, Scalar.inBase?_numeral hne hdigits]
  split <;> rfl

theorem value?_numeral {tag : Option (String × String)} {x : Value} (hne : digits ≠ [])
    (hdigits : ∀ c ∈ digits, c.isDigit = true)
    (htag : tag = none ∨ tag = some (Reading.kindAddress, "int"))
    (h : (Reading.scalarNode true tag (String.ofList (numeral negative digits))).value? = some x) :
    (x = .integer (signedNat negative (ofDigits digits)) ∧
        FitsSigned (signedNat negative (ofDigits digits))) ∨
      (¬ FitsSigned (signedNat negative (ofDigits digits)) ∧
        (x = .real (.ofDecimal negative (ofDigits digits) 0) ∨ x = .null)) := by
  rcases htag with rfl | rfl
  · change (Scalar.ofPlain (String.ofList (numeral negative digits))).value? = some x at h
    rw [ofPlain_numeral hne hdigits] at h
    split at h
    · next hfits =>
      cases h
      exact .inl ⟨rfl, hfits⟩
    · next hfits =>
      cases h
      exact .inr ⟨hfits, .inl rfl⟩
  · unfold Reading.scalarNode at h
    dsimp only at h
    rw [if_pos rfl, ofKind?_numeral hne hdigits] at h
    by_cases hfits : FitsSigned (signedNat negative (ofDigits digits))
    · rw [if_pos hfits] at h
      cases h
      exact .inl ⟨rfl, hfits⟩
    · rw [if_neg hfits] at h
      cases h
      exact .inr ⟨hfits, .inr rfl⟩

end Yaml

/-! ## What a whole number is read as -/

/-- a sign and a magnitude that 64 bits do not hold together -/
theorem Value.standsFor_double {negative : Bool} {m : Nat}
    (h : ¬ FitsSigned (signedNat negative m)) :
    (Value.real (.ofDecimal negative m 0)).StandsFor (signedNat negative m) := by
  cases negative with
  | true =>
    have hbelow : -(m : Int) < -(Nat.pow 2 63) := by
      rcases below_or_above h with hbelow | habove
      · exact hbelow
      · change (Nat.pow 2 63 : Int) ≤ -(m : Int) at habove
        simp only [Nat.pow_eq] at habove
        omega
    exact .below hbelow (Binary64.negative_ofDecimal true m 0)
  | false =>
    have habove : Nat.pow 2 63 ≤ m := by
      rcases below_or_above h with hbelow | habove
      · change (m : Int) < -(Nat.pow 2 63) at hbelow
        omega
      · exact Int.ofNat_le.mp habove
    exact .above (Int.ofNat_le.mpr habove) (Binary64.le_roundToCount_ofDecimal habove)

theorem Json.wholeNumber_standsFor (negative : Bool) (m : Nat) :
    (Value.number (wholeNumber negative m)).StandsFor (signedNat negative m) := by
  unfold wholeNumber
  cases negative with
  | true =>
    rw [if_pos rfl]
    by_cases hheld : 0 < m ∧ m ≤ Nat.pow 2 63
    · rw [if_pos hheld]
      have hle : (m : Int) ≤ Nat.pow 2 63 := Int.ofNat_le.mpr hheld.2
      exact .itself (Int.neg_le_neg hle)
    · rw [if_neg hheld]
      by_cases hzero : m = 0
      · rw [hzero]
        exact .minusZero rfl
      · apply Value.standsFor_double
        unfold FitsSigned signedNat
        simp only [if_true, Nat.pow_eq] at *
        omega
  | false =>
    rw [if_neg (by decide)]
    by_cases hheld : m < Nat.pow 2 64
    · rw [if_pos hheld]
      have hle : -(Nat.pow 2 63 : Int) ≤ (m : Int) := by omega
      exact .itself hle
    · rw [if_neg hheld]
      apply Value.standsFor_double
      unfold FitsSigned signedNat
      simp only [Bool.false_eq_true, if_false, Nat.pow_eq] at *
      omega

theorem FileFormat.Reads.standsFor {n : Int} {x : Value} (h : Reads n x) : x.StandsFor n := by
  cases h with
  | itself h => exact .itself h
  | json hne hdigits h =>
    rw [Json.number?_numeral hdigits h]
    exact Json.wholeNumber_standsFor _ _
  | yaml hne hdigits htag h =>
    rcases Yaml.value?_numeral hne hdigits htag h with ⟨rfl, hfits⟩ | ⟨hfits, rfl | rfl⟩
    · exact .itself hfits.1
    · exact Value.standsFor_double hfits
    · exact .nothing hfits

end RightSizing
