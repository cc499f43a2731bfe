import RightSizing.Proofs.Settings.Keys
import RightSizing.Proofs.Settings.Whole

/-!
# What the loader over a tree of files does

The loader over a tree of files keeps the laws of `Loader.Documented`, whatever the tree and the
formats are: its table is made by `Settings.merge`, and its counts are made of whole numbers and
doubles alone where it matters.
-/

namespace RightSizing

namespace Settings

variable {origin key text : String} {members : Value.Members} {name : String} {held : Held} {n : Int}
  {k : Nat} {d : UInt32}

theorem held?_eq_none_iff :
    held? origin members name = none ↔ Value.find? (merge members) name = none := by
  unfold held?
  exact Option.map_eq_none_iff

theorem find?_merge_of_held? (h : held? origin members name = some held) :
    Value.find? (merge members) name = some held.value := by
  obtain ⟨value, hvalue, rfl⟩ := Option.map_eq_some_iff.mp h
  exact hvalue

theorem signed_of_fits (h : FitsSigned n) : signed n = .integer n := if_pos h

theorem signed_of_not_fits (h : ¬ FitsSigned n) : signed n = .real (.ofInt n) := if_neg h

theorem toCount_of_fits (hfits : FitsSigned n) (hx : held.value = .integer n)
    (h : toCount key held = .ok k) : (k : Int) = n := by
  unfold toCount at h
  simp only [hx, Value.integer, signed_of_fits hfits] at h
  by_cases hsign : 0 ≤ n
  · rw [if_pos hsign] at h
    cases h
    exact Int.toNat_of_nonneg hsign
  · rw [if_neg hsign] at h
    cases h

theorem toCount_of_above (habove : (Nat.pow 2 63 : Int) ≤ n) (hx : held.value = .integer n)
    (h : toCount key held = .ok k) : Nat.pow 2 63 ≤ k := by
  have hfits : ¬ FitsSigned n := fun hfits => absurd hfits.2 (Int.not_lt.mpr habove)
  have hsign : ¬ n < 0 := by
    simp only [Nat.pow_eq] at habove
    omega
  have habs : Nat.pow 2 63 ≤ n.natAbs := by omega
  unfold toCount at h
  simp only [hx, Value.integer, signed_of_not_fits hfits] at h
  cases h
  unfold Binary64.ofInt
  rw [decide_eq_false hsign]
  exact Binary64.le_roundToCount_ofRatio habs

theorem toCount_of_real {x : Binary64} (hx : held.value = .real x)
    (h : toCount key held = .ok k) : k = x.roundToCount := by
  unfold toCount at h
  rw [hx] at h
  cases h
  rfl

theorem toCount_of_object {table : Value.Members} (hx : held.value = .object table) :
    toCount key held ≠ .ok k := by
  intro h
  unfold toCount at h
  rw [hx] at h
  cases h

theorem toNat_of_narrow (h : narrow key k = .ok d) : d.toNat = k := by
  unfold narrow at h
  split at h
  · next hlt =>
    cases h
    exact UInt32.toNat_ofNat_of_lt' hlt
  · cases h

theorem toText_of_string {given : String} (hx : held.value = .string given)
    (h : toText key held = .ok text) : text = given := by
  unfold toText at h
  rw [hx] at h
  cases h
  rfl

theorem toText_of_object {table : Value.Members} (hx : held.value = .object table) :
    toText key held ≠ .ok text := by
  intro h
  unfold toText at h
  rw [hx] at h
  cases h

end Settings

theorem FileTree.loader_documented (tree : FileTree) (formats : List FileFormat) :
    (tree.loader formats).Documented FileFormat.Reads where
  standsFor := FileFormat.Reads.standsFor
  held?_eq_none_iff hplain := by
    rw [← Settings.find?_merge_eq_none_iff hplain]
    exact Settings.held?_eq_none_iff
  mem_written hplain hheld hobject :=
    Settings.mem_written_of_find?_merge hplain (Settings.find?_merge_of_held? hheld) hobject
  toCount_of_fits := Settings.toCount_of_fits
  toCount_of_above := Settings.toCount_of_above
  toCount_of_real := Settings.toCount_of_real
  toCount_of_object := Settings.toCount_of_object
  toNat_of_narrow := Settings.toNat_of_narrow
  toText_of_string := Settings.toText_of_string
  toText_of_object := Settings.toText_of_object

end RightSizing
