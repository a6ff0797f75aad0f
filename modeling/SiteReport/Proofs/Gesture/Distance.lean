import SiteReport.Gesture

/-!
How far a pointer has travelled, in whole numbers, beside what 32 bits tell of it. A distance that
does not fit them looks shorter than it is, and never longer.
-/

namespace SiteReport.Point

variable {a b threshold : Int32} {p origin : Point}

/-- The distance of two coordinates. -/
def apart (a b : Int32) : Nat := (a.toInt - b.toInt).natAbs

/-- Farther from `origin` than the threshold, along one of the axes. -/
def Beyond (p origin : Point) (threshold : Int32) : Prop :=
  threshold.toInt < apart p.x origin.x ∨ threshold.toInt < apart p.y origin.y

instance : Decidable (p.Beyond origin threshold) := inferInstanceAs (Decidable (_ ∨ _))

/-- The least of 32 bits has no positive counterpart. -/
theorem toInt_abs (d : Int32) :
    d.abs.toInt = if d.toInt = -2147483648 then -2147483648 else (d.toInt.natAbs : Int) := by
  have least : d.toBitVec = BitVec.intMin 32 ↔ d.toInt = -2147483648 :=
    (BitVec.toInt_inj (x := d.toBitVec) (y := BitVec.intMin 32)).symm
  have shown : d.abs.toInt = d.toBitVec.abs.toInt := congrArg BitVec.toInt d.toBitVec_abs
  rw [shown, BitVec.toInt_abs_eq_natAbs]
  simp only [least]
  rfl

theorem fits_iff : fits a b = true ↔ apart a b < 2147483648 := decide_eq_true_iff

/-- What the program takes for the distance. -/
theorem toInt_abs_sub_of_fits (short : fits a b = true) : (a - b).abs.toInt = apart a b := by
  have bound : apart a b < 2147483648 := fits_iff.mp short
  unfold apart at bound ⊢
  have whole : (a - b).toInt = a.toInt - b.toInt := by
    rw [Int32.toInt_sub]
    exact Int.bmod_eq_of_le (by omega) (by omega)
  rw [toInt_abs, whole, if_neg (by omega)]

theorem toInt_abs_sub_le (a b : Int32) : (a - b).abs.toInt ≤ apart a b := by
  cases short : fits a b with
  | true => exact Int.le_of_eq (toInt_abs_sub_of_fits short)
  | false =>
      have long : ¬ apart a b < 2147483648 := fun h => Bool.false_ne_true (short ▸ fits_iff.mpr h)
      have bound := (a - b).abs.toInt_lt
      omega

theorem exceeds_iff : p.exceeds origin threshold = true ↔
    threshold.toInt < (p.x - origin.x).abs.toInt ∨
      threshold.toInt < (p.y - origin.y).abs.toInt := by
  simp only [exceeds, Bool.or_eq_true, decide_eq_true_eq, Int32.lt_iff_toInt_lt]

/-- No move is taken for longer than it is. -/
theorem beyond_of_exceeds (far : p.exceeds origin threshold = true) : p.Beyond origin threshold :=
  (exceeds_iff.mp far).imp (fun wide => Int.lt_of_lt_of_le wide (toInt_abs_sub_le _ _))
    fun high => Int.lt_of_lt_of_le high (toInt_abs_sub_le _ _)

/-- Where the distances that are computed fit, the program sees what is beyond the threshold. -/
theorem exceeds_iff_beyond (fitting : p.overflows origin threshold = false) :
    p.exceeds origin threshold = true ↔ p.Beyond origin threshold := by
  refine ⟨beyond_of_exceeds, fun far => ?_⟩
  obtain ⟨across, rest⟩ := Bool.or_eq_false_iff.mp fitting
  rw [Bool.not_eq_false'] at across
  have width := toInt_abs_sub_of_fits across
  by_cases wide : threshold < (p.x - origin.x).abs
  · exact exceeds_iff.mpr (.inl (Int32.lt_iff_toInt_lt.mp wide))
  · rw [decide_eq_false wide, Bool.not_false, Bool.true_and, Bool.not_eq_false'] at rest
    have height := toInt_abs_sub_of_fits rest
    rw [exceeds_iff, width, height]
    exact far

end SiteReport.Point
