import SiteReport.Photo.Id
import Mathlib.Algebra.Group.Nat.Defs
import Mathlib.Data.List.Basic

/-!
The text of a photo's identifier reads back as the identifier. So different photos have different
texts, which a store that keeps rows by text relies on.
-/

namespace SiteReport

namespace Text.Hex

theorem value?_digit {n : Nat} (h : n < 16) : value? (digit n) = some n := by
  have sixteen : ∀ n < 16, value? (digit n) = some n := by decide
  exact sixteen n h

@[simp] theorem length_fixed (width n : Nat) : (fixed width n).length = width := by
  induction width generalizing n with
  | zero => rfl
  | succ width ih => simp [fixed, ih]

theorem read?_append (cs ds : List Char) (begun : Nat) :
    read? (cs ++ ds) begun = (read? cs begun).bind (read? ds) := by
  induction cs generalizing begun with
  | nil => rfl
  | cons c rest ih =>
      simp only [List.cons_append, read?]
      cases value? c with
      | none => rfl
      | some v => exact ih _

theorem read?_fixed {width n : Nat} (h : n < 16 ^ width) (begun : Nat) :
    read? (fixed width n) begun = some (begun * 16 ^ width + n) := by
  induction width generalizing n with
  | zero =>
      have : n = 0 := by simpa using h
      simp [fixed, read?, this]
  | succ width ih =>
      have fits : n / 16 < 16 ^ width := by
        rw [Nat.div_lt_iff_lt_mul (by decide)]
        rwa [Nat.pow_succ] at h
      rw [fixed, read?_append, ih fits]
      have last := value?_digit (Nat.mod_lt n (by decide : 0 < 16))
      have parts := Nat.div_add_mod n 16
      simp only [Option.bind_eq_bind, Option.bind_some, read?, last, Option.some.injEq,
        Nat.add_mul, Nat.pow_succ, Nat.mul_assoc]
      omega

end Text.Hex

namespace PhotoId

theorem ofDigits?_fixed (i : PhotoId) : ofDigits? (Text.Hex.fixed 32 i.number) = some i := by
  have fits : i.number < 16 ^ 32 := i.number_lt
  have length : (Text.Hex.fixed 32 i.number).length = 32 := Text.Hex.length_fixed 32 i.number
  have whole : of? i.number = some i := dif_pos i.number_lt
  rw [ofDigits?, if_pos length, Text.Hex.read?_fixed fits, Option.bind_some, Nat.zero_mul,
    Nat.zero_add, whole]

/-- The five groups of digits make up the digits. -/
theorem groups_append (ds : List Char) :
    ds.take 8 ++ ((ds.drop 8).take 4 ++ ((ds.drop 12).take 4 ++ ((ds.drop 16).take 4
      ++ ds.drop 20))) = ds := by
  have join (n : Nat) : (ds.drop n).take 4 ++ ds.drop (n + 4) = ds.drop n := by
    rw [← List.drop_drop, List.take_append_drop]
  rw [join 16, join 12, join 8, List.take_append_drop]

theorem ofGroups?_write (i : PhotoId) : ofGroups? i.write = some i := by
  have length := Text.Hex.length_fixed 32 i.number
  have digits := ofDigits?_fixed i
  unfold write ofGroups?
  generalize Text.Hex.fixed 32 i.number = ds at length digits ⊢
  simp [List.drop_append, List.drop_take, length, groups_append, digits]

theorem parse?_text (i : PhotoId) : parse? i.text = some i := by
  have length : i.write.length = 36 := by simp [write]
  simp [parse?, text, read?, length, ofGroups?_write]

theorem text_injective {i j : PhotoId} (h : i.text = j.text) : i = j := by
  have same := parse?_text i
  rw [h, parse?_text j] at same
  exact (Option.some.inj same).symm

theorem number_injective {i j : PhotoId} (h : i.number = j.number) : i = j := by
  obtain ⟨_, _⟩ := i
  obtain ⟨_, _⟩ := j
  cases h
  rfl

end PhotoId

end SiteReport
