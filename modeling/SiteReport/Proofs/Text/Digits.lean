/-!
Decimal digits in front of other text. Digits that are written are taken up again as far as they go,
and the first one is a zero for the number zero only.
-/

namespace SiteReport.Text

/-- No digit at the start. -/
def Halts (k : List Char) : Prop := ∀ c ∈ k.head?, c.isDigit = false

variable {ds k : List Char}

theorem takeWhile_digits (digits : ∀ c ∈ ds, c.isDigit = true) (halts : Halts k) :
    (ds ++ k).takeWhile Char.isDigit = ds := by
  rw [List.takeWhile_append_of_pos digits]
  cases k with
  | nil => simp
  | cons c rest => simp [halts c rfl]

theorem dropWhile_digits (digits : ∀ c ∈ ds, c.isDigit = true) (halts : Halts k) :
    (ds ++ k).dropWhile Char.isDigit = k := by
  rw [List.dropWhile_append_of_pos digits]
  cases k with
  | nil => rfl
  | cons c rest => simp [halts c rfl]

theorem toDigits_digits (n : Nat) : ∀ c ∈ Nat.toDigits 10 n, c.isDigit = true :=
  fun _ member => Nat.isDigit_of_mem_toDigits (by decide) (by decide) member

theorem toDigits_cons (n : Nat) :
    ∃ d rest, Nat.toDigits 10 n = d :: rest ∧ d.isDigit = true := by
  cases written : Nat.toDigits 10 n with
  | nil => exact absurd written Nat.toDigits_ne_nil
  | cons d rest =>
      refine ⟨d, rest, rfl, toDigits_digits n d ?_⟩
      rw [written]
      exact List.mem_cons_self

/-- The digits of a number other than zero do not start with a zero. -/
theorem toDigits_head {n : Nat} (positive : 0 < n) :
    ∃ d rest, Nat.toDigits 10 n = d :: rest ∧ d ≠ '0' := by
  induction n using Nat.strongRecOn with
  | ind n ih =>
      by_cases small : n < 10
      · refine ⟨n.digitChar, [], Nat.toDigits_of_lt_base small, ?_⟩
        rw [ne_eq, Nat.digitChar_eq_zero]
        omega
      · obtain ⟨d, rest, digits, other⟩ := ih (n / 10) (by omega) (by omega)
        refine ⟨d, rest ++ [(n % 10).digitChar], ?_, other⟩
        rw [Nat.toDigits_of_base_le (by decide) (by omega), digits]
        rfl

end SiteReport.Text
