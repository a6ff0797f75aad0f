/-!
Scaling a length by the ratio of two others, with the ratio and the product kept to 53 binary
digits and the result rounded to the nearest whole number, halves upwards.
-/

namespace SiteReport.Picture

/-- The quotient rounded to the nearest whole number, halves to the even one. -/
def divEven (num den : Nat) : Nat :=
  let q := num / den
  let r := num % den
  if 2 * r < den then q
  else if den < 2 * r then q + 1
  else if q % 2 = 0 then q
  else q + 1

/-- A fraction below one to 53 binary digits: `significand / 2 ^ shift`. -/
structure BinaryRatio where
  significand : Nat
  shift : Nat

def BinaryRatio.of (num den : Nat) : BinaryRatio :=
  let guess := 52 + Nat.log2 den - Nat.log2 num
  let shift := if num * Nat.pow 2 guess < den * Nat.pow 2 52 then guess + 1 else guess
  ⟨divEven (num * Nat.pow 2 shift) den, shift⟩

/-- The product with a length, kept to 53 binary digits and then rounded. -/
def BinaryRatio.scale (r : BinaryRatio) (length : Nat) : Nat :=
  let product := length * r.significand
  let surplus := Nat.log2 product - 52
  let kept := divEven product (Nat.pow 2 surplus) * Nat.pow 2 surplus
  (2 * kept + Nat.pow 2 r.shift) / Nat.pow 2 (r.shift + 1)

/-- The length scaled by `target / size`, at least one. -/
def scaleLength (target size length : Nat) : Nat :=
  if target = 0 then 1 else max 1 ((BinaryRatio.of target size).scale length)

end SiteReport.Picture
