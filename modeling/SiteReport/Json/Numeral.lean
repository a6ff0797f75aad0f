import SiteReport.Decimal.Shortest

/-!
Numerals of JSON read as numbers. A numeral that is digits only, with at most a minus in front, is
a whole number; any other, minus zero and numbers past 64 bits included, is a double. A numeral
too large for a double is no number at all.
-/

namespace SiteReport.Json.Numeral

def nat? (cs : List Char) : Option Nat :=
  if cs ≠ [] ∧ cs.all Char.isDigit then some (Nat.ofDigitChars 10 cs 0) else none

/-- Minus zero is no whole number. -/
def int? : List Char → Option Int
  | '-' :: cs =>
    match nat? cs with
    | some (n + 1) => some (.negSucc n)
    | _ => none
  | cs => (nat? cs).map Int.ofNat

/-- The largest significand that is kept exactly. -/
def significandLimit : Nat := UInt64.size - 1

/-- A significand under construction and the power of ten it stands before. -/
structure Parts where
  significand : Nat
  exponent : Int
  full : Bool

def Parts.whole (p : Parts) (c : Char) : Parts :=
  let next := p.significand * 10 + (c.toNat - 48)
  if p.full || significandLimit < next then ⟨p.significand, p.exponent + 1, true⟩
  else ⟨next, p.exponent, false⟩

def Parts.fraction (p : Parts) (c : Char) : Parts :=
  let next := p.significand * 10 + (c.toNat - 48)
  if p.full || significandLimit < next then ⟨p.significand, p.exponent, true⟩
  else ⟨next, p.exponent - 1, false⟩

/-- Multiplies or divides by a power of ten, in several steps where the power is too large for one.
A result past the largest double is none. -/
def scale? : (steps : Nat) → Float → (exponent : Int) → Option Float
  | 0, f, _ => some f
  | steps + 1, f, exponent =>
    if exponent.natAbs ≤ 308 then
      let power := Float.ofScientific 1 false exponent.natAbs
      if 0 ≤ exponent then
        let product := f * power
        if product.isInf then none else some product
      else some (f / power)
    else if f == 0 then some f
    else if 0 ≤ exponent then none
    else scale? steps (f / Float.ofScientific 1 false 308) (exponent + 308)

/-- The digits after the `e`, with its sign. -/
def exponent? : List Char → Option (Bool × Nat)
  | '-' :: cs => (nat? cs).map (true, ·)
  | '+' :: cs => (nat? cs).map (false, ·)
  | cs => (nat? cs).map (false, ·)

/-- The largest exponent that is reckoned with. -/
def exponentLimit : Nat := 2147483647

def magnitude? (cs : List Char) : Option Float := do
  let whole := cs.takeWhile Char.isDigit
  let cs := cs.dropWhile Char.isDigit
  let p := whole.foldl Parts.whole ⟨0, 0, false⟩
  let (p, cs) := match cs with
    | '.' :: cs =>
      ((cs.takeWhile Char.isDigit).foldl Parts.fraction { p with full := false },
        cs.dropWhile Char.isDigit)
    | cs => (p, cs)
  let f := (UInt64.ofNat p.significand).toFloat
  match cs with
  | [] => scale? 8 f p.exponent
  | _ :: cs =>
    let (negative, n) ← exponent? cs
    if exponentLimit < n then
      if p.significand ≠ 0 ∧ !negative then none else some 0
    else scale? 8 f (p.exponent + if negative then -(n : Int) else n)

/-- The double nearest to the numeral, as far as a 64-bit significand and one multiplication reach;
none when it is too large. -/
def float? : List Char → Option Float
  | '-' :: cs => (magnitude? cs).map (fun f => -f)
  | cs => magnitude? cs

/-- Whole numbers of 64 bits keep all their digits. -/
def isWord (cs : List Char) : Bool :=
  match int? cs with
  | some i => Int64.minValue.toInt ≤ i ∧ i < UInt64.size
  | none => false

/-- Has the numeral a value at all? -/
def isFinite (cs : List Char) : Bool := isWord cs || (float? cs).isSome

/-- The numeral in the one spelling used for writing. -/
def canonical? (cs : List Char) : Option (List Char) :=
  if isWord cs then some cs else (float? cs).map Decimal.ofFloat

end SiteReport.Json.Numeral
