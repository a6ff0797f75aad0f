/-!
The shortest decimal that reads back as a given double. A positive finite double is `m * 2 ^ q`;
the decimals that round to it fill an interval around it, and of the grids with one, two, ... up to
seventeen digits the first that has a point in the interval gives the digits.
-/

namespace SiteReport.Decimal

/-- A positive quotient of naturals. -/
structure Ratio where
  num : Nat
  den : Nat

namespace Ratio

/-- `n * 2 ^ q` as a quotient. -/
def scaled (n : Nat) (q : Int) : Ratio :=
  if q < 0 then ⟨n, Nat.pow 2 (-q).toNat⟩ else ⟨n * Nat.pow 2 q.toNat, 1⟩

/-- The quotient divided by ten to the `k`. -/
def shift (r : Ratio) (k : Int) : Ratio :=
  if k < 0 then ⟨r.num * Nat.pow 10 (-k).toNat, r.den⟩ else ⟨r.num, r.den * Nat.pow 10 k.toNat⟩

def floor (r : Ratio) : Nat := r.num / r.den

end Ratio

/-- A double's magnitude: the value, and the ends of the interval that rounds to it. The ends
belong to the interval when the significand is even. -/
structure Neighbourhood where
  value : Ratio
  low : Ratio
  high : Ratio
  closed : Bool

/-- Splits the bits of a positive finite double. -/
def Neighbourhood.ofBits (bits : UInt64) : Neighbourhood :=
  let hidden := Nat.pow 2 52
  let fraction : Nat := bits.toNat % hidden
  let exponent : Nat := bits.toNat / hidden % 2048
  let m := if exponent = 0 then fraction else fraction + hidden
  let q : Int := (if exponent = 0 then (1 : Int) else (exponent : Int)) - 1075
  let below := if fraction = 0 ∧ 1 < exponent then 4 * m - 1 else 4 * m - 2
  { value := Ratio.scaled (4 * m) (q - 2)
    low := Ratio.scaled below (q - 2)
    high := Ratio.scaled (4 * m + 2) (q - 2)
    closed := m % 2 == 0 }

/-- Is `d * 10 ^ k` in the interval? -/
def Neighbourhood.holds (v : Neighbourhood) (d : Nat) (k : Int) : Bool :=
  let low := v.low.shift k
  let high := v.high.shift k
  if v.closed then low.num ≤ d * low.den && d * high.den ≤ high.num
  else low.num < d * low.den && d * high.den < high.num

/-- The power of ten of the leading digit, found by trying powers from `k` downwards. -/
def leading (r : Ratio) : (steps : Nat) → (k : Int) → Int
  | 0, k => k
  | steps + 1, k => if 1 ≤ (r.shift k).floor then k else leading r steps (k - 1)

/-- The point of the grid with step `10 ^ k` that lies in the interval, the nearer one of two. -/
def Neighbourhood.onGrid? (v : Neighbourhood) (k : Int) : Option Nat :=
  let r := v.value.shift k
  let below := r.floor
  let nearBelow := 2 * (r.num - below * r.den) ≤ r.den
  match v.holds below k, v.holds (below + 1) k with
  | true, true => some (if nearBelow then below else below + 1)
  | true, false => some below
  | false, true => some (below + 1)
  | false, false => none

/-- Digits and exponent, tried with `count` digits and then with more. -/
def Neighbourhood.search (v : Neighbourhood) (top : Int) : (steps count : Nat) → Nat × Int
  | 0, _ => (0, 0)
  | steps + 1, count =>
    let k := top - count + 1
    match v.onGrid? k with
    | some d => if d = Nat.pow 10 count then (1, top + 1) else (d, k)
    | none => v.search top steps (count + 1)

/-- The digits `d` and the exponent `k` of the shortest decimal `d * 10 ^ k`. -/
def shortest (bits : UInt64) : Nat × Int :=
  let v := Neighbourhood.ofBits bits
  v.search (leading v.value 700 310) 17 1

/-- Digits as a decimal fraction: positional for exponents from -5 up to 15, else with an `e`. -/
def write (digits : List Char) (k : Int) : List Char :=
  let point := digits.length + k
  if 0 ≤ k ∧ point ≤ 16 then
    digits ++ List.replicate k.toNat '0' ++ ['.', '0']
  else if 0 < point ∧ point ≤ 16 then
    digits.take point.toNat ++ '.' :: digits.drop point.toNat
  else if -5 < point ∧ point ≤ 0 then
    '0' :: '.' :: List.replicate (-point).toNat '0' ++ digits
  else
    let exponent := (point - 1).repr.toList
    match digits with
    | [d] => d :: 'e' :: exponent
    | d :: rest => d :: '.' :: rest ++ 'e' :: exponent
    | [] => []

/-- A finite double as the shortest decimal that reads back as it. -/
def ofFloat (x : Float) : List Char :=
  let bits := x.toBits
  let magnitude := bits &&& 0x7FFFFFFFFFFFFFFF
  let sign := if bits = magnitude then [] else ['-']
  if magnitude = 0 then sign ++ ['0', '.', '0']
  else
    let (d, k) := shortest magnitude
    sign ++ write (Nat.toDigits 10 d) k

end SiteReport.Decimal
