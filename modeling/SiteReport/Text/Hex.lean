/-!
Hexadecimal digits: one digit either way, and numbers of a fixed width in lower case. Reading takes
letters of either case; writing uses lower case only.
-/

namespace SiteReport.Text.Hex

/-- The lower-case digit for a value below sixteen. -/
def digit (n : Nat) : Char := Nat.digitChar n

def upperDigit (n : Nat) : Char := if n < 10 then Nat.digitChar n else Char.ofNat (n + 55)

def value? (c : Char) : Option Nat :=
  if '0' ≤ c ∧ c ≤ '9' then some (c.toNat - 48)
  else if 'a' ≤ c ∧ c ≤ 'f' then some (c.toNat - 87)
  else if 'A' ≤ c ∧ c ≤ 'F' then some (c.toNat - 55)
  else none

/-- The last `width` digits of `n`, leading zeros kept. -/
def fixed : (width : Nat) → (n : Nat) → List Char
  | 0, _ => []
  | width + 1, n => fixed width (n / 16) ++ [digit (n % 16)]

/-- Digits read on to a number already begun. -/
def read? : List Char → (begun : Nat) → Option Nat
  | [], n => some n
  | c :: rest, n => do read? rest (n * 16 + (← value? c))

/-- Two digits for each byte. -/
def ofBytes : List UInt8 → List Char
  | [] => []
  | b :: rest => fixed 2 b.toNat ++ ofBytes rest

def toBytes? : List Char → Option (List UInt8)
  | [] => some []
  | [_] => none
  | a :: b :: rest => do
    let high ← value? a
    let low ← value? b
    let more ← toBytes? rest
    some (UInt8.ofNat (high * 16 + low) :: more)

end SiteReport.Text.Hex
