import SiteReport.Text.Hex

/-!
Identifiers of photos that wait in the local stock: 128-bit numbers, written as 32 hexadecimal
digits in five groups. Fresh ones begin with the time of their making, so that they sort in the
order in which the photos came.
-/

namespace SiteReport

structure PhotoId where
  number : Nat
  number_lt : number < Nat.pow 2 128
  deriving DecidableEq

namespace PhotoId

instance : Inhabited PhotoId := ⟨⟨0, by decide⟩⟩

instance : Ord PhotoId := ⟨fun a b => compare a.number b.number⟩

def of? (n : Nat) : Option PhotoId := if h : n < Nat.pow 2 128 then some ⟨n, h⟩ else none

/-- Groups of 8, 4, 4, 4 and 12 digits. -/
def write (i : PhotoId) : List Char :=
  let digits := Text.Hex.fixed 32 i.number
  digits.take 8 ++ '-' :: ((digits.drop 8).take 4 ++ '-' :: ((digits.drop 12).take 4
    ++ '-' :: ((digits.drop 16).take 4 ++ '-' :: digits.drop 20)))

def text (i : PhotoId) : String := String.ofList i.write

/-- Thirty-two digits and nothing else. -/
def ofDigits? (cs : List Char) : Option PhotoId :=
  if cs.length = 32 then (Text.Hex.read? cs 0).bind of? else none

/-- Five groups with hyphens between them. -/
def ofGroups? (cs : List Char) : Option PhotoId :=
  if cs.length = 36 ∧ cs[8]? = some '-' ∧ cs[13]? = some '-' ∧ cs[18]? = some '-'
      ∧ cs[23]? = some '-' then
    ofDigits? (cs.take 8 ++ ((cs.drop 9).take 4 ++ ((cs.drop 14).take 4
      ++ ((cs.drop 19).take 4 ++ cs.drop 24))))
  else none

/-- What may stand before the groups, in any case of letters. -/
def scheme : List Char := "urn:uuid:".toList

/-- Plain digits, groups, groups in braces, or groups after the scheme. -/
def read? (cs : List Char) : Option PhotoId :=
  if cs.length = 32 then ofDigits? cs
  else if cs.length = 36 then ofGroups? cs
  else if cs.length = 38 ∧ cs.head? = some '\x7b' ∧ cs.getLast? = some '\x7d' then
    ofGroups? ((cs.drop 1).take 36)
  else if cs.length = 45 ∧ (cs.take 9).map Char.toLower = scheme then ofGroups? (cs.drop 9)
  else none

def parse? (s : String) : Option PhotoId := read? s.toList

/-- The identifier made in the given millisecond with the given sequence number: 48 bits of time,
the version digit 7, and 74 bits of sequence around the two bits of the variant. -/
def timeOrdered (millis sequence : Nat) : PhotoId :=
  let high := millis % Nat.pow 2 48 * Nat.pow 2 16 + 7 * Nat.pow 2 12
    + sequence / Nat.pow 2 62 % Nat.pow 2 12
  let low := Nat.pow 2 63 + sequence % Nat.pow 2 62
  ⟨(high * Nat.pow 2 64 + low) % Nat.pow 2 128, Nat.mod_lt _ (by decide)⟩

/-- Fresh identifiers in a row. -/
def series (millis sequence : Nat) : (count : Nat) → List PhotoId
  | 0 => []
  | count + 1 => timeOrdered millis sequence :: series millis (sequence + 1) count

/-- The digit that tells how the identifier was made. -/
def version (i : PhotoId) : Char := Text.Hex.digit (i.number / Nat.pow 2 76 % 16)

end PhotoId

end SiteReport
