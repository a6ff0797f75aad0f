import SiteReport.Text.Hex
import SiteReport.Toml.Basic

/-!
Numbers and dates of TOML. A reader gives what it reads and the rest, or nothing; dates are tried
before floats and floats before integers, because each of them begins like the next.
-/

namespace SiteReport.Toml.Number

/-- Digits with single underscores between them, the underscores left out. -/
def grouped? (isDigit : Char → Bool) : List Char → Option (List Char × List Char)
  | [] => none
  | c :: rest =>
    if isDigit c then
      match rest with
      | '_' :: more => (grouped? isDigit more).map fun (ds, rest) => (c :: ds, rest)
      | more =>
        match grouped? isDigit more with
        | some (ds, rest) => some (c :: ds, rest)
        | none => if more.head?.any isDigit then none else some ([c], more)
    else none

def isHex (c : Char) : Bool := (Text.Hex.value? c).isSome

def isOctal (c : Char) : Bool := '0' ≤ c && c ≤ '7'

def isBinary (c : Char) : Bool := c = '0' || c = '1'

/-- The sign, plus if there is none. -/
def sign : List Char → Bool × List Char
  | '-' :: rest => (true, rest)
  | '+' :: rest => (false, rest)
  | cs => (false, cs)

/-- Decimal digits without zeros in front. -/
def whole? : List Char → Option (List Char × List Char)
  | '0' :: rest => some (['0'], rest)
  | cs => grouped? Char.isDigit cs

/-- Whole numbers of 64 bits. -/
def inRange? (n : Int) : Option Int :=
  if Int64.minValue.toInt ≤ n ∧ n ≤ Int64.maxValue.toInt then some n else none

def based? (base : Nat) (isDigit : Char → Bool) (cs : List Char) : Option (Int × List Char) := do
  let (ds, rest) ← grouped? isDigit cs
  let n := ds.foldl (fun n c => n * base + (Text.Hex.value? c).getD 0) 0
  some (← inRange? n, rest)

def integer? : List Char → Option (Int × List Char)
  | '0' :: 'x' :: rest => based? 16 isHex rest
  | '0' :: 'o' :: rest => based? 8 isOctal rest
  | '0' :: 'b' :: rest => based? 2 isBinary rest
  | cs => do
    let (negative, cs) := sign cs
    let (ds, rest) ← whole? cs
    let n : Int := Nat.ofDigitChars 10 ds 0
    some (← inRange? (if negative then -n else n), rest)

def fraction? : List Char → Option (List Char × List Char)
  | '.' :: cs => grouped? Char.isDigit cs
  | _ => none

/-- The exponent with its sign. -/
def exponent? : List Char → Option (Int × List Char)
  | c :: cs =>
    if c = 'e' ∨ c = 'E' then do
      let (negative, cs) := sign cs
      let (ds, rest) ← grouped? Char.isDigit cs
      let n : Int := Nat.ofDigitChars 10 ds 0
      some (if negative then -n else n, rest)
    else none
  | [] => none

/-- Does the number round to something beyond the largest double? `limit` is the first number that
does: half a step above the largest double. -/
def isTooLarge (digits : List Char) (exponent : Int) : Bool :=
  let limit := Nat.pow 2 1024 - Nat.pow 2 970
  let digits := digits.dropWhile (· = '0')
  let n := Nat.ofDigitChars 10 digits 0
  if n = 0 then false
  else if 400 < exponent + digits.length then true
  else if exponent + digits.length < 300 then false
  else if 0 ≤ exponent then limit ≤ n * Nat.pow 10 exponent.toNat
  else limit * Nat.pow 10 (-exponent).toNat ≤ n

/-- Infinity and not-a-number. -/
def special? : List Char → Option (List Char)
  | 'i' :: 'n' :: 'f' :: rest => some rest
  | 'n' :: 'a' :: 'n' :: rest => some rest
  | _ => none

/-- A float has a fraction, an exponent or both. One above the largest double is refused; one below
its negative counts as minus infinity. -/
def float? (cs : List Char) : Option (List Char) :=
  let (negative, digits) := sign cs
  match special? digits with
  | some rest => some rest
  | none => do
    let (ds, afterWhole) ← whole? digits
    let (fs, rest) := (fraction? afterWhole).getD ([], afterWhole)
    let (e, rest) := (exponent? rest).getD (0, rest)
    if rest.length = afterWhole.length then none
    else if !negative && isTooLarge (ds ++ fs) (e - fs.length) then none
    else some rest

/-- So many digits, with a value between the bounds. -/
def fixed? (width low high : Nat) (cs : List Char) : Option (Nat × List Char) :=
  let ds := cs.take width
  let n := Nat.ofDigitChars 10 ds 0
  if ds.length = width ∧ ds.all Char.isDigit ∧ low ≤ n ∧ n ≤ high then some (n, cs.drop width)
  else none

def expect? (c : Char) : List Char → Option (List Char)
  | d :: rest => if c = d then some rest else none
  | [] => none

def daysIn (year month : Nat) : Nat :=
  if month = 2 then if year % 4 = 0 ∧ (year % 100 ≠ 0 ∨ year % 400 = 0) then 29 else 28
  else if month = 4 ∨ month = 6 ∨ month = 9 ∨ month = 11 then 30
  else 31

def date? (cs : List Char) : Option (List Char) := do
  let (year, cs) ← fixed? 4 0 9999 cs
  let cs ← expect? '-' cs
  let (month, cs) ← fixed? 2 1 12 cs
  let cs ← expect? '-' cs
  let (_, cs) ← fixed? 2 1 (daysIn year month) cs
  some cs

/-- Digits after the point, if there is one. -/
def secondFraction? : List Char → Option (List Char)
  | '.' :: c :: cs => if c.isDigit then some (cs.dropWhile Char.isDigit) else none
  | '.' :: [] => none
  | cs => some cs

def time? (cs : List Char) : Option (List Char) := do
  let (_, cs) ← fixed? 2 0 23 cs
  let cs ← expect? ':' cs
  let (_, cs) ← fixed? 2 0 59 cs
  let cs ← expect? ':' cs
  let (_, cs) ← fixed? 2 0 60 cs
  secondFraction? cs

/-- The zone, if there is one. -/
def zone? : List Char → Option (List Char)
  | [] => some []
  | c :: cs =>
    if c = 'Z' ∨ c = 'z' then some cs
    else if c = '+' ∨ c = '-' then do
      let (_, cs) ← fixed? 2 0 23 cs
      let cs ← expect? ':' cs
      let (_, cs) ← fixed? 2 0 59 cs
      some cs
    else some (c :: cs)

/-- A date, alone or with a time, with a zone or without; or a time alone. -/
def moment? (cs : List Char) : Option (List Char) :=
  match date? cs with
  | none => time? cs
  | some [] => some []
  | some (c :: rest) =>
    if c = 'T' ∨ c = 't' ∨ c = ' ' then
      match time? rest with
      | some rest => zone? rest
      | none => some (c :: rest)
    else some (c :: rest)

/-- What stands between two places of a text, the second one given by what follows. -/
def upTo (rest cs : List Char) : List Char := cs.take (cs.length - rest.length)

def read? (cs : List Char) : Option (Toml × List Char) :=
  match moment? cs, float? cs with
  | some rest, _ => some (.moment (upTo rest cs), rest)
  | none, some rest => some (.float (upTo rest cs), rest)
  | none, none => (integer? cs).map fun (n, rest) => (.integer n, rest)

end SiteReport.Toml.Number
