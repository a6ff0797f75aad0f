import SiteReport.Calendar.TimeOfDay
import SiteReport.Json.Printer
import SiteReport.Json.Record
import SiteReport.Text.Blank

/-!
Dates, times and instants as text. Writing has one form for each value; reading is lenient about
white space in front of numbers, about the number of digits and, for instants, about the way the
zone is given.
-/

namespace SiteReport.Calendar

/-- A number with zeros in front up to `width`. -/
def padded (width n : Nat) : List Char :=
  let digits := Nat.toDigits 10 n
  List.replicate (width - digits.length) '0' ++ digits

/-- Years of four digits stand alone, others carry their sign. -/
def writeYear (year : Int) : List Char :=
  if 0 ≤ year ∧ year ≤ 9999 then padded 4 year.toNat
  else (if year < 0 then '-' else '+') :: padded 4 year.natAbs

/-- Nothing, or a point and three, six or nine digits. -/
def writeFraction (nano : Nat) : List Char :=
  if nano = 0 then []
  else if nano % 1000000 = 0 then '.' :: padded 3 (nano / 1000000)
  else if nano % 1000 = 0 then '.' :: padded 6 (nano / 1000)
  else '.' :: padded 9 nano

/-- Digits, at least one and at most `most`, and what follows them. -/
def digits? (most : Nat) (cs : List Char) : Option (List Char × List Char) :=
  match (cs.takeWhile Char.isDigit).take most with
  | [] => none
  | ds => some (ds, cs.drop ds.length)

/-- A number of one or two digits, white space before it passed over. -/
def short? (cs : List Char) : Option (Nat × List Char) := do
  let (ds, rest) ← digits? 2 (Text.trimStart cs)
  some (Nat.ofDigitChars 10 ds 0, rest)

/-- A year of up to four digits, or with a sign of any length. -/
def year? (cs : List Char) : Option (Int × List Char) :=
  match Text.trimStart cs with
  | '-' :: cs => do
    let (ds, rest) ← digits? cs.length cs
    some (-(Nat.ofDigitChars 10 ds 0 : Int), rest)
  | '+' :: cs => do
    let (ds, rest) ← digits? cs.length cs
    some ((Nat.ofDigitChars 10 ds 0 : Int), rest)
  | cs => do
    let (ds, rest) ← digits? 4 cs
    some ((Nat.ofDigitChars 10 ds 0 : Int), rest)

def expect? (c : Char) : List Char → Option (List Char)
  | d :: rest => if c = d then some rest else none
  | [] => none

/-- Nanoseconds after a point: nine digits count, further ones are dropped. -/
def fraction? : List Char → Option (Nat × List Char)
  | '.' :: cs => do
    let (ds, rest) ← digits? 9 cs
    some (Nat.ofDigitChars 10 ds 0 * Nat.pow 10 (9 - ds.length), rest.dropWhile Char.isDigit)
  | cs => some (0, cs)

/-- The second sixty is a leap second. -/
def timeOf? (hour minute second nano : Nat) : Option TimeOfDay :=
  if second = 60 then TimeOfDay.of? hour minute 59 (nano + 1000000000)
  else TimeOfDay.of? hour minute second nano

end Calendar

namespace Date

open Calendar

def write (d : Date) : List Char :=
  writeYear d.year ++ '-' :: (padded 2 d.month ++ '-' :: padded 2 d.day)

def read? (cs : List Char) : Option Date := do
  let (year, cs) ← year? cs
  let cs ← expect? '-' (Text.trimStart cs)
  let (month, cs) ← short? cs
  let cs ← expect? '-' (Text.trimStart cs)
  let (day, cs) ← short? cs
  if Text.trimStart cs = [] then of? year month day else none

def text (d : Date) : String := String.ofList d.write

def toJson (d : Date) : Json := .ofText d.text

def ofJson? (v : Json) : Option Date := v.toText?.bind fun s => read? s.toList

end Date

namespace TimeOfDay

open Calendar

/-- Whole seconds are always written, a leap second as sixty. -/
def write (t : TimeOfDay) : List Char :=
  let second := if 1000000000 ≤ t.nano then t.second + 1 else t.second
  padded 2 t.hour ++ ':' :: (padded 2 t.minute ++ ':' :: (padded 2 second
    ++ writeFraction (t.nano % 1000000000)))

/-- Seconds and their fraction may be left out. -/
def read? (cs : List Char) : Option TimeOfDay := do
  let (hour, cs) ← short? cs
  let cs ← expect? ':' (Text.trimStart cs)
  let (minute, cs) ← short? cs
  match Text.trimStart cs with
  | [] => timeOf? hour minute 0 0
  | ':' :: cs => do
    let (second, cs) ← short? cs
    let (nano, cs) ← fraction? cs
    if Text.trimStart cs = [] then timeOf? hour minute second nano else none
  | _ => none

def text (t : TimeOfDay) : String := String.ofList t.write

def toJson (t : TimeOfDay) : Json := .ofText t.text

def ofJson? (v : Json) : Option TimeOfDay := v.toText?.bind fun s => read? s.toList

end TimeOfDay

namespace Timestamp

open Calendar

def write (t : Timestamp) : List Char := t.date.write ++ 'T' :: (t.time.write ++ ['Z'])

def isZoneSeparator (c : Char) : Bool := c = ':' || Text.isSpace c

/-- Hours and minutes of a zone, with colons or white space between them, as minutes. -/
def zoneMinutes? (cs : List Char) : Option (Int × List Char) :=
  match cs with
  | a :: b :: cs =>
    if a.isDigit ∧ b.isDigit then
      match cs.dropWhile isZoneSeparator with
      | c :: d :: rest =>
        if '0' ≤ c ∧ c ≤ '5' ∧ d.isDigit then
          some ((Nat.ofDigitChars 10 [a, b] 0 * 60 + Nat.ofDigitChars 10 [c, d] 0 : Nat), rest)
        else none
      | _ => none
    else none
  | _ => none

/-- The zone as minutes ahead of universal time. -/
def zone? (cs : List Char) : Option (Int × List Char) :=
  match cs with
  | 'Z' :: rest => some (0, rest)
  | 'z' :: rest => some (0, rest)
  | '+' :: rest => zoneMinutes? rest
  | '-' :: rest => (zoneMinutes? rest).map fun (m, rest) => (-m, rest)
  | '−' :: rest => (zoneMinutes? rest).map fun (m, rest) => (-m, rest)
  | u :: t :: c :: rest =>
    if u.toUpper = 'U' ∧ t.toUpper = 'T' ∧ c.toUpper = 'C' then some (0, rest) else none
  | _ => none

/-- The zone is less than a day away from universal time. -/
def inZone? (date : Date) (time : TimeOfDay) (minutes : Int) : Option Timestamp :=
  if minutes.natAbs < 1440 then ofZone? ⟨date, time⟩ minutes else none

def read? (cs : List Char) : Option Timestamp := do
  let (year, cs) ← year? cs
  let cs ← expect? '-' cs
  let (month, cs) ← short? cs
  let cs ← expect? '-' cs
  let (day, cs) ← short? cs
  let date ← Date.of? year month day
  let cs ← match cs with
    | 'T' :: cs => some cs
    | 't' :: cs => some cs
    | ' ' :: cs => some cs
    | _ => none
  let (hour, cs) ← short? cs
  let cs ← expect? ':' cs
  let (minute, cs) ← short? cs
  let cs ← expect? ':' cs
  let (second, cs) ← short? cs
  let (nano, cs) ← fraction? cs
  let time ← timeOf? hour minute second nano
  let (minutes, cs) ← zone? (Text.trimStart cs)
  if Text.trimStart cs = [] then inZone? date time minutes else none

def text (t : Timestamp) : String := String.ofList t.write

/-- Date, hour and minute, as lists for people show them. -/
def minuteText (t : Timestamp) : String :=
  String.ofList (t.date.write ++ ' ' :: (padded 2 t.time.hour ++ ':' :: padded 2 t.time.minute))

def toJson (t : Timestamp) : Json := .ofText t.text

def ofJson? (v : Json) : Option Timestamp := v.toText?.bind fun s => read? s.toList

end Timestamp

end SiteReport
