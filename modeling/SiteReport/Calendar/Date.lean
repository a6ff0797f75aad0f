/-!
Dates of the Gregorian calendar, carried on into the past and the future, and their place on the
line of days. Day zero is the first of January 1970.
-/

namespace SiteReport

def isLeapYear (year : Int) : Bool := year % 4 == 0 && (year % 100 != 0 || year % 400 == 0)

/-- Days of a month; zero for a month that does not exist. -/
def daysInMonth (year : Int) (month : Nat) : Nat :=
  match month with
  | 1 | 3 | 5 | 7 | 8 | 10 | 12 => 31
  | 4 | 6 | 9 | 11 => 30
  | 2 => if isLeapYear year then 29 else 28
  | _ => 0

/-- A day that exists, in a year within reach. -/
structure Date where
  year : Int
  month : Nat
  day : Nat
  year_mem : -262143 ≤ year ∧ year ≤ 262142
  month_mem : 1 ≤ month ∧ month ≤ 12
  day_mem : 1 ≤ day ∧ day ≤ daysInMonth year month
  deriving DecidableEq

namespace Date

def of? (year : Int) (month day : Nat) : Option Date :=
  if h : (-262143 ≤ year ∧ year ≤ 262142) ∧ (1 ≤ month ∧ month ≤ 12)
      ∧ (1 ≤ day ∧ day ≤ daysInMonth year month) then
    some ⟨year, month, day, h.1, h.2.1, h.2.2⟩
  else none

/-- The day after, unless the calendar ends. -/
def next? (d : Date) : Option Date :=
  match of? d.year d.month (d.day + 1) with
  | some e => some e
  | none =>
    match of? d.year (d.month + 1) 1 with
    | some e => some e
    | none => of? (d.year + 1) 1 1

/-- The day before, unless the calendar starts. -/
def previous? (d : Date) : Option Date :=
  match of? d.year d.month (d.day - 1) with
  | some e => some e
  | none =>
    match of? d.year (d.month - 1) (daysInMonth d.year (d.month - 1)) with
    | some e => some e
    | none => of? (d.year - 1) 12 31

/-- Days from the first of January of the year one to the first of January of `year`. -/
def daysBeforeYear (year : Int) : Int :=
  let y := year - 1
  365 * y + y / 4 - y / 100 + y / 400

/-- Days from the first of January to the first of `month`. -/
def daysBeforeMonth (year : Int) : (month : Nat) → Nat
  | 0 => 0
  | 1 => 0
  | month + 2 => daysBeforeMonth year (month + 1) + daysInMonth year (month + 1)

/-- Days from the first of January of the year one to day zero. -/
def epoch : Int := 719162

def dayNumber (d : Date) : Int :=
  daysBeforeYear d.year + daysBeforeMonth d.year d.month + (d.day - 1) - epoch

/-- The year that holds the day `n` days after the first of January of the year one. Four hundred
years are 146097 days, which gives the year up to one. -/
def yearOf (n : Int) : Int :=
  let guess := n * 400 / 146097 + 1
  if daysBeforeYear (guess + 1) ≤ n then guess + 1
  else if daysBeforeYear guess ≤ n then guess
  else guess - 1

/-- The month that holds the day `n` days after the first of January, looked for from `month`
downwards. -/
def monthOf (year : Int) (n : Int) : (month : Nat) → Nat
  | 0 => 0
  | month + 1 => if daysBeforeMonth year (month + 1) ≤ n then month + 1 else monthOf year n month

def ofDayNumber? (n : Int) : Option Date :=
  let n := n + epoch
  let year := yearOf n
  let inYear := n - daysBeforeYear year
  let month := monthOf year inYear 12
  of? year month ((inYear - daysBeforeMonth year month).toNat + 1)

end Date

end SiteReport
