import SiteReport.Calendar.Date

/-!
Times of the day to the nanosecond, and instants of universal time. A time of a thousand million
nanoseconds or more lies in the leap second after its second. Times are made with a leap second
only at the end of a minute, but the nanoseconds of a time may be changed later, to any number.
-/

namespace SiteReport

structure TimeOfDay where
  hour : Nat
  minute : Nat
  second : Nat
  nano : Nat
  hour_lt : hour < 24
  minute_lt : minute < 60
  second_lt : second < 60
  nano_lt : nano < 2000000000
  deriving DecidableEq

namespace TimeOfDay

/-- No leap second but at the end of the minute. -/
def OnMinute (t : TimeOfDay) : Prop := 1000000000 ≤ t.nano → t.second = 59

instance (t : TimeOfDay) : Decidable t.OnMinute := inferInstanceAs (Decidable (_ → _))

def of? (hour minute second nano : Nat) : Option TimeOfDay :=
  if h : hour < 24 ∧ minute < 60 ∧ second < 60 ∧ nano < 2000000000
      ∧ (1000000000 ≤ nano → second = 59) then
    some ⟨hour, minute, second, nano, h.1, h.2.1, h.2.2.1, h.2.2.2.1⟩
  else none

/-- The same second and fraction at another hour and minute, counted in minutes. -/
def atMinute (t : TimeOfDay) (inDay : Nat) : TimeOfDay :=
  { t with
    hour := inDay / 60 % 24
    minute := inDay % 60
    hour_lt := Nat.mod_lt _ (by decide)
    minute_lt := Nat.mod_lt _ (by decide) }

def secondOfDay (t : TimeOfDay) : Nat := (t.hour * 60 + t.minute) * 60 + t.second

end TimeOfDay

/-- An instant of universal time. -/
structure Timestamp where
  date : Date
  time : TimeOfDay
  deriving DecidableEq

namespace Timestamp

/-- Seconds since day zero began, leap seconds left out. -/
def seconds (t : Timestamp) : Int := t.date.dayNumber * 86400 + t.time.secondOfDay

/-- Milliseconds since day zero began, rounded down; a leap second counts on. -/
def millis (t : Timestamp) : Int := t.seconds * 1000 + t.time.nano / 1000000

/-- The instant of a count of milliseconds, if the calendar holds it. -/
def ofMillis? (ms : Int) : Option Timestamp := do
  let date ← Date.ofDayNumber? (ms / 86400000)
  let inDay := (ms % 86400000).toNat
  let time ← TimeOfDay.of? (inDay / 3600000) (inDay / 60000 % 60) (inDay / 1000 % 60)
    (inDay % 1000 * 1000000)
  some ⟨date, time⟩

/-- Whole seconds between two times of the day. A leap second that lies between them counts. -/
def secondsBetween (earlier later : TimeOfDay) : Int :=
  let s : Int := (later.secondOfDay : Int) - earlier.secondOfDay
  if earlier.secondOfDay < later.secondOfDay ∧ 1000000000 ≤ earlier.nano then s + 1
  else if later.secondOfDay < earlier.secondOfDay ∧ 1000000000 ≤ later.nano then s - 1
  else s

/-- Nanoseconds from `earlier` to `later`, negative when they are the other way round. -/
def nanosBetween (earlier later : Timestamp) : Int :=
  ((later.date.dayNumber - earlier.date.dayNumber) * 86400
      + secondsBetween earlier.time later.time) * 1000000000
    + ((later.time.nano : Int) - earlier.time.nano)

/-- The instant `s` seconds later, at the same fraction of a second. -/
def addSeconds? (t : Timestamp) (s : Int) : Option Timestamp := do
  let total := t.seconds + s
  let date ← Date.ofDayNumber? (total / 86400)
  let inDay := (total % 86400).toNat
  let time ← TimeOfDay.of? (inDay / 3600) (inDay / 60 % 60) (inDay % 60) t.time.nano
  some ⟨date, time⟩

/-- The same instant given in a zone that is `minutes` ahead of universal time. The zone is less
than a day ahead or behind, so the date changes by one day at most. -/
def ofZone? (t : Timestamp) (minutes : Int) : Option Timestamp := do
  let total : Int := (t.time.hour * 60 + t.time.minute : Nat) - minutes
  let date ← if total < 0 then t.date.previous?
    else if 1440 ≤ total then t.date.next?
    else some t.date
  some ⟨date, t.time.atMinute (total % 1440).toNat⟩

end Timestamp

end SiteReport
