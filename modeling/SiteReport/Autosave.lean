/-!
The timer that delays saving: every edit pushes the deadline out again, and once the deadline has
passed the draft is due, one time. Times are milliseconds on a clock of which only differences
matter.
-/

namespace SiteReport

structure Autosave where
  debounce : Nat
  deadline : Option Int := none
  deriving DecidableEq

namespace Autosave

def markDirty (a : Autosave) (now : Int) : Autosave := { a with deadline := some (now + a.debounce) }

def isDirty (a : Autosave) : Bool := a.deadline.isSome

def cancel (a : Autosave) : Autosave := { a with deadline := none }

/-- Is the draft due? If so, the timer is reset. -/
def takeDue (a : Autosave) (now : Int) : Bool × Autosave :=
  match a.deadline with
  | some deadline => if deadline ≤ now then (true, a.cancel) else (false, a)
  | none => (false, a)

end Autosave

/-- What can happen to the timer. -/
inductive TimerEvent where
  | markDirty (now : Int)
  | takeDue (now : Int)
  | cancel

namespace Autosave

/-- The answer is none for events that have none. -/
def step (a : Autosave) : TimerEvent → Option Bool × Autosave
  | .markDirty now => (none, a.markDirty now)
  | .takeDue now =>
    let (due, a) := a.takeDue now
    (some due, a)
  | .cancel => (none, a.cancel)

end Autosave

end SiteReport
