import SiteReport.Document.InPlace
import SiteReport.Session

/-!
The operations of a composer that may be refused, carried out on the spot: the body is edited first,
and what goes with the change is written afterwards.
-/

namespace SiteReport

namespace Composer.InPlace

open SiteReport.InPlace

variable {α : Type}

def onBody (steps : InPlace EditError Body α) : InPlace EditError Composer α :=
  onPart (·.body) (fun c body => { c with body }) steps

def edit (clock : Clock) (steps : InPlace EditError Body Change) :
    InPlace EditError Composer Change := do
  let change ← onBody steps
  modify (·.commit clock change)
  return change

def removeSection (clock : Clock) (id : SectionId) : InPlace EditError Composer Change := do
  let change ← onBody (Body.InPlace.remove id)
  modify (·.deselect id)
  modify (·.commit clock change)
  return change

def duplicateSection (clock : Clock) (id : SectionId) : InPlace EditError Composer SectionId := do
  let (copy, change) ← onBody (Body.InPlace.duplicate id)
  modify (·.commit clock change)
  return copy

def attachPhoto (clock : Clock) (list : PhotoList) (photo : PhotoRef) :
    InPlace EditError Composer (Option Change) := do
  match ← onBody (Body.InPlace.attach list photo) with
  | none => return none
  | some change =>
    modify (·.commit clock change)
    return some change

def moveWithin (clock : Clock) (list : PhotoList) (start stop : Nat) :
    InPlace EditError Composer Change := do
  let change ← onBody (Body.InPlace.moveWithin list start stop)
  if start = stop then return change
  else
    modify (·.commit clock change)
    return change

def toggleSelected (id : SectionId) : InPlace EditError Composer Bool := do
  let _ ← onBody (Body.InPlace.indexOf id)
  let selected := (← get).selection.contains id
  if selected then modify (·.deselect id)
  else
    modify fun c => { c with selection := insertId id c.selection }
    modify (·.emit .selectionChanged)
  return !selected

def reorder : Reorder → InPlace EditError Body Change
  | .moveSection id stop => Body.InPlace.move id stop
  | .moveWithin list start stop => Body.InPlace.moveWithin list start stop
  | .moveAcross source index target => Body.InPlace.moveAcross source index target

/-- The gesture ends before its command is carried out. -/
def pointerUp (clock : Clock) (now : Int) : InPlace EditError Composer (Option Change) := do
  let c ← get
  let (command, gesture) := c.gesture.up now c.body
  modify ({ · with gesture })
  match command with
  | none => return none
  | some command => some <$> edit clock (reorder command)

def stage (file : Incoming) : InPlace CaptureError Composer StagedPhoto := do
  match (← get).stage file with
  | .error e => throw (.stage e)
  | .ok (photo, after) =>
    set after
    return photo

/-- The photo is in the stock already when it is attached. -/
def capturePhoto (clock : Clock) (list : PhotoList) (file : Incoming) :
    InPlace CaptureError Composer StagedPhoto := do
  let _ ← mapError .edit (onBody (Body.InPlace.photos list))
  let photo ← stage file
  let _ ← mapError .edit (attachPhoto clock list (.staged photo.id))
  return photo

/-- The steps of a command that may be refused. -/
def perform? (clock : Clock) : Command → Option (InPlace EditError Composer Answer)
  | .removeSection id => some ((.changed ∘ some) <$> removeSection clock id)
  | .updateSection id patch =>
    some ((.changed ∘ some) <$> edit clock (Body.InPlace.update id patch))
  | .moveSection id stop => some ((.changed ∘ some) <$> edit clock (Body.InPlace.move id stop))
  | .duplicateSection id => some (.added <$> duplicateSection clock id)
  | .attachPhoto list photo => some (.changed <$> attachPhoto clock list photo)
  | .removePhoto list photo =>
    some ((.changed ∘ some) <$> edit clock (Body.InPlace.detach list photo))
  | .moveWithin list start stop =>
    some ((.changed ∘ some) <$> moveWithin clock list start stop)
  | .moveAcross source index target =>
    some ((.changed ∘ some) <$> edit clock (Body.InPlace.moveAcross source index target))
  | .toggleSelected id => some (.flag <$> toggleSelected id)
  | .pointer (.up now) => some (.changed <$> pointerUp clock now)
  | _ => none

end Composer.InPlace

/-- An operation that ended with an error was refused. -/
def Answer.ofSteps : Except EditError Answer × Composer → Answer × Composer
  | (.ok answer, c) => (answer, c)
  | (.error e, c) => (.refused e, c)

end SiteReport
