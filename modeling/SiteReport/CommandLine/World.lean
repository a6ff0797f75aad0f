import SiteReport.CommandLine.Failure
import SiteReport.Service.Client
import SiteReport.Settings.File
import SiteReport.Submission

/-!
The world around a call of the program, and what a task tells it.
-/

namespace SiteReport

structure World where
  environment : List Variable
  look : String → Look
  now : Timestamp
  /-- Identifiers for the photos that this call stages. -/
  fresh : Nat → PhotoId
  network : Network
  codec : Codec
  /-- How the files of one batch end, and the uploads. -/
  completion : Completion := .inTurn

namespace World

def valueOf? (w : World) (name : String) : Option String :=
  (w.environment.find? (·.name == name)).map (·.value)

/-- Nothing here waits, so all happens at one instant. -/
def clock (w : World) : Clock := ⟨0, w.now⟩

end World

/-- What a task says on its way. -/
structure Told where
  result : Except Failure Unit := .ok ()
  output : List String := []
  notes : List String := []
  trace : List SubmitEvent := []

namespace Told

def failed (e : Failure) : Told := { result := .error e }

def said (lines : List String) : Told := { output := lines }

end Told

end SiteReport
