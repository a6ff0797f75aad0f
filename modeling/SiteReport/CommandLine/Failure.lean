import SiteReport.Description.Apply
import SiteReport.Settings.File
import SiteReport.Submission

/-!
The ways in which a call of the program ends without success.
-/

namespace SiteReport

/-- Why a call ends without success. -/
inductive Failure where
  | settings (cause : SettingsError)
  | opening (path : String)
  | reading (path : String)
  | parsing (path : String)
  | nothingStaged
  | notAnId (text : String)
  | notStaged (id : PhotoId)
  | store (cause : StoreError)
  /-- The settings give no window for drafts, and the program breaks off. -/
  | noWindow (hours : Int)
  | noReport
  | description (cause : DescriptionError)
  | noDirectory
  | malformedDirectory
  | lookup (cause : ServiceError)
  | submit (cause : SubmitError)
  deriving DecidableEq

namespace Failure

def message : Failure → String
  | .settings cause => cause.message
  | .opening path => "opening " ++ path
  | .reading path => "reading " ++ path
  | .parsing path => "parsing " ++ path
  | .nothingStaged => "no file could be staged"
  | .notAnId text => "not a staged image id: " ++ text
  | .notStaged id => "no staged image " ++ id.text
  | .store cause => cause.message
  | .noWindow hours => "no window of " ++ hours.repr ++ " hours"
  | .noReport => "no report given and no fresh draft to resume"
  | .description cause => cause.message
  | .noDirectory => "the report names a store but no directory was given"
  | .malformedDirectory => "the stores are no directory"
  | .lookup cause => cause.message
  | .submit cause => cause.message

def code? : Failure → Option String
  | .settings cause => cause.code?
  | .lookup cause => cause.code?
  | .submit cause => some cause.code
  | _ => none

def help? : Failure → Option String
  | .noDirectory => some "pass --stores <file> with the store directory"
  | .lookup cause => cause.help?
  | .submit cause => cause.help?
  | _ => none

def exitCode : Failure → UInt8
  | .noWindow _ => 101
  | _ => 1

end Failure

/-- A look at the draft that failed. -/
def Failure.ofCheckError : CheckError → Failure
  | .noWindow hours => .noWindow hours
  | .store cause => .store cause

end SiteReport
