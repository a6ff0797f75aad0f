import SiteReport.Files.Folder
import SiteReport.Settings
import SiteReport.Toml.Parser

/-!
The settings file: TOML with a section each for the server, the store and the composer. Everything
may be missing and has a default then; names nobody knows are passed over. Before the file is read,
`$NAME` is replaced by the value of the environment variable of that name.
-/

namespace SiteReport

/-- A variable of the environment with its value. -/
structure Variable where
  name : String
  value : String
  deriving DecidableEq

namespace Settings

/-- Replaces a pattern wherever it stands, from left to right. The pattern is its first character
and the others. -/
def replaceAll (first : Char) (others value : List Char) : (steps : Nat) → List Char → List Char
  | 0, cs => cs
  | steps + 1, cs =>
    match cs with
    | [] => []
    | c :: rest =>
      if c = first ∧ others.isPrefixOf rest then
        value ++ replaceAll first others value steps (rest.drop others.length)
      else c :: replaceAll first others value steps rest

/-- Puts in the variables one after another, so that a value may bring in a later variable. -/
def substitute (environment : List Variable) (text : String) : String :=
  String.ofList <| environment.foldl
    (fun cs v => replaceAll '$' v.name.toList v.value.toList (cs.length + 1) cs) text.toList

end Settings

namespace Toml

/-- The fields of a section, by their names or in their order. A date has no fields at all. -/
def fields? (names : List String) : Toml → Option (List (Option Toml))
  | .table entries => some (names.map fun name => entries.lookup name)
  | .array items => some (names.mapIdx fun i _ => items[i]?)
  | .moment _ => some (names.map fun _ => none)
  | _ => none

/-- The value, the default when there is none, and nothing when it does not fit. -/
def field? {α : Type} (default : α) (read : Toml → Option α) : Option Toml → Option α
  | none => some default
  | some v => read v

def toText? : Toml → Option String
  | .string s => some s
  | _ => none

def toBool? : Toml → Option Bool
  | .bool b => some b
  | _ => none

def toInt? (low high : Int) : Toml → Option Int
  | .integer n => if low ≤ n ∧ n ≤ high then some n else none
  | _ => none

def toNat? (limit : Nat) (v : Toml) : Option Nat := (v.toInt? 0 limit).map Int.toNat

/-- A whole number of 32 bits. -/
def toInt32? (v : Toml) : Option Int32 :=
  (v.toInt? Int32.minValue.toInt Int32.maxValue.toInt).map Int32.ofInt

end Toml

/-- The largest number that a settings file can hold. -/
def fileLimit : Nat := 9223372036854775807

namespace ApiSettings

def ofToml? (v : Toml) : Option ApiSettings := do
  let base : ApiSettings := {}
  match ← v.fields? ["endpoint", "timeout_secs", "token_env"] with
  | [endpoint, timeout, token] => do
    let endpoint ← Toml.field? base.endpoint Toml.toText? endpoint
    let timeoutSecs ← Toml.field? base.timeoutSecs (Toml.toNat? fileLimit) timeout
    let tokenEnv ← Toml.field? base.tokenEnv Toml.toText? token
    some { endpoint, timeoutSecs, tokenEnv }
  | _ => none

def toJson (a : ApiSettings) : Json := .record
  [("endpoint", .ofText a.endpoint), ("timeout_secs", .ofNat a.timeoutSecs),
    ("token_env", .ofText a.tokenEnv)]

end ApiSettings

namespace StorageSettings

def ofToml? (v : Toml) : Option StorageSettings := do
  let base : StorageSettings := {}
  match ← v.fields? ["db_path"] with
  | [path] => (Toml.field? base.dbPath Toml.toText? path).map StorageSettings.mk
  | _ => none

def toJson (s : StorageSettings) : Json := .record [("db_path", .ofText s.dbPath)]

end StorageSettings

namespace EditSettings

def ofToml? (v : Toml) : Option EditSettings := do
  let base : EditSettings := {}
  match ← v.fields? names with
  | [debounce, hours, maxWidth, quality, preview, batch, progress, upload, hold, drag, prune] => do
    let debounce ← Toml.field? base.autosaveDebounceMs (Toml.toNat? fileLimit) debounce
    let hours ← Toml.field? base.draftFreshnessHours (Toml.toInt? (-fileLimit - 1) fileLimit) hours
    let maxWidth ← Toml.field? base.maxImageWidth (Toml.toNat? wordLimit) maxWidth
    let quality ← Toml.field? base.jpegQuality (Toml.toNat? byteLimit) quality
    let preview ← Toml.field? base.previewWidth (Toml.toNat? wordLimit) preview
    let batch ← Toml.field? base.stageBatchSize (Toml.toNat? fileLimit) batch
    let progress ← Toml.field? base.stageProgressThreshold (Toml.toNat? fileLimit) progress
    let upload ← Toml.field? base.uploadBatchSize (Toml.toNat? fileLimit) upload
    let hold ← Toml.field? base.holdDelayMs (Toml.toNat? fileLimit) hold
    let drag ← Toml.field? base.dragThresholdPx Toml.toInt32? drag
    let prune ← Toml.field? base.pruneAfterSubmit Toml.toBool? prune
    some {
      autosaveDebounceMs := debounce, draftFreshnessHours := hours, maxImageWidth := maxWidth,
      jpegQuality := quality, previewWidth := preview, stageBatchSize := batch,
      stageProgressThreshold := progress, uploadBatchSize := upload, holdDelayMs := hold,
      dragThresholdPx := drag, pruneAfterSubmit := prune }
  | _ => none

end EditSettings

namespace Settings

def ofToml? (v : Toml) : Option Settings := do
  let base : Settings := {}
  match ← v.fields? ["api", "storage", "composer"] with
  | [api, storage, edit] => do
    let api ← Toml.field? base.api ApiSettings.ofToml? api
    let storage ← Toml.field? base.storage StorageSettings.ofToml? storage
    let edit ← Toml.field? base.edit EditSettings.ofToml? edit
    some { api, storage, edit }
  | _ => none

def toJson (s : Settings) : Json := .record
  [("api", s.api.toJson), ("storage", s.storage.toJson), ("composer", s.edit.toJson)]

end Settings

inductive SettingsError where
  /-- The file cannot be read. -/
  | unreadable (path : String) (cause : ReadError)
  /-- The file is not TOML, or a value does not fit its name. -/
  | malformed
  /-- No run could work with the settings. -/
  | refused (cause : ServiceError)
  deriving DecidableEq

namespace SettingsError

def message : SettingsError → String
  | .unreadable path cause => "error reading config file " ++ path ++ ": " ++ cause.message
  | .malformed => "error parsing config file"
  | .refused cause => cause.message

def code? : SettingsError → Option String
  | .refused cause => cause.code?
  | _ => none

end SettingsError

namespace Settings

/-- The settings that a text gives. -/
def parse (environment : List Variable) (text : String) : Except SettingsError Settings :=
  match (Toml.parse? (substitute environment text)).bind ofToml? with
  | none => .error .malformed
  | some s => s.check.mapError .refused

/-- The settings of a file that has to be there. -/
def load (environment : List Variable) (look : String → Look) (path : String) :
    Except SettingsError Settings :=
  match (look path).text with
  | .error cause => .error (.unreadable path cause)
  | .ok text => parse environment text

/-- The settings of a file, or the defaults if there is none. -/
def loadOrDefault (environment : List Variable) (look : String → Look) (path : String) :
    Except SettingsError Settings :=
  match look path with
  | .absent => .ok {}
  | _ => load environment look path

end Settings

end SiteReport
