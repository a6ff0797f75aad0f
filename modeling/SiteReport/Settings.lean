import SiteReport.Json.Printer
import SiteReport.Json.Record
import SiteReport.Picture.Normalize
import SiteReport.Service.Error

/-!
The settings of the program with their defaults: how to reach the server, where the store lies, and
the limits and delays of editing.
-/

namespace SiteReport

structure ApiSettings where
  endpoint : String := "http://localhost:8080/api"
  timeoutSecs : Nat := 30
  /-- The environment variable that holds the token. -/
  tokenEnv : String := "FIELDREPORT_TOKEN"
  deriving DecidableEq, Inhabited

structure StorageSettings where
  dbPath : String := "fieldreport.db"
  deriving DecidableEq, Inhabited

structure EditSettings where
  autosaveDebounceMs : Nat := 1000
  draftFreshnessHours : Int := 24
  maxImageWidth : Nat := 1600
  jpegQuality : Nat := 80
  previewWidth : Nat := 256
  stageBatchSize : Nat := 3
  stageProgressThreshold : Nat := 10
  uploadBatchSize : Nat := 3
  holdDelayMs : Nat := 300
  dragThresholdPx : Int32 := 5
  pruneAfterSubmit : Bool := true
  deriving DecidableEq, Inhabited

structure Settings where
  api : ApiSettings := {}
  storage : StorageSettings := {}
  edit : EditSettings := {}
  deriving DecidableEq, Inhabited

namespace EditSettings

/-- The longest window in hours for which the span in milliseconds fits 64 bits. -/
def windowLimit : Int := 2562047788015

/-- The age in nanoseconds at which a draft is too old. There is none for hours past the limit, and
then the program cannot go on. -/
def draftWindow? (e : EditSettings) : Option Int :=
  if -windowLimit ≤ e.draftFreshnessHours ∧ e.draftFreshnessHours ≤ windowLimit then
    some (e.draftFreshnessHours * 3600000000000)
  else none

def normalizer (e : EditSettings) (codec : Codec) : Normalizer :=
  { codec, maxWidth := e.maxImageWidth, quality := e.jpegQuality, previewWidth := e.previewWidth }

def names : List String :=
  ["autosave_debounce_ms", "draft_freshness_hours", "max_image_width", "jpeg_quality",
    "preview_width", "stage_batch_size", "stage_progress_threshold", "upload_batch_size",
    "hold_delay_ms", "drag_threshold_px", "prune_after_submit"]

def toJson (e : EditSettings) : Json := .record
  [("autosave_debounce_ms", .ofNat e.autosaveDebounceMs),
    ("draft_freshness_hours", .ofInt e.draftFreshnessHours),
    ("max_image_width", .ofNat e.maxImageWidth),
    ("jpeg_quality", .ofNat e.jpegQuality),
    ("preview_width", .ofNat e.previewWidth),
    ("stage_batch_size", .ofNat e.stageBatchSize),
    ("stage_progress_threshold", .ofNat e.stageProgressThreshold),
    ("upload_batch_size", .ofNat e.uploadBatchSize),
    ("hold_delay_ms", .ofNat e.holdDelayMs),
    ("drag_threshold_px", .ofInt e.dragThresholdPx.toInt),
    ("prune_after_submit", .bool e.pruneAfterSubmit)]

/-- Limits of 8, 32 and 64 bits. -/
def byteLimit : Nat := 255

def wordLimit : Nat := 4294967295

def longLimit : Nat := 18446744073709551615

/-- Every field may be missing, in the array form too. -/
def ofJson? (v : Json) : Option EditSettings := do
  let base : EditSettings := {}
  match ← v.record? names with
  | [debounce, hours, maxWidth, quality, preview, batch, progress, upload, hold, drag, prune] => do
    let debounce ← Json.orElse? base.autosaveDebounceMs (Json.toNat? longLimit) debounce
    let hours ← Json.orElse? base.draftFreshnessHours
      (Json.toInt? (-9223372036854775808) 9223372036854775807) hours
    let maxWidth ← Json.orElse? base.maxImageWidth (Json.toNat? wordLimit) maxWidth
    let quality ← Json.orElse? base.jpegQuality (Json.toNat? byteLimit) quality
    let preview ← Json.orElse? base.previewWidth (Json.toNat? wordLimit) preview
    let batch ← Json.orElse? base.stageBatchSize (Json.toNat? longLimit) batch
    let progress ← Json.orElse? base.stageProgressThreshold (Json.toNat? longLimit) progress
    let upload ← Json.orElse? base.uploadBatchSize (Json.toNat? longLimit) upload
    let hold ← Json.orElse? base.holdDelayMs (Json.toNat? longLimit) hold
    let drag ← Json.orElse? base.dragThresholdPx Json.toInt32? drag
    let prune ← Json.orElse? base.pruneAfterSubmit Json.toBool? prune
    some {
      autosaveDebounceMs := debounce, draftFreshnessHours := hours, maxImageWidth := maxWidth,
      jpegQuality := quality, previewWidth := preview, stageBatchSize := batch,
      stageProgressThreshold := progress, uploadBatchSize := upload, holdDelayMs := hold,
      dragThresholdPx := drag, pruneAfterSubmit := prune }
  | _ => none

end EditSettings

/-- Settings that no run could work with are refused; of several faults the first is named. -/
def Settings.check (s : Settings) : Except ServiceError Settings :=
  if s.edit.jpegQuality = 0 ∨ 100 < s.edit.jpegQuality then
    .error (.config "composer.jpeg_quality must be in 1..=100")
  else if s.edit.stageBatchSize = 0 ∨ s.edit.uploadBatchSize = 0 then
    .error (.config "composer batch sizes must be at least 1")
  else if s.edit.maxImageWidth = 0 then
    .error (.config "composer.max_image_width must be positive")
  else .ok s

end SiteReport
