import SiteReport.Composer
import SiteReport.Journal.Edit

/-!
Failures as JSON, for those who record an editing session. The wording of network and format errors
comes from elsewhere and is left out.
-/

namespace SiteReport

def StoreError.toJson : StoreError → Json
  | .corrupt key reason => .record
      [("error", .ofText "Corrupt"), ("message", .ofText (StoreError.message (.corrupt key reason)))]
  | .undecodable => .record [("error", .ofText "Serialization")]
  | .database _ => .record [("error", .ofText "Database")]

namespace NormalizeError

def name : NormalizeError → String
  | .empty => "Empty"
  | .picture _ => "Image"

def toJson (e : NormalizeError) : Json :=
  .record [("error", .ofText e.name), ("message", .ofText e.message)]

end NormalizeError

def StageError.toJson (e : StageError) : Json :=
  match e with
  | .unreadable _ cause => .record
      [("error", .ofText "Normalize"), ("source", .ofText cause.name), ("message", .ofText e.message)]
  | .store cause => cause.toJson
  | .interrupted _ _ => .record
      [("error", .ofText "Interrupted"), ("message", .ofText e.message)]

def CaptureError.toJson : CaptureError → Json
  | .edit cause => cause.toJson
  | .stage cause => cause.toJson

namespace ServiceError

def name : ServiceError → String
  | .http _ => "Http"
  | .status _ _ => "Status"
  | .notAuthenticated => "NotAuthenticated"
  | .notFound _ => "NotFound"
  | .config _ => "Config"
  | .io _ => "Io"
  | .format _ => "Format"

/-- The message, where the wording is ours. -/
def ownMessage? (e : ServiceError) : Option String :=
  match e with
  | .http _ => none
  | .format _ => none
  | e => some e.message

def toJson (e : ServiceError) : Json := .record <|
  [("error", .ofText e.name)] ++ (e.ownMessage?.toList.map fun m => ("message", .ofText m))
    ++ [("transient", .bool e.isTransient), ("code", .ofOption Json.ofText e.code?),
      ("help", .ofOption Json.ofText e.help?)]

/-- A failure to be played back, named under `kind`. -/
def ofJson? (v : Json) : Option ServiceError := do
  match ← v.textAt? "kind" with
  | "status" => some (.status (← v.natAt? "status") (← v.textAt? "body"))
  | "auth" => some .notAuthenticated
  | "not_found" => (v.textAt? "text").map .notFound
  | "config" => (v.textAt? "text").map .config
  | "io" => (v.textAt? "text").map .io
  | "json" => some (.format "expected value at line 1 column 1")
  | "toml" => some (.format "TOML parse error at line 1, column 1")
  | _ => none

end ServiceError

def ValidationError.name : ValidationError → String
  | .missingStore => "MissingStore"
  | .missingBrand => "MissingBrand"
  | .missingDate => "MissingDate"
  | .emptyDocument => "EmptyDocument"

namespace SubmitError

def name : SubmitError → String
  | .validation _ => "Validation"
  | .notAuthenticated => "NotAuthenticated"
  | .transport _ => "Transport"
  | .superseded => "Superseded"

def causeFields : SubmitError → List (String × Json)
  | .validation cause => [("validation", .ofText cause.name)]
  | .transport cause => [("transport", cause.toJson)]
  | _ => []

def toJson (e : SubmitError) : Json := .record <|
  [("error", .ofText e.name), ("message", .ofText e.message), ("transient", .bool e.isTransient),
    ("code", .ofText e.code), ("help", .ofOption Json.ofText e.help?)] ++ e.causeFields

end SubmitError

namespace UploadFailure

def toJson (e : UploadFailure) : Json :=
  match e with
  | .missing => .record [("error", .ofText "Missing"), ("message", .ofText e.message)]
  | .store cause => cause.toJson
  | .service cause => cause.toJson

end UploadFailure

def UploadError.toJson (e : UploadError) : Json := .record
  [("section", e.list.block.toJson), ("category", e.list.category.toJson),
    ("image", e.photo.toJson), ("reason", e.reason.toJson), ("message", .ofText e.message)]

end SiteReport
