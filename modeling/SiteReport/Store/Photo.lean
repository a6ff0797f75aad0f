import SiteReport.Draft
import SiteReport.Picture.Codec

/-!
Photos in the local stock, and what can go wrong with the stock and the draft.
-/

namespace SiteReport

/-- A normalized photo that waits to be sent. -/
structure StagedPhoto where
  id : PhotoId
  bytes : Bytes
  name : String
  createdAt : Timestamp
  uploaded : Bool
  remoteUrl : Option String
  deriving DecidableEq

namespace StagedPhoto

/-- The address of a finished upload. -/
def uploadedUrl? (p : StagedPhoto) : Option String := if p.uploaded then p.remoteUrl else none

/-- The address is left out when there is none. -/
def toJson (p : StagedPhoto) : Json := .record <|
  [("id", p.id.toJson), ("bytes", .ofBytes p.bytes), ("original_name", .ofText p.name),
    ("created_at", p.createdAt.toJson), ("uploaded", .bool p.uploaded)]
    ++ (match p.remoteUrl with
      | some url => [("remote_url", .ofText url)]
      | none => [])

def ofJson? (v : Json) : Option StagedPhoto := do
  match ← v.record?
      ["id", "bytes", "original_name", "created_at", "uploaded", "remote_url"] with
  | [some id, some bytes, some name, some createdAt, some uploaded, remoteUrl] => do
    let id ← PhotoId.ofJson? id
    let bytes ← bytes.toBytes?
    let name ← name.toText?
    let createdAt ← Timestamp.ofJson? createdAt
    let uploaded ← uploaded.toBool?
    let remoteUrl ← Json.orElse? none (Json.toOption? Json.toText?) remoteUrl
    some { id, bytes, name, createdAt, uploaded, remoteUrl }
  | _ => none

end StagedPhoto

inductive StoreError where
  | corrupt (key reason : String)
  | undecodable
  | database (text : String)
  deriving DecidableEq

namespace StoreError

def message : StoreError → String
  | .corrupt key reason => "corrupt record " ++ key ++ ": " ++ reason
  | .undecodable => "stored record could not be decoded"
  | .database text => text

end StoreError

end SiteReport
