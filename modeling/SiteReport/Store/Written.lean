import SiteReport.Files.Folder
import SiteReport.Json.Parser
import SiteReport.Store.Database
import SiteReport.Text.Base64

/-!
The file of a database: a mark that no text begins with, and the rows as JSON. Opening a path gives
the database of its file, and an empty one where a file can still be made.
-/

namespace SiteReport

namespace PhotoRow

def toJson (r : PhotoRow) : Json := .record
  [("id", .ofText r.id), ("bytes", .string (Text.Base64.encode r.bytes)), ("name", .ofText r.name),
    ("created", .ofInt r.createdMillis), ("uploaded", .bool r.uploaded),
    ("url", .ofOption Json.ofText r.remoteUrl)]

def ofJson? (v : Json) : Option PhotoRow := do
  match ← v.record? ["id", "bytes", "name", "created", "uploaded", "url"] with
  | [some id, some bytes, some name, some created, some uploaded, some url] => do
    let id ← id.toText?
    let bytes ← bytes.toText?
    let bytes ← Text.Base64.decode? bytes.toList
    let name ← name.toText?
    let createdMillis ← created.toInt? (-9223372036854775808) 9223372036854775807
    let uploaded ← uploaded.toBool?
    let remoteUrl ← url.toOption? Json.toText?
    some { id, bytes, name, createdMillis, uploaded, remoteUrl }
  | _ => none

end PhotoRow

namespace DraftRow

def toJson (r : DraftRow) : Json := .record [("key", .ofText r.key), ("text", .ofText r.text)]

def ofJson? (v : Json) : Option DraftRow := do
  match ← v.record? ["key", "text"] with
  | [some key, some text] => do
    let key ← key.toText?
    let text ← text.toText?
    some { key, text }
  | _ => none

end DraftRow

namespace Database

def toJson (d : Database) : Json := .record
  [("photos", .ofList PhotoRow.toJson d.photos), ("drafts", .ofList DraftRow.toJson d.drafts)]

def ofJson? (v : Json) : Option Database := do
  match ← v.record? ["photos", "drafts"] with
  | [some photos, some drafts] => do
    let photos ← photos.toList? PhotoRow.ofJson?
    let drafts ← drafts.toList? DraftRow.ofJson?
    some { photos, drafts }
  | _ => none

/-- The first byte of a database, which no text in UTF-8 contains. -/
def mark : UInt8 := 0xFF

def toFile (d : Database) : Bytes := mark :: d.toJson.compact.toUTF8.toList

/-- An empty file is an empty database. -/
def ofFile? : Bytes → Option Database
  | [] => some {}
  | first :: rest =>
    if first = mark then
      ((String.fromUTF8? ⟨rest.toArray⟩).bind Json.parse?).bind ofJson?
    else none

/-- Paths of databases that last no longer than the program. -/
def isPassing (path : String) : Bool := path == "" || path == ":memory:"

/-- Opens the database at a path. It has to be one, or the place has to be free for one. -/
def atPath? (look : String → Look) (path : String) : Option Database :=
  if isPassing path then some {}
  else match look path with
    | .file bytes => ofFile? bytes
    | .folder => none
    | .locked => none
    | .absent =>
      if Path.endsInName path && look (Path.around path) = .folder then some {} else none

end Database

end SiteReport
