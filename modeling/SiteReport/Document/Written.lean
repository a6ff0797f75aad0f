import SiteReport.Document.Body
import SiteReport.Document.Header
import SiteReport.Calendar.Written
import SiteReport.Photo.Written

/-!
Sections and headers as JSON. The content of a section stands under `data`, next to its `kind`;
when `data` comes first it is read whole before the kind is known.
-/

namespace SiteReport

namespace SectionId

/-- The largest identifier. -/
def limit : Nat := 4294967295

def toJson (id : SectionId) : Json := .ofNat id.number.toNat

def ofJson? (v : Json) : Option SectionId := (v.toNat? limit).map fun n => ⟨UInt32.ofNat n⟩

end SectionId

namespace SectionKind

def toJson (kind : SectionKind) : Json := .ofText kind.name

def ofJson? (place : Json.Place) (v : Json) : Option SectionKind := v.choice? place ofName?

end SectionKind

namespace Content

def dataToJson : Content → Json
  | .checklistItem name => .record [("name", .ofText name)]
  | .photos block => block.toJson
  | .comment text => .record [("text", .ofText text)]
  | .workDescription text => .record [("text", .ofText text)]

def toJson (c : Content) : Json := .record [("kind", c.kind.toJson), ("data", c.dataToJson)]

/-- The only field of an object, a text. -/
def textField? (name : String) (v : Json) : Option String := do
  match ← v.object? [name] with
  | [some text] => text.toText?
  | _ => none

def ofData? (place : Json.Place) (kind : SectionKind) (v : Json) : Option Content :=
  match kind with
  | .checklistItem => (textField? "name" v).map .checklistItem
  | .photoBlock => (PhotoBlock.ofJson? place v).map .photos
  | .comment => (textField? "text" v).map .comment
  | .workDescription => (textField? "text" v).map .workDescription

/-- Which of the two keys comes first? -/
def dataFirst (members : List (String × Json)) : Bool :=
  (members.find? fun m => m.1 == "kind" || m.1 == "data").any (·.1 == "data")

def ofJson? (place : Json.Place) (v : Json) : Option Content := do
  match v with
  | .array [kind, data] => do
    let kind ← SectionKind.ofJson? place kind
    ofData? place.inside kind data
  | v => do
    let members ← v.members?
    match ← Json.pick? ["kind", "data"] members with
    | [some kind, some data] => do
      let kind ← SectionKind.ofJson? place kind
      if dataFirst members then
        if place.inside.admits data then ofData? .held kind data else none
      else ofData? place.inside kind data
    | _ => none

end Content

namespace Section

def toJson (s : Section) : Json := .record [("id", s.id.toJson), ("payload", s.content.toJson)]

def ofJson? (place : Json.Place) (v : Json) : Option Section := do
  match ← v.record? ["id", "payload"] with
  | [some id, some content] => do
    let id ← SectionId.ofJson? id
    let content ← Content.ofJson? place.inside content
    some ⟨id, content⟩
  | _ => none

def listToJson (sections : List Section) : Json := .ofList toJson sections

end Section

namespace Header

def toJson (h : Header) : Json := .record
  [("brand", .ofText h.brand), ("store_id", .ofText h.storeId),
    ("store_name", .ofText h.storeName), ("date", .ofOption Date.toJson h.date),
    ("start_time", .ofOption TimeOfDay.toJson h.startTime),
    ("end_time", .ofOption TimeOfDay.toJson h.endTime)]

/-- Every field may be missing, in the array form too. -/
def ofJson? (v : Json) : Option Header := do
  match ← v.record? ["brand", "store_id", "store_name", "date", "start_time", "end_time"] with
  | [brand, storeId, storeName, date, startTime, endTime] => do
    let brand ← Json.orElse? "" Json.toText? brand
    let storeId ← Json.orElse? "" Json.toText? storeId
    let storeName ← Json.orElse? "" Json.toText? storeName
    let date ← Json.orElse? none (Json.toOption? Date.ofJson?) date
    let startTime ← Json.orElse? none (Json.toOption? TimeOfDay.ofJson?) startTime
    let endTime ← Json.orElse? none (Json.toOption? TimeOfDay.ofJson?) endTime
    some { brand, storeId, storeName, date, startTime, endTime }
  | _ => none

end Header

end SiteReport
