import SiteReport.Photo.Block
import SiteReport.Json.Printer
import SiteReport.Json.Record

/-!
Photos and photo blocks as JSON. References carry the tag `state`, blocks the tag `layout`; both
are read whole, wherever the tag stands among the keys.
-/

namespace SiteReport

namespace PhotoId

def toJson (i : PhotoId) : Json := .ofText i.text

def ofJson? (v : Json) : Option PhotoId := v.toText?.bind parse?

end PhotoId

namespace Category

def toJson (c : Category) : Json := .ofText c.name

def ofJson? (place : Json.Place) (v : Json) : Option Category := v.choice? place ofName?

end Category

namespace Layout

def toJson (l : Layout) : Json := .ofText l.name

def ofJson? (place : Json.Place) (v : Json) : Option Layout := v.choice? place ofName?

end Layout

namespace UploadCategory

def toJson (c : UploadCategory) : Json := .ofText c.name

def ofJson? (place : Json.Place) (v : Json) : Option UploadCategory := v.choice? place ofName?

end UploadCategory

/-- The tags of a photo reference. -/
inductive RefState where
  | resolved
  | staged

namespace RefState

def name : RefState → String
  | .resolved => "resolved"
  | .staged => "staged"

def all : List RefState := [.resolved, .staged]

def ofName? (s : String) : Option RefState := all.find? (·.name == s)

end RefState

namespace PhotoRef

def toJson : PhotoRef → Json
  | .resolved url => .record [("state", .ofText RefState.resolved.name), ("url", .ofText url)]
  | .staged id => .record [("state", .ofText RefState.staged.name), ("id", id.toJson)]

def ofJson? (place : Json.Place) (v : Json) : Option PhotoRef := do
  let (tag, rest) ← v.tagged? place "state"
  match ← tag.tag? place RefState.ofName? RefState.all with
  | .resolved =>
    match ← rest.record? ["url"] with
    | [some url] => url.toText?.map .resolved
    | _ => none
  | .staged =>
    match ← rest.record? ["id"] with
    | [some id] => (PhotoId.ofJson? id).map .staged
    | _ => none

def listToJson (photos : List PhotoRef) : Json := .ofList toJson photos

/-- The photos of a list inside a block that has been read whole. -/
def listOfJson? (v : Json) : Option (List PhotoRef) := v.toList? (ofJson? .held)

end PhotoRef

namespace PhotoBlock

def toJson : PhotoBlock → Json
  | .beforeAfter before after => .record
      [("layout", Layout.beforeAfter.toJson), ("before", PhotoRef.listToJson before),
        ("after", PhotoRef.listToJson after)]
  | .completed finished => .record
      [("layout", Layout.completed.toJson), ("completed", PhotoRef.listToJson finished)]

def ofJson? (place : Json.Place) (v : Json) : Option PhotoBlock := do
  let (tag, rest) ← v.tagged? place "layout"
  match ← tag.tag? place Layout.ofName? Layout.all with
  | .beforeAfter =>
    match ← rest.record? ["before", "after"] with
    | [some before, some after] => do
      let before ← PhotoRef.listOfJson? before
      let after ← PhotoRef.listOfJson? after
      some (.beforeAfter before after)
    | _ => none
  | .completed =>
    match ← rest.record? ["completed"] with
    | [some finished] => (PhotoRef.listOfJson? finished).map .completed
    | _ => none

end PhotoBlock

end SiteReport
