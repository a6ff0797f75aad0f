import SiteReport.Document.Written

/-!
The report as it is sent: checklist names in a list of their own, the other sections in order, and
photos as addresses only. A document can be sent when it names a store, a brand and a date and has
something in it.
-/

namespace SiteReport

/-- The addresses of a block's photos, for the lists that the block has. -/
structure PhotoUrls where
  before : Option (List String) := none
  after : Option (List String) := none
  completed : Option (List String) := none
  deriving DecidableEq, Inhabited

inductive PayloadSection where
  | photos (id : SectionId) (layout : Layout) (urls : PhotoUrls)
  | comment (id : SectionId) (text : String)
  | workDescription (id : SectionId) (text : String)
  deriving DecidableEq

structure Payload where
  brand : String
  storeId : String
  storeName : String
  date : Date
  startTime : Option TimeOfDay
  endTime : Option TimeOfDay
  checklist : List String
  sections : List PayloadSection
  deriving DecidableEq

inductive ValidationError where
  | missingStore
  | missingBrand
  | missingDate
  | emptyDocument
  deriving DecidableEq

namespace ValidationError

def message : ValidationError → String
  | .missingStore => "a store must be selected"
  | .missingBrand => "a brand name is required"
  | .missingDate => "a report date is required"
  | .emptyDocument => "the report is empty"

def code : ValidationError → String
  | .missingStore => "fieldreport::validation::store"
  | .missingBrand => "fieldreport::validation::brand"
  | .missingDate => "fieldreport::validation::date"
  | .emptyDocument => "fieldreport::validation::empty"

def help? : ValidationError → Option String
  | .emptyDocument => some "add a checklist item, a photo or some text before submitting"
  | _ => none

end ValidationError

/-- The date of a document that can be sent. -/
def validate (header : Header) (body : Body) : Except ValidationError Date :=
  if Text.isBlank header.storeId then .error .missingStore
  else if Text.isBlank header.brand then .error .missingBrand
  else
    match header.date with
    | none => .error .missingDate
    | some date =>
      if body.sections.all (·.content.isBlank) then .error .emptyDocument else .ok date

namespace PhotoUrls

def get? (u : PhotoUrls) : Category → Option (List String)
  | .before => u.before
  | .after => u.after
  | .completed => u.completed

/-- The lists that there are, with their categories. -/
def entries (u : PhotoUrls) : List (Category × List String) :=
  Category.all.filterMap fun c => (u.get? c).map (c, ·)

def set (u : PhotoUrls) (urls : List String) : Category → PhotoUrls
  | .before => { u with before := some urls }
  | .after => { u with after := some urls }
  | .completed => { u with completed := some urls }

def urlsToJson (urls : List String) : Json := .ofList Json.ofText urls

/-- The lists in the order of the categories. -/
def toJson (u : PhotoUrls) : Json := .record <|
  Category.all.filterMap fun c => (u.get? c).map fun urls => (c.name, urlsToJson urls)

def ofMembers? : List (List Char × Json) → PhotoUrls → Option PhotoUrls
  | [], u => some u
  | (key, v) :: rest, u => do
    let key ← Json.Quoted.text? key
    let category ← Category.ofName? (String.ofList key)
    let urls ← v.toList? Json.toText?
    ofMembers? rest (u.set urls category)

/-- The last of several lists of one category counts. -/
def ofJson? : Json → Option PhotoUrls
  | .object members => ofMembers? members {}
  | _ => none

end PhotoUrls

/-- The tags of a section that is sent. -/
inductive PayloadTag where
  | photos
  | comment
  | workDescription

namespace PayloadTag

def name : PayloadTag → String
  | .photos => "image_block"
  | .comment => "comment"
  | .workDescription => "work_description"

def all : List PayloadTag := [.photos, .comment, .workDescription]

def ofName? (s : String) : Option PayloadTag := all.find? (·.name == s)

def toJson (t : PayloadTag) : Json := .ofText t.name

end PayloadTag

namespace PayloadSection

def toJson : PayloadSection → Json
  | .photos id layout urls => .record
      [("type", PayloadTag.photos.toJson), ("id", id.toJson), ("layout", layout.toJson),
        ("photos", urls.toJson)]
  | .comment id text => .record
      [("type", PayloadTag.comment.toJson), ("id", id.toJson), ("text", .ofText text)]
  | .workDescription id text => .record
      [("type", PayloadTag.workDescription.toJson), ("id", id.toJson), ("text", .ofText text)]

def ofJson? (place : Json.Place) (v : Json) : Option PayloadSection := do
  let (tag, rest) ← v.tagged? place "type"
  match ← tag.tag? place PayloadTag.ofName? PayloadTag.all with
  | .photos =>
    match ← rest.record? ["id", "layout", "photos"] with
    | [some id, some layout, some urls] => do
      let id ← SectionId.ofJson? id
      let layout ← Layout.ofJson? .held layout
      let urls ← PhotoUrls.ofJson? urls
      some (.photos id layout urls)
    | _ => none
  | .comment =>
    match ← rest.record? ["id", "text"] with
    | [some id, some text] => do
      let id ← SectionId.ofJson? id
      let text ← text.toText?
      some (.comment id text)
    | _ => none
  | .workDescription =>
    match ← rest.record? ["id", "text"] with
    | [some id, some text] => do
      let id ← SectionId.ofJson? id
      let text ← text.toText?
      some (.workDescription id text)
    | _ => none

end PayloadSection

namespace Payload

/-- The addresses of a list: those of photos on the server, and those that staged photos have come
to. Staged photos without an address are left out. -/
def urls (resolved : List (PhotoId × String)) (photos : List PhotoRef) : List String :=
  photos.filterMap fun
    | .resolved url => some url
    | .staged id => resolved.lookup id

def blockUrls (resolved : List (PhotoId × String)) : PhotoBlock → PhotoUrls
  | .beforeAfter before after =>
    { before := some (urls resolved before), after := some (urls resolved after) }
  | .completed finished => { completed := some (urls resolved finished) }

/-- A checklist item that is not blank, as its trimmed name. -/
def checklistName? (s : Section) : Option String :=
  match s.content with
  | .checklistItem name => if Text.isBlank name then none else some (Text.trim name)
  | _ => none

def sectionOf? (resolved : List (PhotoId × String)) (s : Section) : Option PayloadSection :=
  match s.content with
  | .checklistItem _ => none
  | .photos block => some (.photos s.id block.layout (blockUrls resolved block))
  | .comment text => some (.comment s.id text)
  | .workDescription text => some (.workDescription s.id text)

def assemble (header : Header) (date : Date) (body : Body)
    (resolved : List (PhotoId × String)) : Payload :=
  { brand := Text.trim header.brand
    storeId := Text.trim header.storeId
    storeName := header.storeName
    date
    startTime := header.startTime
    endTime := header.endTime
    checklist := body.sections.filterMap checklistName?
    sections := body.sections.filterMap (sectionOf? resolved) }

def nameToJson (name : String) : Json := .record [("name", .ofText name)]

def nameOfJson? (v : Json) : Option String := do
  match ← v.record? ["name"] with
  | [some name] => name.toText?
  | _ => none

def timeField (key : String) : Option TimeOfDay → List (String × Json)
  | some t => [(key, t.toJson)]
  | none => []

/-- Times are left out when there are none. -/
def toJson (p : Payload) : Json := .record <|
  [("brand", .ofText p.brand), ("store_id", .ofText p.storeId),
    ("store_name", .ofText p.storeName), ("date", p.date.toJson)]
    ++ timeField "start_time" p.startTime ++ timeField "end_time" p.endTime
    ++ [("checklist", .ofList nameToJson p.checklist),
      ("sections", .ofList PayloadSection.toJson p.sections)]

def ofJson? (v : Json) : Option Payload := do
  match ← v.record? ["brand", "store_id", "store_name", "date", "start_time", "end_time",
      "checklist", "sections"] with
  | [some brand, some storeId, some storeName, some date, startTime, endTime, some checklist,
      some sections] => do
    let brand ← brand.toText?
    let storeId ← storeId.toText?
    let storeName ← storeName.toText?
    let date ← Date.ofJson? date
    let startTime ← Json.orElse? none (Json.toOption? TimeOfDay.ofJson?) startTime
    let endTime ← Json.orElse? none (Json.toOption? TimeOfDay.ofJson?) endTime
    let checklist ← checklist.toList? nameOfJson?
    let sections ← sections.toList? (PayloadSection.ofJson? Json.Place.top.inside.inside)
    some { brand, storeId, storeName, date, startTime, endTime, checklist, sections }
  | _ => none

def text (p : Payload) : String := p.toJson.compact

end Payload

end SiteReport
