import SiteReport.Document.Written
import SiteReport.Files.Path
import SiteReport.Json.Parser

/-!
Report descriptions: JSON texts that tell of a whole report at once. A photo is described by its
address, by its identifier in the local stock, or by the path of a file that is still to be staged.
-/

namespace SiteReport

inductive DescribedPhoto where
  | url (url : String)
  | staged (id : PhotoId)
  | file (path : String)
  deriving DecidableEq

inductive DescribedSection where
  | checklistItem (name : String)
  /-- The lists in the order of the categories, each category at most once. -/
  | photos (layout : Layout) (lists : List (Category × List DescribedPhoto))
  | comment (text : String)
  | workDescription (text : String)
  deriving DecidableEq

structure Description where
  header : Header := {}
  /-- The identifier of a store to be looked up in the directory. -/
  store : Option String := none
  /-- The report on the server that is to be replaced. -/
  remoteId : Option String := none
  sections : List DescribedSection
  deriving DecidableEq

namespace DescribedPhoto

/-- The value under a key that occurs once. -/
def only? (key : String) (members : List (String × Json)) : Option Json :=
  match members.filter (·.1 == key) with
  | [(_, v)] => some v
  | _ => none

/-- Of an object with both an address and an identifier, the address counts if it is one. -/
def ofJson? (v : Json) : Option DescribedPhoto :=
  match v with
  | .string _ => v.toText?.map .file
  | _ => v.members?.bind fun members =>
    (((only? "url" members).bind Json.toText?).map .url).or
      (((only? "staged" members).bind PhotoId.ofJson?).map .staged)

/-- The path of a file to be staged. -/
def path? : DescribedPhoto → Option String
  | .file path => some path
  | _ => none

end DescribedPhoto

namespace DescribedSection

/-- The lists of a map from categories; of several lists of one category the last one counts. -/
def listsOfJson? (v : Json) : Option (List (Category × List DescribedPhoto)) := do
  let members ← v.members?
  let lists ← members.mapM fun (key, list) => do
    let category ← Category.ofName? key
    let described ← list.toList? DescribedPhoto.ofJson?
    some (category, described)
  some (Category.all.filterMap fun c => (lists.reverse.lookup c).map (c, ·))

def ofText? (make : String → DescribedSection) (name : String) (v : Json) :
    Option DescribedSection := do
  match ← v.record? [name] with
  | [some text] => text.toText?.map make
  | _ => none

def photosOfJson? (v : Json) : Option DescribedSection := do
  match ← v.record? ["layout", "photos"] with
  | [layout, lists] => do
    let layout ← Json.orElse? Layout.beforeAfter (Layout.ofJson? .held) layout
    let lists ← Json.orElse? [] listsOfJson? lists
    some (.photos layout lists)
  | _ => none

def ofJson? (place : Json.Place) (v : Json) : Option DescribedSection := do
  let (tag, rest) ← v.tagged? place "kind"
  match ← tag.tag? place SectionKind.ofName? SectionKind.all with
  | .checklistItem => ofText? .checklistItem "name" rest
  | .photoBlock => photosOfJson? rest
  | .comment => ofText? .comment "text" rest
  | .workDescription => ofText? .workDescription "text" rest

/-- Paths of the files to be staged. -/
def paths : DescribedSection → List String
  | .photos _ lists => lists.flatMap fun list => list.2.filterMap DescribedPhoto.path?
  | _ => []

end DescribedSection

namespace Description

def ofJson? (v : Json) : Option Description := do
  match ← v.record? ["header", "store", "remote_id", "sections"] with
  | [header, store, remoteId, some sections] => do
    let header ← Json.orElse? {} Header.ofJson? header
    let store ← Json.orElse? none (Json.toOption? Json.toText?) store
    let remoteId ← Json.orElse? none (Json.toOption? Json.toText?) remoteId
    let sections ← sections.toList? (DescribedSection.ofJson? Json.Place.top.inside.inside)
    some { header, store, remoteId, sections }
  | _ => none

def parse? (text : String) : Option Description := (Json.parse? text).bind ofJson?

/-- Paths of the photos to be staged, as seen from where the folder of the description is seen. -/
def paths (d : Description) (folder : String) : List String :=
  (d.sections.flatMap DescribedSection.paths).map (Path.join folder)

end Description

end SiteReport
