import SiteReport.Document.Written
import SiteReport.Json.Field

/-!
Edits, changes and refusals as JSON, for those who record an editing session or play one back.
-/

namespace SiteReport

namespace PhotoList

def toJson (list : PhotoList) : Json :=
  .record [("section", list.block.toJson), ("category", list.category.toJson)]

def ofJson? (v : Json) : Option PhotoList := do
  let block ← v.fieldAs? "section" SectionId.ofJson?
  let category ← v.fieldAs? "category" (Category.ofJson? .top)
  some ⟨block, category⟩

end PhotoList

/-- A patch is known by the one field that it sets. -/
def SectionPatch.ofJson? (v : Json) : Option SectionPatch :=
  ((v.textAt? "name").map .name).or
    (((v.textAt? "text").map .text).or ((v.fieldAs? "layout" (Layout.ofJson? .top)).map .layout))

/-- Addresses are given by identifier; what is no identifier is left out. -/
def Resolution.ofJson (v : Json) : Resolution :=
  { resolved := (v.membersAt "resolved").filterMap fun (id, url) => do
      some (← PhotoId.parse? id, ← url.toText?)
    dropped := (v.itemsAt "dropped").filterMap PhotoId.ofJson? }

/-- The kind of a change comes first. -/
def Change.toJson (change : Change) : Json := .record <|
  match change with
  | .added id index => [("type", .ofText "added"), ("id", id.toJson), ("index", .ofNat index)]
  | .removed id index => [("type", .ofText "removed"), ("id", id.toJson), ("index", .ofNat index)]
  | .updated id => [("type", .ofText "updated"), ("id", id.toJson)]
  | .moved id start stop =>
    [("type", .ofText "moved"), ("id", id.toJson), ("from", .ofNat start), ("to", .ofNat stop),
      ("noop", .bool change.isNoop)]
  | .duplicated source copy =>
    [("type", .ofText "duplicated"), ("source", source.toJson), ("id", copy.toJson)]
  | .photosChanged id => [("type", .ofText "photos_changed"), ("id", id.toJson)]
  | .photoMoved source target =>
    [("type", .ofText "photo_moved"), ("from", source.toJson), ("to", target.toJson)]
  | .replaced => [("type", .ofText "replaced")]

namespace EditError

def name : EditError → String
  | .unknownSection _ => "UnknownSection"
  | .indexOutOfRange _ _ => "IndexOutOfRange"
  | .patchMismatch _ _ => "PatchMismatch"
  | .notPhotoBlock _ => "NotAnImageBlock"
  | .categoryNotInLayout _ _ _ => "CategoryNotInLayout"
  | .photoNotFound _ _ => "ImageNotFound"
  | .layoutNotEmpty _ => "LayoutNotEmpty"
  | .stagedElsewhere _ _ => "StagedCategoryConflict"

def toJson (e : EditError) : Json :=
  .record [("error", .ofText e.name), ("message", .ofText e.message)]

end EditError

/-- An edit is named under `do`; its arguments stand beside the name. -/
def Edit.ofJson? (v : Json) : Option Edit := do
  match ← v.textAt? "do" with
  | "add_section" => (v.fieldAs? "kind" (SectionKind.ofJson? .top)).map .add
  | "add_image_block" => (v.fieldAs? "layout" (Layout.ofJson? .top)).map .addBlock
  | "push" => (v.fieldAs? "payload" (Content.ofJson? .top)).map .push
  | "remove_section" => (v.fieldAs? "id" SectionId.ofJson?).map .remove
  | "update_section" =>
    some (.update (← v.fieldAs? "id" SectionId.ofJson?) (← v.fieldAs? "patch" SectionPatch.ofJson?))
  | "move_section" => some (.move (← v.fieldAs? "id" SectionId.ofJson?) (← v.natAt? "to"))
  | "duplicate_section" => (v.fieldAs? "id" SectionId.ofJson?).map .duplicate
  | "attach_image" =>
    some (.attach (← v.fieldAs? "list" PhotoList.ofJson?)
      (← v.fieldAs? "image" (PhotoRef.ofJson? .top)))
  | "remove_image" =>
    some (.detach (← v.fieldAs? "list" PhotoList.ofJson?)
      (← v.fieldAs? "image" (PhotoRef.ofJson? .top)))
  | "move_image_within" =>
    some (.moveWithin (← v.fieldAs? "list" PhotoList.ofJson?) (← v.natAt? "from")
      (← v.natAt? "to"))
  | "move_image_across" =>
    some (.moveAcross (← v.fieldAs? "from" PhotoList.ofJson?) (← v.natAt? "index")
      (← v.fieldAs? "to" PhotoList.ofJson?))
  | "resolve_staged" => some (.resolve (.ofJson v))
  | "clear" => some .clear
  | _ => none

end SiteReport
