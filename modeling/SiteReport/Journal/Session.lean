import SiteReport.Journal.Gesture
import SiteReport.Journal.Submit
import SiteReport.Session

/-!
Commands read from JSON, and answers, events and states as JSON, for those who record an editing
session or play one back.
-/

namespace SiteReport

def ComposerEvent.toJson : ComposerEvent → Json
  | .body change => .record [("model", change.toJson)]
  | .headerChanged => .ofText "header_changed"
  | .selectionChanged => .ofText "selection_changed"
  | .draftSaved _ => .ofText "draft_saved"
  | .draftCleared => .ofText "draft_cleared"
  | .draftRestored detached =>
    .record [("draft_restored", .ofList DetachedPhotos.toJson detached)]
  | .submitted id => .record [("submitted", .ofText id)]
  | .documentReset => .ofText "document_reset"

/-- So many events are kept for a listener who is late. -/
def eventBacklog : Nat := 64

/-- The events since a listener last looked; of more than the backlog the first ones are lost, and
their number is told instead. -/
def ComposerEvent.listToJson (events : List ComposerEvent) : Json :=
  let lost := events.length - eventBacklog
  .array <| (if lost = 0 then [] else [.record [("lagged", .ofNat lost)]])
    ++ (events.drop lost).map toJson

def Composer.toJson (c : Composer) : Json := .record <|
  [("header", c.header.toJson)] ++ c.body.toFields
    ++ [("remote_id", .ofOption Json.ofText c.remoteId),
      ("selection", .ofList SectionId.toJson c.selection), ("dirty", .bool c.isDirty),
      ("generation", .ofNat c.generation), ("revision", .ofNat c.revision)]

namespace Answer

def storeResult {α : Type} (success : α → Json) (r : Except StoreError α) : Json :=
  outcomeToJson StoreError.toJson success r

/-- Photos that `fresh` tells of are shown without their time, and so are drafts. There is no
answer when the program cannot go on. -/
def toJson? (fresh : PhotoId → Bool) : Answer → Option Json
  | .done => some (.ofText "ok")
  | .refused cause => some cause.toJson
  | .storeFailed cause => some cause.toJson
  | .captureFailed cause => some cause.toJson
  | .noWindow _ => none
  | .tooFar => none
  | .added id => some (.record [("id", id.toJson)])
  | .changed change => some (.ofOption Change.toJson change)
  | .removed changes => some (.ofList Change.toJson changes)
  | .copied ids => some (.ofList SectionId.toJson ids)
  | .flag value => some (.bool value)
  | .drag armed target =>
    some (.record [("armed", .bool armed), ("target", .ofOption DropTarget.toJson target)])
  | .photo found => some (.ofOption (StagedPhoto.outline fresh) found)
  | .photos all => some (.ofList (StagedPhoto.outline fresh) all)
  | .staged report => some (report.toJson fresh)
  | .deleted result previews =>
    some (.record [("removed", storeResult .bool result), ("previews", .ofNat previews)])
  | .cleared result previews => some (.record
      [("cleared", storeResult (fun _ => .ofText "ok") result), ("previews", .ofNat previews)])
  | .preview result previews => some (.record
      [("preview", storeResult (.ofOption (.ofText ∘ Picture.summary)) result),
        ("previews", .ofNat previews)])
  | .draft found => some (.ofOption (fun d => .record [("snapshot", Snapshot.timeless d)]) found)
  | .checked result => some (result.toJson Snapshot.timeless)
  | .restored report => some (.record
      [("sections", .ofNat report.sections),
        ("detached_photos", .ofList DetachedPhotos.toJson report.detached)])
  | .run r => some (r.toJson r.outcome.toJson)
  | .applied result => some (SubmitReport.resultToJson result)
  | .submitted r result => some (r.toJson (SubmitReport.resultToJson result))

end Answer

/-- The header with the fields of an object put in their places. -/
def Header.updated (h : Header) (v : Json) : Header :=
  match h.toJson, v with
  | .object members, .object set =>
    (ofJson? (.object (members.map fun m => (m.1, (set.lookup m.1).getD m.2)))).getD h
  | _, _ => h

/-- A command on the body, on the selection or on the drag, named under `do`. -/
def Command.ofJson? (header : Header) (v : Json) : Option Command := do
  match ← v.textAt? "do" with
  | "update_header" => (v.field? "set").map fun set => .setHeader (header.updated set)
  | "set_remote_id" => (v.textAt? "id").map .setRemoteId
  | "toggle_selected" => (v.fieldAs? "id" SectionId.ofJson?).map .toggleSelected
  | "clear_selection" => some .clearSelection
  | "remove_selected" => some .removeSelected
  | "duplicate_selected" => some .duplicateSelected
  | "pointer_down" =>
    some (.pointer (.down (← v.fieldAs? "source" DragSource.ofJson?)
      (← v.fieldAs? "input" Pointer.ofJson?) (← v.fieldAs? "at" Point.ofJson?) (← v.intAt? "t")))
  | "pointer_move" =>
    some (.pointer (.move (← v.fieldAs? "at" Point.ofJson?) (v.fieldAs? "hit" DropTarget.ofJson?)
      (← v.intAt? "t")))
  | "tick" => (v.intAt? "t").map (.pointer ∘ .tick)
  | "pointer_up" => (v.intAt? "t").map (.pointer ∘ .up)
  | "cancel_drag" => some (.pointer .cancel)
  | "media_get" => (v.fieldAs? "id" PhotoId.ofJson?).map .photo
  | "media_list" => some .photos
  | "media_remove" => (v.fieldAs? "id" PhotoId.ofJson?).map .deletePhoto
  | "media_clear" => some .deletePhotos
  | "mark_uploaded" =>
    some (.markUploaded (← v.fieldAs? "id" PhotoId.ofJson?) (← v.textAt? "url"))
  | "preview" => (v.fieldAs? "id" PhotoId.ofJson?).map .preview
  | "flush_draft" => some .flushDraft
  | "draft_load" => some .loadDraft
  | "decline_draft" => some .declineDraft
  | "discard_document" => some .discardDocument
  | _ =>
    match ← Edit.ofJson? v with
    | .add kind => some (.addSection kind)
    | .addBlock layout => some (.addBlock layout)
    | .remove id => some (.removeSection id)
    | .update id patch => some (.updateSection id patch)
    | .move id stop => some (.moveSection id stop)
    | .duplicate id => some (.duplicateSection id)
    | .attach list image => some (.attachPhoto list image)
    | .detach list image => some (.removePhoto list image)
    | .moveWithin list start stop => some (.moveWithin list start stop)
    | .moveAcross source index target => some (.moveAcross source index target)
    | _ => none

end SiteReport
