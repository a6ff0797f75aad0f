import SiteReport.Photo.Written
import SiteReport.Proofs.Json.Record
import SiteReport.Proofs.Photo.Id

/-!
Photos and photo blocks that were written read back as themselves, in every place that admits what
was written: as a value of its own, or inside something that has been read whole.
-/

namespace SiteReport

open Json

theorem PhotoId.ofJson?_toJson (id : PhotoId) : ofJson? id.toJson = some id := by
  rw [ofJson?, toJson, toText?_ofText, Option.bind_some, parse?_text]

theorem Layout.tag?_toJson (place : Place) (layout : Layout) :
    layout.toJson.tag? place ofName? all = some layout := by
  rw [toJson, tag?_ofText]
  cases layout <;> rfl

theorem Layout.ofJson?_toJson (place : Place) (layout : Layout) :
    ofJson? place layout.toJson = some layout := by
  rw [ofJson?, toJson, choice?_ofText]
  cases layout <;> rfl

namespace PhotoRef

theorem within (p : PhotoRef) : Within 1 p.toJson := by
  cases p <;> (apply Within.record; simp [PhotoId.toJson, Within.text])

theorem ofJson?_toJson {place : Place} {p : PhotoRef} (whole : place.admits p.toJson = true) :
    ofJson? place p.toJson = some p := by
  cases p with
  | resolved url =>
      let rest := [("url", ofText url)]
      have tagged : (PhotoRef.resolved url).toJson.tagged? place "state" =
          some (ofText RefState.resolved.name, record rest) := tagged?_record whole (by simp)
      have fields : (record rest).record? ["url"] = some [some (ofText url)] :=
        record?_record (by simp [rest]) (by simp [rest])
      have state : RefState.ofName? RefState.resolved.name = some .resolved := rfl
      simp only [ofJson?, tagged, tag?_ofText, state, fields, toText?_ofText,
        Option.bind_eq_bind, Option.bind_some, Option.map_some]
  | staged id =>
      let rest := [("id", id.toJson)]
      have tagged : (PhotoRef.staged id).toJson.tagged? place "state" =
          some (ofText RefState.staged.name, record rest) := tagged?_record whole (by simp)
      have fields : (record rest).record? ["id"] = some [some id.toJson] :=
        record?_record (by simp [rest]) (by simp [rest])
      have state : RefState.ofName? RefState.staged.name = some .staged := rfl
      simp only [ofJson?, tagged, tag?_ofText, state, fields, PhotoId.ofJson?_toJson,
        Option.bind_eq_bind, Option.bind_some, Option.map_some]

theorem listOfJson?_listToJson (photos : List PhotoRef) :
    listOfJson? (listToJson photos) = some photos :=
  toList?_ofList fun _ _ => ofJson?_toJson rfl

end PhotoRef

namespace PhotoBlock

theorem within (block : PhotoBlock) : Within 3 block.toJson := by
  have listed (photos : List PhotoRef) : Within 2 (PhotoRef.listToJson photos) :=
    .ofList fun p _ => p.within
  cases block <;> (apply Within.record; simp [Layout.toJson, Within.text, listed])

theorem ofJson?_toJson {place : Place} {block : PhotoBlock}
    (whole : place.admits block.toJson = true) : ofJson? place block.toJson = some block := by
  cases block with
  | beforeAfter before after =>
      let rest := [("before", PhotoRef.listToJson before), ("after", PhotoRef.listToJson after)]
      have tagged : (beforeAfter before after).toJson.tagged? place "layout" =
          some (Layout.beforeAfter.toJson, record rest) := tagged?_record whole (by simp)
      have fields : (record rest).record? ["before", "after"] =
          some [some (PhotoRef.listToJson before), some (PhotoRef.listToJson after)] :=
        record?_record (by simp [rest]) (by simp [rest])
      simp only [ofJson?, tagged, Layout.tag?_toJson, fields, PhotoRef.listOfJson?_listToJson,
        Option.bind_eq_bind, Option.bind_some]
  | completed finished =>
      let rest := [("completed", PhotoRef.listToJson finished)]
      have tagged : (completed finished).toJson.tagged? place "layout" =
          some (Layout.completed.toJson, record rest) := tagged?_record whole (by simp)
      have fields : (record rest).record? ["completed"] =
          some [some (PhotoRef.listToJson finished)] :=
        record?_record (by simp [rest]) (by simp [rest])
      simp only [ofJson?, tagged, Layout.tag?_toJson, fields, PhotoRef.listOfJson?_listToJson,
        Option.bind_eq_bind, Option.bind_some, Option.map_some]

end PhotoBlock

end SiteReport
