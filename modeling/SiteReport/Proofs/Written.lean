import SiteReport.Payload
import SiteReport.Store.Photo
import SiteReport.Proofs.Draft

/-!
Every value that is written reads back as itself: photos of the stock with their bytes, reports as
they are sent, and all that documents and drafts are made of. Only a leap second within a minute
reads back as the second after it.
-/

namespace SiteReport

open Json

/-! ### Photos of the stock -/

theorem Json.toBytes?_ofBytes (bytes : Bytes) : (ofBytes bytes).toBytes? = some bytes := by
  have byte (b : UInt8) : ((ofBytes.ofByte b).toNat? 255).map UInt8.ofNat = some b := by
    have fits : b.toNat ≤ 255 := Nat.le_of_lt_succ b.toNat_lt
    rw [ofBytes.ofByte, ← ofNat, toNat?_ofNat fits, Option.map_some, UInt8.ofNat_toNat]
  rw [ofBytes, toBytes?, List.mapM_map]
  exact (mapM_some fun b _ => byte b).trans (congrArg some (List.map_id bytes))

theorem Json.Within.ofBytes (bytes : Bytes) : Within 1 (ofBytes bytes) := by
  apply Within.array
  intro v member
  obtain ⟨b, -, rfl⟩ := List.mem_map.mp member
  exact .nat (Nat.lt_trans b.toNat_lt (by decide))

namespace StagedPhoto

theorem record?_toJson (p : StagedPhoto) :
    p.toJson.record? ["id", "bytes", "original_name", "created_at", "uploaded", "remote_url"] =
      some [some p.id.toJson, some (ofBytes p.bytes), some (ofText p.name),
        some p.createdAt.toJson, some (.bool p.uploaded), p.remoteUrl.map ofText] := by
  obtain ⟨id, bytes, name, createdAt, uploaded, remoteUrl⟩ := p
  cases remoteUrl <;> exact record?_record (by simp) (by simp)

/-- The photo that the text of a photo tells. -/
def told (p : StagedPhoto) : StagedPhoto := { p with createdAt := p.createdAt.told }

theorem told_eq_self_iff {p : StagedPhoto} : p.told = p ↔ p.createdAt.time.OnMinute := by
  rw [← Timestamp.told_eq_self_iff]
  obtain ⟨id, bytes, name, createdAt, uploaded, remoteUrl⟩ := p
  simp [told]

theorem ofJson?_toJson (p : StagedPhoto) : ofJson? p.toJson = some p.told := by
  have remoteUrl : orElse? none (toOption? toText?) (p.remoteUrl.map ofText) = some p.remoteUrl :=
    orElse?_map toText?_ofText nofun p.remoteUrl
  simp only [ofJson?, record?_toJson, PhotoId.ofJson?_toJson, toBytes?_ofBytes, toText?_ofText,
    Timestamp.ofJson?_toJson, toBool?, remoteUrl, Option.bind_eq_bind, Option.bind_some, told]

theorem within (p : StagedPhoto) : Within 2 p.toJson := by
  have bytes : Within 1 (ofBytes p.bytes) := .ofBytes p.bytes
  apply Within.record
  obtain ⟨_, _, _, _, _, remoteUrl⟩ := p
  cases remoteUrl <;>
    simp_all [PhotoId.toJson, Timestamp.toJson, Within.text, Within.bool]

end StagedPhoto

/-! ### Reports as they are sent -/

namespace PhotoUrls

theorem toJson_eq (u : PhotoUrls) :
    u.toJson = record (u.entries.map fun e => (e.1.name, urlsToJson e.2)) := by
  rw [toJson, entries, List.map_filterMap]
  congr 2
  funext c
  cases u.get? c <;> rfl

theorem ofMembers?_entries (es : List (Category × List String)) (u : PhotoUrls) :
    ofMembers? (es.map fun e => (Quoted.escape e.1.name.toList, urlsToJson e.2)) u =
      some (es.foldl (fun u e => u.set e.2 e.1) u) := by
  induction es generalizing u with
  | nil => rfl
  | cons e rest ih =>
      have category : Category.ofName? e.1.name = some e.1 := by cases e.1 <;> rfl
      have urls : (urlsToJson e.2).toList? toText? = some e.2 :=
        toList?_ofList fun s _ => toText?_ofText s
      rw [List.map_cons, ofMembers?, Quoted.text?_escape]
      simp only [Option.bind_eq_bind, Option.bind_some, String.ofList_toList, category, urls]
      exact ih _

/-- Nothing else is in it. -/
theorem foldl_set_entries (u : PhotoUrls) :
    u.entries.foldl (fun u e => u.set e.2 e.1) {} = u := by
  obtain ⟨before, after, completed⟩ := u
  cases before <;> cases after <;> cases completed <;> rfl

theorem ofJson?_toJson (u : PhotoUrls) : ofJson? u.toJson = some u := by
  have read := ofMembers?_entries u.entries {}
  rw [foldl_set_entries] at read
  rw [toJson_eq, record, ofJson?, List.map_map]
  exact read

theorem within (u : PhotoUrls) : Within 2 u.toJson := by
  rw [toJson_eq]
  apply Within.record
  intro field member
  obtain ⟨e, -, rfl⟩ := List.mem_map.mp member
  exact .ofList fun s _ => .text s

end PhotoUrls

namespace PayloadSection

theorem within (s : PayloadSection) : Within 3 s.toJson := by
  have tag (t : PayloadTag) : Within 2 t.toJson := .text _
  cases s with
  | photos id layout urls =>
      apply Within.record
      simp [tag, id.within, urls.within, Layout.toJson, Within.text]
  | _ id text =>
      apply Within.record
      simp [tag, id.within, Within.text]

theorem ofJson?_toJson {place : Place} {s : PayloadSection}
    (whole : place.admits s.toJson = true) : ofJson? place s.toJson = some s := by
  have named (t : PayloadTag) : t.toJson.tag? place PayloadTag.ofName? PayloadTag.all = some t := by
    rw [PayloadTag.toJson, tag?_ofText]
    cases t <;> rfl
  have texts (id : SectionId) (text : String) :
      (record [("id", id.toJson), ("text", ofText text)]).record? ["id", "text"] =
        some [some id.toJson, some (ofText text)] := record?_record (by simp) (by simp)
  cases s with
  | photos id layout urls =>
      let rest := [("id", id.toJson), ("layout", layout.toJson), ("photos", urls.toJson)]
      have tagged : (photos id layout urls).toJson.tagged? place "type" =
          some (PayloadTag.photos.toJson, record rest) := tagged?_record whole (by simp)
      have fields : (record rest).record? ["id", "layout", "photos"] =
          some [some id.toJson, some layout.toJson, some urls.toJson] :=
        record?_record (by simp [rest]) (by simp [rest])
      simp only [ofJson?, tagged, named, fields, SectionId.ofJson?_toJson, Layout.ofJson?_toJson,
        PhotoUrls.ofJson?_toJson, Option.bind_eq_bind, Option.bind_some]
  | comment id text =>
      have tagged : (comment id text).toJson.tagged? place "type" =
          some (PayloadTag.comment.toJson, record [("id", id.toJson), ("text", ofText text)]) :=
        tagged?_record whole (by simp)
      simp only [ofJson?, tagged, named, texts, SectionId.ofJson?_toJson, toText?_ofText,
        Option.bind_eq_bind, Option.bind_some]
  | workDescription id text =>
      have tagged : (workDescription id text).toJson.tagged? place "type" =
          some (PayloadTag.workDescription.toJson,
            record [("id", id.toJson), ("text", ofText text)]) :=
        tagged?_record whole (by simp)
      simp only [ofJson?, tagged, named, texts, SectionId.ofJson?_toJson, toText?_ofText,
        Option.bind_eq_bind, Option.bind_some]

end PayloadSection

namespace Payload

theorem record?_toJson (p : Payload) :
    p.toJson.record? ["brand", "store_id", "store_name", "date", "start_time", "end_time",
      "checklist", "sections"] =
    some [some (ofText p.brand), some (ofText p.storeId), some (ofText p.storeName),
      some p.date.toJson, p.startTime.map (·.toJson), p.endTime.map (·.toJson),
      some (ofList nameToJson p.checklist), some (ofList PayloadSection.toJson p.sections)] := by
  obtain ⟨brand, storeId, storeName, date, startTime, endTime, checklist, sections⟩ := p
  cases startTime <;> cases endTime <;>
    exact record?_record (by simp [timeField]) (by simp [timeField])

theorem nameOfJson?_nameToJson (name : String) : nameOfJson? (nameToJson name) = some name := by
  have fields : (nameToJson name).record? ["name"] = some [some (ofText name)] :=
    record?_record (by simp) (by simp)
  simp only [nameOfJson?, fields, toText?_ofText, Option.bind_eq_bind, Option.bind_some]

/-- The report that the text of a report tells. -/
def told (p : Payload) : Payload :=
  { p with startTime := p.startTime.map (·.told), endTime := p.endTime.map (·.told) }

/-- No time of the report is a leap second within a minute. -/
def OnMinute (p : Payload) : Prop :=
  (∀ t ∈ p.startTime, t.OnMinute) ∧ ∀ t ∈ p.endTime, t.OnMinute

theorem told_eq_self_iff {p : Payload} : p.told = p ↔ p.OnMinute := by
  obtain ⟨brand, storeId, storeName, date, startTime, endTime, checklist, sections⟩ := p
  simp [told, OnMinute, TimeOfDay.map_told_eq_self_iff]

theorem ofJson?_toJson (p : Payload) : ofJson? p.toJson = some p.told := by
  have time (t? : Option TimeOfDay) : orElse? none (toOption? TimeOfDay.ofJson?)
      (t?.map (·.toJson)) = some (t?.map (·.told)) := by
    cases t? with
    | none => rfl
    | some t => rw [Option.map_some, orElse?, t.toOption?_toJson, Option.map_some]
  have checklist : (ofList nameToJson p.checklist).toList? nameOfJson? = some p.checklist :=
    toList?_ofList fun name _ => nameOfJson?_nameToJson name
  have sections : (ofList PayloadSection.toJson p.sections).toList?
      (PayloadSection.ofJson? Place.top.inside.inside) = some p.sections :=
    toList?_ofList fun s _ => PayloadSection.ofJson?_toJson (s.within.admits (by decide))
  simp only [ofJson?, record?_toJson, toText?_ofText, Date.ofJson?_toJson, time, checklist,
    sections, Option.bind_eq_bind, Option.bind_some, told]

theorem within (p : Payload) : Within 5 p.toJson := by
  have name (s : String) : Within 1 (nameToJson s) := .record (by simp [Within.text])
  have checklist : Within 4 (ofList nameToJson p.checklist) :=
    .ofList fun s _ => (name s).mono (by decide)
  have sections : Within 4 (ofList PayloadSection.toJson p.sections) := .ofList fun s _ => s.within
  apply Within.record
  obtain ⟨_, _, _, _, startTime, endTime, _, _⟩ := p
  cases startTime <;> cases endTime <;>
    simp_all [timeField, Date.toJson, TimeOfDay.toJson, Within.text]

end Payload

/-! ### The texts -/

/-- Reading the compact text of a value gives the value back if none of its times is a leap second
within a minute; such a time is told as the second after it. -/
theorem read_written_text :
    (∀ s : Snapshot, (parse? s.toJson.compact).bind Snapshot.ofJson? = some s.told ∧
      (s.told = s ↔ s.OnMinute)) ∧
    (∀ s : Section, (parse? s.toJson.compact).bind (Section.ofJson? .top) = some s) ∧
    (∀ c : Content, (parse? c.toJson.compact).bind (Content.ofJson? .top) = some c) ∧
    (∀ b : PhotoBlock, (parse? b.toJson.compact).bind (PhotoBlock.ofJson? .top) = some b) ∧
    (∀ p : PhotoRef, (parse? p.toJson.compact).bind (PhotoRef.ofJson? .top) = some p) ∧
    (∀ h : Header, (parse? h.toJson.compact).bind Header.ofJson? = some h.told ∧
      (h.told = h ↔ h.OnMinute)) ∧
    (∀ p : StagedPhoto, (parse? p.toJson.compact).bind StagedPhoto.ofJson? = some p.told ∧
      (p.told = p ↔ p.createdAt.time.OnMinute)) ∧
    (∀ p : Payload, (parse? p.toJson.compact).bind Payload.ofJson? = some p.told ∧
      (p.told = p ↔ p.OnMinute)) := by
  have text {α : Type} {d : Nat} {v : Json} (shallow : Within d v) {ofJson? : Json → Option α}
      {a : α} (read : ofJson? v = some a) : (parse? v.compact).bind ofJson? = some a := by
    rw [parse?_compact shallow.built, Option.bind_some, read]
  refine ⟨?_, ?_, ?_, ?_, ?_, ?_, ?_, ?_⟩
  · exact fun s => ⟨text s.within s.ofJson?_toJson, Snapshot.told_eq_self_iff⟩
  · exact fun s => text s.within (s.ofJson?_toJson (by decide))
  · exact fun c => text c.within (c.ofJson?_toJson (by decide))
  · exact fun b => text b.within (PhotoBlock.ofJson?_toJson (b.within.admits (by decide)))
  · exact fun p => text p.within (PhotoRef.ofJson?_toJson (p.within.admits (by decide)))
  · exact fun h => ⟨text h.within h.ofJson?_toJson, Header.told_eq_self_iff⟩
  · exact fun p => ⟨text p.within p.ofJson?_toJson, StagedPhoto.told_eq_self_iff⟩
  · exact fun p => ⟨text p.within p.ofJson?_toJson, Payload.told_eq_self_iff⟩

namespace Leap

/-- Two thirds of a second into a leap second that follows the second 44. -/
def within : Timestamp :=
  ⟨⟨2023, 6, 30, by decide, by decide, by decide⟩,
    ⟨21, 38, 44, 1666666666, by decide, by decide, by decide, by decide⟩⟩

/-- Two thirds of a second into the second 45. -/
def after : Timestamp :=
  ⟨⟨2023, 6, 30, by decide, by decide, by decide⟩,
    ⟨21, 38, 45, 666666666, by decide, by decide, by decide, by decide⟩⟩

def saved (savedAt : Timestamp) : Snapshot := .capture {} {} none savedAt

/-- The draft that is read from the text of a draft is another one. -/
theorem other_draft_read :
    (parse? (saved within).toJson.compact).bind Snapshot.ofJson? = some (saved after) ∧
      saved after ≠ saved within := by
  refine ⟨?_, by decide⟩
  rw [parse?_compact (saved within).within.built, Option.bind_some, Snapshot.ofJson?_toJson]
  rfl

end Leap

end SiteReport
