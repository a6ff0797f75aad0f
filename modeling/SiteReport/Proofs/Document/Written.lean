import SiteReport.Document.Written
import SiteReport.Proofs.Calendar.Written
import SiteReport.Proofs.Document.Lists
import SiteReport.Proofs.Photo.Written

/-!
Sections and headers that were written read back as themselves, but for leap seconds within a
minute. A block needs room for its three levels below the place where it stands.
-/

namespace SiteReport

open Json

theorem SectionId.ofJson?_toJson (id : SectionId) : ofJson? id.toJson = some id := by
  have fits : id.number.toNat ≤ limit := Nat.le_of_lt_succ id.number.toNat_lt
  rw [ofJson?, toJson, toNat?_ofNat fits, Option.map_some, UInt32.ofNat_toNat]

theorem SectionId.within (id : SectionId) {d : Nat} : Within d id.toJson :=
  .nat (Nat.lt_trans id.number.toNat_lt (by decide))

theorem SectionKind.ofJson?_toJson (place : Place) (kind : SectionKind) :
    ofJson? place kind.toJson = some kind := by
  rw [ofJson?, toJson, choice?_ofText]
  cases kind <;> rfl

namespace Content

theorem textField?_record (name s : String) :
    textField? name (record [(name, ofText s)]) = some s := by
  have fields : (record [(name, ofText s)]).object? [name] = some [some (ofText s)] := by
    rw [object?_record (by simp) (by simp)]
    simp
  rw [textField?, fields]
  exact toText?_ofText s

theorem ofData?_dataToJson {n : Nat} (room : n + 3 ≤ depthLimit) (c : Content) :
    ofData? (.streamed n) c.kind c.dataToJson = some c := by
  cases c with
  | checklistItem name => exact congrArg (Option.map _) (textField?_record "name" name)
  | comment text => exact congrArg (Option.map _) (textField?_record "text" text)
  | workDescription text => exact congrArg (Option.map _) (textField?_record "text" text)
  | photos block =>
      exact congrArg (Option.map _) (PhotoBlock.ofJson?_toJson (block.within.admits room))

theorem ofJson?_toJson {n : Nat} (room : n + 4 ≤ depthLimit) (c : Content) :
    ofJson? (.streamed n) c.toJson = some c := by
  let fields := [("kind", c.kind.toJson), ("data", c.dataToJson)]
  have written : c.toJson = record fields := rfl
  have members : (record fields).members? = some fields := members?_record fields
  have picked : pick? ["kind", "data"] fields = some [some c.kind.toJson, some c.dataToJson] :=
    pick?_fields (by simp [fields]) (by simp [fields])
  have order : dataFirst fields = false := rfl
  have data := ofData?_dataToJson (n := n + 1) (by omega) c
  unfold ofJson?
  rw [written]
  split
  · rename_i array
    cases array
  · simp only [members, picked, SectionKind.ofJson?_toJson, order, Place.inside, data,
      Option.bind_eq_bind, Option.bind_some]
    rfl

theorem within (c : Content) : Within 4 c.toJson := by
  have data : Within 3 c.dataToJson := by
    cases c with
    | photos block => exact block.within
    | _ => exact .record (by simp [Within.text])
  apply Within.record
  simp [data, SectionKind.toJson, Within.text]

end Content

namespace Section

theorem ofJson?_toJson {n : Nat} (room : n + 5 ≤ depthLimit) (s : Section) :
    ofJson? (.streamed n) s.toJson = some s := by
  have fields : s.toJson.record? ["id", "payload"] =
      some [some s.id.toJson, some s.content.toJson] := record?_record (by simp) (by simp)
  have content := Content.ofJson?_toJson (n := n + 1) (by omega) s.content
  simp only [ofJson?, fields, SectionId.ofJson?_toJson, Place.inside, content,
    Option.bind_eq_bind, Option.bind_some]

theorem within (s : Section) : Within 5 s.toJson := by
  apply Within.record
  simp [s.content.within, s.id.within]

end Section

/-! ### Headers -/

namespace Header

/-- The header that the text of a header tells. -/
def told (h : Header) : Header :=
  { h with startTime := h.startTime.map (·.told), endTime := h.endTime.map (·.told) }

/-- No time of the header is a leap second within a minute. -/
def OnMinute (h : Header) : Prop :=
  (∀ t ∈ h.startTime, t.OnMinute) ∧ ∀ t ∈ h.endTime, t.OnMinute

theorem told_eq_self_iff {h : Header} : h.told = h ↔ h.OnMinute := by
  obtain ⟨brand, storeId, storeName, date, startTime, endTime⟩ := h
  simp [told, OnMinute, TimeOfDay.map_told_eq_self_iff]

theorem ofJson?_toJson (h : Header) : ofJson? h.toJson = some h.told := by
  have fields : h.toJson.record?
      ["brand", "store_id", "store_name", "date", "start_time", "end_time"] =
      some [some (ofText h.brand), some (ofText h.storeId), some (ofText h.storeName),
        some (ofOption Date.toJson h.date), some (ofOption TimeOfDay.toJson h.startTime),
        some (ofOption TimeOfDay.toJson h.endTime)] := record?_record (by simp) (by simp)
  have date : (ofOption Date.toJson h.date).toOption? Date.ofJson? = some h.date :=
    toOption?_ofOption (fun d _ => d.ofJson?_toJson) (by rintro _ ⟨⟩)
  have time (t? : Option TimeOfDay) :
      (ofOption TimeOfDay.toJson t?).toOption? TimeOfDay.ofJson? = some (t?.map (·.told)) := by
    cases t? with
    | none => rfl
    | some t => exact t.toOption?_toJson
  simp only [ofJson?, fields, orElse?, toText?_ofText, date, time, Option.bind_eq_bind,
    Option.bind_some, told]

theorem onMinute_of_ofJson? {v : Json} {h : Header} (read : ofJson? v = some h) :
    h.OnMinute := by
  obtain ⟨fields, -, rest⟩ := Option.bind_eq_some_iff.mp read
  split at rest
  · simp only [Option.bind_eq_bind, Option.bind_eq_some_iff] at rest
    obtain ⟨_, -, _, -, _, -, _, -, startTime, starts, endTime, ends, same⟩ := rest
    cases same
    constructor
    · intro t member
      have there : startTime = some t := member
      obtain ⟨v, told⟩ := Json.exists_of_orElse?_toOption? (there ▸ starts)
      exact TimeOfDay.onMinute_of_ofJson? told
    · intro t member
      have there : endTime = some t := member
      obtain ⟨v, told⟩ := Json.exists_of_orElse?_toOption? (there ▸ ends)
      exact TimeOfDay.onMinute_of_ofJson? told
  · cases rest

theorem within (h : Header) : Within 1 h.toJson := by
  have date : Within 0 (ofOption Date.toJson h.date) := .ofOption (fun _ => .text _) _
  have time (t? : Option TimeOfDay) : Within 0 (ofOption TimeOfDay.toJson t?) :=
    .ofOption (fun _ => .text _) _
  apply Within.record
  simp [Within.text, date, time]

end Header

end SiteReport
