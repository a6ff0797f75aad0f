import Mathlib.Data.List.Forall2
import SiteReport.Draft
import SiteReport.Proofs.Document.Reachable
import SiteReport.Proofs.Document.Written

/-!
What a draft keeps of a document. The text of a draft says everything that the draft does, but for
leap seconds within a minute, and the document that comes back differs from the one that was saved
in its photos only: they are counted, block by block.
-/

namespace SiteReport

open Json

/-! ### The text of a draft -/

theorem DetachedPhotos.ofJson?_toJson (d : DetachedPhotos) : ofJson? d.toJson = some d := by
  have fits : d.count.toNat ≤ limit := Nat.le_of_lt_succ d.count.toNat_lt
  have fields : d.toJson.record? ["section", "count"] =
      some [some d.block.toJson, some (.ofNat d.count.toNat)] :=
    record?_record (by simp) (by simp)
  simp only [ofJson?, fields, SectionId.ofJson?_toJson, toNat?_ofNat fits, Option.bind_eq_bind,
    Option.bind_some, UInt64.ofNat_toNat]

theorem DetachedPhotos.within (d : DetachedPhotos) : Within 1 d.toJson := by
  apply Within.record
  simp [d.block.within, Within.nat d.count.toNat_lt]

namespace Snapshot

/-- The fields that may be left out, as they are written. -/
theorem record?_toJson (s : Snapshot) :
    s.toJson.record?
      ["header", "sections", "section_counter", "remote_id", "detached_photos", "saved_at"] =
    some [some s.header.toJson, some (Section.listToJson s.sections), some (.ofNat s.counter.toNat),
      s.remoteId.map ofText,
      if s.detached.isEmpty then none else some (ofList DetachedPhotos.toJson s.detached),
      some s.savedAt.toJson] := by
  obtain ⟨header, sections, counter, remoteId, detached, savedAt⟩ := s
  cases remoteId <;> cases detached <;> exact record?_record (by simp) (by simp)

/-- The draft that the text of a draft tells. -/
def told (s : Snapshot) : Snapshot :=
  { s with header := s.header.told, savedAt := s.savedAt.told }

/-- No time of the draft is a leap second within a minute. -/
def OnMinute (s : Snapshot) : Prop := s.header.OnMinute ∧ s.savedAt.time.OnMinute

theorem told_eq_self_iff {s : Snapshot} : s.told = s ↔ s.OnMinute := by
  rw [OnMinute, ← Header.told_eq_self_iff, ← Timestamp.told_eq_self_iff]
  obtain ⟨header, sections, counter, remoteId, detached, savedAt⟩ := s
  simp [told]

theorem told_capture (header : Header) (b : Body) (remoteId : Option String)
    (savedAt : Timestamp) :
    (capture header b remoteId savedAt).told = capture header.told b remoteId savedAt.told := rfl

theorem ofJson?_toJson (s : Snapshot) : ofJson? s.toJson = some s.told := by
  have sections : (Section.listToJson s.sections).toList?
      (Section.ofJson? Place.top.inside.inside) = some s.sections :=
    toList?_ofList fun t _ => Section.ofJson?_toJson (by decide) t
  have fits : s.counter.toNat ≤ SectionId.limit := Nat.le_of_lt_succ s.counter.toNat_lt
  have remoteId : orElse? none (toOption? toText?) (s.remoteId.map ofText) = some s.remoteId :=
    orElse?_map toText?_ofText nofun s.remoteId
  have detached : orElse? [] (toList? DetachedPhotos.ofJson?)
      (if s.detached.isEmpty then none else some (ofList DetachedPhotos.toJson s.detached)) =
      some s.detached := by
    cases s.detached with
    | nil => rfl
    | cons d rest => exact toList?_ofList fun d _ => d.ofJson?_toJson
  simp only [ofJson?, record?_toJson, Header.ofJson?_toJson, sections, toNat?_ofNat fits, remoteId,
    detached, Timestamp.ofJson?_toJson, Option.bind_eq_bind, Option.bind_some, UInt32.ofNat_toNat,
    told]

theorem within (s : Snapshot) : Within 7 s.toJson := by
  have header : Within 6 s.header.toJson := s.header.within.mono (by decide)
  have sections : Within 6 (Section.listToJson s.sections) := .ofList fun t _ => t.within
  have counter : Within 6 (.ofNat s.counter.toNat) :=
    .nat (Nat.lt_trans s.counter.toNat_lt (by decide))
  have detached : Within 6 (ofList DetachedPhotos.toJson s.detached) :=
    .ofList fun d _ => d.within.mono (by decide)
  apply Within.record
  obtain ⟨_, _, _, remoteId, ds, savedAt⟩ := s
  cases remoteId <;> cases ds <;>
    simp_all [Within.text, Timestamp.toJson]

/-- A draft is read back from its text. -/
theorem parse?_text (s : Snapshot) : parse? s.text = some s.told := by
  rw [parse?, text, parse?_compact s.within.built, Option.bind_some, ofJson?_toJson]

/-- The times of a draft that was read lie in no leap second within a minute. -/
theorem onMinute_header {text : String} {s : Snapshot} (parsed : parse? text = some s) :
    s.header.OnMinute := by
  obtain ⟨v, -, read⟩ := Option.bind_eq_some_iff.mp parsed
  obtain ⟨fields, -, rest⟩ := Option.bind_eq_some_iff.mp read
  split at rest
  · obtain ⟨header, told, rest⟩ := Option.bind_eq_some_iff.mp rest
    simp only [Option.bind_eq_bind, Option.bind_eq_some_iff] at rest
    obtain ⟨_, -, _, -, _, -, _, -, _, -, same⟩ := rest
    cases same
    exact Header.onMinute_of_ofJson? told
  · cases rest

theorem capture_plain (header : Header) (b : Body) (remoteId : Option String)
    (savedAt : Timestamp) : ∀ t ∈ (capture header b remoteId savedAt).sections,
      t.content.withoutPhotos = t.content := by
  intro t member
  obtain ⟨s, -, rfl⟩ := List.mem_map.mp member
  exact s.content.withoutPhotos_withoutPhotos

end Snapshot

/-! ### The restored document -/

/-- A section comes back as it was, but for the photos of a block. -/
structure Section.Returns (s t : Section) : Prop where
  id_eq : t.id = s.id
  block : ∀ block, s.content = .photos block → t.content = .photos (.empty block.layout)
  other : s.content.block? = none → t.content = s.content

/-- The photos in all lists of a section. -/
def Section.photoCount (s : Section) : Nat := (s.lists.flatMap (·.2)).length

/-- What a draft brings back of a document with the given header, body and remote identifier. -/
structure Restored.Returns (r : Restored) (header : Header) (b : Body) (remoteId : Option String) :
    Prop where
  header_eq : r.header = header
  remoteId_eq : r.remoteId = remoteId
  counter_eq : r.body.counter = b.counter
  ids_eq : r.body.ids = b.ids
  sections : List.Forall₂ Section.Returns b.sections r.body.sections
  detached_eq : r.detached = (b.sections.filter (0 < ·.photoCount)).map fun s =>
    ⟨s.id, UInt64.ofNat s.photoCount⟩

theorem Section.returns_withoutPhotos (s : Section) :
    s.Returns { s with content := s.content.withoutPhotos } := by
  refine ⟨rfl, ?_, ?_⟩
  · intro block photos
    rw [photos]
    rfl
  · intro text
    cases content : s.content with
    | photos block =>
        rw [content] at text
        cases text
    | _ => rfl

theorem Section.Returns.eq {s t : Section} (h : s.Returns t) :
    t = { s with content := s.content.withoutPhotos } := by
  obtain ⟨id, content⟩ := t
  obtain ⟨rfl, block, other⟩ := h
  have content_eq : content = s.content.withoutPhotos := by
    cases kept : s.content with
    | photos photos => exact block photos kept
    | _ => exact (other (by rw [kept]; rfl)).trans kept
  rw [content_eq]

/-- Nothing else comes back. -/
theorem Restored.Returns.eq {r : Restored} {header : Header} {b : Body} {remoteId : Option String}
    (h : r.Returns header b remoteId) :
    r = { header, remoteId
          body := ⟨b.sections.map fun s => { s with content := s.content.withoutPhotos }, b.counter⟩
          detached := (b.sections.filter (0 < ·.photoCount)).map fun s =>
            ⟨s.id, UInt64.ofNat s.photoCount⟩ } := by
  obtain ⟨header, ⟨sections, counter⟩, remoteId, detached⟩ := r
  obtain ⟨rfl, rfl, rfl, -, same, rfl⟩ := h
  have emptied : b.sections.map (fun s => { s with content := s.content.withoutPhotos }) =
      sections := by
    rw [← List.forall₂_eq_eq_eq, List.forall₂_map_left_iff]
    exact same.imp fun _ _ returns => returns.eq.symm
  rw [emptied]

theorem Section.photoCount_eq (s : Section) :
    s.photoCount = (s.content.block?.map (·.count)).getD 0 := by
  unfold photoCount lists
  cases s.content with
  | photos block => cases block <;> simp [PhotoBlock.lists, PhotoBlock.count, Content.block?]
  | _ => rfl

/-- The photos of a section are noted if there are any. -/
theorem DetachedPhotos.ofSection?_eq (s : Section) :
    ofSection? s = if 0 < s.photoCount then some ⟨s.id, UInt64.ofNat s.photoCount⟩ else none := by
  rw [s.photoCount_eq]
  unfold ofSection?
  cases s.content with
  | photos block =>
      by_cases bare : block.count = 0
      · simp [Content.block?, PhotoBlock.isEmpty, bare]
      · simp [Content.block?, PhotoBlock.isEmpty, bare, Nat.pos_of_ne_zero bare]
  | _ => rfl

theorem Body.counter_ofParts {sections : List Section} {counter : UInt32}
    (inside : ∀ s ∈ sections, s.id.number ≤ counter) :
    (Body.ofParts sections counter).counter = counter := by
  unfold ofParts
  simp only
  induction sections with
  | nil => rfl
  | cons s rest ih =>
      have low := inside s List.mem_cons_self
      rw [List.foldl_cons, if_neg (UInt32.not_lt.mpr low)]
      exact ih fun t ht => inside t (List.mem_cons_of_mem _ ht)

namespace Snapshot

variable {b : Body} (header : Header) (remoteId : Option String) (savedAt : Timestamp)

theorem ids_restored : (capture header b remoteId savedAt).restored.body.ids = b.ids := by
  simp [capture, restored, Body.ofParts, Body.ids]

theorem detached_capture : (capture header b remoteId savedAt).detached =
    (b.sections.filter (0 < ·.photoCount)).map fun s => ⟨s.id, UInt64.ofNat s.photoCount⟩ := by
  show b.sections.filterMap DetachedPhotos.ofSection? = _
  induction b.sections with
  | nil => rfl
  | cons s rest ih =>
      rw [List.filterMap_cons, DetachedPhotos.ofSection?_eq, ih]
      by_cases holds : 0 < s.photoCount
      · rw [if_pos holds, List.filter_cons_of_pos (by simpa using holds)]
        rfl
      · rw [if_neg holds, List.filter_cons_of_neg (by simpa using holds)]

/-- The counter is no lower than the identifiers in use, so it is not raised. -/
theorem counter_restored (h : b.WellFormed) :
    (capture header b remoteId savedAt).restored.body.counter = b.counter := by
  refine Body.counter_ofParts fun s hs => ?_
  have known : s.id ∈ b.ids := ids_restored header remoteId savedAt ▸ List.mem_map.mpr ⟨s, hs, rfl⟩
  exact (h.ids_range s.id known).2

theorem restored_returns (h : b.WellFormed) :
    (capture header b remoteId savedAt).restored.Returns header b remoteId where
  header_eq := rfl
  remoteId_eq := rfl
  counter_eq := counter_restored header remoteId savedAt h
  ids_eq := ids_restored header remoteId savedAt
  sections := by
    show List.Forall₂ Section.Returns b.sections (b.sections.map _)
    rw [List.forall₂_map_right_iff]
    exact List.forall₂_same.mpr fun s _ => s.returns_withoutPhotos
  detached_eq := detached_capture header remoteId savedAt

end Snapshot

/-- The draft of a well-formed document restores to one. -/
theorem Body.WellFormed.restored_capture {b : Body} (h : b.WellFormed) (header : Header)
    (remoteId : Option String) (savedAt : Timestamp) :
    (Snapshot.capture header b remoteId savedAt).restored.body.WellFormed := by
  have ids_eq := Snapshot.ids_restored (b := b) header remoteId savedAt
  have counter_eq := Snapshot.counter_restored header remoteId savedAt h
  refine h.of_lists ?_ ?_ ?_
  · exact ids_eq.symm ▸ h.ids_nodup
  · intro id member
    rw [counter_eq]
    exact h.ids_range id (ids_eq ▸ member)
  · intro list photos member
    obtain ⟨s, hs, hl⟩ := Body.mem_lists_iff.mp member
    obtain ⟨t, -, rfl⟩ := List.mem_map.mp hs
    exact .inl (Section.eq_nil_of_mem_lists t.content.withoutPhotos_withoutPhotos hl)

end SiteReport
