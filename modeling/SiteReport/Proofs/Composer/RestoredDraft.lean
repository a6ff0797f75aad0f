import SiteReport.Composer
import SiteReport.Proofs.Picture.Normalize
import SiteReport.Proofs.Store.SavedDraft

/-!
A draft that is restored and saved again without an edit. The second draft is taken of a document
whose blocks are empty already, so it says no more which blocks miss photos; all the rest is kept.
-/

namespace SiteReport

theorem Section.photoCount_eq_zero_iff {s : Section} :
    s.photoCount = 0 ↔ ∀ list photos, (list, photos) ∈ s.lists → photos = [] := by
  rw [photoCount, List.length_eq_zero_iff, List.flatMap_eq_nil_iff]
  exact Prod.forall

namespace Snapshot

variable {b : Body} (header : Header) (remoteId : Option String) (savedAt : Timestamp)

theorem detached_capture_eq_nil_iff : (capture header b remoteId savedAt).detached = [] ↔
    ∀ list photos, (list, photos) ∈ b.lists → photos = [] := by
  rw [detached_capture, List.map_eq_nil_iff, List.filter_eq_nil_iff]
  simp only [decide_eq_true_eq, Nat.not_lt, Nat.le_zero, Section.photoCount_eq_zero_iff]
  constructor
  · intro bare list photos member
    obtain ⟨s, hs, hl⟩ := Body.mem_lists_iff.mp member
    exact bare s hs list photos hl
  · intro bare s hs list photos member
    exact bare list photos (Body.mem_lists_iff.mpr ⟨s, hs, member⟩)

/-- The draft of a restored document misses no photos, and differs in nothing else but its time. -/
theorem capture_restored (h : b.WellFormed) (again : Timestamp) :
    let draft := capture header b remoteId savedAt
    capture header draft.restored.body remoteId again =
      { draft with detached := [], savedAt := again } := by
  intro draft
  have sections : draft.restored.body.sections.map
      (fun s => { s with content := s.content.withoutPhotos }) = draft.sections := by
    show (b.sections.map _).map _ = b.sections.map _
    rw [List.map_map]
    refine List.map_congr_left fun s _ => ?_
    simp
  have detached : draft.restored.body.sections.filterMap DetachedPhotos.ofSection? = [] := by
    refine (detached_capture_eq_nil_iff header remoteId again).mpr ?_
    intro list photos member
    obtain ⟨s, hs, hl⟩ := Body.mem_lists_iff.mp member
    exact Section.eq_nil_of_mem_lists (capture_plain header b remoteId savedAt s hs) hl
  rw [capture, sections, counter_restored header remoteId savedAt h, detached]
  rfl

end Snapshot

namespace Composer

theorem saveDraft_saved {c : Composer} (saves : c.stock.store.faults .draftSave = none)
    (clock : Clock) : ∃ store, c.stock.store.saveDraft (c.snapshot clock.wall) = .ok store ∧
      c.saveDraft clock = (.ok (), (c.mapStore store).emit (.draftSaved clock.wall)) := by
  obtain ⟨store, saved⟩ := c.stock.store.saveDraft_ok saves (c.snapshot clock.wall)
  refine ⟨store, saved, ?_⟩
  rw [saveDraft, saved]

/-- A restored draft is saved again without the photos that it misses. -/
theorem flushDraft_restored {b : Body} (h : b.WellFormed) (header : Header)
    (remoteId : Option String) (savedAt : Timestamp) {c : Composer}
    (saves : c.stock.store.faults .draftSave = none)
    (loads : c.stock.store.faults .draftLoad = none) (clock : Clock) :
    let draft := Snapshot.capture header b remoteId savedAt
    let after := (c.restore draft).2.flushDraft clock
    let again : Snapshot := { draft with detached := [], savedAt := clock.wall }
    after.1 = .ok () ∧ after.2.stock.store.slot = some again.text ∧
      after.2.stock.store.loadDraft = .ok (some again.told) := by
  intro draft after again
  let restored := (c.restore draft).2
  have resaved : restored.snapshot clock.wall = again :=
    Snapshot.capture_restored header remoteId savedAt h clock.wall
  obtain ⟨store, saved, after_eq⟩ :=
    saveDraft_saved (c := { restored with autosave := restored.autosave.cancel }) saves clock
  obtain ⟨faults, slot, -⟩ := Store.saveDraft_spec saved
  have slot : store.slot = some again.text := slot.trans (congrArg (some ·.text) resaved)
  have loaded : store.loadDraft = .ok (some again.told) :=
    Store.loadDraft_of_text ((congrFun faults .draftLoad).trans loads) slot
  have stored : after.2.stock.store = store := congrArg (·.2.stock.store) after_eq
  exact ⟨congrArg Prod.fst after_eq, stored ▸ slot, stored ▸ loaded⟩

/-- The draft that is saved after a restore loads as far as its text tells, and is the first one with
another time exactly if the document showed no photo. -/
theorem resaved_draft_eq_iff {b : Body} (known : b.Reachable) (header : Header)
    (remoteId : Option String) (savedAt : Timestamp) {c : Composer}
    (saves : c.stock.store.faults .draftSave = none)
    (loads : c.stock.store.faults .draftLoad = none) (clock : Clock) :
    let draft := Snapshot.capture header b remoteId savedAt
    let after := (c.restore draft).2.flushDraft clock
    ∃ again : Snapshot, after.1 = .ok () ∧ after.2.stock.store.slot = some again.text ∧
      after.2.stock.store.loadDraft = .ok (some again.told) ∧
      again = { draft with detached := [], savedAt := clock.wall } ∧
      (again = { draft with savedAt := clock.wall } ↔
        ∀ list photos, (list, photos) ∈ b.lists → photos = []) := by
  intro draft after
  obtain ⟨answered, slot, loaded⟩ :=
    flushDraft_restored known.wellFormed header remoteId savedAt saves loads clock
  refine ⟨_, answered, slot, loaded, rfl, ?_⟩
  rw [← Snapshot.detached_capture_eq_nil_iff header remoteId savedAt]
  constructor
  · intro same
    exact (congrArg Snapshot.detached same).symm
  · intro bare
    exact congrArg (fun ds => { draft with detached := ds, savedAt := clock.wall }) bare.symm

namespace Resaved

open Store

def composer : Composer := .new (.ofSettings Pixel.codec ⟨.memory {}, fun _ => none⟩ {}) {}

def clock : Clock := ⟨0, Filled.later⟩

/-- The first draft says that two photos are missing, the second one does not. -/
theorem resaved_draft_differs :
    let draft := Snapshot.capture {} Filled.body (some "r") Filled.savedAt
    let again : Snapshot := { draft with detached := [], savedAt := clock.wall }
    ((composer.restore draft).2.flushDraft clock).2.stock.store.loadDraft = .ok (some again) ∧
      draft.detached = [⟨⟨2⟩, 2⟩] ∧ again ≠ { draft with savedAt := clock.wall } := by
  intro draft again
  have sound := Filled.body_reachable.wellFormed
  obtain ⟨-, -, loaded⟩ :=
    flushDraft_restored (c := composer) sound {} (some "r") Filled.savedAt rfl rfl clock
  refine ⟨loaded, rfl, ?_⟩
  intro same
  cases congrArg Snapshot.detached same

/-- A document without photos keeps its draft. -/
theorem bare_draft_kept :
    let draft := Snapshot.capture {} Filled.bare (some "r") Filled.savedAt
    ((composer.restore draft).2.flushDraft clock).2.stock.store.loadDraft =
      .ok (some { draft with savedAt := clock.wall }) := by
  intro draft
  have none : ∀ entry ∈ Filled.bare.lists, entry.2 = [] := by decide
  have known := Filled.bare_reachable
  obtain ⟨again, -, -, loaded, -, kept⟩ :=
    resaved_draft_eq_iff (c := composer) known {} (some "r") Filled.savedAt rfl rfl clock
  rw [loaded, kept.mpr fun list photos member => none (list, photos) member]
  rfl

end Resaved

end Composer

end SiteReport
