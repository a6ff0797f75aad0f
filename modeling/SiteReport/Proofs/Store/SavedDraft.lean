import SiteReport.Proofs.Draft
import SiteReport.Proofs.Store.View

/-!
A draft that is put into the slot of a store, in memory or in a database, is loaded from it as its
text tells it: the same draft, but for leap seconds within a minute.
-/

namespace SiteReport

namespace Store

variable {s : Store} {draft : Snapshot}

theorem saveDraft_ok (allowed : s.faults .draftSave = none) (draft : Snapshot) :
    ∃ after, s.saveDraft draft = .ok after := ⟨_, change_eq_ok_iff.mpr ⟨allowed, rfl⟩⟩

theorem loadDraft_of_fault {e : StoreError} (refused : s.faults .draftLoad = some e) :
    s.loadDraft = .error e := by
  unfold loadDraft guarded
  rw [refused]

/-- A draft is loaded as its text tells. -/
theorem loadDraft_of_text (allowed : s.faults .draftLoad = none)
    (slot : s.slot = some draft.text) : s.loadDraft = .ok (some draft.told) :=
  loadDraft_of_slot allowed slot draft.parse?_text

/-- A store that takes a draft answers from then on with what its text tells. -/
theorem saved_as_told {after : Store} (saved : s.saveDraft draft = .ok after)
    (loads : s.faults .draftLoad = none) : after.loadDraft = .ok (some draft.told) := by
  obtain ⟨faults, slot, -⟩ := saveDraft_spec saved
  exact loadDraft_of_text (by rwa [faults]) slot

/-- A document that came about by edits is saved unless the store refuses, and what is loaded,
unless the store refuses, restores all of it but its photos. A time in a leap second within a minute
comes back as the second after it. -/
theorem saved_draft_returns (s : Store) {b : Body} (known : b.Reachable) (header : Header)
    (remoteId : Option String) (savedAt : Timestamp) :
    (∀ e, s.saveDraft (.capture header b remoteId savedAt) = .error e ↔
      s.faults .draftSave = some e) ∧
    (s.faults .draftSave = none →
      ∃ after, s.saveDraft (.capture header b remoteId savedAt) = .ok after ∧
        (∀ e, s.faults .draftLoad = some e → after.loadDraft = .error e) ∧
        (s.faults .draftLoad = none → ∃ draft, after.loadDraft = .ok (some draft) ∧
          draft.savedAt = savedAt.told ∧ draft.restored.Returns header.told b remoteId)) ∧
    (header.told = header ↔ header.OnMinute) := by
  let draft := Snapshot.capture header b remoteId savedAt
  refine ⟨fun e => change_eq_error_iff, fun saves => ?_, Header.told_eq_self_iff⟩
  obtain ⟨after, saved⟩ := s.saveDraft_ok saves draft
  have faults : after.faults = s.faults := (saveDraft_spec saved).1
  refine ⟨after, saved, fun e refused => ?_, fun loads => ?_⟩
  · exact loadDraft_of_fault (by rwa [faults])
  · exact ⟨draft.told, saved_as_told saved loads, rfl,
      Snapshot.restored_returns header.told remoteId savedAt.told known.wellFormed⟩

namespace Filled

def photo : PhotoRef := .staged ⟨7, by decide⟩

/-- A comment, and a block without photos. -/
def bare : Body :=
  ⟨[⟨⟨1⟩, .comment "«δ»\n"⟩, ⟨⟨2⟩, .photos (.beforeAfter [] [])⟩], 2⟩

/-- A photo before the work, and one after it. -/
def body : Body :=
  ⟨[⟨⟨1⟩, .comment "«δ»\n"⟩, ⟨⟨2⟩, .photos (.beforeAfter [photo] [.resolved "u"])⟩], 2⟩

/-- In a leap second. -/
def savedAt : Timestamp :=
  ⟨⟨2016, 12, 31, by decide, by decide, by decide⟩,
    ⟨23, 59, 59, 1500000000, by decide, by decide, by decide, by decide⟩⟩

def later : Timestamp :=
  ⟨⟨2017, 2, 3, by decide, by decide, by decide⟩,
    ⟨8, 7, 6, 250000000, by decide, by decide, by decide, by decide⟩⟩

theorem bare_reachable : bare.Reachable := by
  have comment : ((Body.after {} (.add .comment)).after (.update ⟨1⟩ (.text "«δ»\n"))).Reachable :=
    .edit _ (.edit (.add .comment) .new trivial fun _ => by decide) trivial nofun
  exact Body.Reachable.edit (.addBlock .beforeAfter) comment trivial fun _ => by decide

theorem body_reachable : body.Reachable :=
  .edit (.attach ⟨⟨2⟩, .after⟩ (.resolved "u"))
    (.edit (.attach ⟨⟨2⟩, .before⟩ photo) bare_reachable trivial nofun) trivial nofun

/-- What comes back. -/
def restored : Restored :=
  { header := {}, body := bare, remoteId := some "r", detached := [⟨⟨2⟩, 2⟩] }

def saved (backend : Backend) : Except StoreError Store :=
  Store.saveDraft { backend } (.capture {} body (some "r") savedAt)

/-- From memory and from a database alike. -/
theorem saved_drafts_restored :
    (∃ after draft, saved (.memory {}) = .ok after ∧ after.loadDraft = .ok (some draft) ∧
      draft.restored = restored) ∧
    ∃ after draft, saved (.database {} defaultDraftKey) = .ok after ∧
      after.loadDraft = .ok (some draft) ∧ draft.restored = restored := by
  constructor
  · let store : Store := { backend := .memory {} }
    obtain ⟨after, accepted, -, loads⟩ :=
      (saved_draft_returns store body_reachable {} (some "r") savedAt).2.1 rfl
    obtain ⟨draft, loaded, -, returns⟩ := loads rfl
    exact ⟨after, draft, accepted, loaded, returns.eq⟩
  · let store : Store := { backend := .database {} defaultDraftKey }
    obtain ⟨after, accepted, -, loads⟩ :=
      (saved_draft_returns store body_reachable {} (some "r") savedAt).2.1 rfl
    obtain ⟨draft, loaded, -, returns⟩ := loads rfl
    exact ⟨after, draft, accepted, loaded, returns.eq⟩

/-- It starts in a leap second within a minute. -/
def early : Header :=
  { startTime := some ⟨23, 56, 4, 1333333333, by decide, by decide, by decide, by decide⟩ }

/-- It starts a second later, in none. -/
def told : Header :=
  { startTime := some ⟨23, 56, 5, 333333333, by decide, by decide, by decide, by decide⟩ }

/-- The header that comes back is another one, and a store may refuse the draft. -/
theorem leap_second_told_or_draft_refused :
    (∃ after draft, Store.saveDraft { backend := .memory {} } (.capture early {} none later) =
      .ok after ∧ after.loadDraft = .ok (some draft) ∧ draft.restored.header = told ∧
      told ≠ early) ∧
    ∀ e, Store.saveDraft { backend := .memory {}, faults := fun _ => some e }
      (.capture early {} none later) = .error e := by
  refine ⟨?_, fun e => rfl⟩
  let store : Store := { backend := .memory {} }
  obtain ⟨after, saved⟩ := store.saveDraft_ok rfl (.capture early {} none later)
  exact ⟨after, _, saved, saved_as_told saved rfl, by decide, by decide⟩

end Filled

end Store

end SiteReport
