import SiteReport.Proofs.Composer.History
import SiteReport.Proofs.Composer.Moments
import SiteReport.Proofs.Document.Numbering
import SiteReport.Proofs.Store.SavedDraft

/-!
What becomes of a draft that is offered and taken up. The count covers the sections whatever the
slot says, but nothing asks the text whether its sections are told apart and its blocks are empty.
The texts that composers save are in order, over any run.
-/

namespace SiteReport

/-- A document as drafts are to bring it back: sections told apart by identifiers that are counted,
and blocks without photos. -/
structure Body.Unfilled (b : Body) : Prop where
  ids_nodup : b.ids.Nodup
  ids_le : ∀ id ∈ b.ids, id.number ≤ b.counter
  blocks : ∀ s ∈ b.sections, ∀ block, s.content = .photos block → block = .empty block.layout

/-- An identifier that is given out next is none of those that the count covers. -/
theorem Body.nextId_not_mem_of_le {b : Body} (covered : ∀ id ∈ b.ids, id.number ≤ b.counter)
    (room : b.HasRoom) : b.nextId ∉ b.ids := by
  intro member
  exact absurd (covered _ member) (UInt32.not_le.mpr (counter_lt_nextId room))

theorem Content.withoutPhotos_eq_self_iff {content : Content} :
    content.withoutPhotos = content ↔
      ∀ block, content = .photos block → block = .empty block.layout := by
  cases content <;> simp [withoutPhotos, PhotoBlock.emptied, eq_comm]

namespace Snapshot

/-- The sections of a draft are told apart, and its blocks hold no photos. -/
structure Orderly (s : Snapshot) : Prop where
  ids_nodup : (s.sections.map (·.id)).Nodup
  bare : ∀ t ∈ s.sections, t.content.withoutPhotos = t.content

/-- The draft of a well-formed document. -/
def Taken (s : Snapshot) : Prop :=
  ∃ header body remoteId savedAt, body.WellFormed ∧ s = capture header body remoteId savedAt

theorem restored_covered (s : Snapshot) :
    ∀ id ∈ s.restored.body.ids, id.number ≤ s.restored.body.counter := by
  intro id member
  obtain ⟨t, ht, rfl⟩ := List.mem_map.mp member
  exact (Body.le_counter_ofParts s.sections s.counter).2 t ht

/-- What the text does not say is not made up for. -/
theorem restored_unfilled_iff {s : Snapshot} : s.restored.body.Unfilled ↔ s.Orderly := by
  constructor
  · intro h
    exact ⟨h.ids_nodup, fun t ht => Content.withoutPhotos_eq_self_iff.mpr (h.blocks t ht)⟩
  · intro h
    exact ⟨h.ids_nodup, s.restored_covered,
      fun t ht => Content.withoutPhotos_eq_self_iff.mp (h.bare t ht)⟩

/-- What its text tells is the draft of the same document. -/
theorem Taken.told {s : Snapshot} (h : s.Taken) : s.told.Taken := by
  obtain ⟨header, body, remoteId, savedAt, sound, rfl⟩ := h
  exact ⟨header.told, body, remoteId, savedAt.told, sound, told_capture header body remoteId savedAt⟩

theorem Taken.wellFormed {s : Snapshot} (h : s.Taken) : s.restored.body.WellFormed := by
  obtain ⟨header, body, remoteId, savedAt, sound, rfl⟩ := h
  exact sound.restored_capture header remoteId savedAt

theorem Taken.orderly {s : Snapshot} (h : s.Taken) : s.Orderly := by
  refine ⟨h.wellFormed.ids_nodup, ?_⟩
  obtain ⟨header, body, remoteId, savedAt, -, rfl⟩ := h
  exact capture_plain header body remoteId savedAt

end Snapshot

/-! ### The text that is offered -/

namespace Store

variable {s after : Store} {draft : Snapshot}

/-- A draft that is loaded is what the text in the slot says. -/
theorem exists_text_of_loadDraft (loaded : s.loadDraft = .ok (some draft)) :
    ∃ text, s.slot = some text ∧ Snapshot.parse? text = some draft := by
  unfold loadDraft guarded at loaded
  split at loaded
  · cases loaded
  · unfold slot
    cases backend : s.backend with
    | memory m =>
        simp only [backend, MemoryStore.loadDraft] at loaded
        split at loaded
        · cases loaded
        · rename_i text held
          split at loaded <;> cases loaded
          exact ⟨text, held, by assumption⟩
    | database d key =>
        simp only [backend, Database.loadDraft] at loaded
        split at loaded
        · cases loaded
        · rename_i text held
          split at loaded <;> cases loaded
          exact ⟨text, held, by assumption⟩

theorem loadDraft_of_offer {now : Timestamp} {window : Int}
    (offered : s.checkDraft now window = .ok (.offer draft, after)) :
    s.loadDraft = .ok (some draft) := by
  unfold checkDraft at offered
  split at offered
  · cases offered
  · split at offered
    · cases offered
      assumption
    · obtain ⟨_, -, told⟩ := map_eq_ok_iff.mp offered
      cases told
  · obtain ⟨_, -, told⟩ := map_eq_ok_iff.mp offered
    cases told
  · cases offered

end Store

namespace Composer

variable {c checked : Composer} {now : Timestamp} {draft : Snapshot}

theorem exists_text_of_offer (offered : c.checkDraft now = .ok (.offer draft, checked)) :
    ∃ text, c.stock.store.slot = some text ∧ Snapshot.parse? text = some draft := by
  unfold checkDraft at offered
  split at offered
  · cases offered
  · split at offered
    · cases offered
    · rename_i told
      cases offered
      exact Store.exists_text_of_loadDraft (Store.loadDraft_of_offer told)

/-! ### A composer that alone writes its slot -/

/-- The draft that a command is answered with to be taken up. -/
def offer? (c : Composer) : Command → Option Snapshot
  | .checkDraft now =>
    match c.checkDraft now with
    | .ok (.offer draft, _) => some draft
    | _ => none
  | _ => none

/-- Composers one after another over a stock that began with an empty slot, with the drafts that were
offered on the way. A composer takes up only what was offered, and gives out no more identifiers than
there are. -/
inductive OwnsSlot : Composer → List Snapshot → Prop
  | opened {stock : Stock} (settings : EditSettings) (empty : stock.store.slot = none) :
      OwnsSlot (.new stock settings) []
  | reopened {c : Composer} {offers : List Snapshot} (settings : EditSettings)
      (known : OwnsSlot c offers) : OwnsSlot (.new c.stock settings) offers
  | performed {c : Composer} {offers : List Snapshot} (m : Moment) (command : Command)
      (known : OwnsSlot c offers) (room : c.body.counter.toNat + c.given command < 4294967296)
      (own : ∀ draft, command = .restore draft → draft ∈ offers) :
      OwnsSlot (c.performAt m command) (offers ++ ((c.under m.faults).offer? command).toList)

theorem slot_discardDocument (c : Composer) (clock : Clock) :
    c.discardDocument.2.stock.store.slot = c.stock.store.slot ∨
      c.discardDocument.2.stock.store.slot = none := by
  have released := (Stock.foldl_remove_lost (c.body.stagedPhotos.map (·.2)) c.stock).slot_eq
  have declined (d : Composer) : d.declineDraft.2.stock.store.slot = d.stock.store.slot ∨
      d.declineDraft.2.stock.store.slot = none := by
    have filed := filed_declineDraft d clock
    by_cases clears : d.Clears .declineDraft
    · exact .inr (filed.cleared clears).1
    · exact .inl (filed.kept id clears).1
  exact (declined _).imp_left (·.trans released)

/-- A command leaves the slot as it was, empties it, or saves the document in it. -/
theorem slot_perform (c : Composer) (clock : Clock) (command : Command) :
    (c.perform clock command).2.stock.store.slot = c.stock.store.slot ∨
    (c.perform clock command).2.stock.store.slot = none ∨
    (c.perform clock command).2.stock.store.slot = some (c.snapshot clock.wall).text := by
  cases replaces : command.replaces with
  | false =>
      obtain ⟨saved, cleared, kept⟩ := (perform_performed c clock command).slot_eq replaces
      by_cases saves : c.Saves command
      · exact .inr (.inr (saved saves))
      · by_cases clears : c.Clears command
        · exact .inr (.inl (cleared clears))
        · exact .inl (kept saves clears)
  | true =>
      cases command with
      | restore draft => exact .inl rfl
      | discardDocument => exact (slot_discardDocument c clock).imp_right .inl
      | _ => cases replaces

/-- What holds of a composer and its slot over such a run. -/
structure InOrder (c : Composer) (offers : List Snapshot) : Prop where
  body : c.body.WellFormed
  slot : ∀ text, c.stock.store.slot = some text → ∃ draft : Snapshot, draft.Taken ∧ text = draft.text
  offers : ∀ draft ∈ offers, draft.Taken

namespace InOrder

variable {offers : List Snapshot}

theorem taken_of_offer (h : c.InOrder offers) {command : Command}
    (offered : c.offer? command = some draft) : draft.Taken := by
  cases command with
  | checkDraft now =>
      unfold offer? at offered
      simp only at offered
      split at offered
      · rename_i told
        cases offered
        obtain ⟨text, held, read⟩ := exists_text_of_offer told
        obtain ⟨saved, taken, rfl⟩ := h.slot text held
        rw [saved.parse?_text] at read
        exact Option.some.inj read ▸ taken.told
      · cases offered
  | _ => cases offered

theorem performed (h : c.InOrder offers) (clock : Clock) {command : Command}
    (room : c.body.counter.toNat + c.given command < 4294967296)
    (own : ∀ draft, command = .restore draft → draft ∈ offers) :
    (c.perform clock command).2.InOrder (offers ++ (c.offer? command).toList) where
  body := by
    let tickets : List Ticket := match command with
      | .runSubmit _ _ ticket => [ticket]
      | _ => []
    have admits : c.Admits tickets command := by
      refine ⟨room, ?_, fun draft restores => h.offers draft (own draft restores)⟩
      rintro service batchSize ticket rfl
      exact List.mem_singleton_self ticket
    exact perform_wellFormed h.body admits
  slot := by
    intro text held
    rcases c.slot_perform clock command with kept | cleared | saved
    · exact h.slot text (kept ▸ held)
    · rw [cleared] at held
      cases held
    · rw [saved] at held
      exact ⟨c.snapshot clock.wall, ⟨_, _, _, _, h.body, rfl⟩, (Option.some.inj held).symm⟩
  offers := by
    intro draft member
    rcases List.mem_append.mp member with old | new
    · exact h.offers draft old
    · exact h.taken_of_offer (Option.mem_toList.mp new)

end InOrder

theorem OwnsSlot.inOrder {offers : List Snapshot} (h : OwnsSlot c offers) : c.InOrder offers := by
  induction h with
  | opened settings empty =>
      refine ⟨.empty, fun text held => ?_, fun _ none => absurd none List.not_mem_nil⟩
      cases empty.symm.trans held
  | reopened settings known ih => exact ⟨.empty, ih.slot, ih.offers⟩
  | @performed c offers m command known room own ih =>
      have under : (c.under m.faults).InOrder offers := ⟨ih.body, ih.slot, ih.offers⟩
      have given : (c.under m.faults).given command = c.given command := by cases command <;> rfl
      exact under.performed m.clock (given ▸ room) own

/-- A draft that is offered to a composer which owns its slot, whatever the store fails at. -/
theorem OwnsSlot.taken {d : Composer} {offers : List Snapshot} (owns : OwnsSlot d offers)
    (faults : StoreCall → Option StoreError)
    (offered : (d.under faults).checkDraft now = .ok (.offer draft, checked)) : draft.Taken := by
  have order := owns.inOrder
  have under : (d.under faults).InOrder offers := ⟨order.body, order.slot, order.offers⟩
  have told : (d.under faults).offer? (.checkDraft now) = some draft := by
    simp only [offer?, offered]
  exact under.taken_of_offer told

/-- Whatever text is in the slot: when it is offered and taken up, the count covers every section, so
no identifier in use is given out again, and the document is as drafts are to bring it back exactly
if the draft tells its sections apart and has no photos in its blocks. Every draft that is offered to
composers which alone write the slot is of this kind. -/
theorem offered_draft_unfilled_iff (c checked : Composer) (now : Timestamp) (draft : Snapshot)
    (offered : c.checkDraft now = .ok (.offer draft, checked)) :
    let after := (checked.restore draft).2.body
    (∃ text, c.stock.store.slot = some text ∧ Snapshot.parse? text = some draft) ∧
    (∀ id ∈ after.ids, id.number ≤ after.counter) ∧
    (after.HasRoom → after.nextId ∉ after.ids) ∧
    (after.Unfilled ↔ draft.Orderly) ∧
    ∀ (d : Composer) (offers : List Snapshot) (faults : StoreCall → Option StoreError),
      OwnsSlot d offers → c = d.under faults → after.Unfilled ∧ after.WellFormed := by
  intro after
  have covered : ∀ id ∈ after.ids, id.number ≤ after.counter := draft.restored_covered
  refine ⟨exists_text_of_offer offered, covered, Body.nextId_not_mem_of_le covered,
    Snapshot.restored_unfilled_iff, ?_⟩
  rintro d offers faults owns rfl
  have taken := owns.taken faults offered
  exact ⟨Snapshot.restored_unfilled_iff.mpr taken.orderly, taken.wellFormed⟩

namespace HandWritten

def afternoon : Timestamp :=
  ⟨⟨2025, 10, 20, by decide, by decide, by decide⟩,
    ⟨13, 14, 17, 18, by decide, by decide, by decide, by decide⟩⟩

def written (sections : List Section) (counter : UInt32) : Snapshot :=
  { header := {}, sections, counter, remoteId := none, detached := [], savedAt := afternoon }

/-- Two sections of one identifier, and a photo in the first of them. -/
def muddled : Snapshot :=
  written [⟨⟨1⟩, .photos (.completed [.resolved "u"])⟩, ⟨⟨1⟩, .comment ""⟩] 0

/-- Sections in order, with a count that is behind. -/
def behind : Snapshot := written [⟨⟨7⟩, .photos (.completed [])⟩, ⟨⟨3⟩, .comment ""⟩] 5

def holding (text : Option String) : Composer :=
  .new (.ofSettings Pixel.codec ⟨.memory { draft := text }, fun _ => none⟩ {}) {}

theorem slot_holding (text : Option String) : (holding text).stock.store.slot = text :=
  rfl

/-- A draft is offered at the time at which it was saved. -/
theorem checkDraft_of_slot {c : Composer} {s : Snapshot} (regular : s.told = s)
    (settings : c.settings = {}) (loads : c.stock.store.faults .draftLoad = none)
    (slot : c.stock.store.slot = some s.text) : c.checkDraft s.savedAt = .ok (.offer s, c) := by
  have loaded : c.stock.store.loadDraft = .ok (some s) :=
    regular ▸ Store.loadDraft_of_text loads slot
  have fresh : s.isFresh s.savedAt 86400000000000 = true := by
    simp [Snapshot.isFresh, Snapshot.age, Timestamp.nanosBetween, Timestamp.secondsBetween]
  have window : c.settings.draftWindow? = some 86400000000000 := by
    rw [settings]
    rfl
  simp only [checkDraft, window, Store.checkDraft, loaded, fresh, if_true]
  rfl

/-- The draft is offered, and what it restores has one identifier twice and a photo in a block. -/
theorem muddled_draft_offered :
    let c := holding (some muddled.text)
    c.checkDraft afternoon = .ok (.offer muddled, c) ∧
    (c.restore muddled).2.body.ids = [⟨1⟩, ⟨1⟩] ∧
    (c.restore muddled).2.body.lists = [(⟨⟨1⟩, .completed⟩, [.resolved "u"])] ∧
    ¬ (c.restore muddled).2.body.Unfilled := by
  intro c
  refine ⟨checkDraft_of_slot (s := muddled) rfl rfl rfl (slot_holding _), by decide, by decide,
    fun h => ?_⟩
  exact absurd h.ids_nodup (by decide)

def moment : Moment :=
  ⟨⟨0, afternoon⟩, fun _ => none⟩

def filled : Composer :=
  (holding none).performAt moment (.addBlock .completed)

/-- A composer that saves its one block. -/
def saved : Composer :=
  filled.performAt moment .flushDraft

def kept : Snapshot :=
  written [⟨⟨1⟩, .photos (.completed [])⟩] 1

theorem ownsSlot_saved : OwnsSlot saved [] := by
  have begun : OwnsSlot (holding none) [] := .opened {} (slot_holding none)
  have room : (holding none).body.counter.toNat + 1 < 4294967296 := by decide
  have added : OwnsSlot filled [] :=
    begun.performed moment (.addBlock .completed) room fun _ restores => by cases restores
  have more : filled.body.counter.toNat + 0 < 4294967296 := by decide
  exact added.performed moment .flushDraft more fun _ restores => by cases restores

/-- The count is raised to the largest identifier. A draft that a composer saved is offered to the
next one. -/
theorem behind_and_saved_unfilled :
    let c := holding (some behind.text)
    let next := (Composer.new saved.stock {}).under moment.faults
    c.checkDraft afternoon = .ok (.offer behind, c) ∧ (c.restore behind).2.body.counter = 7 ∧
    (c.restore behind).2.body.nextId = ⟨8⟩ ∧ (⟨8⟩ : SectionId) ∉ (c.restore behind).2.body.ids ∧
    (c.restore behind).2.body.Unfilled ∧
    OwnsSlot (.new saved.stock {}) [] ∧ next.checkDraft afternoon = .ok (.offer kept, next) ∧
    (next.restore kept).2.body.Unfilled ∧ (next.restore kept).2.body.WellFormed := by
  intro c next
  have offered : c.checkDraft afternoon = .ok (.offer behind, c) :=
    checkDraft_of_slot (s := behind) rfl rfl rfl (slot_holding _)
  have orderly : behind.Orderly := ⟨by decide, by decide⟩
  obtain ⟨-, -, fresh, unfilled, -⟩ := offered_draft_unfilled_iff c c afternoon behind offered
  have owns : OwnsSlot (.new saved.stock {}) [] := .reopened {} ownsSlot_saved
  have held : next.stock.store.slot = some kept.text := rfl
  have asked : next.checkDraft afternoon = .ok (.offer kept, next) :=
    checkDraft_of_slot (s := kept) rfl rfl rfl held
  obtain ⟨-, -, -, -, owned⟩ := offered_draft_unfilled_iff next next afternoon kept asked
  obtain ⟨bare, sound⟩ := owned _ [] moment.faults owns rfl
  exact ⟨offered, by decide, by decide, fresh (by decide), unfilled.mpr orderly, owns, asked, bare,
    sound⟩

end HandWritten

end Composer

end SiteReport
