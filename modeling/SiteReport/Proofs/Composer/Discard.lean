import SiteReport.Composer
import SiteReport.Proofs.Document.Lists
import SiteReport.Proofs.Store.Records
import SiteReport.Proofs.Store.Shared
import SiteReport.Proofs.Store.Staging

/-!
A document that is thrown away takes its staged photos along, those that it shows in any of its
lists, and nothing else that is in the stock.
-/

namespace SiteReport

/-! ### Photos that are freed -/

/-- What stands under some keys is gone, and the rest is found as before. -/
theorem find?_filter_not_mem {α κ : Type} [DecidableEq κ] (key : α → κ) (gone : List κ) (k : κ)
    (items : List α) :
    (items.filter (key · ∉ gone)).find? (key · == k) =
      if k ∈ gone then none else items.find? (key · == k) := by
  by_cases member : k ∈ gone
  · rw [if_pos member, List.find?_eq_none]
    intro a kept same
    have left : key a ∉ gone := by simpa using (List.mem_filter.mp kept).2
    exact left (beq_iff_eq.mp same ▸ member)
  · rw [if_neg member, List.find?_filter]
    congr 1
    funext a
    by_cases same : key a = k
    · simp [same, member]
    · simp [same]

theorem filter_not_mem_append {α κ : Type} [DecidableEq κ] (key : α → κ) (gone more : List κ)
    (items : List α) :
    (items.filter (key · ∉ gone)).filter (key · ∉ more) =
      items.filter (key · ∉ gone ++ more) := by
  rw [List.filter_filter]
  refine List.filter_congr fun a _ => ?_
  simp [Bool.and_comm]

theorem PhotoRow.find?_filter_text (rows : List PhotoRow) (gone : List PhotoId) (id : PhotoId) :
    (rows.filter (·.id ∉ gone.map PhotoId.text)).find? (·.id == id.text) =
      if id ∈ gone then none else rows.find? (·.id == id.text) := by
  have texts : id.text ∈ gone.map PhotoId.text ↔ id ∈ gone :=
    List.mem_map_of_injective fun _ _ => PhotoId.text_injective
  simp only [find?_filter_not_mem PhotoRow.id, texts]

/-- The backend without the photos under some identifiers. Drafts of other programs are as they
were. -/
inductive Backend.Freed (ids : List PhotoId) : Backend → Backend → Prop where
  | memory {m after : MemoryStore} (photos_eq : after.photos = m.photos.filter (·.id ∉ ids)) :
      Freed ids (.memory m) (.memory after)
  | database {d after : Database} (key : String)
      (photos_eq : after.photos = d.photos.filter (·.id ∉ ids.map PhotoId.text))
      (others : ∀ other, other ≠ key → after.draftText? other = d.draftText? other) :
      Freed ids (.database d key) (.database after key)

namespace Backend.Freed

variable {ids more : List PhotoId} {b mid after : Backend}

protected theorem refl (b : Backend) : Freed [] b b := by
  cases b with
  | memory m => exact .memory (by simp)
  | database d key => exact .database key (by simp) fun _ _ => rfl

protected theorem trans (h : Freed ids b mid) (h' : Freed more mid after) :
    Freed (ids ++ more) b after := by
  cases h with
  | memory photos_eq =>
      cases h' with
      | memory photos_eq' =>
          refine .memory ?_
          rw [photos_eq', photos_eq, filter_not_mem_append]
  | database key photos_eq others =>
      cases h' with
      | database _ photos_eq' others' =>
          refine .database key ?_ fun other apart => (others' other apart).trans (others other apart)
          rw [photos_eq', photos_eq, filter_not_mem_append, List.map_append]

end Backend.Freed

namespace Store

variable {s after : Store} {ids : List PhotoId}

theorem freed_of_delete {id : PhotoId} {found : Bool} (h : s.delete id = .ok (found, after)) :
    s.backend.Freed [id] after.backend := by
  obtain ⟨changed, accepted, same⟩ := map_eq_ok_iff.mp h
  obtain ⟨-, rfl⟩ := Prod.mk.inj same
  obtain ⟨-, rfl⟩ := change_eq_ok_iff.mp accepted
  obtain ⟨backend, faults⟩ := s
  cases backend with
  | memory m =>
      refine .memory (List.filter_congr fun p _ => ?_)
      simp [bne, beq_eq_decide]
  | database d key =>
      refine .database key (List.filter_congr fun r _ => ?_) fun _ _ => rfl
      simp [bne, beq_eq_decide]

theorem freed_of_clearDraft (h : s.clearDraft = .ok after) : s.backend.Freed [] after.backend := by
  obtain ⟨-, rfl⟩ := change_eq_ok_iff.mp h
  obtain ⟨backend, faults⟩ := s
  cases backend with
  | memory m => exact .memory (by simp)
  | database d key =>
      exact .database key (by simp [Database.clearDraft]) fun _ => d.draftText?_clearDraft_ne

/-- A photo that is not freed is as it was. -/
theorem stored_of_freed (h : s.backend.Freed ids after.backend) (id : PhotoId) :
    after.stored id = if id ∈ ids then .ok none else s.stored id := by
  obtain ⟨backend, faults⟩ := s
  obtain ⟨backend', faults'⟩ := after
  cases h with
  | memory photos_eq =>
      simp only [stored, MemoryStore.get?, photos_eq]
      rw [find?_filter_not_mem StagedPhoto.id]
      split <;> rfl
  | database key photos_eq others =>
      simp only [stored, Database.get, photos_eq, PhotoRow.find?_filter_text]
      by_cases gone : id ∈ ids
      · simp only [gone, if_true]
      · simp only [gone, if_false]

theorem has_of_freed (h : s.backend.Freed ids after.backend) (id : PhotoId) :
    after.has id = (s.has id && decide (id ∉ ids)) := by
  obtain ⟨backend, faults⟩ := s
  obtain ⟨backend', faults'⟩ := after
  cases h with
  | memory photos_eq =>
      simp only [has, MemoryStore.has, photos_eq, ← List.isSome_find?]
      rw [find?_filter_not_mem StagedPhoto.id]
      split <;> simp_all
  | database key photos_eq others =>
      simp only [has, Database.has, photos_eq, ← List.isSome_find?]
      rw [PhotoRow.find?_filter_text]
      split <;> simp_all

end Store

/-- The stock without the photos under some identifiers, and without their previews. -/
structure Stock.Freed (ids : List PhotoId) (s after : Stock) : Prop where
  backend : s.store.backend.Freed ids after.store.backend
  faults_eq : after.store.faults = s.store.faults
  previews_eq : after.previews = s.previews.filter (·.1 ∉ ids)
  normalizer_eq : after.normalizer = s.normalizer
  batchSize_eq : after.batchSize = s.batchSize
  progressThreshold_eq : after.progressThreshold = s.progressThreshold

namespace Stock

variable {ids more : List PhotoId} {s mid after : Stock}

protected theorem Freed.refl (s : Stock) : Freed [] s s :=
  ⟨.refl s.store.backend, rfl, by simp, rfl, rfl, rfl⟩

protected theorem Freed.trans (h : Freed ids s mid) (h' : Freed more mid after) :
    Freed (ids ++ more) s after where
  backend := h.backend.trans h'.backend
  faults_eq := h'.faults_eq.trans h.faults_eq
  previews_eq := by rw [h'.previews_eq, h.previews_eq, filter_not_mem_append]
  normalizer_eq := h'.normalizer_eq.trans h.normalizer_eq
  batchSize_eq := h'.batchSize_eq.trans h.batchSize_eq
  progressThreshold_eq := h'.progressThreshold_eq.trans h.progressThreshold_eq

/-- A photo goes with its preview, if the store can delete it. -/
theorem freed_remove (deletes : s.store.faults .delete = none) (id : PhotoId) :
    Freed [id] s (s.remove id).2 ∧ (s.remove id).2.store.slot = s.store.slot := by
  obtain ⟨found, store, deleted⟩ : ∃ found store, s.store.delete id = .ok (found, store) :=
    ⟨_, _, map_eq_ok_iff.mpr ⟨_, Store.change_eq_ok_iff.mpr ⟨deletes, rfl⟩, rfl⟩⟩
  obtain ⟨faults_eq, slot_eq, -⟩ := Store.delete_spec deleted
  have removed : (s.remove id).2 = { s.evict id with store } := by
    simp only [remove, evict, deleted]
  rw [removed]
  refine ⟨⟨Store.freed_of_delete deleted, faults_eq, List.filter_congr fun e _ => ?_, rfl, rfl,
    rfl⟩, slot_eq⟩
  simp [bne, beq_eq_decide]

/-- It does not matter that a photo is removed more than once. -/
theorem freed_foldl_remove (deletes : s.store.faults .delete = none) (ids : List PhotoId) :
    Freed ids s (ids.foldl (fun s id => (s.remove id).2) s) ∧
      (ids.foldl (fun s id => (s.remove id).2) s).store.slot = s.store.slot := by
  induction ids generalizing s with
  | nil => exact ⟨.refl s, rfl⟩
  | cons id rest ih =>
      obtain ⟨one, slot_eq⟩ := freed_remove deletes id
      obtain ⟨others, slot_eq'⟩ := ih (one.faults_eq ▸ deletes)
      exact ⟨one.trans others, slot_eq'.trans slot_eq⟩

end Stock

namespace Composer

/-- The draft is given up or stays, as the store has it; the photos stay in any case. -/
theorem declineDraft_spec (c : Composer) :
    ∃ store published, c.declineDraft.2 = { c with stock := { c.stock with store }, published } ∧
      c.stock.Freed [] { c.stock with store } ∧
      (c.stock.store.faults .draftClear = none →
        c.declineDraft.1 = .ok () ∧ store.slot = none) ∧
      ∀ e, c.stock.store.faults .draftClear = some e →
        c.declineDraft.1 = .error e ∧ store.slot = c.stock.store.slot := by
  unfold declineDraft
  cases cleared : c.stock.store.clearDraft with
  | error e =>
      have fault : c.stock.store.faults .draftClear = some e :=
        Store.change_eq_error_iff.mp cleared
      refine ⟨c.stock.store, c.published, rfl, .refl c.stock, ?_, ?_⟩
      · simp [fault]
      · simp [fault]
  | ok store =>
      obtain ⟨allowed, faults_eq, slot, -⟩ := Store.clearDraft_spec cleared
      refine ⟨store, _, rfl, ?_, fun _ => ⟨rfl, slot⟩, ?_⟩
      · exact ⟨Store.freed_of_clearDraft cleared, faults_eq, by simp, rfl, rfl, rfl⟩
      · simp [allowed]

/-- A document that is thrown away takes the photos along that it shows in one of its lists, be it
once or many times, and their previews; all other photos and previews are left as they were. The
next document is a new one in every respect, and the draft is gone if the store can clear it. -/
theorem discardDocument_frees_shown (c : Composer) (deletes : c.stock.store.faults .delete = none) :
    let shown := c.body.stagedPhotos.map (·.2)
    let after := c.discardDocument.2
    (∀ id, id ∈ shown ↔
      ∃ list photos, (list, photos) ∈ c.body.lists ∧ PhotoRef.staged id ∈ photos) ∧
    c.stock.Freed shown after.stock ∧
    (∀ id, after.stock.store.stored id =
      if id ∈ shown then .ok none else c.stock.store.stored id) ∧
    (∀ id, after.stock.store.has id = (c.stock.store.has id && decide (id ∉ shown))) ∧
    after.header = {} ∧ after.body.sections = [] ∧ after.body.counter = 0 ∧
    after.remoteId = none ∧ after.selection = [] ∧ after.gesture.phase = .idle ∧
    after.isDirty = false ∧ c.generation < after.generation ∧
    (c.stock.store.faults .draftClear = none →
      c.discardDocument.1 = .ok () ∧ after.stock.store.slot = none) ∧
    ∀ e, c.stock.store.faults .draftClear = some e →
      c.discardDocument.1 = .error e ∧ after.stock.store.slot = c.stock.store.slot := by
  intro shown after
  let renewed : Composer :=
    { c.release shown with header := {}, body := c.body.clear.1, remoteId := none }.resetTransient
  obtain ⟨freed, slot_eq⟩ := Stock.freed_foldl_remove deletes shown
  obtain ⟨store, published, after_eq, kept, clears, fails⟩ :=
    (renewed.emit .documentReset).declineDraft_spec
  have faults_eq : renewed.stock.store.faults = c.stock.store.faults := freed.faults_eq
  have freed_after : c.stock.Freed shown after.stock := by
    have both := freed.trans kept
    rw [List.append_nil] at both
    exact (congrArg Composer.stock after_eq) ▸ both
  refine ⟨?_, freed_after, Store.stored_of_freed freed_after.backend,
    Store.has_of_freed freed_after.backend, ?_⟩
  · intro id
    simp only [shown, List.mem_map, Prod.exists, exists_eq_right, Body.mem_stagedPhotos_iff]
  · have after_eq : after = _ := after_eq
    rw [after_eq]
    refine ⟨rfl, rfl, rfl, rfl, rfl, rfl, rfl, Nat.lt_succ_self _, ?_, ?_⟩
    · intro allowed
      exact clears (faults_eq ▸ allowed)
    · intro e fault
      obtain ⟨answer, slot⟩ := fails e (faults_eq ▸ fault)
      exact ⟨answer, slot.trans slot_eq⟩

namespace Sharing

def shared : PhotoId := ⟨91, by decide⟩

def single : PhotoId := ⟨92, by decide⟩

def unused : PhotoId := ⟨93, by decide⟩

def photo (id : PhotoId) : StagedPhoto :=
  { id, bytes := Pixel.jpeg, name := "a.bmp", createdAt := Stock.Pile.morning,
    uploaded := false, remoteUrl := none }

def stock : Stock :=
  { Stock.Pile.stock with
    store := ⟨.memory { photos := [photo shared, photo single, photo unused], draft := some "x" },
      fun _ => none⟩
    previews := [(shared, [1]), (unused, [2])] }

/-- One photo stands in three lists, and one in the stock alone. -/
def composer : Composer :=
  { Composer.new stock {} with
    header := { brand := "b" }
    body := ⟨[⟨⟨1⟩, .photos (.beforeAfter [.staged shared] [.staged single, .staged shared])⟩,
      ⟨⟨4⟩, .photos (.completed [.staged shared])⟩], 4⟩
    remoteId := some "r"
    selection := [⟨4⟩]
    autosave := { debounce := 500, deadline := some 900 } }

theorem unused_photo_left :
    let after := composer.discardDocument.2
    composer.stock.store.faults .delete = none ∧
    after.stock.store.stored shared = .ok none ∧ after.stock.store.stored single = .ok none ∧
    after.stock.store.stored unused = .ok (some (photo unused)) ∧
    after.stock.previews = [(unused, [2])] ∧ after.stock.store.slot = none ∧
    after.isDirty = false ∧ composer.generation < after.generation := by
  intro after
  obtain ⟨-, freed, stored, -, -, -, -, -, -, -, clean, later, clears, -⟩ :=
    composer.discardDocument_frees_shown rfl
  refine ⟨rfl, (stored shared).trans (if_pos (by decide)), (stored single).trans (if_pos (by decide)),
    (stored unused).trans (if_neg (by decide)), ?_, (clears rfl).2, clean, later⟩
  exact freed.previews_eq.trans (by decide)

end Sharing

end Composer

end SiteReport
