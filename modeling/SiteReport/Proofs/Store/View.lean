import Mathlib.Data.List.Nodup
import SiteReport.Proofs.Photo.Id
import SiteReport.Store.Basic

/-!
What a store holds, faults apart: the photo under each identifier, and the text in the draft slot.
One statement for each operation tells what an accepted call does to the two. An operation on one
photo reaches no other one, in memory and in a database alike.
-/

namespace SiteReport

theorem map_eq_ok_iff {ε α β : Type} {answer : Except ε α} {f : α → β} {b : β} :
    answer.map f = .ok b ↔ ∃ a, answer = .ok a ∧ f a = b := by
  cases answer <;> simp [Except.map]

/-- The photo after an upload of it was noted. -/
def StagedPhoto.marked (url : String) (p : StagedPhoto) : StagedPhoto :=
  { p with uploaded := true, remoteUrl := some url }

@[simp] theorem StagedPhoto.uploadedUrl?_marked (url : String) (p : StagedPhoto) :
    (p.marked url).uploadedUrl? = some url := rfl

namespace Store

/-- The photo under an identifier, or why it cannot be read. -/
def stored (s : Store) (id : PhotoId) : Except StoreError (Option StagedPhoto) :=
  match s.backend with
  | .memory m => .ok (m.get? id)
  | .database d _ => d.get id

/-- The text in the draft slot. -/
def slot (s : Store) : Option String :=
  match s.backend with
  | .memory m => m.draft
  | .database d key => d.draftText? key

theorem get_eq_stored (s : Store) (id : PhotoId) : s.get id = s.guarded .get (s.stored id) := by
  unfold get stored
  cases s.backend <;> rfl

theorem stored_of_get {s : Store} {id : PhotoId} {found : Option StagedPhoto}
    (h : s.get id = .ok found) : s.stored id = .ok found := by
  rw [get_eq_stored, guarded] at h
  split at h
  · cases h
  · exact h

theorem change_eq_ok_iff {s after : Store} {call : StoreCall} {f : Backend → Backend} :
    s.change call f = .ok after ↔
      s.faults call = none ∧ after = { s with backend := f s.backend } := by
  unfold change guarded
  cases s.faults call with
  | some e => simp
  | none => simp [eq_comm]

theorem change_eq_error_iff {s : Store} {call : StoreCall} {f : Backend → Backend}
    {e : StoreError} : s.change call f = .error e ↔ s.faults call = some e := by
  unfold change guarded
  cases s.faults call <;> simp

end Store

/-! ### Lists of photos and of rows -/

/-- What stands under two keys is changed in either order. -/
theorem map_under_comm {α κ : Type} [DecidableEq κ] (key : α → κ) (f g : α → α)
    (keeps : ∀ a, key (f a) = key a) (keeps' : ∀ a, key (g a) = key a) {k k' : κ} (apart : k ≠ k')
    (items : List α) :
    (items.map fun a => if key a = k then f a else a).map (fun a => if key a = k' then g a else a) =
      (items.map fun a => if key a = k' then g a else a).map
        fun a => if key a = k then f a else a := by
  rw [List.map_map, List.map_map]
  refine List.map_congr_left fun a _ => ?_
  by_cases first : key a = k
  · simp [first, keeps, apart]
  · by_cases second : key a = k' <;> simp [first, second, keeps', Ne.symm apart]

namespace MemoryStore

theorem find?_insert_ne {p : StagedPhoto} {id : PhotoId} (other : id ≠ p.id)
    (photos : List StagedPhoto) :
    (insert p photos).find? (·.id == id) = photos.find? (·.id == id) := by
  have miss : (p.id == id) = false := by simpa using Ne.symm other
  induction photos with
  | nil => simp [insert, miss]
  | cons q rest ih =>
      unfold insert
      split
      · rename_i same
        have missed : (q.id == id) = false := by rw [← same]; exact miss
        simp [miss, missed]
      · split
        · simp [miss]
        · simp [List.find?_cons, ih]

theorem find?_insert_self (p : StagedPhoto) (photos : List StagedPhoto) :
    (insert p photos).find? (·.id == p.id) = some p := by
  induction photos with
  | nil => simp [insert]
  | cons q rest ih =>
      unfold insert
      split
      · simp
      · split
        · simp
        · rename_i differs _
          have missed : (q.id == p.id) = false := by simpa using Ne.symm differs
          simp [missed, ih]

theorem get?_delete (m : MemoryStore) (id other : PhotoId) :
    (m.delete id).get? other = if other = id then none else m.get? other := by
  unfold delete get?
  rw [List.find?_filter]
  by_cases same : other = id
  · subst same
    simp
  · rw [if_neg same]
    congr 1
    funext p
    by_cases hp : p.id = other
    · simp [hp, same]
    · simp [hp]

theorem get?_markUploaded (m : MemoryStore) (id other : PhotoId) (url : String) :
    (m.markUploaded id url).get? other =
      if other = id then (m.get? other).map (·.marked url) else m.get? other := by
  unfold markUploaded get?
  rw [List.find?_map]
  have ids : (fun p : StagedPhoto => p.id == other) ∘
      (fun p => if p.id = id then { p with uploaded := true, remoteUrl := some url } else p) =
      fun p => p.id == other := by
    funext p
    simp only [Function.comp_apply]
    split <;> rfl
  rw [ids]
  cases found : m.photos.find? (·.id == other) with
  | none => simp
  | some p =>
      have hp : p.id = other := by simpa using List.find?_some found
      by_cases same : other = id
      · simp [same, hp, StagedPhoto.marked]
      · simp [same, hp]

end MemoryStore

namespace PhotoRow

/-- Noting an upload in a row is noting it on the photo. -/
theorem photo_marked (r : PhotoRow) (url : String) :
    { r with uploaded := true, remoteUrl := some url : PhotoRow }.photo =
      r.photo.map (·.marked url) := by
  unfold photo
  cases PhotoId.parse? r.id with
  | none => rfl
  | some id =>
      simp only
      cases Timestamp.ofMillis? r.createdMillis <;> rfl

end PhotoRow

namespace Database

variable {key : String}

theorem find?_putRow_ne {r : PhotoRow} (other : key ≠ r.id) (d : Database) :
    (d.putRow r).photos.find? (·.id == key) = d.photos.find? (·.id == key) := by
  have miss : (r.id == key) = false := by simpa using Ne.symm other
  simp only [putRow, List.find?_append, List.find?_filter, List.find?_cons, miss, List.find?_nil,
    Option.or_none]
  congr 1
  funext q
  by_cases hq : q.id = key
  · simp [hq, other]
  · simp [hq]

theorem find?_putRow_self (r : PhotoRow) (d : Database) :
    (d.putRow r).photos.find? (·.id == r.id) = some r := by
  have gone : (d.photos.filter (·.id != r.id)).find? (·.id == r.id) = none := by
    simp [List.find?_eq_none]
  simp [putRow, List.find?_append, gone]

theorem find?_filter_key (rows : List PhotoRow) (gone : String) :
    (rows.filter (·.id != gone)).find? (·.id == key) =
      if key = gone then none else rows.find? (·.id == key) := by
  by_cases same : key = gone
  · simp [same, List.find?_eq_none]
  · rw [if_neg same, List.find?_filter]
    congr 1
    funext q
    by_cases hq : q.id = key
    · simp [hq, same]
    · simp [hq]

theorem find?_map_marked (rows : List PhotoRow) (noted url : String) :
    (rows.map fun r =>
        if r.id = noted then { r with uploaded := true, remoteUrl := some url } else r).find?
      (·.id == key) = (rows.find? (·.id == key)).map fun r =>
        if key = noted then { r with uploaded := true, remoteUrl := some url } else r := by
  rw [List.find?_map]
  have ids : (fun r : PhotoRow => r.id == key) ∘
      (fun r => if r.id = noted then { r with uploaded := true, remoteUrl := some url } else r) =
      fun r => r.id == key := by
    funext r
    simp only [Function.comp_apply]
    split <;> rfl
  rw [ids]
  cases found : rows.find? (·.id == key) with
  | none => rfl
  | some r =>
      have hr : r.id = key := by simpa using List.find?_some found
      simp only [Option.map_some, hr]

theorem text_ne {id other : PhotoId} (h : id ≠ other) : id.text ≠ other.text :=
  fun same => h (PhotoId.text_injective same)

theorem get_put_ne {p : StagedPhoto} {id : PhotoId} (other : id ≠ p.id) (d : Database) :
    (d.put p).get id = d.get id := by
  have differs : id.text ≠ (PhotoRow.ofPhoto p).id := text_ne other
  unfold put get
  rw [find?_putRow_ne differs]

theorem get_put_self {p q : StagedPhoto} {d : Database}
    (h : (d.put p).get p.id = .ok (some q)) : q.uploadedUrl? = p.uploadedUrl? := by
  have row : (d.put p).photos.find? (·.id == p.id.text) = some (.ofPhoto p) :=
    find?_putRow_self (.ofPhoto p) d
  simp only [get, row] at h
  unfold PhotoRow.photo at h
  split at h
  · cases h
  · split at h
    · cases h
    · cases h
      rfl

theorem get_delete (d : Database) (id other : PhotoId) :
    (d.delete id).get other = if other = id then .ok none else d.get other := by
  unfold delete get
  simp only [find?_filter_key]
  by_cases same : other = id
  · simp only [same, if_true]
  · simp only [text_ne same, same, if_false]

theorem get_markUploaded (d : Database) (id other : PhotoId) (url : String) :
    (d.markUploaded id url).get other =
      if other = id then (d.get other).map (·.map (·.marked url)) else d.get other := by
  unfold markUploaded get
  simp only [find?_map_marked]
  by_cases same : other = id
  · simp only [same, if_true]
    cases d.photos.find? (·.id == id.text) with
    | none => rfl
    | some r =>
        simp only [Option.map_some, PhotoRow.photo_marked]
        cases r.photo <;> rfl
  · simp only [text_ne same, same, if_false]
    cases d.photos.find? (·.id == other.text) <;> rfl

theorem draftText?_clearDraft (d : Database) (key : String) :
    (d.clearDraft key).draftText? key = none := by
  simp [clearDraft, draftText?, List.find?_eq_none]

theorem draftText?_putDraft (d : Database) (key text : String) :
    (d.putDraft key text).draftText? key = some text := by
  have gone := d.draftText?_clearDraft key
  unfold draftText? at gone ⊢
  rw [Option.map_eq_none_iff] at gone
  simp [putDraft, List.find?_append, gone]

end Database

namespace Store

/-- The address of a finished upload that is noted under an identifier. -/
def recorded? (s : Store) (id : PhotoId) : Option String :=
  match s.stored id with
  | .ok (some p) => p.uploadedUrl?
  | _ => none

theorem recorded?_eq_some_iff {s : Store} {id : PhotoId} {url : String} :
    s.recorded? id = some url ↔ ∃ p, s.stored id = .ok (some p) ∧ p.uploadedUrl? = some url := by
  unfold recorded?
  rcases s.stored id with e | (_ | p) <;> simp

theorem recorded?_congr {s t : Store} {id : PhotoId} (h : s.stored id = t.stored id) :
    s.recorded? id = t.recorded? id := by
  unfold recorded?
  rw [h]

/-! ### What an accepted call does -/

variable {s after : Store}

theorem put_spec {p : StagedPhoto} (h : s.put p = .ok after) :
    after.faults = s.faults ∧ after.slot = s.slot ∧
    (∀ id, id ≠ p.id → after.stored id = s.stored id) ∧
    ∀ url, after.recorded? p.id = some url → p.uploadedUrl? = some url := by
  obtain ⟨-, rfl⟩ := change_eq_ok_iff.mp h
  obtain ⟨backend, faults⟩ := s
  cases backend with
  | memory m =>
      refine ⟨rfl, rfl, ?_, ?_⟩
      · intro id other
        exact congrArg _ (MemoryStore.find?_insert_ne other m.photos)
      · intro url noted
        obtain ⟨q, hq, hurl⟩ := recorded?_eq_some_iff.mp noted
        have self : some p = some q :=
          (MemoryStore.find?_insert_self p m.photos).symm.trans (Except.ok.inj hq)
        rwa [Option.some.inj self]
  | database d key =>
      refine ⟨rfl, rfl, ?_, ?_⟩
      · intro id other
        exact Database.get_put_ne other d
      · intro url noted
        obtain ⟨q, hq, hurl⟩ := recorded?_eq_some_iff.mp noted
        rw [← Database.get_put_self hq, hurl]

theorem delete_spec {id : PhotoId} {found : Bool} (h : s.delete id = .ok (found, after)) :
    after.faults = s.faults ∧ after.slot = s.slot ∧
    ∀ other, after.stored other = if other = id then .ok none else s.stored other := by
  obtain ⟨changed, accepted, same⟩ := map_eq_ok_iff.mp h
  obtain ⟨-, rfl⟩ := Prod.mk.inj same
  obtain ⟨-, rfl⟩ := change_eq_ok_iff.mp accepted
  obtain ⟨backend, faults⟩ := s
  cases backend with
  | memory m =>
      refine ⟨rfl, rfl, ?_⟩
      intro other
      simp only [stored, MemoryStore.get?_delete]
      split <;> rfl
  | database d key => exact ⟨rfl, rfl, Database.get_delete d id⟩

theorem clear_spec (h : s.clear = .ok after) :
    after.faults = s.faults ∧ after.slot = s.slot ∧ ∀ id, after.stored id = .ok none := by
  obtain ⟨-, rfl⟩ := change_eq_ok_iff.mp h
  obtain ⟨backend, faults⟩ := s
  cases backend <;> exact ⟨rfl, rfl, fun _ => rfl⟩

/-- The store after an upload of a photo was noted. -/
def note (s : Store) (id : PhotoId) (url : String) : Store :=
  { s with backend :=
      match s.backend with
      | .memory m => .memory (m.markUploaded id url)
      | .database d key => .database (d.markUploaded id url) key }

@[simp] theorem slot_note (s : Store) (id : PhotoId) (url : String) :
    (s.note id url).slot = s.slot := by
  obtain ⟨backend, faults⟩ := s
  cases backend <;> rfl

/-- Uploads of two photos are noted in either order. -/
theorem note_comm {id other : PhotoId} (apart : id ≠ other) (s : Store) (url url' : String) :
    (s.note id url).note other url' = (s.note other url').note id url := by
  obtain ⟨backend, faults⟩ := s
  cases backend with
  | memory m =>
      have photos := map_under_comm StagedPhoto.id
        (fun p => { p with uploaded := true, remoteUrl := some url })
        (fun p => { p with uploaded := true, remoteUrl := some url' })
        (fun _ => rfl) (fun _ => rfl) apart m.photos
      simp only [note, MemoryStore.markUploaded, photos]
  | database d key =>
      have rows := map_under_comm PhotoRow.id
        (fun r => { r with uploaded := true, remoteUrl := some url })
        (fun r => { r with uploaded := true, remoteUrl := some url' })
        (fun _ => rfl) (fun _ => rfl) (Database.text_ne apart) d.photos
      simp only [note, Database.markUploaded, rows]

theorem stored_note (s : Store) (id other : PhotoId) (url : String) :
    (s.note id url).stored other =
      if other = id then (s.stored other).map (·.map (·.marked url)) else s.stored other := by
  obtain ⟨backend, faults⟩ := s
  cases backend with
  | memory m =>
      simp only [note, stored, MemoryStore.get?_markUploaded]
      split <;> rfl
  | database d key => exact Database.get_markUploaded d id other url

theorem markUploaded_eq_ok_iff {id : PhotoId} {url : String} {found : Bool} :
    s.markUploaded id url = .ok (found, after) ↔
      s.faults .markUploaded = none ∧ s.has id = found ∧ s.note id url = after := by
  unfold markUploaded
  simp only [map_eq_ok_iff, change_eq_ok_iff, Prod.mk.injEq]
  obtain ⟨backend, faults⟩ := s
  constructor
  · rintro ⟨_, ⟨allowed, rfl⟩, known, rfl⟩
    refine ⟨allowed, known, ?_⟩
    cases backend <;> rfl
  · rintro ⟨allowed, known, rfl⟩
    refine ⟨_, ⟨allowed, rfl⟩, known, ?_⟩
    cases backend <;> rfl

theorem saveDraft_spec {draft : Snapshot} (h : s.saveDraft draft = .ok after) :
    after.faults = s.faults ∧ after.slot = some draft.text ∧ after.stored = s.stored := by
  obtain ⟨-, rfl⟩ := change_eq_ok_iff.mp h
  obtain ⟨backend, faults⟩ := s
  cases backend with
  | memory m => exact ⟨rfl, rfl, rfl⟩
  | database d key => exact ⟨rfl, d.draftText?_putDraft key draft.text, rfl⟩

theorem clearDraft_spec (h : s.clearDraft = .ok after) :
    s.faults .draftClear = none ∧ after.faults = s.faults ∧ after.slot = none ∧
    after.stored = s.stored := by
  obtain ⟨allowed, rfl⟩ := change_eq_ok_iff.mp h
  obtain ⟨backend, faults⟩ := s
  cases backend with
  | memory m => exact ⟨allowed, rfl, rfl, rfl⟩
  | database d key => exact ⟨allowed, rfl, d.draftText?_clearDraft key, rfl⟩

/-- A draft is read from the text in the slot. -/
theorem loadDraft_eq (allowed : s.faults .draftLoad = none) :
    s.loadDraft =
      match s.slot with
      | none => .ok none
      | some text => (Snapshot.parse? text).elim (.error .undecodable) (.ok ∘ some) := by
  obtain ⟨backend, faults⟩ := s
  unfold loadDraft guarded
  rw [allowed]
  cases backend with
  | memory m =>
      simp only [MemoryStore.loadDraft, slot]
      cases m.draft with
      | none => rfl
      | some text => cases read : Snapshot.parse? text <;> simp [read]
  | database d key =>
      simp only [Database.loadDraft, slot]
      cases d.draftText? key with
      | none => rfl
      | some text => cases read : Snapshot.parse? text <;> simp [read]

theorem loadDraft_of_slot {text : String} {draft : Snapshot} (allowed : s.faults .draftLoad = none)
    (slot : s.slot = some text) (read : Snapshot.parse? text = some draft) :
    s.loadDraft = .ok (some draft) := by
  rw [loadDraft_eq allowed, slot]
  simp [read]

/-! ### Many uploads noted -/

/-- The store after several uploads were noted, one after another. -/
def noteAll (s : Store) (notes : List (PhotoId × String)) : Store :=
  notes.foldl (fun s (id, url) => s.note id url) s

theorem noteAll_append (s : Store) (notes more : List (PhotoId × String)) :
    s.noteAll (notes ++ more) = (s.noteAll notes).noteAll more := by
  rw [noteAll, noteAll, noteAll, List.foldl_append]

/-- Uploads of different photos are noted in any order. -/
theorem noteAll_perm {notes more : List (PhotoId × String)} (perm : notes.Perm more)
    (distinct : (notes.map (·.1)).Nodup) (s : Store) : s.noteAll notes = s.noteAll more := by
  refine perm.foldl_eq' ?_ s
  rintro ⟨id, url⟩ member ⟨other, url'⟩ member' s
  by_cases same : id = other
  · cases List.inj_on_of_nodup_map distinct member member' same
    rfl
  · exact note_comm same s url url'

@[simp] theorem faults_noteAll (s : Store) (notes : List (PhotoId × String)) :
    (s.noteAll notes).faults = s.faults := by
  induction notes generalizing s with
  | nil => rfl
  | cons note rest ih => exact ih (s.note note.1 note.2)

@[simp] theorem slot_noteAll (s : Store) (notes : List (PhotoId × String)) :
    (s.noteAll notes).slot = s.slot := by
  induction notes generalizing s with
  | nil => rfl
  | cons note rest ih => exact (ih (s.note note.1 note.2)).trans (s.slot_note note.1 note.2)

theorem stored_noteAll_of_not_mem {notes : List (PhotoId × String)} {id : PhotoId}
    (absent : id ∉ notes.map (·.1)) (s : Store) : (s.noteAll notes).stored id = s.stored id := by
  induction notes generalizing s with
  | nil => rfl
  | cons note rest ih =>
      rw [List.map_cons, List.mem_cons, not_or] at absent
      exact (ih absent.2 (s.note note.1 note.2)).trans
        ((s.stored_note note.1 id note.2).trans (if_neg absent.1))

/-- Photos that are noted once each carry what was noted. -/
theorem stored_noteAll_of_mem {notes : List (PhotoId × String)} (distinct : (notes.map (·.1)).Nodup)
    {id : PhotoId} {url : String} (member : (id, url) ∈ notes) (s : Store) :
    (s.noteAll notes).stored id = (s.stored id).map (·.map (·.marked url)) := by
  induction notes generalizing s with
  | nil => cases member
  | cons note rest ih =>
      obtain ⟨fresh, others⟩ := List.nodup_cons.mp distinct
      rcases List.mem_cons.mp member with rfl | later
      · exact (stored_noteAll_of_not_mem fresh (s.note id url)).trans
          ((s.stored_note id id url).trans (if_pos rfl))
      · have other : id ≠ note.1 := by
          rintro rfl
          exact fresh (List.mem_map.mpr ⟨_, later, rfl⟩)
        refine (ih others later (s.note note.1 note.2)).trans ?_
        rw [stored_note, if_neg other]

end Store

end SiteReport
