import Mathlib.Data.List.Find
import Mathlib.Data.List.Perm.Basic
import SiteReport.Proofs.Calendar.Days
import SiteReport.Proofs.Store.View

/-!
The two backends side by side. A store in memory and one in a database that start empty and get the
same calls answer alike, for they hold the same photos after every call: in memory in the order of
the identifiers, in the database as rows in some order. What may differ is the order in which all
photos are listed.
-/

namespace SiteReport

/-- A whole number of milliseconds, and in no leap second. -/
def Timestamp.Whole (t : Timestamp) : Prop :=
  t.time.nano < 1000000000 ∧ t.time.nano % 1000000 = 0

instance (t : Timestamp) : Decidable t.Whole :=
  inferInstanceAs (Decidable (_ ∧ _))

/-- A call on the photos of a store. -/
inductive PhotoCall where
  | put (p : StagedPhoto)
  | get (id : PhotoId)
  | getAll
  | delete (id : PhotoId)
  | clear
  | markUploaded (id : PhotoId) (url : String)

inductive PhotoAnswer where
  | done
  | photo (found : Option StagedPhoto)
  | photos (all : List StagedPhoto)
  | flag (found : Bool)
  | failed (e : StoreError)
  deriving DecidableEq

/-- Equal answers, but for the order of photos in a list. No failure agrees with anything. -/
inductive PhotoAnswer.Agrees : PhotoAnswer → PhotoAnswer → Prop where
  | done : Agrees .done .done
  | photo (found : Option StagedPhoto) : Agrees (.photo found) (.photo found)
  | photos {all others : List StagedPhoto} (perm : all.Perm others) :
      Agrees (.photos all) (.photos others)
  | flag (found : Bool) : Agrees (.flag found) (.flag found)

/-- What is answered to a call that reads. -/
def PhotoAnswer.ofRead {α : Type} (f : α → PhotoAnswer) : Except StoreError α → PhotoAnswer
  | .ok a => f a
  | .error e => .failed e

namespace Store

/-- The answer and the store after a call that writes: the old store if the call fails. -/
def settled (s : Store) : Except StoreError (PhotoAnswer × Store) → PhotoAnswer × Store
  | .ok answered => answered
  | .error e => (.failed e, s)

def serve (s : Store) : PhotoCall → PhotoAnswer × Store
  | .put p => s.settled ((s.put p).map (.done, ·))
  | .get id => (.ofRead .photo (s.get id), s)
  | .getAll => (.ofRead .photos s.getAll, s)
  | .delete id => s.settled ((s.delete id).map fun (found, after) => (.flag found, after))
  | .clear => s.settled (s.clear.map (.done, ·))
  | .markUploaded id url =>
    s.settled ((s.markUploaded id url).map fun (found, after) => (.flag found, after))

/-- The answers to calls made one after another. -/
def answers (s : Store) : List PhotoCall → List PhotoAnswer
  | [] => []
  | call :: rest => (s.serve call).1 :: (s.serve call).2.answers rest

/-- The store after calls made one after another. -/
def served (s : Store) (calls : List PhotoCall) : Store :=
  calls.foldl (fun s call => (s.serve call).2) s

end Store

/-! ### Photos in the order of their identifiers -/

namespace MemoryStore

/-- Photos in the order of their identifiers, none of which comes twice. -/
def Ordered (photos : List StagedPhoto) : Prop :=
  photos.Pairwise (·.id.number < ·.id.number)

variable {photos : List StagedPhoto}

theorem Ordered.ids_ne (h : Ordered photos) : photos.Pairwise (·.id ≠ ·.id) :=
  h.imp fun before same => absurd (congrArg PhotoId.number same) (Nat.ne_of_lt before)

/-- A photo that is put in replaces the one under its identifier. -/
theorem insert_perm (p : StagedPhoto) (h : Ordered photos) :
    (insert p photos).Perm (p :: photos.filter (·.id != p.id)) := by
  induction photos with
  | nil => exact .refl _
  | cons q rest ih =>
      obtain ⟨first, others⟩ := List.pairwise_cons.mp h
      unfold insert
      split
      · rename_i same
        have apart : rest.filter (·.id != p.id) = rest := by
          refine List.filter_eq_self.mpr fun r hr => ?_
          simpa [same] using ((List.pairwise_cons.mp h.ids_ne).1 r hr).symm
        rw [List.filter_cons_of_neg (by simp [same]), apart]
      · rename_i differs
        rw [List.filter_cons_of_pos (by simpa using Ne.symm differs)]
        split
        · rename_i before
          have apart : rest.filter (·.id != p.id) = rest := by
            refine List.filter_eq_self.mpr fun r hr => ?_
            have := first r hr
            simp only [bne_iff_ne, ne_eq]
            rintro same
            rw [same] at this
            omega
          rw [apart]
        · exact ((ih others).cons q).trans (.swap p q _)

theorem mem_insert {p q : StagedPhoto} (h : Ordered photos) (member : q ∈ insert p photos) :
    q = p ∨ q ∈ photos := by
  rcases List.mem_cons.mp ((insert_perm p h).mem_iff.mp member) with new | old
  · exact .inl new
  · exact .inr (List.mem_of_mem_filter old)

theorem Ordered.insert (p : StagedPhoto) (h : Ordered photos) :
    Ordered (MemoryStore.insert p photos) := by
  induction photos with
  | nil => exact List.pairwise_singleton _ p
  | cons q rest ih =>
      obtain ⟨first, others⟩ := List.pairwise_cons.mp h
      unfold MemoryStore.insert
      split
      · rename_i same
        exact List.pairwise_cons.mpr ⟨fun r hr => same ▸ first r hr, others⟩
      · rename_i differs
        split
        · rename_i before
          refine List.pairwise_cons.mpr ⟨fun r hr => ?_, h⟩
          rcases List.mem_cons.mp hr with rfl | later
          · exact before
          · exact Nat.lt_trans before (first r later)
        · rename_i notBefore
          refine List.pairwise_cons.mpr ⟨fun r hr => ?_, ih others⟩
          rcases mem_insert others hr with rfl | later
          · have apart : r.id.number ≠ q.id.number := fun same => differs (PhotoId.number_injective same)
            omega
          · exact first r later

theorem Ordered.delete (id : PhotoId) {m : MemoryStore} (h : Ordered m.photos) :
    Ordered (m.delete id).photos :=
  h.filter _

theorem Ordered.markUploaded (id : PhotoId) (url : String) {m : MemoryStore}
    (h : Ordered m.photos) : Ordered (m.markUploaded id url).photos := by
  refine List.pairwise_map.mpr (h.imp ?_)
  intro p q before
  split <;> split <;> exact before

end MemoryStore

/-! ### The same photos in memory and in a database -/

namespace PhotoRow

theorem photo_ofPhoto {p : StagedPhoto} (whole : p.createdAt.Whole) :
    (ofPhoto p).photo = .ok p := by
  unfold photo ofPhoto
  simp only [PhotoId.parse?_text, Timestamp.ofMillis?_millis whole.1 whole.2]

/-- Rows that are read one after another. -/
theorem mapM_photo {rows : List PhotoRow} {photos : List StagedPhoto}
    (each : List.Forall₂ (fun r p => r.photo = .ok p) rows photos) :
    rows.mapM photo = .ok photos := by
  induction each with
  | nil => rfl
  | cons first _ ih =>
      rw [List.mapM_cons, first, ih]
      rfl

theorem forall₂_of_mapM_photo {rows : List PhotoRow} {photos : List StagedPhoto}
    (h : rows.mapM photo = .ok photos) : List.Forall₂ (fun r p => r.photo = .ok p) rows photos := by
  induction rows generalizing photos with
  | nil =>
      cases h
      exact .nil
  | cons r rest ih =>
      rw [List.mapM_cons] at h
      cases first : r.photo with
      | error e =>
          rw [first] at h
          cases h
      | ok p =>
          cases others : rest.mapM photo with
          | error e =>
              rw [first, others] at h
              cases h
          | ok read =>
              rw [first, others] at h
              obtain rfl : p :: read = photos := Except.ok.inj h
              exact .cons first (ih others)

theorem id_beq (p : StagedPhoto) (id : PhotoId) : ((ofPhoto p).id == id.text) = (p.id == id) := by
  by_cases same : p.id = id
  · simp [same, ofPhoto]
  · simp [same, ofPhoto, Database.text_ne same]

theorem id_beq_comp (id : PhotoId) :
    (fun r : PhotoRow => r.id == id.text) ∘ ofPhoto = fun p => p.id == id :=
  funext fun p => id_beq p id

theorem filter_ofPhoto (photos : List StagedPhoto) (id : PhotoId) :
    (photos.map ofPhoto).filter (·.id != id.text) = (photos.filter (·.id != id)).map ofPhoto := by
  have differ : (fun r : PhotoRow => r.id != id.text) ∘ ofPhoto = fun p => p.id != id := by
    funext p
    simp only [Function.comp_apply, bne, id_beq]
  rw [List.filter_map, differ]

theorem find?_ofPhoto (photos : List StagedPhoto) (id : PhotoId) :
    (photos.map ofPhoto).find? (·.id == id.text) = (photos.find? (·.id == id)).map ofPhoto := by
  rw [List.find?_map, id_beq_comp]

theorem any_ofPhoto (photos : List StagedPhoto) (id : PhotoId) :
    (photos.map ofPhoto).any (·.id == id.text) = photos.any (·.id == id) := by
  rw [List.any_map, id_beq_comp]

end PhotoRow

/-- Among rows of different keys the one that is looked for does not depend on their order. -/
theorem find?_eq_of_perm {rows others : List PhotoRow} (perm : rows.Perm others)
    (keys : (others.map (·.id)).Nodup) (key : String) :
    rows.find? (·.id == key) = others.find? (·.id == key) := by
  refine List.find?_eq_find?_of_perm perm ?_
  rintro r ⟨member, here⟩ q ⟨member', here'⟩
  refine List.inj_on_of_nodup_map keys (perm.mem_iff.mp member) (perm.mem_iff.mp member') ?_
  rw [beq_iff_eq.mp here, beq_iff_eq.mp here']

/-- The rows of the database are those of the photos in memory, in some order. -/
structure Mirrors (m : MemoryStore) (d : Database) : Prop where
  ordered : MemoryStore.Ordered m.photos
  whole : ∀ p ∈ m.photos, p.createdAt.Whole
  rows : d.photos.Perm (m.photos.map PhotoRow.ofPhoto)

namespace Mirrors

variable {m : MemoryStore} {d : Database}

theorem empty : Mirrors {} {} where
  ordered := .nil
  whole := fun _ absent => nomatch absent
  rows := .refl _

theorem put (h : Mirrors m d) {p : StagedPhoto} (whole : p.createdAt.Whole) :
    Mirrors (m.put p) (d.put p) where
  ordered := h.ordered.insert p
  whole := by
    intro q member
    rcases MemoryStore.mem_insert h.ordered member with rfl | old
    · exact whole
    · exact h.whole q old
  rows := by
    have inserted := (MemoryStore.insert_perm p h.ordered).map PhotoRow.ofPhoto
    have written := (h.rows.filter (·.id != p.id.text)).append_right [PhotoRow.ofPhoto p]
    rw [PhotoRow.filter_ofPhoto] at written
    exact written.trans ((List.perm_append_singleton _ _).trans inserted.symm)

theorem delete (h : Mirrors m d) (id : PhotoId) : Mirrors (m.delete id) (d.delete id) where
  ordered := h.ordered.delete id
  whole := fun q member => h.whole q (List.mem_of_mem_filter member)
  rows := by
    have kept := h.rows.filter (·.id != id.text)
    rwa [PhotoRow.filter_ofPhoto] at kept

theorem clear : Mirrors m.clear d.clear where
  ordered := .nil
  whole := fun _ absent => nomatch absent
  rows := .refl _

theorem markUploaded (h : Mirrors m d) (id : PhotoId) (url : String) :
    Mirrors (m.markUploaded id url) (d.markUploaded id url) where
  ordered := h.ordered.markUploaded id url
  whole := by
    intro q member
    obtain ⟨p, old, rfl⟩ := List.mem_map.mp member
    have := h.whole p old
    split <;> exact this
  rows := by
    have marked := h.rows.map fun r =>
      if r.id = id.text then { r with uploaded := true, remoteUrl := some url } else r
    refine marked.trans (.of_eq ?_)
    rw [MemoryStore.markUploaded, List.map_map, List.map_map]
    refine List.map_congr_left fun p _ => ?_
    by_cases same : p.id = id
    · simp [same, PhotoRow.ofPhoto]
    · simp [same, PhotoRow.ofPhoto, Database.text_ne same]

theorem has_eq (h : Mirrors m d) (id : PhotoId) : d.has id = m.has id := by
  rw [Database.has, h.rows.any_eq, PhotoRow.any_ofPhoto, MemoryStore.has]

theorem keys_nodup (h : Mirrors m d) : ((m.photos.map PhotoRow.ofPhoto).map (·.id)).Nodup := by
  rw [List.map_map]
  exact List.pairwise_map.mpr (h.ordered.ids_ne.imp Database.text_ne)

theorem get_eq (h : Mirrors m d) (id : PhotoId) : d.get id = .ok (m.get? id) := by
  unfold Database.get MemoryStore.get?
  rw [find?_eq_of_perm h.rows h.keys_nodup, PhotoRow.find?_ofPhoto]
  cases found : m.photos.find? (·.id == id) with
  | none => rfl
  | some p =>
      have whole := h.whole p (List.mem_of_find?_eq_some found)
      simp only [Option.map_some, PhotoRow.photo_ofPhoto whole]
      rfl

/-- All photos are there, in an order of its own. -/
theorem getAll_perm (h : Mirrors m d) : ∃ photos, d.getAll = .ok photos ∧ m.photos.Perm photos := by
  have sorted : (d.photos.mergeSort PhotoRow.notAfter).Perm (m.photos.map PhotoRow.ofPhoto) :=
    (List.mergeSort_perm _ _).trans h.rows
  have each : List.Forall₂ (fun r p => r.photo = .ok p) (m.photos.map PhotoRow.ofPhoto)
      m.photos := by
    rw [List.forall₂_map_left_iff]
    exact List.forall₂_same.mpr fun p member => PhotoRow.photo_ofPhoto (h.whole p member)
  obtain ⟨photos, read, perm⟩ := List.perm_comp_forall₂ sorted each
  exact ⟨photos, PhotoRow.mapM_photo read, perm.symm⟩

/-- After a call the backends still hold the same photos, and their answers agree. -/
theorem serve (h : Mirrors m d) (key : String) {call : PhotoCall}
    (whole : ∀ p, call = .put p → p.createdAt.Whole) :
    ∃ m' d', (Store.serve { backend := .memory m } call).2 = { backend := .memory m' } ∧
      (Store.serve { backend := .database d key } call).2 = { backend := .database d' key } ∧
      Mirrors m' d' ∧
      PhotoAnswer.Agrees (Store.serve { backend := .memory m } call).1
        (Store.serve { backend := .database d key } call).1 := by
  cases call with
  | put p => exact ⟨m.put p, d.put p, rfl, rfl, h.put (whole p rfl), .done⟩
  | get id =>
      have read : ({ backend := .database d key } : Store).get id = .ok (m.get? id) := h.get_eq id
      refine ⟨m, d, rfl, rfl, h, ?_⟩
      simp only [Store.serve, read]
      exact .photo _
  | getAll =>
      obtain ⟨photos, listed, perm⟩ := h.getAll_perm
      have read : ({ backend := .database d key } : Store).getAll = .ok photos := listed
      refine ⟨m, d, rfl, rfl, h, ?_⟩
      simp only [Store.serve, read]
      exact .photos perm
  | delete id =>
      refine ⟨m.delete id, d.delete id, rfl, rfl, h.delete id, ?_⟩
      have found : d.has id = m.has id := h.has_eq id
      show PhotoAnswer.Agrees (.flag (m.has id)) (.flag (d.has id))
      rw [found]
      exact .flag _
  | clear => exact ⟨m.clear, d.clear, rfl, rfl, clear, .done⟩
  | markUploaded id url =>
      refine ⟨m.markUploaded id url, d.markUploaded id url, rfl, rfl, h.markUploaded id url, ?_⟩
      have found : d.has id = m.has id := h.has_eq id
      show PhotoAnswer.Agrees (.flag (m.has id)) (.flag (d.has id))
      rw [found]
      exact .flag _

theorem answers (h : Mirrors m d) (key : String) {calls : List PhotoCall}
    (whole : ∀ p, .put p ∈ calls → p.createdAt.Whole) :
    List.Forall₂ PhotoAnswer.Agrees (Store.answers { backend := .memory m } calls)
      (Store.answers { backend := .database d key } calls) := by
  induction calls generalizing m d with
  | nil => exact .nil
  | cons call rest ih =>
      obtain ⟨m', d', memory, database, mirrors, agree⟩ :=
        h.serve key fun p put => whole p (put ▸ List.mem_cons_self)
      refine .cons agree ?_
      rw [memory, database]
      exact ih mirrors fun p member => whole p (List.mem_cons_of_mem call member)

end Mirrors

/-- A store in memory and one in a database, empty at first, answer the same calls alike. -/
theorem Store.backends_agree (key : String) {calls : List PhotoCall}
    (whole : ∀ p, .put p ∈ calls → p.createdAt.Whole) :
    List.Forall₂ PhotoAnswer.Agrees (Store.answers { backend := .memory {} } calls)
      (Store.answers { backend := .database {} key } calls) :=
  Mirrors.empty.answers key whole

namespace Crossed

/-- Two photos a second apart, the younger one under the smaller identifier. -/
def younger : StagedPhoto :=
  { id := ⟨5, by decide⟩, bytes := [1], name := "younger.png",
    createdAt := ⟨⟨2026, 7, 14, by decide, by decide, by decide⟩,
      ⟨11, 42, 32, 125000000, by decide, by decide, by decide, by decide⟩⟩,
    uploaded := false, remoteUrl := none }

def older : StagedPhoto :=
  { id := ⟨6, by decide⟩, bytes := [2], name := "older.png",
    createdAt := ⟨⟨2026, 7, 14, by decide, by decide, by decide⟩,
      ⟨11, 42, 31, 125000000, by decide, by decide, by decide, by decide⟩⟩,
    uploaded := false, remoteUrl := none }

def calls : List PhotoCall :=
  [.put younger, .put older, .markUploaded older.id "https://cdn.test/older.png", .getAll,
    .put older, .get older.id, .delete younger.id, .delete younger.id, .getAll]

theorem backends_agree_on_calls :
    (∀ p, .put p ∈ calls → p.createdAt.Whole) ∧
    List.Forall₂ PhotoAnswer.Agrees (Store.answers { backend := .memory {} } calls)
      (Store.answers { backend := .database {} defaultDraftKey } calls) ∧
    Store.answers { backend := .memory {} } calls =
      [.done, .done, .flag true, .photos [younger, older.marked "https://cdn.test/older.png"],
        .done, .photo (some older), .flag true, .flag false, .photos [older]] := by
  have whole : ∀ p, .put p ∈ calls → p.createdAt.Whole := by
    intro p member
    simp only [calls, List.mem_cons, PhotoCall.put.injEq, reduceCtorEq, List.not_mem_nil, or_false,
      false_or] at member
    rcases member with rfl | rfl | rfl <;> decide
  exact ⟨whole, Store.backends_agree defaultDraftKey whole, rfl⟩

end Crossed

end SiteReport
