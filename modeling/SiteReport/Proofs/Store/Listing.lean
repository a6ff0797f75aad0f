import Mathlib.Data.List.Pairwise
import SiteReport.Proofs.Store.Backends

/-!
The order in which a store lists its photos. A database lists the oldest first, whatever it holds.
A list in memory goes by the identifiers, so it lists the oldest first only if the identifiers were
given in the order of the photos' age.
-/

namespace SiteReport

/-- The oldest first, to the millisecond. -/
def OldestFirst (photos : List StagedPhoto) : Prop :=
  photos.Pairwise (·.createdAt.millis ≤ ·.createdAt.millis)

instance (photos : List StagedPhoto) : Decidable (OldestFirst photos) :=
  inferInstanceAs (Decidable (photos.Pairwise _))

namespace MemoryStore

/-- In the order of their identifiers photos come oldest first if the identifiers were given in the
order of their age, and not otherwise. -/
theorem Ordered.oldestFirst_iff {photos : List StagedPhoto} (h : Ordered photos) :
    OldestFirst photos ↔ ∀ p ∈ photos, ∀ q ∈ photos, p.id.number < q.id.number →
      p.createdAt.millis ≤ q.createdAt.millis := by
  constructor
  · intro oldest
    -- of two photos one is listed first, and the order of the identifiers tells which one
    have listed : photos.Pairwise fun p q =>
        p.id.number < q.id.number → p.createdAt.millis ≤ q.createdAt.millis := by
      refine oldest.imp ?_
      exact fun aged _ => aged
    have flipped : photos.Pairwise (flip fun p q =>
        p.id.number < q.id.number → p.createdAt.millis ≤ q.createdAt.millis) :=
      h.imp fun before after => absurd before (Nat.lt_asymm after)
    have all := List.Pairwise.forall_of_forall_of_flip
      (fun p _ before => absurd before (Nat.lt_irrefl _)) listed flipped
    exact fun p hp q hq => all hp hq
  · intro aged
    refine List.Pairwise.imp_of_mem ?_ h
    intro p q hp hq before
    exact aged p hp q hq before

end MemoryStore

namespace PhotoRow

theorem notAfter_iff {a b : PhotoRow} : notAfter a b = true ↔
    a.createdMillis < b.createdMillis ∨ a.createdMillis = b.createdMillis ∧ a.id ≤ b.id := by
  simp [notAfter]

theorem notAfter_trans (a b c : PhotoRow) (h : notAfter a b = true) (next : notAfter b c = true) :
    notAfter a c = true := by
  rw [notAfter_iff] at *
  rcases h with before | ⟨same, id⟩
  · omega
  · rcases next with before | ⟨same', id'⟩
    · omega
    · exact .inr ⟨same.trans same', String.le_trans id id'⟩

theorem notAfter_total (a b : PhotoRow) : (notAfter a b || notAfter b a) = true := by
  rw [Bool.or_eq_true, notAfter_iff, notAfter_iff]
  rcases Int.lt_trichotomy a.createdMillis b.createdMillis with before | same | after
  · exact .inl (.inl before)
  · rcases String.le_total a.id b.id with id | id
    · exact .inl (.inr ⟨same, id⟩)
    · exact .inr (.inr ⟨same.symm, id⟩)
  · exact .inr (.inl after)

theorem notAfter_millis {a b : PhotoRow} (h : notAfter a b = true) :
    a.createdMillis ≤ b.createdMillis := by
  rw [notAfter_iff] at h
  omega

theorem millis_of_photo {r : PhotoRow} {p : StagedPhoto} (h : r.photo = .ok p) :
    p.createdAt.millis = r.createdMillis := by
  unfold photo at h
  split at h
  · cases h
  · split at h
    · cases h
    · rename_i createdAt made
      cases h
      exact Timestamp.millis_of_ofMillis? made

/-- The times in the rows are those of the photos that are read from them. -/
theorem millis_eq {rows : List PhotoRow} {photos : List StagedPhoto}
    (read : List.Forall₂ (fun r p => r.photo = .ok p) rows photos) :
    photos.map (·.createdAt.millis) = rows.map (·.createdMillis) := by
  induction read with
  | nil => rfl
  | cons first _ ih => rw [List.map_cons, List.map_cons, millis_of_photo first, ih]

/-- The row was written for the photo, though its upload may have been noted since. -/
def For (r : PhotoRow) (p : StagedPhoto) : Prop :=
  r.id = p.id.text ∧ r.createdMillis = p.createdAt.millis

/-- A row that was written for a photo taken in no leap second can be read. -/
theorem For.readable {r : PhotoRow} {p : StagedPhoto} (h : r.For p)
    (regular : p.createdAt.time.nano < 1000000000) : ∃ q, r.photo = .ok q := by
  obtain ⟨createdAt, made⟩ :=
    Option.isSome_iff_exists.mp (Timestamp.ofMillis?_millis_isSome regular)
  unfold photo
  rw [h.1, h.2, PhotoId.parse?_text, made]
  exact ⟨_, rfl⟩

theorem exists_forall₂_photo {rows : List PhotoRow} (each : ∀ r ∈ rows, ∃ p, r.photo = .ok p) :
    ∃ photos, List.Forall₂ (fun r p => r.photo = .ok p) rows photos := by
  induction rows with
  | nil => exact ⟨[], .nil⟩
  | cons r rest ih =>
      obtain ⟨p, first⟩ := each r List.mem_cons_self
      obtain ⟨photos, others⟩ := ih fun q member => each q (.tail r member)
      exact ⟨p :: photos, .cons first others⟩

end PhotoRow

namespace Database

/-- What a database lists comes oldest first, whatever it holds. -/
theorem getAll_oldestFirst {d : Database} {photos : List StagedPhoto}
    (h : d.getAll = .ok photos) : OldestFirst photos := by
  have sorted := List.pairwise_mergeSort PhotoRow.notAfter_trans
    PhotoRow.notAfter_total d.photos
  have aged := List.pairwise_map.mpr (sorted.imp PhotoRow.notAfter_millis)
  rw [← PhotoRow.millis_eq (PhotoRow.forall₂_of_mapM_photo h)] at aged
  exact List.pairwise_map.mp aged

/-- Every row was written for one of the photos. -/
def RowsFor (d : Database) (photos : StagedPhoto → Prop) : Prop :=
  ∀ r ∈ d.photos, ∃ p, photos p ∧ r.For p

variable {d : Database} {photos : StagedPhoto → Prop}

theorem RowsFor.put (h : d.RowsFor photos) {p : StagedPhoto} (hp : photos p) :
    (d.put p).RowsFor photos := by
  intro r member
  rcases List.mem_append.mp member with old | new
  · exact h r (List.mem_of_mem_filter old)
  · rw [List.mem_singleton.mp new]
    exact ⟨p, hp, rfl, rfl⟩

theorem RowsFor.delete (h : d.RowsFor photos) (id : PhotoId) : (d.delete id).RowsFor photos :=
  fun r member => h r (List.mem_of_mem_filter member)

theorem RowsFor.markUploaded (h : d.RowsFor photos) (id : PhotoId) (url : String) :
    (d.markUploaded id url).RowsFor photos := by
  intro r member
  obtain ⟨q, old, rfl⟩ := List.mem_map.mp member
  obtain ⟨p, hp, written⟩ := h q old
  refine ⟨p, hp, ?_⟩
  split <;> exact written

theorem RowsFor.getAll (h : d.RowsFor fun p => p.createdAt.time.nano < 1000000000) :
    ∃ photos, d.getAll = .ok photos := by
  have each : ∀ r ∈ d.photos.mergeSort PhotoRow.notAfter, ∃ q, r.photo = .ok q := by
    intro r member
    obtain ⟨p, regular, written⟩ := h r (List.mem_mergeSort.mp member)
    exact written.readable regular
  obtain ⟨photos, read⟩ := PhotoRow.exists_forall₂_photo each
  exact ⟨photos, PhotoRow.mapM_photo read⟩

end Database

namespace Store

theorem served_memory {m : MemoryStore} (h : MemoryStore.Ordered m.photos)
    (calls : List PhotoCall) : ∃ m', served { backend := .memory m } calls =
      { backend := .memory m' } ∧ MemoryStore.Ordered m'.photos := by
  induction calls generalizing m with
  | nil => exact ⟨m, rfl, h⟩
  | cons call rest ih =>
      cases call with
      | put p => exact ih (m := m.put p) (h.insert p)
      | get id => exact ih h
      | getAll => exact ih h
      | delete id => exact ih (h.delete id)
      | clear => exact ih (m := m.clear) .nil
      | markUploaded id url => exact ih (h.markUploaded id url)

theorem served_database {d : Database} {photos : StagedPhoto → Prop} (h : d.RowsFor photos)
    (key : String) {calls : List PhotoCall} (given : ∀ p, .put p ∈ calls → photos p) :
    ∃ d', served { backend := .database d key } calls = { backend := .database d' key } ∧
      d'.RowsFor photos := by
  induction calls generalizing d with
  | nil => exact ⟨d, rfl, h⟩
  | cons call rest ih =>
      have later : ∀ p, .put p ∈ rest → photos p := fun p member => given p (.tail call member)
      rw [served, List.foldl_cons]
      cases call with
      | put p => exact ih (d := d.put p) (h.put (given p List.mem_cons_self)) later
      | get id => exact ih h later
      | getAll => exact ih h later
      | delete id => exact ih (h.delete id) later
      | clear => exact ih (d := d.clear) (fun _ absent => nomatch absent) later
      | markUploaded id url => exact ih (h.markUploaded id url) later

/-- What stores that start empty list after any calls. -/
theorem getAll_oldestFirst_iff (calls : List PhotoCall) :
    (∃ photos, (served { backend := .memory {} } calls).getAll = .ok photos ∧
      (OldestFirst photos ↔ ∀ p ∈ photos, ∀ q ∈ photos, p.id.number < q.id.number →
        p.createdAt.millis ≤ q.createdAt.millis)) ∧
    ∀ key,
      (∃ photos, (served { backend := .database {} key } calls).getAll = .ok photos ∧
        OldestFirst photos) ∨
      ((∃ e, (served { backend := .database {} key } calls).getAll = .error e) ∧
        ∃ p, .put p ∈ calls ∧ 1000000000 ≤ p.createdAt.time.nano) := by
  constructor
  · obtain ⟨m, after, ordered⟩ := served_memory (m := {}) .nil calls
    rw [after]
    exact ⟨m.photos, rfl, ordered.oldestFirst_iff⟩
  · intro key
    have empty : Database.RowsFor {} fun p => PhotoCall.put p ∈ calls :=
      fun _ absent => nomatch absent
    obtain ⟨d, after, rows⟩ := served_database empty key fun _ => id
    rw [after]
    have reads : ({ backend := .database d key } : Store).getAll = d.getAll := rfl
    rw [reads]
    cases listed : d.getAll with
    | ok photos => exact .inl ⟨photos, rfl, d.getAll_oldestFirst listed⟩
    | error e =>
        refine .inr ⟨⟨e, rfl⟩, ?_⟩
        by_contra none
        have regular : d.RowsFor fun p => p.createdAt.time.nano < 1000000000 := by
          intro r member
          obtain ⟨p, given, written⟩ := rows r member
          exact ⟨p, Nat.lt_of_not_le fun leap => none ⟨p, given, leap⟩, written⟩
        obtain ⟨photos, read⟩ := regular.getAll
        rw [read] at listed
        cases listed

end Store

namespace Crossed

theorem memory_lists_younger_first :
    (Store.served { backend := .memory {} } [.put younger, .put older]).getAll =
      .ok [younger, older] ∧ ¬ OldestFirst [younger, older] :=
  ⟨rfl, by decide⟩

end Crossed

end SiteReport
