import SiteReport.Proofs.Store.View

/-!
Stores that gained photos. The photos that were there still are, unchanged and in their order, and
nothing came in but the new ones. Drafts are not touched.
-/

namespace SiteReport

/-- The backend with some photos more, and the same drafts. -/
inductive Backend.Extended (photos : List StagedPhoto) : Backend → Backend → Prop where
  | memory {m after : MemoryStore} (draft_eq : after.draft = m.draft)
      (kept : m.photos.Sublist after.photos) (perm : after.photos.Perm (m.photos ++ photos)) :
      Extended photos (.memory m) (.memory after)
  | database {d after : Database} (key : String) (drafts_eq : after.drafts = d.drafts)
      (kept : d.photos.Sublist after.photos)
      (perm : after.photos.Perm (d.photos ++ photos.map PhotoRow.ofPhoto)) :
      Extended photos (.database d key) (.database after key)

/-- The store with some photos more. -/
structure Store.Extended (photos : List StagedPhoto) (s after : Store) : Prop where
  faults_eq : after.faults = s.faults
  backend : s.backend.Extended photos after.backend

namespace Backend.Extended

variable {photos more : List StagedPhoto} {b mid after : Backend}

protected theorem refl (b : Backend) : Extended [] b b := by
  cases b with
  | memory m => exact .memory rfl (.refl _) (by rw [List.append_nil])
  | database d key => exact .database key rfl (.refl _) (by rw [List.map_nil, List.append_nil])

protected theorem trans (h : Extended photos b mid) (h' : Extended more mid after) :
    Extended (photos ++ more) b after := by
  cases h with
  | memory draft_eq kept perm =>
      cases h' with
      | memory draft_eq' kept' perm' =>
          refine .memory (draft_eq'.trans draft_eq) (kept.trans kept') ?_
          rw [← List.append_assoc]
          exact perm'.trans (perm.append_right more)
  | database key drafts_eq kept perm =>
      cases h' with
      | database _ drafts_eq' kept' perm' =>
          refine .database key (drafts_eq'.trans drafts_eq) (kept.trans kept') ?_
          rw [List.map_append, ← List.append_assoc]
          exact perm'.trans (perm.append_right (more.map PhotoRow.ofPhoto))

theorem perm (h : Extended photos b after) (reordered : photos.Perm more) :
    Extended more b after := by
  cases h with
  | memory draft_eq kept perm =>
      exact .memory draft_eq kept (perm.trans (reordered.append_left _))
  | database key drafts_eq kept perm =>
      exact .database key drafts_eq kept
        (perm.trans ((reordered.map PhotoRow.ofPhoto).append_left _))

end Backend.Extended

/-- What was there and was not added to is found as before. -/
theorem find?_eq_of_kept {α : Type} {items after added : List α} {p : α → Bool}
    (kept : items.Sublist after) (perm : after.Perm (items ++ added))
    (apart : ∀ a ∈ added, p a = false) : after.find? p = items.find? p := by
  have none : added.filter p = [] := List.filter_eq_nil_iff.mpr fun a member => by
    simp [apart a member]
  have same : items.filter p = after.filter p := by
    refine (kept.filter p).eq_of_length ?_
    rw [(perm.filter p).length_eq, List.filter_append, none, List.append_nil]
  rw [← List.head?_filter, ← List.head?_filter, same]

namespace Store.Extended

variable {photos more : List StagedPhoto} {s mid after : Store}

protected theorem refl (s : Store) : Extended [] s s := ⟨rfl, .refl s.backend⟩

protected theorem trans (h : Extended photos s mid) (h' : Extended more mid after) :
    Extended (photos ++ more) s after :=
  ⟨h'.faults_eq.trans h.faults_eq, h.backend.trans h'.backend⟩

theorem perm (h : Extended photos s after) (reordered : photos.Perm more) : Extended more s after :=
  ⟨h.faults_eq, h.backend.perm reordered⟩

theorem has_eq (h : Extended photos s after) (id : PhotoId) :
    after.has id = (s.has id || photos.any (·.id == id)) := by
  obtain ⟨backend, faults⟩ := s
  obtain ⟨backend', faults'⟩ := after
  obtain ⟨-, extended⟩ := h
  cases extended with
  | memory draft_eq kept perm =>
      simp only [has, MemoryStore.has, perm.any_eq, List.any_append]
  | database key drafts_eq kept perm =>
      have rows : (photos.map PhotoRow.ofPhoto).any (·.id == id.text) =
          photos.any (·.id == id) := by
        have texts (p : StagedPhoto) : p.id.text = id.text ↔ p.id = id :=
          ⟨PhotoId.text_injective, congrArg PhotoId.text⟩
        simp only [List.any_map, Function.comp_def, PhotoRow.ofPhoto, beq_eq_decide, texts]
      simp only [has, Database.has, perm.any_eq, List.any_append, rows]

/-- The photos that are not new are as they were. -/
theorem stored_of_not_mem (h : Extended photos s after) {id : PhotoId}
    (other : id ∉ photos.map (·.id)) : after.stored id = s.stored id := by
  obtain ⟨backend, faults⟩ := s
  obtain ⟨backend', faults'⟩ := after
  obtain ⟨-, extended⟩ := h
  have apart : ∀ p ∈ photos, p.id ≠ id := by
    rintro p member rfl
    exact other (List.mem_map_of_mem member)
  cases extended with
  | memory draft_eq kept perm =>
      exact congrArg _ (find?_eq_of_kept kept perm fun p member => by
        simp [apart p member])
  | database key drafts_eq kept perm =>
      have rows : ∀ r ∈ photos.map PhotoRow.ofPhoto, (r.id == id.text) = false := by
        intro r member
        obtain ⟨p, listed, rfl⟩ := List.mem_map.mp member
        exact beq_false_of_ne (Database.text_ne (apart p listed))
      simp only [stored, Database.get, find?_eq_of_kept kept perm rows]

end Store.Extended

/-! ### Putting a photo in -/

theorem MemoryStore.sublist_insert {p : StagedPhoto} {photos : List StagedPhoto}
    (absent : ∀ q ∈ photos, q.id ≠ p.id) : photos.Sublist (insert p photos) := by
  induction photos with
  | nil => exact List.nil_sublist _
  | cons q rest ih =>
      obtain ⟨first, others⟩ := List.forall_mem_cons.mp absent
      unfold insert
      rw [if_neg (Ne.symm first)]
      split
      · exact List.sublist_cons_self p _
      · exact (ih others).cons_cons q

theorem MemoryStore.insert_perm_append {p : StagedPhoto} {photos : List StagedPhoto}
    (absent : ∀ q ∈ photos, q.id ≠ p.id) : (insert p photos).Perm (photos ++ [p]) := by
  induction photos with
  | nil => exact .refl _
  | cons q rest ih =>
      obtain ⟨first, others⟩ := List.forall_mem_cons.mp absent
      unfold insert
      rw [if_neg (Ne.symm first)]
      split
      · exact (List.perm_append_singleton p (q :: rest)).symm
      · exact (ih others).cons q

/-- A photo under an identifier of its own is one photo more. -/
theorem Store.extended_of_put {s after : Store} {p : StagedPhoto} (absent : s.has p.id = false)
    (put : s.put p = .ok after) : s.Extended [p] after := by
  obtain ⟨-, rfl⟩ := change_eq_ok_iff.mp put
  refine ⟨rfl, ?_⟩
  obtain ⟨backend, faults⟩ := s
  cases backend with
  | memory m =>
      have apart : ∀ q ∈ m.photos, q.id ≠ p.id := by simpa [has, MemoryStore.has] using absent
      exact .memory rfl (MemoryStore.sublist_insert apart) (MemoryStore.insert_perm_append apart)
  | database d key =>
      have apart : ∀ r ∈ d.photos, r.id ≠ p.id.text := by simpa [has, Database.has] using absent
      have rows : (d.put p).photos = d.photos ++ [.ofPhoto p] := by
        have untouched : d.photos.filter (·.id != p.id.text) = d.photos :=
          List.filter_eq_self.mpr fun r member => by simpa using apart r member
        exact congrArg (· ++ [PhotoRow.ofPhoto p]) untouched
      refine .database key rfl ?_ ?_
      · exact rows ▸ List.sublist_append_left _ _
      · exact rows ▸ .refl _

end SiteReport
