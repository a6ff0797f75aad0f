import SiteReport.Proofs.Batches
import SiteReport.Proofs.Store.View
import SiteReport.Stock

/-!
The addresses on record in a store, and how they fare in the stock. Staging, deleting and draft
keeping put no address on record; only noting an upload does.
-/

namespace SiteReport

namespace Store

variable {s mid after : Store}

/-- Every address on record was on record before. -/
def RecordsFrom (after s : Store) : Prop :=
  ∀ id url, after.recorded? id = some url → s.recorded? id = some url

theorem RecordsFrom.refl (s : Store) : s.RecordsFrom s := fun _ _ => id

theorem RecordsFrom.trans (next : after.RecordsFrom mid) (h : mid.RecordsFrom s) :
    after.RecordsFrom s :=
  fun id url hu => h id url (next id url hu)

/-- It is enough to look at each photo that may have changed. -/
theorem RecordsFrom.of_stored
    (h : ∀ id, after.stored id = s.stored id ∨
      ∀ url, after.recorded? id = some url → s.recorded? id = some url) :
    after.RecordsFrom s := by
  intro id url hu
  rcases h id with same | known
  · rwa [← recorded?_congr same]
  · exact known url hu

/-- A store in which photos may have come and gone, and nothing else has changed: the draft is the
same, and no address has come on record. -/
structure Kept (s after : Store) : Prop where
  faults_eq : after.faults = s.faults
  slot_eq : after.slot = s.slot
  records : after.RecordsFrom s

theorem Kept.refl (s : Store) : Kept s s := ⟨rfl, rfl, .refl s⟩

theorem Kept.trans (h : Kept s mid) (next : Kept mid after) : Kept s after where
  faults_eq := next.faults_eq.trans h.faults_eq
  slot_eq := next.slot_eq.trans h.slot_eq
  records := next.records.trans h.records

theorem put_kept {p : StagedPhoto} (fresh : p.uploadedUrl? = none) (h : s.put p = .ok after) :
    Kept s after := by
  obtain ⟨faults, slot, others, self⟩ := put_spec h
  refine ⟨faults, slot, .of_stored fun id => ?_⟩
  by_cases here : id = p.id
  · subst here
    refine .inr fun url hu => ?_
    have noted := self url hu
    rw [fresh] at noted
    cases noted
  · exact .inl (others id here)

theorem clear_kept (h : s.clear = .ok after) : Kept s after := by
  obtain ⟨faults, slot, stored⟩ := clear_spec h
  refine ⟨faults, slot, fun id url hu => ?_⟩
  obtain ⟨p, hp, -⟩ := recorded?_eq_some_iff.mp hu
  rw [stored id] at hp
  cases hp

/-- A look at the slot clears it if the draft is old or unreadable, and changes nothing else. -/
theorem checkDraft_spec {now : Timestamp} {window : Int} {check : DraftCheck}
    (h : s.checkDraft now window = .ok (check, after)) :
    ((check = .stale ∨ check = .corrupt) ∧ s.clearDraft = .ok after) ∨
      (¬ (check = .stale ∨ check = .corrupt) ∧ after = s) := by
  have cleared {told : DraftCheck} (h : s.clearDraft.map (told, ·) = .ok (check, after)) :
      told = check ∧ s.clearDraft = .ok after := by
    obtain ⟨store, accepted, same⟩ := map_eq_ok_iff.mp h
    cases same
    exact ⟨rfl, accepted⟩
  unfold checkDraft at h
  split at h
  · cases h
    exact .inr ⟨by simp, rfl⟩
  · split at h
    · cases h
      exact .inr ⟨by simp, rfl⟩
    · obtain ⟨rfl, accepted⟩ := cleared h
      exact .inl ⟨.inl rfl, accepted⟩
  · obtain ⟨rfl, accepted⟩ := cleared h
    exact .inl ⟨.inr rfl, accepted⟩
  · cases h

theorem recorded?_note {id other : PhotoId} {known url : String}
    (h : (s.note id known).recorded? other = some url) :
    s.recorded? other = some url ∨ (other, url) = (id, known) := by
  by_cases here : other = id
  · obtain ⟨p, hp, noted⟩ := recorded?_eq_some_iff.mp h
    rw [stored_note, if_pos here] at hp
    obtain ⟨found, -, hq⟩ := map_eq_ok_iff.mp hp
    obtain ⟨q, -, rfl⟩ := Option.map_eq_some_iff.mp hq
    rw [StagedPhoto.uploadedUrl?_marked] at noted
    exact .inr (Prod.ext here (Option.some.inj noted).symm)
  · rw [recorded?_congr ((s.stored_note id other known).trans (if_neg here))] at h
    exact .inl h

/-- What is on record after uploads were noted was so before, or was noted. -/
theorem recorded?_noteAll {notes : List (PhotoId × String)} {id : PhotoId} {url : String}
    (h : (s.noteAll notes).recorded? id = some url) :
    s.recorded? id = some url ∨ (id, url) ∈ notes := by
  induction notes generalizing s with
  | nil => exact .inl h
  | cons note rest ih =>
      rcases ih h with before | later
      · exact (recorded?_note before).imp_right fun here => List.mem_cons.mpr (.inl here)
      · exact .inr (List.mem_cons_of_mem note later)

/-- A store out of which some photos were taken, and nothing else. -/
structure Lost (gone : List PhotoId) (s after : Store) : Prop extends Kept s after where
  stored_eq : ∀ id ∉ gone, after.stored id = s.stored id

namespace Lost

theorem refl (gone : List PhotoId) (s : Store) : Lost gone s s := ⟨.refl s, fun _ _ => rfl⟩

theorem trans {gone more : List PhotoId} (h : Lost gone s mid) (next : Lost more mid after) :
    Lost (gone ++ more) s after where
  toKept := h.toKept.trans next.toKept
  stored_eq := fun id absent =>
    (next.stored_eq id fun there => absent (List.mem_append_right _ there)).trans
      (h.stored_eq id fun there => absent (List.mem_append_left _ there))

theorem of_delete {id : PhotoId} {found : Bool} (h : s.delete id = .ok (found, after)) :
    Lost [id] s after := by
  obtain ⟨faults, slot, stored⟩ := delete_spec h
  refine ⟨⟨faults, slot, .of_stored fun other => ?_⟩, fun other absent => ?_⟩
  · by_cases here : other = id
    · refine .inr fun url hu => ?_
      obtain ⟨p, hp, -⟩ := recorded?_eq_some_iff.mp hu
      rw [stored, if_pos here] at hp
      cases hp
    · exact .inl ((stored other).trans (if_neg here))
  · rw [stored, if_neg (by simpa using absent)]

end Lost

end Store

namespace Stock

/-- The stock after several uploads were noted. -/
def noteAll (s : Stock) (notes : List (PhotoId × String)) : Stock :=
  { s with store := s.store.noteAll notes }

theorem noteAll_append (s : Stock) (notes more : List (PhotoId × String)) :
    s.noteAll (notes ++ more) = (s.noteAll notes).noteAll more := by
  rw [noteAll, noteAll, noteAll, Store.noteAll_append]

theorem noteAll_perm {notes more : List (PhotoId × String)} (perm : notes.Perm more)
    (distinct : (notes.map (·.1)).Nodup) (s : Stock) : s.noteAll notes = s.noteAll more := by
  rw [noteAll, noteAll, Store.noteAll_perm perm distinct]

theorem markUploaded_eq_ok_iff {s after : Stock} {id : PhotoId} {url : String} {found : Bool} :
    s.markUploaded id url = .ok (found, after) ↔
      s.store.faults .markUploaded = none ∧ s.store.has id = found ∧
      s.noteAll [(id, url)] = after := by
  simp only [markUploaded, map_eq_ok_iff, Prod.exists, Store.markUploaded_eq_ok_iff, Prod.mk.injEq]
  constructor
  · rintro ⟨_, _, ⟨allowed, known, rfl⟩, rfl, rfl⟩
    exact ⟨allowed, known, rfl⟩
  · rintro ⟨allowed, known, rfl⟩
    exact ⟨_, _, ⟨allowed, known, rfl⟩, rfl, rfl⟩

theorem get_noteAll_of_not_mem {notes : List (PhotoId × String)} {id : PhotoId}
    (absent : id ∉ notes.map (·.1)) (s : Stock) : (s.noteAll notes).get id = s.get id := by
  simp only [get, noteAll, Store.get_eq_stored, Store.guarded, Store.faults_noteAll,
    Store.stored_noteAll_of_not_mem absent]

theorem get_noteAll_of_mem {notes : List (PhotoId × String)} (distinct : (notes.map (·.1)).Nodup)
    {id : PhotoId} {url : String} (member : (id, url) ∈ notes) (s : Stock) :
    (s.noteAll notes).get id = (s.get id).map (·.map (·.marked url)) := by
  simp only [get, noteAll, Store.get_eq_stored, Store.guarded, Store.faults_noteAll,
    Store.stored_noteAll_of_mem distinct member]
  split <;> rfl

theorem remove_lost (s : Stock) (id : PhotoId) : Store.Lost [id] s.store (s.remove id).2.store := by
  unfold remove
  simp only
  cases h : (s.evict id).store.delete id with
  | error e => exact .refl [id] s.store
  | ok answer => exact .of_delete h

theorem foldl_remove_lost (photos : List PhotoId) (s : Stock) :
    Store.Lost photos s.store (photos.foldl (fun s id => (s.remove id).2) s).store := by
  induction photos generalizing s with
  | nil => exact .refl [] s.store
  | cons id rest ih => exact (s.remove_lost id).trans (ih (s.remove id).2)

theorem clearAll_kept (s : Stock) : Store.Kept s.store s.clearAll.2.store := by
  unfold clearAll
  simp only
  split
  · rename_i cleared
    exact Store.clear_kept cleared
  · exact .refl s.store

theorem preview_store (s : Stock) (id : PhotoId) : (s.preview id).2.store = s.store := by
  unfold preview
  split
  · rfl
  · split
    · rfl
    · rfl
    · split <;> rfl

/-! ### Staging -/

/-- A photo that was just staged is not uploaded. -/
theorem stage_kept {s after : Stock} {file : Incoming} {photo : StagedPhoto}
    (h : s.stage file = .ok (photo, after)) : Store.Kept s.store after.store := by
  unfold stage at h
  split at h
  · cases h
  · simp only at h
    split at h
    · cases h
    · rename_i stored
      cases h
      exact Store.put_kept rfl stored

theorem stage_of_stageApart {s after : Stock} {file : Incoming} {photo : StagedPhoto}
    (h : s.stageApart file = .ok (photo, after)) : s.stage file = .ok (photo, after) := by
  unfold stageApart at h
  split at h
  · cases h
  · exact h

/-- What each file keeps that is staged, many files keep that reach the stock one after another. -/
theorem stageAll_induction {P : Stock → Prop} {files : List Incoming}
    (keeps : ∀ file ∈ files, ∀ s photo after, P s → s.stage file = .ok (photo, after) → P after)
    {s : Stock} (start : P s) : P (s.stageAll files) := by
  unfold stageAll
  induction files generalizing s with
  | nil => exact start
  | cons file rest ih =>
      obtain ⟨one, others⟩ := List.forall_mem_cons.mp keeps
      rw [List.foldl_cons]
      cases h : s.stageApart file with
      | error e => exact ih others start
      | ok answer => exact ih others (one s answer.1 answer.2 start (stage_of_stageApart h))

/-- The same for batches, in whatever order the files of a batch end. -/
theorem stageBatch_induction {P : Stock → Prop} {files : List Incoming}
    (keeps : ∀ file ∈ files, ∀ s photo after, P s → s.stage file = .ok (photo, after) → P after)
    (completion : Completion) {s : Stock} (start : P s) :
    P (s.stageBatch completion files).2 := by
  have chunks : ∀ (loud : Bool) (parts : List (List Incoming)) (r : StageReport × Stock),
      parts.flatten ⊆ files → P r.2 →
      P (parts.foldl (stageChunk completion files.length loud) r).2 := by
    intro loud parts
    induction parts with
    | nil => exact fun _ _ => id
    | cons part rest ih =>
        intro r among holds
        rw [List.flatten_cons, List.append_subset] at among
        have arranged (file) (member : file ∈ completion.arrange r.1.done part) : file ∈ files :=
          among.1 ((completion.arrange_perm r.1.done part).subset member)
        have one : P (stageChunk completion files.length loud r part).2 := by
          unfold stageChunk
          simp only
          split <;> exact stageAll_induction (fun file member => keeps file (arranged file member))
            holds
        exact ih _ among.2 one
  refine chunks _ _ ({}, s) ?_ start
  rw [flatten_batches]
  exact List.Subset.refl files

theorem stageBatch_kept (s : Stock) (completion : Completion) (files : List Incoming) :
    Store.Kept s.store (s.stageBatch completion files).2.store :=
  stageBatch_induction (P := fun t => Store.Kept s.store t.store)
    (fun _ _ _ _ _ kept staged => kept.trans (stage_kept staged)) completion (.refl s.store)

end Stock

end SiteReport
