import SiteReport.Description.Apply
import SiteReport.Proofs.Calendar.Days
import SiteReport.Proofs.Document.Edits
import SiteReport.Proofs.Store.Staging

/-!
Photos on their way from files into a document. Each is staged under a fresh identifier and attached
to a list; the store holds one photo for each file then, and the photos that it held before under
other identifiers are as they were.
-/

namespace SiteReport

/-! ### What the edits of a composer write -/

namespace Composer

/-- The composer with another body: header, link and stock are as they were. -/
structure Wrote (c : Composer) (body : Body) (after : Composer) : Prop where
  body_eq : after.body = body
  header_eq : after.header = c.header
  remoteId_eq : after.remoteId = c.remoteId
  stock_eq : after.stock = c.stock

variable {c : Composer}

theorem Wrote.trans {mid after : Composer} {body body' : Body} (h : c.Wrote body mid)
    (h' : mid.Wrote body' after) : c.Wrote body' after where
  body_eq := h'.body_eq
  header_eq := h'.header_eq.trans h.header_eq
  remoteId_eq := h'.remoteId_eq.trans h.remoteId_eq
  stock_eq := h'.stock_eq.trans h.stock_eq

theorem adopt_wrote (c : Composer) (clock : Clock) (r : Body × Change) :
    c.Wrote r.1 (c.adopt clock r) := by
  unfold adopt commit
  split <;> exact ⟨rfl, rfl, rfl, rfl⟩

theorem attachPhoto_wrote {list : PhotoList} {photo : PhotoRef} {r : Body × Option Change}
    (accepted : c.body.attach list photo = .ok r) (clock : Clock) :
    ∃ after, c.attachPhoto clock list photo = .ok (r.2, after) ∧ c.Wrote r.1 after := by
  obtain ⟨body, _ | change⟩ := r
  · obtain ⟨photos, -, -, same⟩ := Body.attach_eq_ok_iff.mp accepted
    have still : body = c.body := by
      split at same
      · exact (Prod.mk.inj same).1
      · cases (Prod.mk.inj same).2
    exact ⟨c, by rw [attachPhoto, accepted]; rfl, still.symm, rfl, rfl, rfl⟩
  · exact ⟨_, by rw [attachPhoto, accepted]; rfl, c.adopt_wrote clock (body, change)⟩

theorem attach_of_attachPhoto {clock : Clock} {list : PhotoList} {photo : PhotoRef}
    {answer : Option Change × Composer} (h : c.attachPhoto clock list photo = .ok answer) :
    ∃ r, c.body.attach list photo = .ok r := by
  obtain ⟨r, accepted, -⟩ := map_eq_ok_iff.mp h
  exact ⟨r, accepted⟩

end Composer

namespace Composer

variable {c : Composer} {clock : Clock} {list : PhotoList}

/-- What it takes to stage a photo and attach it, and what comes of it. -/
theorem capturePhoto_wrote (clock : Clock) (file : Incoming) {bytes : Bytes} {store : Store}
    {r : Body × Option Change}
    (normal : c.stock.normalizer.normalize file.bytes = .ok bytes)
    (put : c.stock.store.put (file.photo bytes) = .ok store)
    (accepted : c.body.attach list (.staged file.fresh) = .ok r) :
    ∃ after, c.capturePhoto clock list file = (.ok (file.photo bytes), after) ∧
      (c.mapStore store).Wrote r.1 after := by
  obtain ⟨photos, known, -⟩ := Body.attach_eq_ok_iff.mp accepted
  have stocked : c.stock.stage file =
      .ok (file.photo bytes, { c.stock with store }) :=
    Stock.stage_eq_ok_iff.mpr ⟨bytes, store, normal, rfl, put, rfl⟩
  have staged : c.stage file =
      .ok (file.photo bytes, c.mapStore store) := by
    rw [stage, stocked]
    rfl
  obtain ⟨after, attached, wrote⟩ := attachPhoto_wrote (c := c.mapStore store) accepted clock
  refine ⟨after, ?_, wrote⟩
  have named : (file.photo bytes).id = file.fresh := rfl
  simp only [capturePhoto, known, staged, named, attached]

theorem captured {file : Incoming} {photo : StagedPhoto} (h : (c.capturePhoto clock list file).1 = .ok photo) :
    ∃ bytes store r, c.stock.normalizer.normalize file.bytes = .ok bytes ∧
      c.stock.store.put (file.photo bytes) = .ok store ∧
      c.body.attach list (.staged file.fresh) = .ok r := by
  unfold capturePhoto at h
  split at h
  · cases h
  · split at h
    · cases h
    · rename_i taken mid staged
      obtain ⟨⟨photo', stock⟩, stocked, same⟩ := map_eq_ok_iff.mp staged
      cases same
      obtain ⟨bytes, store, normal, rfl, put, rfl⟩ := Stock.stage_eq_ok_iff.mp stocked
      split at h
      · cases h
      · rename_i attached
        obtain ⟨r, accepted⟩ := attach_of_attachPhoto attached
        exact ⟨bytes, store, r, normal, put, accepted⟩

end Composer

namespace Surroundings

/-- The photo that is staged from a file as the one with the number `k`. -/
def taken (s : Surroundings) (k : Nat) (name : String) (bytes : Bytes) : StagedPhoto :=
  ⟨s.fresh k, bytes, name, s.clock.wall, false, none⟩

/-- The first `limit` identifiers for photos differ, and are none of the names. -/
structure Fresh (s : Surroundings) (names : List PhotoId) (limit : Nat) : Prop where
  distinct : ∀ j k, j < limit → k < limit → s.fresh j = s.fresh k → j = k
  unnamed : ∀ k, k < limit → s.fresh k ∉ names
  regular : s.clock.wall.time.nano < 1000000000

end Surroundings

/-! ### What a store holds on the way -/

theorem PhotoRow.photo_taken (s : Surroundings)
    (regular : s.clock.wall.time.nano < 1000000000) (k : Nat) (name : String) (bytes : Bytes) :
    ∃ p, (PhotoRow.ofPhoto (s.taken k name bytes)).photo = .ok p ∧ p.name = name ∧
      p.bytes = bytes ∧ p.uploadedUrl? = none := by
  obtain ⟨createdAt, made⟩ :=
    Option.isSome_iff_exists.mp (Timestamp.ofMillis?_millis_isSome regular)
  unfold photo ofPhoto Surroundings.taken
  simp only [PhotoId.parse?_text, made]
  exact ⟨_, rfl, rfl, rfl, rfl⟩

/-- A photo that was put into a store is found under its identifier. -/
theorem Store.put_taken {s : Surroundings} (regular : s.clock.wall.time.nano < 1000000000)
    {k : Nat} {name : String} {bytes : Bytes} {store after : Store}
    (h : store.put (s.taken k name bytes) = .ok after) :
    ∃ p, after.stored (s.fresh k) = .ok (some p) ∧ p.name = name ∧ p.bytes = bytes ∧
      p.uploadedUrl? = none := by
  obtain ⟨-, rfl⟩ := change_eq_ok_iff.mp h
  obtain ⟨backend, faults⟩ := store
  cases backend with
  | memory m =>
      have self := MemoryStore.find?_insert_self (s.taken k name bytes) m.photos
      exact ⟨_, congrArg _ self, rfl, rfl, rfl⟩
  | database d key =>
      obtain ⟨p, read, told⟩ := PhotoRow.photo_taken s regular k name bytes
      have row : (d.put (s.taken k name bytes)).photos.find? (·.id == (s.fresh k).text) =
          some (.ofPhoto (s.taken k name bytes)) :=
        Database.find?_putRow_self (.ofPhoto (s.taken k name bytes)) d
      refine ⟨p, ?_, told⟩
      simp only [stored, Database.get, row, read]
      rfl

/-- What a store holds once the files were staged into it in turn: the named photos as they were
before, and one photo for each file. -/
structure Filed (s : Surroundings) (names : List PhotoId) (before : Store)
    (files : List (String × Bytes)) (store : Store) : Prop where
  works : store.faults = fun _ => none
  kept : ∀ id ∈ names, store.stored id = before.stored id
  filed : ∀ k file, files[k]? = some file → ∃ p, store.stored (s.fresh k) = .ok (some p) ∧
    p.name = file.1 ∧ p.bytes = file.2 ∧ p.uploadedUrl? = none

namespace Filed

variable {s : Surroundings} {names : List PhotoId} {limit : Nat} {before store : Store}
  {files : List (String × Bytes)}

theorem start (works : before.faults = fun _ => none) : Filed s names before [] before where
  works := works
  kept := fun _ _ => rfl
  filed := fun k file absent => by simp at absent

/-- One file more. -/
theorem put (h : Filed s names before files store) (fresh : s.Fresh names limit)
    (room : files.length < limit) (name : String) (bytes : Bytes) :
    ∃ after, store.put (s.taken files.length name bytes) = .ok after ∧
      Filed s names before (files ++ [(name, bytes)]) after := by
  have accepted : ∃ after, store.put (s.taken files.length name bytes) = .ok after :=
    ⟨_, Store.change_eq_ok_iff.mpr ⟨congrFun h.works _, rfl⟩⟩
  obtain ⟨after, accepted⟩ := accepted
  obtain ⟨faults, -, others, -⟩ := Store.put_spec accepted
  refine ⟨after, accepted, faults.trans h.works, ?_, ?_⟩
  · intro id named
    have other : id ≠ s.fresh files.length := by
      rintro rfl
      exact fresh.unnamed _ room named
    rw [others id other, h.kept id named]
  · intro k file here
    rcases Nat.lt_trichotomy k files.length with earlier | rfl | beyond
    · rw [List.getElem?_append_left earlier] at here
      have other : s.fresh k ≠ s.fresh files.length := fun same =>
        Nat.ne_of_lt earlier (fresh.distinct _ _ (Nat.lt_trans earlier room) room same)
      rw [others _ other]
      exact h.filed k file here
    · rw [List.getElem?_concat_length] at here
      cases here
      exact Store.put_taken fresh.regular accepted
    · rw [List.getElem?_eq_none (by rw [List.length_append]; exact beyond)] at here
      cases here

end Filed

/-! ### Staged photos that edits bring in -/

namespace Body

variable {b : Body}

theorem mem_stagedPhotos_push {kind : Content} (bare : kind.withoutPhotos = kind)
    {entry : PhotoList × PhotoId} (h : entry ∈ (b.push kind).1.stagedPhotos) :
    entry ∈ b.stagedPhotos := by
  obtain ⟨list, id⟩ := entry
  obtain ⟨photos, there, staged⟩ := mem_stagedPhotos_iff.mp h
  obtain ⟨s, member, shown⟩ := mem_lists_iff.mp there
  rcases List.mem_append.mp member with old | new
  · exact mem_stagedPhotos_iff.mpr ⟨photos, mem_lists_iff.mpr ⟨s, old, shown⟩, staged⟩
  · rw [List.mem_singleton.mp new] at shown
    rw [Section.eq_nil_of_mem_lists bare shown] at staged
    cases staged

theorem mem_stagedPhotos_update {id : SectionId} {patch : SectionPatch} {r : Body × Change}
    (accepted : b.update id patch = .ok r) {entry : PhotoList × PhotoId}
    (h : entry ∈ r.1.stagedPhotos) : entry ∈ b.stagedPhotos := by
  obtain ⟨pre, s, post, content, split, patched, rfl⟩ := update_eq_ok_iff.mp accepted
  obtain ⟨list, photo⟩ := entry
  obtain ⟨photos, there, staged⟩ := mem_stagedPhotos_iff.mp h
  obtain ⟨t, member, shown⟩ := mem_lists_iff.mp there
  refine mem_stagedPhotos_iff.mpr ⟨photos, mem_lists_iff.mpr ?_, staged⟩
  rw [split.sections_eq]
  rcases List.mem_append.mp member with before | rest
  · exact ⟨t, List.mem_append_left _ before, shown⟩
  · rcases List.mem_cons.mp rest with rfl | after
    · refine ⟨s, List.mem_append_right _ List.mem_cons_self, ?_⟩
      rcases patched_keeps_photos patched with same | bare
      · rw [same] at shown
        exact shown
      · rw [Section.eq_nil_of_mem_lists bare shown] at staged
        cases staged
    · exact ⟨t, List.mem_append_right _ (List.mem_cons_of_mem s after), shown⟩

theorem mem_stagedPhotos_attach {list : PhotoList} {photo : PhotoRef} {r : Body × Option Change}
    (accepted : b.attach list photo = .ok r) {l : PhotoList} {id : PhotoId}
    (h : (l, id) ∈ r.1.stagedPhotos) : (l, id) ∈ b.stagedPhotos ∨ photo = .staged id := by
  obtain ⟨photos, known, -, rfl⟩ := attach_eq_ok_iff.mp accepted
  split at h
  · exact .inl h
  · obtain ⟨s, block, found, content, here⟩ := photos_eq_ok_iff.mp known
    obtain ⟨pre, post, split⟩ := exists_split_of_find? found
    obtain ⟨ps, there, staged⟩ := mem_stagedPhotos_iff.mp h
    obtain ⟨t, member, shown⟩ := mem_lists_iff.mp there
    have old : ∀ t ∈ b.sections, (l, ps) ∈ t.lists → (l, id) ∈ b.stagedPhotos :=
      fun t member shown => mem_stagedPhotos_iff.mpr ⟨ps, mem_lists_iff.mpr ⟨t, member, shown⟩, staged⟩
    rw [split.sections_eq] at old
    rw [split.setPhotos content] at member
    rcases List.mem_append.mp member with before | rest
    · exact .inl (old t (List.mem_append_left _ before) shown)
    · rcases List.mem_cons.mp rest with rfl | after
      · have lists := (Section.mem_lists_setPhotos content here).mp shown
        split at lists
        · rename_i same
          rw [lists, List.mem_append, List.mem_singleton] at staged
          rcases staged with there | new
          · exact .inl (mem_stagedPhotos_iff.mpr ⟨photos, mem_lists_of_photos
              (same ▸ split.id_eq ▸ known), there⟩)
          · exact .inr new.symm
        · exact .inl (old s (List.mem_append_right _ List.mem_cons_self) lists)
      · exact .inl (old t (List.mem_append_right _ (List.mem_cons_of_mem s after)) shown)

end Body

end SiteReport
