import SiteReport.Gesture
import SiteReport.Proofs.Document.Lists

/-!
What each edit of a document does when it is accepted, with everything it checked. Later modules
take edits apart by these statements and do not look into the edits themselves.
-/

namespace SiteReport

namespace Body

variable {b : Body}

/-- An edit that always tells of a change tells of the one that was made. -/
theorem map_made_eq_ok_iff {answer : Except EditError (Body × Change)} {after : Body}
    {change : Option Change} :
    answer.map made = .ok (after, change) ↔
      ∃ told, answer = .ok (after, told) ∧ change = some told := by
  cases answer with
  | error e => simp [Except.map]
  | ok r => simp [Except.map, made, Prod.ext_iff, eq_comm]

theorem remove_eq_ok_iff {id : SectionId} {r : Body × Change} :
    b.remove id = .ok r ↔ ∃ pre s post, b.Split id pre s post ∧
      r = ({ b with sections := pre ++ post }, .removed id pre.length) := by
  unfold Body.remove
  constructor
  · intro h
    cases hi : b.indexOf? id with
    | none => simp [hi] at h
    | some i =>
        obtain ⟨pre, s, post, split, rfl⟩ := exists_split_of_indexOf? hi
        simp only [hi, split.eraseIdx, Except.ok.injEq] at h
        exact ⟨pre, s, post, split, h.symm⟩
  · rintro ⟨pre, s, post, split, rfl⟩
    simp [split.indexOf?, split.eraseIdx]

theorem update_eq_ok_iff {id : SectionId} {patch : SectionPatch} {r : Body × Change} :
    b.update id patch = .ok r ↔ ∃ pre s post content, b.Split id pre s post ∧
      patched id s.content patch = .ok content ∧
      r = ({ b with sections := pre ++ { s with content } :: post }, .updated id) := by
  unfold Body.update
  constructor
  · intro h
    cases hf : b.find? id with
    | none => simp [hf] at h
    | some s =>
        obtain ⟨pre, post, split⟩ := exists_split_of_find? hf
        cases hp : patched id s.content patch with
        | error e => simp [hf, hp] at h
        | ok content =>
            simp only [hf, hp, split.setContent, Except.ok.injEq] at h
            exact ⟨pre, s, post, content, split, hp, h.symm⟩
  · rintro ⟨pre, s, post, content, split, hp, rfl⟩
    simp [split.find?, hp, split.setContent]

/-- A patch of a block either leaves it or finds it empty, so it never touches a photo. -/
theorem patched_keeps_photos {id : SectionId} {content after : Content} {patch : SectionPatch}
    (h : patched id content patch = .ok after) :
    after = content ∨ after.withoutPhotos = after := by
  cases content <;> cases patch <;> simp [patched] at h <;> try (subst h; exact .inr rfl)
  split at h
  · exact .inl (Except.ok.inj h).symm
  · split at h
    · cases h
      rename_i layout _ _
      cases layout <;> exact .inr rfl
    · cases h

theorem move_eq_ok_iff {id : SectionId} {stop : Nat} {r : Body × Change} :
    b.move id stop = .ok r ↔ ∃ pre s post, b.Split id pre s post ∧ stop < b.sections.length ∧
      r = ({ b with sections := moveItem b.sections pre.length stop },
        .moved id pre.length stop) := by
  unfold Body.move
  constructor
  · intro h
    cases hi : b.indexOf? id with
    | none => simp [hi] at h
    | some i =>
        obtain ⟨pre, s, post, split, rfl⟩ := exists_split_of_indexOf? hi
        simp only [hi] at h
        split at h
        · cases h
        · exact ⟨pre, s, post, split, by omega, (Except.ok.inj h).symm⟩
  · rintro ⟨pre, s, post, split, inside, rfl⟩
    simp [split.indexOf?, inside]

theorem duplicate_eq_ok_iff {id : SectionId} {r : Body × Change} :
    b.duplicate id = .ok r ↔ ∃ pre s post, b.Split id pre s post ∧
      r = (⟨pre ++ s :: ⟨b.nextId, s.content.withoutPhotos⟩ :: post, b.nextId.number⟩,
        .duplicated id b.nextId) := by
  unfold Body.duplicate
  constructor
  · intro h
    cases hi : b.indexOf? id with
    | none => simp [hi] at h
    | some i =>
        obtain ⟨pre, s, post, split, rfl⟩ := exists_split_of_indexOf? hi
        simp only [hi, split.find?, split.insertIdx, Except.ok.injEq] at h
        exact ⟨pre, s, post, split, h.symm⟩
  · rintro ⟨pre, s, post, split, rfl⟩
    simp [split.indexOf?, split.find?, split.insertIdx]

/-! ### Photos -/

/-- There is no conflict exactly if every other list that uses the staged photo has the
category. -/
theorem conflict?_eq_none_iff {photo : PhotoRef} {category : Category} {skip : Option PhotoList} :
    b.conflict? photo category skip = none ↔
      ∀ id, photo = .staged id → ∀ list, (list, id) ∈ b.stagedPhotos → some list ≠ skip →
        list.category = category := by
  cases photo with
  | resolved url => simp [Body.conflict?, PhotoRef.stagedId?]
  | staged id =>
      simp only [Body.conflict?, PhotoRef.stagedId?, Option.map_eq_none_iff, List.find?_eq_none,
        PhotoRef.staged.injEq, forall_eq']
      constructor
      · intro h list member other
        have := h (list, id) member
        simpa [other] using this
      · rintro h ⟨list, staged⟩ member clash
        simp only [Bool.and_eq_true, beq_iff_eq, bne_iff_ne] at clash
        obtain ⟨⟨rfl, other⟩, differs⟩ := clash
        exact differs (h list member other)

theorem attach_eq_ok_iff {list : PhotoList} {photo : PhotoRef} {r : Body × Option Change} :
    b.attach list photo = .ok r ↔ ∃ photos, b.photos list = .ok photos ∧
      b.conflict? photo list.category none = none ∧
      r = if photo ∈ photos then (b, none)
        else (b.setPhotos list (photos ++ [photo]), some (.photosChanged list.block)) := by
  unfold Body.attach
  cases hp : b.photos list with
  | error e => simp
  | ok photos =>
      cases hc : b.conflict? photo list.category none with
      | some e => simp
      | none =>
          by_cases member : photo ∈ photos
          · simp [member, eq_comm]
          · simp [member, eq_comm]

theorem detach_eq_ok_iff {list : PhotoList} {photo : PhotoRef} {r : Body × Change} :
    b.detach list photo = .ok r ↔ ∃ photos, b.photos list = .ok photos ∧ photo ∈ photos ∧
      r = (b.setPhotos list (photos.erase photo), .photosChanged list.block) := by
  unfold Body.detach
  cases hp : b.photos list with
  | error e => simp
  | ok photos =>
      by_cases member : photo ∈ photos
      · simp [member, eq_comm]
      · simp [member]

theorem moveWithin_eq_ok_iff {list : PhotoList} {start stop : Nat} {r : Body × Change} :
    b.moveWithin list start stop = .ok r ↔ ∃ photos, b.photos list = .ok photos ∧
      start < photos.length ∧ stop < photos.length ∧
      r = (b.setPhotos list (moveItem photos start stop), .photosChanged list.block) := by
  unfold Body.moveWithin
  cases hp : b.photos list with
  | error e => simp
  | ok photos =>
      by_cases first : photos.length ≤ start
      · simp [first, Nat.not_lt.mpr first]
      · by_cases second : photos.length ≤ stop
        · simp [first, second, Nat.not_lt.mpr second]
        · simp [first, second, eq_comm, Nat.lt_of_not_le first, Nat.lt_of_not_le second]

/-- A move onto the same place changes nothing. -/
theorem moveWithin_self {list : PhotoList} {i : Nat} {r : Body × Change}
    (accepted : b.moveWithin list i i = .ok r) : r.1 = b := by
  obtain ⟨photos, known, -, -, rfl⟩ := moveWithin_eq_ok_iff.mp accepted
  rw [moveItem_self, setPhotos_photos known]

/-- A move between two lists, with the photo that it moves. -/
structure Transfer (b : Body) (source : PhotoList) (index : Nat) (target : PhotoList)
    (photos : List PhotoRef) (photo : PhotoRef) (there : List PhotoRef) : Prop where
  apart : source ≠ target
  origin : b.photos source = .ok photos
  picked : photos[index]? = some photo
  goal : b.photos target = .ok there
  fits : b.conflict? photo target.category (some source) = none

theorem moveAcross_eq_ok_iff {source target : PhotoList} {index : Nat} {r : Body × Change} :
    b.moveAcross source index target = .ok r ↔
      (source = target ∧ ∃ photos, b.photos source = .ok photos ∧
        b.moveWithin source index (photos.length - 1) = .ok r) ∨
      ∃ photos photo there, b.Transfer source index target photos photo there ∧
        r = (if photo ∈ there then b.setPhotos source (photos.eraseIdx index)
          else (b.setPhotos source (photos.eraseIdx index)).setPhotos target (there ++ [photo]),
          .photoMoved source target) := by
  unfold Body.moveAcross
  cases hp : b.photos source with
  | error e =>
      simp only [reduceCtorEq, false_and, exists_false, and_false, false_or, false_iff]
      rintro ⟨photos, photo, there, transfer, -⟩
      simp [transfer.origin] at hp
  | ok photos =>
      by_cases same : source = target
      · simp only [same, if_true, true_and, Except.ok.injEq, exists_eq_left', iff_self_or]
        rintro ⟨_, _, _, transfer, -⟩
        exact absurd same (same ▸ transfer.apart)
      · simp only [same, if_false, false_and, false_or]
        constructor
        · intro h
          split at h
          · cases h
          · rename_i photo hi
            split at h
            · cases h
            · rename_i there ht
              split at h
              · cases h
              · rename_i fits
                refine ⟨photos, photo, there, ⟨same, hp, hi, ht, fits⟩, ?_⟩
                rw [← Except.ok.inj h]
                simp only [List.contains_iff_mem]
        · rintro ⟨photos', photo, there, transfer, rfl⟩
          have origin := transfer.origin
          rw [hp] at origin
          cases origin
          simp only [transfer.picked, transfer.goal, transfer.fits, List.contains_iff_mem]

end Body

/-! ### Reordering by dragging -/

/-- The command of a finished drag is the edit that it asks for. -/
theorem Reorder.apply_edit (r : Reorder) (b : Body) :
    b.apply r.edit = (r.apply b).map Body.made := by
  cases r <;> rfl

end SiteReport
