import SiteReport.Proofs.Document.Reachable

/-!
Places in the photo lists. A place is a list and an index, and edits may bring another photo to it.
Each edit is asked here when it leaves the photo at a place where it is, and a move says which photo
it takes from its place.
-/

namespace SiteReport

namespace PhotoBlock

theorem photos?_setPhotos {block : PhotoBlock} {category c : Category}
    {old photos : List PhotoRef} (h : block.photos? category = some old) :
    (block.setPhotos category photos).photos? c =
      if c = category then some photos else block.photos? c := by
  cases block <;> cases category <;> simp [photos?] at h <;> cases c <;> rfl

@[simp] theorem layout_setPhotos (block : PhotoBlock) (category : Category)
    (photos : List PhotoRef) : (block.setPhotos category photos).layout = block.layout := by
  cases block <;> cases category <;> rfl

end PhotoBlock

namespace Body

/-! ### Places in a list -/

section Items

variable {α : Type} {items : List α} {item : α} {i start stop : Nat}

/-- Items on one side of both ends of a move stay where they are. -/
theorem getElem?_moveItem
    (aside : start = stop ∨ i < start ∧ i < stop ∨ start < i ∧ stop < i) :
    (moveItem items start stop)[i]? = items[i]? := by
  rcases aside with rfl | sides
  · rw [moveItem_self]
  · unfold moveItem
    split
    · rfl
    · rw [List.getElem?_insertIdx]
      rcases sides with ⟨before, before'⟩ | ⟨behind, behind'⟩
      · rw [if_pos before', List.getElem?_eraseIdx_of_lt before]
      · rw [if_neg (by omega), if_neg (by omega), List.getElem?_eraseIdx_of_ge (by omega)]
        congr 1
        omega

variable [DecidableEq α]

theorem filter_insertIdx (items : List α) (item : α) (i : Nat) :
    (items.insertIdx i item).filter (· ≠ item) = items.filter (· ≠ item) := by
  induction items generalizing i with
  | nil => cases i <;> simp
  | cons x rest ih =>
      cases i with
      | zero => simp
      | succ i => rw [List.insertIdx_succ_cons, List.filter_cons, List.filter_cons, ih]

theorem filter_eraseIdx (here : items[i]? = some item) :
    (items.eraseIdx i).filter (· ≠ item) = items.filter (· ≠ item) := by
  obtain ⟨inside, rfl⟩ := List.getElem?_eq_some_iff.mp here
  have back := filter_insertIdx (items.eraseIdx i) items[i] i
  rw [List.insertIdx_eraseIdx_getElem inside] at back
  exact back.symm

/-- A move leaves the other items in their order. -/
theorem filter_moveItem (here : items[start]? = some item) :
    (moveItem items start stop).filter (· ≠ item) = items.filter (· ≠ item) := by
  simp only [moveItem, here]
  rw [filter_insertIdx, filter_eraseIdx here]

theorem getElem?_erase_of_lt (before : i < items.idxOf item) :
    (items.erase item)[i]? = items[i]? := by
  rw [← List.eraseIdx_idxOf_eq_erase, List.getElem?_eraseIdx_of_lt before]

end Items

/-! ### Places in a document -/

variable {b after : Body} {list : PhotoList} {index : Nat} {p : PhotoRef}

/-- The photo that stands at an index of a list. -/
def photoAt? (b : Body) (list : PhotoList) (index : Nat) : Option PhotoRef :=
  (b.photos list).toOption.bind (·[index]?)

theorem photoAt?_of_photos {photos : List PhotoRef} (known : b.photos list = .ok photos) :
    b.photoAt? list index = photos[index]? := by
  rw [photoAt?, known]
  rfl

theorem photoAt?_eq_some_iff : b.photoAt? list index = some p ↔
    ∃ photos, b.photos list = .ok photos ∧ photos[index]? = some p := by
  unfold photoAt?
  cases b.photos list <;> simp [Except.toOption]

theorem photos_of_find? (same : after.find? list.block = b.find? list.block) :
    after.photos list = b.photos list := by
  rw [photos, photos, same]

theorem photoAt?_of_find? (same : after.find? list.block = b.find? list.block) :
    after.photoAt? list index = b.photoAt? list index := by
  rw [photoAt?, photoAt?, photos_of_find? same]

theorem find?_of_photoAt? (stands : b.photoAt? list index = some p) :
    ∃ s block, b.find? list.block = some s ∧ s.content = .photos block ∧
      block.isEmpty = false := by
  obtain ⟨photos, known, here⟩ := photoAt?_eq_some_iff.mp stands
  obtain ⟨s, block, found, content, listed⟩ := photos_eq_ok_iff.mp known
  refine ⟨s, block, found, content, PhotoBlock.isEmpty_eq_false_iff.mpr ?_⟩
  have entry := PhotoBlock.mem_entries_iff.mpr ⟨photos, listed, List.mem_of_getElem? here⟩
  exact List.ne_nil_of_mem entry

/-- The sections in another order are found all the same. -/
theorem find?_of_perm (distinct : b.ids.Nodup) (perm : after.sections.Perm b.sections)
    (id : SectionId) : after.find? id = b.find? id := by
  cases found : b.find? id with
  | none =>
      have absent := List.find?_eq_none.mp found
      exact List.find?_eq_none.mpr fun s hs => absent s (perm.subset hs)
  | some s =>
      obtain ⟨pre, post, split⟩ := exists_split_of_find? found
      have ids_perm : after.ids.Perm b.ids := perm.map Section.id
      have distinct' : after.ids.Nodup := ids_perm.nodup_iff.mpr distinct
      rw [← split.id_eq]
      exact find?_of_mem distinct' (perm.symm.subset split.mem)

/-! ### Edits that leave a place alone -/

theorem photoAt?_push (stands : b.photoAt? list index = some p) (content : Content) :
    (b.push content).1.photoAt? list index = some p := by
  obtain ⟨s, -, found, -, -⟩ := find?_of_photoAt? stands
  rw [photoAt?_of_find? ?_, stands]
  rw [Body.find?] at found ⊢
  simp only [push, List.find?_append, found]
  rw [Body.find?, found]
  rfl

theorem photoAt?_remove (stands : b.photoAt? list index = some p) {id : SectionId}
    {r : Body × Change} (accepted : b.remove id = .ok r) (other : id ≠ list.block) :
    r.1.photoAt? list index = some p := by
  obtain ⟨pre, s, post, split, rfl⟩ := remove_eq_ok_iff.mp accepted
  rw [photoAt?_of_find? ?_, stands]
  have apart : (s.id == list.block) = false := by simpa [split.id_eq] using other
  simp [Body.find?, split.sections_eq, List.find?_append, apart]

/-- A block that shows a photo keeps its layout. -/
theorem patched_full {id : SectionId} {block : PhotoBlock} {content : Content}
    {patch : SectionPatch} (full : block.isEmpty = false)
    (accepted : patched id (.photos block) patch = .ok content) : content = .photos block := by
  cases patch with
  | layout layout =>
      rw [patched] at accepted
      split at accepted
      · exact (Except.ok.inj accepted).symm
      · rw [full] at accepted
        cases accepted
  | _ => cases accepted

theorem photoAt?_update (stands : b.photoAt? list index = some p) {id : SectionId}
    {patch : SectionPatch} {r : Body × Change} (accepted : b.update id patch = .ok r) :
    r.1.photoAt? list index = some p := by
  obtain ⟨pre, s, post, content, split, patched, rfl⟩ := update_eq_ok_iff.mp accepted
  rw [photoAt?_of_find? ?_, stands]
  by_cases same : id = list.block
  · obtain ⟨t, block, found, shows, full⟩ := find?_of_photoAt? stands
    rw [← same, split.find?] at found
    cases found
    rw [shows] at patched
    rw [patched_full full patched, ← shows]
    simp [Body.find?, split.sections_eq]
  · have apart : (s.id == list.block) = false := by simpa [split.id_eq] using same
    simp [Body.find?, split.sections_eq, List.find?_append, apart]

theorem photoAt?_move (distinct : b.ids.Nodup) {id : SectionId} {stop : Nat} {r : Body × Change}
    (accepted : b.move id stop = .ok r) :
    r.1.photoAt? list index = b.photoAt? list index := by
  obtain ⟨pre, s, post, -, inside, rfl⟩ := move_eq_ok_iff.mp accepted
  exact photoAt?_of_find? (find?_of_perm distinct (moveItem_perm _ inside) _)

theorem photoAt?_duplicate (stands : b.photoAt? list index = some p) (h : b.WellFormed)
    (room : b.HasRoom) {id : SectionId} {r : Body × Change}
    (accepted : b.duplicate id = .ok r) : r.1.photoAt? list index = some p := by
  obtain ⟨pre, s, post, split, rfl⟩ := duplicate_eq_ok_iff.mp accepted
  rw [photoAt?_of_find? ?_, stands]
  obtain ⟨t, -, found, -, -⟩ := find?_of_photoAt? stands
  obtain ⟨before, behind, shown⟩ := exists_split_of_find? found
  have known : list.block ∈ b.ids := List.mem_map.mpr ⟨t, shown.mem, shown.id_eq⟩
  have fresh : b.nextId ≠ list.block := fun same => h.nextId_not_mem room (same ▸ known)
  have apart : (b.nextId == list.block) = false := by simpa using fresh
  simp [Body.find?, split.sections_eq, List.find?_append, List.find?_cons, apart]

/-! ### A list that is replaced -/

theorem photos_of_found {s : Section} {block : PhotoBlock} (found : b.find? list.block = some s)
    (content : s.content = .photos block) : b.photos list =
      (block.photos? list.category).elim
        (.error (.categoryNotInLayout list.block list.category block.layout)) .ok := by
  simp only [photos, found, content, Content.block?]
  cases block.photos? list.category <;> rfl

/-- The new photos stand in the list that was replaced; the other lists are as before. -/
theorem photos_setPhotos {l : PhotoList} {old photos : List PhotoRef}
    (known : b.photos list = .ok old) :
    (b.setPhotos list photos).photos l = if l = list then .ok photos else b.photos l := by
  obtain ⟨s, block, found, content, listed⟩ := photos_eq_ok_iff.mp known
  obtain ⟨pre, post, split⟩ := exists_split_of_find? found
  rw [split.setPhotos content]
  by_cases same : l.block = list.block
  · have skipped : pre.find? (·.id == list.block) = none := by
      simpa using fun t ht => split.pre_ne t ht
    have here : Body.find? { b with sections :=
        pre ++ { s with content := .photos (block.setPhotos list.category photos) } :: post }
        l.block = some { s with content := .photos (block.setPhotos list.category photos) } := by
      simp [Body.find?, same, List.find?_append, skipped, split.id_eq]
    have name : l = list ↔ l.category = list.category := by
      cases l
      cases list
      simpa using fun _ => same
    rw [photos_of_found here rfl, photos_of_found (same ▸ found) content,
      PhotoBlock.photos?_setPhotos listed, PhotoBlock.layout_setPhotos, apply_ite Option.elim]
    simp only [name]
    split <;> rfl
  · have apart : (s.id == l.block) = false := by simpa [split.id_eq] using Ne.symm same
    rw [if_neg fun h => same (congrArg PhotoList.block h)]
    apply photos_of_find?
    simp [Body.find?, split.sections_eq, List.find?_append, apart]

theorem photoAt?_setPhotos {l : PhotoList} {old photos : List PhotoRef}
    (known : b.photos l = .ok old) (spares : l = list → photos[index]? = old[index]?) :
    (b.setPhotos l photos).photoAt? list index = b.photoAt? list index := by
  rw [photoAt?, photos_setPhotos known]
  split
  · rename_i here
    subst here
    rw [photoAt?_of_photos known]
    exact spares rfl
  · rfl

/-- A photo that is appended to a list stands behind all places of it. -/
theorem photoAt?_append (stands : b.photoAt? list index = some p) {l : PhotoList}
    {photos : List PhotoRef} (known : b.photos l = .ok photos) (photo : PhotoRef) :
    (b.setPhotos l (photos ++ [photo])).photoAt? list index = some p := by
  rw [photoAt?_setPhotos known ?_, stands]
  rintro rfl
  rw [photoAt?_of_photos known] at stands
  obtain ⟨inside, -⟩ := List.getElem?_eq_some_iff.mp stands
  exact List.getElem?_append_left inside

theorem photoAt?_attach (stands : b.photoAt? list index = some p) {l : PhotoList}
    {photo : PhotoRef} {r : Body × Option Change} (accepted : b.attach l photo = .ok r) :
    r.1.photoAt? list index = some p := by
  obtain ⟨photos, known, -, rfl⟩ := attach_eq_ok_iff.mp accepted
  split
  · exact stands
  · exact photoAt?_append stands known photo

theorem photoAt?_detach (stands : b.photoAt? list index = some p) {l : PhotoList}
    {photo : PhotoRef} {r : Body × Change} (accepted : b.detach l photo = .ok r)
    (behind : l = list → ∀ photos, b.photos list = .ok photos → index < photos.idxOf photo) :
    r.1.photoAt? list index = some p := by
  obtain ⟨photos, known, -, rfl⟩ := detach_eq_ok_iff.mp accepted
  rw [photoAt?_setPhotos known ?_, stands]
  rintro rfl
  exact getElem?_erase_of_lt (behind rfl photos known)

theorem photoAt?_moveWithin (stands : b.photoAt? list index = some p) {l : PhotoList}
    {start stop : Nat} {r : Body × Change} (accepted : b.moveWithin l start stop = .ok r)
    (aside : l = list → start = stop ∨ index < start ∧ index < stop ∨ start < index ∧ stop < index) :
    r.1.photoAt? list index = some p := by
  obtain ⟨photos, known, -, -, rfl⟩ := moveWithin_eq_ok_iff.mp accepted
  rw [photoAt?_setPhotos known ?_, stands]
  exact fun same => getElem?_moveItem (aside same)

theorem Transfer.goal_taken {source target : PhotoList} {i : Nat} {photos there : List PhotoRef}
    {photo : PhotoRef} (h : b.Transfer source i target photos photo there) (rest : List PhotoRef) :
    (b.setPhotos source rest).photos target = .ok there := by
  rw [photos_setPhotos h.origin, if_neg h.apart.symm, h.goal]

theorem photoAt?_moveAcross (stands : b.photoAt? list index = some p) {source target : PhotoList}
    {i : Nat} {r : Body × Change} (accepted : b.moveAcross source i target = .ok r)
    (behind : source = list → index < i) : r.1.photoAt? list index = some p := by
  rcases moveAcross_eq_ok_iff.mp accepted with ⟨-, photos, known, within⟩ |
    ⟨photos, photo, there, transfer, rfl⟩
  · refine photoAt?_moveWithin stands within fun same => .inr (.inl ⟨behind same, ?_⟩)
    obtain ⟨_, known', inside, -, -⟩ := moveWithin_eq_ok_iff.mp within
    rw [known] at known'
    cases known'
    have before := behind same
    omega
  · have taken : (b.setPhotos source (photos.eraseIdx i)).photoAt? list index = some p := by
      rw [photoAt?_setPhotos transfer.origin ?_, stands]
      exact fun same => List.getElem?_eraseIdx_of_lt (behind same)
    split
    · exact taken
    · exact photoAt?_append taken (transfer.goal_taken _) photo

theorem photos_resolve (b : Body) (r : Resolution) (list : PhotoList) :
    (b.resolve r).1.photos list = (b.photos list).map (Resolution.apply r) := by
  have looked : (b.resolve r).1.find? list.block =
      (b.find? list.block).map fun s => { s with content := resolveContent r s.content } := by
    rw [Body.find?, Body.find?, sections_resolve, List.find?_map]
    rfl
  rw [photos, photos, looked]
  cases b.find? list.block with
  | none => rfl
  | some s =>
      obtain ⟨id, content⟩ := s
      cases content with
      | photos block =>
          have mapped : (block.mapLists (Resolution.apply r)).photos? list.category =
              (block.photos? list.category).map (Resolution.apply r) := by
            cases block <;> cases list.category <;> rfl
          simp only [Option.map_some, resolveContent, Content.block?, mapped,
            PhotoBlock.layout_mapLists]
          cases block.photos? list.category <;> rfl
      | _ => rfl

/-- Where nothing up to a place is dropped and nothing is merged, nothing moves. -/
theorem getElem?_resolution_apply {r : Resolution} {photos : List PhotoRef}
    (here : photos[index]? = some p)
    (kept : ∀ q ∈ photos.take (index + 1), Resolution.keeps r q = true)
    (apart : ((photos.take (index + 1)).map (Resolution.replaced r)).Nodup) :
    (Resolution.apply r photos)[index]? = some (Resolution.replaced r p) := by
  let front := (photos.take (index + 1)).map (Resolution.replaced r)
  have split : ∃ rest, Resolution.apply r photos = front ++ rest := by
    rw [resolution_apply_eq]
    conv => enter [1, rest, 1]; rw [← List.take_append_drop (index + 1) photos]
    rw [List.filter_append, List.map_append, List.eraseDups_append, List.filter_eq_self.mpr kept,
      ← firsts_eq_eraseDups, firsts_of_nodup apart]
    exact ⟨_, rfl⟩
  obtain ⟨rest, split⟩ := split
  obtain ⟨inside, rfl⟩ := List.getElem?_eq_some_iff.mp here
  have long : index < front.length := by simp [front]; omega
  rw [split, List.getElem?_append_left long]
  simp [front, inside]

theorem photoAt?_resolve (stands : b.photoAt? list index = some p) {r : Resolution}
    (kept : ∀ photos, b.photos list = .ok photos →
      (∀ q ∈ photos.take (index + 1), Resolution.keeps r q = true) ∧
      ((photos.take (index + 1)).map (Resolution.replaced r)).Nodup) :
    (b.resolve r).1.photoAt? list index = some (Resolution.replaced r p) := by
  obtain ⟨photos, known, here⟩ := photoAt?_eq_some_iff.mp stands
  have listed : (b.resolve r).1.photos list = .ok (Resolution.apply r photos) := by
    rw [photos_resolve, known]
    rfl
  obtain ⟨kept, apart⟩ := kept photos known
  rw [photoAt?_of_photos listed]
  exact getElem?_resolution_apply here kept apart

/-! ### One edit after another -/

end Body

/-- The edit leaves the photo at a place where it is: it takes out and moves only what stands behind
it, and of the photos up to it a resolution drops none and makes no two the same. -/
def Edit.Spares (b : Body) (list : PhotoList) (index : Nat) : Edit → Prop
  | .push content => content.withoutPhotos = content
  | .remove id => id ≠ list.block
  | .detach l photo => l = list → ∀ photos, b.photos list = .ok photos → index < photos.idxOf photo
  | .moveWithin l start stop =>
    l = list → start = stop ∨ index < start ∧ index < stop ∨ start < index ∧ stop < index
  | .moveAcross source i _ => source = list → index < i
  | .resolve r => ∀ photos, b.photos list = .ok photos →
    (∀ p ∈ photos.take (index + 1), Body.Resolution.keeps r p = true) ∧
    ((photos.take (index + 1)).map (Body.Resolution.replaced r)).Nodup
  | .clear => False
  | _ => True

theorem Edit.Spares.plain {b : Body} {list : PhotoList} {index : Nat} {e : Edit}
    (h : e.Spares b list index) : e.Plain := by
  cases e <;> first | exact h | trivial

/-- What a photo is after an edit: a resolution puts an address in its place. -/
def Edit.follow : Edit → PhotoRef → PhotoRef
  | .resolve r => Body.Resolution.replaced r
  | _ => id

namespace Body

variable {b after : Body} {list : PhotoList} {index : Nat} {p : PhotoRef}

theorem photoAt?_apply (h : b.WellFormed) {e : Edit} {change : Option Change}
    (accepted : b.apply e = .ok (after, change)) (room : e.numbers = true → b.HasRoom)
    (spares : e.Spares b list index) (stands : b.photoAt? list index = some p) :
    after.photoAt? list index = some (e.follow p) := by
  have told {answer : Except EditError (Body × Change)} (kept : ∀ {r}, answer = .ok r →
      r.1.photoAt? list index = some p) (answered : answer.map made = .ok (after, change)) :
      after.photoAt? list index = some p := by
    obtain ⟨_, made, -⟩ := map_made_eq_ok_iff.mp answered
    exact kept made
  cases e with
  | add kind => cases accepted; exact photoAt?_push stands _
  | addBlock layout => cases accepted; exact photoAt?_push stands _
  | push content => cases accepted; exact photoAt?_push stands _
  | remove id => exact told (photoAt?_remove stands · spares) accepted
  | update id patch => exact told (photoAt?_update stands) accepted
  | move id stop => exact told (fun made => (photoAt?_move h.ids_nodup made).trans stands) accepted
  | duplicate id => exact told (photoAt?_duplicate stands h (room rfl)) accepted
  | attach l photo => exact photoAt?_attach stands accepted
  | detach l photo => exact told (photoAt?_detach stands · spares) accepted
  | moveWithin l start stop => exact told (photoAt?_moveWithin stands · spares) accepted
  | moveAcross source i target => exact told (photoAt?_moveAcross stands · spares) accepted
  | resolve r => cases accepted; exact photoAt?_resolve stands spares
  | clear => cases spares

theorem photoAt?_after (h : b.WellFormed) {e : Edit} (room : e.numbers = true → b.HasRoom)
    (spares : e.Spares b list index) (stands : b.photoAt? list index = some p) :
    (b.after e).photoAt? list index = some (e.follow p) := by
  unfold Body.after
  split
  · rename_i accepted
    exact photoAt?_apply h accepted room spares stands
  · rename_i refused
    cases e with
    | resolve r => cases refused
    | _ => exact stands

/-- Each of the edits leaves the photo at the place alone, and those that give out an identifier find
one left. -/
def Undisturbed (list : PhotoList) (index : Nat) : Body → List Edit → Prop
  | _, [] => True
  | b, e :: rest =>
    (e.numbers = true → b.HasRoom) ∧ e.Spares b list index ∧
      Undisturbed list index (b.after e) rest

/-- What a photo is after edits. -/
def follow (edits : List Edit) (p : PhotoRef) : PhotoRef := edits.foldl (fun p e => e.follow p) p

/-- The photo at a place is still there after edits that leave it alone. -/
theorem photoAt?_run (h : b.WellFormed) {edits : List Edit} (spared : b.Undisturbed list index edits)
    (stands : b.photoAt? list index = some p) :
    (b.run edits).WellFormed ∧ (b.run edits).photoAt? list index = some (follow edits p) := by
  induction edits generalizing b p with
  | nil => exact ⟨h, stands⟩
  | cons e rest ih =>
      obtain ⟨room, spares, others⟩ := spared
      exact ih (h.after spares.plain room) others (photoAt?_after h room spares stands)

/-! ### A photo that is moved -/

/-- One photo was taken from its place and stands in the target now. But for this photo all lists are
as they were. -/
structure Relocated (b : Body) (list : PhotoList) (index : Nat) (photo : PhotoRef)
    (target : PhotoList) (after : Body) : Prop where
  taken : b.photoAt? list index = some photo
  gone : target ≠ list → after.photos list = (b.photos list).map (·.eraseIdx index)
  arrived : ∃ photos, after.photos target = .ok photos ∧ photo ∈ photos
  others : ∀ l, (after.photos l).map (·.filter (· ≠ photo)) =
    (b.photos l).map (·.filter (· ≠ photo))

theorem relocated_moveWithin {start stop : Nat} {r : Body × Change}
    (accepted : b.moveWithin list start stop = .ok r) :
    ∃ photo, b.Relocated list start photo list r.1 := by
  obtain ⟨photos, known, first, last, rfl⟩ := moveWithin_eq_ok_iff.mp accepted
  have here : photos[start]? = some photos[start] := List.getElem?_eq_getElem first
  have listed : (b.setPhotos list (moveItem photos start stop)).photos list =
      .ok (moveItem photos start stop) := by
    rw [photos_setPhotos known, if_pos rfl]
  refine ⟨photos[start], ?_, fun h => absurd rfl h, ⟨_, listed, ?_⟩, fun l => ?_⟩
  · rw [photoAt?_of_photos known, here]
  · exact (moveItem_perm start last).symm.subset (List.getElem_mem first)
  · rw [photos_setPhotos known]
    split
    · rename_i same
      rw [same, known]
      exact congrArg Except.ok (filter_moveItem here)
    · rfl

theorem relocated_moveAcross {target : PhotoList} {r : Body × Change}
    (accepted : b.moveAcross list index target = .ok r) :
    ∃ photo, b.Relocated list index photo target r.1 := by
  rcases moveAcross_eq_ok_iff.mp accepted with ⟨rfl, photos, -, within⟩ |
    ⟨photos, photo, there, transfer, rfl⟩
  · exact relocated_moveWithin within
  · let taken := b.setPhotos list (photos.eraseIdx index)
    have goal : taken.photos target = .ok there := transfer.goal_taken _
    have origin : taken.photos list = (b.photos list).map (·.eraseIdx index) := by
      rw [photos_setPhotos transfer.origin, if_pos rfl, transfer.origin]
      rfl
    have rest : ∀ l, (taken.photos l).map (·.filter (· ≠ photo)) =
        (b.photos l).map (·.filter (· ≠ photo)) := by
      intro l
      rw [photos_setPhotos transfer.origin]
      split
      · rename_i same
        rw [same, transfer.origin]
        exact congrArg Except.ok (filter_eraseIdx transfer.picked)
      · rfl
    refine ⟨photo, ?_⟩
    have here : b.photoAt? list index = some photo := by
      rw [photoAt?_of_photos transfer.origin, transfer.picked]
    split
    · rename_i present
      exact ⟨here, fun _ => origin, ⟨there, goal, present⟩, rest⟩
    · have listed (l : PhotoList) : (taken.setPhotos target (there ++ [photo])).photos l =
          if l = target then .ok (there ++ [photo]) else taken.photos l := photos_setPhotos goal
      refine ⟨here, fun other => ?_, ⟨there ++ [photo], ?_, by simp⟩, fun l => ?_⟩
      · rw [listed, if_neg other.symm, origin]
      · rw [listed, if_pos rfl]
      · rw [listed, ← rest]
        split
        · rename_i same
          rw [same, goal]
          exact congrArg Except.ok (by simp)
        · rfl

end Body

end SiteReport
