import SiteReport.Proofs.Document.Places

/-!
Photos are not lost by edits. An edit that is not meant to take photos out leaves every photo
somewhere in the document, and a move from one list to another changes these two lists only: the
photo goes from the one and is in the other afterwards, once.
-/

namespace SiteReport

/-- Edits that are meant to take photos out of the document. -/
def Edit.removesPhotos : Edit → Bool
  | .remove _ => true
  | .detach _ _ => true
  | .resolve _ => true
  | .clear => true
  | _ => false

theorem PhotoBlock.lists_setPhotos {block : PhotoBlock} {category : Category}
    {old : List PhotoRef} (listed : block.photos? category = some old) (photos : List PhotoRef) :
    (block.setPhotos category photos).lists =
      block.lists.map fun (c, ps) => (c, if c = category then photos else ps) := by
  cases block <;> cases category <;> simp [photos?] at listed <;> rfl

theorem Section.lists_setPhotos {s : Section} {block : PhotoBlock}
    (content : s.content = .photos block) {category : Category} {old : List PhotoRef}
    (listed : block.photos? category = some old) (photos : List PhotoRef) :
    Section.lists { s with content := .photos (block.setPhotos category photos) } =
      s.lists.map fun (l, ps) => (l, if l = ⟨s.id, category⟩ then photos else ps) := by
  rw [Section.lists, Section.lists, content]
  simp only [PhotoBlock.lists_setPhotos listed, List.map_map]
  apply List.map_congr_left
  intro entry _
  simp

namespace Body

variable {b after : Body} {p : PhotoRef}

/-- Some list of the document holds the photo. -/
def Shows (b : Body) (p : PhotoRef) : Prop := ∃ entry ∈ b.lists, p ∈ entry.2

theorem shows_iff : b.Shows p ↔ ∃ s ∈ b.sections, ∃ entry ∈ s.lists, p ∈ entry.2 := by
  constructor
  · rintro ⟨entry, member, inside⟩
    obtain ⟨s, hs, listed⟩ := mem_lists_iff.mp member
    exact ⟨s, hs, entry, listed, inside⟩
  · rintro ⟨s, hs, entry, listed, inside⟩
    exact ⟨entry, mem_lists_iff.mpr ⟨s, hs, listed⟩, inside⟩

theorem shows_of_photos {list : PhotoList} {photos : List PhotoRef}
    (known : b.photos list = .ok photos) (inside : p ∈ photos) : b.Shows p :=
  ⟨_, mem_lists_of_photos known, inside⟩

theorem Shows.of_subset (shown : b.Shows p) (part : b.sections ⊆ after.sections) :
    after.Shows p := by
  obtain ⟨s, hs, rest⟩ := shows_iff.mp shown
  exact shows_iff.mpr ⟨s, part hs, rest⟩

/-! ### Edits one by one -/

/-- A list may be replaced if its own photos are still shown. -/
theorem shows_setPhotos {list : PhotoList} {old photos : List PhotoRef}
    (known : b.photos list = .ok old) (shown : b.Shows p)
    (kept : p ∈ old → (b.setPhotos list photos).Shows p) : (b.setPhotos list photos).Shows p := by
  obtain ⟨s, block, found, content, listed⟩ := photos_eq_ok_iff.mp known
  obtain ⟨pre, post, split⟩ := exists_split_of_find? found
  obtain ⟨t, ht, ⟨l, ps⟩, member, inside⟩ := shows_iff.mp shown
  rw [split.setPhotos content] at kept ⊢
  rw [split.sections_eq] at ht
  rcases List.mem_append.mp ht with before | here
  · exact shows_iff.mpr ⟨t, List.mem_append_left _ before, _, member, inside⟩
  · rcases List.mem_cons.mp here with rfl | behind
    · by_cases same : l = ⟨t.id, list.category⟩
      · apply kept
        obtain ⟨-, held, shows, own⟩ := Section.mem_lists_iff.mp member
        rw [content] at shows
        cases shows
        rw [same] at own
        rw [listed] at own
        exact Option.some.inj own ▸ inside
      · refine shows_iff.mpr ⟨_, List.mem_append_right _ List.mem_cons_self, (l, ps), ?_, inside⟩
        rw [Section.lists_setPhotos content listed]
        exact List.mem_map.mpr ⟨(l, ps), member, by simp [same]⟩
    · exact shows_iff.mpr
        ⟨t, List.mem_append_right _ (List.mem_cons_of_mem _ behind), _, member, inside⟩

theorem shows_replaced {list : PhotoList} {old photos : List PhotoRef}
    (known : b.photos list = .ok old) (inside : p ∈ photos) :
    (b.setPhotos list photos).Shows p :=
  shows_of_photos (by rw [photos_setPhotos known, if_pos rfl]) inside

theorem shows_extended {list : PhotoList} {old photos : List PhotoRef}
    (known : b.photos list = .ok old) (more : old ⊆ photos) (shown : b.Shows p) :
    (b.setPhotos list photos).Shows p :=
  shows_setPhotos known shown fun inside => shows_replaced known (more inside)

theorem shows_update {id : SectionId} {patch : SectionPatch} {r : Body × Change}
    (accepted : b.update id patch = .ok r) (shown : b.Shows p) : r.1.Shows p := by
  obtain ⟨pre, s, post, content, split, patched, rfl⟩ := update_eq_ok_iff.mp accepted
  obtain ⟨t, ht, entry, member, inside⟩ := shows_iff.mp shown
  rw [split.sections_eq] at ht
  rcases List.mem_append.mp ht with before | here
  · exact shows_iff.mpr ⟨t, List.mem_append_left _ before, entry, member, inside⟩
  · rcases List.mem_cons.mp here with rfl | behind
    · -- a block that shows a photo keeps its layout, so the patch left it as it is
      obtain ⟨-, block, held, listed⟩ := Section.mem_lists_iff.mp member
      have full : block.isEmpty = false := by
        rw [PhotoBlock.isEmpty_eq_false_iff]
        exact List.ne_nil_of_mem (PhotoBlock.mem_entries_iff.mpr ⟨_, listed, inside⟩)
      rw [held] at patched
      have same : ({ t with content } : Section) = t := by rw [patched_full full patched, ← held]
      exact shows_iff.mpr
        ⟨_, List.mem_append_right _ List.mem_cons_self, entry, same.symm ▸ member, inside⟩
    · exact shows_iff.mpr
        ⟨t, List.mem_append_right _ (List.mem_cons_of_mem _ behind), entry, member, inside⟩

theorem shows_move {id : SectionId} {stop : Nat} {r : Body × Change}
    (accepted : b.move id stop = .ok r) (shown : b.Shows p) : r.1.Shows p := by
  obtain ⟨pre, s, post, -, inside, rfl⟩ := move_eq_ok_iff.mp accepted
  exact shown.of_subset (moveItem_perm _ inside).symm.subset

theorem shows_duplicate {id : SectionId} {r : Body × Change}
    (accepted : b.duplicate id = .ok r) (shown : b.Shows p) : r.1.Shows p := by
  obtain ⟨pre, s, post, split, rfl⟩ := duplicate_eq_ok_iff.mp accepted
  apply shown.of_subset
  intro t ht
  simp only [split.sections_eq, List.mem_append, List.mem_cons] at ht ⊢
  tauto

theorem shows_attach {list : PhotoList} {photo : PhotoRef} {r : Body × Option Change}
    (accepted : b.attach list photo = .ok r) (shown : b.Shows p) : r.1.Shows p := by
  obtain ⟨photos, known, -, rfl⟩ := attach_eq_ok_iff.mp accepted
  split
  · exact shown
  · exact shows_extended known (List.subset_append_left _ _) shown

theorem shows_moveWithin {list : PhotoList} {start stop : Nat} {r : Body × Change}
    (accepted : b.moveWithin list start stop = .ok r) (shown : b.Shows p) : r.1.Shows p := by
  obtain ⟨photos, known, -, inside, rfl⟩ := moveWithin_eq_ok_iff.mp accepted
  exact shows_extended known (moveItem_perm start inside).symm.subset shown

/-- The photo that is moved leaves the one list for the other, which held it already or holds it
now. -/
theorem shows_moveAcross {source target : PhotoList} {index : Nat} {r : Body × Change}
    (accepted : b.moveAcross source index target = .ok r) (shown : b.Shows p) : r.1.Shows p := by
  rcases moveAcross_eq_ok_iff.mp accepted with ⟨-, photos, -, within⟩ |
    ⟨photos, photo, there, transfer, rfl⟩
  · exact shows_moveWithin within shown
  · have goal := transfer.goal_taken (photos.eraseIdx index)
    have rest : p ≠ photo → (b.setPhotos source (photos.eraseIdx index)).Shows p := by
      intro other
      refine shows_setPhotos transfer.origin shown fun inside => ?_
      refine shows_replaced transfer.origin ?_
      have stays : p ∈ photos.filter (· ≠ photo) :=
        List.mem_filter.mpr ⟨inside, by simpa using other⟩
      rw [← filter_eraseIdx transfer.picked] at stays
      exact (List.mem_filter.mp stays).1
    by_cases moved : p = photo
    · subst moved
      split
      · rename_i present
        exact shows_of_photos goal present
      · exact shows_replaced goal (List.mem_append_right _ (List.mem_singleton_self _))
    · split
      · exact rest moved
      · exact shows_extended goal (List.subset_append_left _ _) (rest moved)

/-- An edit that is not meant to take photos out leaves every photo in the document. -/
theorem shows_apply {e : Edit} {change : Option Change}
    (accepted : b.apply e = .ok (after, change)) (keeps : e.removesPhotos = false)
    (shown : b.Shows p) : after.Shows p := by
  have told {answer : Except EditError (Body × Change)}
      (kept : ∀ {r}, answer = .ok r → b.Shows p → r.1.Shows p)
      (answered : answer.map made = .ok (after, change)) : after.Shows p := by
    obtain ⟨_, made, -⟩ := map_made_eq_ok_iff.mp answered
    exact kept made shown
  have pushed (content : Content) : (b.push content).1.Shows p :=
    shown.of_subset (List.subset_append_left _ _)
  cases e with
  | add kind => cases accepted; exact pushed _
  | addBlock layout => cases accepted; exact pushed _
  | push content => cases accepted; exact pushed _
  | update id patch => exact told shows_update accepted
  | move id stop => exact told shows_move accepted
  | duplicate id => exact told shows_duplicate accepted
  | attach list photo => exact shows_attach accepted shown
  | moveWithin list start stop => exact told shows_moveWithin accepted
  | moveAcross source index target => exact told shows_moveAcross accepted
  | remove id => cases keeps
  | detach list photo => cases keeps
  | resolve resolution => cases keeps
  | clear => cases keeps

/-! ### A move between two lists -/

/-- A list that is replaced changes in its place, and no other list changes. -/
theorem lists_setPhotos (distinct : b.ids.Nodup) {list : PhotoList} {old : List PhotoRef}
    (known : b.photos list = .ok old) (photos : List PhotoRef) :
    (b.setPhotos list photos).lists =
      b.lists.map fun (l, ps) => (l, if l = list then photos else ps) := by
  obtain ⟨s, block, found, content, listed⟩ := photos_eq_ok_iff.mp known
  obtain ⟨pre, post, split⟩ := exists_split_of_find? found
  have name : (⟨s.id, list.category⟩ : PhotoList) = list := by rw [split.id_eq]
  have others (t : Section) (other : t.id ≠ list.block) :
      t.lists.map (fun (l, ps) => (l, if l = list then photos else ps)) = t.lists := by
    refine (List.map_congr_left fun entry member => ?_).trans (List.map_id _)
    have apart : entry.1 ≠ list := fun same =>
      other ((Section.mem_lists_iff.mp member).1.trans (congrArg PhotoList.block same))
    simp [apart]
  have sides (part : List Section) (foreign : ∀ t ∈ part, t.id ≠ list.block) :
      (part.flatMap Section.lists).map (fun (l, ps) => (l, if l = list then photos else ps)) =
        part.flatMap Section.lists := by
    rw [List.map_flatMap]
    exact List.flatMap_congr fun t ht => others t (foreign t ht)
  rw [split.setPhotos content, Body.lists, Body.lists, split.sections_eq]
  simp only [List.flatMap_append, List.flatMap_cons, List.map_append]
  rw [sides pre split.pre_ne, sides post (split.post_ne distinct),
    Section.lists_setPhotos content listed, name]

/-- What a list holds after a photo came to it: a photo that it held already stays in its place. -/
def joined (there : List PhotoRef) (photo : PhotoRef) : List PhotoRef :=
  if photo ∈ there then there else there ++ [photo]

theorem count_joined {there : List PhotoRef} (distinct : there.Nodup) (photo : PhotoRef) :
    (joined there photo).count photo = 1 := by
  unfold joined
  split
  · rename_i present
    exact List.count_eq_one_of_mem distinct present
  · rename_i absent
    rw [List.count_append, List.count_eq_zero_of_not_mem absent, List.count_singleton_self]

/-- A photo that the target has already is put back where it is. -/
theorem Transfer.after_eq {source target : PhotoList} {index : Nat}
    {photos there : List PhotoRef} {photo : PhotoRef}
    (h : b.Transfer source index target photos photo there) :
    (if photo ∈ there then b.setPhotos source (photos.eraseIdx index)
      else (b.setPhotos source (photos.eraseIdx index)).setPhotos target (there ++ [photo])) =
    (b.setPhotos source (photos.eraseIdx index)).setPhotos target (joined there photo) := by
  unfold joined
  split
  · rw [setPhotos_photos (h.goal_taken _)]
  · rfl

/-- In a document that came about by edits, an edit that is not meant to take photos out leaves
every photo in some list. A move from one list to another takes the photo out of the one, where the
others stay in their order, leaves it once in the other, in its old place or at the end, and leaves
all other lists as they were. -/
theorem reachable_photos_conserved {b : Body} (known : b.Reachable) :
    (∀ e after change, b.apply e = .ok (after, change) → e.removesPhotos = false →
      ∀ p, b.Shows p → after.Shows p) ∧
    ∀ source index target after change, source ≠ target →
      b.apply (.moveAcross source index target) = .ok (after, change) →
      ∃ photos photo there, b.photos source = .ok photos ∧ photos[index]? = some photo ∧
        b.photos target = .ok there ∧
        after.lists = b.lists.map (fun (list, ps) =>
          (list, if list = target then joined there photo
            else if list = source then photos.eraseIdx index else ps)) ∧
        after.photos source = .ok (photos.eraseIdx index) ∧ photo ∉ photos.eraseIdx index ∧
        after.photos target = .ok (joined there photo) ∧ (joined there photo).count photo = 1 := by
  have sound := known.wellFormed
  refine ⟨fun e after change accepted keeps p shown => shows_apply accepted keeps shown, ?_⟩
  intro source index target after change apart accepted
  obtain ⟨told, moved, -⟩ := map_made_eq_ok_iff.mp accepted
  rcases moveAcross_eq_ok_iff.mp moved with ⟨same, -⟩ | ⟨photos, photo, there, transfer, rest⟩
  · exact absurd same apart
  · obtain ⟨rfl, -⟩ := Prod.mk.inj rest
    rw [transfer.after_eq]
    have origin : (b.setPhotos source (photos.eraseIdx index)).photos source =
        .ok (photos.eraseIdx index) := by rw [photos_setPhotos transfer.origin, if_pos rfl]
    have goal := transfer.goal_taken (photos.eraseIdx index)
    refine ⟨photos, photo, there, transfer.origin, transfer.picked, transfer.goal, ?_⟩
    refine ⟨?_, ?_, ?_, ?_, ?_⟩
    · rw [lists_setPhotos (by simpa using sound.ids_nodup) goal,
        lists_setPhotos sound.ids_nodup transfer.origin, List.map_map]
      rfl
    · rw [photos_setPhotos goal, if_neg apart, origin]
    · have distinct := sound.lists_nodup (mem_lists_of_photos transfer.origin)
      exact not_mem_eraseIdx distinct transfer.picked
    · rw [photos_setPhotos goal, if_pos rfl]
    · exact count_joined (sound.lists_nodup (mem_lists_of_photos transfer.goal)) photo

/-- Of two photos in a list the one goes to a list that shows it already, the other to an empty
one. -/
theorem two_photos_conserved :
    let p : PhotoRef := .staged ⟨7, by decide⟩
    let q : PhotoRef := .staged ⟨8, by decide⟩
    let b : Body :=
      ⟨[⟨⟨1⟩, .photos (.beforeAfter [p, q] [])⟩, ⟨⟨2⟩, .photos (.beforeAfter [p] [])⟩], 2⟩
    (b.after (.duplicate ⟨1⟩)).Shows q ∧
    (b.after (.moveAcross ⟨⟨1⟩, .before⟩ 0 ⟨⟨2⟩, .before⟩)).lists =
      [(⟨⟨1⟩, .before⟩, [q]), (⟨⟨1⟩, .after⟩, []), (⟨⟨2⟩, .before⟩, [p]), (⟨⟨2⟩, .after⟩, [])] ∧
    (b.after (.moveAcross ⟨⟨1⟩, .before⟩ 1 ⟨⟨1⟩, .after⟩)).lists =
      [(⟨⟨1⟩, .before⟩, [p]), (⟨⟨1⟩, .after⟩, [q]), (⟨⟨2⟩, .before⟩, [p]), (⟨⟨2⟩, .after⟩, [])] := by
  intro p q b
  have filled : Reachable (((Body.after {} (.addBlock .beforeAfter)).after
      (.attach ⟨⟨1⟩, .before⟩ p)).after (.attach ⟨⟨1⟩, .before⟩ q)) :=
    .edit (.attach ⟨⟨1⟩, .before⟩ q) (.edit (.attach ⟨⟨1⟩, .before⟩ p)
      (.edit (.addBlock .beforeAfter) .new trivial fun _ => by decide) trivial nofun) trivial nofun
  have known : b.Reachable := Reachable.edit (.attach ⟨⟨2⟩, .before⟩ p)
    (.edit (.addBlock .beforeAfter) filled trivial fun _ => by decide) trivial nofun
  have accepted (e : Edit) (taken : (b.apply e).isOk) :
      ∃ change, b.apply e = .ok (b.after e, change) := by
    unfold Body.after
    cases answer : b.apply e with
    | ok r => exact ⟨r.2, rfl⟩
    | error cause => rw [answer] at taken; cases taken
  obtain ⟨keeps, across⟩ := reachable_photos_conserved known
  refine ⟨?_, ?_, ?_⟩
  · obtain ⟨_, copied⟩ := accepted (.duplicate ⟨1⟩) (by decide)
    exact keeps _ _ _ copied rfl q ⟨(⟨⟨1⟩, .before⟩, [p, q]), List.mem_cons_self, by decide⟩
  · obtain ⟨_, moved⟩ := accepted (.moveAcross ⟨⟨1⟩, .before⟩ 0 ⟨⟨2⟩, .before⟩) (by decide)
    obtain ⟨photos, photo, there, origin, picked, goal, all, -⟩ :=
      across _ _ _ _ _ (by decide) moved
    obtain rfl : [p, q] = photos := Except.ok.inj origin
    obtain rfl : p = photo := Option.some.inj picked
    obtain rfl : [p] = there := Except.ok.inj goal
    rw [all]
    decide
  · obtain ⟨_, moved⟩ := accepted (.moveAcross ⟨⟨1⟩, .before⟩ 1 ⟨⟨1⟩, .after⟩) (by decide)
    obtain ⟨photos, photo, there, origin, picked, goal, all, -⟩ :=
      across _ _ _ _ _ (by decide) moved
    obtain rfl : [p, q] = photos := Except.ok.inj origin
    obtain rfl : q = photo := Option.some.inj picked
    obtain rfl : [] = there := Except.ok.inj goal
    rw [all]
    decide

end Body

end SiteReport
