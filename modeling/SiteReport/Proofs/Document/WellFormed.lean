import SiteReport.Proofs.Document.Edits
import SiteReport.Proofs.Document.Rewrite

/-!
What holds of every document that edits lead to: sections are told apart by their identifiers, no
list shows a photo twice, and a staged photo is used under one category. The three hold together
or not at all: a photo may change its category only because its list holds it just once.
-/

namespace SiteReport

namespace Body

structure WellFormed (b : Body) : Prop where
  ids_nodup : b.ids.Nodup
  ids_range : ∀ id ∈ b.ids, 0 < id.number ∧ id.number ≤ b.counter
  lists_nodup : ∀ {list photos}, (list, photos) ∈ b.lists → photos.Nodup
  one_category : ∀ {list list' photos photos' photo},
    (list, photos) ∈ b.lists → (list', photos') ∈ b.lists →
    .staged photo ∈ photos → .staged photo ∈ photos' → list.category = list'.category

/-- There is an identifier left to give out. -/
def HasRoom (b : Body) : Prop := b.counter < 4294967295

instance (b : Body) : Decidable b.HasRoom := inferInstanceAs (Decidable (_ < _))

theorem hasRoom_iff {b : Body} : b.HasRoom ↔ b.counter.toNat + 1 < 4294967296 := by
  have limit : (4294967295 : UInt32).toNat = 4294967295 := rfl
  rw [HasRoom, UInt32.lt_iff_toNat_lt, limit]
  omega

theorem toNat_nextId {b : Body} (room : b.HasRoom) :
    b.nextId.number.toNat = b.counter.toNat + 1 := by
  rw [nextId, UInt32.toNat_add]
  exact Nat.mod_eq_of_lt (hasRoom_iff.mp room)

theorem counter_lt_nextId {b : Body} (room : b.HasRoom) : b.counter < b.nextId.number := by
  rw [UInt32.lt_iff_toNat_lt, toNat_nextId room]
  exact Nat.lt_succ_self _

theorem ids_push (b : Body) (content : Content) : (b.push content).1.ids = b.ids ++ [b.nextId] :=
  List.map_append

namespace WellFormed

variable {b : Body}

theorem empty : WellFormed {} := by
  constructor <;> simp [ids, lists]

/-- Edits that bring in no list but empty ones keep what is said of lists. -/
theorem of_lists (h : b.WellFormed) {after : Body} (distinct : after.ids.Nodup)
    (range : ∀ id ∈ after.ids, 0 < id.number ∧ id.number ≤ after.counter)
    (known : ∀ list photos, (list, photos) ∈ after.lists →
      photos = [] ∨ (list, photos) ∈ b.lists) : after.WellFormed := by
  refine ⟨distinct, range, ?_, ?_⟩
  · intro list photos member
    rcases known list photos member with rfl | old
    · exact List.nodup_nil
    · exact h.lists_nodup old
  · intro list list' photos photos' photo member member' staged staged'
    rcases known list photos member with rfl | old
    · cases staged
    · rcases known list' photos' member' with rfl | old'
      · cases staged'
      · exact h.one_category old old' staged staged'

/-! ### Identifiers -/

theorem nextId_not_mem (h : b.WellFormed) (room : b.HasRoom) : b.nextId ∉ b.ids := by
  intro member
  have beyond := counter_lt_nextId room
  exact absurd (h.ids_range _ member).2 (UInt32.not_le.mpr beyond)

/-- Identifiers after one more was given out. -/
theorem ids_range_next (h : b.WellFormed) (room : b.HasRoom) :
    ∀ id, id ∈ b.ids ∨ id = b.nextId → 0 < id.number ∧ id.number ≤ b.nextId.number := by
  have beyond := counter_lt_nextId room
  rintro id (old | rfl)
  · obtain ⟨low, high⟩ := h.ids_range id old
    exact ⟨low, UInt32.le_trans high (UInt32.le_of_lt beyond)⟩
  · exact ⟨UInt32.lt_of_le_of_lt UInt32.zero_le beyond, UInt32.le_refl _⟩

/-! ### Edits of sections -/

theorem push (h : b.WellFormed) (room : b.HasRoom) {content : Content}
    (plain : content.withoutPhotos = content) : (b.push content).1.WellFormed := by
  refine h.of_lists ?_ ?_ ?_
  · rw [ids_push, ← List.concat_eq_append]
    exact h.ids_nodup.concat (h.nextId_not_mem room)
  · rw [ids_push]
    intro id member
    exact h.ids_range_next room id (by simpa using member)
  · intro list photos member
    obtain ⟨s, hs, hl⟩ := mem_lists_iff.mp member
    rcases List.mem_append.mp hs with old | new
    · exact .inr (mem_lists_iff.mpr ⟨s, old, hl⟩)
    · rw [List.mem_singleton.mp new] at hl
      exact .inl (Section.eq_nil_of_mem_lists plain hl)

theorem remove (h : b.WellFormed) {id : SectionId} {r : Body × Change}
    (accepted : b.remove id = .ok r) : r.1.WellFormed := by
  obtain ⟨pre, s, post, split, rfl⟩ := remove_eq_ok_iff.mp accepted
  have part : (pre ++ post).Sublist b.sections := by
    rw [split.sections_eq]
    exact List.Sublist.append_left (List.sublist_cons_self _ _) _
  refine h.of_lists (h.ids_nodup.sublist (part.map _)) ?_ ?_
  · intro i member
    exact h.ids_range i ((part.map _).subset member)
  · intro list photos member
    obtain ⟨t, ht, hl⟩ := mem_lists_iff.mp member
    exact .inr (mem_lists_iff.mpr ⟨t, part.subset ht, hl⟩)

theorem update (h : b.WellFormed) {id : SectionId} {patch : SectionPatch} {r : Body × Change}
    (accepted : b.update id patch = .ok r) : r.1.WellFormed := by
  obtain ⟨pre, s, post, content, split, patched, rfl⟩ := update_eq_ok_iff.mp accepted
  have ids_eq : ids { b with sections := pre ++ { s with content } :: post } = b.ids := by
    simp [ids, split.sections_eq]
  refine h.of_lists (ids_eq ▸ h.ids_nodup) (ids_eq ▸ h.ids_range) ?_
  intro list photos member
  simp only [mem_lists_iff, List.mem_append, List.mem_cons] at member
  have old : ∀ t, t ∈ pre ∨ t ∈ post → (list, photos) ∈ t.lists → (list, photos) ∈ b.lists := by
    intro t ht hl
    refine mem_lists_iff.mpr ⟨t, ?_, hl⟩
    rw [split.sections_eq]
    rcases ht with before | behind
    · exact List.mem_append_left _ before
    · exact List.mem_append_right _ (List.mem_cons_of_mem _ behind)
  obtain ⟨t, before | rfl | behind, hl⟩ := member
  · exact .inr (old t (.inl before) hl)
  · rcases patched_keeps_photos patched with same | plain
    · exact .inr (mem_lists_iff.mpr ⟨s, split.mem, by rw [same] at hl; exact hl⟩)
    · exact .inl (Section.eq_nil_of_mem_lists plain hl)
  · exact .inr (old t (.inr behind) hl)

theorem move (h : b.WellFormed) {id : SectionId} {stop : Nat} {r : Body × Change}
    (accepted : b.move id stop = .ok r) : r.1.WellFormed := by
  obtain ⟨pre, s, post, split, inside, rfl⟩ := move_eq_ok_iff.mp accepted
  have perm := moveItem_perm pre.length inside
  have ids_perm := perm.map (·.id)
  refine h.of_lists (ids_perm.nodup_iff.mpr h.ids_nodup) ?_ ?_
  · intro i member
    exact h.ids_range i (ids_perm.subset member)
  · intro list photos member
    obtain ⟨t, ht, hl⟩ := mem_lists_iff.mp member
    exact .inr (mem_lists_iff.mpr ⟨t, perm.subset ht, hl⟩)

theorem duplicate (h : b.WellFormed) (room : b.HasRoom) {id : SectionId} {r : Body × Change}
    (accepted : b.duplicate id = .ok r) : r.1.WellFormed := by
  obtain ⟨pre, s, post, split, rfl⟩ := duplicate_eq_ok_iff.mp accepted
  let copy : Section := ⟨b.nextId, s.content.withoutPhotos⟩
  have perm : (pre ++ s :: copy :: post).Perm (copy :: b.sections) := by
    have moved : ((pre ++ [s]) ++ copy :: post).Perm (copy :: ((pre ++ [s]) ++ post)) :=
      List.perm_middle
    simpa [split.sections_eq] using moved
  have ids_perm := perm.map (·.id)
  refine h.of_lists (ids_perm.nodup_iff.mpr ?_) ?_ ?_
  · exact List.nodup_cons.mpr ⟨h.nextId_not_mem room, h.ids_nodup⟩
  · intro i member
    refine h.ids_range_next room i ?_
    rcases List.mem_cons.mp (ids_perm.subset member) with new | old
    · exact .inr new
    · exact .inl old
  · intro list photos member
    obtain ⟨t, ht, hl⟩ := mem_lists_iff.mp member
    rcases List.mem_cons.mp (perm.subset ht) with rfl | old
    · exact .inl (Section.eq_nil_of_mem_lists s.content.withoutPhotos_withoutPhotos hl)
    · exact .inr (mem_lists_iff.mpr ⟨t, old, hl⟩)

/-! ### Edits of photos -/

/-- A list may be replaced by one without repetitions, if every staged photo of it is used under
the same category in all the other lists. -/
theorem setPhotos (h : b.WellFormed) {list : PhotoList} {old photos : List PhotoRef}
    (known : b.photos list = .ok old) (distinct : photos.Nodup)
    (agree : ∀ photo, .staged photo ∈ photos → ∀ l ps, (l, ps) ∈ b.lists → l ≠ list →
      .staged photo ∈ ps → l.category = list.category) :
    (b.setPhotos list photos).WellFormed := by
  have after : ∀ l ps, (l, ps) ∈ (b.setPhotos list photos).lists ↔
      if l = list then ps = photos else (l, ps) ∈ b.lists := fun l ps =>
    mem_lists_setPhotos h.ids_nodup known
  refine ⟨by simpa using h.ids_nodup, by simpa using h.ids_range, ?_, ?_⟩
  · intro l ps member
    rw [after] at member
    split at member
    · exact member ▸ distinct
    · exact h.lists_nodup member
  · intro l l' ps ps' photo member member' staged staged'
    rw [after] at member member'
    split at member <;> split at member'
    · rename_i here here'
      rw [here, here']
    · rename_i here there
      subst here member
      exact (agree photo staged l' ps' member' there staged').symm
    · rename_i there here
      subst here member'
      exact agree photo staged' l ps member there staged
    · exact h.one_category member member' staged staged'

/-- One more photo at the end of a list. -/
theorem setPhotos_append (h : b.WellFormed) {list : PhotoList} {old : List PhotoRef}
    {photo : PhotoRef} (known : b.photos list = .ok old) (absent : photo ∉ old)
    (agree : ∀ id, photo = .staged id → ∀ l ps, (l, ps) ∈ b.lists → l ≠ list →
      .staged id ∈ ps → l.category = list.category) :
    (b.setPhotos list (old ++ [photo])).WellFormed := by
  refine h.setPhotos known ?_ ?_
  · rw [← List.concat_eq_append]
    exact (h.lists_nodup (mem_lists_of_photos known)).concat absent
  · intro id staged l ps member other staged'
    rcases List.mem_append.mp staged with present | new
    · exact h.one_category member (mem_lists_of_photos known) staged' present
    · exact agree id (List.mem_singleton.mp new).symm l ps member other staged'

/-- A part of a list, in any order, keeps what is said of lists. -/
theorem setPhotos_subset (h : b.WellFormed) {list : PhotoList} {old photos : List PhotoRef}
    (known : b.photos list = .ok old) (distinct : photos.Nodup) (part : ∀ p ∈ photos, p ∈ old) :
    (b.setPhotos list photos).WellFormed := by
  refine h.setPhotos known distinct ?_
  intro photo staged l ps member _ staged'
  exact h.one_category member (mem_lists_of_photos known) staged' (part _ staged)

theorem attach (h : b.WellFormed) {list : PhotoList} {photo : PhotoRef}
    {r : Body × Option Change} (accepted : b.attach list photo = .ok r) : r.1.WellFormed := by
  obtain ⟨photos, known, fits, rfl⟩ := attach_eq_ok_iff.mp accepted
  split
  · exact h
  · rename_i absent
    refine h.setPhotos_append known absent ?_
    intro id new l ps member _ staged
    exact conflict?_eq_none_iff.mp fits id new l
      (mem_stagedPhotos_iff.mpr ⟨ps, member, staged⟩) (by simp)

theorem detach (h : b.WellFormed) {list : PhotoList} {photo : PhotoRef} {r : Body × Change}
    (accepted : b.detach list photo = .ok r) : r.1.WellFormed := by
  obtain ⟨photos, known, -, rfl⟩ := detach_eq_ok_iff.mp accepted
  have distinct := h.lists_nodup (mem_lists_of_photos known)
  exact h.setPhotos_subset known (distinct.erase photo) fun p hp => List.mem_of_mem_erase hp

theorem moveWithin (h : b.WellFormed) {list : PhotoList} {start stop : Nat} {r : Body × Change}
    (accepted : b.moveWithin list start stop = .ok r) : r.1.WellFormed := by
  obtain ⟨photos, known, -, inside, rfl⟩ := moveWithin_eq_ok_iff.mp accepted
  have perm := moveItem_perm start inside
  have distinct := h.lists_nodup (mem_lists_of_photos known)
  exact h.setPhotos_subset known (perm.nodup_iff.mpr distinct) fun p hp => perm.subset hp

/-- The list that a photo leaves need not be asked for its category: it held the photo once. -/
theorem moveAcross (h : b.WellFormed) {source target : PhotoList} {index : Nat}
    {r : Body × Change} (accepted : b.moveAcross source index target = .ok r) :
    r.1.WellFormed := by
  rcases moveAcross_eq_ok_iff.mp accepted with ⟨-, photos, -, within⟩ |
    ⟨photos, photo, there, transfer, rfl⟩
  · exact h.moveWithin within
  · have distinct := h.lists_nodup (mem_lists_of_photos transfer.origin)
    have taken : (b.setPhotos source (photos.eraseIdx index)).WellFormed :=
      h.setPhotos_subset transfer.origin (distinct.sublist (List.eraseIdx_sublist _ _))
        fun p hp => List.mem_of_mem_eraseIdx hp
    have goal : (b.setPhotos source (photos.eraseIdx index)).photos target = .ok there := by
      apply photos_of_mem_lists taken.ids_nodup
      rw [mem_lists_setPhotos h.ids_nodup transfer.origin, if_neg transfer.apart.symm]
      exact mem_lists_of_photos transfer.goal
    split
    · exact taken
    · rename_i absent
      refine taken.setPhotos_append goal absent ?_
      intro id moved l ps member _ staged
      rw [mem_lists_setPhotos h.ids_nodup transfer.origin] at member
      by_cases elsewhere : l = source
      · subst elsewhere
        rw [if_pos rfl] at member
        rw [member, ← moved] at staged
        exact absurd staged (not_mem_eraseIdx distinct transfer.picked)
      · rw [if_neg elsewhere] at member
        exact conflict?_eq_none_iff.mp transfer.fits id moved l
          (mem_stagedPhotos_iff.mpr ⟨ps, member, staged⟩) (by simpa using elsewhere)

theorem resolve (h : b.WellFormed) (r : Resolution) : (b.resolve r).1.WellFormed := by
  refine ⟨by simpa using h.ids_nodup, by simpa using h.ids_range, ?_, ?_⟩
  · intro list ps member
    obtain ⟨photos, -, rfl⟩ := mem_lists_resolve.mp member
    exact nodup_resolution_apply r photos
  · intro list list' ps ps' photo member member' staged staged'
    obtain ⟨photos, old, rfl⟩ := mem_lists_resolve.mp member
    obtain ⟨photos', old', rfl⟩ := mem_lists_resolve.mp member'
    exact h.one_category old old' (staged_mem_resolution_apply.mp staged).1
      (staged_mem_resolution_apply.mp staged').1

end WellFormed

theorem wellFormed_iff {b : Body} : b.WellFormed ↔
    b.ids.Nodup ∧ (∀ id ∈ b.ids, 0 < id.number ∧ id.number ≤ b.counter) ∧
    (∀ e ∈ b.lists, e.2.Nodup) ∧
    ∀ e ∈ b.stagedPhotos, ∀ e' ∈ b.stagedPhotos, e.2 = e'.2 → e.1.category = e'.1.category := by
  constructor
  · intro h
    refine ⟨h.ids_nodup, h.ids_range, fun e member => h.lists_nodup member, ?_⟩
    rintro ⟨list, photo⟩ staged ⟨list', photo'⟩ staged' same
    obtain rfl : photo = photo' := same
    obtain ⟨photos, member, inside⟩ := mem_stagedPhotos_iff.mp staged
    obtain ⟨photos', member', inside'⟩ := mem_stagedPhotos_iff.mp staged'
    exact h.one_category member member' inside inside'
  · rintro ⟨distinct, range, nodup, category⟩
    refine ⟨distinct, range, fun member => nodup _ member, ?_⟩
    intro list list' photos photos' photo member member' inside inside'
    exact category (list, photo) (mem_stagedPhotos_iff.mpr ⟨photos, member, inside⟩)
      (list', photo) (mem_stagedPhotos_iff.mpr ⟨photos', member', inside'⟩) rfl

instance (b : Body) : Decidable b.WellFormed := decidable_of_iff _ wellFormed_iff.symm

end Body

end SiteReport
