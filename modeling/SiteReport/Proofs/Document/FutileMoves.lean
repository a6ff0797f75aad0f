import SiteReport.Proofs.Document.Moves
import SiteReport.Proofs.Document.Places

/-!
Moves that make no difference. A move onto the place where the item stands is seen by that place; a
move past items that are the same as the one that moves is not, and neither is a move over a list
that leads to the end of the list itself. In a document that came about by edits no two items are the
same, and only the last kind is left.
-/

namespace SiteReport

/-! ### Moves past items that are the same -/

namespace Body

section Items

variable {α : Type} {items : List α} {item : α} {start stop i : Nat}

/-- From one end of a move to the other all items are the same. -/
def AlikeBetween (items : List α) (start stop : Nat) : Prop :=
  ∃ item, ∀ i, min start stop ≤ i → i ≤ max start stop → items[i]? = some item

/-- An item that the moved one passes comes one place nearer to where that one stood. -/
theorem getElem?_moveItem_passed (here : items[start]? = some item) (stop i : Nat) :
    (start ≤ i → i < stop → (moveItem items start stop)[i]? = items[i + 1]?) ∧
    (stop < i → i ≤ start → (moveItem items start stop)[i]? = items[i - 1]?) := by
  rw [moveItem_eq here, List.getElem?_insertIdx]
  constructor
  · intro from_start to_stop
    rw [if_pos to_stop, List.getElem?_eraseIdx_of_ge from_start]
  · intro from_stop to_start
    rw [if_neg (by omega), if_neg (by omega), List.getElem?_eraseIdx_of_lt (by omega)]

/-- Items that are like their neighbours, on the side from which a move comes, are all the same. -/
theorem alikeBetween_of_neighbours (here : items[start]? = some item)
    (ahead : ∀ i, start ≤ i → i < stop → items[i]? = items[i + 1]?)
    (back : ∀ i, stop < i → i ≤ start → items[i]? = items[i - 1]?) :
    AlikeBetween items start stop := by
  have forward : ∀ d, start + d ≤ stop → items[start + d]? = some item := by
    intro d
    induction d with
    | zero => exact fun _ => here
    | succ d ih =>
        intro within
        rw [← Nat.add_assoc, ← ahead (start + d) (by omega) (by omega)]
        exact ih (by omega)
  have backward : ∀ d, d ≤ start → stop + d ≤ start → items[start - d]? = some item := by
    intro d
    induction d with
    | zero => exact fun _ _ => here
    | succ d ih =>
        intro enough within
        have next := back (start - d) (by omega) (by omega)
        rw [Nat.sub_add_eq, ← next]
        exact ih (by omega) (by omega)
  refine ⟨item, fun i low high => ?_⟩
  rcases Nat.lt_trichotomy i start with left | rfl | right
  · have away : i = start - (start - i) := by omega
    rw [away]
    exact backward (start - i) (by omega) (by omega)
  · exact here
  · obtain ⟨d, rfl⟩ := Nat.exists_eq_add_of_le (Nat.le_of_lt right)
    exact forward d (by omega)

/-- A move leaves the list as it is exactly if it passes nothing but items like the one that
moves. -/
theorem moveItem_eq_self_iff (first : start < items.length) (inside : stop < items.length) :
    moveItem items start stop = items ↔ AlikeBetween items start stop := by
  have here : items[start]? = some items[start] := List.getElem?_eq_getElem first
  obtain ⟨ahead, back⟩ := forall_and.mp (getElem?_moveItem_passed here stop)
  constructor
  · intro same
    rw [same] at ahead back
    exact alikeBetween_of_neighbours here ahead back
  · rintro ⟨item, alike⟩
    obtain rfl : item = items[start] :=
      Option.some.inj ((alike start (by omega) (by omega)).symm.trans here)
    apply List.ext_getElem?
    intro i
    rcases Nat.lt_trichotomy i stop with before | rfl | behind
    · rcases Nat.lt_or_ge i start with aside | passed
      · exact getElem?_moveItem (.inr (.inl ⟨aside, before⟩))
      · rw [ahead i passed before, alike i (by omega) (by omega), alike (i + 1) (by omega) (by omega)]
    · rw [getElem?_moveItem_stop here inside, alike i (by omega) (by omega)]
    · rcases Nat.lt_or_ge start i with aside | passed
      · exact getElem?_moveItem (.inr (.inr ⟨aside, behind⟩))
      · rw [back i behind passed, alike i (by omega) (by omega), alike (i - 1) (by omega) (by omega)]

theorem AlikeBetween.lt_length (h : AlikeBetween items start stop) :
    start < items.length ∧ stop < items.length := by
  obtain ⟨item, alike⟩ := h
  exact ⟨(List.getElem?_eq_some_iff.mp (alike start (by omega) (by omega))).1,
    (List.getElem?_eq_some_iff.mp (alike stop (by omega) (by omega))).1⟩

/-- Where no item stands twice, only a move onto the same place passes nothing else. -/
theorem alikeBetween_iff_of_nodup (distinct : items.Nodup) :
    AlikeBetween items start stop ↔ start = stop ∧ stop < items.length := by
  constructor
  · intro alike
    obtain ⟨first, inside⟩ := alike.lt_length
    obtain ⟨item, all⟩ := alike
    have same : items[start]? = items[stop]? := by
      rw [all start (by omega) (by omega), all stop (by omega) (by omega)]
    exact ⟨(List.getElem?_inj first distinct).mp same, inside⟩
  · rintro ⟨rfl, inside⟩
    refine ⟨items[start], fun i low high => ?_⟩
    obtain rfl : i = start := by omega
    exact List.getElem?_eq_getElem inside

end Items

end Body

/-! ### What a move asks for -/

namespace Reorder

variable {b after : Body} {r : Reorder} {made : Body × Change}

/-- The item stands at the place that the move names. -/
def isIdle (b : Body) : Reorder → Bool
  | .moveSection id stop => b.indexOf? id == some stop
  | .moveWithin _ start stop => start == stop
  | .moveAcross _ _ _ => false

/-- The move makes no difference, and neither its place nor its change tells of that. -/
def Futile (b : Body) : Reorder → Prop
  | .moveSection id stop => ∃ start, b.indexOf? id = some start ∧ start ≠ stop ∧
      Body.AlikeBetween b.sections start stop
  | .moveWithin list start stop => ∃ photos, b.photos list = .ok photos ∧ start ≠ stop ∧
      Body.AlikeBetween photos start stop
  | .moveAcross source index target => source = target ∧ ∃ photos, b.photos source = .ok photos ∧
      Body.AlikeBetween photos index (photos.length - 1)

/-- A move of a section onto its own place says so; no other change does. -/
theorem isIdle_of_isNoop (accepted : r.apply b = .ok made) (noop : made.2.isNoop = true) :
    r.isIdle b = true := by
  cases r with
  | moveSection id stop =>
      obtain ⟨pre, s, post, split, -, rfl⟩ := Body.move_eq_ok_iff.mp accepted
      have same : pre.length = stop := by simpa [Change.isNoop] using noop
      rw [isIdle, split.indexOf?, same, beq_self_eq_true]
  | moveWithin list start stop =>
      obtain ⟨_, _, _, _, rfl⟩ := Body.moveWithin_eq_ok_iff.mp accepted
      cases noop
  | moveAcross source index target =>
      rcases Body.moveAcross_eq_ok_iff.mp accepted with ⟨_, _, _, within⟩ | ⟨_, _, _, _, rfl⟩
      · obtain ⟨_, _, _, _, rfl⟩ := Body.moveWithin_eq_ok_iff.mp within
        cases noop
      · cases noop

/-- A drop asks for a move to another place, or to another list. -/
theorem ofDrop?_cases {source : DragSource} {target : DropTarget}
    (dropped : ofDrop? b source target = some r) :
    (∃ id start stop, r = .moveSection id stop ∧ b.indexOf? id = some start ∧ start ≠ stop) ∨
    (∃ list start stop, r = .moveWithin list start stop ∧ start ≠ stop) ∨
    ∃ list index goal, r = .moveAcross list index goal ∧ list ≠ goal := by
  cases source with
  | wholeSection id =>
      cases target with
      | wholeSection onto =>
          simp only [ofDrop?] at dropped
          split at dropped
          · rename_i start stop here there
            split at dropped
            · cases dropped
            · rename_i apart
              cases dropped
              exact .inl ⟨id, start, stop, rfl, here, apart⟩
          · cases dropped
      | _ => cases dropped
  | photo list index =>
      cases target with
      | wholeSection onto => cases dropped
      | photo goal stop =>
          simp only [ofDrop?] at dropped
          split at dropped
          · split at dropped
            · cases dropped
            · rename_i apart
              cases dropped
              exact .inr (.inl ⟨list, index, stop, rfl, apart⟩)
          · rename_i apart
            cases dropped
            exact .inr (.inr ⟨list, index, goal, rfl, apart⟩)
      | list goal =>
          simp only [ofDrop?] at dropped
          split at dropped
          · split at dropped
            · split at dropped
              · cases dropped
              · rename_i elsewhere
                cases dropped
                simp only [Bool.or_eq_true, not_or, beq_iff_eq] at elsewhere
                exact .inr (.inl ⟨list, index, _, rfl, elsewhere.2⟩)
            · cases dropped
          · rename_i apart
            cases dropped
            exact .inr (.inr ⟨list, index, goal, rfl, apart⟩)

theorem isIdle_of_ofDrop? {source : DragSource} {target : DropTarget}
    (dropped : ofDrop? b source target = some r) : r.isIdle b = false := by
  rcases ofDrop?_cases dropped with ⟨id, start, stop, rfl, here, apart⟩ |
    ⟨list, start, stop, rfl, apart⟩ | ⟨list, index, goal, rfl, -⟩
  · rw [isIdle, here]
    exact beq_false_of_ne fun same => apart (Option.some.inj same)
  · exact beq_false_of_ne apart
  · rfl

theorem apart_of_ofDrop? {source : DragSource} {target : DropTarget} {list goal : PhotoList}
    {index : Nat} (dropped : ofDrop? b source target = some (.moveAcross list index goal)) :
    list ≠ goal := by
  rcases ofDrop?_cases dropped with ⟨_, _, _, same, -⟩ | ⟨_, _, _, same, -⟩ | ⟨_, _, _, same, apart⟩
  · cases same
  · cases same
  · cases same
    exact apart

end Reorder

namespace Body

variable {b : Body} {list source target : PhotoList} {index : Nat}

theorem setPhotos_eq_self_iff {old photos : List PhotoRef} (known : b.photos list = .ok old) :
    b.setPhotos list photos = b ↔ photos = old := by
  constructor
  · intro same
    have written : (b.setPhotos list photos).photos list = .ok photos :=
      (photos_setPhotos known).trans (if_pos rfl)
    rw [same, known] at written
    exact Except.ok.inj written.symm
  · rintro rfl
    exact setPhotos_photos known

theorem moveWithin_eq_self_iff {start stop : Nat} :
    (∃ change, b.moveWithin list start stop = .ok (b, change)) ↔
      ∃ photos, b.photos list = .ok photos ∧ AlikeBetween photos start stop := by
  constructor
  · rintro ⟨change, accepted⟩
    obtain ⟨photos, known, first, inside, same⟩ := moveWithin_eq_ok_iff.mp accepted
    have kept := (setPhotos_eq_self_iff known).mp (congrArg Prod.fst same).symm
    exact ⟨photos, known, (moveItem_eq_self_iff first inside).mp kept⟩
  · rintro ⟨photos, known, alike⟩
    obtain ⟨first, inside⟩ := alike.lt_length
    have kept := (moveItem_eq_self_iff first inside).mpr alike
    refine ⟨.photosChanged list.block,
      moveWithin_eq_ok_iff.mpr ⟨photos, known, first, inside, ?_⟩⟩
    rw [kept, setPhotos_photos known]

theorem move_eq_self_iff {id : SectionId} {stop : Nat} :
    (∃ change, b.move id stop = .ok (b, change)) ↔
      ∃ start, b.indexOf? id = some start ∧ AlikeBetween b.sections start stop := by
  constructor
  · rintro ⟨change, accepted⟩
    obtain ⟨pre, s, post, split, inside, same⟩ := move_eq_ok_iff.mp accepted
    have kept := (congrArg (·.1.sections) same).symm
    have first : pre.length < b.sections.length := by simp [split.sections_eq]
    exact ⟨_, split.indexOf?, (moveItem_eq_self_iff first inside).mp kept⟩
  · rintro ⟨start, here, alike⟩
    obtain ⟨first, inside⟩ := alike.lt_length
    obtain ⟨pre, s, post, split, rfl⟩ := exists_split_of_indexOf? here
    have kept := (moveItem_eq_self_iff first inside).mpr alike
    exact ⟨.moved id pre.length stop,
      move_eq_ok_iff.mpr ⟨pre, s, post, split, inside, by rw [kept]⟩⟩

/-- A move between two lists leaves one photo less in the first of them. -/
theorem Transfer.photos_source {photos there : List PhotoRef} {photo : PhotoRef}
    (transfer : b.Transfer source index target photos photo there) :
    (if photo ∈ there then b.setPhotos source (photos.eraseIdx index)
      else (b.setPhotos source (photos.eraseIdx index)).setPhotos target
        (there ++ [photo])).photos source = .ok (photos.eraseIdx index) := by
  have left : (b.setPhotos source (photos.eraseIdx index)).photos source =
      .ok (photos.eraseIdx index) := by rw [photos_setPhotos transfer.origin, if_pos rfl]
  split
  · exact left
  · rw [photos_setPhotos (transfer.goal_taken _), if_neg transfer.apart, left]

theorem moveAcross_ne {made : Body × Change} (accepted : b.moveAcross source index target = .ok made)
    (apart : source ≠ target) : made.1 ≠ b := by
  intro same
  rcases moveAcross_eq_ok_iff.mp accepted with ⟨one, -⟩ |
    ⟨photos, photo, there, transfer, rfl⟩
  · exact apart one
  · have left := transfer.photos_source
    simp only at same
    rw [same, transfer.origin] at left
    obtain ⟨inside, -⟩ := List.getElem?_eq_some_iff.mp transfer.picked
    have fewer := congrArg List.length (Except.ok.inj left)
    rw [List.length_eraseIdx_of_lt inside] at fewer
    omega

end Body

namespace Reorder

variable {b : Body} {r : Reorder} {made : Body × Change}

/-- A move onto the same place changes nothing. -/
theorem apply_idle (accepted : r.apply b = .ok made) (idle : r.isIdle b = true) : made.1 = b := by
  cases r with
  | moveSection id stop =>
      obtain ⟨pre, s, post, split, -, rfl⟩ := Body.move_eq_ok_iff.mp accepted
      have same : pre.length = stop := by simpa [isIdle, split.indexOf?] using idle
      rw [same, Body.moveItem_self]
  | moveWithin list start stop =>
      obtain rfl : start = stop := by simpa [isIdle] using idle
      exact Body.moveWithin_self accepted
  | moveAcross source index target => cases idle

/-- The moves that make no difference and are not onto the same place. -/
theorem futile_iff :
    r.Futile b ↔ r.isIdle b = false ∧ ∃ change, r.apply b = .ok (b, change) := by
  cases r with
  | moveSection id stop =>
      have apart : isIdle b (.moveSection id stop) = false ↔ b.indexOf? id ≠ some stop :=
        beq_eq_false_iff_ne
      rw [apart, apply, Body.move_eq_self_iff]
      constructor
      · rintro ⟨start, here, moves, alike⟩
        exact ⟨fun there => moves (Option.some.inj (here.symm.trans there)), start, here, alike⟩
      · rintro ⟨elsewhere, start, here, alike⟩
        exact ⟨start, here, fun same => elsewhere (same ▸ here), alike⟩
  | moveWithin list start stop =>
      have apart : isIdle b (.moveWithin list start stop) = false ↔ start ≠ stop :=
        beq_eq_false_iff_ne
      rw [apart, apply, Body.moveWithin_eq_self_iff]
      constructor
      · rintro ⟨photos, known, moves, alike⟩
        exact ⟨moves, photos, known, alike⟩
      · rintro ⟨moves, photos, known, alike⟩
        exact ⟨photos, known, moves, alike⟩
  | moveAcross source index target =>
      constructor
      · rintro ⟨rfl, photos, known, alike⟩
        obtain ⟨change, accepted⟩ := Body.moveWithin_eq_self_iff.mpr ⟨photos, known, alike⟩
        exact ⟨rfl, change, Body.moveAcross_eq_ok_iff.mpr (.inl ⟨rfl, photos, known, accepted⟩)⟩
      · rintro ⟨-, change, accepted⟩
        rcases Body.moveAcross_eq_ok_iff.mp accepted with ⟨rfl, photos, known, moved⟩ |
          ⟨_, _, _, transfer, _⟩
        · obtain ⟨photos', known', alike⟩ := Body.moveWithin_eq_self_iff.mp ⟨change, moved⟩
          obtain rfl : photos = photos' := Except.ok.inj (known.symm.trans known')
          exact ⟨rfl, photos, known, alike⟩
        · have moved : (b, change).1 ≠ b := Body.moveAcross_ne accepted transfer.apart
          exact absurd rfl moved

/-- In a document that came about by edits only one kind of move goes unnoticed: the last photo of a
list is moved to the end of the list. -/
theorem futile_iff_of_wellFormed (sound : b.WellFormed) :
    r.Futile b ↔ ∃ list photos, b.photos list = .ok photos ∧ photos ≠ [] ∧
      r = .moveAcross list (photos.length - 1) list := by
  have listed {list : PhotoList} {photos : List PhotoRef} (known : b.photos list = .ok photos) :
      photos.Nodup := sound.lists_nodup (Body.mem_lists_of_photos known)
  cases r with
  | moveSection id stop =>
      have distinct : b.sections.Nodup := .of_map _ sound.ids_nodup
      constructor
      · rintro ⟨start, -, apart, alike⟩
        exact absurd ((Body.alikeBetween_iff_of_nodup distinct).mp alike).1 apart
      · rintro ⟨_, _, -, -, same⟩
        cases same
  | moveWithin list start stop =>
      constructor
      · rintro ⟨photos, known, apart, alike⟩
        exact absurd ((Body.alikeBetween_iff_of_nodup (listed known)).mp alike).1 apart
      · rintro ⟨_, _, -, -, same⟩
        cases same
  | moveAcross source index target =>
      constructor
      · rintro ⟨rfl, photos, known, alike⟩
        obtain ⟨rfl, inside⟩ := (Body.alikeBetween_iff_of_nodup (listed known)).mp alike
        exact ⟨source, photos, known, List.ne_nil_of_length_pos (Nat.zero_lt_of_lt inside), rfl⟩
      · rintro ⟨list, photos, known, filled, same⟩
        cases same
        have inside : photos.length - 1 < photos.length :=
          Nat.sub_one_lt (Nat.ne_of_gt (List.length_pos_iff.mpr filled))
        exact ⟨rfl, photos, known,
          (Body.alikeBetween_iff_of_nodup (listed known)).mpr ⟨rfl, inside⟩⟩

end Reorder

end SiteReport
