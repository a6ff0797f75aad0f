import SiteReport.Proofs.Document.Moves

/-!
Where a drag puts what it drags. The command of a drag names the index of what lies under the pointer,
and what is dragged is taken out before it is put in there. So it comes to stand behind what it was
dropped on when it comes from before it, and before it when it comes from behind.
-/

namespace SiteReport

namespace Body

/-! ### Neighbours in a list -/

section Items

variable {α : Type} {items : List α} {x y : α} {i start stop : Nat}

theorem pair_infix (first : items[i]? = some x) (second : items[i + 1]? = some y) :
    [x, y] <:+: items := by
  obtain ⟨inside, -⟩ := List.getElem?_eq_some_iff.mp second
  refine List.infix_iff_getElem?.mpr ⟨i, Nat.add_comm 2 i ▸ inside, fun k within => ?_⟩
  match k with
  | 0 => rw [Nat.zero_add, first, List.getElem_cons_zero]
  | 1 => rw [Nat.add_comm 1 i, second, List.getElem_cons_succ, List.getElem_cons_zero]

/-- An item that moves forward lands right behind the one whose place it takes. -/
theorem infix_moveItem_forward (here : items[start]? = some x) (there : items[stop]? = some y)
    (forward : start < stop) : [y, x] <:+: moveItem items start stop := by
  obtain ⟨inside, -⟩ := List.getElem?_eq_some_iff.mp there
  have before : stop - 1 + 1 = stop := Nat.sub_add_cancel (Nat.zero_lt_of_lt forward)
  -- taking the item out has moved the other one down by one
  have down : (moveItem items start stop)[stop - 1]? = some y := by
    rw [moveItem_eq here, List.getElem?_insertIdx, if_pos (by omega), List.getElem?_eraseIdx,
      if_neg (by omega), before, there]
  refine pair_infix down ?_
  rw [before]
  exact getElem?_moveItem_stop here inside

/-- An item that moves backward lands right before the one whose place it takes. -/
theorem infix_moveItem_backward (here : items[start]? = some x) (there : items[stop]? = some y)
    (backward : stop < start) : [x, y] <:+: moveItem items start stop := by
  obtain ⟨inside, -⟩ := List.getElem?_eq_some_iff.mp there
  -- putting the item in has moved the other one up by one
  have up : (moveItem items start stop)[stop + 1]? = some y := by
    rw [moveItem_eq here, List.getElem?_insertIdx, if_neg (by omega), if_neg (by omega),
      List.getElem?_eraseIdx, Nat.add_sub_cancel, if_pos backward, there]
  exact pair_infix (getElem?_moveItem_stop here inside) up

end Items

variable {b after : Body}

/-- With distinct identifiers the other sections are those on the two sides of one. -/
theorem Split.filter_ne {id : SectionId} {pre post : List Section} {s : Section}
    (h : b.Split id pre s post) (distinct : b.ids.Nodup) :
    b.sections.filter (·.id ≠ id) = b.sections.eraseIdx pre.length := by
  have kept : ∀ part : List Section, (∀ t ∈ part, t.id ≠ id) → part.filter (·.id ≠ id) = part :=
    fun part others => List.filter_eq_self.mpr fun t ht => decide_eq_true (others t ht)
  rw [h.eraseIdx, h.sections_eq, List.filter_append, kept pre h.pre_ne, List.filter_cons_of_neg,
    kept post (h.post_ne distinct)]
  simp [h.id_eq]

/-! ### A section that is dropped on another -/

/-- A section took the place of another, and nothing but the order of the sections has changed. -/
structure SectionPlaced (b : Body) (id onto : SectionId) (start stop : Nat) (after : Body) :
    Prop where
  behind : start < stop → [onto, id] <:+: after.ids
  before : stop < start → [id, onto] <:+: after.ids
  place : after.indexOf? id = some stop
  others : after.sections.filter (·.id ≠ id) = b.sections.filter (·.id ≠ id)
  itself : after.find? id = b.find? id
  counter_eq : after.counter = b.counter

theorem move_placed (distinct : b.ids.Nodup) {id onto : SectionId} {start stop : Nat}
    (here : b.indexOf? id = some start) (there : b.indexOf? onto = some stop) :
    ∃ after, b.move id stop = .ok (after, .moved id start stop) ∧
      b.SectionPlaced id onto start stop after := by
  obtain ⟨pre, s, post, split, rfl⟩ := exists_split_of_indexOf? here
  obtain ⟨front, t, back, goal, rfl⟩ := exists_split_of_indexOf? there
  have stands : b.sections[pre.length]? = some s := by
    rw [split.sections_eq, List.getElem?_append_right (Nat.le_refl _), Nat.sub_self]
    rfl
  have inside : front.length < b.sections.length := by
    rw [goal.sections_eq, List.length_append, List.length_cons]
    omega
  let moved := moveItem b.sections pre.length front.length
  have perm : moved.Perm b.sections := moveItem_perm pre.length inside
  have distinct' : Body.ids { b with sections := moved } |>.Nodup :=
    (perm.map Section.id).nodup_iff.mpr distinct
  have ids : Body.ids { b with sections := moved } = moveItem b.ids pre.length front.length :=
    map_moveItem _ _ _ _
  have placed : moved[front.length]? = some s := getElem?_moveItem_stop stands inside
  have arrived := split_at (b := { b with sections := moved }) distinct' placed
  have length : (moved.take front.length).length = front.length :=
    List.length_take_of_le (perm.length_eq ▸ Nat.le_of_lt inside)
  have accepted := move_at distinct stands inside
  rw [split.id_eq] at arrived accepted
  refine ⟨_, accepted, ?_, ?_, ?_, ?_, find?_of_perm distinct perm id, rfl⟩
  · exact fun forward => ids ▸ infix_moveItem_forward split.getElem?_ids goal.getElem?_ids forward
  · exact fun backward => ids ▸ infix_moveItem_backward split.getElem?_ids goal.getElem?_ids backward
  · rw [arrived.indexOf?, length]
  · have rest := arrived.filter_ne distinct'
    rw [length] at rest
    exact rest.trans ((eraseIdx_moveItem stands).trans (split.filter_ne distinct).symm)

/-! ### A photo that is dropped in its list -/

/-- The photo at one place of a list stands at another place of it, and nothing else has changed. -/
structure PhotoPlaced (b : Body) (list : PhotoList) (start stop : Nat) (after : Body) : Prop where
  placed : ∃ photos moved, b.photos list = .ok photos ∧ after.photos list = .ok moved ∧
    moved[stop]? = photos[start]? ∧ moved.eraseIdx stop = photos.eraseIdx start
  others : ∀ l, l ≠ list → after.photos l = b.photos l
  outline_eq : after.outline = b.outline
  counter_eq : after.counter = b.counter

theorem PhotoPlaced.refl {list : PhotoList} {photos : List PhotoRef} (i : Nat)
    (known : b.photos list = .ok photos) : b.PhotoPlaced list i i b :=
  ⟨⟨photos, photos, known, known, rfl, rfl⟩, fun _ _ => rfl, rfl, rfl⟩

/-- Where the photo stands and what is left without it tell the whole list. -/
theorem PhotoPlaced.photos_eq {list : PhotoList} {photos : List PhotoRef} {start stop : Nat}
    (h : b.PhotoPlaced list start stop after) (known : b.photos list = .ok photos)
    (first : start < photos.length) : after.photos list = .ok (moveItem photos start stop) := by
  obtain ⟨old, moved, shown, listed, placed, rest⟩ := h.placed
  cases known.symm.trans shown
  have here : photos[start]? = some photos[start] := List.getElem?_eq_getElem first
  obtain ⟨inside, there⟩ := List.getElem?_eq_some_iff.mp (placed.trans here)
  rw [listed, moveItem_eq here, ← rest, ← there, List.insertIdx_eraseIdx_getElem inside]

theorem moveWithin_placed {list : PhotoList} {photos : List PhotoRef} {start stop : Nat}
    (known : b.photos list = .ok photos) (first : start < photos.length)
    (inside : stop < photos.length) :
    ∃ after, b.moveWithin list start stop = .ok (after, .photosChanged list.block) ∧
      b.PhotoPlaced list start stop after := by
  have here : photos[start]? = some photos[start] := List.getElem?_eq_getElem first
  refine ⟨_, moveWithin_eq_ok_iff.mpr ⟨photos, known, first, inside, rfl⟩, ?_, ?_,
    outline_setPhotos known _, counter_setPhotos _ _ _⟩
  · refine ⟨photos, moveItem photos start stop, known, ?_, ?_, eraseIdx_moveItem here⟩
    · rw [photos_setPhotos known, if_pos rfl]
    · rw [getElem?_moveItem_stop here inside, here]
  · intro l other
    rw [photos_setPhotos known, if_neg other]

end Body

/-! ### The release -/

namespace Gesture

variable {g : Gesture} {b : Body} {now : Int}

/-- A drag that is over something asks for its command, whatever the time is. -/
theorem up_of_armed {source : DragSource} {target : DropTarget}
    (armed : g.phase = .armed source (some target)) (now : Int) (b : Body) :
    (g.up now b).1 = Reorder.ofDrop? b source target := by
  unfold up tick
  simp only [armed]

/-- A section that is dropped on another one takes its place: right behind it when it comes from
before, right before it when it comes from behind. A photo that is dropped on another one of its list
takes its place, and one that is dropped on the empty space of its list goes to the end, for which
nothing is asked if it stands there already. All others keep their order. -/
theorem released_takes_place (g : Gesture) (now : Int) (b : Body) :
    (∀ id onto start stop, b.ids.Nodup →
      g.phase = .armed (.wholeSection id) (some (.wholeSection onto)) → id ≠ onto →
      b.indexOf? id = some start → b.indexOf? onto = some stop →
      ∃ r after, (g.up now b).1 = some r ∧ r.apply b = .ok (after, .moved id start stop) ∧
        b.SectionPlaced id onto start stop after) ∧
    (∀ list photos start stop, b.photos list = .ok photos → start < photos.length →
      stop < photos.length → start ≠ stop →
      g.phase = .armed (.photo list start) (some (.photo list stop)) →
      ∃ r after, (g.up now b).1 = some r ∧ r.apply b = .ok (after, .photosChanged list.block) ∧
        b.PhotoPlaced list start stop after) ∧
    ∀ list photos start, b.photos list = .ok photos → start < photos.length →
      g.phase = .armed (.photo list start) (some (.list list)) →
      ∃ after, b.PhotoPlaced list start (photos.length - 1) after ∧
        if start = photos.length - 1 then (g.up now b).1 = none ∧ after = b
        else ∃ r, (g.up now b).1 = some r ∧
          r.apply b = .ok (after, .photosChanged list.block) := by
  refine ⟨?_, ?_, ?_⟩
  · intro id onto start stop distinct armed other here there
    have apart : start ≠ stop := by
      rintro rfl
      obtain ⟨pre, s, post, split, rfl⟩ := Body.exists_split_of_indexOf? here
      obtain ⟨front, t, back, goal, length⟩ := Body.exists_split_of_indexOf? there
      have one := split.getElem?_ids
      rw [length, goal.getElem?_ids] at one
      exact other (Option.some.inj one).symm
    obtain ⟨after, accepted, placed⟩ := Body.move_placed distinct here there
    refine ⟨.moveSection id stop, after, ?_, accepted, placed⟩
    rw [up_of_armed armed]
    simp only [Reorder.ofDrop?, here, there, if_neg apart]
  · intro list photos start stop known first inside apart armed
    obtain ⟨after, accepted, placed⟩ := Body.moveWithin_placed known first inside
    refine ⟨.moveWithin list start stop, after, ?_, accepted, placed⟩
    rw [up_of_armed armed]
    simp only [Reorder.ofDrop?, if_true, if_neg apart]
  · intro list photos start known first armed
    have command : (g.up now b).1 =
        if start = photos.length - 1 then none
        else some (.moveWithin list start (photos.length - 1)) := by
      have shown : photos.isEmpty = false :=
        List.isEmpty_eq_false_iff.mpr (List.length_pos_iff.mp (Nat.zero_lt_of_lt first))
      rw [up_of_armed armed]
      simp only [Reorder.ofDrop?, if_true, known, shown, Bool.false_or, beq_iff_eq]
    rw [command]
    by_cases last : start = photos.length - 1
    · exact ⟨b, last ▸ .refl start known, by rw [if_pos last, if_pos last]; exact ⟨rfl, rfl⟩⟩
    · have inside : photos.length - 1 < photos.length := by omega
      obtain ⟨after, accepted, placed⟩ := Body.moveWithin_placed known first inside
      refine ⟨after, placed, ?_⟩
      rw [if_neg last, if_neg last]
      exact ⟨_, rfl, accepted⟩

/-- Sections that go to the end and to the front, a photo that goes to the front of its list, one that
goes to the end, and one that is there. -/
theorem dragged_sections_and_photos_placed :
    let p : PhotoRef := .staged ⟨7, by decide⟩
    let q : PhotoRef := .staged ⟨8, by decide⟩
    let list : PhotoList := ⟨⟨2⟩, .before⟩
    let b : Body := ⟨[⟨⟨1⟩, .comment ""⟩, ⟨⟨2⟩, .photos (.beforeAfter [p, q, .resolved "u"] [])⟩,
      ⟨⟨3⟩, .checklistItem ""⟩], 3⟩
    let drag (source : DragSource) (target : DropTarget) : Gesture :=
      ⟨300, 5, .armed source (some target)⟩
    (∃ r after, ((drag (.wholeSection ⟨1⟩) (.wholeSection ⟨3⟩)).up 0 b).1 = some r ∧
      r.apply b = .ok (after, .moved ⟨1⟩ 0 2) ∧ [⟨3⟩, ⟨1⟩] <:+: after.ids) ∧
    (∃ r after, ((drag (.wholeSection ⟨3⟩) (.wholeSection ⟨1⟩)).up 0 b).1 = some r ∧
      r.apply b = .ok (after, .moved ⟨3⟩ 2 0) ∧ [⟨3⟩, ⟨1⟩] <:+: after.ids) ∧
    (∃ r after, ((drag (.photo list 2) (.photo list 0)).up 0 b).1 = some r ∧
      r.apply b = .ok (after, .photosChanged ⟨2⟩) ∧
      after.photos list = .ok [.resolved "u", p, q]) ∧
    (∃ r after, ((drag (.photo list 0) (.list list)).up 0 b).1 = some r ∧
      r.apply b = .ok (after, .photosChanged ⟨2⟩) ∧
      after.photos list = .ok [q, .resolved "u", p]) ∧
    ((drag (.photo list 2) (.list list)).up 0 b).1 = none := by
  intro p q list b drag
  have known : b.photos list = .ok [p, q, .resolved "u"] := rfl
  refine ⟨?_, ?_, ?_, ?_, ?_⟩
  · obtain ⟨r, after, asked, accepted, placed⟩ :=
      (released_takes_place (drag (.wholeSection ⟨1⟩) (.wholeSection ⟨3⟩)) 0 b).1 _ _ 0 2
        (by decide) rfl (by decide) rfl rfl
    exact ⟨r, after, asked, accepted, placed.behind (by decide)⟩
  · obtain ⟨r, after, asked, accepted, placed⟩ :=
      (released_takes_place (drag (.wholeSection ⟨3⟩) (.wholeSection ⟨1⟩)) 0 b).1 _ _ 2 0
        (by decide) rfl (by decide) rfl rfl
    exact ⟨r, after, asked, accepted, placed.before (by decide)⟩
  · obtain ⟨r, after, asked, accepted, placed⟩ :=
      (released_takes_place (drag (.photo list 2) (.photo list 0)) 0 b).2.1 _ _ 2 0 known
        (by decide) (by decide) (by decide) rfl
    exact ⟨r, after, asked, accepted, placed.photos_eq known (by decide)⟩
  · obtain ⟨after, placed, asked⟩ :=
      (released_takes_place (drag (.photo list 0) (.list list)) 0 b).2.2 _ _ 0 known
        (by decide) rfl
    obtain ⟨r, asked, accepted⟩ := asked
    exact ⟨r, after, asked, accepted, placed.photos_eq known (by decide)⟩
  · obtain ⟨after, -, asked⟩ :=
      (released_takes_place (drag (.photo list 2) (.list list)) 0 b).2.2 _ _ 2 known
        (by decide) rfl
    exact asked.1

end Gesture

end SiteReport
