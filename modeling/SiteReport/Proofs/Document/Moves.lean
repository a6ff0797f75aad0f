import SiteReport.Proofs.Document.Conservation

/-!
Moves of sections, and of photos inside their lists. A move puts one item at another place and
leaves the others in their order, so the move back undoes it, and a run of moves does nothing but
rearrange.
-/

namespace SiteReport

/-- Edits that change an order and nothing else. -/
def Edit.isMove : Edit → Bool
  | .move _ _ => true
  | .moveWithin _ _ _ => true
  | _ => false

namespace Body

/-! ### Moves in a list -/

section Items

variable {α : Type} {items : List α} {item : α} {start stop : Nat}

theorem moveItem_eq (here : items[start]? = some item) :
    moveItem items start stop = (items.eraseIdx start).insertIdx stop item := by
  simp only [moveItem, here]

theorem stop_le_length_eraseIdx (here : items[start]? = some item) (inside : stop < items.length) :
    stop ≤ (items.eraseIdx start).length := by
  obtain ⟨first, -⟩ := List.getElem?_eq_some_iff.mp here
  rw [List.length_eraseIdx_of_lt first]
  exact Nat.le_sub_one_of_lt inside

/-- The item stands where it was moved to. -/
theorem getElem?_moveItem_stop (here : items[start]? = some item) (inside : stop < items.length) :
    (moveItem items start stop)[stop]? = some item := by
  rw [moveItem_eq here, List.getElem?_insertIdx_self,
    if_pos (stop_le_length_eraseIdx here inside)]

/-- Without the item the list is what it was without the item before. -/
theorem eraseIdx_moveItem (here : items[start]? = some item) :
    (moveItem items start stop).eraseIdx stop = items.eraseIdx start := by
  rw [moveItem_eq here, List.eraseIdx_insertIdx_self]

/-- The move back undoes a move. -/
theorem moveItem_moveItem (here : items[start]? = some item) (inside : stop < items.length) :
    moveItem (moveItem items start stop) stop start = items := by
  obtain ⟨first, rfl⟩ := List.getElem?_eq_some_iff.mp here
  rw [moveItem_eq (getElem?_moveItem_stop here inside), eraseIdx_moveItem here]
  exact List.insertIdx_eraseIdx_getElem first

end Items

/-! ### Moves in a document -/

variable {b after : Body}

/-- The sections without their photos. -/
def outline (b : Body) : List (SectionId × Content) :=
  b.sections.map fun s => (s.id, s.content.withoutPhotos)

theorem ids_eq_outline (b : Body) : b.ids = b.outline.map Prod.fst := by
  rw [ids, outline, List.map_map]
  rfl

theorem outline_setPhotos {list : PhotoList} {old : List PhotoRef}
    (known : b.photos list = .ok old) (photos : List PhotoRef) :
    (b.setPhotos list photos).outline = b.outline := by
  obtain ⟨s, block, found, content, -⟩ := photos_eq_ok_iff.mp known
  obtain ⟨pre, post, split⟩ := exists_split_of_find? found
  rw [split.setPhotos content]
  simp [outline, split.sections_eq, content, Content.withoutPhotos, PhotoBlock.emptied]

/-- A section is found at its index. -/
theorem split_at (distinct : b.ids.Nodup) {s : Section} {i : Nat}
    (here : b.sections[i]? = some s) :
    b.Split s.id (b.sections.take i) s (b.sections.drop (i + 1)) := by
  obtain ⟨inside, rfl⟩ := List.getElem?_eq_some_iff.mp here
  have cut : b.sections = b.sections.take i ++ b.sections[i] :: b.sections.drop (i + 1) := by
    rw [← List.drop_eq_getElem_cons inside, List.take_append_drop]
  refine ⟨cut, rfl, fun t ht same => ?_⟩
  rw [ids, cut, List.map_append, List.map_cons] at distinct
  have apart := (List.nodup_append.mp distinct).2.2 t.id (List.mem_map_of_mem ht)
  exact apart _ List.mem_cons_self same

/-- A section of a document with distinct identifiers moves to any index that the document has. -/
theorem move_at (distinct : b.ids.Nodup) {s : Section} {start stop : Nat}
    (here : b.sections[start]? = some s) (inside : stop < b.sections.length) :
    b.move s.id stop =
      .ok ({ b with sections := moveItem b.sections start stop }, .moved s.id start stop) := by
  obtain ⟨first, -⟩ := List.getElem?_eq_some_iff.mp here
  have length : (b.sections.take start).length = start :=
    List.length_take_of_le (Nat.le_of_lt first)
  refine move_eq_ok_iff.mpr ⟨_, s, _, split_at distinct here, inside, ?_⟩
  rw [length]

/-! ### Runs of moves -/

/-- Nothing but the order of the sections, and of the photos in each list, is another one. -/
structure Rearranged (b after : Body) : Prop where
  counter_eq : after.counter = b.counter
  outline_perm : after.outline.Perm b.outline
  photos_perm : ∀ {list photos}, b.photos list = .ok photos →
    ∃ moved, after.photos list = .ok moved ∧ moved.Perm photos

namespace Rearranged

theorem refl (b : Body) : b.Rearranged b :=
  ⟨rfl, .refl _, fun known => ⟨_, known, .refl _⟩⟩

theorem trans {mid : Body} (first : b.Rearranged mid) (second : mid.Rearranged after) :
    b.Rearranged after where
  counter_eq := second.counter_eq.trans first.counter_eq
  outline_perm := second.outline_perm.trans first.outline_perm
  photos_perm := by
    intro list photos known
    obtain ⟨mids, known', perm⟩ := first.photos_perm known
    obtain ⟨moved, known'', perm'⟩ := second.photos_perm known'
    exact ⟨moved, known'', perm'.trans perm⟩

theorem ids_perm (h : b.Rearranged after) : after.ids.Perm b.ids := by
  rw [ids_eq_outline, ids_eq_outline]
  exact h.outline_perm.map _

end Rearranged

theorem rearranged_move (distinct : b.ids.Nodup) {id : SectionId} {stop : Nat}
    {r : Body × Change} (accepted : b.move id stop = .ok r) : b.Rearranged r.1 := by
  obtain ⟨pre, s, post, -, inside, rfl⟩ := move_eq_ok_iff.mp accepted
  have perm := moveItem_perm pre.length inside
  refine ⟨rfl, perm.map _, fun {list photos} known => ⟨photos, ?_, .refl _⟩⟩
  rw [photos_of_find? (find?_of_perm distinct perm list.block), known]

theorem rearranged_moveWithin {list : PhotoList} {start stop : Nat} {r : Body × Change}
    (accepted : b.moveWithin list start stop = .ok r) : b.Rearranged r.1 := by
  obtain ⟨old, known, -, inside, rfl⟩ := moveWithin_eq_ok_iff.mp accepted
  refine ⟨counter_setPhotos _ _ _, ?_, fun {l photos} shown => ?_⟩
  · rw [outline_setPhotos known]
  · rw [photos_setPhotos known]
    split
    · rename_i same
      obtain rfl : old = photos := Except.ok.inj (known.symm.trans (same ▸ shown))
      exact ⟨_, rfl, moveItem_perm start inside⟩
    · exact ⟨photos, shown, .refl _⟩

/-- One move, accepted or refused. -/
theorem rearranged_after (distinct : b.ids.Nodup) {e : Edit} (moves : e.isMove = true) :
    b.Rearranged (b.after e) := by
  unfold Body.after
  split
  · rename_i accepted
    cases e with
    | move id stop =>
        obtain ⟨_, moved, -⟩ := map_made_eq_ok_iff.mp accepted
        exact rearranged_move distinct moved
    | moveWithin list start stop =>
        obtain ⟨_, moved, -⟩ := map_made_eq_ok_iff.mp accepted
        exact rearranged_moveWithin moved
    | _ => cases moves
  · exact .refl b

theorem rearranged_run (distinct : b.ids.Nodup) {edits : List Edit}
    (moves : ∀ e ∈ edits, e.isMove = true) : b.Rearranged (b.run edits) := by
  induction edits generalizing b with
  | nil => exact .refl b
  | cons e rest ih =>
      have first := rearranged_after distinct (moves e List.mem_cons_self)
      have distinct' : (b.after e).ids.Nodup := first.ids_perm.nodup_iff.mpr distinct
      exact first.trans (ih distinct' fun e' he' => moves e' (List.mem_cons_of_mem _ he'))

/-- In a document that came about by edits, a section moves to any index, and a photo to any index
of its list. It stands there afterwards; without it, the sections and the list are what they were
without it before, and nothing else has changed; the move back restores the document. Any run of
such moves, refused ones included, gives the same sections and photos in another order. -/
theorem moves_place_and_return {b : Body} (known : b.Reachable) :
    (∀ s start stop, b.sections[start]? = some s → stop < b.sections.length →
      ∃ after, b.move s.id stop = .ok (after, .moved s.id start stop) ∧
        after.sections[stop]? = some s ∧
        after.sections.eraseIdx stop = b.sections.eraseIdx start ∧
        after.counter = b.counter ∧
        after.move s.id start = .ok (b, .moved s.id stop start)) ∧
    (∀ list photos start stop, b.photos list = .ok photos → start < photos.length →
      stop < photos.length →
      ∃ after moved, b.moveWithin list start stop = .ok (after, .photosChanged list.block) ∧
        after.photos list = .ok moved ∧ moved[stop]? = photos[start]? ∧
        moved.eraseIdx stop = photos.eraseIdx start ∧
        after.lists = b.lists.map (fun (l, ps) => (l, if l = list then moved else ps)) ∧
        after.outline = b.outline ∧ after.counter = b.counter ∧
        after.moveWithin list stop start = .ok (b, .photosChanged list.block)) ∧
    ∀ edits : List Edit, (∀ e ∈ edits, e.isMove = true) →
      (b.run edits).ids.Perm b.ids ∧ b.Rearranged (b.run edits) := by
  have distinct := known.wellFormed.ids_nodup
  refine ⟨?_, ?_, ?_⟩
  · intro s start stop here inside
    have perm := moveItem_perm start inside
    have placed := getElem?_moveItem_stop here inside
    refine ⟨_, move_at distinct here inside, placed, eraseIdx_moveItem here, rfl, ?_⟩
    obtain ⟨first, -⟩ := List.getElem?_eq_some_iff.mp here
    have distinct' : ids { b with sections := moveItem b.sections start stop } |>.Nodup :=
      (perm.map Section.id).nodup_iff.mpr distinct
    rw [move_at distinct' placed (perm.length_eq ▸ first)]
    simp only [moveItem_moveItem here inside]
  · intro list photos start stop shown first inside
    have here : photos[start]? = some photos[start] := List.getElem?_eq_getElem first
    have length := (moveItem_perm start inside).length_eq
    have listed : (b.setPhotos list (moveItem photos start stop)).photos list =
        .ok (moveItem photos start stop) := by rw [photos_setPhotos shown, if_pos rfl]
    refine ⟨_, _, moveWithin_eq_ok_iff.mpr ⟨photos, shown, first, inside, rfl⟩, listed, ?_,
      eraseIdx_moveItem here, lists_setPhotos distinct shown _, outline_setPhotos shown _,
      counter_setPhotos _ _ _, ?_⟩
    · rw [getElem?_moveItem_stop here inside, here]
    · refine moveWithin_eq_ok_iff.mpr ⟨_, listed, length ▸ inside, length ▸ first, ?_⟩
      rw [setPhotos_setPhotos shown, moveItem_moveItem here inside, setPhotos_photos shown]
  · intro edits moves
    have rearranged := rearranged_run distinct moves
    exact ⟨rearranged.ids_perm, rearranged⟩

/-- A section goes to the end and comes back, a photo goes to the front of its list and comes back,
and a run goes both ways, with one move that is refused. -/
theorem section_and_photo_move_and_return :
    let p : PhotoRef := .staged ⟨7, by decide⟩
    let q : PhotoRef := .staged ⟨8, by decide⟩
    let list : PhotoList := ⟨⟨2⟩, .before⟩
    let b : Body := ⟨[⟨⟨1⟩, .comment ""⟩, ⟨⟨2⟩, .photos (.beforeAfter [p, q, .resolved "u"] [])⟩,
      ⟨⟨3⟩, .checklistItem ""⟩], 3⟩
    (∃ after, b.move ⟨1⟩ 2 = .ok (after, .moved ⟨1⟩ 0 2) ∧ after.ids = [⟨2⟩, ⟨3⟩, ⟨1⟩] ∧
      after.move ⟨1⟩ 0 = .ok (b, .moved ⟨1⟩ 2 0)) ∧
    (∃ after, b.moveWithin list 2 0 = .ok (after, .photosChanged ⟨2⟩) ∧
      after.photos list = .ok [.resolved "u", p, q] ∧
      after.moveWithin list 0 2 = .ok (b, .photosChanged ⟨2⟩)) ∧
    (b.run [.move ⟨3⟩ 0, .moveWithin list 0 1, .move ⟨2⟩ 3]).ids.Perm b.ids := by
  intro p q list b
  have blocks : Reachable (((Body.after {} (.add .comment)).after (.addBlock .beforeAfter)).after
      (.add .checklistItem)) :=
    .edit _ (.edit _ (.edit _ .new trivial fun _ => by decide) trivial fun _ => by decide)
      trivial fun _ => by decide
  have known : b.Reachable := .edit (.attach list (.resolved "u"))
    (.edit (.attach list q) (.edit (.attach list p) blocks trivial nofun) trivial nofun)
    trivial nofun
  obtain ⟨sections, photos, runs⟩ := moves_place_and_return known
  refine ⟨?_, ?_, ?_⟩
  · obtain ⟨after, moved, -, -, -, back⟩ := sections ⟨⟨1⟩, .comment ""⟩ 0 2 rfl (by decide)
    refine ⟨after, moved, ?_, back⟩
    have same : b.move ⟨1⟩ 2 = .ok (b.after (.move ⟨1⟩ 2), .moved ⟨1⟩ 0 2) := by decide
    obtain ⟨rfl, -⟩ := Prod.mk.inj (Except.ok.inj (moved.symm.trans same))
    decide
  · obtain ⟨after, there, moved, listed, placed, rest, -, -, -, back⟩ :=
      photos list [p, q, .resolved "u"] 2 0 rfl (by decide) (by decide)
    refine ⟨after, moved, ?_, back⟩
    cases there with
    | nil => cases placed
    | cons first others =>
        obtain rfl : first = .resolved "u" := Option.some.inj placed
        rw [listed, show others = [p, q] from rest]
  · exact (runs _ (by decide)).1

end Body

end SiteReport
