import SiteReport.Proofs.Draft

/-!
The identifiers that a document gives out over its whole life. The count never falls unless the
document is cleared, and a draft carries it along, so no identifier is given out twice: not after
its section was removed, and not after the document was saved and restored.
-/

namespace SiteReport

/-- Edits after which sections may be gone. -/
def Edit.drops : Edit → Bool
  | .remove _ => true
  | .clear => true
  | _ => false

namespace Body

/-- The identifier that an edit gives out. A refused edit gives none, nor does one that makes no
section. -/
def gives? (b : Body) (e : Edit) : Option SectionId :=
  match b.apply e with
  | .ok (_, change) => change.bind (·.given?)
  | .error _ => none

/-- What becomes of a document, with the identifiers that it was given on the way, oldest first.
Lives branch where a draft is saved: whatever happens to the document meanwhile, the one that the
draft restores has the past of the saved one. -/
inductive Life (start : Body) : Body → List SectionId → Prop where
  | begins : Life start start []
  | edited {b : Body} {given : List SectionId} (e : Edit) (known : Life start b given)
      (kept : e ≠ .clear) (room : e.numbers = true → b.HasRoom) :
      Life start (b.after e) (given ++ (b.gives? e).toList)
  | restored {b : Body} {given : List SectionId} (header : Header) (remoteId : Option String)
      (savedAt : Timestamp) (known : Life start b given) :
      Life start (Snapshot.capture header b remoteId savedAt).restored.body given

section

variable {start b : Body} {given : List SectionId} {e : Edit}

/-! ### The identifiers in use -/

/-- An edit leaves the identifiers in use, brings in the one that is next, or takes some out. -/
theorem ids_cases_of_apply {e : Edit} {after : Body} {change : Option Change}
    (accepted : b.apply e = .ok (after, change)) :
    after.ids.Perm b.ids ∨
    (e.drops = false ∧ after.ids.Perm (b.nextId :: b.ids) ∧ after.counter = b.nextId.number) ∨
    (e.drops = true ∧ after.ids ⊆ b.ids) := by
  have same (h : after.ids = b.ids) : after.ids.Perm b.ids := h ▸ .refl _
  have pushed (content : Content) :
      (b.push content).1.ids.Perm (b.nextId :: b.ids) ∧
        (b.push content).1.counter = b.nextId.number := by
    rw [ids_push]
    exact ⟨List.perm_append_singleton _ _, rfl⟩
  cases e with
  | add kind => cases accepted; exact .inr (.inl ⟨rfl, pushed _⟩)
  | addBlock layout => cases accepted; exact .inr (.inl ⟨rfl, pushed _⟩)
  | push content => cases accepted; exact .inr (.inl ⟨rfl, pushed _⟩)
  | update id patch =>
      obtain ⟨told, made, -⟩ := map_made_eq_ok_iff.mp accepted
      obtain ⟨pre, s, post, content, split, -, h⟩ := update_eq_ok_iff.mp made
      cases h
      exact .inl (same (by simp [ids, split.sections_eq]))
  | remove id =>
      obtain ⟨told, made, -⟩ := map_made_eq_ok_iff.mp accepted
      obtain ⟨pre, s, post, split, h⟩ := remove_eq_ok_iff.mp made
      cases h
      refine .inr (.inr ⟨rfl, fun known member => ?_⟩)
      rw [split.ids]
      simp only [ids, List.map_append, List.mem_append, List.mem_cons] at member ⊢
      exact member.imp_right .inr
  | move id stop =>
      obtain ⟨told, made, -⟩ := map_made_eq_ok_iff.mp accepted
      obtain ⟨pre, s, post, split, inside, h⟩ := move_eq_ok_iff.mp made
      cases h
      exact .inl ((moveItem_perm pre.length inside).map _)
  | duplicate id =>
      obtain ⟨told, made, -⟩ := map_made_eq_ok_iff.mp accepted
      obtain ⟨pre, s, post, split, h⟩ := duplicate_eq_ok_iff.mp made
      cases h
      refine .inr (.inl ⟨rfl, ?_, rfl⟩)
      have behind : (pre ++ s :: ⟨b.nextId, s.content.withoutPhotos⟩ :: post).Perm
          (⟨b.nextId, s.content.withoutPhotos⟩ :: b.sections) := by
        rw [split.sections_eq, List.append_cons pre s, List.append_cons pre s post]
        exact List.perm_middle
      exact behind.map _
  | attach list photo =>
      obtain ⟨photos, -, -, h⟩ := attach_eq_ok_iff.mp accepted
      split at h <;> cases h
      · exact .inl (same rfl)
      · exact .inl (same (ids_setPhotos _ _ _))
  | detach list photo =>
      obtain ⟨told, made, -⟩ := map_made_eq_ok_iff.mp accepted
      obtain ⟨_, _, _, h⟩ := detach_eq_ok_iff.mp made
      cases h
      exact .inl (same (ids_setPhotos _ _ _))
  | moveWithin list start stop =>
      obtain ⟨told, made, -⟩ := map_made_eq_ok_iff.mp accepted
      obtain ⟨_, _, _, _, h⟩ := moveWithin_eq_ok_iff.mp made
      cases h
      exact .inl (same (ids_setPhotos _ _ _))
  | moveAcross source index target =>
      obtain ⟨told, made, -⟩ := map_made_eq_ok_iff.mp accepted
      rcases moveAcross_eq_ok_iff.mp made with ⟨_, _, _, within⟩ | ⟨_, _, _, _, h⟩
      · obtain ⟨_, _, _, _, h⟩ := moveWithin_eq_ok_iff.mp within
        cases h
        exact .inl (same (ids_setPhotos _ _ _))
      · cases h
        refine .inl (same ?_)
        split <;> simp
  | resolve resolution => cases accepted; exact .inl (same (b.ids_resolve resolution))
  | clear =>
      cases accepted
      exact .inr (.inr ⟨rfl, fun known absent => by cases absent⟩)

/-! ### The count -/

theorem counter_after_of_kept (kept : e ≠ .clear) :
    (b.gives? e = none ∧ (b.after e).counter = b.counter) ∨
    (e.numbers = true ∧ b.gives? e = some b.nextId ∧
      (b.after e).counter = b.nextId.number) := by
  unfold gives? after
  cases accepted : b.apply e with
  | error refused => exact .inl ⟨rfl, rfl⟩
  | ok made =>
      rcases numbering_of_apply accepted with one | none | ⟨clears, -⟩
      · exact .inr one
      · exact .inl none
      · exact absurd clears kept

theorem counter_le_after (kept : e ≠ .clear) (room : e.numbers = true → b.HasRoom) :
    b.counter ≤ (b.after e).counter := by
  rcases counter_after_of_kept (b := b) kept with ⟨-, same⟩ | ⟨numbers, -, next⟩
  · rw [same]
    exact UInt32.le_refl _
  · rw [next]
    exact UInt32.le_of_lt (counter_lt_nextId (room numbers))

/-- The count covers the count given and every section. -/
theorem le_counter_ofParts (sections : List Section) (counter : UInt32) :
    counter ≤ (ofParts sections counter).counter ∧
      ∀ s ∈ sections, s.id.number ≤ (ofParts sections counter).counter := by
  unfold ofParts
  simp only
  induction sections generalizing counter with
  | nil => exact ⟨UInt32.le_refl _, nofun⟩
  | cons s rest ih =>
      rw [List.foldl_cons]
      obtain ⟨grows, covers⟩ := ih (if counter < s.id.number then s.id.number else counter)
      -- The larger of the two goes on, and both are below it.
      have both : counter ≤ (if counter < s.id.number then s.id.number else counter) ∧
          s.id.number ≤ (if counter < s.id.number then s.id.number else counter) := by
        split
        · rename_i raised
          exact ⟨UInt32.le_of_lt raised, UInt32.le_refl _⟩
        · rename_i low
          exact ⟨UInt32.le_refl _, UInt32.not_lt.mp low⟩
      refine ⟨UInt32.le_trans both.1 grows, ?_⟩
      intro t member
      rcases List.mem_cons.mp member with rfl | later
      · exact UInt32.le_trans both.2 grows
      · exact covers t later

theorem counter_le_restored (header : Header) (b : Body) (remoteId : Option String)
    (savedAt : Timestamp) :
    b.counter ≤ (Snapshot.capture header b remoteId savedAt).restored.body.counter :=
  (le_counter_ofParts _ _).1

/-! ### The whole life -/

/-- The identifiers given out lie above the count at the start, rise, and do not pass the count. -/
structure Counted (start b : Body) (given : List SectionId) : Prop where
  grown : start.counter ≤ b.counter
  range : ∀ id ∈ given, start.counter < id.number ∧ id.number ≤ b.counter
  rising : given.Pairwise (·.number < ·.number)

namespace Counted

/-- A count that went on covers what was given out before. -/
theorem mono (h : Counted start b given) {after : Body} (grows : b.counter ≤ after.counter) :
    Counted start after given where
  grown := UInt32.le_trans h.grown grows
  range := by
    intro id member
    obtain ⟨above, covered⟩ := h.range id member
    exact ⟨above, UInt32.le_trans covered grows⟩
  rising := h.rising

theorem next (h : Counted start b given) (room : b.HasRoom) {after : Body}
    (counts : after.counter = b.nextId.number) : Counted start after (given ++ [b.nextId]) := by
  have beyond := counter_lt_nextId room
  have grows : b.counter ≤ after.counter := counts ▸ UInt32.le_of_lt beyond
  have older := h.mono grows
  refine ⟨older.grown, ?_, ?_⟩
  · intro id member
    rcases List.mem_append.mp member with old | new
    · exact older.range id old
    · obtain rfl := List.mem_singleton.mp new
      exact ⟨UInt32.lt_of_le_of_lt h.grown beyond, by rw [counts]; exact UInt32.le_refl _⟩
  · refine List.pairwise_append.mpr ⟨h.rising, List.pairwise_singleton _ _, ?_⟩
    intro id old new member
    obtain rfl := List.mem_singleton.mp member
    exact UInt32.lt_of_le_of_lt (h.range id old).2 beyond

theorem after (h : Counted start b given) (kept : e ≠ .clear)
    (room : e.numbers = true → b.HasRoom) :
    Counted start (b.after e) (given ++ (b.gives? e).toList) := by
  have grows := counter_le_after kept room
  rcases counter_after_of_kept (b := b) kept with ⟨none, -⟩ | ⟨numbers, some, counts⟩
  · rw [none, Option.toList_none, List.append_nil]
    exact h.mono grows
  · rw [some, Option.toList_some]
    exact h.next (room numbers) counts

end Counted

theorem Life.counted (life : Life start b given) : Counted start b given := by
  induction life with
  | begins => exact ⟨UInt32.le_refl _, nofun, .nil⟩
  | edited e known kept room ih => exact ih.after kept room
  | restored header remoteId savedAt known ih => exact ih.mono (counter_le_restored ..)

end

/-- Every identifier is larger than all that the document was given before it, those of removed
sections included, and than all that it began with. -/
theorem given_ids_increase {sections : List Section} {counter : UInt32} {b : Body}
    {given : List SectionId} (life : Life (ofParts sections counter) b given) :
    given.Pairwise (·.number < ·.number) ∧
    ∀ id ∈ given, counter < id.number ∧ (∀ s ∈ sections, s.id.number < id.number) ∧
      id.number ≤ b.counter := by
  obtain ⟨-, range, rising⟩ := life.counted
  obtain ⟨raised, covers⟩ := le_counter_ofParts sections counter
  refine ⟨rising, ?_⟩
  intro id member
  obtain ⟨above, covered⟩ := range id member
  exact ⟨UInt32.lt_of_le_of_lt raised above,
    fun s known => UInt32.lt_of_le_of_lt (covers s known) above, covered⟩

/-- A copy is removed, the document saved and restored, and the last identifier of all given out.
The count that the document began with was behind its only section. -/
theorem removed_id_not_given_again :
    let top : SectionId := ⟨4294967292⟩
    let start := ofParts [⟨top, .fresh .comment⟩] 7
    let midnight : Timestamp := ⟨⟨2024, 2, 29, by decide, by decide, by decide⟩,
      ⟨0, 0, 0, 0, by decide, by decide, by decide, by decide⟩⟩
    let copied := (start.after (.add .workDescription)).after (.duplicate top)
    let removed := copied.after (.remove ⟨4294967294⟩)
    let b := (Snapshot.capture {} removed none midnight).restored.body.after (.addBlock .completed)
    let given : List SectionId := [⟨4294967293⟩, ⟨4294967294⟩, ⟨4294967295⟩]
    removed.ids = [top, ⟨4294967293⟩] ∧ b.ids = [top, ⟨4294967293⟩, ⟨4294967295⟩] ∧
    Life start b given ∧ given.Pairwise (·.number < ·.number) := by
  intro top start midnight copied removed b given
  have added : Life start (start.after (.add .workDescription)) [⟨4294967293⟩] :=
    .edited (.add .workDescription) .begins nofun fun _ => by decide
  have doubled : Life start copied [⟨4294967293⟩, ⟨4294967294⟩] :=
    .edited (.duplicate top) added nofun fun _ => by decide
  have taken : Life start removed [⟨4294967293⟩, ⟨4294967294⟩] :=
    .edited (.remove ⟨4294967294⟩) doubled nofun nofun
  have life : Life start b given :=
    .edited (.addBlock .completed) (taken.restored {} none midnight) nofun fun _ => by decide
  exact ⟨by decide, by decide, life, (given_ids_increase life).1⟩

end Body

end SiteReport
