import SiteReport.Proofs.Document.WellFormed

/-!
The documents that can come about: from the empty one by edits and finished drags, refused ones
included. A document stays well formed however long it is edited; only giving out an identifier
asks that one is left.
-/

namespace SiteReport

/-- The body after the command of a finished drag; a refused one leaves it alone. -/
def Reorder.after (r : Reorder) (b : Body) : Body :=
  match r.apply b with
  | .ok (b, _) => b
  | .error _ => b

theorem Reorder.after_eq (r : Reorder) (b : Body) : r.after b = b.after r.edit := by
  unfold Reorder.after Body.after
  rw [r.apply_edit]
  cases r.apply b <;> rfl

/-- The identifier that was given out for a new section. -/
def Change.given? : Change → Option SectionId
  | .added id _ => some id
  | .duplicated _ copy => some copy
  | _ => none

namespace Edit

/-- Content that is pushed comes without photos; they are attached afterwards. -/
def Plain : Edit → Prop
  | .push content => content.withoutPhotos = content
  | _ => True

/-- Does the edit give out an identifier when it is accepted? -/
def numbers : Edit → Bool
  | .add _ => true
  | .addBlock _ => true
  | .push _ => true
  | .duplicate _ => true
  | _ => false

end Edit

namespace Body

inductive Reachable : Body → Prop where
  | new : Reachable {}
  | edit {b : Body} (e : Edit) (known : Reachable b) (plain : e.Plain)
      (room : e.numbers = true → b.HasRoom) : Reachable (b.after e)
  | reorder {b : Body} (r : Reorder) (known : Reachable b) : Reachable (r.after b)

theorem WellFormed.apply {b after : Body} (h : b.WellFormed) {e : Edit} {change : Option Change}
    (accepted : b.apply e = .ok (after, change)) (plain : e.Plain)
    (room : e.numbers = true → b.HasRoom) : after.WellFormed := by
  have told {answer : Except EditError (Body × Change)} (kept : ∀ {r}, answer = .ok r →
      r.1.WellFormed) (answered : answer.map made = .ok (after, change)) : after.WellFormed := by
    obtain ⟨_, made, -⟩ := map_made_eq_ok_iff.mp answered
    exact kept made
  cases e with
  | add kind =>
      cases accepted
      exact h.push (room rfl) (by cases kind <;> rfl)
  | addBlock layout =>
      cases accepted
      exact h.push (room rfl) (by cases layout <;> rfl)
  | push content =>
      cases accepted
      exact h.push (room rfl) plain
  | remove id => exact told h.remove accepted
  | update id patch => exact told h.update accepted
  | move id stop => exact told h.move accepted
  | duplicate id => exact told (h.duplicate (room rfl)) accepted
  | attach list photo => exact h.attach accepted
  | detach list photo => exact told h.detach accepted
  | moveWithin list start stop => exact told h.moveWithin accepted
  | moveAcross source index target => exact told h.moveAcross accepted
  | resolve resolution =>
      cases accepted
      exact h.resolve resolution
  | clear =>
      cases accepted
      exact .empty

/-- One edit, accepted or refused. -/
theorem WellFormed.after {b : Body} (h : b.WellFormed) {e : Edit} (plain : e.Plain)
    (room : e.numbers = true → b.HasRoom) : (b.after e).WellFormed := by
  unfold Body.after
  split
  · rename_i accepted
    exact h.apply accepted plain room
  · exact h

/-! ### Many edits -/

/-- What an accepted edit does to the count: it gives out the next identifier and counts it, or it
gives none out and keeps the count, or it clears the document and starts anew. -/
theorem numbering_of_apply {b after : Body} {e : Edit} {change : Option Change}
    (accepted : b.apply e = .ok (after, change)) :
    (e.numbers = true ∧ change.bind (·.given?) = some b.nextId ∧
      after.counter = b.nextId.number) ∨
    (change.bind (·.given?) = none ∧ after.counter = b.counter) ∨
    (e = .clear ∧ after.counter = 0) := by
  cases e with
  | add kind => cases accepted; exact .inl ⟨rfl, rfl, rfl⟩
  | addBlock layout => cases accepted; exact .inl ⟨rfl, rfl, rfl⟩
  | push content => cases accepted; exact .inl ⟨rfl, rfl, rfl⟩
  | remove id =>
      obtain ⟨told, made, rfl⟩ := map_made_eq_ok_iff.mp accepted
      obtain ⟨_, _, _, _, h⟩ := remove_eq_ok_iff.mp made
      cases h
      exact .inr (.inl ⟨rfl, rfl⟩)
  | update id patch =>
      obtain ⟨told, made, rfl⟩ := map_made_eq_ok_iff.mp accepted
      obtain ⟨_, _, _, _, _, _, h⟩ := update_eq_ok_iff.mp made
      cases h
      exact .inr (.inl ⟨rfl, rfl⟩)
  | move id stop =>
      obtain ⟨told, made, rfl⟩ := map_made_eq_ok_iff.mp accepted
      obtain ⟨_, _, _, _, _, h⟩ := move_eq_ok_iff.mp made
      cases h
      exact .inr (.inl ⟨rfl, rfl⟩)
  | duplicate id =>
      obtain ⟨told, made, rfl⟩ := map_made_eq_ok_iff.mp accepted
      obtain ⟨_, _, _, _, h⟩ := duplicate_eq_ok_iff.mp made
      cases h
      exact .inl ⟨rfl, rfl, rfl⟩
  | attach list photo =>
      obtain ⟨photos, _, _, h⟩ := attach_eq_ok_iff.mp accepted
      right; left
      split at h <;> cases h
      · exact ⟨rfl, rfl⟩
      · exact ⟨rfl, counter_setPhotos _ _ _⟩
  | detach list photo =>
      obtain ⟨told, made, rfl⟩ := map_made_eq_ok_iff.mp accepted
      obtain ⟨_, _, _, h⟩ := detach_eq_ok_iff.mp made
      cases h
      exact .inr (.inl ⟨rfl, counter_setPhotos _ _ _⟩)
  | moveWithin list start stop =>
      obtain ⟨told, made, rfl⟩ := map_made_eq_ok_iff.mp accepted
      obtain ⟨_, _, _, _, h⟩ := moveWithin_eq_ok_iff.mp made
      cases h
      exact .inr (.inl ⟨rfl, counter_setPhotos _ _ _⟩)
  | moveAcross source index target =>
      obtain ⟨told, made, rfl⟩ := map_made_eq_ok_iff.mp accepted
      right; left
      rcases moveAcross_eq_ok_iff.mp made with ⟨_, _, _, within⟩ | ⟨_, _, _, _, h⟩
      · obtain ⟨_, _, _, _, h⟩ := moveWithin_eq_ok_iff.mp within
        cases h
        exact ⟨rfl, counter_setPhotos _ _ _⟩
      · cases h
        refine ⟨rfl, ?_⟩
        split <;> simp
  | resolve resolution => cases accepted; exact .inr (.inl ⟨rfl, rfl⟩)
  | clear => cases accepted; exact .inr (.inr ⟨rfl, rfl⟩)

theorem counter_after_le (b : Body) (e : Edit) :
    (b.after e).counter.toNat ≤ b.counter.toNat + if e.numbers then 1 else 0 := by
  unfold Body.after
  split
  · rename_i accepted
    rcases numbering_of_apply accepted with ⟨numbers, -, next⟩ | ⟨-, same⟩ | ⟨-, zero⟩
    · rw [next, numbers, if_pos rfl, nextId, UInt32.toNat_add]
      exact Nat.mod_le _ _
    · rw [same]
      exact Nat.le_add_right _ _
    · rw [zero]
      exact Nat.zero_le _
  · exact Nat.le_add_right _ _

/-- What each edit keeps a run of edits keeps, as long as there are identifiers for those that give one
out. -/
theorem run_keeps {P : Body → Prop} {edits : List Edit}
    (each : ∀ b, ∀ e ∈ edits, P b → (e.numbers = true → b.HasRoom) → P (b.after e)) {b : Body}
    (start : P b) (room : b.counter.toNat + edits.countP (·.numbers) < 4294967296) :
    P (b.run edits) := by
  induction edits generalizing b with
  | nil => exact start
  | cons e rest ih =>
      rw [List.countP_cons] at room
      have one : e.numbers = true → b.HasRoom := by
        intro numbers
        rw [if_pos numbers] at room
        rw [hasRoom_iff]
        omega
      have grown := counter_after_le b e
      refine ih (fun b e' member => each b e' (List.mem_cons_of_mem _ member))
        (each b e List.mem_cons_self start one) ?_
      omega

theorem WellFormed.run {b : Body} (h : b.WellFormed) {edits : List Edit}
    (plain : ∀ e ∈ edits, e.Plain)
    (room : b.counter.toNat + edits.countP (·.numbers) < 4294967296) :
    (b.run edits).WellFormed :=
  run_keeps (fun _ e member sound free => sound.after (plain e member) free) h room

theorem Reachable.wellFormed {b : Body} (h : b.Reachable) : b.WellFormed := by
  induction h with
  | new => exact .empty
  | edit e known plain room ih => exact ih.after plain room
  | reorder r known ih =>
      rw [r.after_eq]
      refine ih.after ?_ ?_ <;> cases r <;> simp [Reorder.edit, Edit.Plain, Edit.numbers]

/-- After any run of edits: distinct identifiers from one up to the counter, lists without
repetitions, and one category for all the lists that hold a staged photo. -/
theorem reachable_ids_lists_categories {b : Body} (h : b.Reachable) :
    b.ids.Nodup ∧
    (∀ id ∈ b.ids, 1 ≤ id.number ∧ id.number ≤ b.counter) ∧
    (∀ list photos, (list, photos) ∈ b.lists → photos.Nodup) ∧
    (∀ photo list list' photos photos', (list, photos) ∈ b.lists → (list', photos') ∈ b.lists →
      .staged photo ∈ photos → .staged photo ∈ photos' → list.category = list'.category) := by
  have sound := h.wellFormed
  refine ⟨sound.ids_nodup, ?_, fun _ _ => sound.lists_nodup, fun _ _ _ _ _ => sound.one_category⟩
  intro id member
  obtain ⟨positive, bounded⟩ := sound.ids_range id member
  refine ⟨?_, bounded⟩
  rw [UInt32.lt_iff_toNat_lt] at positive
  rw [UInt32.le_iff_toNat_le]
  exact positive

/-- A photo that changes its category, a refused attachment under the old one, a copied block, and
two photos that come to one address. -/
theorem reassigned_photo_ids_lists_categories :
    let p : PhotoRef := .staged ⟨7, by decide⟩
    let q : PhotoRef := .staged ⟨8, by decide⟩
    let b := (Reorder.moveAcross ⟨⟨1⟩, .before⟩ 0 ⟨⟨1⟩, .after⟩).after
      ((({} : Body).after (.addBlock .beforeAfter)).after (.attach ⟨⟨1⟩, .before⟩ p))
    let c := (((b.after (.attach ⟨⟨1⟩, .before⟩ p)).after (.attach ⟨⟨1⟩, .after⟩ q)).after
      (.duplicate ⟨1⟩)).after (.resolve ⟨[(⟨7, by decide⟩, "u"), (⟨8, by decide⟩, "u")], []⟩)
    b.lists = [(⟨⟨1⟩, .before⟩, []), (⟨⟨1⟩, .after⟩, [p])] ∧
    c.lists = [(⟨⟨1⟩, .before⟩, []), (⟨⟨1⟩, .after⟩, [.resolved "u"]),
      (⟨⟨2⟩, .before⟩, []), (⟨⟨2⟩, .after⟩, [])] ∧
    c.ids.Nodup := by
  intro p q b c
  have moved : b.Reachable := .reorder _ <|
    .edit (.attach ⟨⟨1⟩, .before⟩ p)
      (.edit (.addBlock .beforeAfter) .new trivial fun _ => by decide) trivial nofun
  have refused := Reachable.edit (.attach ⟨⟨1⟩, .before⟩ p) moved trivial nofun
  have joined := Reachable.edit (.attach ⟨⟨1⟩, .after⟩ q) refused trivial nofun
  have copied := Reachable.edit (.duplicate ⟨1⟩) joined trivial fun _ => by decide
  have sent : c.Reachable := .edit (.resolve _) copied trivial nofun
  exact ⟨by decide, by decide, (reachable_ids_lists_categories sent).1⟩

end Body

end SiteReport
