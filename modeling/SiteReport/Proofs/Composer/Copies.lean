import SiteReport.Proofs.Composer.Beside
import SiteReport.Proofs.Composer.OfferedDraft

/-!
Copies of several sections at once. What is copied is listed before the first copy is made, and every
copy moves the sections behind it; but it is put behind its source and has an identifier of its own.
So each selected section gets its copy, as long as its identifier stands for it alone. A copy is put
behind the first section with an identifier, so one that has it too is passed over.
-/

namespace SiteReport

/-! ### The count of a reachable document -/

/-- The count covers the identifiers in use. -/
def Body.Covered (b : Body) : Prop := ∀ id ∈ b.ids, id.number ≤ b.counter

namespace Body

variable {b : Body}

namespace Covered

theorem after (h : b.Covered) {e : Edit} (room : e.numbers = true → b.HasRoom) :
    (b.after e).Covered := by
  intro id member
  by_cases clears : e = .clear
  · subst clears
    cases member
  · have grows := counter_le_after clears room
    unfold Body.after at member grows ⊢
    cases accepted : b.apply e with
    | error refused =>
        rw [accepted] at member
        exact h id member
    | ok made =>
        rw [accepted] at member grows
        have old (there : id ∈ b.ids) := UInt32.le_trans (h id there) grows
        rcases ids_cases_of_apply accepted with same | ⟨-, grown, counts⟩ | ⟨-, less⟩
        · exact old (same.subset member)
        · rcases List.mem_cons.mp (grown.subset member) with rfl | there
          · rw [counts]
            exact UInt32.le_refl _
          · exact old there
        · exact old (less member)

/-- A run of edits, as long as there are identifiers for those that give one out. -/
theorem run (h : b.Covered) {edits : List Edit}
    (room : b.counter.toNat + edits.countP (·.numbers) < 4294967296) : (b.run edits).Covered :=
  run_keeps (fun _ _ _ covered free => covered.after free) h room

end Covered

end Body

namespace Composer

variable {c : Composer}

theorem perform_covered (h : c.body.Covered) {command : Command}
    (room : c.body.counter.toNat + c.given command < 4294967296) (clock : Clock) :
    (c.perform clock command).2.body.Covered := by
  cases replaces : command.replaces with
  | false =>
      rw [body_perform replaces]
      exact h.run (Nat.lt_of_le_of_lt (Nat.add_le_add_left (c.countP_editsOf_le command) _) room)
  | true =>
      cases command with
      | restore draft => exact draft.restored_covered
      | discardDocument =>
          have emptied : (c.perform clock .discardDocument).2.body = {} := body_declineDraft _
          rw [emptied]
          exact fun _ member => by cases member
      | _ => cases replaces

/-- There are identifiers for all that a session gives out. -/
def Roomy : Composer → List (Moment × Command) → Prop
  | _, [] => True
  | c, (m, command) :: rest =>
    c.body.counter.toNat + c.given command < 4294967296 ∧ Roomy (c.performAt m command) rest

/-- Whatever drafts are taken up in the session. -/
theorem playAt_covered (h : c.body.Covered) {session : List (Moment × Command)}
    (roomy : c.Roomy session) : (c.playAt session).body.Covered := by
  induction session generalizing c with
  | nil => exact h
  | cons e rest ih =>
      obtain ⟨m, command⟩ := e
      obtain ⟨room, roomy⟩ := roomy
      have given : (c.under m.faults).given command = c.given command := by cases command <;> rfl
      exact ih (perform_covered (c := c.under m.faults) h (given ▸ room) m.clock) roomy

end Composer

/-! ### Copies among their sources -/

/-- Each picked section is followed by a copy without photos, and the copies have the given
identifiers in this order. -/
inductive Copied (picked : List SectionId) : List Section → List SectionId → List Section → Prop
  | nil : Copied picked [] [] []
  | copied {s : Section} {rest after : List Section} {given : List SectionId} (copy : SectionId)
      (selected : s.id ∈ picked) (others : Copied picked rest given after) :
      Copied picked (s :: rest) (copy :: given) (s :: ⟨copy, s.content.withoutPhotos⟩ :: after)
  | kept {s : Section} {rest after : List Section} {given : List SectionId}
      (unselected : s.id ∉ picked) (others : Copied picked rest given after) :
      Copied picked (s :: rest) given (s :: after)

namespace Copied

variable {picked given : List SectionId} {sections after : List Section}

/-- A selected section stands in front of a copy. -/
theorem followed (h : Copied picked sections given after) {front back : List Section} {s : Section}
    (cut : after = front ++ s :: back) (old : s.id ∉ given) (selected : s.id ∈ picked) :
    ∃ t ∈ back.head?, t.id ∈ given := by
  induction h generalizing front with
  | nil => exact absurd cut (by simp)
  | copied copy _ others ih =>
      match front with
      | [] =>
          cases cut
          exact ⟨_, rfl, List.mem_cons_self⟩
      | [_] =>
          cases cut
          exact absurd List.mem_cons_self old
      | _ :: _ :: front =>
          cases cut
          obtain ⟨t, next, new⟩ := ih rfl fun there => old (List.mem_cons_of_mem copy there)
          exact ⟨t, next, List.mem_cons_of_mem copy new⟩
  | kept unselected others ih =>
      match front with
      | [] =>
          cases cut
          exact absurd selected unselected
      | _ :: front =>
          cases cut
          exact ih rfl old

end Copied

/-! ### A section that is passed over -/

/-- A section with an identifier stands behind another one that has it, and not in front of a copy. -/
def Body.Unfollowed (b : Body) (known : List SectionId) (id : SectionId) : Prop :=
  ∃ front s back, b.sections = front ++ s :: back ∧ s.id = id ∧ id ∈ front.map (·.id) ∧
    ∀ t ∈ back.head?, t.id ∈ known

namespace Body

variable {b : Body} {id : SectionId}

theorem unfollowed_of_twice (twice : 1 < b.ids.count id) : b.Unfollowed b.ids id := by
  obtain ⟨pre, s, post, split⟩ := exists_split_of_mem_ids
    (List.count_pos_iff.mp (Nat.lt_of_succ_lt twice))
  have before : (pre.map (·.id)).count id = 0 :=
    List.count_eq_zero.mpr fun member => by
      obtain ⟨t, ht, same⟩ := List.mem_map.mp member
      exact split.pre_ne t ht same
  rw [split.ids, List.count_append, before, List.count_cons_self] at twice
  obtain ⟨t, ht, same⟩ := List.mem_map.mp
    (List.count_pos_iff.mp (by omega : 0 < (post.map (·.id)).count id))
  obtain ⟨between, back, rfl⟩ := List.append_of_mem ht
  refine ⟨pre ++ s :: between, t, back, by simp [split.sections_eq], same, ?_, ?_⟩
  · exact List.mem_map.mpr ⟨s, by simp, split.id_eq⟩
  · intro u next
    refine List.mem_map.mpr ⟨u, ?_, rfl⟩
    rw [split.sections_eq]
    simp [List.mem_of_mem_head? next]

/-- It stays so when a copy is put behind the first section with some identifier. -/
theorem Unfollowed.copy {known : List SectionId} (h : b.Unfollowed known id) {other : SectionId}
    {pre post : List Section} {s : Section} (split : b.Split other pre s post) (copy : Section)
    (counter : UInt32) : Unfollowed ⟨pre ++ s :: copy :: post, counter⟩ known id := by
  obtain ⟨front, t, back, cut, same, double, next⟩ := h
  rcases List.append_eq_append_iff.mp (split.sections_eq.symm.trans cut) with
    ⟨between, rfl, rest⟩ | ⟨between, rfl, rest⟩
  · cases between with
    | nil =>
        -- the section is the first one with its identifier, and there is one in front of it
        cases rest
        rw [List.append_nil] at double
        obtain ⟨u, hu, same'⟩ := List.mem_map.mp double
        exact absurd (same'.trans (same.symm.trans split.id_eq)) (split.pre_ne u hu)
    | cons first between =>
        cases rest
        refine ⟨pre ++ s :: copy :: between, t, back, by simp, same, ?_, next⟩
        simp only [List.map_append, List.map_cons, List.mem_append, List.mem_cons] at double ⊢
        exact double.imp_right fun here => here.imp_right .inr
  · cases between with
    | nil =>
        cases rest
        obtain ⟨u, hu, same'⟩ := List.mem_map.mp double
        exact absurd (same'.trans (same.symm.trans split.id_eq))
          (split.pre_ne u (by rwa [List.append_nil]))
    | cons first between =>
        cases rest
        refine ⟨front, t, between ++ s :: copy :: post, by simp, same, double, fun u there => ?_⟩
        refine next u ?_
        cases between <;> exact there

end Body

/-! ### Partway through the sections -/

/-- The document while the selected ones of the sections behind some point are still to be copied. -/
structure Body.AwaitsCopies (b : Body) (picked : List SectionId) (front rest : List Section) :
    Prop where
  sections_eq : b.sections = front ++ rest
  apart : ∀ s ∈ rest, s.id ∈ picked → ∀ t ∈ front, t.id ≠ s.id
  distinct : ((rest.map (·.id)).filter (picked.contains ·)).Nodup
  covered : ∀ s ∈ rest, s.id.number ≤ b.counter

namespace Body.AwaitsCopies

variable {b : Body} {picked : List SectionId} {front rest : List Section} {s : Section}

theorem skip (h : b.AwaitsCopies picked front (s :: rest)) :
    b.AwaitsCopies picked (front ++ [s]) rest := by
  have distinct := h.distinct
  rw [List.map_cons] at distinct
  refine ⟨?_, ?_, distinct.sublist ((List.sublist_cons_self ..).filter _),
    fun t ht => h.covered t (List.mem_cons_of_mem s ht)⟩
  · rw [h.sections_eq, List.append_assoc, List.singleton_append]
  · intro t ht selected u hu
    rcases List.mem_append.mp hu with before | last
    · exact h.apart t (List.mem_cons_of_mem s ht) selected u before
    · obtain rfl := List.mem_singleton.mp last
      intro same
      rw [List.filter_cons_of_pos (by simpa [same] using selected)] at distinct
      refine (List.nodup_cons.mp distinct).1 (List.mem_filter.mpr ⟨?_, by simpa [same] using selected⟩)
      exact List.mem_map.mpr ⟨t, ht, same.symm⟩

/-- Before the first copy is made. -/
theorem begins (covered : b.Covered) (once : ∀ id ∈ picked, b.ids.count id ≤ 1) :
    b.AwaitsCopies picked [] b.sections := by
  refine ⟨rfl, fun _ _ _ _ absent => absurd absent List.not_mem_nil, ?_,
    fun s member => covered s.id (List.mem_map_of_mem member)⟩
  refine List.nodup_iff_count_le_one.mpr fun id => ?_
  by_cases selected : id ∈ picked
  · exact Nat.le_trans (List.filter_sublist.count_le id) (once id selected)
  · rw [List.count_eq_zero.mpr (by simp [selected])]
    exact Nat.zero_le 1

theorem split (h : b.AwaitsCopies picked front (s :: rest)) (selected : s.id ∈ picked) :
    b.Split s.id front s rest :=
  ⟨h.sections_eq, rfl, h.apart s List.mem_cons_self selected⟩

theorem copy (h : b.AwaitsCopies picked front (s :: rest)) (room : b.HasRoom) :
    Body.AwaitsCopies
      ⟨front ++ s :: ⟨b.nextId, s.content.withoutPhotos⟩ :: rest, b.nextId.number⟩ picked
      (front ++ [s, ⟨b.nextId, s.content.withoutPhotos⟩]) rest := by
  have beyond := counter_lt_nextId room
  have next := h.skip
  refine ⟨by simp, ?_, next.distinct, fun t ht =>
    UInt32.le_trans (next.covered t ht) (UInt32.le_of_lt beyond)⟩
  intro t ht selected u hu
  have sides : u ∈ front ++ [s] ∨ u = ⟨b.nextId, s.content.withoutPhotos⟩ := by
    simpa [or_assoc] using hu
  rcases sides with old | rfl
  · exact next.apart t ht selected u old
  · intro same
    have counted := next.covered t ht
    rw [← same] at counted
    exact absurd counted (UInt32.not_le.mpr beyond)

end Body.AwaitsCopies

namespace Composer

variable {c : Composer} {picked : List SectionId}

theorem duplicateNext_split {r : List SectionId × Composer} {id : SectionId}
    {pre post : List Section} {s : Section} (split : r.2.body.Split id pre s post) (clock : Clock) :
    duplicateNext clock r id = (r.1 ++ [r.2.body.nextId], r.2.adopt clock
      (⟨pre ++ s :: ⟨r.2.body.nextId, s.content.withoutPhotos⟩ :: post, r.2.body.nextId.number⟩,
        .duplicated id r.2.body.nextId)) := by
  have accepted := Body.duplicate_eq_ok_iff.mpr ⟨pre, s, post, split, rfl⟩
  rw [duplicateNext, duplicateSection, accepted]
  rfl

/-- Whatever is listed to be copied: the copies are numbered on from the count, and the sections that
were there stay. -/
theorem foldl_duplicateNext_numbered (known picks : List SectionId) (clock : Clock)
    (asked : ∀ id ∈ picks, id ∈ known) (there : ∀ id ∈ known, id ∈ c.body.ids)
    (covered : ∀ id ∈ known, id.number ≤ c.body.counter)
    (room : c.body.counter.toNat + picks.length < 4294967296) (before : List SectionId) :
    ∃ given after, picks.foldl (duplicateNext clock) (before, c) = (before ++ given, after) ∧
      given.map (·.number.toNat) = List.range' (c.body.counter.toNat + 1) picks.length ∧
      after.body.counter.toNat = c.body.counter.toNat + given.length ∧
      after.selection = c.selection ∧
      after.body.sections.filter (·.id ∈ known) = c.body.sections.filter (·.id ∈ known) ∧
      ∀ id, c.body.Unfollowed known id → after.body.Unfollowed known id := by
  induction picks generalizing c before with
  | nil => exact ⟨[], c, by rw [List.append_nil]; rfl, rfl, rfl, rfl, rfl, fun _ double => double⟩
  | cons id rest ih =>
      rw [List.length_cons] at room
      obtain ⟨here, others⟩ := List.forall_mem_cons.mp asked
      obtain ⟨pre, s, post, split⟩ := Body.exists_split_of_mem_ids (there id here)
      have free : c.body.HasRoom := Body.hasRoom_iff.mpr (by omega)
      have beyond := Body.counter_lt_nextId free
      let copy : Section := ⟨c.body.nextId, s.content.withoutPhotos⟩
      let mid := c.adopt clock
        (⟨pre ++ s :: copy :: post, c.body.nextId.number⟩, .duplicated id c.body.nextId)
      have body : mid.body = ⟨pre ++ s :: copy :: post, c.body.nextId.number⟩ := c.body_adopt clock _
      have counts : mid.body.counter.toNat = c.body.counter.toNat + 1 := by
        rw [body]
        exact Body.toNat_nextId free
      have unknown : c.body.nextId ∉ known := fun member =>
        absurd (covered _ member) (UInt32.not_le.mpr beyond)
      have filtered : mid.body.sections.filter (·.id ∈ known) =
          c.body.sections.filter (·.id ∈ known) := by
        rw [body, split.sections_eq]
        simp [List.filter_cons, copy, unknown]
      have still : ∀ id ∈ known, id ∈ mid.body.ids := by
        intro id member
        have old := there id member
        rw [split.ids] at old
        simp only [body, Body.ids, List.map_append, List.map_cons, split.id_eq, List.mem_append,
          List.mem_cons] at old ⊢
        exact old.imp_right fun behind => behind.imp_right .inr
      have below : ∀ id ∈ known, id.number ≤ mid.body.counter := by
        intro id member
        rw [body]
        exact UInt32.le_trans (covered id member) (UInt32.le_of_lt beyond)
      obtain ⟨given, after, folded, numbers, counter, selection, sections, passed⟩ :=
        ih others still below (by omega) (before ++ [c.body.nextId])
      refine ⟨c.body.nextId :: given, after, ?_, ?_, ?_, ?_, sections.trans filtered, ?_⟩
      · rw [List.foldl_cons, duplicateNext_split split]
        exact folded.trans (by rw [List.append_assoc, List.singleton_append])
      · rw [List.map_cons, numbers, counts, List.length_cons, List.range'_succ,
          Body.toNat_nextId free]
      · rw [counter, counts, List.length_cons]
        omega
      · exact selection.trans (Beside.adopt c clock _).selection_eq
      · exact fun id double => passed id (body ▸ double.copy split copy _)

/-- If the selected identifiers stand once, the rest of the sections are copied, and what stands before
them stays. -/
theorem foldl_duplicateNext_copied {front rest : List Section} (clock : Clock)
    (awaits : c.body.AwaitsCopies picked front rest)
    (room : c.body.counter.toNat + ((rest.map (·.id)).filter (picked.contains ·)).length <
      4294967296) (before : List SectionId) :
    ∃ given copies after,
      ((rest.map (·.id)).filter (picked.contains ·)).foldl (duplicateNext clock) (before, c) =
        (before ++ given, after) ∧
      Copied picked rest given copies ∧ after.body.sections = front ++ copies := by
  induction rest generalizing c front before with
  | nil => exact ⟨[], [], c, by simp, .nil, awaits.sections_eq⟩
  | cons s rest ih =>
      by_cases selected : s.id ∈ picked
      · have chosen : ((s :: rest).map (·.id)).filter (picked.contains ·) =
            s.id :: (rest.map (·.id)).filter (picked.contains ·) := by
          rw [List.map_cons, List.filter_cons_of_pos (List.contains_iff_mem.mpr selected)]
        rw [chosen, List.length_cons] at room
        have free : c.body.HasRoom := Body.hasRoom_iff.mpr (by omega)
        let copy : Section := ⟨c.body.nextId, s.content.withoutPhotos⟩
        let mid := c.adopt clock
          (⟨front ++ s :: copy :: rest, c.body.nextId.number⟩, .duplicated s.id c.body.nextId)
        have body : mid.body = ⟨front ++ s :: copy :: rest, c.body.nextId.number⟩ :=
          c.body_adopt clock _
        have counts : mid.body.counter.toNat = c.body.counter.toNat + 1 := by
          rw [body]
          exact Body.toNat_nextId free
        have next : mid.body.AwaitsCopies picked (front ++ [s, copy]) rest := body ▸ awaits.copy free
        obtain ⟨given, copies, after, folded, copied, sections⟩ :=
          ih next (by omega) (before ++ [c.body.nextId])
        refine ⟨c.body.nextId :: given, s :: copy :: copies, after, ?_, .copied _ selected copied, ?_⟩
        · rw [chosen, List.foldl_cons, duplicateNext_split (awaits.split selected)]
          exact folded.trans (by rw [List.append_assoc, List.singleton_append])
        · rw [sections, List.append_assoc, List.cons_append, List.singleton_append]
      · have chosen : ((s :: rest).map (·.id)).filter (picked.contains ·) =
            (rest.map (·.id)).filter (picked.contains ·) := by
          rw [List.map_cons, List.filter_cons_of_neg (by simpa using selected)]
        rw [chosen] at room ⊢
        obtain ⟨given, copies, after, folded, copied, sections⟩ := ih awaits.skip room before
        refine ⟨given, s :: copies, after, folded, .kept selected copied, ?_⟩
        rw [sections, List.append_assoc, List.singleton_append]

/-- Whatever is selected after a session in which the identifiers do not run out: the copies are
numbered on from the count, in the order in which they are told, and the sections and the selection
are as they were. Right behind each selected section stands a copy of it, with its content but its
photos, exactly if the selected identifiers do not stand twice, as they do in no composer that alone
writes its slot. -/
theorem copies_follow_selected_iff (stock : Stock) (settings : EditSettings)
    {session : List (Moment × Command)} (roomy : (Composer.new stock settings).Roomy session)
    (picked : List SectionId) (clock : Clock) :
    let c := (Composer.new stock settings).playAt session
    let r := { c with selection := picked }.duplicateSelected clock
    c.body.counter.toNat + (c.body.ids.filter (picked.contains ·)).length < 4294967296 →
      r.1.map (·.number.toNat) = List.range' (c.body.counter.toNat + 1)
        (c.body.ids.filter (picked.contains ·)).length ∧
      r.2.body.counter.toNat = c.body.counter.toNat + r.1.length ∧
      r.2.body.sections.filter (·.id ∈ c.body.ids) = c.body.sections ∧
      r.2.selection = picked ∧
      (Copied picked c.body.sections r.1 r.2.body.sections ↔
        ∀ id ∈ picked, c.body.ids.count id ≤ 1) ∧
      ∀ offers, OwnsSlot c offers → Copied picked c.body.sections r.1 r.2.body.sections := by
  intro c r room
  have covered : c.body.Covered := playAt_covered (fun _ member => by cases member) roomy
  obtain ⟨given, after, folded, numbers, counter, selection, sections, passed⟩ :=
    foldl_duplicateNext_numbered (c := { c with selection := picked }) c.body.ids
      (c.body.ids.filter (picked.contains ·)) clock
      (fun id member => (List.mem_filter.mp member).1) (fun _ => id) covered room []
  have made : r = (given, after) := folded
  have numbers : given.map (·.number.toNat) = List.range' (c.body.counter.toNat + 1)
    (c.body.ids.filter (picked.contains ·)).length := numbers
  rw [made]
  have old : c.body.sections.filter (·.id ∈ c.body.ids) = c.body.sections :=
    List.filter_eq_self.mpr fun s member => decide_eq_true (List.mem_map_of_mem member)
  have fresh : ∀ id ∈ given, id ∉ c.body.ids := by
    intro id member known
    have counted := UInt32.le_iff_toNat_le.mp (covered id known)
    have above : id.number.toNat ∈ given.map (·.number.toNat) := List.mem_map_of_mem member
    rw [numbers, List.mem_range'_1] at above
    omega
  have copied : (∀ id ∈ picked, c.body.ids.count id ≤ 1) →
      Copied picked c.body.sections given after.body.sections := by
    intro once
    obtain ⟨given', copies, after', folded', copied, same⟩ :=
      foldl_duplicateNext_copied (c := { c with selection := picked }) clock
        (.begins covered once) room []
    cases folded.symm.trans folded'
    exact same ▸ copied
  refine ⟨numbers, counter, sections.trans old, selection, ⟨fun holds id selected => ?_, copied⟩, ?_⟩
  · by_contra twice
    obtain ⟨front, s, back, cut, same, -, next⟩ :=
      passed id (Body.unfollowed_of_twice (b := c.body) (by omega))
    have here : s.id ∈ c.body.ids := by
      rw [same]
      exact List.count_pos_iff.mp (by omega)
    obtain ⟨t, there, new⟩ :=
      holds.followed cut (fun new => fresh s.id new here) (same ▸ selected)
    exact fresh t.id new (next t there)
  · intro offers owns
    exact copied fun id _ => List.nodup_iff_count_le_one.mp owns.inOrder.body.ids_nodup id

namespace HandWritten

/-- A photo in a block, and a comment behind it. -/
def commenting : List (Moment × Command) :=
  [(moment, .addBlock .completed), (moment, .addSection .comment),
    (moment, .attachPhoto ⟨⟨1⟩, .completed⟩ (.resolved "u"))]

/-- Both sections are copied, the block without its photo. -/
theorem block_and_comment_copied :
    let c := (holding none).playAt commenting
    let made := { c with selection := [⟨2⟩, ⟨1⟩] }.duplicateSelected moment.clock
    (holding none).Roomy commenting ∧ made.1.map (·.number.toNat) = [3, 4] ∧
      Copied [⟨2⟩, ⟨1⟩] c.body.sections made.1 made.2.body.sections ∧
      made.2.body.sections =
        [⟨⟨1⟩, .photos (.completed [.resolved "u"])⟩, ⟨⟨3⟩, .photos (.completed [])⟩,
          ⟨⟨2⟩, .comment ""⟩, ⟨⟨4⟩, .comment ""⟩] := by
  intro c made
  have roomy : (holding none).Roomy commenting := ⟨by decide, by decide, by decide, trivial⟩
  obtain ⟨numbers, -, -, -, copied, -⟩ := copies_follow_selected_iff _ {} roomy
    [⟨2⟩, ⟨1⟩] moment.clock (by decide)
  exact ⟨roomy, numbers, copied.mpr (by decide), by decide⟩

/-- Both copies of a restored document are made of the first of two sections with one identifier. -/
theorem second_section_passed_over :
    let c := (holding none).playAt [(moment, .restore muddled)]
    let made := { c with selection := [⟨1⟩] }.duplicateSelected moment.clock
    c.body.ids = [⟨1⟩, ⟨1⟩] ∧ made.1 = [⟨2⟩, ⟨3⟩] ∧
      made.2.body.ids = [⟨1⟩, ⟨3⟩, ⟨2⟩, ⟨1⟩] ∧
      ¬ Copied [⟨1⟩] c.body.sections made.1 made.2.body.sections := by
  intro c made
  have ids : made.2.body.ids = [⟨1⟩, ⟨3⟩, ⟨2⟩, ⟨1⟩] := by decide
  refine ⟨by decide, by decide, ids, fun holds => ?_⟩
  have last : made.2.body.sections = made.2.body.sections.dropLast ++ [⟨⟨1⟩, .comment ""⟩] := by
    decide
  obtain ⟨t, there, -⟩ := holds.followed last (by decide) (by decide)
  cases there

end HandWritten

end Composer

end SiteReport
