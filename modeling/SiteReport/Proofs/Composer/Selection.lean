import SiteReport.Proofs.Composer.Beside
import SiteReport.Proofs.Composer.OfferedDraft

/-!
The selection and the sections that it names. Over any session only sections of the document are
selected, so that none is missed when the selected ones are removed. Each is removed where its
identifier stands first. This leaves the others and nothing more, if the selected identifiers stand
once, as they do unless a draft from other hands was taken up.
-/

namespace SiteReport

/-- Commands that remove sections one by one. -/
def Command.removes : Command → Bool
  | .removeSection _ => true
  | .removeSelected => true
  | _ => false

namespace Body

/-! ### Sections that stay -/

variable {b : Body}

theorem ids_subset_apply {e : Edit} {after : Body} {change : Option Change}
    (accepted : b.apply e = .ok (after, change)) (keeps : e.drops = false) :
    b.ids ⊆ after.ids := by
  rcases ids_cases_of_apply accepted with same | ⟨-, grown, -⟩ | ⟨drops, -⟩
  · exact same.symm.subset
  · exact List.Subset.trans (List.subset_cons_self _ _) grown.symm.subset
  · rw [keeps] at drops
    cases drops

theorem ids_subset_run {edits : List Edit} (keeps : ∀ e ∈ edits, e.drops = false) :
    b.ids ⊆ (b.run edits).ids := by
  induction edits generalizing b with
  | nil => exact List.Subset.refl _
  | cons e rest ih =>
      obtain ⟨here, others⟩ := List.forall_mem_cons.mp keeps
      have one : b.ids ⊆ (b.after e).ids := by
        unfold Body.after
        split
        · rename_i accepted
          exact ids_subset_apply accepted here
        · exact List.Subset.refl _
      exact List.Subset.trans one (ih others)

/-! ### Sections that go -/

/-- The sections that are left when each identifier takes away the first section that has it. -/
def without (sections : List Section) (picked : List SectionId) : List Section :=
  picked.foldl (fun left id => left.eraseP (·.id == id)) sections

variable {sections : List Section} {picked : List SectionId}

theorem without_sublist (sections : List Section) (picked : List SectionId) :
    (without sections picked).Sublist sections := by
  induction picked generalizing sections with
  | nil => exact .refl _
  | cons id rest ih => exact (ih _).trans List.eraseP_sublist

/-- An identifier stands there as often as before, less the times that it was picked. -/
theorem count_without (sections : List Section) (picked : List SectionId) (id : SectionId) :
    ((without sections picked).map (·.id)).count id =
      (sections.map (·.id)).count id - picked.count id := by
  induction picked generalizing sections with
  | nil => rfl
  | cons first rest ih =>
      have one : (sections.eraseP (·.id == first)).map (·.id) =
          (sections.map (·.id)).erase first := by
        rw [List.erase_eq_eraseP', List.eraseP_map]
        rfl
      refine (ih _).trans ?_
      rw [one, List.count_erase, List.count_cons, Nat.sub_sub, Nat.add_comm]

theorem filter_eraseP {α : Type} {p q : α → Bool} (apart : ∀ a, p a = true → q a = false)
    (items : List α) : (items.eraseP p).filter q = items.filter q := by
  induction items with
  | nil => rfl
  | cons a rest ih =>
      cases erased : p a with
      | true =>
          rw [List.eraseP_cons_of_pos erased, List.filter_cons_of_neg (by simp [apart a erased])]
      | false =>
          rw [List.eraseP_cons_of_neg (by simp [erased]), List.filter_cons, List.filter_cons, ih]

/-- Sections that are not picked stay in their order. -/
theorem filter_without (sections : List Section) {picked kept : List SectionId}
    (covers : ∀ id ∈ picked, id ∈ kept) :
    (without sections picked).filter (·.id ∉ kept) = sections.filter (·.id ∉ kept) := by
  induction picked generalizing sections with
  | nil => rfl
  | cons id rest ih =>
      obtain ⟨here, others⟩ := List.forall_mem_cons.mp covers
      refine (ih _ others).trans (filter_eraseP (fun s same => ?_) sections)
      simpa [eq_of_beq same] using here

/-- Nothing but the sections that were not picked is left, exactly if the picked identifiers stand
once. -/
theorem without_eq_filter_iff (known : ∀ id ∈ picked, id ∈ sections.map (·.id))
    (distinct : picked.Nodup) :
    without sections picked = sections.filter (·.id ∉ picked) ↔
      ∀ id ∈ picked, (sections.map (·.id)).count id = 1 := by
  have left (id : SectionId) (member : id ∈ picked) :
      ((without sections picked).map (·.id)).count id = (sections.map (·.id)).count id - 1 := by
    rw [count_without, List.count_eq_one_of_mem distinct member]
  rw [← filter_without sections fun _ => id]
  constructor
  · intro gone id member
    have absent : id ∉ (without sections picked).map (·.id) := by
      rw [gone]
      intro there
      obtain ⟨s, shown, rfl⟩ := List.mem_map.mp there
      exact absurd member (by simpa using (List.mem_filter.mp shown).2)
    have present := List.count_pos_iff.mpr (known id member)
    have none := left id member
    rw [List.count_eq_zero.mpr absent] at none
    omega
  · intro once
    refine (List.filter_eq_self.mpr fun s shown => ?_).symm
    have unpicked : s.id ∉ picked := by
      intro member
      have none := left s.id member
      rw [once s.id member] at none
      exact List.count_eq_zero.mp none (List.mem_map_of_mem shown)
    simpa using unpicked

end Body

/-! ### What is selected -/

theorem Composer.mem_insertId {id x : SectionId} {ids : List SectionId} :
    x ∈ insertId id ids ↔ x = id ∨ x ∈ ids := by
  induction ids with
  | nil => simp [insertId]
  | cons first rest ih =>
      unfold insertId
      split
      · exact List.mem_cons
      · rw [List.mem_cons, ih, List.mem_cons, or_left_comm]

theorem Composer.pairwise_insertId {id : SectionId} {ids : List SectionId}
    (ascending : ids.Pairwise (·.number < ·.number)) (new : id ∉ ids) :
    (insertId id ids).Pairwise (·.number < ·.number) := by
  induction ids with
  | nil => exact List.pairwise_singleton _ id
  | cons first rest ih =>
      obtain ⟨least, others⟩ := List.pairwise_cons.mp ascending
      obtain ⟨differs, newer⟩ := List.ne_and_not_mem_of_not_mem_cons new
      unfold insertId
      split
      · rename_i before
        refine List.pairwise_cons.mpr ⟨fun x member => ?_, ascending⟩
        rcases List.mem_cons.mp member with rfl | later
        · exact before
        · exact UInt32.lt_trans before (least x later)
      · rename_i behind
        have beyond : first.number < id.number := by
          refine UInt32.lt_of_le_of_ne (UInt32.not_lt.mp behind) fun same => differs ?_
          exact congrArg SectionId.mk same.symm
        refine List.pairwise_cons.mpr ⟨fun x member => ?_, ih others newer⟩
        rcases mem_insertId.mp member with rfl | later
        · exact beyond
        · exact least x later

namespace Composer

variable {c after : Composer} {clock : Clock} {command : Command}

/-- Only sections of the document are selected, each of them once and in the order of their
identifiers. -/
structure Selects (c : Composer) : Prop where
  known : ∀ id ∈ c.selection, id ∈ c.body.ids
  ascending : c.selection.Pairwise (·.number < ·.number)

namespace Selects

theorem distinct (h : c.Selects) : c.selection.Nodup :=
  h.ascending.imp fun before same => absurd (same ▸ before) (UInt32.lt_irrefl _)

theorem of_nil (none : c.selection = []) : c.Selects := by
  constructor <;> rw [none]
  · nofun
  · exact .nil

/-- The same selection is one of a document that has the sections still. -/
theorem of_subset (h : c.Selects) (selection : after.selection = c.selection)
    (kept : c.body.ids ⊆ after.body.ids) : after.Selects :=
  ⟨selection ▸ fun id member => kept (h.known id member), selection ▸ h.ascending⟩

theorem picked (h : c.Selects) {id : SectionId} (known : id ∈ c.body.ids)
    (new : id ∉ c.selection) : { c with selection := insertId id c.selection }.Selects := by
  refine ⟨fun x member => ?_, pairwise_insertId h.ascending new⟩
  rcases mem_insertId.mp member with rfl | old
  · exact known
  · exact h.known x old

end Selects

theorem selection_deselect (c : Composer) (id : SectionId) :
    (c.deselect id).selection = c.selection.filter (· != id) := by
  unfold deselect
  split
  · rfl
  · rename_i absent
    refine (List.filter_eq_self.mpr fun x member => ?_).symm
    rw [bne_iff_ne]
    rintro rfl
    exact absent (List.contains_iff_mem.mpr member)

theorem Selects.deselect (h : c.Selects) (id : SectionId) : (c.deselect id).Selects := by
  constructor
  · rw [selection_deselect, body_deselect]
    exact fun x member => h.known x (List.mem_of_mem_filter member)
  · rw [selection_deselect]
    exact h.ascending.filter _

/-! ### One command -/

theorem editsOf_keep (kept : command.removes = false) :
    ∀ e ∈ c.editsOf command, e.drops = false := by
  intro e member
  cases command with
  | pointer event =>
      cases event with
      | up now =>
          obtain ⟨command, -, rfl⟩ := List.mem_map.mp member
          cases command <;> rfl
      | _ => cases member
  | duplicateSelected =>
      obtain ⟨id, -, rfl⟩ := List.mem_map.mp member
      rfl
  | capturePhoto list file =>
      obtain ⟨taken, -, rfl⟩ := List.mem_map.mp member
      rfl
  | removeSection id => cases kept
  | removeSelected => cases kept
  | addSection kind => rw [List.mem_singleton.mp member]; rfl
  | addBlock layout => rw [List.mem_singleton.mp member]; rfl
  | updateSection id patch => rw [List.mem_singleton.mp member]; rfl
  | moveSection id stop => rw [List.mem_singleton.mp member]; rfl
  | duplicateSection id => rw [List.mem_singleton.mp member]; rfl
  | attachPhoto list photo => rw [List.mem_singleton.mp member]; rfl
  | removePhoto list photo => rw [List.mem_singleton.mp member]; rfl
  | moveWithin list start stop => rw [List.mem_singleton.mp member]; rfl
  | moveAcross source index target => rw [List.mem_singleton.mp member]; rfl
  | _ =>
      obtain ⟨report, -, rfl⟩ := List.mem_map.mp member
      rfl

/-- A command that neither replaces the document nor removes sections leaves them all there. -/
theorem ids_subset_perform (document : command.replaces = false) (kept : command.removes = false)
    (c : Composer) (clock : Clock) : c.body.ids ⊆ (c.perform clock command).2.body.ids := by
  rw [body_perform document]
  exact Body.ids_subset_run (editsOf_keep kept)

theorem selection_applySubmit (c : Composer) (clock : Clock) (outcome : SubmitOutcome) :
    (c.applySubmit clock outcome).2.selection = c.selection := by
  have settled (d : Composer) (revision : Nat) :
      (d.settleDraft clock revision).selection = d.selection := by
    obtain ⟨store, autosave, revision', published, same, -⟩ := d.settleDraft_spec clock revision
    rw [same]
  unfold applySubmit
  split
  · rfl
  · split
    · rfl
    · simp only
      split <;> exact settled _ _

theorem selection_setHeader (c : Composer) (clock : Clock) (header : Header) :
    (c.setHeader clock header).selection = c.selection := by
  unfold setHeader
  split <;> rfl

/-- The section that is removed is taken out of the selection. -/
theorem Selects.removed (h : c.Selects) {id : SectionId} {r : Body × Change}
    (accepted : c.body.remove id = .ok r) : ((c.deselect id).adopt clock r).Selects := by
  obtain ⟨pre, s, post, split, rfl⟩ := Body.remove_eq_ok_iff.mp accepted
  have without := h.deselect id
  constructor
  · intro x member
    rw [(Beside.adopt _ clock _).selection_eq] at member
    have other : x ≠ id := by
      rw [selection_deselect] at member
      simpa using (List.mem_filter.mp member).2
    have there := without.known x member
    rw [body_deselect, split.ids, List.mem_append, List.mem_cons, or_iff_right other] at there
    rw [body_adopt, Body.ids, List.map_append, List.mem_append]
    exact there
  · rw [(Beside.adopt _ clock _).selection_eq]
    exact without.ascending

/-- One command. -/
theorem perform_selects (h : c.Selects) (clock : Clock) (command : Command) :
    (c.perform clock command).2.Selects := by
  cases within : command.isWithin with
  | true =>
      have document : command.replaces = false ∧ command.removes = false := by
        cases command <;> first | exact ⟨rfl, rfl⟩ | cases within
      exact h.of_subset (perform_beside within c clock).selection_eq
        (ids_subset_perform document.1 document.2 c clock)
  | false =>
      cases command with
      | setHeader header =>
          exact h.of_subset (c.selection_setHeader clock header) (ids_subset_perform rfl rfl c clock)
      | setRemoteId id => exact ⟨h.known, h.ascending⟩
      | applyStore entry =>
          exact h.of_subset (c.selection_setHeader clock _) (ids_subset_perform rfl rfl c clock)
      | removeSection id =>
          simp only [perform, removeSection]
          cases removed : c.body.remove id with
          | error e => exact h
          | ok r => exact h.removed removed
      | toggleSelected id =>
          simp only [perform, toggleSelected]
          split
          · exact h
          · rename_i known
            split
            · exact h.deselect id
            · rename_i new
              obtain ⟨pre, s, post, split, -⟩ := Body.exists_split_of_indexOf? known
              have there : id ∈ c.body.ids := split.id_eq ▸ List.mem_map_of_mem split.mem
              have picked := h.picked there fun old => new (List.contains_iff_mem.mpr old)
              exact ⟨picked.known, picked.ascending⟩
      | clearSelection =>
          simp only [perform, clearSelection]
          split
          · exact h
          · exact .of_nil rfl
      | removeSelected =>
          exact .of_nil (Beside.foldl (removeNext_beside clock) c.selection
            ([], { c with selection := [] })).selection_eq
      | restore draft => exact .of_nil rfl
      | discardDocument =>
          refine .of_nil ?_
          exact (filed_declineDraft _ clock).beside.selection_eq
      | applySubmit outcome =>
          exact h.of_subset (c.selection_applySubmit clock outcome)
            (ids_subset_perform rfl rfl c clock)
      | submit service batchSize =>
          have brings : c.outcome? (.submit service batchSize) = some _ := rfl
          obtain ⟨stock, -, -, same⟩ := perform_outcome brings clock
          refine h.of_subset ?_ (ids_subset_perform rfl rfl c clock)
          rw [same]
          exact (c.withStock stock).selection_applySubmit clock _
      | _ => cases within

theorem playAt_selects (h : c.Selects) (session : List (Moment × Command)) :
    (c.playAt session).Selects := by
  induction session generalizing c with
  | nil => exact h
  | cons e rest ih =>
      have under : (c.under e.1.faults).Selects := ⟨h.known, h.ascending⟩
      exact ih (perform_selects under e.1.clock e.2)

/-! ### Removing what is selected -/

theorem removeNext_split {r : List Change × Composer} {id : SectionId} {pre post : List Section}
    {s : Section} (split : r.2.body.Split id pre s post) (clock : Clock) :
    removeNext clock r id = (r.1 ++ [.removed id pre.length],
      r.2.adopt clock ({ r.2.body with sections := pre ++ post }, .removed id pre.length)) := by
  have accepted := Body.remove_eq_ok_iff.mpr ⟨pre, s, post, split, rfl⟩
  rw [removeNext, accepted]

/-- None of the identifiers is missed, since each of them takes away a section of its own. -/
theorem foldl_removeNext {picked : List SectionId} (known : ∀ id ∈ picked, id ∈ c.body.ids)
    (distinct : picked.Nodup) (clock : Clock) (before : List Change) :
    ∃ changes after, picked.foldl (removeNext clock) (before, c) = (before ++ changes, after) ∧
      List.Forall₂ (fun id change => ∃ index, change = .removed id index) picked changes ∧
      after.body.sections = Body.without c.body.sections picked ∧ Beside c after := by
  induction picked generalizing c before with
  | nil => exact ⟨[], c, by rw [List.append_nil]; rfl, .nil, rfl, .refl c⟩
  | cons id rest ih =>
      obtain ⟨here, others⟩ := List.forall_mem_cons.mp known
      obtain ⟨alone, apart⟩ := List.nodup_cons.mp distinct
      obtain ⟨pre, s, post, split⟩ := Body.exists_split_of_mem_ids here
      let mid := c.adopt clock ({ c.body with sections := pre ++ post }, .removed id pre.length)
      have left : mid.body.sections = c.body.sections.eraseP (·.id == id) := by
        rw [split.eraseP]
        exact congrArg Body.sections (c.body_adopt clock _)
      have still : ∀ x ∈ rest, x ∈ mid.body.ids := by
        intro x member
        have other : x ≠ id := fun same => alone (same ▸ member)
        have there := others x member
        rw [split.ids, List.mem_append, List.mem_cons, or_iff_right other] at there
        rw [Body.ids, left, split.eraseP, List.map_append, List.mem_append]
        exact there
      obtain ⟨changes, after, folded, told, sections, beside⟩ :=
        ih still apart (before ++ [.removed id pre.length])
      refine ⟨.removed id pre.length :: changes, after, ?_, .cons ⟨_, rfl⟩ told, ?_,
        (Beside.adopt c clock _).trans beside⟩
      · rw [List.foldl_cons, removeNext_split split]
        exact folded.trans (by rw [List.append_assoc, List.singleton_append])
      · rw [sections, left]
        rfl

/-- Over any session the selection names sections of the document, and removing the selected ones
tells of one removal for each of its identifiers and clears it. The sections that were not selected
stay as they are. No others are left exactly if the selected identifiers stand once in the document,
as they do in every composer that alone writes its slot. -/
theorem only_unselected_left_iff (stock : Stock) (settings : EditSettings)
    (session : List (Moment × Command)) (clock : Clock) :
    let c := (Composer.new stock settings).playAt session
    let r := c.removeSelected clock
    (∀ id ∈ c.selection, id ∈ c.body.ids) ∧ c.selection.Nodup ∧
    List.Forall₂ (fun id change => ∃ index, change = .removed id index) c.selection r.1 ∧
    r.2.selection = [] ∧
    r.2.body.sections.Sublist c.body.sections ∧
    r.2.body.sections.filter (·.id ∉ c.selection) =
      c.body.sections.filter (·.id ∉ c.selection) ∧
    (r.2.body.sections = c.body.sections.filter (·.id ∉ c.selection) ↔
      ∀ id ∈ c.selection, c.body.ids.count id = 1) ∧
    ∀ offers, OwnsSlot c offers →
      r.2.body.sections = c.body.sections.filter (·.id ∉ c.selection) := by
  intro c r
  have selects : c.Selects := playAt_selects (.of_nil rfl) session
  have known : ∀ id ∈ c.selection, id ∈ { c with selection := [] }.body.ids := selects.known
  obtain ⟨changes, after, folded, told, sections, beside⟩ :=
    foldl_removeNext known selects.distinct clock []
  have removed : r = (changes, after.emit .selectionChanged) := by
    show c.removeSelected clock = _
    rw [removeSelected, folded]
    rfl
  have exactly := Body.without_eq_filter_iff selects.known selects.distinct
  rw [removed]
  have sections : (after.emit .selectionChanged).body.sections =
    Body.without c.body.sections c.selection := sections
  refine ⟨selects.known, selects.distinct, told, beside.selection_eq, ?_, ?_, ?_, ?_⟩
  · exact sections ▸ Body.without_sublist _ _
  · exact sections ▸ Body.filter_without _ fun _ => id
  · exact sections ▸ exactly
  · intro offers owns
    have distinct : c.body.ids.Nodup := owns.inOrder.body.ids_nodup
    exact sections ▸ exactly.mpr fun id member =>
      List.count_eq_one_of_mem distinct (selects.known id member)

namespace HandWritten

/-- One of the two sections that have the selected identifier is left behind. -/
theorem selected_section_left_behind :
    let c := (holding none).playAt [(moment, .restore muddled), (moment, .toggleSelected ⟨1⟩)]
    let r := c.removeSelected moment.clock
    c.selection = [⟨1⟩] ∧ c.body.ids = [⟨1⟩, ⟨1⟩] ∧
    r.1 = [.removed ⟨1⟩ 0] ∧ r.2.body.sections = [⟨⟨1⟩, .comment ""⟩] ∧
    r.2.body.sections ≠ c.body.sections.filter (·.id ∉ c.selection) := by
  decide

end HandWritten

end Composer

end SiteReport
