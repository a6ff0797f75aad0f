import SiteReport.Proofs.Composer.Moments
import Mathlib.Data.List.Induction
import Mathlib.Data.List.Infix

/-!
The draft, the timer and the document of a composer. While the timer is stopped, nothing is to be
saved: the slot holds the document as it is, or the document has not been touched since it was begun,
restored, or sent as it was.
-/

namespace SiteReport

namespace Composer

/-- The command begins another document, or the document was just sent as it is. -/
def Renews (c : Composer) (command : Command) : Prop :=
  command.replaces = true ∨ c.Settles command

/-- No command of the session has changed the document since the start, or since the latest one that
renewed it. -/
inductive Untouched (c : Composer) : List (Moment × Command) → Prop where
  | start : Untouched c []
  | renewed {session : List (Moment × Command)} {m : Moment} {command : Command}
      (renews : ((c.playAt session).under m.faults).Renews command) :
      Untouched c (session ++ [(m, command)])
  | kept {session : List (Moment × Command)} {m : Moment} {command : Command}
      (untouched : Untouched c session)
      (same : ((c.playAt session).performAt m command).document = (c.playAt session).document) :
      Untouched c (session ++ [(m, command)])

/-- The slot holds the document as it is, with the time of some save. -/
def InSlot (c : Composer) : Prop :=
  ∃ savedAt, c.stock.store.slot = some (c.snapshot savedAt).text

variable {c after : Composer} {clock : Clock} {command : Command}

theorem InSlot.congr (h : c.InSlot) (document : after.document = c.document)
    (slot : after.stock.store.slot = c.stock.store.slot) : after.InSlot := by
  obtain ⟨savedAt, saved⟩ := h
  refine ⟨savedAt, ?_⟩
  rw [slot, saved, snapshot_congr document]

/-- With the timer stopped, a command either renewed the document or left it as it was. In the slot it
left the draft or saved the document, unless it looked at the draft to clear it. -/
theorem Performed.of_clean (h : Performed c clock command after)
    (saves : c.stock.store.faults .draftSave = none) (clean : after.isDirty = false) :
    c.Renews command ∨ after.document = c.document ∧
      (after.InSlot ∨ command.handlesDraft = true ∧ c.Clears command ∨
        c.isDirty = false ∧ after.stock.store.slot = c.stock.store.slot) := by
  cases h with
  | worked _ _ works =>
      rcases works.timer with ⟨still, same⟩ | ⟨-, dirty⟩
      · have edited := works.edited
        have document : after.document = c.document :=
          document_eq_iff.mpr (edited.unchanged still)
        have before : c.isDirty = false := by rwa [isDirty, same] at clean
        exact .inr ⟨document, .inr (.inr ⟨before, works.kept.slot_eq⟩)⟩
      · rw [clean] at dirty
        cases dirty
  | filed drafts h =>
      have document : after.document = c.document := by
        obtain ⟨store, autosave, published, rfl⟩ := h.rest
        rfl
      refine .inr ⟨document, ?_⟩
      by_cases saved : c.Saves command
      · refine .inl ⟨clock.wall, ?_⟩
        rw [(h.saved saved).1, snapshot_congr document]
      · by_cases clears : c.Clears command
        · exact .inr (.inl ⟨drafts, clears⟩)
        · obtain ⟨slot, same | ⟨-, failed⟩⟩ := h.kept saved clears
          · have before : c.isDirty = false := by rwa [isDirty, same] at clean
            exact .inr (.inr ⟨before, slot⟩)
          · exact absurd saves failed
  | restocked _ _ document same slot =>
      have before : c.isDirty = false := by rwa [isDirty, same] at clean
      exact .inr ⟨document, .inr (.inr ⟨before, slot⟩)⟩
  | replaced replaces => exact .inl (.inl replaces)
  | @taken before outcome report applied takes revision _ _ =>
      by_cases same : outcome.revision = before.revision
      · exact .inl (.inr ⟨outcome, report, takes, same.trans revision⟩)
      · have dirty := (applied.edited same).1
        rw [clean] at dirty
        cases dirty

theorem clears_of_handlesDraft (drafts : command.handlesDraft = true) (clears : c.Clears command) :
    command = .declineDraft ∨ ∃ now, command = .checkDraft now := by
  have none (quiet : c.outcome? command = none)
      (settles : c.Settles command ∧ c.stock.store.faults .draftClear = none) : False := by
    obtain ⟨⟨outcome, report, takes, -⟩, -⟩ := settles
    exact not_takes quiet outcome report takes
  cases command with
  | checkDraft now => exact .inr ⟨now, rfl⟩
  | declineDraft => exact .inl rfl
  | pollAutosave now => exact absurd clears (none rfl)
  | flushDraft => exact absurd clears (none rfl)
  | _ => cases drafts

/-- A document that was sent as it is leaves an empty slot behind, if the store lets it be cleared. -/
theorem slot_of_settles {m : Moment} (settles : (c.under m.faults).Settles command) :
    (c.performAt m command).stock.store.slot =
      if m.faults .draftClear = none then none else c.stock.store.slot := by
  have ⟨_, _, takes, _⟩ := settles
  obtain ⟨elsewhere, kept⟩ := of_outcome takes.brings
  have performed := perform_performed (c.under m.faults) m.clock command
  obtain ⟨-, cleared, left⟩ := performed.slot_eq kept
  split
  · rename_i allowed
    exact cleared ((clears_iff elsewhere kept).mpr ⟨settles, allowed⟩)
  · rename_i refused
    refine left (not_saves elsewhere) fun clears => ?_
    exact refused ((clears_iff elsewhere kept).mp clears).2

/-- Nothing is lost while every save succeeds and the draft is not looked at once the document was
touched: a composer that is not dirty has its document in the slot, or has not been touched since its
document was renewed. A document that was sent as it is leaves an empty slot behind, if the store lets
it be cleared. -/
theorem clean_inSlot_or_untouched {c : Composer} {session : List (Moment × Command)}
    (saves : ∀ e ∈ session, e.1.faults .draftSave = none)
    (looks : ∀ earlier m command later, session = earlier ++ (m, command) :: later →
      (command = .declineDraft ∨ ∃ now, command = .checkDraft now) → c.Untouched earlier) :
    ((c.playAt session).isDirty = false → (c.playAt session).InSlot ∨ c.Untouched session) ∧
    ∀ earlier m command, ((c.playAt earlier).under m.faults).Settles command →
      (c.playAt (earlier ++ [(m, command)])).stock.store.slot =
        if m.faults .draftClear = none then none else (c.playAt earlier).stock.store.slot := by
  constructor
  · induction session using List.reverseRecOn with
    | nil => exact fun _ => .inr .start
    | append_singleton earlier e ih =>
        obtain ⟨m, command⟩ := e
        obtain ⟨earlierSaves, now⟩ := List.forall_mem_append.mp saves
        have earlierLooks : ∀ before m' command' later,
            earlier = before ++ (m', command') :: later →
            (command' = .declineDraft ∨ ∃ now, command' = .checkDraft now) →
            c.Untouched before := by
          intro before m' command' later split
          refine looks before m' command' (later ++ [(m, command)]) ?_
          rw [split, List.append_assoc, List.cons_append]
        have before := ih earlierSaves earlierLooks
        intro still
        rw [playAt_concat] at still ⊢
        have performed := perform_performed ((c.playAt earlier).under m.faults) m.clock command
        rcases performed.of_clean (now _ (List.mem_singleton_self _)) still with
          renews | ⟨document, saved | ⟨drafts, clears⟩ | ⟨unmoved, slot⟩⟩
        · exact .inr (.renewed renews)
        · exact .inl saved
        · have untouched := looks earlier m command [] rfl (clears_of_handlesDraft drafts clears)
          exact .inr (untouched.kept document)
        · rcases before unmoved with saved | untouched
          · exact .inl (InSlot.congr saved document slot)
          · exact .inr (untouched.kept document)
  · intro earlier m command settles
    rw [playAt_concat]
    exact slot_of_settles settles

/-! ### A document that is saved, and sent -/

namespace Noted

def fresh : Composer := Composer.new Twins.stock {}

def calm : Moment := ⟨Twins.clock, fun _ => none⟩

/-- The store cannot clear the draft. -/
def locked : Moment := ⟨Twins.clock, fun | .draftClear => some (.database "locked") | _ => none⟩

def written : List (Moment × Command) :=
  [(calm, .setHeader Twins.composer.header), (calm, .addSection .comment),
    (calm, .updateSection ⟨1⟩ (.text "done")), (calm, .flushDraft)]

/-- The draft of the document that was written. -/
def draft : Snapshot := (fresh.playAt written).snapshot Twins.clock.wall

theorem draft_chars : draft.text.toList = Json.put draft.toJson [] := String.toList_ofList

theorem draft_not_linked {s : Snapshot} (linked : s.remoteId.isSome = true) :
    s.text ≠ draft.text := by
  intro same
  have link := Snapshot.link_infix_text linked
  rw [same] at link
  have missing : ¬ Json.writtenKey (Json.Quoted.escape "remote_id".toList) <:+:
      Json.put draft.toJson [] := by decide +kernel
  rw [draft_chars] at link
  exact missing link

theorem sent_document_empties_slot :
    let session := written ++ [(calm, .submit Twins.service 3)]
    (fresh.playAt session).isDirty = false ∧
    ((fresh.playAt session).InSlot ∨ fresh.Untouched session) ∧
    (fresh.playAt session).stock.store.slot = none := by
  intro session
  have saves : ∀ e ∈ session, e.1.faults .draftSave = none := by
    intro e member
    simp only [session, written, List.cons_append, List.nil_append, List.mem_cons,
      List.not_mem_nil, or_false] at member
    obtain rfl | rfl | rfl | rfl | rfl := member <;> rfl
  have looks : ∀ earlier m command later, session = earlier ++ (m, command) :: later →
      (command = .declineDraft ∨ ∃ now, command = .checkDraft now) → fresh.Untouched earlier := by
    intro earlier m command later split looks
    have member : (m, command) ∈ session := split ▸ List.mem_append_right _ List.mem_cons_self
    rcases looks with rfl | ⟨now, rfl⟩ <;> simp [session, written] at member
  obtain ⟨kept, emptied⟩ := clean_inSlot_or_untouched saves looks
  have settles : ((fresh.playAt written).under calm.faults).Settles (.submit Twins.service 3) :=
    ⟨_, _, ⟨rfl, rfl, rfl⟩, rfl⟩
  exact ⟨rfl, kept rfl, emptied written calm _ settles⟩

/-- The document was sent and has been linked to the report since, and is not dirty. The slot still
holds the draft from before. -/
theorem locked_slot_keeps_draft :
    let session := written ++ [(locked, .submit Twins.service 3)]
    let before := fresh.playAt written
    let after := fresh.playAt session
    (∀ e ∈ session, e.1.faults .draftSave = none ∧ e.2.replaces = false) ∧
    before.document ≠ after.document ∧ after.isDirty = false ∧
    after.stock.store.slot = some draft.text ∧ ¬ after.InSlot := by
  intro session before after
  have linked : after.remoteId = some "r" := rfl
  have slot : after.stock.store.slot = some draft.text := rfl
  refine ⟨?_, ?_, rfl, slot, ?_⟩
  · intro e member
    simp only [session, written, List.cons_append, List.nil_append, List.mem_cons,
      List.not_mem_nil, or_false] at member
    obtain rfl | rfl | rfl | rfl | rfl := member <;> exact ⟨rfl, rfl⟩
  · intro same
    have unlinked : before.remoteId = none := rfl
    rw [(document_eq_iff.mp same).2.2, linked] at unlinked
    cases unlinked
  · rintro ⟨savedAt, saved⟩
    rw [slot] at saved
    have known : (after.snapshot savedAt).remoteId.isSome = true := rfl
    exact draft_not_linked known (Option.some.inj saved).symm

end Noted

end Composer

end SiteReport
