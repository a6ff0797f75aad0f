import SiteReport.Proofs.Composer.Autosave

/-!
What a crash leaves of a document that was sent. The document is linked to its report from then on,
but the draft in the slot may be older: it is the one from before the report until the document is
saved or the slot is cleared. A draft that is linked is sent as an update, whatever becomes of it.
-/

namespace SiteReport

/-- The slot holds no draft of which a second report would be made. -/
def LinkedSlot (slot : Option String) : Prop :=
  slot = none ∨ ∃ draft : Snapshot, draft.remoteId.isSome = true ∧ slot = some draft.text

namespace Composer

/-- Some command of the session saves the document or clears the slot. -/
def Writes : Composer → List (Moment × Command) → Prop
  | _, [] => False
  | c, (m, command) :: rest =>
    ((c.under m.faults).Saves command ∨ (c.under m.faults).Clears command) ∨
      Writes (c.performAt m command) rest

variable {c after : Composer} {clock : Clock} {command : Command}

theorem Performed.linkedSlot_iff (h : Performed c clock command after)
    (kept : command.replaces = false)
    (linked : c.Saves command → c.remoteId.isSome = true) :
    LinkedSlot after.stock.store.slot ↔
      LinkedSlot c.stock.store.slot ∨ c.Saves command ∨ c.Clears command := by
  obtain ⟨saved, cleared, left⟩ := h.slot_eq kept
  by_cases saves : c.Saves command
  · have now : LinkedSlot after.stock.store.slot :=
      .inr ⟨c.snapshot clock.wall, linked saves, saved saves⟩
    exact iff_of_true now (.inr (.inl saves))
  · by_cases clears : c.Clears command
    · have now : LinkedSlot after.stock.store.slot := .inl (cleared clears)
      exact iff_of_true now (.inr (.inr clears))
    · rw [left saves clears]
      simp [saves, clears]

/-- Once linked, a document stays linked, and what is written into its slot is linked as well. -/
theorem linkedSlot_playAt {c : Composer} {session : List (Moment × Command)}
    (linked : c.remoteId.isSome = true) (kept : ∀ e ∈ session, e.2.replaces = false) :
    (c.playAt session).remoteId.isSome = true ∧
    (LinkedSlot (c.playAt session).stock.store.slot ↔
      LinkedSlot c.stock.store.slot ∨ c.Writes session) := by
  induction session generalizing c with
  | nil => exact ⟨linked, by simp [playAt, Writes]⟩
  | cons e rest ih =>
      obtain ⟨m, command⟩ := e
      obtain ⟨same, others⟩ := List.forall_mem_cons.mp kept
      have performed := perform_performed (c.under m.faults) m.clock command
      obtain ⟨stays, later⟩ := ih (performed.linked same linked) others
      have first := performed.linkedSlot_iff same fun _ => linked
      refine ⟨stays, later.trans ?_⟩
      rw [Writes, ← or_assoc]
      exact or_congr_left first

/-- The report of a linked document replaces the one it is linked to. -/
theorem update_of_sent {service : Service} {n : Nat} {stock : Stock} {ticket : Ticket}
    {sending : SendRequest}
    (sent : (SubmitRun.start service n stock ticket).sent? = some sending) :
    sending.update = ticket.remoteId := by
  rcases SubmitRun.start_spec service n stock ticket with ⟨_, -, unsent, -⟩ |
    ⟨token, date, answers, before, -, -, request, -⟩
  · rw [sent] at unsent
    cases unsent
  · rw [sent] at request
    rw [Option.some.inj request]
    rfl

/-- After a report was taken over, and until the document is replaced, the slot holds no draft that
would be sent as a second report, exactly if it held none before or was written since. -/
theorem linkedSlot_iff_written {c : Composer} {m : Moment} {command : Command}
    {outcome : SubmitOutcome} {report : SubmitReport} {later : List (Moment × Command)}
    (takes : (c.under m.faults).Takes command outcome report)
    (kept : ∀ e ∈ later, e.2.replaces = false) :
    let live := c.playAt ((m, command) :: later)
    live.remoteId.isSome = true ∧
    (LinkedSlot live.stock.store.slot ↔
      LinkedSlot c.stock.store.slot ∨ c.Writes ((m, command) :: later)) ∧
    ∀ draft : Snapshot, draft.remoteId.isSome = true →
      ∀ (restarted : Composer) (edits : List (Moment × Command)),
      (∀ e ∈ edits, e.2.replaces = false) → ∀ service n stock sending,
      (SubmitRun.start service n stock
        ((restarted.restore draft).2.playAt edits).beginSubmit).sent? = some sending →
      sending.update.isSome = true := by
  intro live
  obtain ⟨elsewhere, same⟩ := of_outcome takes.brings
  have performed := perform_performed (c.under m.faults) m.clock command
  have linked : (c.performAt m command).remoteId.isSome = true := by
    obtain ⟨stock, -, -, applied⟩ := takes.applied m.clock
    rw [performAt, applied.remoteId_eq]
    rfl
  obtain ⟨stays, slots⟩ := linkedSlot_playAt linked kept
  have first := performed.linkedSlot_iff same fun saves => absurd saves (not_saves elsewhere)
  refine ⟨stays, slots.trans ?_, ?_⟩
  · rw [Writes, ← or_assoc]
    exact or_congr_left first
  · intro draft known restarted edits others service n stock sending sent
    have restored : (restarted.restore draft).2.remoteId.isSome = true := known
    rw [update_of_sent sent]
    exact (linkedSlot_playAt restored others).1

namespace Noted

/-- The document is sent, and edited before the outcome is taken over. -/
def edited : List (Moment × Command) :=
  written ++ [(calm, .updateSection ⟨1⟩ (.text "done and checked")),
    (calm, .runSubmit Twins.service 3 (fresh.playAt written).beginSubmit)]

def outcome : SubmitOutcome :=
  (SubmitRun.start Twins.service 3 Twins.stock (fresh.playAt written).beginSubmit).outcome

theorem edited_takes : ∃ report,
    ((fresh.playAt edited).under calm.faults).Takes (.applySubmit outcome) outcome report :=
  ⟨_, rfl, rfl, rfl⟩

/-- A save after the outcome was taken over links the draft. -/
theorem saved_draft_linked :
    let session := edited ++ [(calm, .applySubmit outcome), (calm, .flushDraft)]
    LinkedSlot (fresh.playAt session).stock.store.slot := by
  intro session
  obtain ⟨report, takes⟩ := edited_takes
  have kept : ∀ e ∈ [(calm, Command.flushDraft)], e.2.replaces = false := by simp [Command.replaces]
  obtain ⟨-, slots, -⟩ := linkedSlot_iff_written takes kept
  rw [playAt_append]
  exact slots.mpr (.inr (.inr (.inl (.inl rfl))))

/-- Before that save the slot holds the draft from before the report. What is restored from it is sent
as a second report. -/
theorem draft_of_sent_document_not_linked :
    let live := fresh.playAt (edited ++ [(calm, .applySubmit outcome)])
    live.remoteId = some "r" ∧ ¬ LinkedSlot live.stock.store.slot ∧
    live.stock.store.loadDraft = .ok (some draft) ∧
    (SubmitRun.start Twins.service 3 live.stock
      (fresh.restore draft).2.beginSubmit).sent?.map (·.update) = some none := by
  intro live
  have slot : live.stock.store.slot = some draft.text := rfl
  refine ⟨rfl, ?_, ?_, rfl⟩
  · rintro (empty | ⟨other, linked, same⟩)
    · rw [slot] at empty
      cases empty
    · rw [slot] at same
      exact draft_not_linked linked (Option.some.inj same).symm
  · have read : Snapshot.parse? draft.text = some draft := by
      rw [Snapshot.parse?, Json.parse?, draft_chars]
      decide +kernel
    exact Store.loadDraft_of_slot rfl slot read

end Noted

end Composer

end SiteReport
