import SiteReport.Proofs.Composer.Apply
import SiteReport.Proofs.Json.Printer
import SiteReport.Session

/-!
The draft slot of a composer. Four commands are about the draft alone: two save it, and two may clear
it. They touch the slot and the timer, and nothing of the document.
-/

namespace SiteReport

/-- Commands that save the draft, look at it or decline it. -/
def Command.handlesDraft : Command → Bool
  | .pollAutosave _ => true
  | .flushDraft => true
  | .checkDraft _ => true
  | .declineDraft => true
  | _ => false

/-- The text of a draft that is linked to a report on the server says so. -/
theorem Snapshot.link_infix_text {s : Snapshot} (linked : s.remoteId.isSome = true) :
    Json.writtenKey (Json.Quoted.escape "remote_id".toList) <:+: s.text.toList := by
  obtain ⟨id, known⟩ := Option.isSome_iff_exists.mp linked
  refine Json.writtenKey_infix_record (v := .ofText id) ?_
  apply List.mem_append_left
  apply List.mem_append_left
  apply List.mem_append_right
  rw [known]
  exact List.mem_singleton_self _

namespace Composer

/-- The outcome that a command brings to the document. -/
def outcome? (c : Composer) : Command → Option SubmitOutcome
  | .applySubmit outcome => some outcome
  | .submit service batchSize =>
    some (SubmitRun.start service batchSize c.stock c.beginSubmit).outcome
  | _ => none

/-- The command takes over a report that was sent for the document at hand. -/
structure Takes (c : Composer) (command : Command) (outcome : SubmitOutcome)
    (report : SubmitReport) : Prop where
  brings : c.outcome? command = some outcome
  current : outcome.generation = c.generation
  sent : outcome.result = .ok report

/-- The report that a command takes over. -/
def taken? (c : Composer) (command : Command) : Option SubmitReport :=
  (c.outcome? command).bind fun outcome =>
    if outcome.generation = c.generation then outcome.result.toOption else none

theorem taken?_eq_some_iff {c : Composer} {command : Command} {report : SubmitReport} :
    c.taken? command = some report ↔ ∃ outcome, c.Takes command outcome report := by
  have toOption : ∀ result : Except SubmitError SubmitReport,
      result.toOption = some report ↔ result = .ok report := by
    intro result
    cases result <;> simp [Except.toOption]
  unfold taken?
  rw [Option.bind_eq_some_iff]
  constructor
  · rintro ⟨outcome, brings, told⟩
    split at told
    · rename_i current
      exact ⟨outcome, brings, current, (toOption _).mp told⟩
    · cases told
  · rintro ⟨outcome, brings, current, sent⟩
    exact ⟨outcome, brings, by rw [if_pos current, (toOption _).mpr sent]⟩

/-- The command takes over a report of the document as it is now. -/
def Settles (c : Composer) (command : Command) : Prop :=
  ∃ outcome report, c.Takes command outcome report ∧ outcome.revision = c.revision

/-- The command puts the document into the slot. -/
def Saves (c : Composer) : Command → Prop
  | .pollAutosave now =>
    (c.autosave.takeDue now).1 = true ∧ c.stock.store.faults .draftSave = none
  | .flushDraft => c.stock.store.faults .draftSave = none
  | _ => False

/-- The command empties the slot. -/
def Clears (c : Composer) : Command → Prop
  | .checkDraft now => ∃ check after, c.checkDraft now = .ok (check, after) ∧
      (check = .stale ∨ check = .corrupt)
  | .declineDraft => c.stock.store.faults .draftClear = none
  | .discardDocument => c.stock.store.faults .draftClear = none
  | command => c.Settles command ∧ c.stock.store.faults .draftClear = none

/-- A composer after a command for its draft. -/
structure Filed (c : Composer) (clock : Clock) (command : Command) (after : Composer) : Prop where
  rest : ∃ store autosave published,
    after = { c with stock := { c.stock with store }, autosave, published }
  told : ToldAside c after
  faults_eq : after.stock.store.faults = c.stock.store.faults
  stored_eq : after.stock.store.stored = c.stock.store.stored
  saved : c.Saves command →
    after.stock.store.slot = some (c.snapshot clock.wall).text ∧ after.isDirty = false
  cleared : c.Clears command → after.stock.store.slot = none ∧ after.autosave = c.autosave
  kept : ¬ c.Saves command → ¬ c.Clears command →
    after.stock.store.slot = c.stock.store.slot ∧
      (after.autosave = c.autosave ∨
        after.isDirty = true ∧ c.stock.store.faults .draftSave ≠ none)

variable {c : Composer} {clock : Clock} {command : Command}

namespace Filed

/-- Neither the slot nor the timer was touched. -/
theorem idle (saves : ¬ c.Saves command) (clears : ¬ c.Clears command) : Filed c clock command c :=
  ⟨⟨_, _, _, rfl⟩, .refl c, rfl, rfl, fun h => absurd h saves, fun h => absurd h clears,
    fun _ _ => ⟨rfl, .inl rfl⟩⟩

/-- A save, after the timer was stopped. One that fails starts it again. -/
theorem save (saves : c.Saves command ↔ c.stock.store.faults .draftSave = none)
    (clears : ¬ c.Clears command) :
    Filed c clock command ({ c with autosave := c.autosave.cancel }.saveDraft clock).2 := by
  unfold saveDraft
  split
  · rename_i e failed
    have fault : c.stock.store.faults .draftSave = some e := Store.change_eq_error_iff.mp failed
    have unsaved : ¬ c.Saves command := by simp [saves, fault]
    exact ⟨⟨_, _, _, rfl⟩, .refl c, rfl, rfl, fun h => absurd h unsaved, fun h => absurd h clears,
      fun _ _ => ⟨rfl, .inr ⟨rfl, by simp [fault]⟩⟩⟩
  · rename_i store accepted
    obtain ⟨faults, slot, stored⟩ := Store.saveDraft_spec accepted
    have done : c.Saves command := saves.mpr (Store.change_eq_ok_iff.mp accepted).1
    exact ⟨⟨_, _, _, rfl⟩, .emit (.refl c) rfl, faults, stored, fun _ => ⟨slot, rfl⟩,
      fun h => absurd h clears, fun h => absurd done h⟩

/-- The slot was cleared. -/
theorem clear {after : Composer} {store : Store} {published : List ComposerEvent}
    (accepted : c.stock.store.clearDraft = .ok store)
    (same : after = { c with stock := { c.stock with store }, published })
    (told : ToldAside c after) (saves : ¬ c.Saves command) (clears : c.Clears command) :
    Filed c clock command after := by
  subst same
  obtain ⟨-, faults, slot, stored⟩ := Store.clearDraft_spec accepted
  exact ⟨⟨_, _, _, rfl⟩, told, faults, stored, fun h => absurd h saves, fun _ => ⟨slot, rfl⟩,
    fun _ h => absurd clears h⟩

theorem records {after : Composer} (h : Filed c clock command after) :
    after.stock.store.RecordsFrom c.stock.store :=
  .of_stored fun id => .inl (congrFun h.stored_eq id)

end Filed

theorem filed_pollAutosave (c : Composer) (clock : Clock) (now : Int) :
    Filed c clock (.pollAutosave now) (c.pollAutosave clock now).2 := by
  have clears : ¬ c.Clears (.pollAutosave now) := by
    rintro ⟨⟨_, _, ⟨brings, -, -⟩, -⟩, -⟩
    cases brings
  unfold pollAutosave
  split
  · rename_i early
    exact .idle (by simp [Saves, early]) clears
  · rename_i autosave due
    have stopped : autosave = c.autosave.cancel := by
      unfold Autosave.takeDue at due
      split at due
      · split at due
        · exact (Prod.mk.inj due).2.symm
        · cases due
      · cases due
    have saved : Filed c clock (.pollAutosave now) ({ c with autosave }.saveDraft clock).2 := by
      rw [stopped]
      exact .save (by simp [Saves, due]) clears
    split <;> rename_i ended <;> rw [ended] at saved <;> exact saved

theorem filed_lookAtDraft (c : Composer) (clock : Clock) (now : Timestamp) :
    Filed c clock (.checkDraft now) (c.lookAtDraft now).2 := by
  have saves : ¬ c.Saves (.checkDraft now) := id
  unfold lookAtDraft
  cases looked : c.checkDraft now with
  | error e =>
      have clears : ¬ c.Clears (.checkDraft now) := by simp [Clears, looked]
      cases e <;> exact .idle saves clears
  | ok answer =>
      obtain ⟨check, after⟩ := answer
      have clears : c.Clears (.checkDraft now) ↔ check = .stale ∨ check = .corrupt := by
        simp [Clears, looked]
      unfold checkDraft at looked
      split at looked
      · cases looked
      · split at looked
        · cases looked
        · rename_i found
          cases looked
          rcases Store.checkDraft_spec found with ⟨old, accepted⟩ | ⟨young, rfl⟩
          · exact .clear accepted rfl (.refl c) saves (clears.mpr old)
          · exact .idle saves (mt clears.mp young)

theorem filed_declineDraft (c : Composer) (clock : Clock) :
    Filed c clock .declineDraft c.declineDraft.2 := by
  unfold declineDraft
  split
  · rename_i e failed
    have fault : c.stock.store.faults .draftClear = some e := Store.change_eq_error_iff.mp failed
    exact .idle id (by simp [Clears, fault])
  · rename_i store accepted
    exact .clear accepted rfl (.emit (.refl c) rfl) id (Store.clearDraft_spec accepted).1

/-- A command for the draft saves the document, clears the slot, or leaves the slot as it was. -/
theorem perform_filed (drafts : command.handlesDraft = true) (c : Composer) (clock : Clock) :
    Filed c clock command (c.perform clock command).2 := by
  cases command with
  | pollAutosave now => exact filed_pollAutosave c clock now
  | flushDraft =>
      refine .save Iff.rfl ?_
      rintro ⟨⟨_, _, ⟨brings, -, -⟩, -⟩, -⟩
      cases brings
  | checkDraft now => exact filed_lookAtDraft c clock now
  | declineDraft => exact filed_declineDraft c clock
  | _ => cases drafts

end Composer

end SiteReport
