import SiteReport.Proofs.Composer.Apply
import SiteReport.Proofs.Composer.Generations
import SiteReport.Proofs.Submission.Attempts

/-!
Sessions with a store that fails at some times and works at others. What a command can come to is
said once, by `Performed`; what a session does to the document, to the draft in its slot and to the
timer between them follows from there.
-/

namespace SiteReport

/-- A time of a session, with the store calls that fail then. -/
structure Moment where
  clock : Clock
  faults : StoreCall → Option StoreError := fun _ => none

namespace Composer

/-- The composer while the given store calls fail. -/
def under (c : Composer) (faults : StoreCall → Option StoreError) : Composer :=
  c.mapStore { c.stock.store with faults }

def performAt (c : Composer) (m : Moment) (command : Command) : Composer :=
  ((c.under m.faults).perform m.clock command).2

def playAt (c : Composer) (session : List (Moment × Command)) : Composer :=
  session.foldl (fun c e => c.performAt e.1 e.2) c

theorem playAt_append (c : Composer) (session more : List (Moment × Command)) :
    c.playAt (session ++ more) = (c.playAt session).playAt more := List.foldl_append

theorem playAt_concat (c : Composer) (session : List (Moment × Command)) (m : Moment)
    (command : Command) :
    c.playAt (session ++ [(m, command)]) = (c.playAt session).performAt m command :=
  c.playAt_append session [(m, command)]

/-- What is said in a draft, but for the time at which it was saved. -/
def document (c : Composer) : Header × Body × Option String := (c.header, c.body, c.remoteId)

theorem document_eq_iff {c d : Composer} : c.document = d.document ↔
    c.header = d.header ∧ c.body = d.body ∧ c.remoteId = d.remoteId := by
  simp [document]

theorem snapshot_congr {c d : Composer} (h : c.document = d.document) (savedAt : Timestamp) :
    c.snapshot savedAt = d.snapshot savedAt := by
  obtain ⟨header, body, remoteId⟩ := document_eq_iff.mp h
  unfold snapshot
  rw [header, body, remoteId]

/-! ### One command -/

variable {c after : Composer} {clock : Clock} {command : Command}

/-- What a command can come to. -/
inductive Performed (c : Composer) (clock : Clock) (command : Command) (after : Composer) : Prop where
  | worked (saves : ¬ c.Saves command) (clears : ¬ c.Clears command)
      (works : Works c (c.editsOf command) after)
  | filed (drafts : command.handlesDraft = true) (h : Filed c clock command after)
  | restocked (saves : ¬ c.Saves command) (clears : ¬ c.Clears command)
      (document : after.document = c.document) (autosave : after.autosave = c.autosave)
      (slot : after.stock.store.slot = c.stock.store.slot)
  | replaced (replaces : command.replaces = true)
  | taken {before : Composer} {outcome : SubmitOutcome} {report : SubmitReport}
      (applied : Applied before outcome.revision report after)
      (takes : c.Takes command outcome report) (revision : before.revision = c.revision)
      (faults : before.stock.store.faults = c.stock.store.faults)
      (slot : before.stock.store.slot = c.stock.store.slot)

theorem not_saves (elsewhere : command.handlesDraft = false) : ¬ c.Saves command := by
  intro saves
  cases command with
  | pollAutosave now => cases elsewhere
  | flushDraft => cases elsewhere
  | _ => exact saves

theorem clears_iff (elsewhere : command.handlesDraft = false) (kept : command.replaces = false) :
    c.Clears command ↔ c.Settles command ∧ c.stock.store.faults .draftClear = none := by
  cases command with
  | checkDraft now => cases elsewhere
  | declineDraft => cases elsewhere
  | discardDocument => cases kept
  | _ => exact Iff.rfl

theorem not_clears (elsewhere : command.handlesDraft = false) (kept : command.replaces = false)
    (none : ∀ outcome report, ¬ c.Takes command outcome report) : ¬ c.Clears command := by
  rw [clears_iff elsewhere kept]
  rintro ⟨⟨outcome, report, takes, -⟩, -⟩
  exact none outcome report takes

theorem not_takes (quiet : c.outcome? command = none) (outcome : SubmitOutcome)
    (report : SubmitReport) : ¬ c.Takes command outcome report := by
  intro takes
  have brings := takes.brings
  rw [quiet] at brings
  cases brings

/-- Commands that bring an outcome neither handle the draft nor replace the document. -/
theorem of_outcome {outcome : SubmitOutcome} (brings : c.outcome? command = some outcome) :
    command.handlesDraft = false ∧ command.replaces = false := by
  cases command <;> first | exact ⟨rfl, rfl⟩ | cases brings

theorem slot_run (a : Attempt) : a.run.stock.store.slot = a.stock.store.slot := by
  obtain ⟨notes, -, stock_eq, -⟩ := a.run_stock
  rw [stock_eq]
  exact a.stock.store.slot_noteAll notes

theorem faults_run (a : Attempt) : a.run.stock.store.faults = a.stock.store.faults := by
  obtain ⟨notes, -, stock_eq, -⟩ := a.run_stock
  rw [stock_eq]
  exact a.stock.store.faults_noteAll notes

/-- A submit is the taking over of an outcome, on a stock in which the run noted its uploads. -/
theorem perform_outcome {outcome : SubmitOutcome} (brings : c.outcome? command = some outcome)
    (clock : Clock) :
    ∃ stock, stock.store.faults = c.stock.store.faults ∧
      stock.store.slot = c.stock.store.slot ∧
      (c.perform clock command).2 = ((c.withStock stock).applySubmit clock outcome).2 := by
  cases command with
  | applySubmit told =>
      cases brings
      exact ⟨c.stock, rfl, rfl, rfl⟩
  | submit service batchSize =>
      cases brings
      let a : Attempt := ⟨service, batchSize, c.stock, c.beginSubmit⟩
      exact ⟨a.run.stock, faults_run a, slot_run a, rfl⟩
  | _ => cases brings

/-- A report that is taken over is applied to the document as it is. -/
theorem Takes.applied {outcome : SubmitOutcome} {report : SubmitReport}
    (takes : c.Takes command outcome report) (clock : Clock) :
    ∃ stock, stock.store.faults = c.stock.store.faults ∧
      stock.store.slot = c.stock.store.slot ∧
      Applied (c.withStock stock) outcome.revision report (c.perform clock command).2 := by
  obtain ⟨stock, faults, slot, same⟩ := perform_outcome takes.brings clock
  refine ⟨stock, faults, slot, ?_⟩
  have current : outcome.generation = (c.withStock stock).generation := takes.current
  rw [same]
  exact (applySubmit_applied clock current takes.sent).2

theorem editsOf_outcome {outcome : SubmitOutcome} (brings : c.outcome? command = some outcome) :
    c.editsOf command = (c.taken? command).toList.map (.resolve ·.resolution) := by
  cases command <;> first | rfl | cases brings

/-- The body after a command that keeps the document. -/
theorem body_perform (kept : command.replaces = false) (c : Composer) (clock : Clock) :
    (c.perform clock command).2.body = c.body.run (c.editsOf command) := by
  cases isEdit : command.isEdit with
  | true => exact (perform_edited isEdit c clock).body_eq
  | false =>
      have brings : ∃ outcome, c.outcome? command = some outcome := by
        cases command with
        | applySubmit outcome => exact ⟨outcome, rfl⟩
        | submit service batchSize => exact ⟨_, rfl⟩
        | restore draft => cases kept
        | discardDocument => cases kept
        | _ => cases isEdit
      obtain ⟨outcome, brings⟩ := brings
      obtain ⟨stock, -, -, same⟩ := perform_outcome brings clock
      rw [editsOf_outcome brings, same]
      rcases (c.withStock stock).applySubmit_cases clock outcome with ⟨stale, turned⟩ |
        ⟨current, ⟨e, failed, turned⟩ | ⟨report, sent, -, applied⟩⟩
      · have none : c.taken? command = none := by
          simp [taken?, brings, show outcome.generation ≠ c.generation from stale]
        rw [turned, none]
        rfl
      · have none : c.taken? command = none := by
          simp [taken?, brings, failed, Except.toOption]
        rw [turned, none]
        rfl
      · have taken : c.taken? command = some report :=
          taken?_eq_some_iff.mpr ⟨outcome, brings, current, sent⟩
        rw [applied.body_eq, taken]
        rfl

theorem performed_outcome {outcome : SubmitOutcome} (brings : c.outcome? command = some outcome)
    (clock : Clock) : Performed c clock command (c.perform clock command).2 := by
  obtain ⟨elsewhere, kept⟩ := of_outcome brings
  obtain ⟨stock, faults, slot, same⟩ := perform_outcome brings clock
  rw [same]
  rcases (c.withStock stock).applySubmit_cases clock outcome with ⟨stale, turned⟩ |
    ⟨current, ⟨e, failed, turned⟩ | ⟨report, sent, -, applied⟩⟩
  · have none : ∀ other report, ¬ c.Takes command other report := by
      rintro other report ⟨others, current, -⟩
      rw [brings] at others
      cases others
      exact stale current
    rw [turned]
    exact .restocked (not_saves elsewhere) (not_clears elsewhere kept none) rfl rfl slot
  · have none : ∀ other report, ¬ c.Takes command other report := by
      rintro other report ⟨others, -, sent⟩
      rw [brings] at others
      cases others
      rw [failed] at sent
      cases sent
    rw [turned]
    exact .restocked (not_saves elsewhere) (not_clears elsewhere kept none) rfl rfl slot
  · exact .taken applied ⟨brings, current, sent⟩ rfl faults slot

theorem perform_performed (c : Composer) (clock : Clock) (command : Command) :
    Performed c clock command (c.perform clock command).2 := by
  cases drafts : command.handlesDraft with
  | true => exact .filed drafts (perform_filed drafts c clock)
  | false =>
      cases kept : command.replaces with
      | true => exact .replaced kept
      | false =>
          cases brings : c.outcome? command with
          | some outcome => exact performed_outcome brings clock
          | none =>
              have saves : ¬ c.Saves command := not_saves drafts
              have clears : ¬ c.Clears command := not_clears drafts kept (not_takes brings)
              cases command with
              | markUploaded id url =>
                  have noted : ∃ stock, (c.markUploaded id url).2 = c.withStock stock ∧
                      stock.store.slot = c.stock.store.slot := by
                    unfold markUploaded
                    split
                    · rename_i accepted
                      obtain ⟨-, -, rfl⟩ := Stock.markUploaded_eq_ok_iff.mp accepted
                      exact ⟨_, rfl, c.stock.store.slot_noteAll _⟩
                    · exact ⟨c.stock, rfl, rfl⟩
                  obtain ⟨stock, same, slot⟩ := noted
                  rw [perform, same]
                  exact .restocked saves clears rfl rfl slot
              | runSubmit service batchSize ticket =>
                  exact .restocked saves clears rfl rfl
                    (slot_run ⟨service, batchSize, c.stock, ticket⟩)
              | restore draft => cases kept
              | discardDocument => cases kept
              | applySubmit outcome => cases brings
              | submit service batchSize => cases brings
              | _ => exact .worked saves clears (perform_works rfl rfl drafts c clock)

namespace Performed

/-- The slot holds what a save put there, nothing after it was cleared, and else what it held. -/
theorem slot_eq (h : Performed c clock command after) (kept : command.replaces = false) :
    (c.Saves command → after.stock.store.slot = some (c.snapshot clock.wall).text) ∧
    (c.Clears command → after.stock.store.slot = none) ∧
    (¬ c.Saves command → ¬ c.Clears command →
      after.stock.store.slot = c.stock.store.slot) := by
  cases h with
  | worked saves clears works =>
      exact ⟨fun h => absurd h saves, fun h => absurd h clears, fun _ _ => works.kept.slot_eq⟩
  | filed drafts h => exact ⟨fun s => (h.saved s).1, fun s => (h.cleared s).1, fun s s' => (h.kept s s').1⟩
  | restocked saves clears document autosave slot =>
      exact ⟨fun h => absurd h saves, fun h => absurd h clears, fun _ _ => slot⟩
  | replaced replaces =>
      rw [kept] at replaces
      cases replaces
  | @taken before outcome report applied takes revision faults slot =>
      have brings := takes.brings
      have elsewhere := (of_outcome brings).1
      refine ⟨fun h => absurd h (not_saves elsewhere), fun clears => ?_, fun _ clears => ?_⟩
      · obtain ⟨⟨other, _, takes', same⟩, allowed⟩ := (clears_iff elsewhere kept).mp clears
        have one : other = outcome := Option.some.inj (takes'.brings.symm.trans brings)
        subst one
        rw [(applied.unedited (same.trans revision.symm)).2, faults, if_pos allowed]
      · by_cases same : outcome.revision = before.revision
        · have refused : c.stock.store.faults .draftClear ≠ none := fun allowed =>
            clears ((clears_iff elsewhere kept).mpr
              ⟨⟨outcome, report, takes, same.trans revision⟩, allowed⟩)
          rw [(applied.unedited same).2, faults, if_neg refused, slot]
        · rw [(applied.edited same).2, slot]

/-- A document that is linked to a report on the server stays linked. -/
theorem linked (h : Performed c clock command after) (kept : command.replaces = false)
    (known : c.remoteId.isSome = true) : after.remoteId.isSome = true := by
  cases h with
  | worked saves clears works => exact works.linked known
  | filed drafts h =>
      obtain ⟨store, autosave, published, rfl⟩ := h.rest
      exact known
  | restocked saves clears document autosave slot =>
      rw [(document_eq_iff.mp document).2.2]
      exact known
  | replaced replaces =>
      rw [kept] at replaces
      cases replaces
  | taken applied =>
      rw [applied.remoteId_eq]
      rfl

end Performed

end Composer

end SiteReport
