import SiteReport.Proofs.Composer.Edits
import SiteReport.Proofs.Submission.Resubmission

/-!
The generations of a composer. Restoring a draft and discarding the document each begin a new one,
and no other command does. So the generation of a ticket tells whether the document that it was
taken of is still at hand, however many other tickets are out; if not, the outcome of its run is
turned away and leaves no trace.
-/

namespace SiteReport

/-- Does the command put another document in the place of the one at hand? It does so even if it
fails to clear the draft afterwards. -/
def Command.replaces : Command → Bool
  | .restore _ => true
  | .discardDocument => true
  | _ => false

theorem SubmitRun.result_ne_superseded (service : Service) (n : Nat) (stock : Stock)
    (ticket : Ticket) : (start service n stock ticket).outcome.result ≠ .error .superseded := by
  have result_eq : (start service n stock ticket).outcome.result =
      (Submission.attempt service n ticket { stock }).1 := rfl
  rw [result_eq]
  rcases Submission.attempt_cases service n ticket stock with ⟨cause, -, refused⟩ |
    ⟨date, -, -, refused⟩ | ⟨token, date, answers, before, -, attempted⟩
  · simp [refused]
  · simp [refused]
  · rw [attempted]
    unfold Submission.resultOf
    split <;> simp

namespace Composer

theorem generation_declineDraft (c : Composer) :
    c.declineDraft.2.generation = c.generation := by
  unfold declineDraft
  split <;> rfl

theorem generation_applySubmit (c : Composer) (clock : Clock) (outcome : SubmitOutcome) :
    (c.applySubmit clock outcome).2.generation = c.generation := by
  rcases c.applySubmit_cases clock outcome with ⟨-, kept⟩ | ⟨-, ⟨e, -, kept⟩ | ⟨_, -, -, applied⟩⟩
  · rw [kept]
  · rw [kept]
  · exact applied.generation_eq

/-- One command counts the generation on if it replaces the document, and leaves it alone else. -/
theorem generation_perform (c : Composer) (clock : Clock) (command : Command) :
    (c.perform clock command).2.generation =
      c.generation + if command.replaces then 1 else 0 := by
  cases isEdit : command.isEdit with
  | true =>
      have edited := perform_edited isEdit c clock
      have kept : command.replaces = false := by cases command <;> first | rfl | cases isEdit
      rw [edited.generation_eq, kept]
      rfl
  | false =>
      cases command with
      | restore draft => rfl
      | discardDocument => exact generation_declineDraft _
      | applySubmit outcome => exact c.generation_applySubmit clock outcome
      | submit service batchSize =>
          exact (c.runSubmit service batchSize c.beginSubmit).2.generation_applySubmit clock _
      | _ => cases isEdit

/-- The generation counts the commands that replaced the document. -/
theorem generation_play (c : Composer) (session : List (Clock × Command)) :
    (c.play session).generation = c.generation + session.countP (·.2.replaces) := by
  induction session generalizing c with
  | nil => rfl
  | cons e rest ih =>
      calc (c.play (e :: rest)).generation
          = (c.perform e.1 e.2).2.generation + rest.countP (·.2.replaces) := ih _
        _ = c.generation + (e :: rest).countP (·.2.replaces) := by
            rw [generation_perform, List.countP_cons]
            omega

theorem play_append (c : Composer) (session more : List (Clock × Command)) :
    c.play (session ++ more) = (c.play session).play more := List.foldl_append

/-- The document of a ticket is still at hand exactly if no command replaced it since. -/
theorem generation_ne_iff_replaced (c : Composer) (session : List (Clock × Command)) :
    c.beginSubmit.generation ≠ (c.play session).generation ↔
      ∃ e ∈ session, e.2.replaces = true := by
  have counted := c.generation_play session
  rw [← List.countP_pos_iff, counted]
  show c.generation ≠ _ ↔ _
  omega

/-- The outcome for a ticket is turned away exactly if the document was replaced since the ticket
was taken. Then the composer is as it was, whatever the outcome brings. -/
theorem superseded_iff_replaced (c : Composer) (earlier later : List (Clock × Command))
    (service : Service) (n : Nat) (stock : Stock) (clock : Clock) :
    let ticket := (c.play earlier).beginSubmit
    let outcome := (SubmitRun.start service n stock ticket).outcome
    let live := c.play (earlier ++ later)
    ((live.applySubmit clock outcome).1 = .error .superseded ↔
      ∃ e ∈ later, e.2.replaces = true) ∧
    ((∃ e ∈ later, e.2.replaces = true) → ∀ result,
      live.applySubmit clock { outcome with result } = (.error .superseded, live)) := by
  intro ticket outcome live
  have replaced : outcome.generation ≠ live.generation ↔ ∃ e ∈ later, e.2.replaces = true := by
    rw [show live = (c.play earlier).play later from play_append c earlier later]
    exact generation_ne_iff_replaced (c.play earlier) later
  refine ⟨?_, fun happened result => if_pos (replaced.mpr happened)⟩
  rw [← replaced]
  rcases live.applySubmit_cases clock outcome with ⟨stale, turned⟩ |
    ⟨current, ⟨e, failed, told⟩ | ⟨report, -, accepted, -⟩⟩
  · simp [stale, turned]
  · have own : e ≠ .superseded := by
      rintro rfl
      exact SubmitRun.result_ne_superseded service n stock ticket failed
    simp [current, told, own]
  · simp [current, accepted]

/-- Two tickets are out, and the document was replaced between them. The outcome for the first one is
turned away, with the addresses that it brings; the outcome for the second one is not. -/
theorem first_of_two_tickets_superseded :
    let restored := [(Twins.clock, Command.restore (Twins.composer.snapshot Twins.clock.wall))]
    let filled := [(Twins.clock, Command.setHeader Twins.composer.header)]
    let live := Twins.composer.play (restored ++ filled)
    let run (ticket : Ticket) := (SubmitRun.start Twins.service 3 Twins.stock ticket).outcome
    (run Twins.composer.beginSubmit).result = .ok Twins.report ∧
    live.applySubmit Twins.clock (run Twins.composer.beginSubmit) = (.error .superseded, live) ∧
    (live.applySubmit Twins.clock (run (Twins.composer.play restored).beginSubmit)).1 ≠
      .error .superseded := by
  intro restored filled live run
  have first := superseded_iff_replaced Twins.composer [] (restored ++ filled) Twins.service 3
    Twins.stock Twins.clock
  have second := superseded_iff_replaced Twins.composer restored filled Twins.service 3
    Twins.stock Twins.clock
  refine ⟨rfl, first.2 ⟨_, List.mem_cons_self, rfl⟩ _, fun turned => ?_⟩
  obtain ⟨e, member, replaces⟩ := second.1.mp turned
  cases List.mem_singleton.mp member
  cases replaces

end Composer

end SiteReport
