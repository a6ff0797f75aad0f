import SiteReport.Proofs.Composer.Apply
import SiteReport.Proofs.Composer.History

/-!
A submit that fails. It can fail before anything was uploaded, with every photo, and at the report
itself, when uploads have been made already. What stays of it is the same in all cases: the stock
knows of the uploads that it took note of, and nothing else has changed.
-/

namespace SiteReport

namespace Composer

theorem submit_eq_error {c after : Composer} {clock : Clock} {service : Service} {n : Nat}
    {run : SubmitRun} {e : SubmitError}
    (failed : c.submit clock service n = ((.error e, run), after)) :
    run = (Attempt.mk service n c.stock c.beginSubmit).run ∧ run.outcome.result = .error e ∧
    after = { c with stock := run.stock } := by
  let started := (c.runSubmit service n c.beginSubmit).2
  let made := (Attempt.mk service n c.stock c.beginSubmit).run
  have parts : c.submit clock service n =
      (((started.applySubmit clock made.outcome).1, made),
        (started.applySubmit clock made.outcome).2) := rfl
  rw [parts] at failed
  rcases started.applySubmit_cases clock made.outcome with ⟨stale, -⟩ |
    ⟨-, ⟨cause, result, told⟩ | ⟨report, -, accepted, -⟩⟩
  · exact absurd rfl stale
  · rw [told] at failed
    simp only [Prod.mk.injEq, Except.error.injEq] at failed
    obtain ⟨⟨rfl, rfl⟩, rfl⟩ := failed
    exact ⟨rfl, result, rfl⟩
  · rw [accepted] at failed
    simp at failed

/-- A failed submit leaves the document, its draft and all that belongs to it as they were. In the
stock some photos of the document that had no address on record now have that of an upload which
this submit made; there are none if the document was not valid or nobody is signed in. -/
theorem failed_submit_keeps_document {c after : Composer} {clock : Clock} {service : Service}
    {n : Nat} {run : SubmitRun} {e : SubmitError}
    (failed : c.submit clock service n = ((.error e, run), after)) :
    after = { c with stock := after.stock } ∧
    after.stock.store.slot = c.stock.store.slot ∧
    (∃ notes : List (PhotoId × String), after.stock = c.stock.noteAll notes ∧
      (∀ photo, photo ∉ notes.map (·.1) →
        after.stock.store.stored photo = c.stock.store.stored photo) ∧
      ∀ photo url, (photo, url) ∈ notes →
        (∃ p, c.stock.get photo = .ok (some p) ∧ p.uploadedUrl? = none ∧
          after.stock.get photo = .ok (some { p with uploaded := true, remoteUrl := some url })) ∧
        ∃ list, (list, photo) ∈ c.body.stagedPhotos ∧
          (Attempt.mk service n c.stock c.beginSubmit).Uploaded photo list.category.uploadedAs
            url) ∧
    ((∃ cause, e = .validation cause) ∨ service.token = none →
      after.stock = c.stock ∧
      ∀ event ∈ run.trace, event.isUpload = false ∧ event.isSend = false) := by
  obtain ⟨rfl, result, rfl⟩ := submit_eq_error failed
  obtain ⟨notes, distinct, stock_eq, uploads⟩ :=
    (Attempt.mk service n c.stock c.beginSubmit).run_stock
  refine ⟨rfl, ?_, ⟨notes, stock_eq, ?_, ?_⟩, ?_⟩
  · rw [stock_eq]
    exact c.stock.store.slot_noteAll notes
  · intro photo absent
    rw [stock_eq]
    exact Store.stored_noteAll_of_not_mem absent c.stock.store
  · intro photo url member
    obtain ⟨list, staged, uploaded⟩ := uploads photo url member
    obtain ⟨p, turn, request, stored, unsent, asked⟩ := uploaded
    refine ⟨⟨p, stored, unsent, ?_⟩, list, staged, p, turn, request, stored, unsent, asked⟩
    have marked := Stock.get_noteAll_of_mem distinct member c.stock
    rw [show c.stock.get photo = _ from stored] at marked
    rw [stock_eq]
    exact marked
  · intro refused
    refine Attempt.run_refused (refused.imp_left ?_)
    rintro ⟨cause, rfl⟩
    exact ⟨cause, result⟩

/-- A server that takes the photos and not the report, and nobody who is signed in. -/
theorem busy_submit_keeps_document :
    let busy := Twins.composer.submit Twins.clock Moved.busy 1
    let anonymous := Twins.composer.submit Twins.clock { Twins.service with token := none } 1
    busy.1.1 = .error (.transport (.status 503 "")) ∧
    busy.2 = { Twins.composer with stock := busy.2.stock } ∧
    busy.2.stock.get Twins.right =
      .ok (some { Twins.photo Twins.right with uploaded := true, remoteUrl := some "u" }) ∧
    anonymous.1.1 = .error .notAuthenticated ∧ anonymous.2.stock = Twins.stock ∧
    ∀ event ∈ anonymous.1.2.trace, event.isUpload = false ∧ event.isSend = false := by
  intro busy anonymous
  have failed : busy = ((.error (.transport (.status 503 "")), busy.1.2), busy.2) := rfl
  have refused : anonymous = ((.error .notAuthenticated, anonymous.1.2), anonymous.2) := rfl
  obtain ⟨kept, -⟩ := failed_submit_keeps_document failed
  obtain ⟨-, -, -, untouched⟩ := failed_submit_keeps_document refused
  obtain ⟨same, quiet⟩ := untouched (.inr rfl)
  exact ⟨rfl, kept, rfl, rfl, same, quiet⟩

end Composer

end SiteReport
