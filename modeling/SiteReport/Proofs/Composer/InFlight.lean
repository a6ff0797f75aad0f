import SiteReport.Proofs.Composer.Edits
import SiteReport.Proofs.Submission.Resubmission

/-!
A report on its way, and edits in the meantime. The outcome knows nothing of the edits: it brings
addresses for the photos of its ticket, and the count of edits when the ticket was taken. That is
enough to rewrite the document as it is now, to leave photos alone that came later, and to tell
whether the draft is still needed.
-/

namespace SiteReport

namespace Submission.Delivery

variable {service : Service} {stock : Stock} {ticket : Ticket} {token : Token} {date : Date}
  {answers : List (Job × Found)} {before : State}

/-- A photo that is not in the ticket gets no address. -/
theorem lookup_of_not_staged (h : Delivery service stock ticket token date answers before)
    {photo : PhotoId} (absent : photo ∉ ticket.body.stagedPhotos.map (·.2)) :
    before.resolution.resolved.lookup photo = none := by
  rw [Option.eq_none_iff_forall_ne_some]
  intro url hu
  obtain ⟨job, found, member, rfl, -⟩ := h.lookup_eq_some_iff.mp hu
  exact absent (List.mem_map.mpr ⟨_, h.staged_of_answer member, rfl⟩)

theorem not_dropped_of_not_staged (h : Delivery service stock ticket token date answers before)
    {photo : PhotoId} (absent : photo ∉ ticket.body.stagedPhotos.map (·.2)) :
    photo ∉ before.resolution.dropped := by
  intro dropped
  obtain ⟨job, found, member, rfl, -⟩ := h.mem_dropped_iff.mp dropped
  exact absent (List.mem_map.mpr ⟨_, h.staged_of_answer member, rfl⟩)

end Submission.Delivery

namespace Composer

/-- A report that was sent from a ticket speaks of no photo but those of the ticket. -/
theorem staged_of_report {service : Service} {n : Nat} {stock : Stock} {ticket : Ticket}
    {report : SubmitReport}
    (sent : (SubmitRun.start service n stock ticket).outcome.result = .ok report) {photo : PhotoId}
    (absent : photo ∉ ticket.body.stagedPhotos.map (·.2)) :
    photo ∉ report.resolution.dropped ∧ report.resolution.resolved.lookup photo = none := by
  rcases SubmitRun.start_spec service n stock ticket with ⟨e, failed, -⟩ |
    ⟨token, date, answers, before, delivery, -, -, -, answered⟩
  · rw [sent] at failed
    cases failed
  · obtain ⟨-, resolution_eq, -⟩ := answered report sent
    rw [resolution_eq]
    exact ⟨delivery.not_dropped_of_not_staged absent, delivery.lookup_of_not_staged absent⟩

/-- Whatever is edited while a report is on its way stays edited when the outcome is taken over, and
keeps its draft. -/
theorem edits_survive_outcome {c : Composer} {service : Service} {n : Nat} {stock : Stock}
    {report : SubmitReport} {session : List (Clock × Command)}
    (sent : (SubmitRun.start service n stock c.beginSubmit).outcome.result = .ok report)
    (isEdit : ∀ e ∈ session, e.2.isEdit = true) (clock : Clock) :
    let run := SubmitRun.start service n stock c.beginSubmit
    let live := c.play session
    let after := (live.applySubmit clock run.outcome).2
    (live.applySubmit clock run.outcome).1 = .ok report ∧
    after.header = live.header ∧ after.remoteId = some report.remoteId ∧
    after.body.sections.map (fun s => (s.id, s.content.withoutPhotos)) =
      live.body.sections.map (fun s => (s.id, s.content.withoutPhotos)) ∧
    after.body.lists = live.body.lists.map (fun (list, photos) =>
      (list, ((photos.filter (Body.Resolution.keeps report.resolution)).map
        (Body.Resolution.replaced report.resolution)).eraseDups)) ∧
    (∀ photo, photo ∉ c.body.stagedPhotos.map (·.2) →
      after.stock.store.stored photo = live.stock.store.stored photo ∧
      ∀ list photos, (list, photos) ∈ live.body.lists → .staged photo ∈ photos →
        ∃ ps, (list, ps) ∈ after.body.lists ∧ .staged photo ∈ ps) ∧
    (live.header ≠ c.header ∨ live.body.sections ≠ c.body.sections ∨ live.remoteId ≠ c.remoteId →
      after.isDirty = true ∧ after.stock.store.slot = live.stock.store.slot) ∧
    (session = [] ∨ live.revision = c.revision →
      after.isDirty = false ∧ after.stock.store.slot =
        if live.stock.store.faults .draftClear = none then none else live.stock.store.slot) := by
  intro run live after
  obtain ⟨edits, edited⟩ := play_edited isEdit c
  have current : run.outcome.generation = live.generation := edited.generation_eq.symm
  obtain ⟨accepted, applied⟩ := applySubmit_applied clock current sent
  refine ⟨accepted, applied.header_eq, applied.remoteId_eq, ?_, ?_, ?_, ?_, ?_⟩
  · rw [applied.body_eq]
    exact Body.withoutPhotos_resolve live.body report.resolution
  · rw [applied.body_eq, Body.lists_resolve]
    simp only [Body.resolution_apply_eq]
  · intro photo absent
    obtain ⟨kept, missing⟩ := staged_of_report sent absent
    refine ⟨applied.stored_eq photo ?_, ?_⟩
    · rw [List.lookup_eq_none_iff] at missing
      intro there
      obtain ⟨⟨id, url⟩, member, rfl⟩ := List.mem_map.mp there
      simpa using missing (id, url) member
    · intro list photos member staged
      rw [applied.body_eq]
      exact ⟨_, Body.mem_lists_resolve.mpr ⟨photos, member, rfl⟩,
        Body.staged_mem_resolution_apply.mpr ⟨staged, kept, missing⟩⟩
  · intro changed
    refine applied.edited fun same => ?_
    obtain ⟨header, body, remoteId⟩ := edited.unchanged same.symm
    rcases changed with differs | differs | differs
    · exact differs header
    · exact differs (congrArg Body.sections body)
    · exact differs remoteId
  · intro still
    apply applied.unedited
    rcases still with rfl | same
    · rfl
    · exact same.symm

/-- A third photo is attached while the first two are on their way. -/
theorem attached_in_flight :
    let list : PhotoList := ⟨⟨1⟩, .completed⟩
    let live := Twins.composer.play [(Twins.clock, .attachPhoto list (.staged ⟨3, by decide⟩))]
    let after := (live.applySubmit Twins.clock
      (SubmitRun.start Twins.service 3 Twins.stock Twins.composer.beginSubmit).outcome).2
    after.body.lists = [(list, [.resolved "u", .staged ⟨3, by decide⟩])] ∧
    after.isDirty = true ∧ after.stock.store.slot = live.stock.store.slot := by
  intro list live after
  have isEdit : ∀ e ∈ [(Twins.clock, Command.attachPhoto list (.staged ⟨3, by decide⟩))],
      e.2.isEdit = true := by simp [Command.isEdit]
  obtain ⟨-, -, -, -, lists, -, changed, -⟩ :=
    edits_survive_outcome Twins.sent isEdit Twins.clock
  have edited : live.body.sections ≠ Twins.composer.body.sections := by decide
  exact ⟨lists.trans (by decide), changed (.inr (.inl edited))⟩

/-- A composer whose store cannot clear the draft that it holds. -/
def stuck : Composer :=
  Twins.composer.mapStore
    ⟨.memory { photos := [Twins.photo Twins.left, Twins.photo Twins.right], draft := some "d" },
      fun | .draftClear => some (.database "locked") | _ => none⟩

/-- The draft stays in its slot after a report that was not edited meanwhile. -/
theorem draft_kept_by_store :
    let run := SubmitRun.start Twins.service 3 stuck.stock stuck.beginSubmit
    run.outcome.result = .ok Twins.report ∧
    ((stuck.play []).applySubmit Twins.clock run.outcome).2.stock.store.slot = some "d" ∧
    ((stuck.play []).applySubmit Twins.clock run.outcome).2.isDirty = false :=
  ⟨rfl, rfl, rfl⟩

end Composer

end SiteReport
