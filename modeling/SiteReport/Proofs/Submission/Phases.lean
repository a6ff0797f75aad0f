import SiteReport.Proofs.Submission.Account

/-!
The phases that a run shows. After each batch it tells how many photos are settled, which is the sum
of those with an address and those that were dropped. No photo is counted twice, as no two jobs are
about one photo, so the count goes up batch by batch and ends at the number of staged photos.
-/

namespace SiteReport

namespace Submission

variable {service : Service} {token : Token} {date : Date}

/-! ### What is shown and what is settled -/

/-- The phases among all that a run shows. -/
def phasesOf (trace : List SubmitEvent) : List SubmitPhase := trace.filterMap fun
  | .phase p => some p
  | _ => none

@[simp] theorem phasesOf_note_phase (s : State) (p : SubmitPhase) :
    phasesOf (s.note (.phase p)).trace = phasesOf s.trace ++ [p] := by
  simp [phasesOf, State.note]

@[simp] theorem phasesOf_note_upload (s : State) (r : UploadRequest) :
    phasesOf (s.note (.upload r)).trace = phasesOf s.trace := by
  simp [phasesOf, State.note]

@[simp] theorem phasesOf_note_send (s : State) (r : SendRequest) :
    phasesOf (s.note (.send r)).trace = phasesOf s.trace := by
  simp [phasesOf, State.note]

/-- The photos that have come to an address or were dropped. -/
def State.settledPhotos (s : State) : List PhotoId :=
  s.resolution.resolved.map (·.1) ++ s.resolution.dropped

theorem State.done_eq (s : State) : s.done = s.settledPhotos.length := by
  simp [done, settledPhotos]

theorem settledPhotos_settled (s : State) (answers : List (Job × Found)) :
    (settled s answers).settledPhotos.Perm (s.settledPhotos ++ answers.map (·.1.photo)) := by
  have regrouped : (settled s answers).settledPhotos.Perm (s.settledPhotos ++
      ((resolutionOf answers).resolved.map (·.1) ++ (resolutionOf answers).dropped)) := by
    simp only [State.settledPhotos, settled, List.map_append, List.append_assoc]
    exact (List.perm_append_comm_assoc _ _ _).append_left _
  exact regrouped.trans ((resolution_perm answers).append_left _)

/-- Looking for addresses settles nothing and shows no phase. -/
theorem find_aside (service : Service) (token : Token) (date : Date) (s : State) (job : Job) :
    (find service token date s job).2.resolution = s.resolution ∧
      phasesOf (find service token date s job).2.trace = phasesOf s.trace := by
  unfold find
  split
  · exact ⟨rfl, rfl⟩
  · exact ⟨rfl, rfl⟩
  · split
    · exact ⟨rfl, rfl⟩
    · exact ⟨rfl, phasesOf_note_upload s _⟩

theorem findAll_aside (service : Service) (token : Token) (date : Date) (s : State)
    (batch : List Job) :
    (findAll service token date s batch).2.resolution = s.resolution ∧
      phasesOf (findAll service token date s batch).2.trace = phasesOf s.trace := by
  induction batch generalizing s with
  | nil => exact ⟨rfl, rfl⟩
  | cons job rest ih =>
      obtain ⟨resolution, shown⟩ := find_aside service token date s job
      obtain ⟨resolution', shown'⟩ := ih (find service token date s job).2
      exact ⟨resolution'.trans resolution, shown'.trans shown⟩

/-! ### Batch after batch -/

/-- One batch settles its photos, and shows how many are settled by then. -/
theorem resolveBatch_shows (service : Service) (token : Token) (date : Date) (total : Nat)
    (s : State) (batch : List Job) :
    let after := resolveBatch service token date total s batch
    after.settledPhotos.Perm (s.settledPhotos ++ batch.map (·.photo)) ∧
      phasesOf after.trace = phasesOf s.trace ++ [.uploading (s.done + batch.length) total] := by
  have photos := photos_findAll service token date s batch
  obtain ⟨resolution, shown⟩ := findAll_aside service token date s batch
  unfold resolveBatch
  simp only
  generalize findAll service token date s batch = answer at photos resolution shown
  obtain ⟨answers, mid⟩ := answer
  simp only at photos resolution shown ⊢
  rw [foldl_record_eq, foldl_settle_eq]
  generalize mid.stock.noteAll _ = stock
  have settles := settledPhotos_settled { mid with stock } answers
  have before : State.settledPhotos { mid with stock } = s.settledPhotos := by
    rw [State.settledPhotos, resolution, State.settledPhotos]
  rw [before, photos] at settles
  have count : (settled { mid with stock } answers).done = s.done + batch.length := by
    rw [State.done_eq, settles.length_eq, List.length_append, List.length_map, s.done_eq]
  refine ⟨settles, ?_⟩
  rw [phasesOf_note_phase, count]
  exact congrArg (· ++ _) shown

/-- Several batches. -/
theorem foldl_resolveBatch_shows (service : Service) (token : Token) (date : Date) (total : Nat)
    (s : State) (parts : List (List Job)) :
    let after := parts.foldl (resolveBatch service token date total) s
    after.settledPhotos.Perm (s.settledPhotos ++ parts.flatten.map (·.photo)) ∧
      phasesOf after.trace =
        phasesOf s.trace ++ (doneAfter s.done parts).map (.uploading · total) := by
  induction parts generalizing s with
  | nil => simp [doneAfter]
  | cons batch rest ih =>
      obtain ⟨settles, shown⟩ := resolveBatch_shows service token date total s batch
      have count : (resolveBatch service token date total s batch).done =
          s.done + batch.length := by
        rw [State.done_eq, settles.length_eq, List.length_append, List.length_map, s.done_eq]
      obtain ⟨others, later⟩ := ih (resolveBatch service token date total s batch)
      refine ⟨?_, ?_⟩
      · rw [List.flatten_cons, List.map_append, ← List.append_assoc]
        exact others.trans (settles.append_right _)
      · rw [List.foldl_cons, later, shown, count, doneAfter, List.map_cons, List.append_assoc,
          List.singleton_append]

/-- A run that is not refused shows the uploads, batch by batch, and that the report is put
together. -/
theorem phasesOf_deliverParts (service : Service) (ticket : Ticket) (token : Token) (date : Date)
    (s : State) (parts : List (List Job)) :
    phasesOf (deliverParts service ticket token date s parts).2.trace =
      phasesOf s.trace ++ .uploading 0 (jobs ticket.body).length ::
        (doneAfter s.done parts).map (.uploading · (jobs ticket.body).length) ++
          [.assembling] := by
  obtain ⟨-, shown⟩ := foldl_resolveBatch_shows service token date (jobs ticket.body).length
    (s.note (.phase (.uploading 0 (jobs ticket.body).length))) parts
  have same : (s.note (.phase (.uploading 0 (jobs ticket.body).length))).done = s.done := rfl
  rw [same, phasesOf_note_phase] at shown
  unfold deliverParts
  simp only
  generalize List.foldl (resolveBatch service token date _) _ _ = last at shown
  split <;> simp [shown]

end Submission

namespace SubmitOutcome

/-- The phase that an outcome is shown by. -/
def phase (o : SubmitOutcome) : SubmitPhase :=
  match o.result with
  | .ok _ => .sent
  | .error _ => .failed

end SubmitOutcome

namespace SubmitRun

open Submission

theorem phases_eq (service : Service) (n : Nat) (stock : Stock) (ticket : Ticket) :
    (start service n stock ticket).phases =
      phasesOf (attempt service n ticket { stock }).2.trace ++
        [(start service n stock ticket).outcome.phase] := by
  have shown : (start service n stock ticket).trace =
      (attempt service n ticket { stock }).2.trace ++
        [.phase (start service n stock ticket).outcome.phase] := rfl
  show phasesOf (start service n stock ticket).trace = _
  rw [shown]
  simp [phasesOf]

theorem phases_of_refused {service : Service} {n : Nat} {stock : Stock} {ticket : Ticket}
    {e : SubmitError} (refused : attempt service n ticket { stock } =
      (.error e, { stock, trace := [.phase .validating] })) :
    (start service n stock ticket).phases = [.validating, .failed] := by
  have failed : (start service n stock ticket).outcome.phase = .failed := by
    rw [start, refused]
    rfl
  rw [phases_eq, failed, refused]
  rfl

theorem phases_of_delivered {service : Service} {token : Token} {date : Date} {ticket : Ticket}
    (valid : validate ticket.header ticket.body = .ok date) (signedIn : service.token = some token)
    (n : Nat) (stock : Stock) :
    (start service n stock ticket).phases =
      .validating :: .uploading 0 (jobs ticket.body).length ::
        (doneAfter 0 (batches n (jobs ticket.body))).map (.uploading · (jobs ticket.body).length) ++
          [.assembling, (start service n stock ticket).outcome.phase] := by
  have shown := phases_eq service n stock ticket
  rw [attempt_of_ready valid signedIn, phasesOf_deliverParts] at shown
  refine shown.trans ?_
  simp [phasesOf, State.note, State.done]

theorem length_jobs (body : Body) : (jobs body).length = body.stagedIds.length := by
  rw [← List.length_map Job.photo, photos_jobs]

/-- The photos that some batches settle are the first ones of the document, each once. -/
theorem settled_after_batches (service : Service) (token : Token) (date : Date) (n total : Nat)
    (stock : Stock) (body : Body) (k : Nat) :
    let after := ((batches n (jobs body)).take k).foldl
      (resolveBatch service token date total) (begun stock total)
    after.settledPhotos.Nodup ∧ after.settledPhotos.Perm (body.stagedIds.take (k * max n 1)) := by
  intro after
  obtain ⟨settles, -⟩ := foldl_resolveBatch_shows service token date total (begun stock total)
    ((batches n (jobs body)).take k)
  have first : after.settledPhotos.Perm (body.stagedIds.take (k * max n 1)) := by
    rw [flatten_take_batches, List.map_take, photos_jobs] at settles
    exact settles
  have distinct : (body.stagedIds.take (k * max n 1)).Nodup :=
    body.nodup_stagedIds.sublist (List.take_sublist _ _)
  exact ⟨first.nodup_iff.mpr distinct, first⟩

/-- A run that is refused shows that it looked and failed. Any other run shows the number of photos
that are settled, from none, after each batch up to the full size of the batches so far, until all
staged photos are; then that the report is put together, and last how it ended. The photos that are
settled after a number of batches are the first ones of the document, each counted once, as one with
an address or one that was dropped. -/
theorem phases_of_run (service : Service) (n : Nat) (stock : Stock) (ticket : Ticket) :
    let run := start service n stock ticket
    let staged := ticket.body.stagedIds
    let total := staged.length
    let size := max n 1
    let counts := (List.range ((total + size - 1) / size)).map fun k => min ((k + 1) * size) total
    staged.Nodup ∧
    counts.length = (batches n (jobs ticket.body)).length ∧
    (0 :: counts).Pairwise (· < ·) ∧ (0 :: counts).getLast? = some total ∧
    (run.phases =
      match validate ticket.header ticket.body, service.token with
      | .ok _, some _ => .validating :: .uploading 0 total :: counts.map (.uploading · total) ++
          [.assembling, run.outcome.phase]
      | _, _ => [.validating, .failed]) ∧
    ∀ token date k,
      let after := ((batches n (jobs ticket.body)).take k).foldl
        (resolveBatch service token date total) (begun stock total)
      after.done = after.settledPhotos.length ∧ after.settledPhotos.Nodup ∧
        after.settledPhotos.Perm (staged.take (k * size)) := by
  intro run staged total size counts
  have counted : (jobs ticket.body).length = total := length_jobs ticket.body
  have counts_eq : counts = doneAfter 0 (batches n (jobs ticket.body)) := by
    rw [doneAfter_batches, counted]
  refine ⟨ticket.body.nodup_stagedIds, ?_, ?_, ?_, ?_, ?_⟩
  · rw [counts_eq, length_doneAfter]
  · rw [counts_eq]
    exact doneAfter_increases 0 fun part member => ne_nil_of_mem_batchesOf member
  · rw [counts_eq, getLast?_cons_doneAfter, flatten_batches, counted, Nat.zero_add]
  · rcases attempt_cases service n ticket stock with ⟨cause, invalid, refused⟩ |
      ⟨date, valid, absent, refused⟩ | ⟨token, date, answers, before, delivery, -⟩
    · rw [invalid]
      exact phases_of_refused refused
    · rw [valid, absent]
      exact phases_of_refused refused
    · have shown := phases_of_delivered delivery.valid delivery.signedIn n stock
      rw [counted, ← counts_eq] at shown
      rw [delivery.valid, delivery.signedIn]
      exact shown
  · intro token date k after
    obtain ⟨distinct, first⟩ :=
      settled_after_batches service token date n total stock ticket.body k
    exact ⟨after.done_eq, distinct, first⟩

end SubmitRun

end SiteReport
