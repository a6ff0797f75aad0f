import SiteReport.Proofs.Document.WellFormed
import SiteReport.Proofs.Submission.Run

/-!
Attempts to send a report, one after another on one stock. An address that stands in a report comes
from an upload of the attempt, or from the stock, which does not tell under which category the photo
was uploaded then. So the categories of a report are right exactly if they are right for the photos
that were on record before.
-/

namespace SiteReport

/-- A run with all that it was started on. -/
structure Attempt where
  service : Service
  batchSize : Nat
  stock : Stock
  ticket : Ticket

namespace Attempt

open Submission

def run (a : Attempt) : SubmitRun := SubmitRun.start a.service a.batchSize a.stock a.ticket

/-- The addresses that the attempt found for staged photos. -/
def addresses (a : Attempt) : List (PhotoId × String) :=
  (attempt a.service a.batchSize a.ticket { stock := a.stock }).2.resolution.resolved

/-- The attempt uploaded the photo under a category, and was answered with the address. -/
def Uploaded (a : Attempt) (photo : PhotoId) (category : UploadCategory) (url : String) : Prop :=
  ∃ p turn request, a.stock.get photo = .ok (some p) ∧ p.uploadedUrl? = none ∧
    (requestsOf a.run.trace)[turn]? = some request ∧ request.fileName = p.name ∧
    request.data = String.ofList (Text.Base64.encode p.bytes) ∧ request.category = category ∧
    a.service.upload turn request = .ok url

variable {a : Attempt}

theorem requestsOf_run (a : Attempt) : requestsOf a.run.trace =
    requestsOf (attempt a.service a.batchSize a.ticket { stock := a.stock }).2.trace := by
  simp [run, SubmitRun.start, SubmitRun.ofAttempt, requestsOf]

/-- What an attempt found out, if it came to the report request. -/
theorem sent_spec {sending : SendRequest} (sent : a.run.sent? = some sending) :
    ∃ token date answers before,
      Delivery a.service a.stock a.ticket token date answers before ∧
      sending = reportRequest a.ticket token date before ∧
      a.addresses = before.resolution.resolved ∧
      requestsOf a.run.trace = requestsOf before.trace := by
  rcases SubmitRun.start_spec a.service a.batchSize a.stock a.ticket with ⟨-, -, none, -⟩ |
    ⟨token, date, answers, before, delivery, last, request, -, -⟩
  · rw [run, none] at sent
    cases sent
  · rw [run, request] at sent
    refine ⟨token, date, answers, before, delivery, (Option.some.inj sent).symm, ?_, ?_⟩
    · rw [addresses, last]
      rfl
    · rw [requestsOf_run, last, requestsOf_send]

/-- A run sends one report at most. -/
theorem mem_trace_send_iff {sending : SendRequest} :
    .send sending ∈ a.run.trace ↔ a.run.sent? = some sending := by
  constructor
  · intro member
    obtain ⟨phase, trace_eq⟩ := SubmitRun.trace_start a.service a.batchSize a.stock a.ticket
    rw [← run] at trace_eq
    rcases attempt_cases a.service a.batchSize a.ticket a.stock with ⟨cause, -, attempted⟩ |
      ⟨date, -, -, attempted⟩ | ⟨token, date, answers, before, delivery, attempted⟩
    · simp [trace_eq, attempted] at member
    · simp [trace_eq, attempted] at member
    · rw [attempted] at trace_eq
      have only : sending = reportRequest a.ticket token date before := by
        simpa [trace_eq, State.note, delivery.progress.quiet] using member
      rw [only]
      refine SubmitRun.sent?_of_trace ⟨[.phase phase], ?_⟩ delivery.progress.quiet
      simp [trace_eq, State.note]
  · intro sent
    obtain ⟨event, member, found⟩ := List.exists_of_findSome?_eq_some sent
    cases event with
    | send request =>
        cases found
        exact member
    | phase phase => cases found
    | upload request => cases found

theorem uploaded_of_answer {token : Token} {date : Date} {answers : List (Job × Found)}
    {before : State} (delivery : Delivery a.service a.stock a.ticket token date answers before)
    (requests : requestsOf a.run.trace = requestsOf before.trace) {job : Job} {url : String}
    (member : (job, .uploaded url) ∈ answers) :
    a.Uploaded job.photo job.list.category.uploadedAs url := by
  obtain ⟨p, turn, stored, unsent, asked, answer⟩ := delivery.progress.explained _ _ member
  exact ⟨p, turn, request token date job p, stored, unsent, requests ▸ asked, rfl, rfl, rfl, answer⟩

theorem Uploaded.category_mem {photo : PhotoId} {category : UploadCategory} {url : String}
    (h : a.Uploaded photo category url) :
    category ∈ (requestsOf a.run.trace).map (·.category) := by
  obtain ⟨_, _, request, -, -, asked, -, -, rfl, -⟩ := h
  exact List.mem_map.mpr ⟨request, List.mem_of_getElem? asked, rfl⟩

theorem not_uploaded_of_recorded {photo : PhotoId} {p : StagedPhoto} {known : String}
    (stored : a.stock.get photo = .ok (some p)) (recorded : p.uploadedUrl? = some known)
    (category : UploadCategory) (url : String) : ¬ a.Uploaded photo category url := by
  rintro ⟨q, -, -, again, unsent, -⟩
  rw [stored] at again
  cases again
  rw [recorded] at unsent
  cases unsent

/-- The addresses of a report come from uploads under the right categories exactly if those do that
the stock had on record. -/
theorem addresses_uploaded_iff (sound : a.ticket.body.WellFormed) {sending : SendRequest}
    (sent : a.run.sent? = some sending) (earlier : List Attempt) :
    (∀ list photo url, (list, photo) ∈ a.ticket.body.stagedPhotos →
      a.addresses.lookup photo = some url →
      ∃ e ∈ earlier ++ [a], e.Uploaded photo list.category.uploadedAs url) ↔
    ∀ list photo p url, (list, photo) ∈ a.ticket.body.stagedPhotos →
      a.stock.get photo = .ok (some p) → p.uploadedUrl? = some url →
      ∃ e ∈ earlier, e.Uploaded photo list.category.uploadedAs url := by
  obtain ⟨token, date, answers, before, delivery, -, addresses_eq, requests⟩ := sent_spec sent
  rw [addresses_eq]
  constructor
  · intro right list photo p url staged stored recorded
    obtain ⟨job, found, member, rfl⟩ := delivery.exists_answer staged
    have reused : found = .reused url :=
      (delivery.progress.explained job found member).eq_reused stored recorded
    have found_url : found.url? = some url := by rw [reused]; rfl
    obtain ⟨e, he, uploaded⟩ := right list job.photo url staged
      (delivery.lookup_eq_some_iff.mpr ⟨job, found, member, rfl, found_url⟩)
    rcases List.mem_append.mp he with past | now
    · exact ⟨e, past, uploaded⟩
    · rw [List.mem_singleton.mp now] at uploaded
      exact absurd uploaded (not_uploaded_of_recorded stored recorded _ _)
  · intro right list photo url staged found_url
    obtain ⟨job, found, member, rfl, known⟩ := delivery.lookup_eq_some_iff.mp found_url
    have explained := delivery.progress.explained job found member
    cases found with
    | reused u =>
        cases known
        obtain ⟨p, stored, recorded⟩ := explained
        obtain ⟨e, he, uploaded⟩ := right list job.photo p url staged stored recorded
        exact ⟨e, List.mem_append_left _ he, uploaded⟩
    | uploaded u =>
        -- the upload went by the category of the first list; the other lists have the same one
        cases known
        obtain ⟨photos, inside, there⟩ := Body.mem_stagedPhotos_iff.mp staged
        obtain ⟨photos', inside', there'⟩ :=
          Body.mem_stagedPhotos_iff.mp (delivery.staged_of_answer member)
        have category := sound.one_category inside inside' there there'
        refine ⟨a, List.mem_append_right _ (List.mem_singleton_self a), ?_⟩
        rw [category]
        exact uploaded_of_answer delivery requests member
    | failed reason => cases known

/-- What an attempt leaves in the stock: uploads of its own are noted, and nothing else is done. -/
theorem run_stock (a : Attempt) : ∃ notes, (notes.map (·.1)).Nodup ∧
    a.run.stock = a.stock.noteAll notes ∧
    ∀ photo url, (photo, url) ∈ notes → ∃ list, (list, photo) ∈ a.ticket.body.stagedPhotos ∧
      a.Uploaded photo list.category.uploadedAs url := by
  rcases SubmitRun.start_spec a.service a.batchSize a.stock a.ticket with ⟨-, -, -, same, -⟩ |
    ⟨token, date, answers, before, delivery, last, -, stock_eq, -⟩
  · exact ⟨[], List.nodup_nil, same, by simp⟩
  · obtain ⟨notes, distinct, noted, uploads⟩ := delivery.notes
    refine ⟨notes, distinct, stock_eq.trans noted, ?_⟩
    intro photo url member
    obtain ⟨job, answered, rfl⟩ := uploads photo url member
    have requests : requestsOf a.run.trace = requestsOf before.trace := by
      rw [requestsOf_run, last, requestsOf_send]
    exact ⟨job.list, delivery.staged_of_answer answered,
      uploaded_of_answer delivery requests answered⟩

/-- A run that is refused at once does nothing but show its phases. -/
theorem run_refused {a : Attempt}
    (refused : (∃ cause, a.run.outcome.result = .error (.validation cause)) ∨
      a.service.token = none) :
    a.run.stock = a.stock ∧ ∀ e ∈ a.run.trace, e.isUpload = false ∧ e.isSend = false := by
  have quiet (result) (attempted : attempt a.service a.batchSize a.ticket { stock := a.stock } =
      (.error result, { stock := a.stock, trace := [.phase .validating] })) :
      a.run.stock = a.stock ∧ ∀ e ∈ a.run.trace, e.isUpload = false ∧ e.isSend = false := by
    simp [run, SubmitRun.start, SubmitRun.ofAttempt, attempted, SubmitEvent.isUpload, SubmitEvent.isSend]
  rcases attempt_cases a.service a.batchSize a.ticket a.stock with ⟨cause, -, attempted⟩ |
    ⟨date, -, -, attempted⟩ | ⟨token, date, answers, before, delivery, attempted⟩
  · exact quiet _ attempted
  · exact quiet _ attempted
  · exfalso
    rcases refused with ⟨cause, failed⟩ | absent
    · have result_eq : a.run.outcome.result =
          (attempt a.service a.batchSize a.ticket { stock := a.stock }).1 := rfl
      rw [result_eq, attempted] at failed
      unfold resultOf at failed
      split at failed <;> cases failed
    · rw [delivery.signedIn] at absent
      cases absent

/-- What is on record after an attempt was so before, or was uploaded by it. -/
theorem recorded_after {photo : PhotoId} {url : String}
    (recorded : a.run.stock.store.recorded? photo = some url) :
    a.stock.store.recorded? photo = some url ∨ ∃ category, a.Uploaded photo category url := by
  obtain ⟨notes, -, stock_eq, uploads⟩ := a.run_stock
  rw [stock_eq] at recorded
  rcases Store.recorded?_noteAll recorded with old | noted
  · exact .inl old
  · obtain ⟨list, -, uploaded⟩ := uploads photo url noted
    exact .inr ⟨_, uploaded⟩

end Attempt

end SiteReport
