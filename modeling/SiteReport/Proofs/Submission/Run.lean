import SiteReport.Proofs.Store.Records
import SiteReport.Proofs.Submission.Jobs

/-!
What a run has found out, step by step. Its answers are kept beside the state as a list of jobs with
what became of each; the state is then a summary of the list, and each answer goes back to the stock
at the start of the run or to an upload of the run. This holds because no two jobs are about one
photo: what a batch notes in the stock is not looked at again.
-/

namespace SiteReport

namespace Submission

def Found.url? : Found → Option String
  | .reused url => some url
  | .uploaded url => some url
  | .failed _ => none

/-- Jobs with what became of them, as a resolution. -/
def resolutionOf (answers : List (Job × Found)) : Resolution :=
  { resolved := answers.filterMap fun (job, found) => found.url?.map (job.photo, ·)
    dropped := answers.filterMap fun (job, found) =>
      if found.url?.isNone then some job.photo else none }

theorem resolutionOf_append (answers more : List (Job × Found)) :
    resolutionOf (answers ++ more) =
      { resolved := (resolutionOf answers).resolved ++ (resolutionOf more).resolved
        dropped := (resolutionOf answers).dropped ++ (resolutionOf more).dropped } := by
  simp [resolutionOf]

theorem mem_resolved_iff {answers : List (Job × Found)} {photo : PhotoId} {url : String} :
    (photo, url) ∈ (resolutionOf answers).resolved ↔
      ∃ job found, (job, found) ∈ answers ∧ job.photo = photo ∧ found.url? = some url := by
  simp only [resolutionOf, List.mem_filterMap, Option.map_eq_some_iff, Prod.mk.injEq]
  constructor
  · rintro ⟨⟨job, found⟩, member, u, hu, rfl, rfl⟩
    exact ⟨job, found, member, rfl, hu⟩
  · rintro ⟨job, found, member, rfl, hu⟩
    exact ⟨(job, found), member, url, hu, rfl, rfl⟩

theorem mem_dropped_iff {answers : List (Job × Found)} {photo : PhotoId} :
    photo ∈ (resolutionOf answers).dropped ↔
      ∃ job found, (job, found) ∈ answers ∧ job.photo = photo ∧ found.url? = none := by
  simp only [resolutionOf, List.mem_filterMap, Option.ite_none_right_eq_some,
    Option.isNone_iff_eq_none, Option.some.injEq]
  constructor
  · rintro ⟨⟨job, found⟩, member, none, rfl⟩
    exact ⟨job, found, member, rfl, none⟩
  · rintro ⟨job, found, member, rfl, none⟩
    exact ⟨(job, found), member, none, rfl⟩

/-- The uploads that were asked for, in their order. -/
def requestsOf (trace : List SubmitEvent) : List UploadRequest := trace.filterMap fun
  | .upload request => some request
  | _ => none

def Found.isUploaded : Found → Bool
  | .uploaded _ => true
  | _ => false

def Found.isReused : Found → Bool
  | .reused _ => true
  | _ => false

/-- The photos that came to no address, with the reasons. -/
def failuresOf (answers : List (Job × Found)) : List UploadError := answers.filterMap fun
  | (job, .failed reason) => some ⟨job.list, job.photo, reason⟩
  | _ => none

/-- The uploads that succeeded. -/
def uploadsOf (answers : List (Job × Found)) : List (PhotoId × String) := answers.filterMap fun
  | (job, .uploaded url) => some (job.photo, url)
  | _ => none

/-- The uploads that the stock takes note of, which are none while its store fails to. -/
def notesOf (stock : Stock) (answers : List (Job × Found)) : List (PhotoId × String) :=
  if stock.store.faults .markUploaded = none then uploadsOf answers else []

theorem mem_uploadsOf_iff {answers : List (Job × Found)} {photo : PhotoId} {url : String} :
    (photo, url) ∈ uploadsOf answers ↔
      ∃ job, (job, .uploaded url) ∈ answers ∧ job.photo = photo := by
  simp only [uploadsOf, List.mem_filterMap]
  constructor
  · rintro ⟨⟨job, found⟩, member, same⟩
    cases found <;> cases same
    exact ⟨job, member, rfl⟩
  · rintro ⟨job, member, rfl⟩
    exact ⟨_, member, rfl⟩

theorem notesOf_sublist (stock : Stock) (answers : List (Job × Found)) :
    (notesOf stock answers).Sublist (uploadsOf answers) := by
  unfold notesOf
  split
  · exact List.Sublist.refl _
  · exact List.nil_sublist _

theorem notesOf_append (stock : Stock) (answers more : List (Job × Found)) :
    notesOf stock (answers ++ more) = notesOf stock answers ++ notesOf stock more := by
  unfold notesOf
  split
  · rw [uploadsOf, List.filterMap_append]
    rfl
  · rfl

theorem notesOf_noteAll (stock : Stock) (notes : List (PhotoId × String))
    (answers : List (Job × Found)) :
    notesOf (stock.noteAll notes) answers = notesOf stock answers := by
  simp only [notesOf, Stock.noteAll, Store.faults_noteAll]

theorem notesOf_perm (stock : Stock) {answers more : List (Job × Found)} (h : answers.Perm more) :
    (notesOf stock answers).Perm (notesOf stock more) := by
  unfold notesOf
  split
  · exact h.filterMap _
  · exact .refl []

/-- The upload that a photo needs: it is there, and no address of it is on record. -/
def requestFor? (token : Token) (date : Date) (stock : Stock) (job : Job) : Option UploadRequest :=
  match stock.get job.photo with
  | .ok (some p) => if p.uploadedUrl?.isNone then some (request token date job p) else none
  | _ => none

section

variable (service : Service) (token : Token) (date : Date)

/-- Where the answer about a photo comes from: the stock, or one of the uploads. -/
def Explained (stock : Stock) (requests : List UploadRequest) (job : Job) : Found → Prop
  | .reused url => ∃ p, stock.get job.photo = .ok (some p) ∧ p.uploadedUrl? = some url
  | .uploaded url => ∃ p turn, stock.get job.photo = .ok (some p) ∧ p.uploadedUrl? = none ∧
      requests[turn]? = some (request token date job p) ∧
      service.upload turn (request token date job p) = .ok url
  | .failed .missing => stock.get job.photo = .ok none
  | .failed (.store cause) => stock.get job.photo = .error cause
  | .failed (.service cause) => ∃ p turn, stock.get job.photo = .ok (some p) ∧
      p.uploadedUrl? = none ∧ requests[turn]? = some (request token date job p) ∧
      service.upload turn (request token date job p) = .error cause

/-- The state after a run has answered some of its jobs, started on a stock. -/
structure Progress (stock : Stock) (s : State) (answers : List (Job × Found)) : Prop where
  resolution_eq : s.resolution = resolutionOf answers
  uploaded_eq : s.uploaded = answers.countP (·.2.isUploaded)
  reused_eq : s.reused = answers.countP (·.2.isReused)
  failed_eq : s.failed = failuresOf answers
  turns_eq : s.turns = (requestsOf s.trace).length
  quiet : ∀ request, .send request ∉ s.trace
  requests_eq : requestsOf s.trace = (answers.map (·.1)).filterMap (requestFor? token date stock)
  explained : ∀ job found, (job, found) ∈ answers →
    Explained service token date stock (requestsOf s.trace) job found
  noted : ∃ notes, notes.Perm (notesOf stock answers) ∧ s.stock = stock.noteAll notes

end

variable {service : Service} {token : Token} {date : Date}

theorem Explained.mono {stock : Stock} {requests : List UploadRequest} {job : Job} {found : Found}
    (h : Explained service token date stock requests job found) (more : List UploadRequest) :
    Explained service token date stock (requests ++ more) job found := by
  have still {turn : Nat} {r : UploadRequest} (asked : requests[turn]? = some r) :
      (requests ++ more)[turn]? = some r := by
    obtain ⟨inside, -⟩ := List.getElem?_eq_some_iff.mp asked
    rw [List.getElem?_append_left inside, asked]
  cases found with
  | reused url => exact h
  | uploaded url =>
      obtain ⟨p, turn, stored, unsent, asked, answer⟩ := h
      exact ⟨p, turn, stored, unsent, still asked, answer⟩
  | failed reason =>
      cases reason with
      | missing => exact h
      | store cause => exact h
      | service cause =>
          obtain ⟨p, turn, stored, unsent, asked, answer⟩ := h
          exact ⟨p, turn, stored, unsent, still asked, answer⟩

/-- Of the stock, only the photo itself matters. -/
theorem Explained.of_get_eq {stock stock' : Stock} {requests : List UploadRequest} {job : Job}
    {found : Found} (h : Explained service token date stock requests job found)
    (same : stock.get job.photo = stock'.get job.photo) :
    Explained service token date stock' requests job found := by
  cases found with
  | reused url => rwa [Explained, ← same]
  | uploaded url => rwa [Explained, ← same]
  | failed reason => cases reason <;> rwa [Explained, ← same]

/-- A photo that is on record is not uploaded; its address is taken from there. -/
theorem Explained.eq_reused {stock : Stock} {requests : List UploadRequest} {job : Job}
    {found : Found} (h : Explained service token date stock requests job found) {p : StagedPhoto}
    {url : String} (stored : stock.get job.photo = .ok (some p))
    (recorded : p.uploadedUrl? = some url) : found = .reused url := by
  cases found with
  | reused known =>
      obtain ⟨q, again, noted⟩ := h
      rw [stored] at again
      cases again
      rw [recorded] at noted
      rw [Option.some.inj noted]
  | uploaded known =>
      obtain ⟨q, -, again, unsent, -⟩ := h
      rw [stored] at again
      cases again
      rw [recorded] at unsent
      cases unsent
  | failed reason =>
      cases reason with
      | missing =>
          rw [Explained, stored] at h
          cases h
      | store cause =>
          rw [Explained, stored] at h
          cases h
      | service cause =>
          obtain ⟨q, -, again, unsent, -⟩ := h
          rw [stored] at again
          cases again
          rw [recorded] at unsent
          cases unsent

/-! ### Asking -/

/-- Nothing but uploads was asked for between two states. -/
def Asked (s after : State) (more : List UploadRequest) : Prop :=
  after = { s with trace := s.trace ++ more.map .upload, turns := s.turns + more.length }

@[simp] theorem requestsOf_append_uploads (trace : List SubmitEvent) (more : List UploadRequest) :
    requestsOf (trace ++ more.map .upload) = requestsOf trace ++ more := by
  simp [requestsOf, List.filterMap_append, List.filterMap_map]

@[simp] theorem requestsOf_send (s : State) (request : SendRequest) :
    requestsOf (s.note (.send request)).trace = requestsOf s.trace := by
  simp [State.note, requestsOf]

theorem find_spec (service : Service) (token : Token) (date : Date) {s : State}
    (turns : s.turns = (requestsOf s.trace).length) (job : Job) :
    Asked s (find service token date s job).2 (requestFor? token date s.stock job).toList ∧
      Explained service token date s.stock
        (requestsOf s.trace ++ (requestFor? token date s.stock job).toList) job
        (find service token date s job).1 := by
  unfold find requestFor?
  cases stored : s.stock.get job.photo with
  | error cause => exact ⟨by simp [Asked], by simp [Explained, stored]⟩
  | ok present =>
      cases present with
      | none => exact ⟨by simp [Asked], by simp [Explained, stored]⟩
      | some p =>
          simp only
          cases noted : p.uploadedUrl? with
          | some url => exact ⟨by simp [Asked], by simp [Explained, stored, noted]⟩
          | none =>
              have asked : (requestsOf s.trace ++ [request token date job p])[s.turns]? =
                  some (request token date job p) := by
                rw [turns]
                exact List.getElem?_concat_length
              refine ⟨by simp [Asked, State.note], ?_⟩
              cases answer : service.upload s.turns (request token date job p) with
              | ok url => exact ⟨p, s.turns, stored, noted, asked, answer⟩
              | error cause => exact ⟨p, s.turns, stored, noted, asked, answer⟩

theorem jobs_findAll (service : Service) (token : Token) (date : Date) (s : State)
    (batch : List Job) :
    (findAll service token date s batch).1.map (·.1) = batch := by
  induction batch generalizing s with
  | nil => rfl
  | cons job rest ih => exact congrArg (job :: ·) (ih _)

theorem photos_findAll (service : Service) (token : Token) (date : Date) (s : State)
    (batch : List Job) :
    (findAll service token date s batch).1.map (·.1.photo) = batch.map (·.photo) := by
  have jobs := jobs_findAll service token date s batch
  exact (List.map_map (f := Prod.fst) (g := Job.photo)).symm.trans (congrArg _ jobs)

theorem findAll_spec (service : Service) (token : Token) (date : Date) {s : State}
    (turns : s.turns = (requestsOf s.trace).length) (batch : List Job) :
    Asked s (findAll service token date s batch).2
        (batch.filterMap (requestFor? token date s.stock)) ∧
      ∀ job found, (job, found) ∈ (findAll service token date s batch).1 →
        Explained service token date s.stock
          (requestsOf s.trace ++ batch.filterMap (requestFor? token date s.stock)) job found := by
  induction batch generalizing s with
  | nil => exact ⟨by simp [findAll, Asked], nofun⟩
  | cons j rest ih =>
      obtain ⟨asked, found⟩ := find_spec service token date turns j
      have requests : (j :: rest).filterMap (requestFor? token date s.stock) =
          (requestFor? token date s.stock j).toList ++
            rest.filterMap (requestFor? token date s.stock) := by
        rw [List.filterMap_cons]
        cases requestFor? token date s.stock j <;> rfl
      rw [requests]
      generalize (requestFor? token date s.stock j).toList = first at asked found ⊢
      unfold findAll
      generalize find service token date s j = answer at asked found
      obtain ⟨f, mid⟩ := answer
      simp only at asked found ⊢
      have stock_eq : mid.stock = s.stock := by rw [asked]
      have requests_eq : requestsOf mid.trace = requestsOf s.trace ++ first := by rw [asked]; simp
      have counted : mid.turns = (requestsOf mid.trace).length := by
        rw [requests_eq, List.length_append, ← turns, asked]
      obtain ⟨askedMore, others⟩ := ih counted
      rw [stock_eq] at askedMore others
      refine ⟨?_, ?_⟩
      · rw [Asked, askedMore, asked]
        simp [Nat.add_assoc]
      · intro job g member
        rw [← List.append_assoc]
        rcases List.mem_cons.mp member with here | later
        · cases here
          exact found.mono _
        · rw [← requests_eq]
          exact others job g later

/-! ### Noting in the stock -/

theorem record_eq (s : State) (job : Job) (found : Found) :
    record s job found = { s with stock := s.stock.noteAll (notesOf s.stock [(job, found)]) } := by
  have unchanged : ∀ notes, notes = [] → s = { s with stock := s.stock.noteAll notes } := by
    rintro notes rfl
    rfl
  cases found with
  | reused url => exact unchanged _ (by simp [notesOf, uploadsOf])
  | failed reason => exact unchanged _ (by simp [notesOf, uploadsOf])
  | uploaded url =>
      unfold record
      simp only
      cases noted : s.stock.markUploaded job.photo url with
      | ok answer =>
          obtain ⟨present, stock⟩ := answer
          obtain ⟨allowed, -, rfl⟩ := Stock.markUploaded_eq_ok_iff.mp noted
          rw [notesOf, if_pos allowed]
          rfl
      | error cause =>
          refine unchanged _ (if_neg fun allowed => ?_)
          rw [Stock.markUploaded_eq_ok_iff.mpr ⟨allowed, rfl, rfl⟩] at noted
          cases noted

theorem foldl_record_eq (entries : List (Job × Found)) (s : State) :
    entries.foldl (fun s (job, f) => record s job f) s =
      { s with stock := s.stock.noteAll (notesOf s.stock entries) } := by
  induction entries generalizing s with
  | nil =>
      have none : notesOf s.stock [] = [] := by simp [notesOf, uploadsOf]
      rw [none]
      rfl
  | cons e rest ih =>
      have parts := notesOf_append s.stock [e] rest
      rw [List.singleton_append] at parts
      refine (ih (record s e.1 e.2)).trans ?_
      rw [record_eq, parts, Stock.noteAll_append, notesOf_noteAll]

/-! ### Taking over -/

/-- What a state makes of answers: they are added to those before. -/
def settled (s : State) (answers : List (Job × Found)) : State :=
  { s with
    resolution :=
      { resolved := s.resolution.resolved ++ (resolutionOf answers).resolved
        dropped := s.resolution.dropped ++ (resolutionOf answers).dropped }
    uploaded := s.uploaded + answers.countP (·.2.isUploaded)
    reused := s.reused + answers.countP (·.2.isReused)
    failed := s.failed ++ failuresOf answers }

theorem settled_append (s : State) (answers more : List (Job × Found)) :
    settled s (answers ++ more) = settled (settled s answers) more := by
  simp only [settled, resolutionOf_append, List.countP_append, failuresOf, List.filterMap_append,
    List.append_assoc, Nat.add_assoc]

theorem settle_eq (s : State) (job : Job) (found : Found) :
    settle s job found = settled s [(job, found)] := by
  cases found <;>
    simp [settle, settled, State.resolve, State.drop, resolutionOf, failuresOf, Found.url?,
      Found.isUploaded, Found.isReused]

theorem foldl_settle_eq (answers : List (Job × Found)) (s : State) :
    answers.foldl (fun s (job, f) => settle s job f) s = settled s answers := by
  induction answers generalizing s with
  | nil => simp [settled, resolutionOf, failuresOf]
  | cons e rest ih =>
      refine (ih (settle s e.1 e.2)).trans ?_
      rw [settle_eq, ← settled_append, List.singleton_append]

/-! ### Batch after batch -/

theorem Progress.start (stock : Stock) : Progress service token date stock { stock } [] where
  resolution_eq := rfl
  uploaded_eq := rfl
  reused_eq := rfl
  failed_eq := rfl
  turns_eq := rfl
  quiet := by simp
  requests_eq := rfl
  explained := by simp
  noted := ⟨[], by simp [notesOf, uploadsOf], rfl⟩

theorem Progress.phase {stock : Stock} {s : State} {answers : List (Job × Found)}
    (h : Progress service token date stock s answers) (phase : SubmitPhase) :
    Progress service token date stock (s.note (.phase phase)) answers := by
  have requests_eq : requestsOf (s.note (.phase phase)).trace = requestsOf s.trace := by
    simp [State.note, requestsOf]
  constructor
  · exact h.resolution_eq
  · exact h.uploaded_eq
  · exact h.reused_eq
  · exact h.failed_eq
  · exact requests_eq ▸ h.turns_eq
  · simpa [State.note] using h.quiet
  · exact requests_eq.trans h.requests_eq
  · exact requests_eq ▸ h.explained
  · exact h.noted

/-- A photo that was not uploaded is in the stock as it was at the start. -/
theorem Progress.untouched {stock : Stock} {s : State} {answers : List (Job × Found)}
    (h : Progress service token date stock s answers) (photo : PhotoId)
    (other : ∀ e ∈ answers, e.1.photo ≠ photo) : s.stock.get photo = stock.get photo := by
  obtain ⟨notes, perm, stock_eq⟩ := h.noted
  rw [stock_eq]
  refine Stock.get_noteAll_of_not_mem ?_ stock
  intro there
  obtain ⟨⟨id, url⟩, member, rfl⟩ := List.mem_map.mp there
  obtain ⟨job, answered, same⟩ :=
    mem_uploadsOf_iff.mp ((notesOf_sublist stock answers).subset (perm.subset member))
  exact other _ answered same

theorem Progress.batch {stock : Stock} {s : State} {answers : List (Job × Found)}
    (h : Progress service token date stock s answers) (total : Nat) {batch : List Job}
    (fresh : ∀ j ∈ batch, ∀ e ∈ answers, e.1.photo ≠ j.photo) :
    Progress service token date stock (resolveBatch service token date total s batch)
      (answers ++ (findAll service token date s batch).1) := by
  -- the photos of the batch were in no batch before, so the stock tells of them what it told first
  have same : ∀ j ∈ batch, s.stock.get j.photo = stock.get j.photo := fun j hj =>
    h.untouched j.photo (fresh j hj)
  have requests : batch.filterMap (requestFor? token date s.stock) =
      batch.filterMap (requestFor? token date stock) :=
    List.filterMap_congr fun j hj => by rw [requestFor?, requestFor?, same j hj]
  have jobs := jobs_findAll service token date s batch
  obtain ⟨asked, found⟩ := findAll_spec service token date h.turns_eq batch
  rw [requests] at asked found
  unfold resolveBatch
  simp only
  generalize findAll service token date s batch = answer at asked jobs found
  obtain ⟨more, s₁⟩ := answer
  simp only at asked jobs found ⊢
  rw [foldl_record_eq, foldl_settle_eq, asked]
  refine Progress.phase ?_ _
  constructor
  · simp only [settled, resolutionOf_append, h.resolution_eq]
  · simp only [settled, List.countP_append, h.uploaded_eq]
  · simp only [settled, List.countP_append, h.reused_eq]
  · simp only [settled, failuresOf, List.filterMap_append, h.failed_eq]
  · simp only [settled, requestsOf_append_uploads, List.length_append, h.turns_eq]
  · intro request
    simpa [settled] using h.quiet request
  · simp only [settled, requestsOf_append_uploads, List.map_append, List.filterMap_append,
      h.requests_eq, jobs]
  · intro job g member
    simp only [settled, requestsOf_append_uploads]
    rcases List.mem_append.mp member with old | new
    · exact (h.explained job g old).mono _
    · have mine : job ∈ batch := jobs ▸ List.mem_map.mpr ⟨(job, g), new, rfl⟩
      exact (found job g new).of_get_eq (same job mine)
  · obtain ⟨notes, perm, stock_eq⟩ := h.noted
    refine ⟨notes ++ notesOf stock (service.completion.arrange s.done more), ?_, ?_⟩
    · rw [notesOf_append]
      exact perm.append (notesOf_perm stock (service.completion.arrange_perm s.done more))
    · simp only [settled]
      rw [stock_eq, notesOf_noteAll, Stock.noteAll_append]

/-- The answers of a run, batch after batch. -/
def answersOf (service : Service) (token : Token) (date : Date) (total : Nat) :
    State → List (List Job) → List (Job × Found)
  | _, [] => []
  | s, batch :: rest =>
    (findAll service token date s batch).1 ++
      answersOf service token date total (resolveBatch service token date total s batch) rest

theorem jobs_answersOf (service : Service) (token : Token) (date : Date) (total : Nat)
    (s : State) (parts : List (List Job)) :
    (answersOf service token date total s parts).map (·.1) = parts.flatten := by
  induction parts generalizing s with
  | nil => rfl
  | cons batch rest ih => rw [answersOf, List.map_append, jobs_findAll, ih, List.flatten_cons]

theorem Progress.batches {stock : Stock} {s : State} {answers : List (Job × Found)}
    (h : Progress service token date stock s answers) (total : Nat) {parts : List (List Job)}
    (distinct : (answers.map (·.1.photo) ++ parts.flatten.map (·.photo)).Nodup) :
    Progress service token date stock (parts.foldl (resolveBatch service token date total) s)
      (answers ++ answersOf service token date total s parts) := by
  induction parts generalizing s answers with
  | nil => simpa [answersOf] using h
  | cons batch rest ih =>
      rw [List.flatten_cons, List.map_append, ← List.append_assoc] at distinct
      have apart := (List.nodup_append.mp (List.nodup_append.mp distinct).1).2.2
      have fresh : ∀ j ∈ batch, ∀ e ∈ answers, e.1.photo ≠ j.photo := fun j hj e he =>
        apart _ (List.mem_map.mpr ⟨e, he, rfl⟩) _ (List.mem_map.mpr ⟨j, hj, rfl⟩)
      have distinctMore : ((answers ++ (findAll service token date s batch).1).map (·.1.photo) ++
          rest.flatten.map (·.photo)).Nodup := by
        rwa [List.map_append, photos_findAll]
      rw [answersOf, ← List.append_assoc]
      exact ih (h.batch total fresh) distinctMore

/-! ### The whole run -/

/-- The report request for what was found out. -/
def reportRequest (ticket : Ticket) (token : Token) (date : Date) (s : State) : SendRequest :=
  { token, update := ticket.remoteId,
    payload := .assemble ticket.header date ticket.body s.resolution.resolved }

/-- A run that came to the report request: the state `before` it, with an answer to every job. -/
structure Delivery (service : Service) (stock : Stock) (ticket : Ticket) (token : Token)
    (date : Date) (answers : List (Job × Found)) (before : State) : Prop where
  valid : validate ticket.header ticket.body = .ok date
  signedIn : service.token = some token
  jobs_eq : answers.map (·.1) = jobs ticket.body
  progress : Progress service token date stock before answers

/-- What a run makes of the answer to its report request. -/
def resultOf (service : Service) (ticket : Ticket) (token : Token) (date : Date) (s : State) :
    Except SubmitError SubmitReport :=
  match service.send (reportRequest ticket token date s) with
  | .ok remoteId =>
    .ok { remoteId, created := ticket.remoteId.isNone, resolution := s.resolution,
          uploaded := s.uploaded, reused := s.reused, failed := s.failed,
          payload := (reportRequest ticket token date s).payload }
  | .error .notAuthenticated => .error .notAuthenticated
  | .error cause => .error (.transport cause)

/-- The state of a run that has begun with its jobs. -/
def begun (stock : Stock) (total : Nat) : State :=
  { stock, trace := [.phase .validating, .phase (.uploading 0 total)] }

theorem ready_eq_ok_iff {service : Service} {ticket : Ticket} {token : Token} {date : Date} :
    ready service ticket = .ok (token, date) ↔
      validate ticket.header ticket.body = .ok date ∧ service.token = some token := by
  unfold ready
  cases validate ticket.header ticket.body with
  | error cause => simp
  | ok found => cases service.token <;> simp [and_comm]

/-- A run that is refused has done nothing but look. -/
theorem attempt_of_refused {service : Service} {ticket : Ticket} {cause : SubmitError}
    (refused : ready service ticket = .error cause) (n : Nat) (stock : Stock) :
    attempt service n ticket { stock } =
      (.error cause, { stock, trace := [.phase .validating] }) := by
  simp only [attempt, refused]
  rfl

theorem attempt_of_ready {service : Service} {ticket : Ticket} {token : Token} {date : Date}
    (valid : validate ticket.header ticket.body = .ok date) (signedIn : service.token = some token)
    (n : Nat) (stock : Stock) :
    attempt service n ticket { stock } = deliverParts service ticket token date
      (State.note { stock } (.phase .validating)) (batches n (jobs ticket.body)) := by
  simp only [attempt, ready_eq_ok_iff.mpr ⟨valid, signedIn⟩, deliver]

/-- What a run for a valid document finds out, before it comes to the report request. -/
theorem attempt_delivers {ticket : Ticket}
    (valid : validate ticket.header ticket.body = .ok date) (signedIn : service.token = some token)
    (n : Nat) (stock : Stock) :
    let total := (jobs ticket.body).length
    ∃ before, Delivery service stock ticket token date
        (answersOf service token date total (begun stock total) (batches n (jobs ticket.body)))
        before ∧
      attempt service n ticket { stock } =
        (resultOf service ticket token date before,
          before.note (.send (reportRequest ticket token date before))) := by
  intro total
  have start : Progress service token date stock (begun stock total) [] :=
    ((Progress.start stock).phase .validating).phase (.uploading 0 total)
  have distinct : (([] : List (Job × Found)).map (·.1.photo) ++
      (batches n (jobs ticket.body)).flatten.map (·.photo)).Nodup := by
    simpa using nodup_jobs ticket.body
  have last := start.batches total distinct
  have jobs_eq := (jobs_answersOf service token date total (begun stock total)
    (batches n (jobs ticket.body))).trans (flatten_batches n (jobs ticket.body))
  refine ⟨_, ⟨valid, signedIn, jobs_eq, last.phase .assembling⟩, ?_⟩
  have begins : (State.note { stock } (.phase .validating)).note (.phase (.uploading 0 total)) =
      begun stock total := rfl
  rw [attempt_of_ready valid signedIn]
  simp only [deliverParts]
  rw [begins]
  generalize State.note (List.foldl _ _ _) (.phase .assembling) = before
  unfold resultOf reportRequest
  rcases service.send _ with cause | remoteId
  · cases cause <;> rfl
  · rfl

/-- A run is refused before it has uploaded anything, or it comes to the report request. -/
theorem attempt_cases (service : Service) (n : Nat) (ticket : Ticket) (stock : Stock) :
    (∃ cause, validate ticket.header ticket.body = .error cause ∧
      attempt service n ticket { stock } =
        (.error (.validation cause), { stock, trace := [.phase .validating] })) ∨
    (∃ date, validate ticket.header ticket.body = .ok date ∧ service.token = none ∧
      attempt service n ticket { stock } =
        (.error .notAuthenticated, { stock, trace := [.phase .validating] })) ∨
    ∃ token date answers before, Delivery service stock ticket token date answers before ∧
      attempt service n ticket { stock } =
        (resultOf service ticket token date before,
          before.note (.send (reportRequest ticket token date before))) := by
  cases valid : validate ticket.header ticket.body with
  | error cause =>
      refine .inl ⟨cause, rfl, ?_⟩
      exact attempt_of_refused (by simp only [ready, valid]) n stock
  | ok date =>
      right
      cases signedIn : service.token with
      | none =>
          refine .inl ⟨date, rfl, rfl, ?_⟩
          exact attempt_of_refused (by simp only [ready, valid, signedIn]) n stock
      | some token =>
          obtain ⟨before, delivery, attempted⟩ := attempt_delivers valid signedIn n stock
          exact .inr ⟨token, date, _, before, delivery, attempted⟩

theorem resultOf_eq_ok {service : Service} {ticket : Ticket} {token : Token} {date : Date}
    {s : State} {report : SubmitReport} (h : resultOf service ticket token date s = .ok report) :
    service.send (reportRequest ticket token date s) = .ok report.remoteId ∧
    report.resolution = s.resolution ∧ report.uploaded = s.uploaded ∧ report.reused = s.reused ∧
    report.failed = s.failed ∧ report.payload = (reportRequest ticket token date s).payload := by
  unfold resultOf at h
  split at h
  · rename_i remoteId accepted
    cases h
    exact ⟨accepted, rfl, rfl, rfl, rfl, rfl⟩
  · cases h
  · cases h

/-! ### Addresses -/

theorem lookup_eq_some_iff_mem {keyed : List (PhotoId × String)}
    (distinct : (keyed.map (·.1)).Nodup) {photo : PhotoId} {url : String} :
    keyed.lookup photo = some url ↔ (photo, url) ∈ keyed := by
  induction keyed generalizing url with
  | nil => simp
  | cons e rest ih =>
      obtain ⟨key, value⟩ := e
      obtain ⟨fresh, others⟩ := List.nodup_cons.mp distinct
      rw [List.lookup_cons, List.mem_cons, ← ih others]
      by_cases same : photo = key
      · subst same
        have absent : ∀ u, rest.lookup photo ≠ some u := by
          intro u hu
          exact fresh (List.mem_map.mpr ⟨(photo, u), (ih others).mp hu, rfl⟩)
        simp [absent, eq_comm]
      · simp [same, beq_false_of_ne same]

theorem resolved_keys_sublist (answers : List (Job × Found)) :
    ((resolutionOf answers).resolved.map (·.1)).Sublist (answers.map (·.1.photo)) := by
  induction answers with
  | nil => exact List.Sublist.slnil
  | cons e rest ih =>
      obtain ⟨job, found⟩ := e
      cases h : found.url? with
      | none => simpa [resolutionOf, h] using ih.cons job.photo
      | some url => simpa [resolutionOf, h] using ih.cons_cons job.photo

namespace Delivery

variable {stock : Stock} {ticket : Ticket} {answers : List (Job × Found)} {before : State}

theorem distinct (h : Delivery service stock ticket token date answers before) :
    (answers.map (·.1.photo)).Nodup := by
  have nodup := nodup_jobs ticket.body
  rwa [← h.jobs_eq, List.map_map] at nodup

theorem answer_unique (h : Delivery service stock ticket token date answers before) {job job' : Job}
    {found found' : Found} (member : (job, found) ∈ answers) (member' : (job', found') ∈ answers)
    (same : job.photo = job'.photo) : (job, found) = (job', found') :=
  List.inj_on_of_nodup_map h.distinct member member' same

theorem lookup_eq_some_iff (h : Delivery service stock ticket token date answers before)
    {photo : PhotoId} {url : String} :
    before.resolution.resolved.lookup photo = some url ↔
      ∃ job found, (job, found) ∈ answers ∧ job.photo = photo ∧ found.url? = some url := by
  have keys := h.distinct.sublist (resolved_keys_sublist answers)
  rw [h.progress.resolution_eq, lookup_eq_some_iff_mem keys, mem_resolved_iff]

theorem mem_dropped_iff (h : Delivery service stock ticket token date answers before)
    {photo : PhotoId} : photo ∈ before.resolution.dropped ↔
      ∃ job found, (job, found) ∈ answers ∧ job.photo = photo ∧ found.url? = none := by
  rw [h.progress.resolution_eq, Submission.mem_dropped_iff]

theorem lookup_of_dropped (h : Delivery service stock ticket token date answers before)
    {photo : PhotoId} (dropped : photo ∈ before.resolution.dropped) :
    before.resolution.resolved.lookup photo = none := by
  obtain ⟨job, found, member, same, missing⟩ := h.mem_dropped_iff.mp dropped
  rw [Option.eq_none_iff_forall_ne_some]
  intro url hu
  obtain ⟨job', found', member', same', present⟩ := h.lookup_eq_some_iff.mp hu
  cases h.answer_unique member member' (same.trans same'.symm)
  rw [missing] at present
  cases present

theorem uploads_keys_sublist (answers : List (Job × Found)) :
    ((uploadsOf answers).map (·.1)).Sublist (answers.map (·.1.photo)) := by
  induction answers with
  | nil => exact List.Sublist.slnil
  | cons e rest ih =>
      obtain ⟨job, found⟩ := e
      cases found with
      | uploaded url => exact ih.cons_cons job.photo
      | reused url => exact ih.cons job.photo
      | failed reason => exact ih.cons job.photo

theorem notes_nodup (h : Delivery service stock ticket token date answers before)
    {notes : List (PhotoId × String)} (perm : notes.Perm (notesOf stock answers)) :
    (notes.map (·.1)).Nodup := by
  refine (perm.map _).nodup_iff.mpr (h.distinct.sublist ?_)
  exact ((notesOf_sublist stock answers).map _).trans (uploads_keys_sublist answers)

/-- What a run notes in the stock: uploads of its own, one for a photo. -/
theorem notes (h : Delivery service stock ticket token date answers before) :
    ∃ notes, (notes.map (·.1)).Nodup ∧ before.stock = stock.noteAll notes ∧
      ∀ photo url, (photo, url) ∈ notes →
        ∃ job, (job, .uploaded url) ∈ answers ∧ job.photo = photo := by
  obtain ⟨notes, perm, stock_eq⟩ := h.progress.noted
  have kept := notesOf_sublist stock answers
  exact ⟨notes, h.notes_nodup perm, stock_eq,
    fun photo url member => mem_uploadsOf_iff.mp (kept.subset (perm.subset member))⟩

theorem staged_of_answer (h : Delivery service stock ticket token date answers before) {job : Job}
    {found : Found} (member : (job, found) ∈ answers) :
    (job.list, job.photo) ∈ ticket.body.stagedPhotos := by
  apply staged_of_mem_jobs
  rw [← h.jobs_eq]
  exact List.mem_map.mpr ⟨(job, found), member, rfl⟩

theorem exists_answer (h : Delivery service stock ticket token date answers before)
    {list : PhotoList} {photo : PhotoId} (staged : (list, photo) ∈ ticket.body.stagedPhotos) :
    ∃ job found, (job, found) ∈ answers ∧ job.photo = photo := by
  obtain ⟨job, member, same⟩ := exists_job staged
  rw [← h.jobs_eq] at member
  obtain ⟨⟨j, found⟩, hmem, rfl⟩ := List.mem_map.mp member
  exact ⟨j, found, hmem, same⟩

/-- Every staged photo of the ticket has come to an address or was dropped. -/
theorem settled (h : Delivery service stock ticket token date answers before)
    {list : PhotoList} {photo : PhotoId} (staged : (list, photo) ∈ ticket.body.stagedPhotos) :
    photo ∈ before.resolution.dropped ∨
      ∃ url, before.resolution.resolved.lookup photo = some url := by
  obtain ⟨job, found, member, same⟩ := h.exists_answer staged
  cases answer : found.url? with
  | none => exact .inl (h.mem_dropped_iff.mpr ⟨job, found, member, same, answer⟩)
  | some url => exact .inr ⟨url, h.lookup_eq_some_iff.mpr ⟨job, found, member, same, answer⟩⟩

end Delivery

end Submission

namespace SubmitRun

theorem sent?_of_trace {run : SubmitRun} {before : List SubmitEvent} {request : SendRequest}
    (sends : ∃ after, run.trace = before ++ .send request :: after)
    (quiet : ∀ r, .send r ∉ before) : run.sent? = some request := by
  obtain ⟨after, trace_eq⟩ := sends
  apply List.findSome?_eq_some_iff.mpr
  refine ⟨before, .send request, after, trace_eq, rfl, ?_⟩
  intro e he
  cases e with
  | send r => exact absurd he (quiet r)
  | phase phase => rfl
  | upload r => rfl

theorem trace_start (service : Service) (n : Nat) (stock : Stock) (ticket : Ticket) :
    ∃ phase, (start service n stock ticket).trace =
      (Submission.attempt service n ticket { stock }).2.trace ++ [.phase phase] := ⟨_, rfl⟩

open Submission in
/-- What is seen of a whole run: a failure without a request, or the request for what it found. -/
theorem start_spec (service : Service) (n : Nat) (stock : Stock) (ticket : Ticket) :
    (∃ e, (start service n stock ticket).outcome.result = .error e ∧
      (start service n stock ticket).sent? = none ∧ (start service n stock ticket).stock = stock ∧
      ∀ date, validate ticket.header ticket.body = .ok date → service.token = none) ∨
    ∃ token date answers before, Delivery service stock ticket token date answers before ∧
      (attempt service n ticket { stock }).2 =
        before.note (.send (reportRequest ticket token date before)) ∧
      (start service n stock ticket).sent? = some (reportRequest ticket token date before) ∧
      (start service n stock ticket).stock = before.stock ∧
      ∀ report, (start service n stock ticket).outcome.result = .ok report →
        service.send (reportRequest ticket token date before) = .ok report.remoteId ∧
        report.resolution = before.resolution ∧
        report.payload = (reportRequest ticket token date before).payload := by
  rcases attempt_cases service n ticket stock with ⟨cause, invalid, refused⟩ |
    ⟨date, -, absent, refused⟩ | ⟨token, date, answers, before, delivery, attempted⟩
  · left
    refine ⟨.validation cause, ?_, ?_, ?_, fun date valid => ?_⟩
    · rw [start, refused]
      rfl
    · simp [start, refused, ofAttempt, sent?]
    · rw [start, refused]
      rfl
    · rw [invalid] at valid
      cases valid
  · left
    refine ⟨.notAuthenticated, ?_, ?_, ?_, fun _ _ => absent⟩
    · rw [start, refused]
      rfl
    · simp [start, refused, ofAttempt, sent?]
    · rw [start, refused]
      rfl
  · right
    refine ⟨token, date, answers, before, delivery, by rw [attempted], ?_, ?_, ?_⟩
    · obtain ⟨phase, trace_eq⟩ := trace_start service n stock ticket
      refine sent?_of_trace ⟨[.phase phase], ?_⟩ delivery.progress.quiet
      rw [trace_eq, attempted]
      simp [State.note]
    · rw [start, attempted]
      rfl
    · intro report done
      rw [start, attempted] at done
      obtain ⟨accepted, resolution, -, -, -, payload⟩ := resultOf_eq_ok done
      exact ⟨accepted, resolution, payload⟩

end SubmitRun

end SiteReport
