import SiteReport.Proofs.Store.Staging
import SiteReport.Proofs.Submission.Attempts
import SiteReport.Proofs.Submission.Resubmission

/-!
Runs on one stock, one after another. The stock remembers the address of every upload, so a photo that
stays in it is uploaded once at most, and every later run takes over the address of that upload, as
long as it can read the photo.
-/

namespace SiteReport

/-! ### What happens to a stock -/

/-- A run, or anything else that is asked of a stock in between. -/
inductive StockEvent where
  | run (service : Service) (batchSize : Nat) (ticket : Ticket)
  | stage (file : Incoming)
  | stageBatch (completion : Completion) (files : List Incoming)
  | remove (id : PhotoId)
  | clearAll
  | preview (id : PhotoId)
  | markUploaded (id : PhotoId) (url : String)
  | saveDraft (draft : Snapshot)
  | clearDraft
  /-- From now on the given calls of the store fail. -/
  | faults (faults : StoreCall → Option StoreError)

/-- The event neither takes another photo in under the identifier nor notes an address for it. -/
def StockEvent.Foreign (photo : PhotoId) : StockEvent → Prop
  | .stage file => file.fresh ≠ photo
  | .stageBatch _ files => ∀ file ∈ files, file.fresh ≠ photo
  | .markUploaded id _ => id ≠ photo
  | _ => True

namespace Stock

/-- The stock with another store, if there is one. -/
def orStore (s : Stock) : Except StoreError Store → Stock
  | .ok store => { s with store }
  | .error _ => s

def happen (s : Stock) : StockEvent → Stock
  | .run service batchSize ticket => (Attempt.mk service batchSize s ticket).run.stock
  | .stage file =>
    match s.stage file with
    | .ok (_, after) => after
    | .error _ => s
  | .stageBatch completion files => (s.stageBatch completion files).2
  | .remove id => (s.remove id).2
  | .clearAll => s.clearAll.2
  | .preview id => (s.preview id).2
  | .markUploaded id url =>
    match s.markUploaded id url with
    | .ok (_, after) => after
    | .error _ => s
  | .saveDraft draft => s.orStore (s.store.saveDraft draft)
  | .clearDraft => s.orStore s.store.clearDraft
  | .faults faults => { s with store := { s.store with faults } }

def happenAll (s : Stock) (events : List StockEvent) : Stock := events.foldl happen s

/-- The runs among the events, in their order. -/
def runs : Stock → List StockEvent → List Attempt
  | _, [] => []
  | s, .run service batchSize ticket :: rest =>
    ⟨service, batchSize, s, ticket⟩ :: runs (s.happen (.run service batchSize ticket)) rest
  | s, e :: rest => runs (s.happen e) rest

variable {s after : Stock} {photo : PhotoId}

theorem stage_stored {file : Incoming} {staged : StagedPhoto}
    (foreign : file.fresh ≠ photo) (h : s.stage file = .ok (staged, after)) :
    after.store.stored photo = s.store.stored photo := by
  obtain ⟨bytes, store, -, rfl, put, rfl⟩ := stage_eq_ok_iff.mp h
  obtain ⟨-, -, others, -⟩ := Store.put_spec put
  exact others photo (Ne.symm foreign)

theorem stageBatch_stored {completion : Completion} {files : List Incoming}
    (foreign : ∀ file ∈ files, file.fresh ≠ photo) (s : Stock) :
    (s.stageBatch completion files).2.store.stored photo = s.store.stored photo :=
  stageBatch_induction (P := fun t => t.store.stored photo = s.store.stored photo)
    (fun file member _ _ _ same staged => (stage_stored (foreign file member) staged).trans same)
    completion rfl

/-- A removal that fails leaves the photo alone. -/
theorem remove_stored (s : Stock) (id : PhotoId) :
    (s.remove id).2.store.stored photo = s.store.stored photo ∨
      (s.remove id).2.store.stored photo = .ok none := by
  unfold remove
  simp only
  cases h : (s.evict id).store.delete id with
  | error e => exact .inl rfl
  | ok answer =>
      obtain ⟨-, -, stored⟩ := Store.delete_spec h
      have left := stored photo
      split at left
      · exact .inr left
      · exact .inl left

theorem clearAll_stored (s : Stock) :
    s.clearAll.2.store.stored photo = s.store.stored photo ∨
      s.clearAll.2.store.stored photo = .ok none := by
  unfold clearAll
  simp only
  cases h : s.store.clear with
  | error e => exact .inl rfl
  | ok store => exact .inr ((Store.clear_spec h).2.2 photo)

/-- A photo that is still there after an event is as it was, unless the event is a run. -/
theorem happen_stored {e : StockEvent} (foreign : e.Foreign photo)
    (present : (s.happen e).store.stored photo ≠ .ok none)
    (other : ∀ service n ticket, e ≠ .run service n ticket) :
    (s.happen e).store.stored photo = s.store.stored photo := by
  cases e with
  | run service n ticket => exact absurd rfl (other service n ticket)
  | stage file =>
      simp only [happen]
      split
      · rename_i staged
        exact stage_stored foreign staged
      · rfl
  | stageBatch completion files => exact stageBatch_stored foreign s
  | remove id => exact (s.remove_stored id).resolve_right present
  | clearAll => exact s.clearAll_stored.resolve_right present
  | preview id => exact congrArg (Store.stored · photo) (s.preview_store id)
  | markUploaded id url =>
      simp only [happen]
      split
      · rename_i noted
        obtain ⟨-, -, rfl⟩ := markUploaded_eq_ok_iff.mp noted
        refine Store.stored_noteAll_of_not_mem ?_ s.store
        simpa using Ne.symm foreign
      · rfl
  | saveDraft draft =>
      simp only [happen]
      cases saved : s.store.saveDraft draft with
      | ok store => exact congrFun (Store.saveDraft_spec saved).2.2 photo
      | error e => rfl
  | clearDraft =>
      simp only [happen]
      cases cleared : s.store.clearDraft with
      | ok store => exact congrFun (Store.clearDraft_spec cleared).2.2.2 photo
      | error e => rfl
  | faults faults => rfl

end Stock

/-! ### One run -/

namespace Attempt

open Submission

/-- What the run found out about each of its photos. -/
def answers (a : Attempt) : List (Job × Found) :=
  match validate a.ticket.header a.ticket.body, a.service.token with
  | .ok date, some token =>
    let total := (jobs a.ticket.body).length
    answersOf a.service token date total (begun a.stock total)
      (batches a.batchSize (jobs a.ticket.body))
  | _, _ => []

/-- An upload of the photo that succeeded. -/
def isUploadOf (photo : PhotoId) (e : Job × Found) : Bool := e.1.photo == photo && e.2.isUploaded

theorem eq_of_isUploadOf {photo : PhotoId} {job : Job} {found : Found}
    (h : isUploadOf photo (job, found) = true) :
    ∃ url, found = .uploaded url ∧ job.photo = photo := by
  simp only [isUploadOf, Bool.and_eq_true, beq_iff_eq] at h
  obtain ⟨same, uploaded⟩ := h
  cases found with
  | uploaded url => exact ⟨url, rfl, same⟩
  | reused url => cases uploaded
  | failed reason => cases uploaded

variable {a : Attempt} {photo : PhotoId} {url : String}

theorem delivers {date : Date} {token : Token}
    (valid : validate a.ticket.header a.ticket.body = .ok date)
    (signedIn : a.service.token = some token) :
    ∃ before, Delivery a.service a.stock a.ticket token date a.answers before ∧
      a.run.stock = before.stock ∧ requestsOf a.run.trace = requestsOf before.trace ∧
      ∀ report, a.run.outcome.result = .ok report → report.resolution = before.resolution ∧
        report.uploaded = before.uploaded ∧ report.reused = before.reused := by
  obtain ⟨before, delivery, attempted⟩ := attempt_delivers valid signedIn a.batchSize a.stock
  have answers_eq : a.answers = answersOf a.service token date (jobs a.ticket.body).length
      (begun a.stock (jobs a.ticket.body).length) (batches a.batchSize (jobs a.ticket.body)) := by
    rw [answers, valid, signedIn]
  refine ⟨before, answers_eq ▸ delivery, ?_, ?_, ?_⟩
  · rw [run, SubmitRun.start, attempted]
    rfl
  · rw [requestsOf_run, attempted, requestsOf_send]
  · intro report sent
    rw [run, SubmitRun.start, attempted] at sent
    obtain ⟨-, resolution, uploaded, reused, -, -⟩ := resultOf_eq_ok sent
    exact ⟨resolution, uploaded, reused⟩

theorem requests_eq_nil (quiet : ∀ e ∈ a.run.trace, e.isUpload = false ∧ e.isSend = false) :
    requestsOf a.run.trace = [] := by
  rw [requestsOf, List.filterMap_eq_nil_iff]
  intro e member
  have silent := (quiet e member).1
  cases e with
  | upload request => cases silent
  | phase phase => rfl
  | send request => rfl

/-- A run comes to no answer at all, or to one for each of its photos. -/
theorem answers_cases (a : Attempt) :
    a.answers = [] ∧ a.run.stock = a.stock ∧ requestsOf a.run.trace = [] ∨
    ∃ token date before, Delivery a.service a.stock a.ticket token date a.answers before ∧
      a.run.stock = before.stock ∧ requestsOf a.run.trace = requestsOf before.trace := by
  cases valid : validate a.ticket.header a.ticket.body with
  | error cause =>
      have refused : a.run.outcome.result = .error (.validation cause) := by
        have turned : Submission.ready a.service a.ticket = .error (.validation cause) := by
          simp only [Submission.ready, valid]
        rw [run, SubmitRun.start, attempt_of_refused turned]
        rfl
      obtain ⟨same, quiet⟩ := run_refused (.inl ⟨cause, refused⟩)
      exact .inl ⟨by rw [answers, valid], same, requests_eq_nil quiet⟩
  | ok date =>
      cases signedIn : a.service.token with
      | none =>
          obtain ⟨same, quiet⟩ := run_refused (.inr signedIn)
          exact .inl ⟨by rw [answers, valid, signedIn], same, requests_eq_nil quiet⟩
      | some token =>
          obtain ⟨before, delivery, stock_eq, requests, -⟩ := delivers valid signedIn
          exact .inr ⟨token, date, before, delivery, stock_eq, requests⟩

/-- An answer that tells of an upload goes back to a request of the run. -/
theorem uploaded_of_mem_answers {job : Job} (member : (job, .uploaded url) ∈ a.answers) :
    a.Uploaded job.photo job.list.category.uploadedAs url := by
  rcases a.answers_cases with ⟨none, -, -⟩ | ⟨token, date, before, delivery, -, requests⟩
  · rw [none] at member
    cases member
  · exact uploaded_of_answer delivery requests member

/-- With an address of a photo on record, all that is uploaded are other photos of the ticket. -/
theorem requests_of_others (recorded : a.stock.store.recorded? photo = some url)
    {request : UploadRequest} (asked : request ∈ requestsOf a.run.trace) :
    ∃ token date, ∃ job ∈ jobs a.ticket.body, job.photo ≠ photo ∧
      requestFor? token date a.stock job = some request := by
  rcases a.answers_cases with ⟨-, -, none⟩ | ⟨token, date, before, delivery, -, requests⟩
  · rw [none] at asked
    cases asked
  · rw [requests, delivery.progress.requests_eq, delivery.jobs_eq, List.mem_filterMap] at asked
    obtain ⟨job, member, needed⟩ := asked
    refine ⟨token, date, job, member, ?_, needed⟩
    rintro rfl
    obtain ⟨p, stored, known⟩ := Store.recorded?_eq_some_iff.mp recorded
    unfold requestFor? at needed
    split at needed
    · rename_i q read
      have same := (Store.stored_of_get read).symm.trans stored
      rw [Option.some.inj (Except.ok.inj same), known] at needed
      cases needed
    · cases needed

/-- No photo has two answers. -/
theorem countP_isUploadOf_le_one (a : Attempt) (photo : PhotoId) :
    a.answers.countP (isUploadOf photo) ≤ 1 := by
  rcases a.answers_cases with ⟨none, -, -⟩ | ⟨token, date, before, delivery, -, -⟩
  · rw [none]
    exact Nat.zero_le 1
  · have once : (a.answers.map (·.1.photo)).count photo ≤ 1 :=
      List.nodup_iff_count_le_one.mp delivery.distinct photo
    rw [List.count, List.countP_map] at once
    refine Nat.le_trans (List.countP_mono_left fun e _ upload => ?_) once
    simp only [isUploadOf, Bool.and_eq_true] at upload
    exact upload.1

/-- The stock remembers the address of an upload. -/
theorem recorded_of_uploaded (noting : a.stock.store.faults .markUploaded = none) {job : Job}
    (member : (job, .uploaded url) ∈ a.answers) :
    a.run.stock.store.recorded? job.photo = some url := by
  rcases a.answers_cases with ⟨none, -, -⟩ | ⟨token, date, before, delivery, stock_eq, -⟩
  · rw [none] at member
    cases member
  · obtain ⟨notes, perm, noted⟩ := delivery.progress.noted
    obtain ⟨p, turn, stored, -⟩ := delivery.progress.explained _ _ member
    have inNotes : (job.photo, url) ∈ notes := by
      refine perm.mem_iff.mpr ?_
      rw [notesOf, if_pos noting]
      exact mem_uploadsOf_iff.mpr ⟨job, member, rfl⟩
    have distinct : (notes.map (·.1)).Nodup := by
      refine (perm.map _).nodup_iff.mpr (delivery.distinct.sublist ?_)
      exact ((notesOf_sublist _ _).map _).trans (Delivery.uploads_keys_sublist _)
    have before : a.stock.store.stored job.photo = .ok (some p) := Store.stored_of_get stored
    have after := Store.stored_noteAll_of_mem distinct inNotes a.stock.store
    rw [before] at after
    rw [stock_eq, noted]
    exact Store.recorded?_eq_some_iff.mpr ⟨p.marked url, after, rfl⟩

/-- A photo with an address on record is not uploaded, and keeps the address. -/
theorem keeps_recorded (recorded : a.stock.store.recorded? photo = some url) :
    a.answers.countP (isUploadOf photo) = 0 ∧
      a.run.stock.store.recorded? photo = some url := by
  rcases a.answers_cases with ⟨none, same, -⟩ | ⟨token, date, before, delivery, stock_eq, -⟩
  · rw [none, same]
    exact ⟨rfl, recorded⟩
  · obtain ⟨p, stored, known⟩ := Store.recorded?_eq_some_iff.mp recorded
    have unsent : ∀ e ∈ a.answers, ¬ isUploadOf photo e = true := by
      rintro ⟨job, found⟩ member upload
      obtain ⟨u, rfl, rfl⟩ := eq_of_isUploadOf upload
      obtain ⟨q, turn, again, missing, -⟩ := delivery.progress.explained _ _ member
      have same := (Store.stored_of_get again).symm.trans stored
      rw [Option.some.inj (Except.ok.inj same), known] at missing
      cases missing
    refine ⟨List.countP_eq_zero.mpr unsent, ?_⟩
    obtain ⟨notes, perm, noted⟩ := delivery.progress.noted
    have absent : photo ∉ notes.map (·.1) := by
      intro there
      obtain ⟨⟨id, u⟩, member, rfl⟩ := List.mem_map.mp there
      obtain ⟨job, answered, same⟩ :=
        mem_uploadsOf_iff.mp ((notesOf_sublist _ _).subset (perm.subset member))
      exact unsent _ answered (by simp [isUploadOf, same, Found.isUploaded])
    rw [stock_eq, noted, ← recorded]
    exact Store.recorded?_congr (Store.stored_noteAll_of_not_mem absent a.stock.store)

/-- A run that can read a photo with an address on record takes the address over. -/
theorem reuses_recorded {list : PhotoList} {date : Date} {token : Token}
    (recorded : a.stock.store.recorded? photo = some url)
    (readable : a.stock.store.faults .get = none)
    (valid : validate a.ticket.header a.ticket.body = .ok date)
    (signedIn : a.service.token = some token)
    (staged : (list, photo) ∈ a.ticket.body.stagedPhotos) :
    (∃ job, job.photo = photo ∧ (job, .reused url) ∈ a.answers) ∧
    ∀ report, a.run.outcome.result = .ok report →
      report.resolution.resolved.lookup photo = some url ∧ photo ∉ report.resolution.dropped ∧
      report.reused = a.answers.countP (·.2.isReused) := by
  obtain ⟨before, delivery, -, -, reports⟩ := delivers valid signedIn
  obtain ⟨p, stored, known⟩ := Store.recorded?_eq_some_iff.mp recorded
  have read : a.stock.get photo = .ok (some p) := by
    rw [Stock.get, Store.get_eq_stored, Store.guarded, readable]
    exact stored
  obtain ⟨job, found, member, rfl⟩ := delivery.exists_answer staged
  have reused : found = .reused url :=
    (delivery.progress.explained job found member).eq_reused read known
  rw [reused] at member
  refine ⟨⟨job, rfl, member⟩, ?_⟩
  intro report sent
  obtain ⟨resolution, -, counted⟩ := reports report sent
  have found_url : before.resolution.resolved.lookup job.photo = some url :=
    delivery.lookup_eq_some_iff.mpr ⟨job, .reused url, member, rfl, rfl⟩
  rw [resolution, counted, delivery.progress.reused_eq]
  refine ⟨found_url, fun dropped => ?_, rfl⟩
  rw [delivery.lookup_of_dropped dropped] at found_url
  cases found_url

end Attempt

namespace Stock

open Submission Attempt

/-- The photo is still in the stock after each of the events. -/
def Keeps (photo : PhotoId) : Stock → List StockEvent → Prop
  | _, [] => True
  | s, e :: rest => (s.happen e).store.stored photo ≠ .ok none ∧ Keeps photo (s.happen e) rest

variable {s : Stock} {events : List StockEvent} {photo : PhotoId} {url : String}

theorem happen_recorded {e : StockEvent} (foreign : e.Foreign photo)
    (present : (s.happen e).store.stored photo ≠ .ok none)
    (recorded : s.store.recorded? photo = some url) :
    (s.happen e).store.recorded? photo = some url := by
  by_cases other : ∀ service n ticket, e ≠ .run service n ticket
  · rw [Store.recorded?_congr (happen_stored foreign present other)]
    exact recorded
  · push Not at other
    obtain ⟨service, n, ticket, rfl⟩ := other
    exact (keeps_recorded recorded).2

/-- An address on record stays there, and every later run finds it. -/
theorem runs_recorded (kept : s.Keeps photo events) (foreign : ∀ e ∈ events, e.Foreign photo)
    (recorded : s.store.recorded? photo = some url) {b : Attempt} (member : b ∈ s.runs events) :
    b.stock.store.recorded? photo = some url := by
  induction events generalizing s with
  | nil => cases member
  | cons e rest ih =>
      obtain ⟨one, others⟩ := List.forall_mem_cons.mp foreign
      have next := happen_recorded one kept.1 recorded
      have later := ih kept.2 others next
      cases e with
      | run service n ticket =>
          rcases List.mem_cons.mp member with rfl | there
          · exact recorded
          · exact later there
      | _ => exact later member

theorem countP_runs_recorded (kept : s.Keeps photo events)
    (foreign : ∀ e ∈ events, e.Foreign photo) (recorded : s.store.recorded? photo = some url) :
    ((s.runs events).flatMap (·.answers)).countP (isUploadOf photo) = 0 := by
  rw [List.countP_eq_zero]
  intro e member
  obtain ⟨b, run, answered⟩ := List.mem_flatMap.mp member
  have none := (keeps_recorded (runs_recorded kept foreign recorded run)).1
  exact List.countP_eq_zero.mp none e answered

theorem runs_eq_cons (s : Stock) (e : StockEvent) (rest : List StockEvent) :
    s.runs (e :: rest) = (s.happen e).runs rest ∨
      ∃ first : Attempt, first.stock = s ∧ s.happen e = first.run.stock ∧
        s.runs (e :: rest) = first :: (s.happen e).runs rest := by
  cases e with
  | run service n ticket => exact .inr ⟨⟨service, n, s, ticket⟩, rfl, rfl, rfl⟩
  | _ => exact .inl rfl

/-- After a run that uploaded a photo, every run has the address of that upload on record. -/
theorem recorded_of_upload (kept : s.Keeps photo events)
    (foreign : ∀ e ∈ events, e.Foreign photo)
    (noting : ∀ a ∈ s.runs events, a.stock.store.faults .markUploaded = none)
    {earlier later : List Attempt} {a : Attempt} (split : s.runs events = earlier ++ a :: later)
    {job : Job} (uploaded : (job, .uploaded url) ∈ a.answers) (same : job.photo = photo)
    {b : Attempt} (member : b ∈ later) : b.stock.store.recorded? photo = some url := by
  induction events generalizing s earlier with
  | nil => simp [runs] at split
  | cons e rest ih =>
      have others := (List.forall_mem_cons.mp foreign).2
      rcases s.runs_eq_cons e rest with skipped | ⟨first, -, next, runs_eq⟩
      · rw [skipped] at split noting
        exact ih kept.2 others noting split
      · rw [runs_eq] at split noting
        obtain ⟨now, noting⟩ := List.forall_mem_cons.mp noting
        cases earlier with
        | nil =>
            obtain ⟨rfl, rfl⟩ := List.cons.inj split
            have recorded := recorded_of_uploaded now uploaded
            rw [← next, same] at recorded
            exact runs_recorded kept.2 others recorded member
        | cons x earlier =>
            obtain ⟨-, tail⟩ := List.cons.inj split
            exact ih kept.2 others noting tail

theorem countP_uploads_le_one (kept : s.Keeps photo events)
    (foreign : ∀ e ∈ events, e.Foreign photo)
    (noting : ∀ a ∈ s.runs events, a.stock.store.faults .markUploaded = none) :
    ((s.runs events).flatMap (·.answers)).countP (isUploadOf photo) ≤ 1 := by
  induction events generalizing s with
  | nil => exact Nat.zero_le 1
  | cons e rest ih =>
      have others := (List.forall_mem_cons.mp foreign).2
      rcases s.runs_eq_cons e rest with skipped | ⟨first, -, next, runs_eq⟩
      · rw [skipped] at noting ⊢
        exact ih kept.2 others noting
      · rw [runs_eq] at noting ⊢
        rw [List.flatMap_cons, List.countP_append]
        obtain ⟨now, noting⟩ := List.forall_mem_cons.mp noting
        have later := ih kept.2 others noting
        have once := first.countP_isUploadOf_le_one photo
        by_cases uploads : ∃ e ∈ first.answers, isUploadOf photo e = true
        · -- uploaded now, so it is on record for all that follow
          obtain ⟨⟨job, found⟩, answered, upload⟩ := uploads
          obtain ⟨url, rfl, rfl⟩ := eq_of_isUploadOf upload
          have recorded := recorded_of_uploaded now answered
          rw [← next] at recorded
          have none := countP_runs_recorded kept.2 others recorded
          omega
        · push Not at uploads
          have none := List.countP_eq_zero.mpr uploads
          omega

/-- However often documents with a photo are sent, and whatever the uploads and the reports come to:
one upload of the photo succeeds at most while the stock keeps it, and every later run that can read
the photo takes the address of that upload over and says so. -/
theorem uploaded_once_then_reused (kept : s.Keeps photo events)
    (foreign : ∀ e ∈ events, e.Foreign photo)
    (noting : ∀ a ∈ s.runs events, a.stock.store.faults .markUploaded = none) :
    ((s.runs events).flatMap (·.answers)).countP (isUploadOf photo) ≤ 1 ∧
    ∀ earlier a later, s.runs events = earlier ++ a :: later →
      ∀ job url, (job, .uploaded url) ∈ a.answers → job.photo = photo →
      a.Uploaded photo job.list.category.uploadedAs url ∧
      ∀ b ∈ later, b.answers.countP (isUploadOf photo) = 0 ∧
        (∀ request ∈ requestsOf b.run.trace, ∃ token date, ∃ other ∈ jobs b.ticket.body,
          other.photo ≠ photo ∧ requestFor? token date b.stock other = some request) ∧
        ∀ list date token, (list, photo) ∈ b.ticket.body.stagedPhotos →
          validate b.ticket.header b.ticket.body = .ok date → b.service.token = some token →
          b.stock.store.faults .get = none →
          (∃ job, job.photo = photo ∧ (job, .reused url) ∈ b.answers) ∧
          ∀ report, b.run.outcome.result = .ok report →
            report.resolution.resolved.lookup photo = some url ∧
            photo ∉ report.resolution.dropped ∧
            report.reused = b.answers.countP (·.2.isReused) := by
  refine ⟨countP_uploads_le_one kept foreign noting, ?_⟩
  intro earlier a later split job url uploaded same
  refine ⟨same ▸ uploaded_of_mem_answers uploaded, ?_⟩
  intro b member
  have recorded := recorded_of_upload kept foreign noting split uploaded same member
  refine ⟨(keeps_recorded recorded).1, fun _ => requests_of_others recorded, ?_⟩
  intro list date token staged valid signedIn readable
  exact reuses_recorded recorded readable valid signedIn staged

/-! ### A report that fails, and is sent again -/

namespace Retried

/-- The server takes photos, but not the report. -/
def busy : Service := { Twins.service with send := fun _ => .error (.status 503 "") }

def ticket : Ticket := Twins.composer.beginSubmit

def first : Attempt := ⟨busy, 3, Twins.stock, ticket⟩

/-- The same document again, after the given events. -/
def next (between : List StockEvent) : Attempt :=
  ⟨Twins.service, 3, first.run.stock.happenAll between, ticket⟩

/-- The photos cannot be read. -/
def unreadable : StockEvent :=
  .faults fun | .get => some (.database "disk I/O error") | _ => none

def job : Job := ⟨⟨⟨1⟩, .completed⟩, Twins.left⟩

theorem first_uploads : (job, .uploaded "u") ∈ first.answers := List.mem_cons_self

/-- The events of the two runs, with others in between. -/
def twice (between : List StockEvent) : List StockEvent :=
  .run busy 3 ticket :: (between ++ [.run Twins.service 3 ticket])

theorem runs_unreadable : Twins.stock.runs (twice [unreadable]) = [first, next [unreadable]] := rfl

theorem runs_preview :
    Twins.stock.runs (twice [.preview Twins.right]) = [first, next [.preview Twins.right]] := rfl

theorem unreadable_dropped : (next [unreadable]).run.outcome.result.toOption.map (·.resolution) =
    some ⟨[], [Twins.left, Twins.right]⟩ := by rfl

theorem unreadable_sent : (next [unreadable]).run.sent?.isSome = true := by rfl

/-- A photo that was uploaded is dropped from the next report if it cannot be read then. -/
theorem unreadable_photo_not_reused :
    Twins.stock.runs (twice [unreadable]) = [first, next [unreadable]] ∧
    Twins.stock.Keeps Twins.left (twice [unreadable]) ∧
    (∀ e ∈ twice [unreadable], e.Foreign Twins.left) ∧
    (∀ a ∈ Twins.stock.runs (twice [unreadable]), a.stock.store.faults .markUploaded = none) ∧
    (job, .uploaded "u") ∈ first.answers ∧
    (next [unreadable]).answers.map (·.2) =
      [.failed (.store (.database "disk I/O error")), .failed (.store (.database "disk I/O error"))] ∧
    (next [unreadable]).run.sent?.isSome = true ∧
    (next [unreadable]).run.outcome.result.toOption.map (·.resolution) =
      some ⟨[], [Twins.left, Twins.right]⟩ := by
  refine ⟨runs_unreadable, ⟨nofun, nofun, nofun, trivial⟩, ?_, ?_, first_uploads, rfl,
    unreadable_sent, unreadable_dropped⟩
  · simp [twice, StockEvent.Foreign, unreadable]
  · rw [runs_unreadable]
    intro a member
    rcases List.mem_pair.mp member with rfl | rfl <;> rfl

/-- While the photos can be read, the second run takes their address over. -/
theorem readable_photo_reused :
    ((Twins.stock.runs (twice [.preview Twins.right])).flatMap (·.answers)).countP
      (isUploadOf Twins.left) ≤ 1 ∧
    ∀ report, (next [.preview Twins.right]).run.outcome.result = .ok report →
      report.resolution.resolved.lookup Twins.left = some "u" ∧
      report.reused = (next [.preview Twins.right]).answers.countP (·.2.isReused) := by
  have kept : Twins.stock.Keeps Twins.left (twice [.preview Twins.right]) :=
    ⟨nofun, nofun, nofun, trivial⟩
  have foreign : ∀ e ∈ twice [.preview Twins.right], e.Foreign Twins.left := by
    simp [twice, StockEvent.Foreign]
  have noting : ∀ a ∈ Twins.stock.runs (twice [.preview Twins.right]),
      a.stock.store.faults .markUploaded = none := by
    rw [runs_preview]
    intro a member
    rcases List.mem_pair.mp member with rfl | rfl <;> rfl
  obtain ⟨once, again⟩ := uploaded_once_then_reused kept foreign noting
  obtain ⟨-, later⟩ := again [] first [next [.preview Twins.right]] runs_preview job "u"
    first_uploads rfl
  obtain ⟨-, -, reuse⟩ := later _ (List.mem_singleton_self _)
  have valid : validate ticket.header ticket.body = .ok Twins.day := by decide
  obtain ⟨-, reports⟩ := reuse job.list Twins.day ⟨"t"⟩ (by decide) valid rfl rfl
  refine ⟨once, fun report sent => ?_⟩
  obtain ⟨found, -, counted⟩ := reports report sent
  exact ⟨found, counted⟩

end Retried

end Stock

end SiteReport
