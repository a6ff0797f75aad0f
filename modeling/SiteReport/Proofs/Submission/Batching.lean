import Mathlib.Logic.Relation
import SiteReport.Proofs.Submission.Resubmission

/-!
Batches make no difference. If the answer to an upload depends on the request alone, a run comes to
the same end whatever the size of its batches and whatever the order in which uploads end: every
photo is looked up as the stock had it at the start, and notes about different photos do not disturb
each other. It makes no difference either that an upload may be noted before a later one has begun.
-/

namespace SiteReport

namespace Submission

variable {service : Service} {token : Token} {date : Date}

/-! ### One photo -/

/-- What becomes of a photo, if it depends on the stock and on the request alone. -/
def answerFor (answer : UploadRequest → Except ServiceError String) (token : Token) (date : Date)
    (stock : Stock) (job : Job) : Found :=
  match stock.get job.photo with
  | .error cause => .failed (.store cause)
  | .ok none => .failed .missing
  | .ok (some p) =>
    match p.uploadedUrl? with
    | some url => .reused url
    | none =>
      match answer (request token date job p) with
      | .ok url => .uploaded url
      | .error cause => .failed (.service cause)

theorem Explained.eq_answerFor {answer : UploadRequest → Except ServiceError String}
    (steady : ∀ turn, service.upload turn = answer) {stock : Stock} {requests : List UploadRequest}
    {job : Job} {found : Found} (h : Explained service token date stock requests job found) :
    found = answerFor answer token date stock job := by
  unfold answerFor
  cases found with
  | reused url =>
      obtain ⟨p, stored, noted⟩ := h
      simp only [stored, noted]
  | uploaded url =>
      obtain ⟨p, turn, stored, unsent, -, answered⟩ := h
      rw [steady] at answered
      simp only [stored, unsent, answered]
  | failed reason =>
      cases reason with
      | missing =>
          rw [Explained] at h
          simp only [h]
      | store cause =>
          rw [Explained] at h
          simp only [h]
      | service cause =>
          obtain ⟨p, turn, stored, unsent, -, answered⟩ := h
          rw [steady] at answered
          simp only [stored, unsent, answered]

/-! ### A whole run -/

namespace Delivery

variable {stock : Stock} {ticket : Ticket} {answers : List (Job × Found)} {before : State}

theorem answers_eq {answer : UploadRequest → Except ServiceError String}
    (steady : ∀ turn, service.upload turn = answer)
    (h : Delivery service stock ticket token date answers before) :
    answers = (jobs ticket.body).map fun job => (job, answerFor answer token date stock job) := by
  have each : ∀ e ∈ answers, (e.1, answerFor answer token date stock e.1) = e := by
    rintro ⟨job, found⟩ member
    rw [← (h.progress.explained job found member).eq_answerFor steady]
  rw [← h.jobs_eq, List.map_map]
  exact (List.map_id answers).symm.trans (List.map_congr_left fun e he => (each e he).symm)

theorem stock_eq (h : Delivery service stock ticket token date answers before) :
    before.stock = stock.noteAll (notesOf stock answers) := by
  obtain ⟨notes, perm, noted⟩ := h.progress.noted
  rw [noted, Stock.noteAll_perm perm (h.notes_nodup perm)]

/-- Two runs that found the same out come to the same end. -/
theorem result_eq {other : Service} {after : State}
    (h : Delivery service stock ticket token date answers before)
    (h' : Delivery other stock ticket token date answers after) (sends : service.send = other.send) :
    resultOf service ticket token date before = resultOf other ticket token date after := by
  have requests : reportRequest ticket token date before = reportRequest ticket token date after := by
    rw [reportRequest, reportRequest, h.progress.resolution_eq, h'.progress.resolution_eq]
  simp only [resultOf, requests, sends, h.progress.resolution_eq, h'.progress.resolution_eq,
    h.progress.uploaded_eq, h'.progress.uploaded_eq, h.progress.reused_eq, h'.progress.reused_eq,
    h.progress.failed_eq, h'.progress.failed_eq]

end Delivery

/-- What stays the same when batches are cut and end in another way. -/
theorem attempt_batching (service other : Service)
    {answer : UploadRequest → Except ServiceError String}
    (steady : ∀ turn, service.upload turn = answer) (steady' : ∀ turn, other.upload turn = answer)
    (tokens : service.token = other.token) (sends : service.send = other.send) (n n' : Nat)
    (ticket : Ticket) (stock : Stock) :
    (attempt service n ticket { stock }).1 = (attempt other n' ticket { stock }).1 ∧
      (attempt service n ticket { stock }).2.stock =
        (attempt other n' ticket { stock }).2.stock := by
  have same : ready other ticket = ready service ticket := by rw [ready, ready, tokens]
  cases found : ready service ticket with
  | error cause =>
      rw [attempt_of_refused found, attempt_of_refused (same.trans found)]
      exact ⟨rfl, rfl⟩
  | ok found' =>
      obtain ⟨valid, signedIn⟩ := ready_eq_ok_iff.mp found
      obtain ⟨before, delivery, run⟩ := attempt_delivers valid signedIn n stock
      obtain ⟨after, delivery', run'⟩ := attempt_delivers valid (tokens ▸ signedIn) n' stock
      rw [delivery.answers_eq steady] at delivery
      rw [delivery'.answers_eq steady'] at delivery'
      rw [run, run']
      refine ⟨delivery.result_eq delivery' sends, ?_⟩
      exact delivery.stock_eq.trans delivery'.stock_eq.symm

/-! ### One batch -/

/-- A batch under way: the jobs that have not begun, those that have begun and are not at their end,
and what is found so far, in the order of the batch. -/
structure Flight where
  state : State
  waiting : List Job
  flying : List (Job × Found)
  found : List (Job × Found)

/-- The next job begins, with a look at the stock as it is then, or any one under way ends, which
notes its upload. -/
inductive Flight.Step (service : Service) (token : Token) (date : Date) : Flight → Flight → Prop where
  | begins (s : State) (job : Job) (waiting : List Job) (flying found : List (Job × Found)) :
      Step service token date ⟨s, job :: waiting, flying, found⟩
        ⟨(find service token date s job).2, waiting,
          flying ++ [(job, (find service token date s job).1)],
          found ++ [(job, (find service token date s job).1)]⟩
  | ends (s : State) (waiting : List Job) (pre : List (Job × Found)) (e : Job × Found)
      (post found : List (Job × Found)) :
      Step service token date ⟨s, waiting, pre ++ e :: post, found⟩
        ⟨record s e.1 e.2, waiting, pre ++ post, found⟩

/-- All jobs of a batch have begun and ended, in one order or another. -/
def Flown (service : Service) (token : Token) (date : Date) (s : State) (batch : List Job)
    (after : State) (found : List (Job × Found)) : Prop :=
  Relation.ReflTransGen (Flight.Step service token date) ⟨s, batch, [], []⟩ ⟨after, [], [], found⟩

/-- The end of a batch: what was found is taken over, and the progress is shown. -/
def landed (total : Nat) (s : State) (found : List (Job × Found)) : State :=
  let s := found.foldl (fun s (job, f) => settle s job f) s
  s.note (.phase (.uploading s.done total))

/-- What is noted about other photos makes no difference to a job. -/
theorem find_of_get_eq {s : State} {stock : Stock} {job : Job}
    (same : stock.get job.photo = s.stock.get job.photo) :
    find service token date { s with stock } job =
      ((find service token date s job).1, { (find service token date s job).2 with stock }) := by
  unfold find
  simp only [same]
  split
  · rfl
  · rfl
  · split <;> rfl

theorem stock_find (s : State) (job : Job) :
    (find service token date s job).2.stock = s.stock := by
  unfold find
  split
  · rfl
  · rfl
  · split <;> rfl

theorem stock_findAll (s : State) (batch : List Job) :
    (findAll service token date s batch).2.stock = s.stock := by
  induction batch generalizing s with
  | nil => rfl
  | cons job rest ih => exact (ih _).trans (stock_find s job)

theorem findAll_concat (service : Service) (token : Token) (date : Date) (s : State)
    (batch : List Job) (job : Job) :
    let mid := (findAll service token date s batch).2
    findAll service token date s (batch ++ [job]) =
      ((findAll service token date s batch).1 ++ [(job, (find service token date mid job).1)],
        (find service token date mid job).2) := by
  induction batch generalizing s with
  | nil => rfl
  | cons first rest ih =>
      simp only [List.cons_append, findAll, ih]

/-- Where a batch under way stands: its state is that of the jobs that have begun, with the uploads
noted that have ended. -/
structure Flight.Underway (service : Service) (token : Token) (date : Date) (s : State)
    (batch : List Job) (f : Flight) (begun : List Job) (ended : List (Job × Found)) : Prop where
  jobs_eq : begun ++ f.waiting = batch
  found_eq : f.found = (findAll service token date s begun).1
  perm : (ended ++ f.flying).Perm f.found
  state_eq : f.state = { (findAll service token date s begun).2 with
    stock := s.stock.noteAll (notesOf s.stock ended) }

theorem Flight.Underway.step {s : State} {batch : List Job} {f g : Flight} {begun : List Job}
    {ended : List (Job × Found)} (h : Underway service token date s batch f begun ended)
    (distinct : (batch.map (·.photo)).Nodup) (step : Step service token date f g) :
    ∃ begun ended, Underway service token date s batch g begun ended := by
  cases step with
  | begins now job waiting flying found =>
      obtain ⟨jobs_eq, found_eq, perm, state_eq⟩ := h
      simp only at jobs_eq found_eq perm state_eq
      -- what has ended is about other photos
      have absent : job.photo ∉ (notesOf s.stock ended).map (·.1) := by
        intro member
        obtain ⟨⟨photo, url⟩, noted, rfl⟩ := List.mem_map.mp member
        obtain ⟨other, answered, same⟩ :=
          mem_uploadsOf_iff.mp ((notesOf_sublist s.stock ended).subset noted)
        have earlier : (other, Found.uploaded url) ∈ found :=
          perm.subset (List.mem_append_left _ answered)
        have known : other ∈ begun := by
          rw [← jobs_findAll service token date s begun, ← found_eq]
          exact List.mem_map.mpr ⟨_, earlier, rfl⟩
        rw [← jobs_eq, List.map_append, List.nodup_append] at distinct
        exact distinct.2.2 _ (List.mem_map.mpr ⟨other, known, rfl⟩) _
          (List.mem_map.mpr ⟨job, List.mem_cons_self, rfl⟩) same
      have same : (s.stock.noteAll (notesOf s.stock ended)).get job.photo =
          (findAll service token date s begun).2.stock.get job.photo := by
        rw [stock_findAll, Stock.get_noteAll_of_not_mem absent]
      have concat := findAll_concat service token date s begun job
      refine ⟨begun ++ [job], ended, ?_, ?_, ?_, ?_⟩
      · rw [List.append_assoc, List.singleton_append, jobs_eq]
      · rw [concat, state_eq, find_of_get_eq same, found_eq]
      · rw [← List.append_assoc]
        exact perm.append_right _
      · rw [concat, state_eq, find_of_get_eq same]
  | ends now waiting pre e post found =>
      obtain ⟨jobs_eq, found_eq, perm, state_eq⟩ := h
      simp only at jobs_eq found_eq perm state_eq
      refine ⟨begun, ended ++ [e], jobs_eq, found_eq, ?_, ?_⟩
      · refine List.Perm.trans ?_ perm
        rw [List.append_assoc, List.singleton_append]
        exact List.perm_middle.symm.append_left ended
      · rw [record_eq, state_eq]
        simp only [notesOf_append, notesOf_noteAll, Stock.noteAll_append]

theorem Flown.underway {s after : State} {batch : List Job} {found : List (Job × Found)}
    (flown : Flown service token date s batch after found)
    (distinct : (batch.map (·.photo)).Nodup) :
    ∃ begun ended,
      Flight.Underway service token date s batch ⟨after, [], [], found⟩ begun ended := by
  unfold Flown at flown
  generalize (⟨after, [], [], found⟩ : Flight) = last at flown
  induction flown with
  | refl =>
      have none : notesOf s.stock [] = [] := by simp [notesOf, uploadsOf]
      refine ⟨[], [], rfl, rfl, .refl [], ?_⟩
      rw [none]
      rfl
  | tail steps step ih =>
      obtain ⟨begun, ended, sound⟩ := ih
      exact sound.step distinct step

/-- However a batch goes, it ends in the same state. -/
theorem Flown.landed_eq {s after : State} {batch : List Job} {found : List (Job × Found)}
    (flown : Flown service token date s batch after found)
    (distinct : (batch.map (·.photo)).Nodup) (total : Nat) :
    landed total after found = resolveBatch service token date total s batch := by
  obtain ⟨begun, ended, jobs_eq, found_eq, perm, state_eq⟩ := flown.underway distinct
  rw [List.append_nil] at jobs_eq perm
  subst jobs_eq
  simp only at found_eq perm state_eq
  -- the uploads are noted in the order in which they end, here and there
  have arranged : (service.completion.arrange s.done found).Perm ended :=
    (service.completion.arrange_perm s.done found).trans perm.symm
  have photos : (ended.map (·.1.photo)).Nodup := by
    refine (perm.map _).nodup_iff.mpr ?_
    rwa [found_eq, photos_findAll]
  have keys : ((notesOf s.stock ended).map (·.1)).Nodup :=
    photos.sublist (((notesOf_sublist s.stock ended).map _).trans
      (Delivery.uploads_keys_sublist ended))
  unfold resolveBatch landed
  simp only [← found_eq, state_eq, foldl_record_eq, stock_findAll,
    Stock.noteAll_perm (notesOf_perm s.stock arranged.symm) keys]

theorem flown_exists (service : Service) (token : Token) (date : Date) (s : State)
    (batch : List Job) :
    ∃ after found, Flown service token date s batch after found := by
  have begin (s : State) (waiting : List Job) (flying found : List (Job × Found)) :
      ∃ after flying' found', Relation.ReflTransGen (Flight.Step service token date)
        ⟨s, waiting, flying, found⟩ ⟨after, [], flying', found'⟩ := by
    induction waiting generalizing s flying found with
    | nil => exact ⟨_, _, _, .refl⟩
    | cons job waiting ih =>
        obtain ⟨after, flying', found', steps⟩ := ih _ _ _
        exact ⟨after, flying', found', .head (.begins s job waiting flying found) steps⟩
  have finish (s : State) (flying found : List (Job × Found)) :
      ∃ after, Relation.ReflTransGen (Flight.Step service token date)
        ⟨s, [], flying, found⟩ ⟨after, [], [], found⟩ := by
    induction flying generalizing s with
    | nil => exact ⟨_, .refl⟩
    | cons e flying ih =>
        obtain ⟨after, steps⟩ := ih (record s e.1 e.2)
        exact ⟨after, .head (.ends s [] [] e flying found) steps⟩
  obtain ⟨mid, flying, found, begun⟩ := begin s batch [] []
  obtain ⟨after, ended⟩ := finish mid flying found
  exact ⟨after, found, begun.trans ended⟩

/-! ### Batch after batch -/

/-- Each batch begins when the one before has landed. -/
inductive AllFlown (service : Service) (token : Token) (date : Date) (total : Nat) :
    State → List (List Job) → State → Prop where
  | done (s : State) : AllFlown service token date total s [] s
  | batch {s after last : State} {batch : List Job} {rest : List (List Job)}
      {found : List (Job × Found)} (flown : Flown service token date s batch after found)
      (others : AllFlown service token date total (landed total after found) rest last) :
      AllFlown service token date total s (batch :: rest) last

theorem allFlown_iff {total : Nat} {s last : State} {parts : List (List Job)}
    (distinct : (parts.flatten.map (·.photo)).Nodup) :
    AllFlown service token date total s parts last ↔
      last = parts.foldl (resolveBatch service token date total) s := by
  induction parts generalizing s with
  | nil =>
      constructor
      · intro flown
        cases flown with
        | done => rfl
      · rintro rfl
        exact .done last
  | cons batch rest ih =>
      rw [List.flatten_cons, List.map_append, List.nodup_append] at distinct
      obtain ⟨here, later, -⟩ := distinct
      rw [List.foldl_cons, ← ih later]
      constructor
      · intro flown
        cases flown with
        | batch flown others => rwa [← flown.landed_eq here total]
      · intro others
        obtain ⟨after, found, flown⟩ := flown_exists service token date s batch
        rw [← flown.landed_eq here total] at others
        exact .batch flown others

end Submission

open Submission in
/-- What a run answers and what it leaves in the stock do not depend on the size of its batches and
on the order in which the uploads of a batch end, if the answer to an upload depends on the request
alone. A batch in which jobs begin and end in between each other comes to the same as well. -/
theorem SubmitRun.outcome_of_any_batching (token : Option Token)
    (answer : UploadRequest → Except ServiceError String)
    (send : SendRequest → Except ServiceError String) (stock : Stock) (ticket : Ticket)
    (n n' : Nat) (c c' : Completion) :
    let service (completion : Completion) : Service :=
      { token, upload := fun _ => answer, send, completion }
    (start (service c) n stock ticket).outcome = (start (service c') n' stock ticket).outcome ∧
    (start (service c) n stock ticket).stock = (start (service c') n' stock ticket).stock ∧
    ∀ token date total s last,
      AllFlown (service c) token date total s (batches n (jobs ticket.body)) last ↔
        last = (batches n (jobs ticket.body)).foldl
          (resolveBatch (service c) token date total) s := by
  intro service
  obtain ⟨result, stocks⟩ := attempt_batching (service c) (service c') (fun _ => rfl)
    (fun _ => rfl) rfl rfl n n' ticket stock
  refine ⟨?_, stocks, ?_⟩
  · unfold start ofAttempt
    simp only [result]
  · intro token date total s last
    have distinct : ((batches n (jobs ticket.body)).flatten.map (·.photo)).Nodup := by
      rw [flatten_batches]
      exact nodup_jobs ticket.body
    exact allFlown_iff distinct

end SiteReport
