import SiteReport.Proofs.CommandLine.Sending

/-!
An attempt after an attempt that failed, about the same report. The stock remembers the addresses of
the uploads that succeeded. So the uploads of the second attempt are those of the first one, without
the ones that succeeded for photos that the report names by their identifiers.
-/

namespace SiteReport

open CommandLine Submission

namespace Submission

/-- With an address on record a photo needs no upload. -/
theorem requestFor?_of_recorded {stock : Stock} {job : Job} {url : String}
    (recorded : stock.store.recorded? job.photo = some url) (token : Token) (date : Date) :
    requestFor? token date stock job = none := by
  obtain ⟨p, stored, known⟩ := Store.recorded?_eq_some_iff.mp recorded
  unfold requestFor?
  split
  · rename_i q read
    have same := (Store.stored_of_get read).symm.trans stored
    rw [Option.some.inj (Except.ok.inj same), known]
    rfl
  · rfl

/-- A photo that was uploaded had needed it. -/
theorem Explained.requestFor?_isSome {service : Service} {token : Token} {date : Date}
    {stock : Stock} {requests : List UploadRequest} {job : Job} {url : String}
    (h : Explained service token date stock requests job (.uploaded url)) (token' : Token)
    (date' : Date) : (requestFor? token' date' stock job).isSome = true := by
  obtain ⟨p, -, stored, unsent, -⟩ := h
  rw [requestFor?, stored]
  simp [unsent]

theorem requestFor?_congr {stock other : Stock} {job : Job}
    (same : stock.get job.photo = other.get job.photo) (token : Token) (date : Date) :
    requestFor? token date stock job = requestFor? token date other job := by
  unfold requestFor?
  rw [same]

end Submission

theorem Stock.get_of_works {s : Stock} (works : s.store.faults = fun _ => none) (id : PhotoId) :
    s.get id = s.store.stored id := by
  rw [Stock.get, Store.get_eq_stored, Store.guarded, works]

namespace Attempt

variable {a : Attempt} {job : Job}

/-- A photo that was not uploaded is afterwards as it was. -/
theorem stored_after {found : Found} (member : (job, found) ∈ a.answers)
    (unsent : found.isUploaded = false) :
    a.run.stock.store.stored job.photo = a.stock.store.stored job.photo := by
  rcases a.answers_cases with ⟨none, -, -⟩ | ⟨token, date, before, delivery, stock_eq, -⟩
  · rw [none] at member
    cases member
  · obtain ⟨notes, -, noted, uploads⟩ := delivery.notes
    rw [stock_eq, noted]
    refine Store.stored_noteAll_of_not_mem ?_ a.stock.store
    intro there
    obtain ⟨⟨id, url⟩, note, same⟩ := List.mem_map.mp there
    obtain ⟨job', uploaded, rfl⟩ := uploads id url note
    have twice := delivery.answer_unique uploaded member same
    rw [← (Prod.mk.inj twice).2] at unsent
    cases unsent

/-- What the stock says of a photo after the attempt, it says of the same photo. -/
theorem stored_some_after {id : PhotoId} {p : StagedPhoto}
    (stored : a.stock.store.stored id = .ok (some p)) :
    ∃ q, a.run.stock.store.stored id = .ok (some q) := by
  obtain ⟨notes, distinct, stock_eq, -⟩ := a.run_stock
  rw [stock_eq]
  by_cases noted : id ∈ notes.map (·.1)
  · obtain ⟨⟨id, url⟩, note, rfl⟩ := List.mem_map.mp noted
    exact ⟨_, (Store.stored_noteAll_of_mem distinct note a.stock.store).trans (by rw [stored]; rfl)⟩
  · exact ⟨p, (Store.stored_noteAll_of_not_mem noted a.stock.store).trans stored⟩

/-- An attempt that shows a report request has come to an answer for each of its photos. -/
theorem sent_delivers {sending : SendRequest} (sent : .send sending ∈ a.run.trace) :
    ∃ before, Delivery a.service a.stock a.ticket sending.token sending.payload.date a.answers
      before ∧ requestsOf a.run.trace = requestsOf before.trace := by
  obtain ⟨token, date, _, last, delivery, rfl, -, -⟩ := sent_spec (mem_trace_send_iff.mp sent)
  obtain ⟨before, delivers, -, requests, -⟩ := a.delivers delivery.valid delivery.signedIn
  exact ⟨before, delivers, requests⟩

/-- The uploads of an attempt that shows a report request are those that its photos need. -/
theorem requests_of_sent {sending : SendRequest} (sent : .send sending ∈ a.run.trace) :
    requestsOf a.run.trace = (a.answers.map (·.1)).filterMap
      (requestFor? sending.token sending.payload.date a.stock) := by
  obtain ⟨before, delivery, requests⟩ := sent_delivers sent
  rw [requests, delivery.progress.requests_eq]

/-- The address that an answer gives is the one that the photo goes by in the report. -/
theorem lookup_addresses {date : Date} {token : Token}
    (valid : validate a.ticket.header a.ticket.body = .ok date)
    (signedIn : a.service.token = some token) {found : Found} (member : (job, found) ∈ a.answers)
    {url : String} (known : found.url? = some url) : a.addresses.lookup job.photo = some url := by
  obtain ⟨before, delivery, attempted⟩ := attempt_delivers valid signedIn a.batchSize a.stock
  have found_addresses : a.addresses = before.resolution.resolved := by
    rw [addresses, attempted]
    rfl
  rw [answers, valid, signedIn] at member
  rw [found_addresses]
  exact delivery.lookup_eq_some_iff.mpr ⟨job, found, member, rfl, known⟩

end Attempt

theorem Store.stored_of_database? {s : Store} {rows : Database} (held : s.database? = some rows)
    (key : String) (id : PhotoId) :
    ({ backend := .database rows key } : Store).stored id = s.stored id := by
  obtain ⟨backend, faults⟩ := s
  cases backend with
  | memory m => cases held
  | database d _ =>
      cases held
      rfl

namespace Pairing

variable {m : Pairing} {files : List (String × Bytes)} {w₁ w₂ : World} {settings : Settings}
  {c₁ c₂ : Composer}

/-- The upload that a photo needs the second time is the one that it needed the first time, unless
the photo is named and was uploaded then. -/
theorem Alike.requestFor? (h : m.Alike files ⟨c₁, files.length⟩ ⟨c₂, files.length⟩)
    (left : ∀ id, m.stock₂.stored id =
      (attemptOf w₁ settings c₁).run.stock.store.stored id)
    {job : Job} {found : Found} (member : (job, found) ∈ (attemptOf w₁ settings c₁).answers)
    (staged : ∃ list, (list, job.photo) ∈ c₁.body.stagedPhotos) (token : Token) (date : Date) :
    Submission.requestFor? token date c₂.stock (job.renamed m.rename) =
      if job.photo ∈ m.names ∧ found.isUploaded = true then none
      else Submission.requestFor? token date c₁.stock job := by
  have works₁ : c₁.stock.store.faults = fun _ => none := h.filed₁.works
  have works₂ : c₂.stock.store.faults = fun _ => none := h.filed₂.works
  by_cases named : job.photo ∈ m.names
  · have same : job.renamed m.rename = job := by
      rw [Job.renamed, m.named _ named]
    have stored : c₂.stock.store.stored job.photo =
        (attemptOf w₁ settings c₁).run.stock.store.stored job.photo :=
      (h.filed₂.kept _ named).trans (left _)
    have recorded := Store.recorded?_congr stored
    rw [same]
    by_cases sent : found.isUploaded = true
    · rw [if_pos ⟨named, sent⟩]
      cases found with
      | uploaded url =>
          rw [Attempt.recorded_of_uploaded (congrFun works₁ _) member] at recorded
          exact requestFor?_of_recorded recorded token date
      | reused url => cases sent
      | failed reason => cases sent
    · rw [if_neg fun both => sent both.2]
      refine requestFor?_congr ?_ token date
      rw [Stock.get_of_works works₂, Stock.get_of_works works₁, stored]
      exact Attempt.stored_after member (Bool.not_eq_true _ ▸ sent)
  · -- the photo was staged from a file, and so was the one that stands for it now
    rw [if_neg fun both => named both.1]
    obtain ⟨list, there⟩ := staged
    obtain ⟨k, inside, fresh⟩ := (h.photos list job.photo there).resolve_left named
    obtain ⟨file, here⟩ : ∃ file, files[k]? = some file := ⟨_, List.getElem?_eq_getElem inside⟩
    obtain ⟨p₁, stored₁, name₁, bytes₁, unsent₁⟩ := h.filed₁.filed k file here
    obtain ⟨p₂, stored₂, name₂, bytes₂, unsent₂⟩ := h.filed₂.filed k file here
    have again : (job.renamed m.rename).photo = m.second.fresh k := by
      rw [Job.renamed, fresh, m.staged k (Nat.lt_of_lt_of_le inside h.within)]
    have read₁ : c₁.stock.get job.photo = .ok (some p₁) := by
      rw [Stock.get_of_works works₁, fresh]
      exact stored₁
    have read₂ : c₂.stock.get (job.renamed m.rename).photo = .ok (some p₂) := by
      rw [Stock.get_of_works works₂, again]
      exact stored₂
    unfold Submission.requestFor?
    rw [read₁, read₂]
    simp only [unsent₁, unsent₂, Option.isNone_none, if_true, request, name₁, name₂, bytes₁, bytes₂]
    rfl

/-- The second attempt is about the same photos under their other names. -/
theorem Alike.jobs (h : m.Alike files ⟨c₁, files.length⟩ ⟨c₂, files.length⟩)
    {answers₁ answers₂ : List (Job × Found)}
    (all₁ : answers₁.map (·.1) = Submission.jobs c₁.body)
    (all₂ : answers₂.map (·.1) = Submission.jobs c₂.body) :
    answers₂.map (·.1) = (answers₁.map (·.1)).map (Job.renamed m.rename) := by
  have body : c₂.body = c₁.body.renamed m.rename := h.body
  rw [all₁, all₂, body, jobs_renamed m.apart]

/-- The uploads of the second attempt are those of the first one, without those that succeeded for
named photos. -/
theorem Alike.requests (h : m.Alike files ⟨c₁, files.length⟩ ⟨c₂, files.length⟩)
    (left : ∀ id, m.stock₂.stored id = (attemptOf w₁ settings c₁).run.stock.store.stored id)
    {token₁ token₂ : Token} {date : Date} {before₁ before₂ : State}
    (delivery₁ : Delivery (attemptOf w₁ settings c₁).service c₁.stock c₁.beginSubmit token₁ date
      (attemptOf w₁ settings c₁).answers before₁)
    (delivery₂ : Delivery (attemptOf w₂ settings c₂).service c₂.stock c₂.beginSubmit token₂ date
      (attemptOf w₂ settings c₂).answers before₂) :
    requestsOf before₂.trace =
      ((attemptOf w₁ settings c₁).answers.filter fun (job, found) =>
        !(decide (job.photo ∈ m.names) && found.isUploaded)).filterMap
          fun answer => Submission.requestFor? token₂ date c₁.stock answer.1 := by
  have jobs := h.jobs delivery₁.jobs_eq delivery₂.jobs_eq
  rw [delivery₂.progress.requests_eq, jobs, List.map_map, List.filterMap_map, List.filterMap_filter]
  refine List.filterMap_congr fun answer member => ?_
  obtain ⟨job, found⟩ := answer
  have needed := h.requestFor? left member ⟨job.list, delivery₁.staged_of_answer member⟩ token₂ date
  refine needed.trans ?_
  by_cases spared : job.photo ∈ m.names ∧ found.isUploaded = true
  · simp [spared]
  · rw [if_neg spared]
    have kept : (!(decide (job.photo ∈ m.names) && found.isUploaded)) = true := by
      simpa [Decidable.imp_iff_not_or] using spared
    rw [if_pos kept]

/-- A named photo that was uploaded the first time is not uploaded the second time: its address on
record is taken over. -/
theorem Alike.reuses (h : m.Alike files ⟨c₁, files.length⟩ ⟨c₂, files.length⟩)
    (left : ∀ id, m.stock₂.stored id = (attemptOf w₁ settings c₁).run.stock.store.stored id)
    {token₁ token₂ : Token} {date : Date} {before₁ before₂ : State}
    (delivery₁ : Delivery (attemptOf w₁ settings c₁).service c₁.stock c₁.beginSubmit token₁ date
      (attemptOf w₁ settings c₁).answers before₁)
    (delivery₂ : Delivery (attemptOf w₂ settings c₂).service c₂.stock c₂.beginSubmit token₂ date
      (attemptOf w₂ settings c₂).answers before₂)
    {job : Job} {url : String} (member : (job, .uploaded url) ∈ (attemptOf w₁ settings c₁).answers)
    (named : job.photo ∈ m.names) :
    (job, .reused url) ∈ (attemptOf w₂ settings c₂).answers := by
  have works₁ : c₁.stock.store.faults = fun _ => none := h.filed₁.works
  have works₂ : c₂.stock.store.faults = fun _ => none := h.filed₂.works
  have stored : c₂.stock.store.stored job.photo =
      (attemptOf w₁ settings c₁).run.stock.store.stored job.photo :=
    (h.filed₂.kept _ named).trans (left _)
  have recorded : c₂.stock.store.recorded? job.photo = some url :=
    (Store.recorded?_congr stored).trans (Attempt.recorded_of_uploaded (congrFun works₁ _) member)
  obtain ⟨p, there, known⟩ := Store.recorded?_eq_some_iff.mp recorded
  rw [← Stock.get_of_works works₂] at there
  have asked : job ∈ (attemptOf w₂ settings c₂).answers.map (·.1) := by
    rw [h.jobs delivery₁.jobs_eq delivery₂.jobs_eq]
    refine List.mem_map.mpr ⟨job, List.mem_map_of_mem member, ?_⟩
    rw [Job.renamed, m.named _ named]
  obtain ⟨⟨job', found⟩, answered, rfl⟩ := List.mem_map.mp asked
  rw [← (delivery₂.progress.explained job' found answered).eq_reused there known]
  exact answered

/-- Two composers that come to their attempts from the same description. -/
theorem Alike.sending {path text : String} {stores : Option String} {d : Description}
    {rows₁ rows₂ : Database} (first : m.first = surroundings w₁ path)
    (second : m.second = surroundings w₂ path)
    (stock₁ : m.stock₁ = { backend := .database rows₁ defaultDraftKey })
    (stock₂ : m.stock₂ = { backend := .database rows₂ defaultDraftKey })
    (read₁ : (w₁.look path).text = .ok text) (read₂ : (w₂.look path).text = .ok text)
    (parsed : Description.parse? text = some d) (names : d.named = m.names)
    (paths : d.paths (folderOf path) = m.paths)
    (directory : ∀ path, stores = some path → w₂.look path = w₁.look path)
    (codec : w₂.codec = w₁.codec) {mid₁ : Composer}
    (composed₁ : CommandLine.compose w₁ (Invocation.composer w₁.codec settings rows₁) path stores =
      (.ok (), mid₁))
    (flushed₁ : mid₁.flushDraft w₁.clock = (.ok (), c₁)) :
    ∃ files mid₂ c₂,
      CommandLine.compose w₂ (Invocation.composer w₂.codec settings rows₂) path stores =
        (.ok (), mid₂) ∧
      mid₂.flushDraft w₂.clock = (.ok (), c₂) ∧
      m.Alike files ⟨c₁, files.length⟩ ⟨c₂, files.length⟩ := by
  have start : m.Alike [] { composer := Invocation.composer w₁.codec settings rows₁ }
      { composer := Invocation.composer w₂.codec settings rows₂ } := by
    constructor
    · exact Nat.zero_le _
    · rfl
    · rfl
    · rfl
    · rfl
    · rfl
    · exact congrArg (fun own => (Invocation.composer own settings rows₁).stock.normalizer) codec
    · rw [stock₁]
      exact Filed.start rfl
    · rw [stock₂]
      exact Filed.start rfl
    · intro list id staged
      cases staged
  obtain ⟨well, files, alike⟩ :=
    start.compose first second read₁ read₂ parsed names paths directory (by rw [composed₁])
  rw [composed₁] at alike
  obtain ⟨-, saved, alike⟩ := alike.flushDraft w₁.clock w₂.clock
  rw [flushed₁] at alike
  exact ⟨files, _, _, Prod.ext well rfl, Prod.ext saved rfl, alike⟩

end Pairing

end SiteReport
