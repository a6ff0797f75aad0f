import SiteReport.Proofs.Submission.Resubmission
import Mathlib.Data.List.Forall2

/-!
What a report that was sent accounts for. Each staged photo of the document has come to an address or
was dropped, and was uploaded once if the stock had no address of it; the report shows the lists of
the document with addresses in place of photos.
-/

namespace SiteReport

/-- The photo is in the stock, without an address of its own. -/
def Stock.awaitsUpload (stock : Stock) (photo : PhotoId) : Bool :=
  match stock.get photo with
  | .ok (some p) => p.uploadedUrl?.isNone
  | _ => false

/-! ### Photo lists of a report -/

/-- The photo lists of a section that is sent, under the names that the document has for them. -/
def PayloadSection.photoLists : PayloadSection → List (PhotoList × List String)
  | .photos id _ urls => urls.entries.map fun e => (⟨id, e.1⟩, e.2)
  | _ => []

namespace Payload

def photoLists (p : Payload) : List (PhotoList × List String) :=
  p.sections.flatMap (·.photoLists)

/-- A report shows the lists of the document, with the addresses of their photos. -/
theorem photoLists_assemble (header : Header) (date : Date) (b : Body)
    (resolved : List (PhotoId × String)) :
    (assemble header date b resolved).photoLists =
      b.lists.map fun e => (e.1, urls resolved e.2) := by
  have section_lists : ∀ s : Section,
      (sectionOf? resolved s).toList.flatMap (·.photoLists) =
        s.lists.map fun e => (e.1, urls resolved e.2) := by
    rintro ⟨id, content⟩
    cases content with
    | photos block => cases block <;> rfl
    | checklistItem name => rfl
    | comment text => rfl
    | workDescription text => rfl
  have sections_eq : (assemble header date b resolved).sections =
      b.sections.flatMap fun s => (sectionOf? resolved s).toList :=
    List.filterMap_eq_flatMap_toList _ _
  rw [photoLists, sections_eq, List.flatMap_assoc, Body.lists, List.map_flatMap]
  exact List.flatMap_congr fun s _ => section_lists s

/-- Photos that are dropped exactly if they have no address: the others are sent in their order. -/
theorem map_urls_eq {r : Resolution} {photos : List PhotoRef}
    (exact : ∀ id, .staged id ∈ photos → (id ∈ r.dropped ↔ r.resolved.lookup id = none)) :
    (urls r.resolved photos).map .resolved =
      (photos.filter (Body.Resolution.keeps r)).map (Body.Resolution.replaced r) := by
  rw [urls_eq, List.map_filterMap, ← List.filterMap_eq_map, List.filterMap_filter]
  apply List.filterMap_congr
  intro p member
  cases p with
  | resolved url => rfl
  | staged id =>
      cases found : r.resolved.lookup id with
      | none =>
          have dropped : id ∈ r.dropped := (exact id member).mpr found
          simp [address, found, Body.Resolution.keeps, dropped]
      | some url =>
          have kept : id ∉ r.dropped := fun dropped => by
            rw [(exact id member).mp dropped] at found
            cases found
          simp [address, found, Body.Resolution.keeps, kept, Body.Resolution.replaced]

end Payload

namespace Submission

/-! ### Answers, counted -/

theorem countP_found (answers : List (Job × Found)) :
    answers.countP (·.2.isUploaded) + answers.countP (·.2.isReused) =
      (resolutionOf answers).resolved.length := by
  induction answers with
  | nil => rfl
  | cons e rest ih =>
      obtain ⟨job, found⟩ := e
      have parts := resolutionOf_append [(job, found)] rest
      rw [List.singleton_append] at parts
      rw [parts, List.length_append, ← ih, List.countP_cons, List.countP_cons]
      cases found <;>
        simp [resolutionOf, Found.url?, Found.isUploaded, Found.isReused] <;> omega

theorem photos_failuresOf (answers : List (Job × Found)) :
    (failuresOf answers).map (·.photo) = (resolutionOf answers).dropped := by
  rw [failuresOf, resolutionOf, List.map_filterMap]
  apply List.filterMap_congr
  rintro ⟨job, found⟩ _
  cases found <;> rfl

theorem resolution_perm (answers : List (Job × Found)) :
    ((resolutionOf answers).resolved.map (·.1) ++ (resolutionOf answers).dropped).Perm
      (answers.map (·.1.photo)) := by
  induction answers with
  | nil => exact .refl []
  | cons e rest ih =>
      obtain ⟨job, found⟩ := e
      cases answer : found.url? with
      | some url => simpa [resolutionOf, answer] using ih.cons job.photo
      | none =>
          have here : (job.photo :: ((resolutionOf rest).resolved.map (·.1) ++
              (resolutionOf rest).dropped)).Perm ((job, found) :: rest |>.map (·.1.photo)) :=
            ih.cons job.photo
          simpa [resolutionOf, answer] using List.perm_middle.trans here

/-! ### Uploads, counted -/

theorem isSome_requestFor? (token : Token) (date : Date) (stock : Stock) (job : Job) :
    (requestFor? token date stock job).isSome = stock.awaitsUpload job.photo := by
  unfold requestFor? Stock.awaitsUpload
  cases stock.get job.photo with
  | error cause => rfl
  | ok present =>
      cases present with
      | none => rfl
      | some p => cases known : p.uploadedUrl? <;> simp [known]

theorem requestFor?_eq_some {token : Token} {date : Date} {stock : Stock} {job : Job}
    {r : UploadRequest} (asked : requestFor? token date stock job = some r) :
    ∃ p, stock.get job.photo = .ok (some p) ∧ r = request token date job p := by
  unfold requestFor? at asked
  split at asked
  · rename_i p stored
    split at asked
    · cases asked
      exact ⟨p, stored, rfl⟩
    · cases asked
  · cases asked

/-- The request is an upload of the photo as it is in the stock, under the category of every list
that shows the photo. -/
def IsUploadOf (stock : Stock) (b : Body) (photo : PhotoId) (r : UploadRequest) : Prop :=
  (∃ p, stock.get photo = .ok (some p) ∧ r.fileName = p.name ∧
    r.data = String.ofList (Text.Base64.encode p.bytes)) ∧
  ∀ list, (list, photo) ∈ b.stagedPhotos → r.category = list.category.uploadedAs

/-- One request for each of the photos that need one, and no other. -/
theorem requests_paired (token : Token) (date : Date) (stock : Stock) (js : List Job) :
    List.Forall₂
      (fun photo r => ∃ job ∈ js, job.photo = photo ∧ requestFor? token date stock job = some r)
      ((js.map (·.photo)).filter stock.awaitsUpload)
      (js.filterMap (requestFor? token date stock)) := by
  induction js with
  | nil => exact .nil
  | cons j rest ih =>
      have later := ih.imp fun photo r ⟨job, member, same⟩ =>
        (⟨job, List.mem_cons_of_mem j member, same⟩ :
          ∃ job ∈ j :: rest, job.photo = photo ∧ requestFor? token date stock job = some r)
      have needed := isSome_requestFor? token date stock j
      rw [List.map_cons, List.filter_cons, List.filterMap_cons, ← needed]
      cases asked : requestFor? token date stock j with
      | none => exact later
      | some r => exact .cons ⟨j, List.mem_cons_self, rfl, asked⟩ later

namespace Delivery

variable {service : Service} {stock : Stock} {ticket : Ticket} {token : Token} {date : Date}
  {answers : List (Job × Found)} {before : State}

theorem photos_eq (h : Delivery service stock ticket token date answers before) :
    answers.map (·.1.photo) = ticket.body.stagedIds := by
  rw [← photos_jobs, ← h.jobs_eq, List.map_map]
  rfl

theorem mem_dropped_iff_lookup (h : Delivery service stock ticket token date answers before)
    {list : PhotoList} {photo : PhotoId} (staged : (list, photo) ∈ ticket.body.stagedPhotos) :
    photo ∈ before.resolution.dropped ↔ before.resolution.resolved.lookup photo = none := by
  refine ⟨h.lookup_of_dropped, fun missing => ?_⟩
  rcases h.settled staged with dropped | ⟨url, found⟩
  · exact dropped
  · rw [missing] at found
    cases found

/-- Photos are dropped in the order of the document. -/
theorem dropped_eq (h : Delivery service stock ticket token date answers before) :
    before.resolution.dropped =
      ticket.body.stagedIds.filter (· ∈ before.resolution.dropped) := by
  have missing : ∀ e ∈ answers, (decide (e.1.photo ∈ before.resolution.dropped) : Bool) =
      e.2.url?.isNone := by
    rintro ⟨job, found⟩ member
    rw [Bool.eq_iff_iff, decide_eq_true_iff, h.mem_dropped_iff, Option.isNone_iff_eq_none]
    constructor
    · rintro ⟨job', found', member', same, none⟩
      cases h.answer_unique member member' same.symm
      exact none
    · exact fun none => ⟨job, found, member, rfl, none⟩
  have kept : ticket.body.stagedIds.filter (· ∈ before.resolution.dropped) =
      (answers.filter (·.2.url?.isNone)).map (·.1.photo) := by
    rw [← h.photos_eq, List.filter_map]
    exact congrArg _ (List.filter_congr missing)
  rw [kept, h.progress.resolution_eq, resolutionOf, ← List.filterMap_eq_map,
    List.filterMap_filter]
  rfl

theorem requests_forall₂ (h : Delivery service stock ticket token date answers before)
    (sound : ticket.body.WellFormed) :
    List.Forall₂ (IsUploadOf stock ticket.body)
      (ticket.body.stagedIds.filter stock.awaitsUpload) (requestsOf before.trace) := by
  rw [h.progress.requests_eq, h.jobs_eq, ← photos_jobs]
  refine (requests_paired token date stock _).imp ?_
  rintro photo r ⟨job, member, rfl, asked⟩
  obtain ⟨p, stored, rfl⟩ := requestFor?_eq_some asked
  refine ⟨⟨p, stored, rfl, rfl⟩, fun list staged => ?_⟩
  -- the job is about the first list of the photo; the other lists have the category of that one
  obtain ⟨photos, inside, there⟩ := Body.mem_stagedPhotos_iff.mp (staged_of_mem_jobs member)
  obtain ⟨photos', inside', there'⟩ := Body.mem_stagedPhotos_iff.mp staged
  exact congrArg Category.uploadedAs (sound.one_category inside inside' there there')

theorem photoLists_eq (h : Delivery service stock ticket token date answers before) :
    (reportRequest ticket token date before).payload.photoLists.map
        (fun e => (e.1, e.2.map .resolved)) =
      ticket.body.lists.map fun e =>
        (e.1, (e.2.filter (Body.Resolution.keeps before.resolution)).map
          (Body.Resolution.replaced before.resolution)) := by
  rw [reportRequest, Payload.photoLists_assemble, List.map_map]
  apply List.map_congr_left
  rintro ⟨list, photos⟩ member
  refine congrArg (list, ·) (Payload.map_urls_eq fun id staged => ?_)
  exact h.mem_dropped_iff_lookup (Body.mem_stagedPhotos_iff.mpr ⟨photos, member, staged⟩)

end Delivery

/-- A run that is answered well accounts for every staged photo of its document: it has an address
or was dropped, it was uploaded once if the stock had no address of it, and what was not dropped is
in the report where it is in the document. -/
theorem report_accounts_for_photos {service : Service} {n : Nat} {ticket : Ticket} {stock : Stock}
    {report : SubmitReport} {s : State} (sound : ticket.body.WellFormed)
    (sent : attempt service n ticket { stock } = (.ok report, s)) :
    let staged := ticket.body.stagedIds
    let keys := report.resolution.resolved.map (·.1)
    let dropped := report.resolution.dropped
    staged.Nodup ∧ keys.Disjoint dropped ∧ (keys ++ dropped).Perm staged ∧
    report.uploaded + report.reused = report.resolution.resolved.length ∧
    report.failed.map (·.photo) = staged.filter (· ∈ dropped) ∧
    List.Forall₂ (IsUploadOf stock ticket.body) (staged.filter stock.awaitsUpload)
      (requestsOf s.trace) ∧
    report.payload.photoLists.map (fun e => (e.1, e.2.map .resolved)) =
      ticket.body.lists.map fun e =>
        (e.1, (e.2.filter (Body.Resolution.keeps report.resolution)).map
          (Body.Resolution.replaced report.resolution)) := by
  intro staged keys dropped
  rcases attempt_cases service n ticket stock with ⟨cause, -, refused⟩ |
    ⟨date, -, -, refused⟩ | ⟨token, date, answers, before, delivery, attempted⟩
  · rw [refused] at sent
    cases sent
  · rw [refused] at sent
    cases sent
  · rw [attempted] at sent
    obtain ⟨accepted, rfl⟩ := Prod.mk.inj sent
    obtain ⟨-, resolution, uploaded, reused, failed, payload⟩ := resultOf_eq_ok accepted
    have distinct : staged.Nodup := ticket.body.nodup_stagedIds
    have perm : (keys ++ dropped).Perm staged := by
      have all := resolution_perm answers
      rwa [← delivery.progress.resolution_eq, delivery.photos_eq, ← resolution] at all
    refine ⟨distinct, List.disjoint_of_nodup_append (perm.nodup_iff.mpr distinct), perm,
      ?_, ?_, ?_, ?_⟩
    · rw [uploaded, reused, resolution, delivery.progress.uploaded_eq, delivery.progress.reused_eq,
        delivery.progress.resolution_eq, countP_found]
    · simp only [dropped, resolution]
      rw [failed, delivery.progress.failed_eq, photos_failuresOf,
        ← delivery.progress.resolution_eq]
      exact delivery.dropped_eq
    · rw [requestsOf_send]
      exact delivery.requests_forall₂ sound
    · rw [payload, resolution]
      exact delivery.photoLists_eq

/-! ### Four photos, four ways -/

namespace FourPhotos

def shared : PhotoId := Twins.left

def recorded : PhotoId := Twins.right

def failing : PhotoId := ⟨3, by decide⟩

def absent : PhotoId := ⟨4, by decide⟩

def stock : Stock :=
  .ofSettings Pixel.codec ⟨.memory { photos := [Twins.photo shared,
    { Twins.photo recorded with uploaded := true, remoteUrl := some "old" },
    Twins.photo failing] }, fun _ => none⟩ {}

/-- The second upload of a run fails. -/
def service : Service :=
  { Twins.service with
    upload := fun turn _ => if turn = 1 then .error (.status 507 "") else .ok "new" }

def ticket : Ticket :=
  { generation := 0, revision := 0, header := Twins.composer.header, remoteId := none
    body := ⟨[
      ⟨⟨1⟩, .photos (.completed [.staged shared, .resolved "there", .staged recorded])⟩,
      ⟨⟨2⟩, .photos (.beforeAfter [.staged failing] [.staged absent])⟩,
      ⟨⟨3⟩, .photos (.completed [.staged shared])⟩], 3⟩ }

def report : SubmitReport :=
  { remoteId := "r", created := true
    resolution := ⟨[(shared, "new"), (recorded, "old")], [failing, absent]⟩
    uploaded := 1, reused := 1
    failed := [⟨⟨⟨2⟩, .before⟩, failing, .service (.status 507 "")⟩,
      ⟨⟨⟨2⟩, .after⟩, absent, .missing⟩]
    payload := { Twins.payload [] with
      sections := [.photos ⟨1⟩ .completed { completed := some ["new", "there", "old"] },
        .photos ⟨2⟩ .beforeAfter { before := some [], after := some [] },
        .photos ⟨3⟩ .completed { completed := some ["new"] }] } }

/-- The photo that two lists share is uploaded once and stands in both of them. -/
theorem report_accounts_for_four_photos :
    let run := attempt service 2 ticket { stock }
    run.1 = .ok report ∧
    (report.resolution.resolved.map (·.1) ++ report.resolution.dropped).Perm
      [shared, recorded, failing, absent] ∧
    List.Forall₂ (IsUploadOf stock ticket.body) [shared, failing] (requestsOf run.2.trace) ∧
    (requestsOf run.2.trace).map (·.category) = [.after, .before] := by
  intro run
  have sound : ticket.body.WellFormed := by decide
  have sent : run = (.ok report, run.2) := rfl
  obtain ⟨-, -, perm, -, -, uploads, -⟩ := report_accounts_for_photos sound sent
  exact ⟨rfl, perm, uploads, rfl⟩

end FourPhotos

end Submission

end SiteReport
