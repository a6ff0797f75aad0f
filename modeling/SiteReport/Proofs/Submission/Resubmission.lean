import SiteReport.Proofs.Composer.Apply
import SiteReport.Proofs.Document.WellFormed
import SiteReport.Proofs.Picture.Normalize
import SiteReport.Proofs.Submission.Run
import SiteReport.Session

/-!
A document after its report was sent, sent again. What a staged photo came to stands in the document
as it stood in the report, so the second report is the first one again. There is one difference: a
list of the document shows an address once, while a report repeats the address that several photos
of a list came to.
-/

namespace SiteReport

namespace PhotoUrls

/-- Changes every list. -/
def mapLists (f : List String → List String) (u : PhotoUrls) : PhotoUrls :=
  { before := u.before.map f, after := u.after.map f, completed := u.completed.map f }

/-- The lists that there are. -/
def lists (u : PhotoUrls) : List (List String) :=
  u.before.toList ++ u.after.toList ++ u.completed.toList

theorem mapLists_eq_self_iff {f : List String → List String} {u : PhotoUrls} :
    u.mapLists f = u ↔ ∀ urls ∈ u.lists, f urls = urls := by
  obtain ⟨before, after, completed⟩ := u
  cases before <;> cases after <;> cases completed <;> simp [mapLists, lists]

end PhotoUrls

namespace PayloadSection

def mapUrls (f : List String → List String) : PayloadSection → PayloadSection
  | .photos id layout urls => .photos id layout (urls.mapLists f)
  | s => s

/-- The photo lists of a section that is sent. -/
def urlLists : PayloadSection → List (List String)
  | .photos _ _ urls => urls.lists
  | _ => []

theorem mapUrls_eq_self_iff {f : List String → List String} {s : PayloadSection} :
    s.mapUrls f = s ↔ ∀ urls ∈ s.urlLists, f urls = urls := by
  cases s <;> simp [mapUrls, urlLists, PhotoUrls.mapLists_eq_self_iff]

end PayloadSection

namespace Payload

/-- Every photo list of the report. -/
def urlLists (p : Payload) : List (List String) := p.sections.flatMap (·.urlLists)

/-- The report in which each list keeps an address at its first place only. -/
def withoutRepeats (p : Payload) : Payload :=
  { p with sections := p.sections.map (·.mapUrls Body.firsts) }

theorem withoutRepeats_eq_self_iff {p : Payload} :
    p.withoutRepeats = p ↔ ∀ urls ∈ p.urlLists, urls.Nodup := by
  have sections_eq :
      p.withoutRepeats = p ↔ p.sections.map (·.mapUrls Body.firsts) = p.sections := by
    obtain ⟨brand, storeId, storeName, date, startTime, endTime, checklist, sections⟩ := p
    simp [withoutRepeats]
  have pointwise : p.sections.map (·.mapUrls Body.firsts) = p.sections.map id ↔
      ∀ s ∈ p.sections, s.mapUrls Body.firsts = id s := List.map_inj_left
  rw [List.map_id] at pointwise
  rw [sections_eq, pointwise]
  simp only [id, PayloadSection.mapUrls_eq_self_iff, Body.firsts_eq_self_iff, urlLists,
    List.mem_flatMap]
  constructor
  · rintro h urls ⟨s, hs, member⟩
    exact h s hs urls member
  · intro h s hs urls member
    exact h urls ⟨s, hs, member⟩

/-! ### Assembling a rewritten document -/

/-- The address of one photo in a report. -/
def address (resolved : List (PhotoId × String)) : PhotoRef → Option String
  | .resolved url => some url
  | .staged id => resolved.lookup id

theorem urls_eq (resolved : List (PhotoId × String)) (photos : List PhotoRef) :
    urls resolved photos = photos.filterMap (address resolved) := rfl

/-- A photo that was not dropped is rewritten to the address that was sent. -/
theorem address_image {r : Resolution} (apart : ∀ id ∈ r.dropped, r.resolved.lookup id = none)
    (p : PhotoRef) : (Body.Resolution.image r p).bind (address []) = address r.resolved p := by
  cases p with
  | resolved url => rfl
  | staged id =>
      by_cases dropped : id ∈ r.dropped
      · simp [Body.Resolution.image, dropped, address, apart id dropped]
      · cases found : r.resolved.lookup id <;>
          simp [Body.Resolution.image, dropped, found, address]

/-- Only photos on the server have addresses of their own. -/
theorem address_nil_inj {p q : PhotoRef} {url : String} (hp : address [] p = some url)
    (hq : address [] q = some url) : p = q := by
  cases p <;> cases q <;> simp_all [address]

theorem urls_apply {r : Resolution} (apart : ∀ id ∈ r.dropped, r.resolved.lookup id = none)
    (photos : List PhotoRef) :
    urls [] (Body.Resolution.apply r photos) = Body.firsts (urls r.resolved photos) := by
  have images : photos.filterMap (fun p => (Body.Resolution.image r p).bind (address [])) =
      photos.filterMap (address r.resolved) :=
    List.filterMap_congr fun p _ => address_image apart p
  rw [urls_eq, urls_eq, Body.Resolution.apply, ← images, ← List.filterMap_filterMap,
    Body.firsts_filterMap fun _ _ _ => address_nil_inj]

theorem assemble_resolve (header : Header) (date : Date) (b : Body) {r : Resolution}
    (apart : ∀ id ∈ r.dropped, r.resolved.lookup id = none) :
    assemble header date (b.resolve r).1 [] =
      (assemble header date b r.resolved).withoutRepeats := by
  have names : ∀ s : Section,
      checklistName? { s with content := Body.resolveContent r s.content } = checklistName? s := by
    rintro ⟨id, content⟩
    cases content <;> rfl
  have sections : ∀ s : Section,
      sectionOf? [] { s with content := Body.resolveContent r s.content } =
        (sectionOf? r.resolved s).map (·.mapUrls Body.firsts) := by
    rintro ⟨id, content⟩
    cases content with
    | photos block =>
        cases block <;> simp [sectionOf?, Body.resolveContent, PhotoBlock.mapLists, blockUrls,
          PayloadSection.mapUrls, PhotoUrls.mapLists, urls_apply apart, PhotoBlock.layout]
    | checklistItem name => rfl
    | comment text => rfl
    | workDescription text => rfl
  simp only [assemble, withoutRepeats, Body.sections_resolve, List.filterMap_map, Function.comp_def,
    names, sections, List.map_filterMap]

end Payload

theorem validate_eq_ok_iff {header : Header} {body : Body} {date : Date} :
    validate header body = .ok date ↔
      Text.isBlank header.storeId = false ∧ Text.isBlank header.brand = false ∧
      header.date = some date ∧ ∃ s ∈ body.sections, s.content.isBlank = false := by
  unfold validate
  cases Text.isBlank header.storeId
  · cases Text.isBlank header.brand
    · cases header.date with
      | none => simp
      | some d => simp; grind
    · simp
  · simp

/-! ### The second report -/

namespace Submission

variable {service : Service} {stock : Stock} {ticket : Ticket} {token : Token} {date : Date}
  {answers : List (Job × Found)} {before : State}

/-- A sent document has no staged photo left. -/
theorem Delivery.stagedPhotos_resolve
    (h : Delivery service stock ticket token date answers before) :
    (ticket.body.resolve before.resolution).1.stagedPhotos = [] := by
  rw [List.eq_nil_iff_forall_not_mem]
  rintro ⟨list, photo⟩ member
  obtain ⟨ps, inside, staged⟩ := Body.mem_stagedPhotos_iff.mp member
  obtain ⟨photos, old, rfl⟩ := Body.mem_lists_resolve.mp inside
  obtain ⟨present, kept, missing⟩ := Body.staged_mem_resolution_apply.mp staged
  rcases h.settled (Body.mem_stagedPhotos_iff.mpr ⟨photos, old, present⟩) with
    dropped | ⟨url, found⟩
  · exact kept dropped
  · rw [missing] at found
    cases found

/-- A run on a document without staged photos sends the addresses that the document has. -/
theorem Delivery.payload_of_no_staged
    (h : Delivery service stock ticket token date answers before)
    (none : ticket.body.stagedPhotos = []) :
    (reportRequest ticket token date before).payload =
      .assemble ticket.header date ticket.body [] := by
  have answers_eq : answers = [] := by
    have jobs := h.jobs_eq
    rw [Submission.jobs, none] at jobs
    exact List.map_eq_nil_iff.mp jobs
  have resolution := h.progress.resolution_eq
  rw [answers_eq] at resolution
  rw [reportRequest, resolution]
  rfl

end Submission

/-- What a document without staged photos is sent as: nothing if it has become empty. -/
theorem Submission.sent?_of_no_staged {service : Service} {n : Nat} {stock : Stock}
    {ticket : Ticket} {token : Token} {date : Date} (signedIn : service.token = some token)
    (store : Text.isBlank ticket.header.storeId = false)
    (brand : Text.isBlank ticket.header.brand = false) (dated : ticket.header.date = some date)
    (unstaged : ticket.body.stagedPhotos = []) :
    (SubmitRun.start service n stock ticket).sent? =
      if ticket.body.sections.all (·.content.isBlank) then none
      else some { token, update := ticket.remoteId,
                  payload := .assemble ticket.header date ticket.body [] } := by
  rcases SubmitRun.start_spec service n stock ticket with ⟨-, -, unsent, -, refused⟩ |
    ⟨token', date', _, before, delivery, -, request, -, -⟩
  · rw [unsent]
    split
    · rfl
    · rename_i present
      have some_section : ∃ s ∈ ticket.body.sections, s.content.isBlank = false := by
        simpa using present
      rw [refused date (validate_eq_ok_iff.mpr ⟨store, brand, dated, some_section⟩)] at signedIn
      cases signedIn
  · obtain ⟨-, -, dated', some_section⟩ := validate_eq_ok_iff.mp delivery.valid
    have token_eq := delivery.signedIn
    rw [signedIn] at token_eq
    cases token_eq
    rw [dated] at dated'
    cases dated'
    have present : ¬ ticket.body.sections.all (·.content.isBlank) = true := by
      simpa using some_section
    rw [request, if_neg present, ← delivery.payload_of_no_staged unstaged]
    rfl

/-- A document is rewritten to what was sent, but for addresses that a list repeats, and sent again
without them. -/
theorem Composer.resubmission {c : Composer} {service : Service} {n : Nat} {stock : Stock}
    {report : SubmitReport}
    (sent : (SubmitRun.start service n stock c.beginSubmit).outcome.result = .ok report)
    (clock : Clock) (later : Stock) :
    let run := SubmitRun.start service n stock c.beginSubmit
    let after := ((c.withStock later).applySubmit clock run.outcome).2
    ∃ date, validate c.header c.body = .ok date ∧
      report.payload = .assemble c.header date c.body report.resolution.resolved ∧
      after.header = c.header ∧ after.body = (c.body.resolve report.resolution).1 ∧
      Payload.assemble after.header date after.body [] = report.payload.withoutRepeats ∧
      (Payload.assemble after.header date after.body [] = report.payload ↔
        ∀ urls ∈ report.payload.urlLists, urls.Nodup) ∧
      ∀ service' n' stock' token, service'.token = some token →
        (SubmitRun.start service' n' stock' after.beginSubmit).sent? =
          if after.body.sections.all (·.content.isBlank) then none
          else some { token, update := some report.remoteId,
                      payload := report.payload.withoutRepeats } := by
  intro run after
  rcases SubmitRun.start_spec service n stock c.beginSubmit with ⟨e, failed, -⟩ |
    ⟨token, date, answers, before, delivery, -, -, -, answered⟩
  · rw [sent] at failed
    cases failed
  · obtain ⟨-, resolution_eq, payload_eq⟩ := answered report sent
    have applied : Composer.Applied (c.withStock later) run.outcome.revision report after :=
      (Composer.applySubmit_applied clock rfl sent).2
    have apart : ∀ id ∈ report.resolution.dropped, report.resolution.resolved.lookup id = none := by
      rw [resolution_eq]
      exact fun _ => delivery.lookup_of_dropped
    have payload : report.payload = .assemble c.header date c.body report.resolution.resolved := by
      rw [payload_eq, resolution_eq]
      rfl
    have again :
        Payload.assemble after.header date after.body [] = report.payload.withoutRepeats := by
      rw [applied.header_eq, applied.body_eq, payload]
      exact Payload.assemble_resolve c.header date c.body apart
    refine ⟨date, delivery.valid, payload, applied.header_eq, applied.body_eq, again, ?_, ?_⟩
    · rw [again, Payload.withoutRepeats_eq_self_iff]
    · intro service' n' stock' token' signedIn
      obtain ⟨store, brand, dated, -⟩ := validate_eq_ok_iff.mp delivery.valid
      have unstaged : after.body.stagedPhotos = [] := by
        rw [applied.body_eq, resolution_eq]
        exact delivery.stagedPhotos_resolve
      have header : c.beginSubmit.header = after.beginSubmit.header := applied.header_eq.symm
      rw [header] at store brand dated
      rw [Submission.sent?_of_no_staged signedIn store brand dated unstaged, ← again,
        ← applied.remoteId_eq]
      rfl

/-! ### Two photos with one address -/

namespace Twins

def day : Date := ⟨2024, 5, 1, by decide, by decide, by decide⟩

def clock : Clock :=
  ⟨0, ⟨day, ⟨9, 15, 30, 500, by decide, by decide, by decide, by decide⟩⟩⟩

def left : PhotoId := ⟨1, by decide⟩

def right : PhotoId := ⟨2, by decide⟩

def photo (id : PhotoId) : StagedPhoto :=
  { id, bytes := [], name := "a.png", createdAt := clock.wall, uploaded := false,
    remoteUrl := none }

/-- The second photo is the first one under another identifier. -/
def stock : Stock :=
  .ofSettings Pixel.codec ⟨.memory { photos := [photo left, photo right] }, fun _ => none⟩ {}

def composer : Composer :=
  { Composer.new stock {} with
    header := { brand := "b", storeId := "s", date := some day }
    body := ⟨[⟨⟨1⟩, .photos (.completed [.staged left, .staged right])⟩], 1⟩ }

/-- A server that gives every photo the same address. -/
def service : Service :=
  { token := some ⟨"t"⟩, upload := fun _ _ => .ok "u", send := fun _ => .ok "r" }

def payload (urls : List String) : Payload :=
  { brand := "b", storeId := "s", storeName := "", date := day, startTime := none, endTime := none,
    checklist := [], sections := [.photos ⟨1⟩ .completed { completed := some urls }] }

def report : SubmitReport :=
  { remoteId := "r", created := true, resolution := ⟨[(left, "u"), (right, "u")], []⟩,
    uploaded := 2, reused := 0, failed := [], payload := payload ["u", "u"] }

theorem sent : (SubmitRun.start service 3 stock composer.beginSubmit).outcome.result = .ok report :=
  rfl

theorem body_wellFormed : composer.body.WellFormed := by
  refine ⟨by decide, by decide, ?_, ?_⟩
  · intro list photos member
    cases List.mem_singleton.mp member
    decide
  · intro list list' photos photos' photo member member' _ _
    cases List.mem_singleton.mp member
    cases List.mem_singleton.mp member'
    rfl

/-- A server that takes no photo, but the report. -/
def full : Service := { service with upload := fun _ _ => .error (.status 507 "") }

/-- The report that was sent shows the address twice, the document once, and so does the report
after it. A document whose photos all failed is sent once, and is empty then. -/
theorem rewritten_differs :
    composer.body.WellFormed ∧
    (SubmitRun.start service 3 stock composer.beginSubmit).outcome.result = .ok report ∧
    report.payload = payload ["u", "u"] ∧
    Payload.assemble composer.header day (composer.body.resolve report.resolution).1 [] ≠
      report.payload ∧
    ((composer.submit clock service 3).2.submit clock service 3).1.2.sent? =
      some { token := ⟨"t"⟩, update := some "r", payload := payload ["u"] } ∧
    (composer.submit clock full 3).1.2.sent? =
      some { token := ⟨"t"⟩, update := none, payload := payload [] } ∧
    ((composer.submit clock full 3).2.submit clock service 3).1.2.sent? = none :=
  ⟨body_wellFormed, sent, rfl, by decide, rfl, rfl, rfl⟩

/-- The second report, as the general statement has it. -/
theorem resubmission_of_twins :
    let run := SubmitRun.start service 3 stock composer.beginSubmit
    let after := ((composer.withStock run.stock).applySubmit clock run.outcome).2
    run.outcome.result = .ok report ∧
    (SubmitRun.start service 3 after.stock after.beginSubmit).sent? =
      some { token := ⟨"t"⟩, update := some "r", payload := payload ["u"] } := by
  obtain ⟨-, -, -, -, -, -, -, again⟩ := Composer.resubmission sent clock
    (SubmitRun.start service 3 stock composer.beginSubmit).stock
  exact ⟨sent, again service 3 _ ⟨"t"⟩ rfl⟩

end Twins

end SiteReport
