import SiteReport.Proofs.Submission.Account
import SiteReport.Proofs.Submission.Attempts

/-!
What a report that is sent has in it. A document is sent only if something in it is not blank, and
this is asked before the uploads; photos that fail are left out afterwards, and never hold up the
report. So a report is without content exactly if its document had nothing but staged photos, and
all of them failed.
-/

namespace SiteReport

/-- A text that is not blank, or an address. -/
def PayloadSection.HasContent : PayloadSection → Prop
  | .photos _ _ urls => ∃ list ∈ urls.lists, list ≠ []
  | .comment _ text => Text.isBlank text = false
  | .workDescription _ text => Text.isBlank text = false

instance (s : PayloadSection) : Decidable s.HasContent :=
  match s with
  | .photos _ _ urls => inferInstanceAs (Decidable (∃ list ∈ urls.lists, list ≠ []))
  | .comment _ text => inferInstanceAs (Decidable (Text.isBlank text = false))
  | .workDescription _ text => inferInstanceAs (Decidable (Text.isBlank text = false))

/-- An item of the checklist, or a section with content. -/
def Payload.HasContent (p : Payload) : Prop :=
  p.checklist ≠ [] ∨ ∃ s ∈ p.sections, s.HasContent

instance (p : Payload) : Decidable p.HasContent :=
  inferInstanceAs (Decidable (p.checklist ≠ [] ∨ ∃ s ∈ p.sections, s.HasContent))

/-- Staged photos only, and none of them has come to an address. -/
def Content.Lost (resolved : List (PhotoId × String)) : Content → Prop
  | .photos block => ∀ e ∈ block.entries, ∃ id, e.2 = .staged id ∧ resolved.lookup id = none
  | _ => False

namespace Payload

variable {resolved : List (PhotoId × String)}

theorem address_eq_none_iff {p : PhotoRef} :
    address resolved p = none ↔ ∃ id, p = .staged id ∧ resolved.lookup id = none := by
  cases p with
  | resolved url => simp [address]
  | staged id => simp [address]

theorem blockUrls_hasContent_iff {block : PhotoBlock} :
    (∃ list ∈ (blockUrls resolved block).lists, list ≠ []) ↔
      ¬ (Content.photos block).Lost resolved := by
  have lists_eq : (blockUrls resolved block).lists =
      block.lists.map fun e => urls resolved e.2 := by
    cases block <;> rfl
  have lost : (Content.photos block).Lost resolved ↔
      ∀ e ∈ block.lists, urls resolved e.2 = [] := by
    simp only [Content.Lost, ← address_eq_none_iff, PhotoBlock.entries_eq, urls_eq,
      List.filterMap_eq_nil_iff, List.mem_flatMap, List.mem_map]
    constructor
    · intro h e member p inside
      exact h (e.1, p) ⟨e, member, p, inside, rfl⟩
    · rintro h _ ⟨e, member, p, inside, rfl⟩
      exact h e member p inside
  rw [lists_eq, lost]
  simp

theorem section_hasContent_iff (s : Section) :
    ((checklistName? s).isSome ∨ ∃ out, sectionOf? resolved s = some out ∧ out.HasContent) ↔
      s.content.isBlank = false ∧ ¬ s.content.Lost resolved := by
  obtain ⟨id, content⟩ := s
  cases content with
  | checklistItem name =>
      cases blank : Text.isBlank name <;>
        simp [checklistName?, sectionOf?, Content.isBlank, Content.Lost, blank]
  | comment text =>
      simp [checklistName?, sectionOf?, Content.isBlank, Content.Lost, PayloadSection.HasContent]
  | workDescription text =>
      simp [checklistName?, sectionOf?, Content.isBlank, Content.Lost, PayloadSection.HasContent]
  | photos block =>
      have there : ¬ (Content.photos block).Lost resolved → block.isEmpty = false := by
        intro shown
        refine PhotoBlock.isEmpty_eq_false_iff.mpr fun none => shown ?_
        simp [Content.Lost, none]
      simp only [checklistName?, sectionOf?, Content.isBlank, Option.isSome_none,
        Bool.false_eq_true, false_or, Option.some.injEq, exists_eq_left',
        PayloadSection.HasContent, blockUrls_hasContent_iff]
      exact ⟨fun shown => ⟨there shown, shown⟩, fun h => h.2⟩

theorem assemble_hasContent_iff {header : Header} {date : Date} {b : Body} :
    (assemble header date b resolved).HasContent ↔
      ∃ s ∈ b.sections, s.content.isBlank = false ∧ ¬ s.content.Lost resolved := by
  simp only [← section_hasContent_iff, HasContent, assemble, ← List.length_pos_iff,
    List.length_pos_iff_exists_mem, List.mem_filterMap, Option.isSome_iff_exists]
  constructor
  · rintro (⟨name, s, member, named⟩ | ⟨out, ⟨s, member, sent⟩, content⟩)
    · exact ⟨s, member, .inl ⟨name, named⟩⟩
    · exact ⟨s, member, .inr ⟨out, sent, content⟩⟩
  · rintro ⟨s, member, ⟨name, named⟩ | ⟨out, sent, content⟩⟩
    · exact .inl ⟨name, s, member, named⟩
    · exact .inr ⟨out, ⟨s, member, sent⟩, content⟩

end Payload

namespace Attempt

open Submission

/-- The stock could not give the photo, or its upload was refused. -/
def Failed (a : Attempt) (photo : PhotoId) : Prop :=
  (∀ p, a.stock.get photo ≠ .ok (some p)) ∨
  ∃ p turn request cause, a.stock.get photo = .ok (some p) ∧ p.uploadedUrl? = none ∧
    (requestsOf a.run.trace)[turn]? = some request ∧ request.fileName = p.name ∧
    request.data = String.ofList (Text.Base64.encode p.bytes) ∧
    a.service.upload turn request = .error cause

/-- There is nothing in the document but staged photos, and all of them failed. -/
structure OnlyLostPhotos (a : Attempt) : Prop where
  staged : ∃ list photo, (list, photo) ∈ a.ticket.body.stagedPhotos
  lost : ∀ s ∈ a.ticket.body.sections, s.content.isBlank = false → s.content.Lost a.addresses
  failed : ∀ list photo, (list, photo) ∈ a.ticket.body.stagedPhotos → a.Failed photo

theorem failed_of_answer {a : Attempt} {token : Token} {date : Date}
    {answers : List (Job × Found)} {before : State}
    (delivery : Delivery a.service a.stock a.ticket token date answers before)
    (requests : requestsOf a.run.trace = requestsOf before.trace) {job : Job}
    {reason : UploadFailure} (member : (job, .failed reason) ∈ answers) : a.Failed job.photo := by
  have explained := delivery.progress.explained _ _ member
  cases reason with
  | missing => exact .inl fun p stored => by rw [Explained, stored] at explained; cases explained
  | store cause =>
      exact .inl fun p stored => by rw [Explained, stored] at explained; cases explained
  | service cause =>
      obtain ⟨p, turn, stored, unsent, asked, answer⟩ := explained
      exact .inr ⟨p, turn, _, cause, stored, unsent, requests ▸ asked, rfl, rfl, answer⟩

theorem failed_of_lost {a : Attempt} {sending : SendRequest} (sent : a.run.sent? = some sending)
    {list : PhotoList} {photo : PhotoId} (staged : (list, photo) ∈ a.ticket.body.stagedPhotos)
    (missing : a.addresses.lookup photo = none) : a.Failed photo := by
  obtain ⟨token, date, answers, before, delivery, -, addresses_eq, requests⟩ := sent_spec sent
  obtain ⟨job, found, member, rfl⟩ := delivery.exists_answer staged
  rw [addresses_eq, Option.eq_none_iff_forall_ne_some] at missing
  have unanswered (url : String) : found.url? ≠ some url := fun answer =>
    missing url (delivery.lookup_eq_some_iff.mpr ⟨job, found, member, rfl, answer⟩)
  cases found with
  | reused url => exact absurd rfl (unanswered url)
  | uploaded url => exact absurd rfl (unanswered url)
  | failed reason => exact failed_of_answer delivery requests member

/-- If no section has content for the report, it is because its photos failed. -/
theorem OnlyLostPhotos.of_lost {a : Attempt} {sending : SendRequest}
    (sent : a.run.sent? = some sending)
    (lost : ∀ s ∈ a.ticket.body.sections, s.content.isBlank = false → s.content.Lost a.addresses) :
    a.OnlyLostPhotos := by
  refine ⟨?_, lost, ?_⟩
  · -- the section that made the document valid is a block, and shows a photo
    obtain ⟨token, date, answers, before, delivery, -, -, -⟩ := sent_spec sent
    obtain ⟨-, -, -, s, member, present⟩ := validate_eq_ok_iff.mp delivery.valid
    have photos := lost s member present
    cases hc : s.content with
    | photos block =>
        rw [hc] at present photos
        have filled : block.entries ≠ [] := PhotoBlock.isEmpty_eq_false_iff.mp present
        obtain ⟨⟨category, p⟩, there⟩ := List.exists_mem_of_ne_nil _ filled
        obtain ⟨id, staged, -⟩ := photos _ there
        exact ⟨⟨s.id, category⟩, id, Body.mem_stagedPhotos_iff_entries.mpr
          ⟨s, member, rfl, block, hc, staged ▸ there⟩⟩
    | checklistItem name => rw [hc] at photos; cases photos
    | comment text => rw [hc] at photos; cases photos
    | workDescription text => rw [hc] at photos; cases photos
  · intro list photo staged
    obtain ⟨s, member, -, block, hc, there⟩ := Body.mem_stagedPhotos_iff_entries.mp staged
    have photos := lost s member
    rw [hc] at photos
    have filled : block.isEmpty = false :=
      PhotoBlock.isEmpty_eq_false_iff.mpr (List.ne_nil_of_mem there)
    obtain ⟨id, same, missing⟩ := photos filled _ there
    cases same
    exact failed_of_lost sent staged missing

/-- What is sent has content, but for documents that had nothing but photos that failed. -/
theorem sent_hasContent_iff {a : Attempt} {sending : SendRequest}
    (sent : .send sending ∈ a.run.trace) :
    sending.payload.HasContent ↔ ¬ a.OnlyLostPhotos := by
  rw [mem_trace_send_iff] at sent
  obtain ⟨token, date, answers, before, delivery, rfl, addresses_eq, -⟩ := sent_spec sent
  have content : (reportRequest a.ticket token date before).payload.HasContent ↔
      ∃ s ∈ a.ticket.body.sections, s.content.isBlank = false ∧ ¬ s.content.Lost a.addresses := by
    rw [addresses_eq]
    exact Payload.assemble_hasContent_iff
  rw [content]
  constructor
  · rintro ⟨s, member, present, shown⟩ only
    exact shown (only.lost s member present)
  · intro other
    by_contra nothing
    refine other (.of_lost sent fun s member present => ?_)
    by_contra shown
    exact nothing ⟨s, member, present, shown⟩

/-! ### Sent with and without content -/

/-- The two photos of the document are all that it has, and the server takes none of them. -/
def lostTwins : Attempt := ⟨Twins.full, 3, Twins.stock, Twins.composer.beginSubmit⟩

theorem lostTwins_sent_without_content :
    lostTwins.ticket.body.WellFormed ∧
    .send { token := ⟨"t"⟩, update := none, payload := Twins.payload [] } ∈ lostTwins.run.trace ∧
    ¬ (Twins.payload []).HasContent := by
  refine ⟨by decide, ?_, by decide⟩
  exact mem_trace_send_iff.mpr rfl

/-- Of four photos two fail, and the others make the content of the report. -/
def fourPhotos : Attempt := ⟨FourPhotos.service, 2, FourPhotos.stock, FourPhotos.ticket⟩

theorem content_of_lostTwins_and_fourPhotos :
    lostTwins.OnlyLostPhotos ∧ ¬ fourPhotos.OnlyLostPhotos := by
  constructor
  · have sent : .send { token := ⟨"t"⟩, update := none, payload := Twins.payload [] } ∈
        lostTwins.run.trace := mem_trace_send_iff.mpr rfl
    have empty : ¬ (Twins.payload []).HasContent := by decide
    by_contra other
    exact empty ((sent_hasContent_iff sent).mpr other)
  · have sent : .send { token := ⟨"t"⟩, update := none, payload := FourPhotos.report.payload } ∈
        fourPhotos.run.trace := mem_trace_send_iff.mpr rfl
    exact (sent_hasContent_iff sent).mp (by decide)

end Attempt

end SiteReport
