import Mathlib.Data.List.DropRight
import SiteReport.Proofs.Submission.Content

/-!
Documents that can be sent, told by the report that they make. A document is looked at before its
photos have addresses, section by section; the report is put together later and drops what is blank.
Once all the photos have addresses, the two agree on what content is.
-/

namespace SiteReport

namespace Text

variable {cs : List Char} {s : String}

theorem isBlank_eq_false_iff : isBlank s = false ↔ ∃ c ∈ s.toList, isSpace c = false := by
  simp [isBlank]

theorem trimStart_eq_nil_iff : trimStart cs = [] ↔ ∀ c ∈ cs, isSpace c = true :=
  List.dropWhile_eq_nil_iff

theorem trimEnd_eq_nil_iff : trimEnd cs = [] ↔ ∀ c ∈ cs, isSpace c = true :=
  List.rdropWhile_eq_nil_iff

theorem trimStart_trimStart : trimStart (trimStart cs) = trimStart cs :=
  List.dropWhile_idempotent isSpace cs

theorem trimEnd_trimStart_eq_nil_iff :
    trimEnd (trimStart cs) = [] ↔ ∀ c ∈ cs, isSpace c = true := by
  rw [trimEnd_eq_nil_iff, ← trimStart_eq_nil_iff, trimStart_trimStart, trimStart_eq_nil_iff]

theorem trim_eq_empty_iff : trim s = "" ↔ isBlank s = true := by
  rw [← String.toList_inj, trim, String.toList_ofList, isBlank, List.all_eq_true]
  exact trimEnd_trimStart_eq_nil_iff

theorem trim_ne_empty_iff : trim s ≠ "" ↔ isBlank s = false := by
  rw [Ne, trim_eq_empty_iff, Bool.not_eq_true]

end Text

/-- What the section of a report says, in words. -/
def PayloadSection.text? : PayloadSection → Option String
  | .photos _ _ _ => none
  | .comment _ text => some text
  | .workDescription _ text => some text

theorem PayloadSection.hasContent_iff {s : PayloadSection} :
    s.HasContent ↔
      (∃ text, s.text? = some text ∧ ∃ c ∈ text.toList, Text.isSpace c = false) ∨
      ∃ urls ∈ s.urlLists, urls ≠ [] := by
  cases s <;> simp [HasContent, text?, urlLists, Text.isBlank_eq_false_iff]

theorem Payload.hasContent_iff {p : Payload} :
    p.HasContent ↔
      p.checklist ≠ [] ∨
      (∃ s ∈ p.sections, ∃ text, s.text? = some text ∧
        ∃ c ∈ text.toList, Text.isSpace c = false) ∨
      ∃ urls ∈ p.urlLists, urls ≠ [] := by
  simp only [HasContent, PayloadSection.hasContent_iff, urlLists, List.mem_flatMap]
  refine or_congr_right ?_
  constructor
  · rintro ⟨s, member, said | ⟨urls, listed, filled⟩⟩
    · exact .inl ⟨s, member, said⟩
    · exact .inr ⟨urls, ⟨s, member, listed⟩, filled⟩
  · rintro (⟨s, member, said⟩ | ⟨urls, ⟨s, member, listed⟩, filled⟩)
    · exact ⟨s, member, .inl said⟩
    · exact ⟨s, member, .inr ⟨urls, listed, filled⟩⟩

/-- No photo is lost when all that are staged have addresses: a block that shows a photo shows an
address. -/
theorem Body.not_lost_of_addressed {b : Body} {resolved : List (PhotoId × String)}
    (addressed : ∀ list id, (list, id) ∈ b.stagedPhotos → (resolved.lookup id).isSome)
    {s : Section} (member : s ∈ b.sections) (present : s.content.isBlank = false) :
    ¬ s.content.Lost resolved := by
  intro lost
  cases hc : s.content with
  | photos block =>
      rw [hc] at lost present
      obtain ⟨⟨category, p⟩, shown⟩ :=
        List.exists_mem_of_ne_nil _ (PhotoBlock.isEmpty_eq_false_iff.mp present)
      obtain ⟨id, staged, missing⟩ := lost _ shown
      cases staged
      have found := addressed ⟨s.id, category⟩ id
        (mem_stagedPhotos_iff_entries.mpr ⟨s, member, rfl, block, hc, shown⟩)
      rw [missing] at found
      cases found
  | checklistItem name => rw [hc] at lost; cases lost
  | comment text => rw [hc] at lost; cases lost
  | workDescription text => rw [hc] at lost; cases lost

/-- A document can be sent exactly if the report made of it names a store and a brand and has
something to show. -/
theorem validate_eq_ok_iff_assembled {header : Header} {b : Body} {date : Date}
    {resolved : List (PhotoId × String)}
    (addressed : ∀ list id, (list, id) ∈ b.stagedPhotos → (resolved.lookup id).isSome) :
    let p := Payload.assemble header date b resolved
    validate header b = .ok date ↔
      header.date = some date ∧ p.storeId ≠ "" ∧ p.brand ≠ "" ∧
      (p.checklist ≠ [] ∨
        (∃ s ∈ p.sections, ∃ text, s.text? = some text ∧
          ∃ c ∈ text.toList, Text.isSpace c = false) ∨
        ∃ urls ∈ p.urlLists, urls ≠ []) := by
  intro p
  have content : p.HasContent ↔ ∃ s ∈ b.sections, s.content.isBlank = false := by
    rw [Payload.assemble_hasContent_iff]
    refine exists_congr fun s => and_congr_right fun member => and_iff_left_of_imp fun present => ?_
    exact Body.not_lost_of_addressed addressed member present
  have store : p.storeId ≠ "" ↔ Text.isBlank header.storeId = false := Text.trim_ne_empty_iff
  have brand : p.brand ≠ "" ↔ Text.isBlank header.brand = false := Text.trim_ne_empty_iff
  rw [validate_eq_ok_iff, ← Payload.hasContent_iff, content, store, brand]
  constructor
  · rintro ⟨named, branded, dated, present⟩
    exact ⟨dated, named, branded, present⟩
  · rintro ⟨dated, named, branded, present⟩
    exact ⟨named, branded, dated, present⟩

namespace Twins

/-- Texts of white space, and two photos. -/
def unworded : Body :=
  ⟨[⟨⟨1⟩, .checklistItem "\u3000"⟩, ⟨⟨2⟩, .comment "\t\u2003"⟩,
    ⟨⟨3⟩, .photos (.completed [.staged left, .staged right])⟩], 3⟩

/-- The photos alone make it a document that can be sent, and they are all that its report shows. -/
theorem validate_unworded :
    (∀ list id, (list, id) ∈ unworded.stagedPhotos →
      ([(left, "u"), (right, "v")].lookup id).isSome) ∧
    (Payload.assemble composer.header day unworded [(left, "u"), (right, "v")]).urlLists =
      [["u", "v"]] ∧
    validate composer.header unworded = .ok day := by
  have addressed : ∀ list id, (list, id) ∈ unworded.stagedPhotos →
      ([(left, "u"), (right, "v")].lookup id).isSome := by
    intro list id member
    have known : id ∈ unworded.stagedPhotos.map (·.2) := List.mem_map_of_mem member
    have both : ∀ id ∈ unworded.stagedPhotos.map (·.2),
        ([(left, "u"), (right, "v")].lookup id).isSome := by decide
    exact both id known
  refine ⟨addressed, rfl, (validate_eq_ok_iff_assembled addressed).mpr ?_⟩
  exact ⟨rfl, by decide, by decide, .inr (.inr ⟨["u", "v"], by decide, by decide⟩)⟩

end Twins

end SiteReport
