import SiteReport.Proofs.CommandLine.Sending
import SiteReport.Proofs.Description.Listed
import SiteReport.Proofs.Submission.Resubmission

/-!
Which descriptions without files can be written in a new composer. Each step succeeds if and only if
the sections and photos so far are acceptable, and then the body is the one that they make; from the
steps the whole description follows, since what is acceptable is so from its beginning on.
-/

namespace SiteReport

/-! ### The steps of the writing -/

namespace Desk

open Description

variable {c : Composer} {s : Surroundings} {d : Desk} {done : List DescribedSection}
  {layout : Layout} {es : List (Category × DescribedPhoto)} {e : Category × DescribedPhoto}

/-- A step succeeds if and only if the condition holds, and then the composer has the body. -/
structure Exactly (c : Composer) (condition : Prop) (body : Body)
    (r : Except DescriptionError Unit × Desk) : Prop where
  ok_iff : r.1 = .ok () ↔ condition
  wrote : r.1 = .ok () → c.Wrote body r.2.composer

theorem Exactly.of_error {condition : Prop} {body : Body} {cause : DescriptionError}
    (refused : ¬ condition) : Exactly c condition body (.error cause, d) := by
  constructor
  · exact iff_of_false (by simp) refused
  · intro ok
    cases ok

/-- Steps that succeed exactly on the conditions of the items so far, one after another. -/
theorem advance_exactly {α : Type} {step : Desk → α → Except DescriptionError Unit × Desk}
    (condition : List α → Prop) (body : List α → Body) {all : List α}
    (whole : ∀ past more, condition (past ++ more) → condition past)
    (each : ∀ past a rest, past ++ a :: rest = all → condition past → ∀ d : Desk,
      c.Wrote (body past) d.composer →
      Exactly c (condition (past ++ [a])) (body (past ++ [a])) (step d a))
    {past rest : List α} (cut : past ++ rest = all) (so_far : condition past)
    (wrote : c.Wrote (body past) d.composer) :
    Exactly c (condition all) (body all) (d.advance step rest) := by
  induction rest generalizing past d with
  | nil =>
      rw [List.append_nil] at cut
      subst cut
      exact ⟨⟨fun _ => so_far, fun _ => rfl⟩, fun _ => wrote⟩
  | cons a rest ih =>
      have one := each past a rest cut so_far d wrote
      have longer : past ++ [a] ++ rest = all := by
        rw [← cut, List.append_assoc]
        rfl
      unfold advance
      cases taken : step d a with
      | mk result next =>
          rw [taken] at one
          cases result with
          | ok _ => exact ih longer (one.ok_iff.mp rfl) (one.wrote rfl)
          | error e =>
              refine .of_error fun holds => ?_
              rw [← longer] at holds
              cases one.ok_iff.mpr (whole _ _ holds)

theorem advance_append {α : Type} (step : Desk → α → Except DescriptionError Unit × Desk)
    (d : Desk) (first second : List α) :
    d.advance step (first ++ second) =
      match d.advance step first with
      | (.ok _, d) => d.advance step second
      | (.error e, d) => (.error e, d) := by
  induction first generalizing d with
  | nil => rfl
  | cons a rest ih =>
      rw [List.cons_append, advance, advance]
      cases step d a with
      | mk result next =>
          cases result with
          | ok _ => exact ih next
          | error e => rfl

/-- Steps inside steps are the steps for all items in turn. -/
theorem advance_flatMap {α β : Type} (step : Desk → β → Except DescriptionError Unit × Desk)
    (items : α → List β) (d : Desk) (outer : List α) :
    d.advance (fun d a => d.advance step (items a)) outer = d.advance step (outer.flatMap items) := by
  induction outer generalizing d with
  | nil => rfl
  | cons a rest ih =>
      rw [List.flatMap_cons, advance_append, advance]
      cases d.advance step (items a) with
      | mk result next =>
          cases result with
          | ok _ => exact ih next
          | error e => rfl

/-- A photo more for the open block, which is not looked up in the stock. -/
theorem attachPhoto_exactly (room : done.length < 4294967295) (accepted : Acceptable c.stock done)
    (fits : Fits c.stock (listing done) layout es) {photo : PhotoRef}
    (shown : e.2.ref? = some photo) (clock : Clock)
    (wrote : c.Wrote (opened done layout es) d.composer) :
    Exactly c (layout.allows e.1 = true ∧ Agreeing (listing done ++ es ++ [e]))
      (opened done layout (es ++ [e]))
      (d.edit (d.composer.attachPhoto clock ⟨(written done).nextId, e.1⟩ photo)) := by
  have can := attach_opened_iff room accepted fits shown
  rw [← wrote.body_eq] at can
  cases attached : d.composer.attachPhoto clock ⟨(written done).nextId, e.1⟩ photo with
  | error cause =>
      refine .of_error fun holds => ?_
      obtain ⟨r, taken⟩ := can.mpr holds
      obtain ⟨after, answered, -⟩ := Composer.attachPhoto_wrote taken clock
      cases attached.symm.trans answered
  | ok answer =>
      obtain ⟨r, taken⟩ := Composer.attach_of_attachPhoto attached
      obtain ⟨after, answered, now⟩ := Composer.attachPhoto_wrote taken clock
      cases attached.symm.trans answered
      refine ⟨⟨fun _ => can.mp ⟨r, taken⟩, fun _ => rfl⟩, fun _ => ?_⟩
      rw [wrote.body_eq] at taken
      rw [← attach_opened_eq room shown taken]
      exact wrote.trans now

/-- A described photo more. -/
theorem attach_exactly (room : done.length < 4294967295) (accepted : Acceptable c.stock done)
    (fits : Fits c.stock (listing done) layout es) (unfiled : e.2.path? = none)
    (s : Surroundings) (wrote : c.Wrote (opened done layout es) d.composer) :
    Exactly c (Fits c.stock (listing done) layout (es ++ [e])) (opened done layout (es ++ [e]))
      (attach s ⟨(written done).nextId, e.1⟩ d e.2) := by
  obtain ⟨category, described⟩ := e
  have step := fun (photo : PhotoRef) (shown : described.ref? = some photo) =>
    attachPhoto_exactly (e := (category, described)) room accepted fits shown s.clock wrote
  rw [fits_concat fits]
  cases described with
  | url address =>
      obtain ⟨ok_iff, wrote⟩ := step (.resolved address) rfl
      have stocked : Stocked c.stock [(category, .url address)] := by simp [Stocked]
      exact ⟨ok_iff.trans (and_iff_right stocked).symm, wrote⟩
  | staged id =>
      obtain ⟨ok_iff, wrote'⟩ := step (.staged id) rfl
      have stocked : Stocked c.stock [(category, .staged id)] ↔
          ∃ photo, c.stock.get id = .ok (some photo) := by simp [Stocked]
      simp only [stocked, attach, wrote.stock_eq]
      cases c.stock.get id with
      | error cause =>
          refine .of_error ?_
          rintro ⟨⟨photo, there⟩, -⟩
          cases there
      | ok found =>
          cases found with
          | none =>
              refine .of_error ?_
              rintro ⟨⟨photo, there⟩, -⟩
              cases there
          | some photo => exact ⟨ok_iff.trans (and_iff_right ⟨photo, rfl⟩).symm, wrote'⟩
  | file path => cases unfiled

/-- A section without photos. -/
theorem addWith_exactly (room : done.length < 4294967295) {kind : SectionKind} {patch : SectionPatch}
    {part : DescribedSection}
    (fits : Body.patched (written done).nextId (.fresh kind) patch = .ok part.content)
    (s : Surroundings) (wrote : c.Wrote (written done) d.composer) :
    Exactly c True (written (done ++ [part])) (d.addWith s kind patch) := by
  have pushed := d.composer.adopt_wrote s.clock (d.composer.body.add kind)
  have patched := Body.update_push (nextId_not_mem_written room) fits
  rw [← wrote.body_eq] at patched
  simp only [addWith, Composer.addSection, Composer.updateSection]
  rw [pushed.body_eq, Body.add, patched, written_concat, ← wrote.body_eq]
  have updated := (d.composer.adopt s.clock (d.composer.body.add kind)).adopt_wrote s.clock
    ((d.composer.body.push part.content).1, .updated d.composer.body.nextId)
  exact ⟨⟨fun _ => trivial, fun _ => rfl⟩, fun _ => (wrote.trans pushed).trans updated⟩

theorem advance_map {α β : Type} (step : Desk → β → Except DescriptionError Unit × Desk)
    (f : α → β) (d : Desk) (items : List α) :
    d.advance step (items.map f) = d.advance (fun d a => step d (f a)) items := by
  induction items generalizing d with
  | nil => rfl
  | cons a rest ih =>
      rw [List.map_cons, advance, advance]
      cases step d (f a) with
      | mk result next =>
          cases result with
          | ok _ => exact ih next
          | error e => rfl

/-- The photos of a block are attached in turn. -/
theorem add_photos (s : Surroundings) (d : Desk) (lists : List (Category × List DescribedPhoto)) :
    d.add s (.photos layout lists) =
      advance (fun now (e : Category × DescribedPhoto) =>
          attach s ⟨d.composer.body.nextId, e.1⟩ now e.2)
        { d with composer := d.composer.adopt s.clock (d.composer.body.addBlock layout) }
        (DescribedSection.photos layout lists).entries := by
  rw [DescribedSection.entries, ← advance_flatMap]
  simp only [add, Composer.addBlock, advance_map]

/-- A described section. -/
theorem add_exactly (room : done.length < 4294967295) (accepted : Acceptable c.stock done)
    {part : DescribedSection} (unfiled : part.paths = []) (s : Surroundings)
    (wrote : c.Wrote (written done) d.composer) :
    Exactly c (Acceptable c.stock (done ++ [part])) (written (done ++ [part])) (d.add s part) := by
  have plainly : (∀ layout lists, part ≠ .photos layout lists) → ∀ {r},
      Exactly c True (written (done ++ [part])) r →
      Exactly c (Acceptable c.stock (done ++ [part])) (written (done ++ [part])) r := by
    intro plain r step
    rw [acceptable_concat_plain plain]
    exact ⟨step.ok_iff.trans ⟨fun _ => accepted, fun _ => trivial⟩, step.wrote⟩
  cases part with
  | checklistItem name => exact plainly (by simp) (addWith_exactly room (by rfl) s wrote)
  | comment text => exact plainly (by simp) (addWith_exactly room (by rfl) s wrote)
  | workDescription text => exact plainly (by simp) (addWith_exactly room (by rfl) s wrote)
  | photos layout lists =>
      have pushed := wrote.trans
        (d.composer.adopt_wrote s.clock (d.composer.body.addBlock layout))
      have empty : ((written done).addBlock layout).1 = opened done layout [] := by
        rw [opened, DescribedSection.listed_nil, PhotoBlock.ofLists_nil]
        rfl
      rw [wrote.body_eq, empty] at pushed
      rw [acceptable_concat_photos, and_iff_right accepted, written_concat, add_photos,
        wrote.body_eq]
      refine advance_exactly (Fits c.stock (listing done) layout) (opened done layout)
        (fun _ _ => Fits.of_append) ?_ (List.nil_append _) (fits_nil accepted layout) pushed
      intro past e rest cut fits d wrote
      have listed : e ∈ (DescribedSection.photos layout lists).entries := by
        rw [← cut]
        simp
      exact attach_exactly room accepted fits (DescribedSection.unfiled_of_mem unfiled listed) s
        wrote

end Desk

namespace Description

/-- Sections that are written in a body without any. -/
theorem advance_add_exactly {c : Composer} (empty : c.body = {}) (s : Surroundings)
    {sections : List DescribedSection} (unfiled : ∀ part ∈ sections, part.paths = [])
    (room : sections.length ≤ 4294967295) :
    Desk.Exactly c (Acceptable c.stock sections) (written sections)
      (Desk.advance (Desk.add s) { composer := c } sections) := by
  refine Desk.advance_exactly (Acceptable c.stock) written (fun _ _ => Acceptable.of_append) ?_
    (List.nil_append _) (acceptable_nil c.stock) ⟨empty, rfl, rfl, rfl⟩
  intro done part rest cut accepted d wrote
  have inside : done.length < 4294967295 := by
    rw [← cut, List.length_append, List.length_cons] at room
    omega
  refine Desk.add_exactly inside accepted (unfiled part ?_) s wrote
  rw [← cut]
  simp

/-- A description without files is written in a new composer if and only if it is acceptable, and
then its sections are there in order, numbered from one. -/
theorem apply_new_exactly (d : Description) (s : Surroundings) (stock : Stock)
    (settings : EditSettings) (unfiled : ∀ part ∈ d.sections, part.paths = [])
    (room : d.sections.length ≤ 4294967295) :
    let r := d.apply s (.new stock settings)
    (r.1 = .ok () ↔ Acceptable stock d.sections) ∧
    (r.1 = .ok () → r.2.header = d.header ∧ r.2.stock = stock ∧ r.2.remoteId = none ∧
      r.2.body.sections = d.sections.mapIdx fun i part =>
        ⟨⟨UInt32.ofNat (i + 1)⟩, part.content⟩) := by
  intro r
  let start := (Composer.new stock settings).setHeader s.clock d.header
  obtain ⟨header, body, remoteId, stocked⟩ :=
    Composer.setHeader_eq (.new stock settings) s.clock d.header
  have exactly := advance_add_exactly (c := start) body s unfiled room
  have same : start.stock = stock := stocked
  rw [same] at exactly
  refine ⟨exactly.ok_iff, fun ok => ?_⟩
  have wrote := exactly.wrote ok
  refine ⟨wrote.header_eq.trans header, wrote.stock_eq.trans stocked,
    wrote.remoteId_eq.trans remoteId, ?_⟩
  have sections := congrArg Body.sections wrote.body_eq
  rw [written_eq] at sections
  exact sections

namespace Gallery

def surroundings : Surroundings :=
  { clock := Twins.clock, folder := "", look := fun _ => .absent, fresh := fun _ => Twins.right }

/-- An address twice in a list, a photo from the stock in two blocks, and an empty list that is none
of its block's. -/
def description : Description where
  sections := [.photos .beforeAfter [(.before, [.url "u", .staged Twins.left, .url "u"]),
    (.completed, [])], .comment "x", .photos .beforeAfter [(.before, [.staged Twins.left])]]

theorem gallery_written :
    let r := description.apply surroundings (.new Twins.stock {})
    (∀ part ∈ description.sections, part.paths = []) ∧
    description.sections.length ≤ 4294967295 ∧
    Acceptable Twins.stock description.sections ∧ r.2.header = {} ∧
    r.2.body.sections =
      [⟨⟨1⟩, .photos (.beforeAfter [.resolved "u", .staged Twins.left] [])⟩, ⟨⟨2⟩, .comment "x"⟩,
        ⟨⟨3⟩, .photos (.beforeAfter [.staged Twins.left] [])⟩] := by
  intro r
  have unfiled : ∀ part ∈ description.sections, part.paths = [] := by decide
  have room : description.sections.length ≤ 4294967295 := by decide
  obtain ⟨ok_iff, made⟩ := apply_new_exactly description surroundings Twins.stock {} unfiled room
  have ok : r.1 = .ok () := rfl
  obtain ⟨header, -, -, sections⟩ := made ok
  exact ⟨unfiled, room, ok_iff.mp ok, header, sections⟩

end Gallery

end Description

end SiteReport
