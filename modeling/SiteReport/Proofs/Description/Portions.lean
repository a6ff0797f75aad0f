import SiteReport.Proofs.Composer.Capture
import SiteReport.Proofs.Description.Accepted

/-!
A description as a list of portions, which are written one after another up to the first that fails.
What a portion does on a desk is told here, portion by portion.
-/

namespace SiteReport

/-- What is written at one go: a section without its photos, or a photo of the block that was added
last. -/
inductive Portion where
  | opening (part : DescribedSection)
  | photo (category : Category) (photo : DescribedPhoto)

/-- The path of a file to be staged. -/
def Portion.path? : Portion → Option String
  | .opening _ => none
  | .photo _ described => described.path?

/-- The section with its lists left out. -/
def DescribedSection.bare : DescribedSection → DescribedSection
  | .photos layout _ => .photos layout []
  | part => part

def DescribedSection.portions (part : DescribedSection) : List Portion :=
  .opening part :: part.entries.map fun (category, photo) => .photo category photo

def Description.portions (d : Description) : List Portion :=
  d.sections.flatMap DescribedSection.portions

namespace Desk

variable {s : Surroundings} {d : Desk} {list : PhotoList}

/-- Writes one portion. -/
def write (s : Surroundings) (d : Desk) : Portion → Except DescriptionError Unit × Desk
  | .opening part => d.add s part.bare
  | .photo category photo => d.attach s ⟨⟨d.composer.body.counter⟩, category⟩ photo

theorem advance_singleton {α : Type} (step : Desk → α → Except DescriptionError Unit × Desk)
    (d : Desk) (a : α) : d.advance step [a] = step d a := by
  unfold advance
  cases step d a with
  | mk result next => cases result <;> rfl

/-- What every step keeps holds after them all, whether they went well or not. -/
theorem advance_keeps {α : Type} {step : Desk → α → Except DescriptionError Unit × Desk}
    (Inv : Desk → Prop) (each : ∀ d a, Inv d → Inv (step d a).2) (items : List α) (start : Inv d) :
    Inv (d.advance step items).2 := by
  induction items generalizing d with
  | nil => exact start
  | cons a rest ih =>
      have one := each d a start
      unfold advance
      cases taken : step d a with
      | mk result next =>
          rw [taken] at one
          cases result with
          | ok _ => exact ih one
          | error e => exact one

/-- Steps that do the same on every desk that comes up. -/
theorem advance_congr {α : Type} {step step' : Desk → α → Except DescriptionError Unit × Desk}
    (Inv : Desk → Prop) {items : List α}
    (each : ∀ a ∈ items, ∀ d, Inv d →
      step d a = step' d a ∧ ((step d a).1 = .ok () → Inv (step d a).2)) (start : Inv d) :
    d.advance step items = d.advance step' items := by
  induction items generalizing d with
  | nil => rfl
  | cons a rest ih =>
      obtain ⟨here, others⟩ := List.forall_mem_cons.mp each
      obtain ⟨same, kept⟩ := here d start
      unfold advance
      rw [← same]
      cases taken : step d a with
      | mk result next =>
          rw [taken] at kept
          cases result with
          | ok _ => exact ih others (kept rfl)
          | error e => rfl

/-- A failure is that of one item, when all before it went well. -/
theorem advance_eq_error {α : Type} {step : Desk → α → Except DescriptionError Unit × Desk}
    {items : List α} {e : DescriptionError} {after : Desk}
    (failed : d.advance step items = (.error e, after)) :
    ∃ done a rest mid, items = done ++ a :: rest ∧ d.advance step done = (.ok (), mid) ∧
      step mid a = (.error e, after) := by
  induction items generalizing d with
  | nil => cases failed
  | cons a rest ih =>
      unfold advance at failed
      cases taken : step d a with
      | mk result next =>
          rw [taken] at failed
          cases result with
          | error cause =>
              cases failed
              exact ⟨[], a, rest, d, rfl, rfl, taken⟩
          | ok _ =>
              obtain ⟨done, b, others, mid, rfl, went, fails⟩ := ih failed
              refine ⟨a :: done, b, others, mid, rfl, ?_, fails⟩
              rw [advance, taken]
              exact went

/-- What comes of a photo for a list. -/
theorem edit_attachPhoto_cases (d : Desk) (clock : Clock) (list : PhotoList) (photo : PhotoRef) :
    (∃ cause, d.edit (d.composer.attachPhoto clock list photo) = (.error (.edit cause), d)) ∨
    ∃ r after, d.composer.body.attach list photo = .ok r ∧ d.composer.Wrote r.1 after ∧
      d.edit (d.composer.attachPhoto clock list photo) = (.ok (), { d with composer := after }) := by
  cases attached : d.composer.attachPhoto clock list photo with
  | error cause => exact .inl ⟨cause, rfl⟩
  | ok answer =>
      obtain ⟨r, accepted⟩ := Composer.attach_of_attachPhoto attached
      obtain ⟨after, answered, wrote⟩ := Composer.attachPhoto_wrote accepted clock
      cases attached.symm.trans answered
      exact .inr ⟨r, after, accepted, wrote, rfl⟩

/-- What comes of a file for a list, if no photo of the document has the fresh identifier. -/
theorem capture_cases (s : Surroundings) (list : PhotoList) (d : Desk) (path : String)
    (unshown : ∀ l, (l, s.fresh d.used) ∉ d.composer.body.stagedPhotos) :
    (∃ e used, capture s list d path = (.error e, { d with used })) ∨
    ∃ raw bytes store r after, (s.look path).bytes = .ok raw ∧
      d.composer.stock.normalizer.normalize raw = .ok bytes ∧
      d.composer.stock.store.put (s.taken d.used (Path.name path) bytes) = .ok store ∧
      d.composer.body.attach list (.staged (s.fresh d.used)) = .ok r ∧
      (d.composer.mapStore store).Wrote r.1 after ∧
      capture s list d path = (.ok (), ⟨after, d.used + 1⟩) := by
  unfold capture
  cases read : (s.look path).bytes with
  | error cause => exact .inl ⟨_, d.used, rfl⟩
  | ok raw =>
      simp only
      cases result : (d.composer.capturePhoto s.clock list
          ⟨s.fresh d.used, s.clock.wall, Path.name path, raw⟩).1 with
      | error cause =>
          rw [Composer.capturePhoto_refused unshown result]
          exact .inl ⟨_, d.used + 1, rfl⟩
      | ok photo =>
          obtain ⟨bytes, store, r, normal, put, accepted⟩ := Composer.captured result
          obtain ⟨after, took, wrote⟩ := Composer.capturePhoto_wrote s.clock _ normal put accepted
          rw [took]
          exact .inr ⟨raw, bytes, store, r, after, rfl, normal, put, accepted, wrote, rfl⟩

/-- A photo that is taken is attached to its list. -/
theorem attach_ok {photo : DescribedPhoto} (ok : (attach s list d photo).1 = .ok ()) :
    ∃ ref r, d.composer.body.attach list ref = .ok r ∧
      (attach s list d photo).2.composer.body = r.1 := by
  have attached : ∀ {ref}, (d.edit (d.composer.attachPhoto s.clock list ref)).1 = .ok () →
      ∃ ref' r, d.composer.body.attach list ref' = .ok r ∧
        (d.edit (d.composer.attachPhoto s.clock list ref)).2.composer.body = r.1 := by
    intro ref ok
    rcases d.edit_attachPhoto_cases s.clock list ref with ⟨cause, failed⟩ |
      ⟨r, after, accepted, wrote, went⟩
    · rw [failed] at ok
      cases ok
    · rw [went]
      exact ⟨ref, r, accepted, wrote.body_eq⟩
  cases photo with
  | url address => exact attached ok
  | staged id =>
      unfold attach at ok ⊢
      cases got : d.composer.stock.get id with
      | error cause =>
          simp only [got] at ok
          cases ok
      | ok found =>
          cases found with
          | none =>
              simp only [got] at ok
              cases ok
          | some photo =>
              simp only [got] at ok ⊢
              exact attached ok
  | file path =>
      unfold attach capture at ok ⊢
      simp only at ok ⊢
      cases read : (s.look (Path.join s.folder path)).bytes with
      | error cause =>
          simp only [read] at ok
          cases ok
      | ok raw =>
          simp only [read] at ok ⊢
          cases result : (d.composer.capturePhoto s.clock list
              ⟨s.fresh d.used, s.clock.wall, Path.name (Path.join s.folder path), raw⟩).1 with
          | error cause =>
              simp only [result] at ok
              cases ok
          | ok photo =>
              obtain ⟨bytes, store, r, normal, put, accepted⟩ := Composer.captured result
              obtain ⟨after, took, wrote⟩ := Composer.capturePhoto_wrote s.clock _ normal put accepted
              rw [took]
              exact ⟨_, r, accepted, wrote.body_eq⟩

theorem counter_attach_ok {photo : DescribedPhoto} (ok : (attach s list d photo).1 = .ok ()) :
    (attach s list d photo).2.composer.body.counter = d.composer.body.counter := by
  obtain ⟨ref, r, accepted, same⟩ := attach_ok ok
  obtain ⟨photos, -, -, rfl⟩ := Body.attach_eq_ok_iff.mp accepted
  rw [same]
  split
  · rfl
  · exact Body.counter_setPhotos _ _ _

/-- A section of text leaves stock and header alone and shows no photo from the stock. -/
theorem addWith_bare (s : Surroundings) (d : Desk) (kind : SectionKind) (patch : SectionPatch) :
    (d.addWith s kind patch).2.used = d.used ∧
    (d.addWith s kind patch).2.composer.stock = d.composer.stock ∧
    (d.addWith s kind patch).2.composer.header = d.composer.header ∧
    ∀ entry ∈ (d.addWith s kind patch).2.composer.body.stagedPhotos,
      entry ∈ d.composer.body.stagedPhotos := by
  have pushed := d.composer.adopt_wrote s.clock (d.composer.body.add kind)
  have plain : (Content.fresh kind).withoutPhotos = .fresh kind := by cases kind <;> rfl
  simp only [addWith, Composer.addSection, Composer.updateSection, Composer.edit]
  rw [pushed.body_eq]
  cases updated : (d.composer.body.add kind).1.update d.composer.body.nextId patch with
  | error cause =>
      refine ⟨rfl, pushed.stock_eq, pushed.header_eq, fun entry there => ?_⟩
      have there : entry ∈ (d.composer.adopt s.clock (d.composer.body.add kind)).body.stagedPhotos :=
        there
      rw [pushed.body_eq] at there
      exact Body.mem_stagedPhotos_push plain there
  | ok r =>
      have made := (d.composer.adopt s.clock (d.composer.body.add kind)).adopt_wrote s.clock r
      refine ⟨rfl, made.stock_eq.trans pushed.stock_eq, made.header_eq.trans pushed.header_eq,
        fun entry there => ?_⟩
      have there : entry ∈ (Composer.adopt _ s.clock r).body.stagedPhotos := there
      rw [made.body_eq] at there
      exact Body.mem_stagedPhotos_push plain (Body.mem_stagedPhotos_update updated there)

/-- A section without its photos does so. -/
theorem add_bare (s : Surroundings) (d : Desk) (part : DescribedSection) :
    (d.add s part.bare).2.used = d.used ∧
    (d.add s part.bare).2.composer.stock = d.composer.stock ∧
    (d.add s part.bare).2.composer.header = d.composer.header ∧
    ∀ entry ∈ (d.add s part.bare).2.composer.body.stagedPhotos,
      entry ∈ d.composer.body.stagedPhotos := by
  cases part with
  | photos layout lists =>
      have pushed := d.composer.adopt_wrote s.clock (d.composer.body.addBlock layout)
      refine ⟨rfl, pushed.stock_eq, pushed.header_eq, fun entry there => ?_⟩
      have there : entry ∈
        (d.composer.adopt s.clock (d.composer.body.addBlock layout)).body.stagedPhotos := there
      rw [pushed.body_eq] at there
      exact Body.mem_stagedPhotos_push (by cases layout <;> rfl) there
  | checklistItem name => exact addWith_bare s d _ _
  | comment text => exact addWith_bare s d _ _
  | workDescription text => exact addWith_bare s d _ _

/-- A section is written portion by portion. -/
theorem add_eq_portions (s : Surroundings) (d : Desk) (part : DescribedSection) :
    d.add s part = d.advance (write s) part.portions := by
  cases part with
  | photos layout lists =>
      rw [add_photos, DescribedSection.portions, advance]
      simp only [write, DescribedSection.bare, add, Composer.addBlock, advance]
      rw [advance_map]
      refine advance_congr (fun now => ⟨now.composer.body.counter⟩ = d.composer.body.nextId) ?_ ?_
      · rintro ⟨category, photo⟩ - now last
        rw [write, last]
        refine ⟨rfl, fun ok => ?_⟩
        rw [counter_attach_ok ok]
        exact last
      · rw [(d.composer.adopt_wrote s.clock _).body_eq]
        rfl
  | checklistItem name => exact (advance_singleton (write s) d (.opening (.checklistItem name))).symm
  | comment text => exact (advance_singleton (write s) d (.opening (.comment text))).symm
  | workDescription text =>
      exact (advance_singleton (write s) d (.opening (.workDescription text))).symm

end Desk

/-- A description is written portion by portion. -/
theorem Description.apply_eq_portions (d : Description) (s : Surroundings) (c : Composer) :
    d.apply s c =
      let start : Desk := { composer := c.setHeader s.clock d.header }
      let (result, desk) := start.advance (Desk.write s) d.portions
      (result, desk.composer) := by
  have sections : Desk.add s = fun now part => now.advance (Desk.write s) part.portions := by
    funext now part
    exact now.add_eq_portions s part
  rw [apply, sections, Description.portions]
  simp only [Desk.advance_flatMap]

end SiteReport
