import SiteReport.CommandLine.Run
import SiteReport.Proofs.CommandLine.Staged
import SiteReport.Proofs.Document.Renamed
import Mathlib.Algebra.GroupWithZero.Nat

/-!
One description written twice, in composers over different stores and with different identifiers for
the photos that are staged on the way. What goes well the first time goes well the second time, and
the two documents are the same but for these identifiers.
-/

namespace SiteReport

/-! ### What a description names -/

/-- The identifier in the stock by which a photo is described. -/
def DescribedPhoto.stagedId? : DescribedPhoto → Option PhotoId
  | .staged id => some id
  | _ => none

def DescribedSection.named : DescribedSection → List PhotoId
  | .photos _ lists => lists.flatMap fun list => list.2.filterMap DescribedPhoto.stagedId?
  | _ => []

/-- The photos in the stock that a description names. -/
def Description.named (d : Description) : List PhotoId :=
  d.sections.flatMap DescribedSection.named

/-! ### Two composers side by side -/

/-- What two writings of one description have to do with each other. -/
structure Pairing where
  first : Surroundings
  second : Surroundings
  /-- The photos in the stock that may be named. -/
  names : List PhotoId
  /-- The paths of files that may be staged. -/
  paths : List String
  stock₁ : Store
  stock₂ : Store
  /-- Which photo of the second document stands for a photo of the first one. -/
  rename : PhotoId → PhotoId
  apart : Function.Injective rename
  named : ∀ id ∈ names, rename id = id
  staged : ∀ k < paths.length, rename (first.fresh k) = second.fresh k
  fresh₁ : first.Fresh names paths.length
  fresh₂ : second.Fresh names paths.length
  folder : second.folder = first.folder
  look : ∀ path ∈ paths, second.look path = first.look path
  known : ∀ id ∈ names, (∃ p, stock₁.stored id = .ok (some p)) → ∃ p, stock₂.stored id = .ok (some p)

namespace Pairing

variable (m : Pairing)

/-- Two composers that came equally far. -/
structure Alike (files : List (String × Bytes)) (d₁ d₂ : Desk) : Prop where
  within : files.length ≤ m.paths.length
  used₁ : d₁.used = files.length
  used₂ : d₂.used = files.length
  body : d₂.composer.body = d₁.composer.body.renamed m.rename
  header : d₂.composer.header = d₁.composer.header
  remoteId : d₂.composer.remoteId = d₁.composer.remoteId
  normalizer : d₂.composer.stock.normalizer = d₁.composer.stock.normalizer
  filed₁ : Filed m.first m.names m.stock₁ files d₁.composer.stock.store
  filed₂ : Filed m.second m.names m.stock₂ files d₂.composer.stock.store
  photos : ∀ list id, (list, id) ∈ d₁.composer.body.stagedPhotos →
    id ∈ m.names ∨ ∃ k < files.length, id = m.first.fresh k

variable {m} {files : List (String × Bytes)} {d₁ d₂ : Desk}

/-- Both took a step that went well, and that staged some files. -/
def Went (m : Pairing) (count : Nat) (r₁ r₂ : Except DescriptionError Unit × Desk) : Prop :=
  r₂.1 = .ok () ∧ ∃ files, files.length = count ∧ m.Alike files r₁.2 r₂.2

/-- Steps that keep two composers alike do so one after another. -/
theorem Alike.advance {α : Type} {step₁ step₂ : Desk → α → Except DescriptionError Unit × Desk}
    (cost : α → Nat) {items : List α}
    (each : ∀ a ∈ items, ∀ files d₁ d₂, m.Alike files d₁ d₂ →
      files.length + cost a ≤ m.paths.length → (step₁ d₁ a).1 = .ok () →
      m.Went (files.length + cost a) (step₁ d₁ a) (step₂ d₂ a))
    (h : m.Alike files d₁ d₂) (room : files.length + (items.map cost).sum ≤ m.paths.length)
    (ok : (d₁.advance step₁ items).1 = .ok ()) :
    m.Went (files.length + (items.map cost).sum) (d₁.advance step₁ items)
      (d₂.advance step₂ items) := by
  induction items generalizing files d₁ d₂ with
  | nil => exact ⟨rfl, files, rfl, h⟩
  | cons a rest ih =>
      obtain ⟨one, others⟩ := List.forall_mem_cons.mp each
      rw [List.map_cons, List.sum_cons] at room ⊢
      unfold Desk.advance at ok ⊢
      cases taken₁ : step₁ d₁ a with
      | mk result₁ next₁ =>
          rw [taken₁] at ok
          cases result₁ with
          | error e => cases ok
          | ok _ =>
              have went := one files d₁ d₂ h (by omega) (by rw [taken₁])
              rw [taken₁] at went
              obtain ⟨well, more, count, alike⟩ := went
              cases taken₂ : step₂ d₂ a with
              | mk result₂ next₂ =>
                  rw [taken₂] at well alike
                  cases well
                  have later := ih others alike (by omega) ok
                  rw [count, Nat.add_assoc] at later
                  exact later

/-- After edits of the two bodies that go together. -/
theorem Alike.wrote (h : m.Alike files d₁ d₂) {body₁ : Body} {c₁ c₂ : Composer}
    (wrote₁ : d₁.composer.Wrote body₁ c₁)
    (wrote₂ : d₂.composer.Wrote (body₁.renamed m.rename) c₂)
    (photos : ∀ list id, (list, id) ∈ body₁.stagedPhotos →
      id ∈ m.names ∨ ∃ k < files.length, id = m.first.fresh k) :
    m.Alike files { d₁ with composer := c₁ } { d₂ with composer := c₂ } where
  within := h.within
  used₁ := h.used₁
  used₂ := h.used₂
  body := by rw [wrote₂.body_eq, wrote₁.body_eq]
  header := by rw [wrote₂.header_eq, wrote₁.header_eq, h.header]
  remoteId := by rw [wrote₂.remoteId_eq, wrote₁.remoteId_eq, h.remoteId]
  normalizer := by rw [wrote₂.stock_eq, wrote₁.stock_eq, h.normalizer]
  filed₁ := wrote₁.stock_eq ▸ h.filed₁
  filed₂ := wrote₂.stock_eq ▸ h.filed₂
  photos := wrote₁.body_eq ▸ photos

/-- After such edits that bring in a photo from a file, once it is in both stores. -/
theorem Alike.wroteFile (h : m.Alike files d₁ d₂) (room : files.length < m.paths.length)
    {file : String × Bytes} {store₁ store₂ : Store} {body₁ : Body} {c₁ c₂ : Composer}
    (filed₁ : Filed m.first m.names m.stock₁ (files ++ [file]) store₁)
    (filed₂ : Filed m.second m.names m.stock₂ (files ++ [file]) store₂)
    (wrote₁ : (d₁.composer.mapStore store₁).Wrote body₁ c₁)
    (wrote₂ : (d₂.composer.mapStore store₂).Wrote (body₁.renamed m.rename) c₂)
    (photos : ∀ list id, (list, id) ∈ body₁.stagedPhotos →
      (list, id) ∈ d₁.composer.body.stagedPhotos ∨ id = m.first.fresh files.length) :
    m.Alike (files ++ [file]) ⟨c₁, d₁.used + 1⟩ ⟨c₂, d₂.used + 1⟩ where
  within := by
    rw [List.length_append]
    exact room
  used₁ := by simp [h.used₁]
  used₂ := by simp [h.used₂]
  body := by rw [wrote₂.body_eq, wrote₁.body_eq]
  header := wrote₂.header_eq.trans (h.header.trans wrote₁.header_eq.symm)
  remoteId := wrote₂.remoteId_eq.trans (h.remoteId.trans wrote₁.remoteId_eq.symm)
  normalizer := by
    rw [wrote₂.stock_eq, wrote₁.stock_eq]
    exact h.normalizer
  filed₁ := by
    rw [wrote₁.stock_eq]
    exact filed₁
  filed₂ := by
    rw [wrote₂.stock_eq]
    exact filed₂
  photos := by
    intro list id staged
    rw [wrote₁.body_eq] at staged
    rcases photos list id staged with old | new
    · rcases h.photos list id old with named | ⟨k, earlier, same⟩
      · exact .inl named
      · exact .inr ⟨k, by simp; omega, same⟩
    · exact .inr ⟨files.length, by simp, new⟩

/-! ### Step by step -/

theorem Alike.attachPhoto (h : m.Alike files d₁ d₂) {list : PhotoList} (photo : PhotoRef)
    (known : ∀ id, photo = .staged id → id ∈ m.names ∨ ∃ k < files.length, id = m.first.fresh k)
    (clock₁ clock₂ : Clock)
    (ok : (d₁.edit (d₁.composer.attachPhoto clock₁ list photo)).1 = .ok ()) :
    m.Went files.length (d₁.edit (d₁.composer.attachPhoto clock₁ list photo))
      (d₂.edit (d₂.composer.attachPhoto clock₂ list (photo.renamed m.rename))) := by
  cases attached : d₁.composer.attachPhoto clock₁ list photo with
  | error e =>
      rw [attached] at ok
      cases ok
  | ok answer =>
      obtain ⟨r, accepted⟩ := Composer.attach_of_attachPhoto attached
      obtain ⟨c₁, answered₁, wrote₁⟩ := Composer.attachPhoto_wrote accepted clock₁
      have renamed := Body.attach_renamed m.apart accepted
      rw [← h.body] at renamed
      obtain ⟨c₂, answered₂, wrote₂⟩ := Composer.attachPhoto_wrote renamed clock₂
      rw [answered₁] at attached
      cases attached
      rw [answered₂]
      refine ⟨rfl, files, rfl, h.wrote wrote₁ wrote₂ ?_⟩
      intro l id staged
      rcases Body.mem_stagedPhotos_attach accepted staged with old | new
      · exact h.photos l id old
      · exact known id new

/-- A photo that is named in the stock of the first composer is in that of the second one. -/
theorem Alike.named_there (h : m.Alike files d₁ d₂) {id : PhotoId} (named : id ∈ m.names)
    {p : StagedPhoto} (there : d₁.composer.stock.get id = .ok (some p)) :
    ∃ q, d₂.composer.stock.get id = .ok (some q) := by
  have stored := Store.stored_of_get there
  rw [h.filed₁.kept id named] at stored
  obtain ⟨q, known⟩ := m.known id named ⟨p, stored⟩
  rw [← h.filed₂.kept id named] at known
  refine ⟨q, ?_⟩
  rw [Stock.get, Store.get_eq_stored, Store.guarded, h.filed₂.works]
  exact known

/-- A file is staged and attached the second time if it was so the first time. -/
theorem Alike.capture (h : m.Alike files d₁ d₂) {path : String} (listed : path ∈ m.paths)
    (room : files.length < m.paths.length) (list : PhotoList)
    (ok : (Desk.capture m.first list d₁ path).1 = .ok ()) :
    m.Went (files.length + 1) (Desk.capture m.first list d₁ path)
      (Desk.capture m.second list d₂ path) := by
  simp only [Desk.capture, m.look path listed] at ok ⊢
  cases read : (m.first.look path).bytes with
  | error e =>
      rw [read] at ok
      cases ok
  | ok raw =>
      simp only [read] at ok
      cases result : (d₁.composer.capturePhoto m.first.clock list
          ⟨m.first.fresh d₁.used, m.first.clock.wall, Path.name path, raw⟩).1 with
      | error e => simp [result] at ok
      | ok photo =>
          obtain ⟨bytes, store₁, r, normal, put₁, accepted⟩ := Composer.captured result
          obtain ⟨c₁, took₁, wrote₁⟩ := Composer.capturePhoto_wrote m.first.clock _ normal put₁ accepted
          have renamed := Body.attach_renamed m.apart accepted
          rw [PhotoRef.renamed, h.used₁, m.staged _ room, ← h.used₂, ← h.body] at renamed
          rw [← h.normalizer] at normal
          obtain ⟨store₂, put₂, filed₂⟩ := h.filed₂.put m.fresh₂ room (Path.name path) bytes
          obtain ⟨store, put, filed₁⟩ := h.filed₁.put m.fresh₁ room (Path.name path) bytes
          rw [← h.used₁] at put
          obtain rfl : store₁ = store := Except.ok.inj (put₁.symm.trans put)
          rw [← h.used₂] at put₂
          obtain ⟨c₂, took₂, wrote₂⟩ := Composer.capturePhoto_wrote m.second.clock
            ⟨m.second.fresh d₂.used, m.second.clock.wall, Path.name path, raw⟩ normal put₂ renamed
          simp only [took₁, took₂]
          refine ⟨rfl, files ++ [(Path.name path, bytes)], by simp, ?_⟩
          refine h.wroteFile room filed₁ filed₂ wrote₁ wrote₂ ?_
          intro l id staged
          rcases Body.mem_stagedPhotos_attach accepted staged with old | new
          · exact .inl old
          · cases new
            exact .inr (by rw [h.used₁])

theorem Alike.attach (h : m.Alike files d₁ d₂) (list : PhotoList) {photo : DescribedPhoto}
    (names : ∀ id, photo.stagedId? = some id → id ∈ m.names)
    (paths : ∀ path, photo.path? = some path → Path.join m.first.folder path ∈ m.paths)
    (room : files.length + photo.path?.toList.length ≤ m.paths.length)
    (ok : (Desk.attach m.first list d₁ photo).1 = .ok ()) :
    m.Went (files.length + photo.path?.toList.length) (Desk.attach m.first list d₁ photo)
      (Desk.attach m.second list d₂ photo) := by
  cases photo with
  | url url => exact h.attachPhoto (.resolved url) (fun id absent => by cases absent) _ _ ok
  | staged id =>
      have named := names id rfl
      simp only [Desk.attach] at ok ⊢
      cases got : d₁.composer.stock.get id with
      | error e =>
          rw [got] at ok
          cases ok
      | ok found =>
          cases found with
          | none =>
              rw [got] at ok
              cases ok
          | some p =>
              obtain ⟨q, there⟩ := h.named_there named got
              rw [got] at ok
              simp only at ok
              simp only [there]
              have went := h.attachPhoto (.staged id)
                (fun x same => .inl (by cases same; exact named)) m.first.clock m.second.clock ok
              rw [PhotoRef.renamed, m.named id named] at went
              exact went
  | file path =>
      have went := h.capture (paths path rfl) room list ok
      unfold Desk.attach
      rw [m.folder]
      exact went

/-- A new section without photos. -/
theorem Alike.push (h : m.Alike files d₁ d₂) (content : Content)
    (same : content.renamed m.rename = content) (bare : content.withoutPhotos = content)
    (clock₁ clock₂ : Clock) :
    m.Alike files { d₁ with composer := d₁.composer.adopt clock₁ (d₁.composer.body.push content) }
      { d₂ with composer := d₂.composer.adopt clock₂ (d₂.composer.body.push content) } := by
  have renamed := Body.push_renamed m.rename d₁.composer.body content
  rw [same, ← h.body] at renamed
  have wrote₂ := d₂.composer.adopt_wrote clock₂ (d₂.composer.body.push content)
  rw [renamed] at wrote₂
  refine h.wrote (d₁.composer.adopt_wrote clock₁ _) wrote₂ ?_
  intro list id staged
  exact h.photos list id (Body.mem_stagedPhotos_push bare staged)

theorem Alike.update (h : m.Alike files d₁ d₂) {id : SectionId} {patch : SectionPatch}
    {clock₁ : Clock} (clock₂ : Clock)
    (ok : (d₁.edit (d₁.composer.updateSection clock₁ id patch)).1 = .ok ()) :
    m.Went files.length (d₁.edit (d₁.composer.updateSection clock₁ id patch))
      (d₂.edit (d₂.composer.updateSection clock₂ id patch)) := by
  unfold Composer.updateSection Composer.edit at ok ⊢
  cases accepted : d₁.composer.body.update id patch with
  | error e =>
      rw [accepted] at ok
      cases ok
  | ok r =>
      have renamed := Body.update_renamed (f := m.rename) accepted
      rw [← h.body] at renamed
      rw [renamed]
      refine ⟨rfl, files, rfl, ?_⟩
      refine h.wrote (d₁.composer.adopt_wrote clock₁ r)
        (d₂.composer.adopt_wrote clock₂ (r.1.renamed m.rename, r.2)) ?_
      intro list photo staged
      exact h.photos list photo (Body.mem_stagedPhotos_update accepted staged)

theorem Alike.addWith (h : m.Alike files d₁ d₂) {kind : SectionKind} {patch : SectionPatch}
    (ok : (d₁.addWith m.first kind patch).1 = .ok ()) :
    m.Went files.length (d₁.addWith m.first kind patch) (d₂.addWith m.second kind patch) := by
  have pushed := h.push (.fresh kind) (by cases kind <;> rfl) (by cases kind <;> rfl)
    m.first.clock m.second.clock
  have next : d₂.composer.body.nextId = d₁.composer.body.nextId := by
    rw [h.body]
    rfl
  unfold Desk.addWith Composer.addSection at ok ⊢
  rw [next]
  exact pushed.update m.second.clock ok

theorem length_filterMap_eq_sum {α β : Type} (f : α → Option β) (items : List α) :
    (items.filterMap f).length = (items.map fun a => (f a).toList.length).sum := by
  induction items with
  | nil => rfl
  | cons a rest ih =>
      rw [List.map_cons, List.sum_cons, ← ih, List.filterMap_cons]
      cases f a with
      | none => simp
      | some b => simp [Nat.add_comm]

theorem Alike.add (h : m.Alike files d₁ d₂) {section₁ : DescribedSection}
    (names : ∀ id ∈ section₁.named, id ∈ m.names)
    (paths : ∀ path ∈ section₁.paths, Path.join m.first.folder path ∈ m.paths)
    (room : files.length + section₁.paths.length ≤ m.paths.length)
    (ok : (d₁.add m.first section₁).1 = .ok ()) :
    m.Went (files.length + section₁.paths.length) (d₁.add m.first section₁)
      (d₂.add m.second section₁) := by
  cases section₁ with
  | checklistItem name => exact h.addWith ok
  | comment text => exact h.addWith ok
  | workDescription text => exact h.addWith ok
  | photos layout lists =>
      have pushed := h.push (.photos (.empty layout)) (by cases layout <;> rfl)
        (by cases layout <;> rfl) m.first.clock m.second.clock
      have next : d₂.composer.body.nextId = d₁.composer.body.nextId := by
        rw [h.body]
        rfl
      unfold Desk.add Composer.addBlock at ok ⊢
      rw [next]
      unfold DescribedSection.paths at room ⊢
      rw [List.length_flatMap] at room ⊢
      refine pushed.advance (fun list => (list.2.filterMap DescribedPhoto.path?).length) ?_ room ok
      rintro ⟨category, photos⟩ member files d₁ d₂ h room ok
      simp only [length_filterMap_eq_sum] at room ⊢
      refine h.advance (fun photo => photo.path?.toList.length) ?_ room ok
      intro photo inside files d₁ d₂ h room ok
      refine h.attach _ ?_ ?_ room ok
      · intro id named
        exact names id (List.mem_flatMap.mpr ⟨_, member, List.mem_filterMap.mpr ⟨_, inside, named⟩⟩)
      · intro path file
        exact paths path (List.mem_flatMap.mpr ⟨_, member, List.mem_filterMap.mpr ⟨_, inside, file⟩⟩)

/-- A whole description. -/
theorem Alike.apply {d : Description} {c₁ c₂ : Composer}
    (h : m.Alike [] { composer := c₁.setHeader m.first.clock d.header }
      { composer := c₂.setHeader m.second.clock d.header })
    (names : d.named = m.names) (paths : d.paths m.first.folder = m.paths)
    (ok : (d.apply m.first c₁).1 = .ok ()) :
    (d.apply m.second c₂).1 = .ok () ∧ ∃ files,
      m.Alike files ⟨(d.apply m.first c₁).2, files.length⟩ ⟨(d.apply m.second c₂).2, files.length⟩ := by
  have count : (d.sections.map fun s => s.paths.length).sum = m.paths.length := by
    rw [← paths, Description.paths, List.length_map, List.length_flatMap]
  have each : ∀ s ∈ d.sections, ∀ files d₁ d₂, m.Alike files d₁ d₂ →
      files.length + s.paths.length ≤ m.paths.length → (Desk.add m.first d₁ s).1 = .ok () →
      m.Went (files.length + s.paths.length) (Desk.add m.first d₁ s) (Desk.add m.second d₂ s) := by
    intro s member files d₁ d₂ h room ok
    refine h.add ?_ ?_ room ok
    · intro id named
      rw [← names]
      exact List.mem_flatMap.mpr ⟨s, member, named⟩
    · intro path file
      rw [← paths]
      exact List.mem_map_of_mem (List.mem_flatMap.mpr ⟨s, member, file⟩)
  have room : ([] : List (String × Bytes)).length +
      (d.sections.map fun s => s.paths.length).sum ≤ m.paths.length := by
    rw [count]
    exact Nat.le_of_eq (Nat.zero_add _)
  obtain ⟨well, files, -, alike⟩ := h.advance _ each room ok
  exact ⟨well, files, { alike with used₁ := rfl, used₂ := rfl }⟩

end Pairing

end SiteReport
