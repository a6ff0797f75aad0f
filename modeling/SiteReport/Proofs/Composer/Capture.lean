import SiteReport.Proofs.CommandLine.Staged
import SiteReport.Proofs.Document.Places

/-!
A photo that is captured is staged and attached, or nothing happens. The list is looked at before
the photo comes into the stock, and once it is there nothing stands in its way: it could be turned
down only for its category in another list, and no list has a photo with a new identifier.
-/

namespace SiteReport

namespace Body

variable {b : Body} {list : PhotoList} {photos : List PhotoRef} {id : PhotoId}

theorem attach_of_unshown (known : b.photos list = .ok photos)
    (unshown : ∀ l, (l, id) ∉ b.stagedPhotos) :
    b.attach list (.staged id) =
      .ok (b.setPhotos list (photos ++ [.staged id]), some (.photosChanged list.block)) := by
  have apart : b.conflict? (.staged id) list.category none = none := by
    refine conflict?_eq_none_iff.mpr fun id' own l there => ?_
    cases own
    exact absurd there (unshown l)
  have new : .staged id ∉ photos := fun member =>
    unshown list (mem_stagedPhotos_iff.mpr ⟨photos, mem_lists_of_photos known, member⟩)
  exact attach_eq_ok_iff.mpr ⟨photos, known, apart, (if_neg new).symm⟩

end Body

namespace Composer

variable {c : Composer} {clock : Clock} {list : PhotoList} {file : Incoming}

/-- What is left to fail, once the identifier is new, is the list and the staging. -/
theorem capturePhoto_of_unshown (unshown : ∀ l, (l, file.fresh) ∉ c.body.stagedPhotos) :
    c.capturePhoto clock list file =
      match c.body.photos list, c.stock.stage file with
      | .error e, _ => (.error (.edit e), c)
      | .ok _, .error e => (.error (.stage e), c)
      | .ok photos, .ok (photo, stock) =>
        (.ok photo, { c with stock }.adopt clock
          (c.body.setPhotos list (photos ++ [PhotoRef.staged photo.id]), .photosChanged list.block)) := by
  unfold capturePhoto
  cases known : c.body.photos list with
  | error e => rfl
  | ok photos =>
      cases taken : c.stock.stage file with
      | error e => simp only [stage, taken, Except.map]
      | ok r =>
          obtain ⟨photo, stock⟩ := r
          rw [← Stock.id_of_stage taken] at unshown
          simp only [stage, taken, Except.map, attachPhoto, Body.attach_of_unshown known unshown]

/-- A photo that cannot be taken leaves the composer as it is, if no photo of the document has its
identifier. -/
theorem capturePhoto_refused {cause : CaptureError}
    (unshown : ∀ l, (l, file.fresh) ∉ c.body.stagedPhotos)
    (refused : (c.capturePhoto clock list file).1 = .error cause) :
    c.capturePhoto clock list file = (.error cause, c) := by
  rw [capturePhoto_of_unshown unshown] at refused ⊢
  split at refused
  · cases refused
    rfl
  · cases refused
    rfl
  · cases refused

/-- The composer with one photo more: in the store, at the end of a list, and told of. -/
structure Captured (c : Composer) (clock : Clock) (list : PhotoList) (photo : StagedPhoto)
    (after : Composer) : Prop where
  stored : c.stock.store.Extended [photo] after.stock.store
  others_stored : ∀ id, id ≠ photo.id → after.stock.store.stored id = c.stock.store.stored id
  attached : ∃ photos, c.body.photos list = .ok photos ∧
    after.body.photos list = .ok (photos ++ [.staged photo.id])
  other_lists : ∀ l, l ≠ list → after.body.photos l = c.body.photos l
  sections : ∃ pre s post block photos, c.body.Split list.block pre s post ∧
    s.content = .photos block ∧ block.photos? list.category = some photos ∧
    after.body.sections = pre ++
      ⟨s.id, .photos (block.setPhotos list.category (photos ++ [.staged photo.id]))⟩ :: post
  told : after = ({ c with
    body := ⟨after.body.sections, c.body.counter⟩
    stock := { c.stock with store := after.stock.store } }.touch clock).emit
      (.body (.photosChanged list.block))

theorem Captured.of_photos {photo : StagedPhoto} {photos : List PhotoRef} {store : Store}
    (known : c.body.photos list = .ok photos) (extended : c.stock.store.Extended [photo] store) :
    c.Captured clock list photo
      ((c.mapStore store).adopt clock
        (c.body.setPhotos list (photos ++ [.staged photo.id]), .photosChanged list.block)) := by
  obtain ⟨s, block, found, content, listed⟩ := Body.photos_eq_ok_iff.mp known
  obtain ⟨pre, post, split⟩ := Body.exists_split_of_find? found
  have written := split.setPhotos content (photos ++ [.staged photo.id])
  refine ⟨extended, ?_, ⟨photos, known, ?_⟩, ?_, ?_, ?_⟩
  · intro id other
    exact extended.stored_of_not_mem (by simpa using other)
  · exact (Body.photos_setPhotos known).trans (if_pos rfl)
  · intro l other
    exact (Body.photos_setPhotos known).trans (if_neg other)
  · exact ⟨pre, s, post, block, photos, split, content, listed, congrArg Body.sections written⟩
  · have counter := c.body.counter_setPhotos list (photos ++ [.staged photo.id])
    exact counter ▸ rfl

/-- A photo under a new identifier is captured as a whole, or nothing of it is. -/
theorem capture_all_or_nothing (c : Composer) (clock : Clock) (list : PhotoList) (file : Incoming)
    (unshown : ∀ l, (l, file.fresh) ∉ c.body.stagedPhotos)
    (absent : c.stock.store.has file.fresh = false) :
    let r := c.capturePhoto clock list file
    (∀ cause, r.1 = .error cause → r.2 = c) ∧
    (∀ photo, r.1 = .ok photo →
      (∃ bytes, c.stock.normalizer.normalize file.bytes = .ok bytes ∧
        photo = file.photo bytes) ∧
      c.Captured clock list photo r.2) ∧
    ((∃ photo, r.1 = .ok photo) ↔
      (∃ photos, c.body.photos list = .ok photos) ∧
      (∃ bytes, c.stock.normalizer.normalize file.bytes = .ok bytes) ∧
      c.stock.store.faults .put = none) := by
  intro r
  refine ⟨fun cause refused => ?_, fun photo taken => ?_, ?_⟩
  · exact congrArg Prod.snd (capturePhoto_refused unshown refused)
  · obtain ⟨bytes, store, attached, normal, put, accepted⟩ := captured taken
    obtain ⟨photos, known, -⟩ := Body.attach_eq_ok_iff.mp accepted
    have stocked : c.stock.stage file =
        .ok (file.photo bytes, { c.stock with store }) :=
      Stock.stage_eq_ok_iff.mpr ⟨bytes, store, normal, rfl, put, rfl⟩
    have r_eq : r = _ := capturePhoto_of_unshown unshown
    rw [known, stocked] at r_eq
    rw [r_eq] at taken ⊢
    cases taken
    exact ⟨⟨bytes, normal, rfl⟩, .of_photos known (Store.extended_of_put absent put)⟩
  · constructor
    · rintro ⟨photo, taken⟩
      obtain ⟨bytes, store, attached, normal, put, accepted⟩ := captured taken
      obtain ⟨photos, known, -⟩ := Body.attach_eq_ok_iff.mp accepted
      exact ⟨⟨photos, known⟩, ⟨bytes, normal⟩, (Store.change_eq_ok_iff.mp put).1⟩
    · rintro ⟨⟨photos, known⟩, ⟨bytes, normal⟩, writes⟩
      obtain ⟨after, written, -⟩ := capturePhoto_wrote clock file normal
        (Store.change_eq_ok_iff.mpr ⟨writes, rfl⟩) (Body.attach_of_unshown known unshown)
      exact ⟨_, congrArg Prod.fst written⟩

end Composer

namespace Composer.Camera

open Stock.Pile (morning next)

def clock : Clock := ⟨0, morning⟩

def settings : EditSettings := { jpegQuality := 100 }

def composer : Composer :=
  { Composer.new (.ofSettings Pixel.codec ⟨.memory {}, fun _ => none⟩ settings) settings with
    body := ⟨[⟨⟨1⟩, .photos (.empty .completed)⟩], 1⟩ }

def file : Incoming := ⟨⟨74, by decide⟩, next, "a.bmp", Pixel.bitmap⟩

/-- No picture. -/
def notes : Incoming := ⟨⟨74, by decide⟩, next, "notes.txt", [1, 2]⟩

/-- The picture comes into a list that is there, and nothing changes for one that is not, nor for a
file that is no picture. -/
theorem captured_for_known_list :
    (∀ l, (l, file.fresh) ∉ composer.body.stagedPhotos) ∧
    composer.stock.store.has file.fresh = false ∧
    (let r := composer.capturePhoto clock ⟨⟨1⟩, .completed⟩ file
     r.1 = .ok (file.photo Pixel.jpeg) ∧
       composer.Captured clock ⟨⟨1⟩, .completed⟩ (file.photo Pixel.jpeg) r.2) ∧
    (composer.capturePhoto clock ⟨⟨1⟩, .before⟩ file).2 = composer ∧
    (composer.capturePhoto clock ⟨⟨1⟩, .completed⟩ notes).2 = composer := by
  have unshown : ∀ l, (l, file.fresh) ∉ composer.body.stagedPhotos := fun _ => List.not_mem_nil
  have read : composer.stock.normalizer.normalize file.bytes = .ok Pixel.jpeg :=
    Pixel.toJpeg_eq rfl (by decide) (.inl rfl)
  refine ⟨unshown, rfl, ?_, ?_, ?_⟩
  · obtain ⟨-, whole, taken⟩ :=
      capture_all_or_nothing composer clock ⟨⟨1⟩, .completed⟩ file unshown rfl
    obtain ⟨photo, answer⟩ := taken.mpr ⟨⟨[], rfl⟩, ⟨_, read⟩, rfl⟩
    obtain ⟨⟨bytes, normal, rfl⟩, added⟩ := whole photo answer
    obtain rfl : Pixel.jpeg = bytes := Except.ok.inj (read.symm.trans normal)
    exact ⟨answer, added⟩
  · obtain ⟨nothing, -, -⟩ := capture_all_or_nothing composer clock ⟨⟨1⟩, .before⟩ file unshown rfl
    exact nothing (.edit (.categoryNotInLayout ⟨1⟩ .before .completed)) rfl
  · obtain ⟨nothing, -, -⟩ :=
      capture_all_or_nothing composer clock ⟨⟨1⟩, .completed⟩ notes unshown rfl
    exact nothing (.stage (.unreadable "notes.txt"
      (.picture "The image format could not be determined"))) rfl

end Composer.Camera

end SiteReport
