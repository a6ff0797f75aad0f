import SiteReport.Proofs.Batches
import SiteReport.Proofs.Document.Rewrite
import SiteReport.Submission
import Mathlib.Data.List.Nodup

/-!
What a run has to upload: every staged photo of the document once, for the first list that shows
it.
-/

namespace SiteReport

/-- The staged photos of a document, each at its first use. -/
def Body.stagedIds (b : Body) : List PhotoId := (b.stagedPhotos.map (·.2)).eraseDups

@[simp] theorem Body.mem_stagedIds {b : Body} {photo : PhotoId} :
    photo ∈ b.stagedIds ↔ ∃ list, (list, photo) ∈ b.stagedPhotos := by
  simp [stagedIds, List.mem_eraseDups]

theorem Body.nodup_stagedIds (b : Body) : b.stagedIds.Nodup := by
  rw [stagedIds, ← firsts_eq_eraseDups]
  exact nodup_firsts _

namespace Submission

/-! ### First uses -/

theorem mem_of_mem_firstUses {js : List Job} {j : Job} (h : j ∈ firstUses js) : j ∈ js := by
  induction js with
  | nil => exact h
  | cons i rest ih =>
      rcases List.mem_cons.mp h with rfl | later
      · exact List.mem_cons_self
      · exact List.mem_cons_of_mem _ (ih (List.mem_filter.mp later).1)

theorem map_firstUses (js : List Job) :
    (firstUses js).map (·.photo) = Body.firsts (js.map (·.photo)) := by
  induction js with
  | nil => rfl
  | cons j rest ih =>
      have later : ((firstUses rest).filter (·.photo ≠ j.photo)).map (·.photo) =
          ((firstUses rest).map (·.photo)).filter (· ≠ j.photo) := by
        rw [List.filter_map]
        rfl
      rw [firstUses, List.map_cons, later, ih]
      rfl

/-! ### Jobs of a document -/

variable {b : Body}

theorem photos_jobs (b : Body) : (jobs b).map (·.photo) = b.stagedIds := by
  rw [jobs, map_firstUses, Body.firsts_eq_eraseDups, List.map_map]
  rfl

theorem nodup_jobs (b : Body) : ((jobs b).map (·.photo)).Nodup := by
  rw [photos_jobs]
  exact b.nodup_stagedIds

/-- A job is about a staged photo in one of its lists. -/
theorem staged_of_mem_jobs {j : Job} (h : j ∈ jobs b) : (j.list, j.photo) ∈ b.stagedPhotos := by
  obtain ⟨⟨list, photo⟩, member, rfl⟩ := List.mem_map.mp (mem_of_mem_firstUses h)
  exact member

theorem exists_job {list : PhotoList} {photo : PhotoId} (h : (list, photo) ∈ b.stagedPhotos) :
    ∃ j ∈ jobs b, j.photo = photo := by
  have present : photo ∈ (jobs b).map (·.photo) := by
    rw [photos_jobs, Body.mem_stagedIds]
    exact ⟨list, h⟩
  exact List.mem_map.mp present

end Submission

end SiteReport
