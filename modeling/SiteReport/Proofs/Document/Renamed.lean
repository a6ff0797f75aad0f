import Mathlib.Data.Fintype.EquivFin
import Mathlib.Data.Fintype.Sum
import SiteReport.Proofs.Document.Edits
import SiteReport.Proofs.Photo.Id
import SiteReport.Proofs.Submission.Jobs

/-!
A document in which the staged photos go by other identifiers. As long as different photos keep
different names, edits that are accepted before the renaming are accepted after it, and lead to the
renamed document. So two documents that are written by the same steps over photos with different
identifiers differ in these identifiers alone.
-/

namespace SiteReport

namespace PhotoId

instance : Finite PhotoId :=
  Finite.of_injective (fun i : PhotoId => (⟨i.number, i.number_lt⟩ : Fin (Nat.pow 2 128)))
    fun _ _ same => number_injective (Fin.mk.inj same)

/-- There is a renaming of all photos that fixes some and takes a row of others to another row. -/
theorem exists_renaming {names : List PhotoId} {one two : Nat → PhotoId} {limit : Nat}
    (distinct₁ : ∀ j k, j < limit → k < limit → one j = one k → j = k)
    (distinct₂ : ∀ j k, j < limit → k < limit → two j = two k → j = k)
    (unnamed₁ : ∀ k, k < limit → one k ∉ names) (unnamed₂ : ∀ k, k < limit → two k ∉ names) :
    ∃ f : PhotoId → PhotoId, Function.Injective f ∧ (∀ id ∈ names, f id = id) ∧
      ∀ k < limit, f (one k) = two k := by
  classical
  let partner (id : PhotoId) : PhotoId :=
    if h : ∃ k < limit, one k = id then two h.choose else id
  have fixed : ∀ id ∈ names, partner id = id := by
    intro id named
    refine dif_neg ?_
    rintro ⟨k, inside, rfl⟩
    exact unnamed₁ k inside named
  have taken : ∀ k < limit, partner (one k) = two k := by
    intro k inside
    have h : ∃ j < limit, one j = one k := ⟨k, inside, rfl⟩
    have same : h.choose = k := distinct₁ _ _ h.choose_spec.1 inside h.choose_spec.2
    exact (dif_pos h).trans (congrArg two same)
  have apart : Set.InjOn partner {id | id ∈ names ∨ ∃ k < limit, one k = id} := by
    rintro i (named | ⟨j, hj, rfl⟩) i' (named' | ⟨k, hk, rfl⟩) same
    · rwa [fixed i named, fixed i' named'] at same
    · rw [fixed i named, taken k hk] at same
      exact absurd (same ▸ named) (unnamed₂ k hk)
    · rw [fixed i' named', taken j hj] at same
      exact absurd (same ▸ named') (unnamed₂ j hj)
    · rw [taken j hj, taken k hk] at same
      rw [distinct₂ j k hj hk same]
  have := Fintype.ofFinite PhotoId
  obtain ⟨g, extends_partner⟩ := Set.MapsTo.exists_equiv_extend_of_card_eq
    (t := Finset.univ) Finset.card_univ.symm (fun _ _ => Finset.mem_univ _) apart
  refine ⟨fun id => (g id).val, Subtype.val_injective.comp g.injective, ?_, ?_⟩
  · intro id named
    exact (extends_partner id (.inl named)).trans (fixed id named)
  · intro k inside
    exact (extends_partner _ (.inr ⟨k, inside, rfl⟩)).trans (taken k inside)

end PhotoId

variable {f : PhotoId → PhotoId}

def PhotoRef.renamed (f : PhotoId → PhotoId) : PhotoRef → PhotoRef
  | .resolved url => .resolved url
  | .staged id => .staged (f id)

theorem PhotoRef.renamed_injective (apart : Function.Injective f) :
    Function.Injective (PhotoRef.renamed f) := by
  rintro (url | id) (url' | id') same
  · cases same
    rfl
  · cases same
  · cases same
  · rw [apart (PhotoRef.staged.inj same)]

namespace PhotoBlock

def renamed (f : PhotoId → PhotoId) (block : PhotoBlock) : PhotoBlock :=
  block.mapLists (List.map (PhotoRef.renamed f))

theorem photos?_renamed (block : PhotoBlock) (category : Category) :
    (block.renamed f).photos? category =
      (block.photos? category).map (List.map (PhotoRef.renamed f)) := by
  cases block <;> cases category <;> rfl

theorem setPhotos_renamed (block : PhotoBlock) (category : Category) (photos : List PhotoRef) :
    (block.renamed f).setPhotos category (photos.map (PhotoRef.renamed f)) =
      (block.setPhotos category photos).renamed f := by
  cases block <;> cases category <;> rfl

theorem isEmpty_renamed (block : PhotoBlock) : (block.renamed f).isEmpty = block.isEmpty := by
  cases block <;> simp [renamed, mapLists, isEmpty, count]

theorem entries_renamed (block : PhotoBlock) : (block.renamed f).entries =
    block.entries.map fun (category, p) => (category, p.renamed f) := by
  cases block <;> simp [renamed, mapLists, entries, Function.comp_def]

end PhotoBlock

def Content.renamed (f : PhotoId → PhotoId) : Content → Content
  | .photos block => .photos (block.renamed f)
  | content => content

def Section.renamed (f : PhotoId → PhotoId) (s : Section) : Section :=
  { s with content := s.content.renamed f }

theorem Content.isBlank_renamed (content : Content) :
    (content.renamed f).isBlank = content.isBlank := by
  cases content with
  | photos block => exact block.isEmpty_renamed
  | _ => rfl

namespace Body

def renamed (f : PhotoId → PhotoId) (b : Body) : Body :=
  { b with sections := b.sections.map (Section.renamed f) }

variable {b : Body}

theorem Split.renamed {id : SectionId} {pre post : List Section} {s : Section}
    (h : b.Split id pre s post) :
    (b.renamed f).Split id (pre.map (Section.renamed f)) (s.renamed f)
      (post.map (Section.renamed f)) where
  sections_eq := by simp [Body.renamed, h.sections_eq]
  id_eq := h.id_eq
  pre_ne := by
    intro t member
    obtain ⟨t, before, rfl⟩ := List.mem_map.mp member
    exact h.pre_ne t before

theorem stagedPhotos_renamed (f : PhotoId → PhotoId) (b : Body) :
    (b.renamed f).stagedPhotos = b.stagedPhotos.map fun (list, id) => (list, f id) := by
  rw [stagedPhotos, stagedPhotos, Body.renamed, List.flatMap_map, List.map_flatMap]
  refine List.flatMap_congr fun s _ => ?_
  obtain ⟨id, content⟩ := s
  cases content with
  | photos block =>
      simp only [Section.renamed, Content.renamed, PhotoBlock.entries_renamed, List.filterMap_map,
        List.map_filterMap]
      refine List.filterMap_congr fun entry _ => ?_
      obtain ⟨category, photo⟩ := entry
      cases photo <;> rfl
  | _ => rfl

/-! ### Edits -/

theorem push_renamed (f : PhotoId → PhotoId) (b : Body) (content : Content) :
    ((b.renamed f).push (content.renamed f)).1 = (b.push content).1.renamed f := by
  simp [push, Body.renamed, Section.renamed, nextId]

theorem patched_renamed {id : SectionId} {content after : Content} {patch : SectionPatch}
    (h : patched id content patch = .ok after) :
    patched id (content.renamed f) patch = .ok (after.renamed f) := by
  cases content with
  | photos block =>
      cases patch with
      | layout layout =>
          simp only [patched] at h
          simp only [patched, Content.renamed, PhotoBlock.renamed, PhotoBlock.layout_mapLists]
          split at h
          · rename_i same
            cases h
            rw [if_pos same]
          · rename_i differs
            rw [if_neg differs]
            split at h
            · rename_i none
              cases h
              have still : (block.renamed f).isEmpty = true := block.isEmpty_renamed.trans none
              rw [PhotoBlock.renamed] at still
              rw [if_pos still]
              cases layout <;> rfl
            · cases h
      | _ => cases h
  | _ =>
      cases patch <;> cases h
      rfl

theorem update_renamed {id : SectionId} {patch : SectionPatch} {r : Body × Change}
    (h : b.update id patch = .ok r) :
    (b.renamed f).update id patch = .ok (r.1.renamed f, r.2) := by
  obtain ⟨pre, s, post, content, split, accepted, rfl⟩ := update_eq_ok_iff.mp h
  refine update_eq_ok_iff.mpr ⟨_, _, _, _, split.renamed, patched_renamed accepted, ?_⟩
  simp [Body.renamed, Section.renamed]

theorem photos_renamed {list : PhotoList} {photos : List PhotoRef}
    (h : b.photos list = .ok photos) :
    (b.renamed f).photos list = .ok (photos.map (PhotoRef.renamed f)) := by
  obtain ⟨s, block, found, content, there⟩ := photos_eq_ok_iff.mp h
  obtain ⟨pre, post, split⟩ := exists_split_of_find? found
  refine photos_eq_ok_iff.mpr ⟨s.renamed f, block.renamed f, split.renamed.find?, ?_, ?_⟩
  · simp [Section.renamed, content, Content.renamed]
  · rw [PhotoBlock.photos?_renamed, there]
    rfl

theorem setPhotos_renamed {list : PhotoList} {old : List PhotoRef} (h : b.photos list = .ok old)
    (photos : List PhotoRef) :
    (b.renamed f).setPhotos list (photos.map (PhotoRef.renamed f)) =
      (b.setPhotos list photos).renamed f := by
  obtain ⟨s, block, found, content, -⟩ := photos_eq_ok_iff.mp h
  obtain ⟨pre, post, split⟩ := exists_split_of_find? found
  have content' : (s.renamed f).content = .photos (block.renamed f) := by
    simp [Section.renamed, content, Content.renamed]
  rw [split.setPhotos content, split.renamed.setPhotos content', PhotoBlock.setPhotos_renamed]
  simp [Body.renamed, Section.renamed, Content.renamed]

theorem conflict?_renamed (apart : Function.Injective f) {photo : PhotoRef} {category : Category}
    (h : b.conflict? photo category none = none) :
    (b.renamed f).conflict? (photo.renamed f) category none = none := by
  rw [conflict?_eq_none_iff] at h ⊢
  intro id same list staged other
  cases photo with
  | resolved url => cases same
  | staged photo =>
      cases same
      rw [stagedPhotos_renamed, List.mem_map] at staged
      obtain ⟨⟨l, x⟩, member, renamed⟩ := staged
      obtain ⟨rfl, same⟩ := Prod.mk.inj renamed
      exact h photo rfl l (apart same ▸ member) other

theorem attach_renamed (apart : Function.Injective f) {list : PhotoList} {photo : PhotoRef}
    {r : Body × Option Change} (h : b.attach list photo = .ok r) :
    (b.renamed f).attach list (photo.renamed f) = .ok (r.1.renamed f, r.2) := by
  obtain ⟨photos, known, free, rfl⟩ := attach_eq_ok_iff.mp h
  refine attach_eq_ok_iff.mpr ⟨_, photos_renamed known, conflict?_renamed apart free, ?_⟩
  have member : photo.renamed f ∈ photos.map (PhotoRef.renamed f) ↔ photo ∈ photos :=
    List.mem_map_of_injective (PhotoRef.renamed_injective apart)
  by_cases there : photo ∈ photos
  · rw [if_pos there, if_pos (member.mpr there)]
  · rw [if_neg there, if_neg (member.not.mpr there), ← setPhotos_renamed known, List.map_append]
    rfl

end Body

/-! ### Sending -/

theorem validate_renamed (f : PhotoId → PhotoId) (header : Header) (b : Body) :
    validate header (b.renamed f) = validate header b := by
  have blank : (b.renamed f).sections.all (·.content.isBlank) =
      b.sections.all (·.content.isBlank) := by
    rw [Body.renamed, List.all_map]
    congr 1
    funext s
    exact s.content.isBlank_renamed
  unfold validate
  rw [blank]

namespace Submission

def Job.renamed (f : PhotoId → PhotoId) (job : Job) : Job := { job with photo := f job.photo }

theorem firstUses_renamed (apart : Function.Injective f) (uses : List Job) :
    firstUses (uses.map (Job.renamed f)) = (firstUses uses).map (Job.renamed f) := by
  induction uses with
  | nil => rfl
  | cons job rest ih =>
      rw [List.map_cons, firstUses, firstUses, List.map_cons, ih, List.filter_map]
      congr 2
      refine List.filter_congr fun other _ => ?_
      simp [Job.renamed, apart.eq_iff]

theorem jobs_renamed (apart : Function.Injective f) (b : Body) :
    jobs (b.renamed f) = (jobs b).map (Job.renamed f) := by
  rw [jobs, jobs, Body.stagedPhotos_renamed, ← firstUses_renamed apart, List.map_map, List.map_map]
  rfl

end Submission

end SiteReport
