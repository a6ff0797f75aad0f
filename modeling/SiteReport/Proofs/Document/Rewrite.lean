import SiteReport.Proofs.Document.Lists
import Mathlib.Data.List.Nodup

/-!
Rewriting the photos of a document after a report was sent: dropped photos go, uploaded ones become
addresses, and of equal photos in a list the first one stays. Nothing but the photos changes, and
every list is rewritten by itself.
-/

namespace SiteReport

namespace Body

/-! ### The first ones -/

section Firsts

variable {α β : Type} [DecidableEq α]

@[simp] theorem mem_firsts {x : α} {xs : List α} : x ∈ firsts xs ↔ x ∈ xs := by
  induction xs with
  | nil => simp [firsts]
  | cons y rest ih =>
      by_cases same : x = y
      · simp [firsts, same]
      · simp [firsts, same, ih]

theorem nodup_firsts (xs : List α) : (firsts xs).Nodup := by
  induction xs with
  | nil => exact List.nodup_nil
  | cons x rest ih =>
      rw [firsts, List.nodup_cons]
      exact ⟨by simp, ih.filter _⟩

theorem firsts_of_nodup {xs : List α} (h : xs.Nodup) : firsts xs = xs := by
  induction xs with
  | nil => rfl
  | cons x rest ih =>
      obtain ⟨fresh, distinct⟩ := List.nodup_cons.mp h
      rw [firsts, ih distinct, List.filter_eq_self.mpr]
      intro y hy
      simpa using fun same : y = x => fresh (same ▸ hy)

theorem firsts_eq_self_iff {xs : List α} : firsts xs = xs ↔ xs.Nodup :=
  ⟨fun h => h ▸ nodup_firsts xs, firsts_of_nodup⟩

theorem firsts_filter (p : α → Bool) (xs : List α) :
    firsts (xs.filter p) = (firsts xs).filter p := by
  induction xs with
  | nil => rfl
  | cons x rest ih =>
      cases hp : p x with
      | true =>
          simp only [List.filter_cons, hp, if_true, firsts, ih, List.filter_filter, Bool.and_comm]
      | false =>
          have absent : ∀ y ∈ (firsts rest).filter p, decide (y ≠ x) = true := by
            intro y hy
            have hpy := (List.mem_filter.mp hy).2
            simpa using fun same : y = x => by simp [same, hp] at hpy
          rw [List.filter_cons, hp, if_neg (by simp), ih, firsts, List.filter_cons, hp,
            if_neg (by simp), List.filter_filter, ← List.filter_eq_self.mpr absent]
          simp only [List.filter_filter, Bool.and_comm]

/-- An element may go before what becomes of it goes. -/
theorem filter_filterMap_filter_ne {f : α → Option β} {p : β → Bool} {x : α}
    (goes : (f x).filter p = none) (xs : List α) :
    ((xs.filter (· ≠ x)).filterMap f).filter p = (xs.filterMap f).filter p := by
  simp only [List.filter_filterMap, List.filterMap_filter]
  refine List.filterMap_congr fun y _ => ?_
  by_cases same : y = x
  · simp [same, goes]
  · simp [same]

/-- Repeats may go before anything becomes of them. -/
theorem firsts_filterMap_firsts [DecidableEq β] (f : α → Option β) (xs : List α) :
    firsts ((firsts xs).filterMap f) = firsts (xs.filterMap f) := by
  induction xs with
  | nil => rfl
  | cons x rest ih =>
      cases image : f x with
      | none =>
          have goes : (f x).filter (fun _ => true) = none := by rw [image, Option.filter_none]
          have once := filter_filterMap_filter_ne goes (firsts rest)
          rw [List.filter_true, List.filter_true] at once
          rw [firsts, List.filterMap_cons_none image, List.filterMap_cons_none image, once, ih]
      | some u =>
          have goes : (f x).filter (· ≠ u) = none := by simp [image]
          have once := filter_filterMap_filter_ne goes (firsts rest)
          rw [firsts, List.filterMap_cons_some image, List.filterMap_cons_some image, firsts,
            firsts, ← ih, ← firsts_filter, once, firsts_filter]

/-- The first ones of images are the images of the first ones, if no two have the same image. -/
theorem firsts_filterMap [DecidableEq β] {g : α → Option β}
    (apart : ∀ x y u, g x = some u → g y = some u → x = y) (xs : List α) :
    firsts (xs.filterMap g) = (firsts xs).filterMap g := by
  rw [← firsts_filterMap_firsts]
  exact firsts_of_nodup ((nodup_firsts xs).filterMap apart)

theorem firsts_eq_eraseDups (xs : List α) : firsts xs = xs.eraseDups := by
  induction h : xs.length using Nat.strongRecOn generalizing xs with
  | ind n ih =>
      cases xs with
      | nil => rfl
      | cons x rest =>
          have shorter : (rest.filter fun y => !y == x).length < n := by
            rw [← h, List.length_cons]
            exact Nat.lt_succ_of_le (List.length_filter_le _ _)
          rw [List.eraseDups_cons, ← ih _ shorter _ rfl, firsts, firsts_filter]
          congr 2
          funext y
          by_cases same : y = x <;> simp [same]

end Firsts

/-! ### What becomes of a list -/

/-- Is the photo still shown after the report was sent? -/
def Resolution.keeps (r : Resolution) : PhotoRef → Bool
  | .resolved _ => true
  | .staged id => !r.dropped.contains id

/-- The photo with its address, if it has come to one. -/
def Resolution.replaced (r : Resolution) : PhotoRef → PhotoRef
  | .resolved url => .resolved url
  | .staged id => ((r.resolved.lookup id).map .resolved).getD (.staged id)

/-- Dropped photos go, resolved ones become addresses, and later duplicates go. -/
theorem resolution_apply_eq (r : Resolution) (photos : List PhotoRef) :
    Resolution.apply r photos =
      ((photos.filter (Resolution.keeps r)).map (Resolution.replaced r)).eraseDups := by
  have image : ∀ p, Resolution.image r p =
      if Resolution.keeps r p then some (Resolution.replaced r p) else none := by
    intro p
    cases p with
    | resolved url => rfl
    | staged id =>
        by_cases dropped : id ∈ r.dropped
        · simp [Resolution.image, Resolution.keeps, dropped]
        · cases found : r.resolved.lookup id <;>
            simp [Resolution.image, Resolution.keeps, Resolution.replaced, dropped, found]
  rw [Resolution.apply, firsts_eq_eraseDups]
  congr 1
  induction photos with
  | nil => rfl
  | cons p rest ih =>
      have head := image p
      cases kept : Resolution.keeps r p <;> simp [head, kept, ih]

theorem nodup_resolution_apply (r : Resolution) (photos : List PhotoRef) :
    (Resolution.apply r photos).Nodup := nodup_firsts _

/-- Only staged photos that are neither dropped nor resolved stay staged. -/
theorem staged_mem_resolution_apply {r : Resolution} {photos : List PhotoRef} {photo : PhotoId} :
    PhotoRef.staged photo ∈ Resolution.apply r photos ↔
      PhotoRef.staged photo ∈ photos ∧ photo ∉ r.dropped ∧ r.resolved.lookup photo = none := by
  have image : ∀ p, Resolution.image r p = some (.staged photo) ↔
      p = .staged photo ∧ photo ∉ r.dropped ∧ r.resolved.lookup photo = none := by
    intro p
    cases p with
    | resolved url => simp [Resolution.image]
    | staged id =>
        by_cases dropped : id ∈ r.dropped
        · simp only [Resolution.image, List.contains_iff_mem, dropped, if_true, reduceCtorEq,
            PhotoRef.staged.injEq, false_iff, not_and]
          rintro rfl absent
          exact absurd dropped absent
        · cases found : r.resolved.lookup id with
          | none =>
              simp only [Resolution.image, List.contains_iff_mem, dropped, if_false, found,
                Option.some.injEq, PhotoRef.staged.injEq]
              constructor
              · rintro rfl
                exact ⟨rfl, dropped, found⟩
              · exact fun h => h.1
          | some url =>
              simp only [Resolution.image, List.contains_iff_mem, dropped, if_false, found,
                Option.some.injEq, reduceCtorEq, PhotoRef.staged.injEq, false_iff, not_and]
              rintro rfl _
              simp [found]
  simp only [Resolution.apply, mem_firsts, List.mem_filterMap, image]
  constructor
  · rintro ⟨p, hp, rfl, rest⟩
    exact ⟨hp, rest⟩
  · rintro ⟨hp, rest⟩
    exact ⟨_, hp, rfl, rest⟩

/-! ### What becomes of a document -/

/-- The content with its photo lists rewritten. -/
def resolveContent (r : Resolution) : Content → Content
  | .photos block => .photos (block.mapLists (Resolution.apply r))
  | c => c

theorem sections_resolve (b : Body) (r : Resolution) : (b.resolve r).1.sections =
    b.sections.map fun s => { s with content := resolveContent r s.content } := by
  unfold Body.resolve
  congr 1

@[simp] theorem counter_resolve (b : Body) (r : Resolution) :
    (b.resolve r).1.counter = b.counter := rfl

@[simp] theorem ids_resolve (b : Body) (r : Resolution) : (b.resolve r).1.ids = b.ids := by
  simp [Body.ids, sections_resolve]

/-- Identifiers, kinds, names, texts and layouts stay as they are. -/
theorem withoutPhotos_resolve (b : Body) (r : Resolution) :
    (b.resolve r).1.sections.map (fun s => (s.id, s.content.withoutPhotos)) =
      b.sections.map fun s => (s.id, s.content.withoutPhotos) := by
  rw [sections_resolve, List.map_map]
  apply List.map_congr_left
  rintro ⟨id, content⟩ _
  cases content <;> simp [resolveContent, Content.withoutPhotos, PhotoBlock.emptied]

theorem lists_resolve (b : Body) (r : Resolution) :
    (b.resolve r).1.lists =
      b.lists.map fun (list, photos) => (list, Resolution.apply r photos) := by
  rw [Body.lists, Body.lists, sections_resolve, List.flatMap_map, List.map_flatMap]
  apply List.flatMap_congr
  rintro ⟨id, content⟩ _
  cases content <;> simp [resolveContent, Section.lists, PhotoBlock.lists_mapLists]

theorem mem_lists_resolve {b : Body} {r : Resolution} {list : PhotoList} {ps : List PhotoRef} :
    (list, ps) ∈ (b.resolve r).1.lists ↔
      ∃ photos, (list, photos) ∈ b.lists ∧ Resolution.apply r photos = ps := by
  rw [lists_resolve, List.mem_map]
  constructor
  · rintro ⟨⟨l, photos⟩, member, same⟩
    obtain ⟨rfl, rfl⟩ := Prod.mk.inj same
    exact ⟨photos, member, rfl⟩
  · rintro ⟨photos, member, rfl⟩
    exact ⟨(list, photos), member, rfl⟩

end Body

end SiteReport
