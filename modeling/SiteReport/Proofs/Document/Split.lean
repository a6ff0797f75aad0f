import SiteReport.Document.Body
import Mathlib.Data.List.Perm.Basic

/-!
A document cut at the first section with an identifier. Every edit of one section looks that
section up and changes it in its place, so that the two sides of the cut tell what the edit left
alone. The cut does not ask for identifiers to be distinct.
-/

namespace SiteReport

namespace Body

/-- The section with the identifier, between those before it and those after it. -/
structure Split (b : Body) (id : SectionId) (pre : List Section) (s : Section)
    (post : List Section) : Prop where
  sections_eq : b.sections = pre ++ s :: post
  id_eq : s.id = id
  pre_ne : ∀ t ∈ pre, t.id ≠ id

theorem exists_split_of_find? {b : Body} {id : SectionId} {s : Section}
    (h : b.find? id = some s) : ∃ pre post, b.Split id pre s post := by
  obtain ⟨hid, pre, post, hs, hpre⟩ := List.find?_eq_some_iff_append.mp h
  refine ⟨pre, post, hs, by simpa using hid, ?_⟩
  intro t ht
  simpa using hpre t ht

/-- Every identifier of the document is that of some section, and is found. -/
theorem exists_split_of_mem_ids {b : Body} {id : SectionId} (h : id ∈ b.ids) :
    ∃ pre s post, b.Split id pre s post := by
  obtain ⟨s, hs, rfl⟩ := List.mem_map.mp h
  cases hf : b.find? s.id with
  | none => exact absurd (beq_self_eq_true s.id) (List.find?_eq_none.mp hf s hs)
  | some t =>
      obtain ⟨pre, post, split⟩ := exists_split_of_find? hf
      exact ⟨pre, t, post, split⟩

namespace Split

variable {b : Body} {id : SectionId} {pre : List Section} {s : Section} {post : List Section}

theorem find? (h : b.Split id pre s post) : b.find? id = some s := by
  apply List.find?_eq_some_iff_append.mpr
  refine ⟨by simpa using h.id_eq, pre, post, h.sections_eq, ?_⟩
  intro t ht
  simpa using h.pre_ne t ht

theorem indexOf? (h : b.Split id pre s post) : b.indexOf? id = some pre.length := by
  have hpre : pre.findIdx? (·.id == id) = none := by
    rw [List.findIdx?_eq_none_iff]
    intro t ht
    simpa using h.pre_ne t ht
  simp [Body.indexOf?, h.sections_eq, List.findIdx?_append, List.findIdx?_cons, hpre, h.id_eq]

theorem mem (h : b.Split id pre s post) : s ∈ b.sections := by
  rw [h.sections_eq]
  simp

theorem setContent (h : b.Split id pre s post) (content : Content) :
    b.setContent id content = { b with sections := pre ++ { s with content } :: post } := by
  simp only [Body.setContent, h.indexOf?, h.sections_eq]
  rw [List.modify_eq_take_cons_drop (by simp)]
  simp

theorem eraseIdx (h : b.Split id pre s post) :
    b.sections.eraseIdx pre.length = pre ++ post := by
  rw [h.sections_eq, List.eraseIdx_append_of_length_le (Nat.le_refl _)]
  simp

theorem eraseP (h : b.Split id pre s post) :
    b.sections.eraseP (·.id == id) = pre ++ post := by
  rw [h.sections_eq, List.eraseP_append_right _ (by simpa using h.pre_ne),
    List.eraseP_cons_of_pos (by simpa using h.id_eq)]

theorem insertIdx (h : b.Split id pre s post) (copy : Section) :
    b.sections.insertIdx (pre.length + 1) copy = pre ++ s :: copy :: post := by
  rw [h.sections_eq]
  clear h
  induction pre with
  | nil => rfl
  | cons t pre ih => simpa using ih

theorem ids (h : b.Split id pre s post) :
    b.ids = pre.map (·.id) ++ id :: post.map (·.id) := by
  simp [Body.ids, h.sections_eq, h.id_eq]

theorem getElem?_ids (h : b.Split id pre s post) : b.ids[pre.length]? = some id := by
  rw [h.ids, List.getElem?_append_right (by simp)]
  simp

/-- With distinct identifiers the section is the only one that has its own. -/
theorem post_ne (h : b.Split id pre s post) (distinct : b.ids.Nodup) :
    ∀ t ∈ post, t.id ≠ id := by
  rw [h.ids, List.nodup_append] at distinct
  have hid := (List.nodup_cons.mp distinct.2.1).1
  intro t ht same
  exact hid (List.mem_map.mpr ⟨t, ht, same⟩)

end Split

theorem find?_eq_none_iff_indexOf? {b : Body} {id : SectionId} :
    b.find? id = none ↔ b.indexOf? id = none := by
  simp [Body.find?, Body.indexOf?, List.find?_eq_none, List.findIdx?_eq_none_iff]

theorem exists_split_of_indexOf? {b : Body} {id : SectionId} {i : Nat}
    (h : b.indexOf? id = some i) : ∃ pre s post, b.Split id pre s post ∧ i = pre.length := by
  cases hf : b.find? id with
  | none => simp [find?_eq_none_iff_indexOf?.mp hf] at h
  | some s =>
      obtain ⟨pre, post, split⟩ := exists_split_of_find? hf
      rw [split.indexOf?] at h
      exact ⟨pre, s, post, split, (Option.some.inj h).symm⟩

/-- With distinct identifiers every section is found by its own. -/
theorem find?_of_mem {b : Body} (distinct : b.ids.Nodup) {s : Section} (h : s ∈ b.sections) :
    b.find? s.id = some s := by
  cases hf : b.find? s.id with
  | none => simpa using List.find?_eq_none.mp hf s h
  | some t =>
      obtain ⟨pre, post, split⟩ := exists_split_of_find? hf
      have hs : s ∈ pre ++ t :: post := split.sections_eq ▸ h
      rcases List.mem_append.mp hs with before | rest
      · exact absurd rfl (split.pre_ne s before)
      · rcases List.mem_cons.mp rest with rfl | after
        · rfl
        · exact absurd rfl (split.post_ne distinct s after)

theorem setContent_of_find?_eq_none {b : Body} {id : SectionId} (h : b.find? id = none)
    (content : Content) : b.setContent id content = b := by
  simp [Body.setContent, find?_eq_none_iff_indexOf?.mp h]

@[simp] theorem ids_setContent (b : Body) (id : SectionId) (content : Content) :
    (b.setContent id content).ids = b.ids := by
  cases hf : b.find? id with
  | none => rw [setContent_of_find?_eq_none hf]
  | some s =>
      obtain ⟨pre, post, split⟩ := exists_split_of_find? hf
      simp [split.setContent, Body.ids, split.sections_eq]

@[simp] theorem counter_setContent (b : Body) (id : SectionId) (content : Content) :
    (b.setContent id content).counter = b.counter := by
  unfold Body.setContent
  split <;> rfl

/-! ### Moving an item -/

theorem moveItem_self {α : Type} (items : List α) (i : Nat) : moveItem items i i = items := by
  unfold moveItem
  cases h : items[i]? with
  | none => rfl
  | some item =>
      obtain ⟨hi, rfl⟩ := List.getElem?_eq_some_iff.mp h
      exact List.insertIdx_eraseIdx_getElem hi

theorem map_moveItem {α β : Type} (f : α → β) (items : List α) (start stop : Nat) :
    (moveItem items start stop).map f = moveItem (items.map f) start stop := by
  unfold moveItem
  rw [List.getElem?_map]
  cases items[start]? with
  | none => rfl
  | some item => simp only [Option.map_some, List.map_insertIdx, List.eraseIdx_map]

/-- A move to a place inside the list loses nothing and repeats nothing. -/
theorem moveItem_perm {α : Type} {items : List α} (start : Nat) {stop : Nat}
    (h : stop < items.length) : (moveItem items start stop).Perm items := by
  unfold moveItem
  cases hs : items[start]? with
  | none => exact List.Perm.refl _
  | some item =>
      obtain ⟨hi, rfl⟩ := List.getElem?_eq_some_iff.mp hs
      have inside : stop ≤ (items.eraseIdx start).length := by
        rw [List.length_eraseIdx_of_lt hi]
        omega
      exact (List.perm_insertIdx _ _ inside).trans (List.getElem_cons_eraseIdx_perm hi)

/-- An item taken out of a list without repetitions is gone. -/
theorem not_mem_eraseIdx {α : Type} {items : List α} {i : Nat} {item : α}
    (distinct : items.Nodup) (h : items[i]? = some item) : item ∉ items.eraseIdx i := by
  obtain ⟨hi, rfl⟩ := List.getElem?_eq_some_iff.mp h
  have perm := List.getElem_cons_eraseIdx_perm hi
  exact (List.nodup_cons.mp (perm.nodup_iff.mpr distinct)).1

end Body

end SiteReport
