import SiteReport.Proofs.Document.Split

/-!
The photo lists of a document: every list of every block with its photos, in document order. The
lists are the view through which edits of photos are compared. The view keeps lists of sections
that share an identifier apart; an edit reaches only the first of them.
-/

namespace SiteReport

namespace PhotoBlock

/-- The lists of the block with their photos, in display order. -/
def lists : PhotoBlock → List (Category × List PhotoRef)
  | .beforeAfter before after => [(.before, before), (.after, after)]
  | .completed finished => [(.completed, finished)]

theorem photos?_eq_some_iff {block : PhotoBlock} {category : Category} {photos : List PhotoRef} :
    block.photos? category = some photos ↔ (category, photos) ∈ block.lists := by
  cases block <;> cases category <;> simp [photos?, lists, eq_comm]

theorem entries_eq (block : PhotoBlock) :
    block.entries = block.lists.flatMap fun (category, photos) =>
      photos.map fun p => (category, p) := by
  cases block <;> simp [entries, lists]

theorem mem_entries_iff {block : PhotoBlock} {category : Category} {p : PhotoRef} :
    (category, p) ∈ block.entries ↔ ∃ photos, block.photos? category = some photos ∧ p ∈ photos := by
  cases block <;> cases category <;> simp [photos?, entries]

theorem isEmpty_eq_false_iff {block : PhotoBlock} :
    block.isEmpty = false ↔ block.entries ≠ [] := by
  cases block <;> simp [isEmpty, count, entries]

theorem mem_lists_setPhotos {block : PhotoBlock} {category c : Category}
    {old photos ps : List PhotoRef} (h : block.photos? category = some old) :
    (c, ps) ∈ (block.setPhotos category photos).lists ↔
      if c = category then ps = photos else (c, ps) ∈ block.lists := by
  cases block <;> cases category <;> simp [photos?] at h <;> cases c <;> simp [setPhotos, lists]

theorem setPhotos_photos? {block : PhotoBlock} {category : Category} {photos : List PhotoRef}
    (h : block.photos? category = some photos) : block.setPhotos category photos = block := by
  cases block <;> cases category <;> simp [photos?] at h <;> simp [setPhotos, h]

theorem lists_mapLists (f : List PhotoRef → List PhotoRef) (block : PhotoBlock) :
    (block.mapLists f).lists = block.lists.map fun (category, photos) => (category, f photos) := by
  cases block <;> rfl

@[simp] theorem layout_mapLists (f : List PhotoRef → List PhotoRef) (block : PhotoBlock) :
    (block.mapLists f).layout = block.layout := by
  cases block <;> rfl

theorem eq_nil_of_mem_lists_empty {layout : Layout} {category : Category}
    {photos : List PhotoRef} (h : (category, photos) ∈ (empty layout).lists) : photos = [] := by
  cases layout <;> simp [empty, lists] at h
  · rcases h with ⟨_, rfl⟩ | ⟨_, rfl⟩ <;> rfl
  · exact h.2

end PhotoBlock

@[simp] theorem Content.withoutPhotos_withoutPhotos (content : Content) :
    content.withoutPhotos.withoutPhotos = content.withoutPhotos := by
  cases content with
  | photos block => cases block <;> rfl
  | checklistItem name => rfl
  | comment text => rfl
  | workDescription text => rfl

/-- The photo lists of a section; only a block has any. -/
def Section.lists (s : Section) : List (PhotoList × List PhotoRef) :=
  match s.content with
  | .photos block => block.lists.map fun (category, photos) => (⟨s.id, category⟩, photos)
  | _ => []

namespace Section

theorem mem_lists_iff {s : Section} {list : PhotoList} {photos : List PhotoRef} :
    (list, photos) ∈ s.lists ↔
      s.id = list.block ∧ ∃ block, s.content = .photos block ∧
        block.photos? list.category = some photos := by
  unfold lists
  cases hc : s.content with
  | photos block =>
      obtain ⟨id, category⟩ := list
      simp [PhotoBlock.photos?_eq_some_iff]
      grind
  | checklistItem name => simp
  | comment text => simp
  | workDescription text => simp

theorem mem_lists_setPhotos {s : Section} {block : PhotoBlock} (hc : s.content = .photos block)
    {category : Category} {l : PhotoList} {old photos ps : List PhotoRef}
    (hp : block.photos? category = some old) :
    (l, ps) ∈ Section.lists { s with content := .photos (block.setPhotos category photos) } ↔
      if l = ⟨s.id, category⟩ then ps = photos else (l, ps) ∈ s.lists := by
  obtain ⟨id, c⟩ := l
  simp only [mem_lists_iff, hc, Content.photos.injEq, exists_eq_left',
    PhotoBlock.photos?_eq_some_iff, PhotoBlock.mem_lists_setPhotos hp, PhotoList.mk.injEq]
  by_cases block_eq : s.id = id
  · simp [block_eq]
  · simp [block_eq, Ne.symm block_eq]

/-- A section without photos has empty lists only. -/
theorem eq_nil_of_mem_lists {s : Section} (h : s.content.withoutPhotos = s.content)
    {list : PhotoList} {photos : List PhotoRef} (member : (list, photos) ∈ s.lists) :
    photos = [] := by
  obtain ⟨-, block, hc, hp⟩ := mem_lists_iff.mp member
  rw [hc] at h
  have emptied : block.emptied = block := by simpa [Content.withoutPhotos] using h
  rw [← emptied] at hp
  exact PhotoBlock.eq_nil_of_mem_lists_empty (PhotoBlock.photos?_eq_some_iff.mp hp)

end Section

namespace Body

/-- Every photo list of the document with its photos, in document order. -/
def lists (b : Body) : List (PhotoList × List PhotoRef) := b.sections.flatMap Section.lists

theorem mem_lists_iff {b : Body} {entry : PhotoList × List PhotoRef} :
    entry ∈ b.lists ↔ ∃ s ∈ b.sections, entry ∈ s.lists := by
  simp [lists, List.mem_flatMap]

/-- A staged photo stands in a block, under the category of its list. -/
theorem mem_stagedPhotos_iff_entries {b : Body} {list : PhotoList} {photo : PhotoId} :
    (list, photo) ∈ b.stagedPhotos ↔
      ∃ s ∈ b.sections, s.id = list.block ∧
        ∃ block, s.content = .photos block ∧ (list.category, .staged photo) ∈ block.entries := by
  have staged : ∀ p : PhotoRef, p.stagedId? = some photo ↔ p = .staged photo := by
    intro p
    cases p <;> simp [PhotoRef.stagedId?]
  obtain ⟨id, category⟩ := list
  rw [stagedPhotos, List.mem_flatMap]
  refine exists_congr fun s => and_congr_right fun _ => ?_
  cases hc : s.content with
  | photos block =>
      simp only [List.mem_filterMap, Option.map_eq_some_iff, Prod.mk.injEq, PhotoList.mk.injEq,
        Content.photos.injEq, exists_eq_left']
      constructor
      · rintro ⟨⟨c, p⟩, member, i, found, ⟨same, rfl⟩, rfl⟩
        exact ⟨same, (staged p).mp found ▸ member⟩
      · rintro ⟨same, member⟩
        exact ⟨_, member, photo, rfl, ⟨same, rfl⟩, rfl⟩
  | checklistItem name => simp
  | comment text => simp
  | workDescription text => simp

/-- The staged photos are those that the lists hold. -/
theorem mem_stagedPhotos_iff {b : Body} {list : PhotoList} {photo : PhotoId} :
    (list, photo) ∈ b.stagedPhotos ↔
      ∃ photos, (list, photos) ∈ b.lists ∧ .staged photo ∈ photos := by
  simp only [mem_stagedPhotos_iff_entries, PhotoBlock.mem_entries_iff, mem_lists_iff,
    Section.mem_lists_iff]
  constructor
  · rintro ⟨s, hs, hid, block, hc, photos, hp, inside⟩
    exact ⟨photos, ⟨s, hs, hid, block, hc, hp⟩, inside⟩
  · rintro ⟨photos, ⟨s, hs, hid, block, hc, hp⟩, inside⟩
    exact ⟨s, hs, hid, block, hc, photos, hp, inside⟩

/-! ### Looking a list up -/

theorem photos_eq_ok_iff {b : Body} {list : PhotoList} {photos : List PhotoRef} :
    b.photos list = .ok photos ↔
      ∃ s block, b.find? list.block = some s ∧ s.content = .photos block ∧
        block.photos? list.category = some photos := by
  unfold Body.photos
  cases hf : b.find? list.block with
  | none => simp
  | some s =>
      cases hc : s.content with
      | photos block =>
          cases hp : block.photos? list.category <;> simp [hc, hp, Content.block?]
      | checklistItem name => simp [hc, Content.block?]
      | comment text => simp [hc, Content.block?]
      | workDescription text => simp [hc, Content.block?]

theorem mem_lists_of_photos {b : Body} {list : PhotoList} {photos : List PhotoRef}
    (h : b.photos list = .ok photos) : (list, photos) ∈ b.lists := by
  obtain ⟨s, block, hf, hc, hp⟩ := photos_eq_ok_iff.mp h
  obtain ⟨pre, post, split⟩ := exists_split_of_find? hf
  exact mem_lists_iff.mpr ⟨s, split.mem, Section.mem_lists_iff.mpr ⟨split.id_eq, block, hc, hp⟩⟩

/-- With distinct identifiers each list is found by its name. -/
theorem photos_of_mem_lists {b : Body} (distinct : b.ids.Nodup) {list : PhotoList}
    {photos : List PhotoRef} (h : (list, photos) ∈ b.lists) : b.photos list = .ok photos := by
  obtain ⟨s, hs, hl⟩ := mem_lists_iff.mp h
  obtain ⟨hid, block, hc, hp⟩ := Section.mem_lists_iff.mp hl
  exact photos_eq_ok_iff.mpr ⟨s, block, hid ▸ find?_of_mem distinct hs, hc, hp⟩

/-! ### Replacing a list -/

theorem Split.setPhotos {b : Body} {list : PhotoList} {pre post : List Section} {s : Section}
    (h : b.Split list.block pre s post) {block : PhotoBlock} (hc : s.content = .photos block)
    (photos : List PhotoRef) :
    b.setPhotos list photos =
      { b with sections :=
          pre ++ { s with content := .photos (block.setPhotos list.category photos) } :: post } := by
  simp [Body.setPhotos, h.find?, hc, Content.block?, h.setContent]

@[simp] theorem ids_setPhotos (b : Body) (list : PhotoList) (photos : List PhotoRef) :
    (b.setPhotos list photos).ids = b.ids := by
  unfold Body.setPhotos
  split <;> simp

@[simp] theorem counter_setPhotos (b : Body) (list : PhotoList) (photos : List PhotoRef) :
    (b.setPhotos list photos).counter = b.counter := by
  unfold Body.setPhotos
  split <;> simp

/-- Replacing a list by itself changes nothing. -/
theorem setPhotos_photos {b : Body} {list : PhotoList} {photos : List PhotoRef}
    (h : b.photos list = .ok photos) : b.setPhotos list photos = b := by
  obtain ⟨s, block, hf, hc, hp⟩ := photos_eq_ok_iff.mp h
  obtain ⟨pre, post, split⟩ := exists_split_of_find? hf
  rw [split.setPhotos hc, PhotoBlock.setPhotos_photos? hp, ← hc, ← split.sections_eq]

/-- Of two writes to one list the last one stays. -/
theorem setPhotos_setPhotos {b : Body} {list : PhotoList} {old : List PhotoRef}
    (known : b.photos list = .ok old) (photos photos' : List PhotoRef) :
    (b.setPhotos list photos).setPhotos list photos' = b.setPhotos list photos' := by
  obtain ⟨s, block, found, content, listed⟩ := photos_eq_ok_iff.mp known
  obtain ⟨pre, post, split⟩ := exists_split_of_find? found
  have again : Split (b.setPhotos list photos) list.block pre
      { s with content := .photos (block.setPhotos list.category photos) } post := by
    refine ⟨?_, split.id_eq, split.pre_ne⟩
    rw [split.setPhotos content]
  have twice : (block.setPhotos list.category photos).setPhotos list.category photos' =
      block.setPhotos list.category photos' := by
    cases block <;> cases list.category <;> rfl
  rw [again.setPhotos rfl, twice, counter_setPhotos, split.setPhotos content]

/-- What a replaced list leaves: the new photos there, and every other list as it was. -/
theorem mem_lists_setPhotos {b : Body} (distinct : b.ids.Nodup) {list l : PhotoList}
    {old photos ps : List PhotoRef} (h : b.photos list = .ok old) :
    (l, ps) ∈ (b.setPhotos list photos).lists ↔
      if l = list then ps = photos else (l, ps) ∈ b.lists := by
  obtain ⟨s, block, hf, hc, hp⟩ := photos_eq_ok_iff.mp h
  obtain ⟨pre, post, split⟩ := exists_split_of_find? hf
  have foreign : ∀ t, t ∈ pre ∨ t ∈ post → (l, ps) ∈ t.lists → l ≠ list := by
    rintro t ht member rfl
    obtain ⟨hid, -⟩ := Section.mem_lists_iff.mp member
    rcases ht with before | after
    · exact split.pre_ne t before hid
    · exact split.post_ne distinct t after hid
  have name : (⟨s.id, list.category⟩ : PhotoList) = list := by rw [split.id_eq]
  have here : (l, ps) ∈ Section.lists
        { s with content := .photos (block.setPhotos list.category photos) } ↔
      if l = list then ps = photos else (l, ps) ∈ s.lists := by
    rw [← name]
    exact Section.mem_lists_setPhotos hc hp
  simp only [split.setPhotos hc, mem_lists_iff, split.sections_eq, List.mem_append, List.mem_cons]
  by_cases same : l = list
  · rw [if_pos same] at here ⊢
    constructor
    · rintro ⟨t, ht | rfl | ht, member⟩
      · exact absurd same (foreign t (.inl ht) member)
      · exact here.mp member
      · exact absurd same (foreign t (.inr ht) member)
    · intro hps
      exact ⟨_, .inr (.inl rfl), here.mpr hps⟩
  · rw [if_neg same] at here ⊢
    constructor
    · rintro ⟨t, ht | rfl | ht, member⟩
      · exact ⟨t, .inl ht, member⟩
      · exact ⟨s, .inr (.inl rfl), here.mp member⟩
      · exact ⟨t, .inr (.inr ht), member⟩
    · rintro ⟨t, ht | rfl | ht, member⟩
      · exact ⟨t, .inl ht, member⟩
      · exact ⟨_, .inr (.inl rfl), here.mpr member⟩
      · exact ⟨t, .inr (.inr ht), member⟩

end Body

end SiteReport
