import SiteReport.Proofs.CommandLine.Staged
import SiteReport.Proofs.Document.Places
import SiteReport.Proofs.Document.Written
import Mathlib.Data.List.Induction

/-!
What a description lists, and the body that it makes. Whether a photo is taken depends on those
before it only through the categories that staged photos have so far; so what makes a description
acceptable is told of its list of photos, and the body grows along that list.
-/

namespace SiteReport

/-! ### What a description asks for -/

/-- The photo of the document that a described one stands for; a file has to be staged first. -/
def DescribedPhoto.ref? : DescribedPhoto → Option PhotoRef
  | .url address => some (.resolved address)
  | .staged id => some (.staged id)
  | .file _ => none

/-- A block with the photos that a function tells for each category. -/
def PhotoBlock.ofLists (photos : Category → List PhotoRef) : Layout → PhotoBlock
  | .beforeAfter => .beforeAfter (photos .before) (photos .after)
  | .completed => .completed (photos .completed)

namespace DescribedSection

/-- Every photo with the category that it is listed under, in the order of the description. -/
def entries : DescribedSection → List (Category × DescribedPhoto)
  | .photos _ lists => lists.flatMap fun (category, list) => list.map (category, ·)
  | _ => []

/-- The photos that are listed under a category, without later repetitions. -/
def listed (entries : List (Category × DescribedPhoto)) (category : Category) : List PhotoRef :=
  Body.firsts (entries.filterMap fun e => if e.1 = category then e.2.ref? else none)

/-- What the section holds once it is written. -/
def content : DescribedSection → Content
  | .checklistItem name => .checklistItem name
  | .photos layout lists => .photos (.ofLists (listed (entries (.photos layout lists))) layout)
  | .comment text => .comment text
  | .workDescription text => .workDescription text

theorem mem_entries_photos {layout : Layout} {lists : List (Category × List DescribedPhoto)}
    {category : Category} {photo : DescribedPhoto} :
    (category, photo) ∈ (photos layout lists).entries ↔
      ∃ list, (category, list) ∈ lists ∧ photo ∈ list := by
  simp only [entries, List.mem_flatMap, List.mem_map, Prod.mk.injEq, Prod.exists]
  constructor
  · rintro ⟨c, list, there, p, inside, rfl, rfl⟩
    exact ⟨list, there, inside⟩
  · rintro ⟨list, there, inside⟩
    exact ⟨category, list, there, photo, inside, rfl, rfl⟩

theorem listed_photos (layout : Layout) (lists : List (Category × List DescribedPhoto))
    (category : Category) :
    listed (photos layout lists).entries category = Body.firsts (lists.flatMap fun (c, list) =>
      if c = category then list.filterMap DescribedPhoto.ref? else []) := by
  unfold listed entries
  rw [List.filterMap_flatMap]
  congr 2
  funext ⟨c, list⟩
  rw [List.filterMap_map]
  by_cases same : c = category <;> simp [same]

/-- If every category has one list at most, then that list is what is shown under it. -/
theorem listed_of_mem {layout : Layout} {lists : List (Category × List DescribedPhoto)}
    (distinct : (lists.map Prod.fst).Nodup) {category : Category} {list : List DescribedPhoto}
    (member : (category, list) ∈ lists) :
    listed (photos layout lists).entries category =
      Body.firsts (list.filterMap DescribedPhoto.ref?) := by
  obtain ⟨before, after, rfl⟩ := List.append_of_mem member
  rw [List.map_append, List.map_cons, List.nodup_middle, List.nodup_cons] at distinct
  have foreign : ∀ e ∈ before ++ after, e.1 ≠ category := by
    rintro e there rfl
    rw [← List.map_append] at distinct
    exact distinct.1 (List.mem_map.mpr ⟨e, there, rfl⟩)
  have bare : ∀ part : List (Category × List DescribedPhoto), (∀ e ∈ part, e.1 ≠ category) →
      (part.flatMap fun (c, list) =>
        if c = category then list.filterMap DescribedPhoto.ref? else []) = [] := by
    intro part others
    exact List.flatMap_eq_nil_iff.mpr fun e there => if_neg (others e there)
  rw [listed_photos, List.flatMap_append, List.flatMap_cons,
    bare before fun e there => foreign e (List.mem_append_left _ there),
    bare after fun e there => foreign e (List.mem_append_right _ there)]
  simp

/-- The lists that are read from a map have one category each. -/
theorem distinct_of_listsOfJson {v : Json} {lists : List (Category × List DescribedPhoto)}
    (read : listsOfJson? v = some lists) : (lists.map Prod.fst).Nodup := by
  obtain ⟨members, -, rest⟩ := Option.bind_eq_some_iff.mp read
  obtain ⟨named, -, ordered⟩ := Option.bind_eq_some_iff.mp rest
  cases ordered
  have own : ∀ c d, d ∈ ((named.reverse.lookup c).map (c, ·)).map Prod.fst → c = d := by
    intro c d told
    obtain ⟨list, -, same⟩ := Option.map_eq_some_iff.mp ((Option.map_map ..).symm.trans told)
    exact same
  rw [List.map_filterMap]
  exact List.Nodup.filterMap (fun c c' d told told' => (own c d told).trans (own c' d told').symm)
    (by decide)

/-- So have those of a block that is read. -/
theorem distinct_of_ofJson? {place : Json.Place} {v : Json} {layout : Layout}
    {lists : List (Category × List DescribedPhoto)}
    (read : ofJson? place v = some (.photos layout lists)) : (lists.map Prod.fst).Nodup := by
  have worded : ∀ {make : String → DescribedSection} {name : String} {rest : Json},
      ofText? make name rest = some (.photos layout lists) → ∃ text, make text = .photos layout lists := by
    intro make name rest told
    obtain ⟨fields, -, told⟩ := Option.bind_eq_some_iff.mp told
    split at told
    · obtain ⟨text, -, same⟩ := Option.map_eq_some_iff.mp told
      exact ⟨text, same⟩
    · cases told
  obtain ⟨⟨tag, rest⟩, -, read⟩ := Option.bind_eq_some_iff.mp read
  obtain ⟨kind, -, read⟩ := Option.bind_eq_some_iff.mp read
  cases kind with
  | photoBlock =>
      obtain ⟨fields, -, read⟩ := Option.bind_eq_some_iff.mp read
      split at read
      · obtain ⟨own, -, read⟩ := Option.bind_eq_some_iff.mp read
        obtain ⟨told, listed, same⟩ := Option.bind_eq_some_iff.mp read
        cases same
        obtain rfl | ⟨v, there⟩ := Json.eq_or_exists_of_orElse? listed
        · exact List.nodup_nil
        · exact distinct_of_listsOfJson there
      · cases read
  | _ =>
      obtain ⟨text, other⟩ := worded read
      cases other

end DescribedSection

namespace Description

/-- What a text describes: a header without leap seconds within a minute, and sections that were
read one by one. -/
theorem spec_of_parse? {text : String} {d : Description} (parsed : parse? text = some d) :
    d.header.OnMinute ∧
    ∀ part ∈ d.sections, ∃ v, DescribedSection.ofJson? Json.Place.top.inside.inside v = some part := by
  obtain ⟨v, -, read⟩ := Option.bind_eq_some_iff.mp parsed
  obtain ⟨fields, -, rest⟩ := Option.bind_eq_some_iff.mp read
  split at rest
  · obtain ⟨header, told, rest⟩ := Option.bind_eq_some_iff.mp rest
    simp only [Option.bind_eq_bind, Option.bind_eq_some_iff] at rest
    obtain ⟨_, -, _, -, parts, listed, same⟩ := rest
    cases same
    refine ⟨?_, fun part member => Json.exists_of_mem_toList? listed member⟩
    obtain rfl | ⟨v, read⟩ := Json.eq_or_exists_of_orElse? told
    · exact ⟨nofun, nofun⟩
    · exact Header.onMinute_of_ofJson? read
  · cases rest

/-- Every photo of some sections with its category. -/
def listing (sections : List DescribedSection) : List (Category × DescribedPhoto) :=
  sections.flatMap DescribedSection.entries

/-- The photos from the stock are there. -/
def Stocked (stock : Stock) (entries : List (Category × DescribedPhoto)) : Prop :=
  ∀ category id, (category, .staged id) ∈ entries → ∃ photo, stock.get id = .ok (some photo)

/-- No photo from the stock is listed under two categories. -/
def Agreeing (entries : List (Category × DescribedPhoto)) : Prop :=
  ∀ id category other, (category, .staged id) ∈ entries → (other, .staged id) ∈ entries →
    category = other

/-- The sections can be written with the photos of a stock. -/
structure Acceptable (stock : Stock) (sections : List DescribedSection) : Prop where
  /-- A list that is not empty is one of its block's lists. -/
  laid : ∀ layout lists, .photos layout lists ∈ sections → ∀ category list,
    (category, list) ∈ lists → list ≠ [] → layout.allows category = true
  stocked : Stocked stock (listing sections)
  agreeing : Agreeing (listing sections)

/-- The sections as they are written, with identifiers that count from one. -/
def written (sections : List DescribedSection) : Body :=
  sections.foldl (fun b part => (b.push part.content).1) {}

end Description

/-! ### Bodies with a section added at the end -/

namespace Body

variable {b : Body} {content : Content}

theorem Split.push (fresh : b.nextId ∉ b.ids) (content : Content) :
    (b.push content).1.Split b.nextId b.sections ⟨b.nextId, content⟩ [] where
  sections_eq := rfl
  id_eq := rfl
  pre_ne := fun _ member same => fresh (List.mem_map.mpr ⟨_, member, same⟩)

theorem setPhotos_push (fresh : b.nextId ∉ b.ids) (block : PhotoBlock) (category : Category)
    (photos : List PhotoRef) :
    (b.push (.photos block)).1.setPhotos ⟨b.nextId, category⟩ photos =
      (b.push (.photos (block.setPhotos category photos))).1 := by
  let list : PhotoList := ⟨b.nextId, category⟩
  have split : (b.push (.photos block)).1.Split list.block b.sections ⟨b.nextId, .photos block⟩ [] :=
    Split.push fresh (.photos block)
  exact split.setPhotos rfl photos

/-- A new section whose content is replaced is a new section with that content. -/
theorem update_push (fresh : b.nextId ∉ b.ids) {patch : SectionPatch} {after : Content}
    (fits : patched b.nextId content patch = .ok after) :
    (b.push content).1.update b.nextId patch =
      .ok ((b.push after).1, .updated b.nextId) :=
  update_eq_ok_iff.mpr ⟨_, _, _, after, Split.push fresh content, fits, rfl⟩

/-- A category that a staged photo has in the document. -/
def Stages (b : Body) (category : Category) (id : PhotoId) : Prop :=
  ∃ block, (⟨block, category⟩, id) ∈ b.stagedPhotos

theorem stages_iff {category : Category} {id : PhotoId} :
    b.Stages category id ↔ ∃ s ∈ b.sections, ∃ block, s.content = .photos block ∧
      (category, .staged id) ∈ block.entries := by
  simp only [Stages, mem_stagedPhotos_iff_entries]
  constructor
  · rintro ⟨-, s, member, -, block, content, inside⟩
    exact ⟨s, member, block, content, inside⟩
  · rintro ⟨s, member, block, content, inside⟩
    exact ⟨s.id, s, member, rfl, block, content, inside⟩

theorem stages_push {category : Category} {id : PhotoId} :
    (b.push content).1.Stages category id ↔ b.Stages category id ∨
      ∃ block, content = .photos block ∧ (category, .staged id) ∈ block.entries := by
  simp only [stages_iff, push, List.mem_append, List.mem_singleton]
  constructor
  · rintro ⟨s, old | rfl, block, here, inside⟩
    · exact .inl ⟨s, old, block, here, inside⟩
    · exact .inr ⟨block, here, inside⟩
  · rintro (⟨s, old, block, here, inside⟩ | ⟨block, here, inside⟩)
    · exact ⟨s, .inl old, block, here, inside⟩
    · exact ⟨_, .inr rfl, block, here, inside⟩

/-- What it takes to attach a photo, told by categories. -/
theorem conflict?_eq_none_iff_stages {photo : PhotoRef} {category : Category} :
    b.conflict? photo category none = none ↔
      ∀ id, photo = .staged id → ∀ other, b.Stages other id → other = category := by
  rw [conflict?_eq_none_iff]
  constructor
  · rintro fits id staged other ⟨block, there⟩
    exact fits id staged _ there nofun
  · rintro fits id staged ⟨block, other⟩ there -
    exact fits id staged other ⟨block, there⟩

theorem firsts_concat {α : Type} [DecidableEq α] (xs : List α) (x : α) :
    firsts (xs ++ [x]) = if x ∈ xs then firsts xs else firsts xs ++ [x] := by
  induction xs with
  | nil => rfl
  | cons y rest ih =>
      rw [List.cons_append, firsts, ih, firsts]
      by_cases same : x = y
      · subst same
        split <;> simp
      · by_cases member : x ∈ rest <;> simp [member, same]

end Body

/-! ### Described lists as photos of a block -/

namespace PhotoBlock

variable {photos : Category → List PhotoRef} {layout : Layout} {category : Category}

theorem ofLists_nil (layout : Layout) : ofLists (fun _ => []) layout = empty layout := by
  cases layout <;> rfl

theorem photos?_ofLists :
    (ofLists photos layout).photos? category =
      if layout.allows category then some (photos category) else none := by
  cases layout <;> cases category <;> rfl

theorem setPhotos_ofLists (ps : List PhotoRef) :
    (ofLists photos layout).setPhotos category ps =
      ofLists (fun c => if c = category then ps else photos c) layout := by
  cases layout <;> cases category <;> rfl

theorem mem_entries_ofLists {p : PhotoRef} :
    (category, p) ∈ (ofLists photos layout).entries ↔
      layout.allows category = true ∧ p ∈ photos category := by
  rw [mem_entries_iff, photos?_ofLists]
  split <;> simp_all

end PhotoBlock

namespace DescribedSection

theorem staged_mem_listed {es : List (Category × DescribedPhoto)} {category : Category}
    {id : PhotoId} : .staged id ∈ listed es category ↔ (category, .staged id) ∈ es := by
  unfold listed
  rw [Body.mem_firsts, List.mem_filterMap]
  constructor
  · rintro ⟨⟨c, photo⟩, member, shown⟩
    split at shown
    · rename_i same
      cases same
      cases photo <;> cases shown
      exact member
    · cases shown
  · intro member
    exact ⟨_, member, if_pos rfl⟩

theorem listed_nil : listed [] = fun _ => [] := rfl

theorem unfiled_of_mem {part : DescribedSection} (unfiled : part.paths = [])
    {e : Category × DescribedPhoto} (member : e ∈ part.entries) : e.2.path? = none := by
  cases part with
  | photos layout lists =>
      obtain ⟨list, there, inside⟩ := mem_entries_photos.mp member
      have bare := List.flatMap_eq_nil_iff.mp unfiled _ there
      exact List.filterMap_eq_nil_iff.mp bare _ inside
  | _ => cases member

theorem listed_concat (es : List (Category × DescribedPhoto)) {e : Category × DescribedPhoto}
    {photo : PhotoRef} (shown : e.2.ref? = some photo) :
    listed (es ++ [e]) = fun category => if category = e.1 then
        if photo ∈ listed es e.1 then listed es e.1 else listed es e.1 ++ [photo]
      else listed es category := by
  funext category
  by_cases same : category = e.1
  · have last : [e].filterMap (fun e => if e.1 = category then e.2.ref? else none) = [photo] := by
      simp [same, shown]
    rw [if_pos same, ← same]
    simp only [listed, List.filterMap_append, last, Body.firsts_concat, Body.mem_firsts]
  · simp [listed, List.filterMap_append, same, Ne.symm same]

end DescribedSection

/-! ### The body as far as it is written -/

namespace Description

variable {done : List DescribedSection} {layout : Layout} {es : List (Category × DescribedPhoto)}
  {e : Category × DescribedPhoto} {stock : Stock}

theorem written_concat (done : List DescribedSection) (part : DescribedSection) :
    written (done ++ [part]) = ((written done).push part.content).1 :=
  List.foldl_concat ..

theorem written_eq (sections : List DescribedSection) :
    written sections = ⟨sections.mapIdx fun i part => ⟨⟨UInt32.ofNat (i + 1)⟩, part.content⟩,
      UInt32.ofNat sections.length⟩ := by
  induction sections using List.reverseRecOn with
  | nil => rfl
  | append_singleton done part ih =>
      rw [written_concat, ih, List.mapIdx_concat, List.length_append]
      simp only [Body.push, Body.nextId, UInt32.ofNat_add]
      rfl

/-- In a description that was read a category of a block has one list, and that is what is written
under it, without later repetitions. -/
theorem block_written {text : String} {d : Description} (parsed : parse? text = some d) {i : Nat}
    {lists : List (Category × List DescribedPhoto)} (here : d.sections[i]? = some (.photos layout lists))
    {category : Category} {list : List DescribedPhoto} (inside : (category, list) ∈ lists)
    (allowed : layout.allows category = true) :
    ∃ block, (written d.sections).sections[i]? = some ⟨⟨UInt32.ofNat (i + 1)⟩, .photos block⟩ ∧
      block.photos? category = some (Body.firsts (list.filterMap DescribedPhoto.ref?)) := by
  obtain ⟨v, read⟩ := (spec_of_parse? parsed).2 _ (List.mem_of_getElem? here)
  refine ⟨_, by rw [written_eq, List.getElem?_mapIdx, here]; rfl, ?_⟩
  rw [PhotoBlock.photos?_ofLists, if_pos allowed,
    DescribedSection.listed_of_mem (DescribedSection.distinct_of_ofJson? read) inside]

/-- There are enough identifiers for one section more. -/
theorem nextId_not_mem_written (room : done.length < 4294967295) :
    (written done).nextId ∉ (written done).ids := by
  rw [written_eq]
  intro member
  obtain ⟨s, there, same⟩ := List.mem_map.mp member
  obtain ⟨i, inside, rfl⟩ := List.mem_mapIdx.mp there
  have numbers := congrArg (fun id : SectionId => id.number.toNat) same
  simp only [Body.nextId, UInt32.toNat_ofNat', UInt32.toNat_add] at numbers
  have one : (1 : UInt32).toNat = 1 := rfl
  omega

/-- The body while a block is filled. -/
def opened (done : List DescribedSection) (layout : Layout)
    (es : List (Category × DescribedPhoto)) : Body :=
  ((written done).push (.photos (.ofLists (DescribedSection.listed es) layout))).1

/-- The photos of a block can be written after those that are listed before it. -/
structure Fits (stock : Stock) (past : List (Category × DescribedPhoto)) (layout : Layout)
    (es : List (Category × DescribedPhoto)) : Prop where
  allowed : ∀ e ∈ es, layout.allows e.1 = true
  stocked : Stocked stock es
  agreeing : Agreeing (past ++ es)

theorem agreeing_concat {es : List (Category × DescribedPhoto)} :
    Agreeing (es ++ [e]) ↔ Agreeing es ∧
      ∀ id, e.2 = .staged id → ∀ other, (other, .staged id) ∈ es → other = e.1 := by
  obtain ⟨category, photo⟩ := e
  simp only [Agreeing, List.mem_append, List.mem_singleton, Prod.mk.injEq]
  constructor
  · intro agree
    refine ⟨fun id c c' there there' => agree id c c' (.inl there) (.inl there'), ?_⟩
    rintro id rfl other there
    exact agree id other category (.inl there) (.inr ⟨rfl, rfl⟩)
  · rintro ⟨agree, last⟩ id c c' (there | ⟨rfl, rfl⟩) (there' | ⟨rfl, same⟩)
    · exact agree id c c' there there'
    · exact last id same.symm c there
    · exact (last id rfl c' there').symm
    · rfl

theorem stocked_append {es' : List (Category × DescribedPhoto)} :
    Stocked stock (es ++ es') ↔ Stocked stock es ∧ Stocked stock es' := by
  simp only [Stocked, List.mem_append, or_imp, forall_and]

theorem fits_concat {past : List (Category × DescribedPhoto)} (fits : Fits stock past layout es) :
    Fits stock past layout (es ++ [e]) ↔
      Stocked stock [e] ∧ layout.allows e.1 = true ∧ Agreeing (past ++ es ++ [e]) := by
  rw [List.append_assoc]
  constructor
  · rintro ⟨allowed, stocked, agreeing⟩
    exact ⟨(stocked_append.mp stocked).2,
      allowed e (List.mem_append_right _ (List.mem_singleton_self e)), agreeing⟩
  · rintro ⟨stocked, allowed, agreeing⟩
    refine ⟨fun x member => ?_, stocked_append.mpr ⟨fits.stocked, stocked⟩, agreeing⟩
    rcases List.mem_append.mp member with old | new
    · exact fits.allowed x old
    · exact List.mem_singleton.mp new ▸ allowed

theorem listing_concat (done : List DescribedSection) (part : DescribedSection) :
    listing (done ++ [part]) = listing done ++ part.entries := by
  simp [listing]

theorem Agreeing.of_subset {es' : List (Category × DescribedPhoto)} (h : Agreeing es')
    (part : es ⊆ es') : Agreeing es :=
  fun id c c' there there' => h id c c' (part there) (part there')

theorem acceptable_nil (stock : Stock) : Acceptable stock [] := by
  constructor <;> simp [listing, Stocked, Agreeing]

theorem fits_nil (accepted : Acceptable stock done) (layout : Layout) :
    Fits stock (listing done) layout [] where
  allowed := by simp
  stocked := by simp [Stocked]
  agreeing := by
    rw [List.append_nil]
    exact accepted.agreeing

/-- One block more. -/
theorem acceptable_concat_photos {lists : List (Category × List DescribedPhoto)} :
    Acceptable stock (done ++ [.photos layout lists]) ↔ Acceptable stock done ∧
      Fits stock (listing done) layout (DescribedSection.photos layout lists).entries := by
  constructor
  · rintro ⟨laid, stocked, agreeing⟩
    rw [listing_concat] at stocked agreeing
    obtain ⟨before, here⟩ := stocked_append.mp stocked
    refine ⟨⟨fun l ls member => laid l ls (List.mem_append_left _ member), before,
      agreeing.of_subset (List.subset_append_left _ _)⟩, ?_, here, agreeing⟩
    rintro ⟨category, photo⟩ member
    obtain ⟨list, there, inside⟩ := DescribedSection.mem_entries_photos.mp member
    exact laid layout lists (List.mem_append_right _ (List.mem_singleton_self _)) category list
      there (List.ne_nil_of_mem inside)
  · rintro ⟨⟨laid, before, -⟩, allowed, here, agreeing⟩
    refine ⟨?_, ?_, ?_⟩
    · intro l ls member category list there filled
      rcases List.mem_append.mp member with old | new
      · exact laid l ls old category list there filled
      · cases List.mem_singleton.mp new
        obtain ⟨photo, inside⟩ := List.exists_mem_of_ne_nil list filled
        exact allowed _ (DescribedSection.mem_entries_photos.mpr ⟨list, there, inside⟩)
    · rw [listing_concat]
      exact stocked_append.mpr ⟨before, here⟩
    · rw [listing_concat]
      exact agreeing

/-- One section more that is none. -/
theorem acceptable_concat_plain {part : DescribedSection}
    (plain : ∀ layout lists, part ≠ .photos layout lists) :
    Acceptable stock (done ++ [part]) ↔ Acceptable stock done := by
  have bare : part.entries = [] := by
    cases part with
    | photos layout lists => exact absurd rfl (plain layout lists)
    | _ => rfl
  have same : listing (done ++ [part]) = listing done := by
    rw [listing_concat, bare, List.append_nil]
  constructor
  · rintro ⟨laid, stocked, agreeing⟩
    rw [same] at stocked agreeing
    exact ⟨fun l ls member => laid l ls (List.mem_append_left _ member), stocked, agreeing⟩
  · rintro ⟨laid, stocked, agreeing⟩
    rw [← same] at stocked agreeing
    refine ⟨fun l ls member => ?_, stocked, agreeing⟩
    rcases List.mem_append.mp member with old | new
    · exact laid l ls old
    · exact absurd (List.mem_singleton.mp new).symm (plain l ls)

theorem Acceptable.of_append {more : List DescribedSection}
    (h : Acceptable stock (done ++ more)) : Acceptable stock done := by
  have part : listing done ⊆ listing (done ++ more) := by
    rw [listing, listing, List.flatMap_append]
    exact List.subset_append_left _ _
  exact ⟨fun l ls member => h.laid l ls (List.mem_append_left _ member),
    fun c id member => h.stocked c id (part member), h.agreeing.of_subset part⟩

theorem Fits.of_append {past more : List (Category × DescribedPhoto)}
    (h : Fits stock past layout (es ++ more)) : Fits stock past layout es where
  allowed := fun e member => h.allowed e (List.mem_append_left _ member)
  stocked := (stocked_append.mp h.stocked).1
  agreeing := by
    have agreeing := h.agreeing
    rw [← List.append_assoc] at agreeing
    exact agreeing.of_subset (List.subset_append_left _ _)

/-- The staged photos of a block have the categories that they are listed under. -/
theorem stages_push_photos {b : Body} (allowed : ∀ e ∈ es, layout.allows e.1 = true)
    {category : Category} {id : PhotoId} :
    (b.push (.photos (.ofLists (DescribedSection.listed es) layout))).1.Stages category id ↔
      b.Stages category id ∨ (category, .staged id) ∈ es := by
  rw [Body.stages_push]
  refine or_congr_right ?_
  constructor
  · rintro ⟨block, same, member⟩
    cases same
    exact DescribedSection.staged_mem_listed.mp (PhotoBlock.mem_entries_ofLists.mp member).2
  · intro member
    exact ⟨_, rfl, PhotoBlock.mem_entries_ofLists.mpr
      ⟨allowed _ member, DescribedSection.staged_mem_listed.mpr member⟩⟩

/-- The staged photos of a written body have the categories that they are listed under. -/
theorem stages_written (accepted : Acceptable stock done) {category : Category} {id : PhotoId} :
    (written done).Stages category id ↔ (category, .staged id) ∈ listing done := by
  induction done using List.reverseRecOn with
  | nil => simp [Body.stages_iff, written, listing]
  | append_singleton done part ih =>
      rw [written_concat, listing_concat, List.mem_append, ← ih accepted.of_append]
      cases part with
      | photos layout lists =>
          exact stages_push_photos (acceptable_concat_photos.mp accepted).2.allowed
      | _ => simp [Body.stages_push, DescribedSection.content, DescribedSection.entries]

theorem stages_opened (accepted : Acceptable stock done)
    (fits : Fits stock (listing done) layout es) {category : Category} {id : PhotoId} :
    (opened done layout es).Stages category id ↔ (category, .staged id) ∈ listing done ++ es := by
  rw [opened, stages_push_photos fits.allowed, stages_written accepted, List.mem_append]

theorem photos_opened (room : done.length < 4294967295) (category : Category) :
    (opened done layout es).photos ⟨(written done).nextId, category⟩ =
      if layout.allows category then .ok (DescribedSection.listed es category)
      else .error (.categoryNotInLayout (written done).nextId category layout) := by
  let list : PhotoList := ⟨(written done).nextId, category⟩
  have found : (opened done layout es).find? list.block =
      some ⟨(written done).nextId, .photos (.ofLists (DescribedSection.listed es) layout)⟩ :=
    (Body.Split.push (nextId_not_mem_written room) _).find?
  rw [Body.photos_of_found found rfl, PhotoBlock.photos?_ofLists]
  cases layout <;> cases category <;> rfl

/-- When a photo more is taken in the open block. -/
theorem attach_opened_iff (room : done.length < 4294967295) (accepted : Acceptable stock done)
    (fits : Fits stock (listing done) layout es) {photo : PhotoRef}
    (shown : e.2.ref? = some photo) :
    (∃ r, (opened done layout es).attach ⟨(written done).nextId, e.1⟩ photo = .ok r) ↔
      layout.allows e.1 = true ∧ Agreeing (listing done ++ es ++ [e]) := by
  have named : ∀ id, photo = .staged id ↔ e.2 = .staged id := by
    intro id
    obtain ⟨category, described⟩ := e
    cases described <;> cases shown <;> simp
  simp only [Body.attach_eq_ok_iff, photos_opened room, Body.conflict?_eq_none_iff_stages,
    stages_opened accepted fits, agreeing_concat, named]
  constructor
  · rintro ⟨r, photos, known, apart, -⟩
    split at known
    · rename_i allowed
      exact ⟨allowed, fits.agreeing, apart⟩
    · cases known
  · rintro ⟨allowed, -, apart⟩
    exact ⟨_, _, if_pos allowed, apart, rfl⟩

/-- What becomes of the body then. -/
theorem attach_opened_eq (room : done.length < 4294967295) {photo : PhotoRef}
    (shown : e.2.ref? = some photo) {r : Body × Option Change}
    (taken : (opened done layout es).attach ⟨(written done).nextId, e.1⟩ photo = .ok r) :
    r.1 = opened done layout (es ++ [e]) := by
  obtain ⟨photos, known, -, rfl⟩ := Body.attach_eq_ok_iff.mp taken
  rw [photos_opened room] at known
  split at known
  · cases known
    have longer : opened done layout (es ++ [e]) = (opened done layout es).setPhotos
        ⟨(written done).nextId, e.1⟩ (if photo ∈ DescribedSection.listed es e.1 then
          DescribedSection.listed es e.1 else DescribedSection.listed es e.1 ++ [photo]) := by
      rw [opened, opened, Body.setPhotos_push (nextId_not_mem_written room),
        PhotoBlock.setPhotos_ofLists, DescribedSection.listed_concat es shown]
    rw [longer]
    split
    · rename_i allowed there
      exact (Body.setPhotos_photos (by rw [photos_opened room, if_pos allowed])).symm
    · rfl
  · cases known

end Description

end SiteReport
