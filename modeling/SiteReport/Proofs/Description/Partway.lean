import SiteReport.Proofs.Description.Portions

/-!
What a description leaves behind that cannot be written to its end. The portion that fails leaves no
trace in the stock, but the photos that were staged from files before it stay there, whatever
becomes of the document.
-/

namespace SiteReport

/-! ### What a store gains -/

/-- The photos that files become when they are staged one after another. -/
inductive Surroundings.Taken (s : Surroundings) (normalizer : Normalizer) :
    List String → List StagedPhoto → Prop
  | nil : Taken s normalizer [] []
  | concat {paths : List String} {photos : List StagedPhoto} {path : String} {raw bytes : Bytes} :
      Taken s normalizer paths photos → (s.look path).bytes = .ok raw →
      normalizer.normalize raw = .ok bytes →
      Taken s normalizer (paths ++ [path])
        (photos ++ [s.taken photos.length (Path.name path) bytes])

theorem Surroundings.Taken.ids {s : Surroundings} {normalizer : Normalizer} {paths : List String}
    {photos : List StagedPhoto} (h : s.Taken normalizer paths photos) :
    photos.length = paths.length ∧
      photos.map (·.id) = (List.range paths.length).map s.fresh := by
  induction h with
  | nil => exact ⟨rfl, rfl⟩
  | concat _ _ _ ih =>
      obtain ⟨count, ids⟩ := ih
      simp [List.range_succ, count, ids, Surroundings.taken]

/-- One store holds some photos more than another one, and what that one holds. -/
structure Store.Gained (before : Store) (photos : List StagedPhoto) (after : Store) : Prop where
  kept : ∀ id, id ∉ photos.map (·.id) → after.stored id = before.stored id
  gained : ∀ p ∈ photos, ∃ q, after.stored p.id = .ok (some q) ∧ q.name = p.name ∧
    q.bytes = p.bytes ∧ q.uploadedUrl? = none

theorem Store.Gained.concat {before mid after : Store} {photos : List StagedPhoto}
    (h : before.Gained photos mid) {s : Surroundings}
    (regular : s.clock.wall.time.nano < 1000000000) {k : Nat} {name : String} {bytes : Bytes}
    (put : mid.put (s.taken k name bytes) = .ok after)
    (other : s.fresh k ∉ photos.map (·.id)) :
    before.Gained (photos ++ [s.taken k name bytes]) after := by
  obtain ⟨-, -, others, -⟩ := Store.put_spec put
  constructor
  · intro id unnamed
    rw [List.map_append, List.mem_append, not_or] at unnamed
    rw [others id fun same => unnamed.2 (List.mem_singleton.mpr same), h.kept id unnamed.1]
  · intro p member
    rcases List.mem_append.mp member with old | new
    · rw [others p.id fun same => other (List.mem_map.mpr ⟨p, old, same⟩)]
      exact h.gained p old
    · cases List.mem_singleton.mp new
      exact Store.put_taken regular put

/-- It holds the same photos if and only if there are none more. -/
theorem Store.Gained.unchanged_iff {before after : Store} {photos : List StagedPhoto}
    (h : before.Gained photos after) (new : ∀ p ∈ photos, before.stored p.id = .ok none) :
    (∀ id, after.stored id = before.stored id) ↔ photos = [] := by
  constructor
  · intro same
    refine List.eq_nil_iff_forall_not_mem.mpr fun p member => ?_
    obtain ⟨q, stored, -⟩ := h.gained p member
    rw [same, new p member] at stored
    cases stored
  · rintro rfl id
    exact h.kept id List.not_mem_nil

/-! ### The writing up to a portion -/

/-- The identifier in the stock that a portion names. -/
def Portion.stagedId? : Portion → Option PhotoId
  | .opening _ => none
  | .photo _ described => described.stagedId?

/-- The paths of the files among some portions, as seen from where the folder is seen. -/
def Portion.files (folder : String) (portions : List Portion) : List String :=
  (portions.filterMap Portion.path?).map (Path.join folder)

theorem Portion.files_append (folder : String) (first second : List Portion) :
    files folder (first ++ second) = files folder first ++ files folder second := by
  rw [files, List.filterMap_append, List.map_append]
  rfl

theorem Portion.files_cons (folder : String) (portion : Portion) (rest : List Portion) :
    files folder (portion :: rest) = files folder [portion] ++ files folder rest :=
  files_append folder [portion] rest

/-- A desk after some portions went well, the files among which are at the paths. -/
structure Desk.Halfway (c : Composer) (s : Surroundings) (names : List PhotoId)
    (paths : List String) (photos : List StagedPhoto) (d : Desk) : Prop where
  taken : s.Taken c.stock.normalizer paths photos
  gained : c.stock.store.Gained photos d.composer.stock.store
  used : d.used = paths.length
  normalizer : d.composer.stock.normalizer = c.stock.normalizer
  shown : ∀ list id, (list, id) ∈ d.composer.body.stagedPhotos →
    id ∈ names ∨ ∃ k < paths.length, id = s.fresh k

namespace Desk.Halfway

variable {c : Composer} {s : Surroundings} {names : List PhotoId} {limit : Nat}
  {paths : List String} {photos : List StagedPhoto} {d : Desk}

/-- Edits that leave the stock alone and show nothing but named photos. -/
theorem edited (h : d.Halfway c s names paths photos) {after : Desk} (used : after.used = d.used)
    (stock : after.composer.stock = d.composer.stock)
    (shown : ∀ list id, (list, id) ∈ after.composer.body.stagedPhotos →
      (list, id) ∈ d.composer.body.stagedPhotos ∨ id ∈ names) :
    after.Halfway c s names paths photos where
  taken := h.taken
  gained := stock ▸ h.gained
  used := used.trans h.used
  normalizer := stock ▸ h.normalizer
  shown := by
    intro list id there
    rcases shown list id there with old | named
    · exact h.shown list id old
    · exact .inl named

/-- The next identifier is neither that of a photo in the document nor that of one taken before. -/
theorem next_unshown (h : d.Halfway c s names paths photos) (fresh : s.Fresh names limit)
    (room : paths.length < limit) (list : PhotoList) :
    (list, s.fresh d.used) ∉ d.composer.body.stagedPhotos := by
  intro there
  rw [h.used] at there
  rcases h.shown list _ there with named | ⟨k, earlier, same⟩
  · exact fresh.unnamed _ room named
  · exact Nat.ne_of_gt earlier (fresh.distinct _ _ room (Nat.lt_trans earlier room) same)

theorem next_untaken (h : d.Halfway c s names paths photos) (fresh : s.Fresh names limit)
    (room : paths.length < limit) : s.fresh paths.length ∉ photos.map (·.id) := by
  rw [h.taken.ids.2]
  intro member
  obtain ⟨k, earlier, same⟩ := List.mem_map.mp member
  have earlier := List.mem_range.mp earlier
  exact Nat.ne_of_lt earlier (fresh.distinct _ _ (Nat.lt_trans earlier room) room same)

/-- One file more. -/
theorem captured (h : d.Halfway c s names paths photos) (fresh : s.Fresh names limit)
    (room : paths.length < limit) {list : PhotoList} {path : String} {raw bytes : Bytes}
    {store : Store} {r : Body × Option Change} {after : Composer}
    (read : (s.look path).bytes = .ok raw)
    (normal : d.composer.stock.normalizer.normalize raw = .ok bytes)
    (put : d.composer.stock.store.put (s.taken d.used (Path.name path) bytes) = .ok store)
    (accepted : d.composer.body.attach list (.staged (s.fresh d.used)) = .ok r)
    (wrote : (d.composer.mapStore store).Wrote r.1 after) :
    Desk.Halfway c s names (paths ++ [path])
      (photos ++ [s.taken photos.length (Path.name path) bytes]) ⟨after, d.used + 1⟩ := by
  have count := h.taken.ids.1
  rw [h.normalizer] at normal
  rw [h.used] at put accepted
  refine ⟨h.taken.concat read normal, ?_, ?_, ?_, ?_⟩
  · have stored : after.stock.store = store := congrArg Stock.store wrote.stock_eq
    rw [stored, count]
    exact h.gained.concat fresh.regular put (h.next_untaken fresh room)
  · simp [h.used]
  · have same : after.stock = { d.composer.stock with store } := wrote.stock_eq
    rw [same]
    exact h.normalizer
  · intro l id there
    rw [wrote.body_eq] at there
    rw [List.length_append, List.length_singleton]
    rcases Body.mem_stagedPhotos_attach accepted there with old | new
    · rcases h.shown l id old with named | ⟨k, earlier, same⟩
      · exact .inl named
      · exact .inr ⟨k, Nat.lt_succ_of_lt earlier, same⟩
    · cases new
      exact .inr ⟨paths.length, Nat.lt_succ_self _, rfl⟩

/-- A step fails without a trace in the stock, or leads to a desk that is further on. -/
def Step (c : Composer) (s : Surroundings) (names : List PhotoId) (paths : List String) (d : Desk)
    (r : Except DescriptionError Unit × Desk) : Prop :=
  (∃ e, r.1 = .error e ∧ r.2.composer.stock = d.composer.stock) ∨
    (r.1 = .ok () ∧ ∃ photos, r.2.Halfway c s names paths photos)

/-- A photo that is none from a file. -/
theorem attachPhoto (h : d.Halfway c s names paths photos) (list : PhotoList) {photo : PhotoRef}
    (known : ∀ id, photo = .staged id → id ∈ names) :
    Step c s names paths d (d.edit (d.composer.attachPhoto s.clock list photo)) := by
  rcases d.edit_attachPhoto_cases s.clock list photo with ⟨cause, failed⟩ |
    ⟨r, after, accepted, wrote, went⟩
  · rw [failed]
    exact .inl ⟨_, rfl, rfl⟩
  · rw [went]
    refine .inr ⟨rfl, photos, h.edited rfl wrote.stock_eq fun l id there => ?_⟩
    have there : (l, id) ∈ after.body.stagedPhotos := there
    rw [wrote.body_eq] at there
    rcases Body.mem_stagedPhotos_attach accepted there with old | new
    · exact .inl old
    · exact .inr (known id new)

theorem capture (h : d.Halfway c s names paths photos) (fresh : s.Fresh names limit)
    (room : paths.length < limit) (list : PhotoList) (path : String) :
    Step c s names (paths ++ [path]) d (Desk.capture s list d path) := by
  rcases capture_cases s list d path (h.next_unshown fresh room) with ⟨e, used, failed⟩ |
    ⟨raw, bytes, store, r, after, read, normal, put, accepted, wrote, went⟩
  · rw [failed]
    exact .inl ⟨e, rfl, rfl⟩
  · rw [went]
    exact .inr ⟨rfl, _, h.captured fresh room read normal put accepted wrote⟩

theorem write (h : d.Halfway c s names paths photos) (fresh : s.Fresh names limit)
    {portion : Portion} (named : ∀ id, portion.stagedId? = some id → id ∈ names)
    (room : (paths ++ Portion.files s.folder [portion]).length ≤ limit) :
    Step c s names (paths ++ Portion.files s.folder [portion]) d (d.write s portion) := by
  cases portion with
  | opening part =>
      obtain ⟨used, stock, -, shown⟩ := d.add_bare s part
      rw [show Portion.files s.folder [.opening part] = [] from rfl, List.append_nil]
      unfold Desk.write
      cases result : (d.add s part.bare).1 with
      | error e => exact .inl ⟨e, result, stock⟩
      | ok _ =>
          exact .inr ⟨result, photos, h.edited used stock fun list id there => .inl (shown _ there)⟩
  | photo category described =>
      cases described with
      | url address =>
          rw [show Portion.files s.folder [.photo category (.url address)] = [] from rfl,
            List.append_nil]
          exact h.attachPhoto _ nofun
      | staged id =>
          rw [show Portion.files s.folder [.photo category (.staged id)] = [] from rfl,
            List.append_nil]
          simp only [Desk.write, attach]
          cases d.composer.stock.get id with
          | error cause => exact .inl ⟨_, rfl, rfl⟩
          | ok found =>
              cases found with
              | none => exact .inl ⟨_, rfl, rfl⟩
              | some photo =>
                  refine h.attachPhoto _ fun x same => ?_
                  cases same
                  exact named id rfl
      | file path =>
          rw [show Portion.files s.folder [.photo category (.file path)] =
            [Path.join s.folder path] from rfl] at room ⊢
          rw [List.length_append, List.length_singleton] at room
          exact h.capture fresh room _ _

/-- Portions that all go well. -/
theorem advance (h : d.Halfway c s names paths photos) (fresh : s.Fresh names limit)
    {portions : List Portion} (named : ∀ p ∈ portions, ∀ id, p.stagedId? = some id → id ∈ names)
    (room : (paths ++ Portion.files s.folder portions).length ≤ limit) {mid : Desk}
    (went : d.advance (Desk.write s) portions = (.ok (), mid)) :
    ∃ photos', mid.Halfway c s names (paths ++ Portion.files s.folder portions) photos' := by
  induction portions generalizing d paths photos with
  | nil =>
      cases went
      exact ⟨photos, by rwa [show Portion.files s.folder [] = [] from rfl, List.append_nil]⟩
  | cons portion rest ih =>
      obtain ⟨here, others⟩ := List.forall_mem_cons.mp named
      have cut : paths ++ Portion.files s.folder (portion :: rest) =
          paths ++ Portion.files s.folder [portion] ++ Portion.files s.folder rest := by
        rw [List.append_assoc, Portion.files_cons]
      rw [cut] at room ⊢
      have first : (paths ++ Portion.files s.folder [portion]).length ≤ limit := by
        rw [List.length_append] at room
        omega
      unfold Desk.advance at went
      rcases h.write fresh here first with ⟨e, failed, -⟩ | ⟨ok, photos', next⟩
      · cases taken : d.write s portion with
        | mk result now =>
            rw [taken] at went failed
            cases failed
            cases went
      · cases taken : d.write s portion with
        | mk result now =>
            rw [taken] at went ok next
            cases ok
            exact ih next others room went

end Desk.Halfway

namespace Description

theorem files_portions (d : Description) (folder : String) :
    Portion.files folder d.portions = d.paths folder := by
  have each : ∀ part : DescribedSection, part.portions.filterMap Portion.path? = part.paths := by
    intro part
    cases part with
    | photos layout lists =>
        rw [DescribedSection.portions, List.filterMap_cons_none rfl, List.filterMap_map,
          DescribedSection.entries, List.filterMap_flatMap, DescribedSection.paths]
        congr 1
        funext entry
        rw [List.filterMap_map]
        rfl
    | _ => rfl
  rw [Portion.files, portions, List.filterMap_flatMap, paths]
  simp only [each]

theorem named_portions {d : Description} {portion : Portion} (member : portion ∈ d.portions)
    {id : PhotoId} (named : portion.stagedId? = some id) : id ∈ d.named := by
  obtain ⟨part, there, inside⟩ := List.mem_flatMap.mp member
  refine List.mem_flatMap.mpr ⟨part, there, ?_⟩
  rcases List.mem_cons.mp inside with rfl | shown
  · cases named
  · obtain ⟨⟨category, described⟩, entry, rfl⟩ := List.mem_map.mp shown
    cases part with
    | photos layout lists =>
        obtain ⟨list, listed, here⟩ := DescribedSection.mem_entries_photos.mp entry
        exact List.mem_flatMap.mpr ⟨_, listed, List.mem_filterMap.mpr ⟨described, here, named⟩⟩
    | _ => cases entry

/-- The portion that a failure is about. -/
theorem apply_eq_error {d : Description} {s : Surroundings} {c : Composer} {e : DescriptionError}
    {after : Composer} (failed : d.apply s c = (.error e, after)) :
    ∃ done portion rest mid last, d.portions = done ++ portion :: rest ∧
      Desk.advance (Desk.write s) { composer := c.setHeader s.clock d.header } done =
        (.ok (), mid) ∧
      mid.write s portion = (.error e, last) ∧ last.composer = after := by
  rw [apply_eq_portions] at failed
  cases written : Desk.advance (Desk.write s) { composer := c.setHeader s.clock d.header }
      d.portions with
  | mk result last =>
      dsimp only at failed
      rw [written] at failed
      cases failed
      obtain ⟨done, portion, rest, mid, cut, went, fails⟩ := Desk.advance_eq_error written
      exact ⟨done, portion, rest, mid, last, cut, went, fails, rfl⟩

theorem halfway_start (d : Description) (s : Surroundings) (c : Composer) :
    Desk.Halfway c s (c.body.stagedPhotos.map Prod.snd ++ d.named) [] []
      { composer := c.setHeader s.clock d.header } := by
  obtain ⟨-, body, -, stock⟩ := c.setHeader_eq s.clock d.header
  refine ⟨.nil, ⟨fun id _ => ?_, fun p absent => absurd absent List.not_mem_nil⟩, rfl,
    congrArg Stock.normalizer stock, ?_⟩
  · exact congrArg (fun stock : Stock => stock.store.stored id) stock
  · intro list id there
    have there : (list, id) ∈ (c.setHeader s.clock d.header).body.stagedPhotos := there
    rw [body] at there
    exact .inl (List.mem_append_left _ (List.mem_map_of_mem there))

/-- A description that fails leaves in the store, besides what was there, one photo for each file
that is listed before the portion that failed, and nothing else. -/
theorem apply_error_leaves_files {d : Description} {s : Surroundings} {c : Composer}
    (fresh : s.Fresh (c.body.stagedPhotos.map Prod.snd ++ d.named) (d.paths s.folder).length)
    (unused : ∀ k < (d.paths s.folder).length, c.stock.store.stored (s.fresh k) = .ok none)
    {e : DescriptionError} {after : Composer} (failed : d.apply s c = (.error e, after)) :
    ∃ done portion rest mid photos,
      d.portions = done ++ portion :: rest ∧
      Desk.advance (Desk.write s) { composer := c.setHeader s.clock d.header } done =
        (.ok (), mid) ∧ (mid.write s portion).1 = .error e ∧
      s.Taken c.stock.normalizer (Portion.files s.folder done) photos ∧
      c.stock.store.Gained photos after.stock.store ∧
      ((∀ id, after.stock.store.stored id = c.stock.store.stored id) ↔
        Portion.files s.folder done = []) := by
  obtain ⟨done, portion, rest, mid, last, cut, went, fails, rfl⟩ := apply_eq_error failed
  have named : ∀ p ∈ done ++ [portion], ∀ id, p.stagedId? = some id →
      id ∈ c.body.stagedPhotos.map Prod.snd ++ d.named := by
    intro p member id known
    refine List.mem_append_right _ (named_portions ?_ known)
    rw [cut, ← List.singleton_append, ← List.append_assoc]
    exact List.mem_append_left _ member
  have whole : d.paths s.folder = Portion.files s.folder done ++
      Portion.files s.folder [portion] ++ Portion.files s.folder rest := by
    rw [← files_portions, cut, Portion.files_append, Portion.files_cons s.folder portion rest,
      List.append_assoc]
  have room : (Portion.files s.folder done ++ Portion.files s.folder [portion]).length ≤
      (d.paths s.folder).length := by
    simp only [whole, List.length_append]
    exact Nat.le_add_right _ _
  have room_done : (Portion.files s.folder done).length ≤ (d.paths s.folder).length := by
    rw [List.length_append] at room
    exact Nat.le_of_add_right_le room
  obtain ⟨photos, halfway⟩ := (halfway_start d s c).advance fresh
    (fun p member => named p (List.mem_append_left _ member)) room_done went
  rw [List.nil_append] at halfway
  -- the portion that fails takes nothing out of the stock and puts nothing in
  have stays : last.composer.stock = mid.composer.stock := by
    rcases halfway.write fresh (named portion (by simp)) room with ⟨-, -, same⟩ | ⟨ok, -⟩
    · rw [fails] at same
      exact same
    · rw [fails] at ok
      cases ok
  have gained : c.stock.store.Gained photos last.composer.stock.store := stays ▸ halfway.gained
  obtain ⟨count, ids⟩ := halfway.taken.ids
  have new : ∀ p ∈ photos, c.stock.store.stored p.id = .ok none := by
    intro p member
    have own := List.mem_map_of_mem (f := (·.id)) member
    rw [ids] at own
    obtain ⟨k, earlier, same⟩ := List.mem_map.mp own
    rw [← same]
    exact unused k (Nat.lt_of_lt_of_le (List.mem_range.mp earlier) room_done)
  refine ⟨done, portion, rest, mid, photos, cut, went, by rw [fails], halfway.taken, gained, ?_⟩
  rw [gained.unchanged_iff new, ← List.length_eq_zero_iff, count, List.length_eq_zero_iff]

namespace Unfinished

def first : PhotoId := ⟨16, by decide⟩

def second : PhotoId := ⟨17, by decide⟩

def description : Description where
  sections := [.photos .beforeAfter [(.before, [.file "a.bmp", .file "missing.png"])]]

/-- The second one of the files is not there. -/
def surroundings : Surroundings where
  clock := Twins.clock
  folder := ""
  look := fun path => if path = "a.bmp" then .file Pixel.bitmap else .absent
  fresh := fun k => if k = 0 then first else second

/-- Photos are kept in quality 100. -/
def settings : EditSettings := { jpegQuality := 100 }

def composer : Composer := .new (.ofSettings Pixel.codec Twins.stock.store settings) settings

theorem paths_eq : description.paths surroundings.folder = ["a.bmp", "missing.png"] := by
  decide +kernel

/-- The photo from the first file stays in the store, where it was not before. -/
theorem staged_photo_stays :
    let r := description.apply surroundings composer
    r.1 = .error (.reading "missing.png") ∧
    composer.stock.store.stored first = .ok none ∧
    r.2.stock.store.stored first =
      .ok (some (surroundings.taken 0 "a.bmp" Pixel.jpeg)) := by
  decide +kernel

theorem fresh : surroundings.Fresh
    (composer.body.stagedPhotos.map Prod.snd ++ description.named)
    (description.paths surroundings.folder).length where
  distinct := by
    rw [paths_eq]
    have apart : ∀ j < 2, ∀ k < 2, surroundings.fresh j = surroundings.fresh k → j = k := by decide
    exact fun j k hj hk => apart j hj k hk
  unnamed := by
    rw [paths_eq]
    decide
  regular := by decide

theorem unused : ∀ k < (description.paths surroundings.folder).length,
    composer.stock.store.stored (surroundings.fresh k) = .ok none := by
  rw [paths_eq]
  decide

/-- What stays is told by the portions before the one that fails. -/
theorem first_file_left :
    let r := description.apply surroundings composer
    r.1 = .error (.reading "missing.png") ∧
    ∃ done portion rest mid photos,
      description.portions = done ++ portion :: rest ∧
      Desk.advance (Desk.write surroundings)
        { composer := composer.setHeader surroundings.clock description.header } done =
          (.ok (), mid) ∧
      (mid.write surroundings portion).1 = .error (.reading "missing.png") ∧
      surroundings.Taken composer.stock.normalizer (Portion.files surroundings.folder done) photos ∧
      composer.stock.store.Gained photos r.2.stock.store ∧
      Portion.files surroundings.folder done ≠ [] := by
  intro r
  obtain ⟨failed, absent, stored⟩ : r.1 = .error (.reading "missing.png") ∧
      composer.stock.store.stored first = .ok none ∧
      ∃ p, r.2.stock.store.stored first = .ok (some p) :=
    ⟨by decide +kernel, by decide, _, (by decide +kernel : r.2.stock.store.stored first =
      .ok (some (surroundings.taken 0 "a.bmp" Pixel.jpeg)))⟩
  obtain ⟨done, portion, rest, mid, photos, cut, went, fails, taken, gained, unchanged⟩ :=
    apply_error_leaves_files fresh unused (Prod.ext failed (Eq.refl r.2))
  refine ⟨failed, done, portion, rest, mid, photos, cut, went, fails, taken, gained, fun bare => ?_⟩
  obtain ⟨p, stored⟩ := stored
  have same := unchanged.mpr bare first
  rw [absent] at same
  cases stored.symm.trans same

end Unfinished

end Description

end SiteReport
