import SiteReport.Proofs.Submission.Reuse

/-!
The cache of previews beside a store. Whatever was asked of the stock, a preview in the cache is the
thumbnail of a photo that is in the store, so a cache that answers answers as the store would, and
does so even when the store cannot be read. Reading photos is no event here, since it changes nothing.
-/

namespace SiteReport

/-! ### Pictures in a store -/

namespace Store

/-- The picture under an identifier. -/
def picture? (s : Store) (id : PhotoId) : Option Bytes :=
  match s.stored id with
  | .ok (some p) => some p.bytes
  | _ => none

variable {s t : Store} {id : PhotoId} {bytes : Bytes}

theorem picture?_eq_some_iff :
    s.picture? id = some bytes ↔ ∃ p, s.stored id = .ok (some p) ∧ p.bytes = bytes := by
  unfold picture?
  rcases s.stored id with e | (_ | p) <;> simp

theorem picture?_congr (h : s.stored id = t.stored id) : s.picture? id = t.picture? id := by
  unfold picture?
  rw [h]

theorem picture?_note (s : Store) (noted id : PhotoId) (url : String) :
    (s.note noted url).picture? id = s.picture? id := by
  unfold picture?
  rw [stored_note]
  by_cases same : id = noted
  · rw [if_pos same]
    rcases s.stored id with e | (_ | p) <;> rfl
  · rw [if_neg same]

/-- An upload that is noted is noted beside the picture. -/
theorem picture?_noteAll (s : Store) (notes : List (PhotoId × String)) (id : PhotoId) :
    (s.noteAll notes).picture? id = s.picture? id := by
  induction notes generalizing s with
  | nil => rfl
  | cons note rest ih => exact (ih (s.note note.1 note.2)).trans (s.picture?_note note.1 id note.2)

theorem has_of_picture? (h : s.picture? id = some bytes) : s.has id = true := by
  obtain ⟨p, stored, -⟩ := picture?_eq_some_iff.mp h
  obtain ⟨backend, faults⟩ := s
  cases backend with
  | memory m =>
      have found : m.get? id = some p := Except.ok.inj stored
      have matched := List.find?_some found
      exact List.any_eq_true.mpr ⟨p, List.mem_of_find?_eq_some found, matched⟩
  | database d key =>
      have row : ∃ r, d.photos.find? (·.id == id.text) = some r := by
        refine Option.ne_none_iff_exists'.mp fun none => ?_
        simp [Store.stored, Database.get, none] at stored
      obtain ⟨r, found⟩ := row
      have matched := List.find?_some found
      exact List.any_eq_true.mpr ⟨r, List.mem_of_find?_eq_some found, matched⟩

/-- A photo in the store is none of the files that come in under identifiers of their own. -/
theorem Fresh.ne_of_has {files : List Incoming} (fresh : s.Fresh files) (there : s.has id = true)
    {file : Incoming} (member : file ∈ files) : file.fresh ≠ id := by
  rintro rfl
  rw [fresh.absent file member] at there
  cases there

end Store

/-- The files that an event stages. -/
def StockEvent.incoming : StockEvent → List Incoming
  | .stage file => [file]
  | .stageBatch _ files => files
  | _ => []

namespace Stock

/-! ### Staging leaves the cache alone -/

variable {s after : Stock}

theorem stageBatch_beside (completion : Completion) (files : List Incoming) (s : Stock) :
    ∃ store, (s.stageBatch completion files).2 = { s with store } := by
  refine stageBatch_induction (P := fun t => ∃ store, t = { s with store }) ?_ completion
    ⟨s.store, rfl⟩
  rintro file - _ photo after ⟨before, rfl⟩ staged
  obtain ⟨bytes, store, -, -, -, same⟩ := stage_eq_ok_iff.mp staged
  exact ⟨store, same⟩

/-! ### One event -/

/-- Nothing came into the cache, and the photos of what stayed kept their pictures. -/
structure Thinned (s after : Stock) : Prop where
  normalizer_eq : after.normalizer = s.normalizer
  sublist : after.previews.Sublist s.previews
  pictures : ∀ id ∈ after.previews.map (·.1), s.store.has id = true →
    after.store.picture? id = s.store.picture? id

theorem thinned_of_store {store : Store}
    (pictures : ∀ id, s.store.has id = true → store.picture? id = s.store.picture? id) :
    Thinned s { s with store } :=
  ⟨rfl, .refl _, fun id _ there => pictures id there⟩

theorem thinned_noteAll (notes : List (PhotoId × String)) : Thinned s (s.noteAll notes) :=
  thinned_of_store fun id _ => s.store.picture?_noteAll notes id

theorem thinned_remove (id : PhotoId) : Thinned s (s.remove id).2 := by
  have sublist : (s.previews.filter (·.1 != id)).Sublist s.previews := List.filter_sublist
  unfold remove
  simp only
  cases h : (s.evict id).store.delete id with
  | error e => exact ⟨rfl, sublist, fun _ _ _ => rfl⟩
  | ok answer =>
      obtain ⟨-, -, stored⟩ := Store.delete_spec h
      refine ⟨rfl, sublist, fun other cached _ => ?_⟩
      have apart : other ≠ id := by
        obtain ⟨entry, member, rfl⟩ := List.mem_map.mp cached
        simpa using (List.mem_filter.mp member).2
      exact Store.picture?_congr ((stored other).trans (if_neg apart))

theorem thinned_clearAll (s : Stock) : Thinned s s.clearAll.2 := by
  unfold clearAll
  simp only
  split <;> exact ⟨rfl, List.nil_sublist _, nofun⟩

/-- All events but a request for a preview. -/
theorem thinned_happen {e : StockEvent} (fresh : s.store.Fresh e.incoming)
    (other : ∀ id, e ≠ .preview id) : Thinned s (s.happen e) := by
  cases e with
  | run service batchSize ticket =>
      obtain ⟨notes, -, stock_eq, -⟩ := (Attempt.mk service batchSize s ticket).run_stock
      rw [happen, stock_eq]
      exact thinned_noteAll notes
  | stage file =>
      simp only [happen]
      split
      · rename_i staged after taken
        obtain ⟨bytes, store, -, -, -, rfl⟩ := stage_eq_ok_iff.mp taken
        exact thinned_of_store fun id there =>
          Store.picture?_congr (stage_stored (fresh.ne_of_has there List.mem_cons_self) taken)
      · exact thinned_of_store fun _ _ => rfl
  | stageBatch completion files =>
      obtain ⟨store, same⟩ := stageBatch_beside completion files s
      have pictures (id) (there : s.store.has id = true) :
          (s.stageBatch completion files).2.store.picture? id = s.store.picture? id :=
        Store.picture?_congr (stageBatch_stored (fun _ => fresh.ne_of_has there) s)
      simp only [happen]
      rw [same] at pictures ⊢
      exact thinned_of_store pictures
  | remove id => exact thinned_remove id
  | clearAll => exact s.thinned_clearAll
  | preview id => exact absurd rfl (other id)
  | markUploaded id url =>
      simp only [happen]
      split
      · rename_i noted
        obtain ⟨-, -, rfl⟩ := markUploaded_eq_ok_iff.mp noted
        exact thinned_noteAll [(id, url)]
      · exact thinned_of_store fun _ _ => rfl
  | saveDraft draft =>
      simp only [happen]
      cases saved : s.store.saveDraft draft with
      | error e => exact thinned_of_store fun _ _ => rfl
      | ok store =>
          have same := (Store.saveDraft_spec saved).2.2
          exact thinned_of_store fun id _ => Store.picture?_congr (congrFun same id)
  | clearDraft =>
      simp only [happen]
      cases cleared : s.store.clearDraft with
      | error e => exact thinned_of_store fun _ _ => rfl
      | ok store =>
          have same := (Store.clearDraft_spec cleared).2.2.2
          exact thinned_of_store fun id _ => Store.picture?_congr (congrFun same id)
  | faults faults => exact thinned_of_store fun _ _ => rfl

/-! ### The cache tells what the store would -/

/-- Each photo has one preview in the cache at most, which is the thumbnail of a picture in the
store. -/
structure Faithful (s : Stock) : Prop where
  distinct : (s.previews.map (·.1)).Nodup
  made : ∀ id bytes, (id, bytes) ∈ s.previews →
    ∃ picture, s.store.picture? id = some picture ∧ s.normalizer.thumbnail picture = .ok bytes

theorem faithful_of_cold (cold : s.previews = []) : s.Faithful where
  distinct := by simp [cold]
  made := by simp [cold]

namespace Faithful

theorem thinned (h : s.Faithful) (t : Thinned s after) : after.Faithful where
  distinct := h.distinct.sublist (t.sublist.map _)
  made := by
    intro id bytes cached
    obtain ⟨picture, stored, thumbnail⟩ := h.made id bytes (t.sublist.subset cached)
    refine ⟨picture, ?_, t.normalizer_eq ▸ thumbnail⟩
    rw [← stored]
    exact t.pictures id (List.mem_map_of_mem cached) (Store.has_of_picture? stored)

/-- What comes into the cache was just made, of a photo that had no preview there. -/
theorem preview (h : s.Faithful) (id : PhotoId) : (s.preview id).2.Faithful := by
  unfold Stock.preview
  cases cached : s.previews.lookup id with
  | some bytes => exact h
  | none =>
      cases read : s.store.get id with
      | error e => exact h
      | ok found =>
          cases found with
          | none => exact h
          | some photo =>
              simp only
              cases made : s.normalizer.thumbnail photo.bytes with
              | error e => exact h
              | ok bytes =>
                  have absent : id ∉ s.previews.map (·.1) := by
                    rintro there
                    obtain ⟨⟨_, old⟩, member, rfl⟩ := List.mem_map.mp there
                    have missed := List.lookup_eq_none_iff.mp cached _ member
                    simp at missed
                  have stored : s.store.picture? id = some photo.bytes :=
                    Store.picture?_eq_some_iff.mpr ⟨photo, Store.stored_of_get read, rfl⟩
                  refine ⟨List.nodup_cons.mpr ⟨absent, h.distinct⟩, ?_⟩
                  intro other thumbnail member
                  rcases List.mem_cons.mp member with here | there
                  · cases here
                    exact ⟨photo.bytes, stored, made⟩
                  · exact h.made other thumbnail there

theorem happen (h : s.Faithful) {e : StockEvent} (fresh : s.store.Fresh e.incoming) :
    (s.happen e).Faithful := by
  by_cases other : ∀ id, e ≠ .preview id
  · exact h.thinned (thinned_happen fresh other)
  · push Not at other
    obtain ⟨id, rfl⟩ := other
    exact h.preview id

end Faithful

/-- Every file is staged under an identifier of its own, which no photo in the store has then. -/
def Issued : Stock → List StockEvent → Prop
  | _, [] => True
  | s, e :: rest => s.store.Fresh e.incoming ∧ Issued (s.happen e) rest

theorem Faithful.happenAll {events : List StockEvent} (h : s.Faithful) (issued : s.Issued events) :
    (s.happenAll events).Faithful := by
  induction events generalizing s with
  | nil => exact h
  | cons e rest ih => exact ih (h.happen issued.1) issued.2

/-- The thumbnail of the picture in the store, if there is one and it can be read, whatever the cache
says. -/
def drawn (s : Stock) (id : PhotoId) : Except StoreError (Option Bytes) :=
  (s.store.stored id).map fun found =>
    found.bind fun photo => (s.normalizer.thumbnail photo.bytes).toOption

/-- The stock with an empty cache. -/
def cold (s : Stock) : Stock := { s with previews := [] }

theorem preview_of_uncached {id : PhotoId} (uncached : s.previews.lookup id = none) :
    (s.preview id).1 = (s.cold.preview id).1 := by
  unfold preview
  rw [uncached]
  simp only [cold, List.lookup_nil]
  split
  · rfl
  · rfl
  · split <;> rfl

theorem lookup_previews_eq_none_iff {id : PhotoId} :
    s.previews.lookup id = none ↔ id ∉ s.previews.map (·.1) := by
  rw [List.lookup_eq_none_iff]
  constructor
  · intro missed there
    obtain ⟨entry, member, rfl⟩ := List.mem_map.mp there
    simpa using missed entry member
  · intro absent entry member
    have apart : id ≠ entry.1 := fun same => absent (same ▸ List.mem_map_of_mem member)
    simpa using apart

/-- Without a cache the store decides. -/
theorem preview_cold (s : Stock) (id : PhotoId) : (s.cold.preview id).1 =
    match s.store.faults .get with
    | some e => .error e
    | none => s.drawn id := by
  unfold preview
  simp only [cold, List.lookup_nil, Store.get_eq_stored, Store.guarded, drawn]
  cases s.store.faults .get with
  | some e => rfl
  | none =>
      rcases s.store.stored id with e | (_ | photo)
      · rfl
      · rfl
      · simp only [Except.map, Option.bind_some]
        cases s.normalizer.thumbnail photo.bytes <;> rfl

/-- With a faithful cache it does not matter whether the store can be read. -/
theorem Faithful.preview_of_cached (h : s.Faithful) {id : PhotoId} {bytes : Bytes}
    (cached : s.previews.lookup id = some bytes) :
    (s.preview id).1 = s.drawn id ∧ s.drawn id = .ok (some bytes) := by
  obtain ⟨before, later, split, -⟩ := List.lookup_eq_some_iff.mp cached
  obtain ⟨picture, stored, made⟩ := h.made id bytes (by simp [split])
  obtain ⟨photo, found, rfl⟩ := Store.picture?_eq_some_iff.mp stored
  have drawn : s.drawn id = .ok (some bytes) := by
    simp [drawn, found, Except.map, made, Except.toOption]
  refine ⟨?_, drawn⟩
  rw [drawn, Stock.preview, cached]

/-- A stock that began with an empty cache answers as it would without one, unless the store cannot
be read and the preview is in the cache. The answer is the thumbnail of the picture in the store, and
none if there is no picture or it cannot be read as one; it is an error only for what is not in the
cache. A preview that is in the cache is one of a photo that is still there. -/
theorem preview_as_without_cache {events : List StockEvent} (empty : s.previews = [])
    (issued : s.Issued events) :
    let after := s.happenAll events
    (∀ id, (after.preview id).1 = (after.cold.preview id).1 ↔
      after.store.faults .get = none ∨ id ∉ after.previews.map (·.1)) ∧
    (∀ id, after.store.faults .get = none ∨ id ∈ after.previews.map (·.1) →
      (after.preview id).1 = after.drawn id) ∧
    (∀ id e, after.store.faults .get = some e → (after.cold.preview id).1 = .error e) ∧
    (after.previews.map (·.1)).Nodup ∧
    ∀ id ∈ after.previews.map (·.1), ∃ photo, after.store.stored id = .ok (some photo) := by
  intro after
  have faithful : after.Faithful := (faithful_of_cold empty).happenAll issued
  have answered (id) (bytes) (cached : after.previews.lookup id = some bytes) :=
    faithful.preview_of_cached cached
  refine ⟨fun id => ?_, fun id known => ?_, fun id e fault => ?_, faithful.distinct, ?_⟩
  · rw [← lookup_previews_eq_none_iff]
    cases cached : after.previews.lookup id with
    | none => exact ⟨fun _ => .inr rfl, fun _ => preview_of_uncached cached⟩
    | some bytes =>
        obtain ⟨same, drawn⟩ := answered id bytes cached
        rw [same, preview_cold]
        cases fault : after.store.faults .get with
        | none => simp
        | some e => simp [drawn]
  · cases cached : after.previews.lookup id with
    | some bytes => exact (answered id bytes cached).1
    | none =>
        have absent := lookup_previews_eq_none_iff.mp cached
        have readable := known.resolve_right absent
        rw [preview_of_uncached cached, preview_cold, readable]
  · rw [preview_cold, fault]
  · intro id cached
    obtain ⟨⟨_, bytes⟩, member, rfl⟩ := List.mem_map.mp cached
    obtain ⟨picture, stored, -⟩ := faithful.made _ bytes member
    obtain ⟨photo, found, -⟩ := Store.picture?_eq_some_iff.mp stored
    exact ⟨photo, found⟩

/-! ### A picture that is looked at -/

theorem happenAll_append (s : Stock) (events more : List StockEvent) :
    s.happenAll (events ++ more) = (s.happenAll events).happenAll more := List.foldl_append

theorem happen_stage {file : Incoming} {bytes : Bytes} {store : Store}
    (normal : s.normalizer.normalize file.bytes = .ok bytes)
    (put : s.store.put (file.photo bytes) = .ok store) :
    s.happen (.stage file) = { s with store } := by
  have staged : s.stage file = .ok (file.photo bytes, { s with store }) :=
    stage_eq_ok_iff.mpr ⟨bytes, store, normal, rfl, put, rfl⟩
  simp only [happen, staged]

theorem happen_preview {id : PhotoId} {photo : StagedPhoto} {bytes : Bytes}
    (uncached : s.previews.lookup id = none) (read : s.store.get id = .ok (some photo))
    (made : s.normalizer.thumbnail photo.bytes = .ok bytes) :
    s.happen (.preview id) = { s with previews := (id, bytes) :: s.previews } := by
  simp only [happen, preview, uncached, read, made]

namespace Album

def left : Incoming := ⟨⟨81, by decide⟩, Pile.morning, "a.bmp", Pixel.bitmap⟩

def right : Incoming := ⟨⟨82, by decide⟩, Pile.next, "b.jpg", Pixel.jpeg⟩

/-- Both files are staged and looked at, and the second photo is thrown away. -/
def round : List StockEvent :=
  [.stage left, .preview left.fresh, .stage right, .preview right.fresh, .remove right.fresh]

/-- From then on the store cannot be read. -/
def locked : StockEvent := .faults fun
  | .get => some (.database "locked")
  | _ => none

/-- A stock with photos and their previews. -/
def shelf (photos : List StagedPhoto) (previews : List (PhotoId × Bytes)) : Stock :=
  { Pile.stock with store := ⟨.memory { photos }, fun _ => none⟩, previews }

theorem thumbnail_shelf (photos : List StagedPhoto) (previews : List (PhotoId × Bytes)) :
    (shelf photos previews).normalizer.thumbnail Pixel.jpeg = .ok Pixel.jpeg :=
  Pixel.toJpeg_eq rfl (by decide : 1 ≤ Pile.stock.normalizer.previewWidth) (.inr rfl)

theorem stage_left : Pile.stock.happen (.stage left) = shelf [left.photo Pixel.jpeg] [] :=
  happen_stage (Pixel.toJpeg_eq rfl (by decide) (.inl rfl)) rfl

theorem preview_left : (shelf [left.photo Pixel.jpeg] []).happen (.preview left.fresh) =
    shelf [left.photo Pixel.jpeg] [(left.fresh, Pixel.jpeg)] :=
  happen_preview rfl rfl (thumbnail_shelf _ _)

theorem stage_right : (shelf [left.photo Pixel.jpeg] [(left.fresh, Pixel.jpeg)]).happen
      (.stage right) =
    shelf [left.photo Pixel.jpeg, right.photo Pixel.jpeg] [(left.fresh, Pixel.jpeg)] :=
  happen_stage (Pixel.toJpeg_eq rfl (by decide) (.inr rfl)) rfl

theorem preview_right :
    (shelf [left.photo Pixel.jpeg, right.photo Pixel.jpeg] [(left.fresh, Pixel.jpeg)]).happen
      (.preview right.fresh) =
    shelf [left.photo Pixel.jpeg, right.photo Pixel.jpeg]
      [(right.fresh, Pixel.jpeg), (left.fresh, Pixel.jpeg)] :=
  happen_preview rfl rfl (thumbnail_shelf _ _)

theorem shelf_round : Pile.stock.happenAll round =
    shelf [left.photo Pixel.jpeg] [(left.fresh, Pixel.jpeg)] := by
  simp only [happenAll, round, List.foldl_cons, List.foldl_nil, stage_left, preview_left,
    stage_right, preview_right]
  rfl

theorem issued_round : Pile.stock.Issued round := by
  have nothing (s : Store) : s.Fresh [] := ⟨List.nodup_nil, List.forall_mem_nil _⟩
  have one (s : Store) (file : Incoming) (absent : s.has file.fresh = false) : s.Fresh [file] :=
    ⟨List.nodup_singleton _, List.forall_mem_singleton.mpr absent⟩
  simp only [round, Issued, stage_left, preview_left, stage_right, StockEvent.incoming, and_true]
  exact ⟨one _ left rfl, nothing _, one _ right rfl, nothing _, nothing _⟩

/-- The preview of the one is in the cache, and the other photo is gone. -/
theorem previews_after_round :
    let after := Pile.stock.happenAll round
    Pile.stock.previews = [] ∧ Pile.stock.Issued round ∧
      after.previews.map (·.1) = [left.fresh] ∧
      (after.preview left.fresh).1 = .ok (some Pixel.jpeg) ∧
      (after.preview right.fresh).1 = .ok none := by
  obtain ⟨-, answers, -, -, -⟩ := preview_as_without_cache (s := Pile.stock) rfl issued_round
  rw [shelf_round] at answers ⊢
  have stored : (shelf [left.photo Pixel.jpeg] [(left.fresh, Pixel.jpeg)]).store.stored left.fresh =
      .ok (some (left.photo Pixel.jpeg)) := rfl
  refine ⟨rfl, issued_round, rfl, ?_, answers right.fresh (.inl rfl)⟩
  rw [answers left.fresh (.inl rfl), drawn, stored]
  simp only [Except.map, Option.bind_some, Incoming.photo, thumbnail_shelf]
  rfl

/-- The cache answers where the store does not. -/
theorem preview_of_locked_store :
    let after := Pile.stock.happenAll (round ++ [locked])
    (after.preview left.fresh).1 = .ok (some Pixel.jpeg) ∧
      (after.cold.preview left.fresh).1 = .error (.database "locked") := by
  rw [happenAll_append, shelf_round]
  exact ⟨rfl, rfl⟩

end Album

end Stock

end SiteReport
