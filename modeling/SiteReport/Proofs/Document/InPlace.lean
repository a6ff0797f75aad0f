import SiteReport.Document.InPlace
import SiteReport.Proofs.Document.Places

/-!
An edit that is carried out on the spot does what the edit says, and a refused one has written
nothing. This holds of all documents, also of those in which identifiers repeat.
-/

namespace SiteReport

namespace InPlace

variable {ε ε' σ τ α β : Type} {s : σ}

@[simp] theorem exec_pure (a : α) : exec (pure a : InPlace ε σ α) s = (.ok a, s) := rfl

@[simp] theorem exec_throw (e : ε) : exec (throw e : InPlace ε σ α) s = (.error e, s) := rfl

@[simp] theorem exec_get : exec (get : InPlace ε σ σ) s = (.ok s, s) := rfl

@[simp] theorem exec_modify (f : σ → σ) :
    exec (modify f : InPlace ε σ PUnit) s = (.ok ⟨⟩, f s) := rfl

/-- The next steps start where the first ones end, unless these failed. -/
theorem exec_bind (steps : InPlace ε σ α) (next : α → InPlace ε σ β) :
    exec (steps >>= next) s =
      match exec steps s with
      | (.ok a, mid) => exec (next a) mid
      | (.error e, mid) => (.error e, mid) := by
  unfold exec
  rw [ExceptT.run_bind, StateT.run_bind]
  rcases StateT.run steps.run s with ⟨answer | answer, mid⟩ <;> rfl

theorem exec_bind_ok {steps : InPlace ε σ α} {next : α → InPlace ε σ β} {a : α} {mid : σ}
    (first : exec steps s = (.ok a, mid)) : exec (steps >>= next) s = exec (next a) mid := by
  rw [exec_bind, first]

theorem exec_bind_error {steps : InPlace ε σ α} {next : α → InPlace ε σ β} {e : ε} {mid : σ}
    (first : exec steps s = (.error e, mid)) : exec (steps >>= next) s = (.error e, mid) := by
  rw [exec_bind, first]

@[simp] theorem exec_look (f : σ → Except ε α) : exec (look f) s = (f s, s) := by
  unfold look
  rw [exec_bind_ok exec_get]
  cases f s <;> rfl

/-- What steps come to that write nothing before they fail. -/
def settled (s : σ) : Except ε (σ × α) → Except ε α × σ
  | .ok (after, a) => (.ok a, after)
  | .error e => (.error e, s)

theorem exec_map (f : α → β) (steps : InPlace ε σ α) {answer : Except ε (σ × α)}
    (h : exec steps s = settled s answer) :
    exec (f <$> steps) s = settled s (answer.map fun r => (r.1, f r.2)) := by
  rw [map_eq_pure_bind, exec_bind, h]
  cases answer <;> rfl

end InPlace

namespace Body.InPlace

open SiteReport.InPlace

variable {b : Body} {id : SectionId} {pre post : List Section} {s : Section}

/-! ### Sections -/

theorem exec_indexOf (split : b.Split id pre s post) :
    exec (indexOf id) b = (.ok pre.length, b) := by
  simp [indexOf, split.indexOf?]

theorem exec_indexOf_unknown (unknown : b.find? id = none) :
    exec (indexOf id) b = (.error (.unknownSection id), b) := by
  simp [indexOf, find?_eq_none_iff_indexOf?.mp unknown]

theorem exec_sectionAt (split : b.Split id pre s post) :
    exec (sectionAt id pre.length) b = (.ok s, b) := by
  simp [sectionAt, split.sections_eq]

@[simp] theorem exec_writeSections (f : List Section → List Section) :
    exec (writeSections f) b = (.ok ⟨⟩, { b with sections := f b.sections }) := rfl

theorem exec_writeContent (split : b.Split id pre s post) (content : Content) :
    exec (writeContent pre.length content) b = (.ok ⟨⟩, b.setContent id content) := by
  simp [writeContent, Body.setContent, split.indexOf?]

@[simp] theorem exec_takeId :
    exec takeId b = (.ok b.nextId, { b with counter := b.nextId.number }) := rfl

theorem exec_remove (id : SectionId) : exec (remove id) b = settled b (b.remove id) := by
  unfold remove Body.remove
  cases found : b.find? id with
  | none =>
      rw [exec_bind_error (exec_indexOf_unknown found), find?_eq_none_iff_indexOf?.mp found]
      rfl
  | some s =>
      obtain ⟨pre, post, split⟩ := exists_split_of_find? found
      rw [exec_bind_ok (exec_indexOf split), split.indexOf?]
      rfl

theorem exec_patchAt (split : b.Split id pre s post) (patch : SectionPatch) :
    exec (patchAt id pre.length s.content patch) b =
      settled b ((patched id s.content patch).map fun content =>
        (b.setContent id content, ())) := by
  have written (content : Content) : exec (writeContent pre.length content) b =
      settled b (.ok (b.setContent id content, ())) := exec_writeContent split content
  cases held : s.content with
  | photos block =>
      cases patch with
      | name name => rfl
      | text text => rfl
      | layout layout =>
          simp only [patchAt, patched]
          split
          · have own : b.setContent id (.photos block) = b := by
              rw [split.setContent, ← held, ← split.sections_eq]
            exact congrArg (Prod.mk _) own.symm
          · split
            · exact written _
            · rfl
  | checklistItem name =>
      cases patch with
      | name name => exact written _
      | text text => rfl
      | layout layout => rfl
  | comment text =>
      cases patch with
      | name name => rfl
      | text text => exact written _
      | layout layout => rfl
  | workDescription text =>
      cases patch with
      | name name => rfl
      | text text => exact written _
      | layout layout => rfl

theorem exec_update (id : SectionId) (patch : SectionPatch) :
    exec (update id patch) b = settled b (b.update id patch) := by
  unfold update Body.update
  cases found : b.find? id with
  | none => exact exec_bind_error (exec_indexOf_unknown found)
  | some s =>
      obtain ⟨pre, post, split⟩ := exists_split_of_find? found
      rw [exec_bind_ok (exec_indexOf split), exec_bind_ok (exec_sectionAt split), exec_bind,
        exec_patchAt split]
      dsimp only
      cases patched id s.content patch <;> rfl

theorem exec_move (id : SectionId) (stop : Nat) :
    exec (move id stop) b = settled b (b.move id stop) := by
  unfold move Body.move
  cases found : b.find? id with
  | none =>
      rw [exec_bind_error (exec_indexOf_unknown found), find?_eq_none_iff_indexOf?.mp found]
      rfl
  | some s =>
      obtain ⟨pre, post, split⟩ := exists_split_of_find? found
      rw [exec_bind_ok (exec_indexOf split), exec_bind_ok exec_get, split.indexOf?]
      by_cases beyond : b.sections.length ≤ stop
      · simp [beyond, settled]
      · by_cases same : pre.length = stop
        · simp [beyond, same, settled, moveItem_self]
        · have picked : b.sections[pre.length]? = some s := by simp [split.sections_eq]
          simp only [beyond, same, if_false, if_true, ne_eq, not_false_eq_true]
          rw [exec_bind_ok (exec_sectionAt split), exec_bind_ok (exec_writeSections _),
            exec_bind_ok (exec_writeSections _), moveItem, picked]
          rfl

theorem exec_duplicate (id : SectionId) :
    exec (duplicate id) b =
      settled b ((b.duplicate id).map fun r => (r.1, b.nextId, r.2)) := by
  unfold duplicate Body.duplicate
  cases found : b.find? id with
  | none =>
      rw [exec_bind_error (exec_indexOf_unknown found), find?_eq_none_iff_indexOf?.mp found]
      rfl
  | some s =>
      obtain ⟨pre, post, split⟩ := exists_split_of_find? found
      rw [exec_bind_ok (exec_indexOf split), exec_bind_ok (exec_sectionAt split),
        exec_bind_ok exec_takeId, split.indexOf?]
      rfl

/-! ### Photos -/

theorem exec_photos (list : PhotoList) : exec (photos list) b = (b.photos list, b) :=
  exec_look _

@[simp] theorem exec_writePhotos (list : PhotoList) (photos : List PhotoRef) :
    exec (writePhotos list photos) b = (.ok ⟨⟩, b.setPhotos list photos) := rfl

theorem exec_photos_ok {list : PhotoList} {there : List PhotoRef}
    (known : b.photos list = .ok there) : exec (photos list) b = (.ok there, b) := by
  rw [exec_photos, known]

theorem exec_photos_error {list : PhotoList} {e : EditError} (missing : b.photos list = .error e) :
    exec (photos list) b = (.error e, b) := by
  rw [exec_photos, missing]

theorem exec_attach (list : PhotoList) (photo : PhotoRef) :
    exec (attach list photo) b = settled b (b.attach list photo) := by
  unfold attach Body.attach
  cases known : b.photos list with
  | error e => exact exec_bind_error (exec_photos_error known)
  | ok there =>
      rw [exec_bind_ok (exec_photos_ok known), exec_bind, checkCategory, exec_look]
      cases b.conflict? photo list.category none with
      | some e => rfl
      | none =>
          dsimp only
          rw [exec_bind_ok (exec_photos_ok known)]
          split <;> rfl

theorem exec_detach (list : PhotoList) (photo : PhotoRef) :
    exec (detach list photo) b = settled b (b.detach list photo) := by
  unfold detach Body.detach
  cases known : b.photos list with
  | error e => exact exec_bind_error (exec_photos_error known)
  | ok there =>
      rw [exec_bind_ok (exec_photos_ok known)]
      dsimp only
      rw [List.erase_eq_eraseIdx]
      cases place : there.idxOf? photo with
      | none =>
          have absent := List.idxOf?_eq_none_iff.mp place
          rw [if_neg (by simpa using absent)]
          rfl
      | some i =>
          have present : photo ∈ there := by
            by_contra absent
            rw [List.idxOf?_eq_none_iff.mpr absent] at place
            cases place
          rw [if_pos (by simpa using present)]
          rfl

theorem exec_checkIndex_inside {index length : Nat} (inside : index < length) :
    exec (checkIndex index length) b = (.ok (), b) := by
  rw [checkIndex, if_neg (Nat.not_le_of_lt inside)]
  rfl

theorem exec_checkIndex_beyond {index length : Nat} (beyond : length ≤ index) :
    exec (checkIndex index length) b = (.error (.indexOutOfRange index length), b) := by
  rw [checkIndex, if_pos beyond]
  rfl

theorem exec_moveWithin (list : PhotoList) (start stop : Nat) :
    exec (moveWithin list start stop) b = settled b (b.moveWithin list start stop) := by
  unfold moveWithin Body.moveWithin
  cases known : b.photos list with
  | error e => exact exec_bind_error (exec_photos_error known)
  | ok there =>
      rw [exec_bind_ok (exec_photos_ok known)]
      dsimp only
      by_cases first : there.length ≤ start
      · rw [exec_bind_error (exec_checkIndex_beyond first), if_pos first]
        rfl
      · rw [if_neg first, exec_bind_ok (exec_checkIndex_inside (Nat.lt_of_not_le first))]
        by_cases second : there.length ≤ stop
        · rw [exec_bind_error (exec_checkIndex_beyond second), if_pos second]
          rfl
        · rw [if_neg second, exec_bind_ok (exec_checkIndex_inside (Nat.lt_of_not_le second))]
          by_cases same : start = stop
          · subst same
            rw [moveItem_self, setPhotos_photos known, if_neg (not_not.mpr rfl)]
            rfl
          · have picked := List.getElem?_eq_getElem (Nat.lt_of_not_le first)
            rw [moveItem, picked]
            dsimp only
            rw [if_pos same, exec_bind_ok (exec_writePhotos _ _),
              exec_bind_ok (exec_writePhotos _ _), setPhotos_setPhotos known]
            rfl

theorem exec_moveAcross (source : PhotoList) (index : Nat) (target : PhotoList) :
    exec (moveAcross source index target) b = settled b (b.moveAcross source index target) := by
  unfold moveAcross Body.moveAcross
  cases origin : b.photos source with
  | error e =>
      split
      · exact exec_bind_error (exec_photos_error origin)
      · exact exec_bind_error (exec_photos_error origin)
  | ok here =>
      dsimp only
      by_cases same : source = target
      · rw [if_pos same, if_pos same, exec_bind_ok (exec_photos_ok origin)]
        exact exec_moveWithin source index (here.length - 1)
      · rw [if_neg same, if_neg same, exec_bind_ok (exec_photos_ok origin)]
        cases picked : here[index]? with
        | none => rfl
        | some photo =>
            dsimp only
            cases goal : b.photos target with
            | error e => exact exec_bind_error (exec_photos_error goal)
            | ok there =>
                rw [exec_bind_ok (exec_photos_ok goal), exec_bind, checkCategory, exec_look]
                cases b.conflict? photo target.category (some source) with
                | some e => rfl
                | none =>
                    dsimp only
                    rw [exec_bind_ok (exec_photos_ok origin), exec_bind_ok (exec_writePhotos _ _)]
                    -- the list to which the photo goes is still there when the other has lost it
                    have open' : (b.setPhotos source (here.eraseIdx index)).photos target =
                        .ok there := by
                      rw [photos_setPhotos origin, if_neg (Ne.symm same), goal]
                    cases there.contains photo with
                    | true => rfl
                    | false =>
                        show exec (photos target >>= _) _ = _
                        rw [exec_bind_ok (exec_photos_ok open')]
                        rfl

/-! ### All edits -/

/-- An edit that is carried out on the spot ends with the answer of the edit; when it is refused,
the document is as it was. -/
theorem exec_apply (b : Body) (e : Edit) : exec (apply e) b = settled b (b.apply e) := by
  cases e with
  | add kind => rfl
  | addBlock layout => rfl
  | push content => rfl
  | remove id => exact exec_map some _ (exec_remove id)
  | update id patch => exact exec_map some _ (exec_update id patch)
  | move id stop => exact exec_map some _ (exec_move id stop)
  | duplicate id =>
      show _ = settled b ((b.duplicate id).map made)
      refine (exec_map _ _ (exec_duplicate id)).trans ?_
      cases b.duplicate id <;> rfl
  | attach list photo => exact exec_attach list photo
  | detach list photo => exact exec_map some _ (exec_detach list photo)
  | moveWithin list start stop => exact exec_map some _ (exec_moveWithin list start stop)
  | moveAcross source index target => exact exec_map some _ (exec_moveAcross source index target)
  | resolve resolution => rfl
  | clear => rfl

end Body.InPlace

end SiteReport
