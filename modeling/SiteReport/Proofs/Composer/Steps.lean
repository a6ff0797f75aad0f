import SiteReport.Proofs.Composer.DraftSlot
import SiteReport.Proofs.Document.Reachable

/-!
What the commands of a session are made of. A command that edits the document, or stands beside it,
comes down to a few kinds of small steps, and what is to be said of all such commands is shown of the
steps. The other commands handle the draft, note an upload, replace the document, or take over what a
run found.
-/

namespace SiteReport

/-- Edits of the document, and things beside it. The other commands replace the document or rewrite
it to what was sent. -/
def Command.isEdit : Command → Bool
  | .restore _ => false
  | .discardDocument => false
  | .applySubmit _ => false
  | .submit _ _ => false
  | _ => true

/-- Commands that may put an address on record. -/
def Command.notesUploads : Command → Bool
  | .markUploaded _ _ => true
  | .runSubmit _ _ _ => true
  | .submit _ _ => true
  | _ => false

def Command.isPointer : Command → Bool
  | .pointer _ => true
  | _ => false

/-- The edit is about the whole document, and its change says no more than that. -/
def Edit.overwrites : Edit → Bool
  | .resolve _ => true
  | .clear => true
  | _ => false

namespace Body

theorem after_of_apply {b after : Body} {e : Edit} {change : Option Change}
    (accepted : b.apply e = .ok (after, change)) : b.after e = after := by
  rw [Body.after, accepted]

theorem after_of_refused {b : Body} {e : Edit} {cause : EditError}
    (refused : b.apply e = .error cause) : b.after e = b := by
  rw [Body.after, refused]

end Body

namespace Composer

variable {c mid after : Composer} {clock : Clock}

/-- From one composer to another by small steps, with the edits of the body among them. -/
inductive Steps (clock : Clock) : Composer → List Edit → Composer → Prop where
  | idle (c : Composer) : Steps clock c [] c
  | andThen {c mid after : Composer} {edits more : List Edit} (first : Steps clock c edits mid)
      (next : Steps clock mid more after) : Steps clock c (edits ++ more) after
  | adopted {c : Composer} {e : Edit} {r : Body × Change}
      (accepted : c.body.apply e = .ok (Body.made r)) (plain : e.Plain)
      (kept : e.overwrites = false) : Steps clock c [e] (c.adopt clock r)
  /-- The edit is refused, or leaves everything as it was and is not told. -/
  | spared {c : Composer} {e : Edit} (same : c.body.after e = c.body) (plain : e.Plain) :
      Steps clock c [e] c
  | headed (c : Composer) (header : Header) :
      Steps clock c [] (({ c with header }.touch clock).emit .headerChanged)
  | linked (c : Composer) (id : String) :
      Steps clock c [] ({ c with remoteId := some id }.touch clock)
  /-- What follows on a change of the selection comes before it is told. -/
  | selected {c mid : Composer} {edits : List Edit} (ids : List SectionId)
      (work : Steps clock { c with selection := ids } edits mid) :
      Steps clock c edits (mid.emit .selectionChanged)
  | restocked {c : Composer} (stock : Stock) (kept : Store.Kept c.stock.store stock.store) :
      Steps clock c [] { c with stock }

/-- The edits that a command makes, as far as they are accepted. Commands that replace the document
are left out. -/
def editsOf (c : Composer) : Command → List Edit
  | .addSection kind => [.add kind]
  | .addBlock layout => [.addBlock layout]
  | .removeSection id => [.remove id]
  | .updateSection id patch => [.update id patch]
  | .moveSection id stop => [.move id stop]
  | .duplicateSection id => [.duplicate id]
  | .attachPhoto list photo => [.attach list photo]
  | .removePhoto list photo => [.detach list photo]
  | .moveWithin list start stop => [.moveWithin list start stop]
  | .moveAcross source index target => [.moveAcross source index target]
  | .removeSelected => c.selection.map .remove
  | .duplicateSelected => (c.body.ids.filter (c.selection.contains ·)).map .duplicate
  | .pointer (.up now) => (c.gesture.up now c.body).1.toList.map Reorder.edit
  | .capturePhoto list file =>
    (c.stock.stage file).toOption.toList.map fun r => .attach list (.staged r.1.id)
  | command => (c.taken? command).toList.map (.resolve ·.resolution)

/-! ### Edits that may be refused -/

theorem steps_refused {e : Edit} {cause : EditError} (h : c.body.apply e = .error cause)
    (plain : e.Plain) : Steps clock c [e] c :=
  .spared (Body.after_of_refused h) plain

theorem steps_ofEdit {α : Type} {e : Edit} {r : Except EditError (Body × Change)}
    (apply_eq : c.body.apply e = r.map Body.made) (plain : e.Plain) {answer : α → Answer}
    {told : Body × Change → α × Composer}
    (accepted : ∀ made, r = .ok made → Steps clock c [e] (told made).2) :
    Steps clock c [e] (Answer.ofEdit c answer (r.map told)).2 := by
  cases r with
  | error cause => exact steps_refused apply_eq plain
  | ok r => exact accepted r rfl

/-- An edit that answers with its change. -/
theorem steps_edit {e : Edit} {r : Except EditError (Body × Change)}
    (apply_eq : c.body.apply e = r.map Body.made) (plain : e.Plain) (kept : e.overwrites = false)
    {answer : Change → Answer} :
    Steps clock c [e] (Answer.ofEdit c answer (c.edit clock r)).2 := by
  refine steps_ofEdit apply_eq plain ?_
  rintro made rfl
  exact .adopted apply_eq plain kept

theorem steps_attachPhoto {list : PhotoList} {photo : PhotoRef} {change : Option Change}
    (accepted : c.attachPhoto clock list photo = .ok (change, after)) :
    Steps clock c [.attach list photo] after := by
  obtain ⟨⟨body, told⟩, attached, same⟩ := map_eq_ok_iff.mp accepted
  cases told with
  | some told =>
      cases same
      have applied : c.body.apply (.attach list photo) = .ok (Body.made (body, told)) := attached
      exact .adopted applied trivial rfl
  | none =>
      cases same
      have there : c.body.after (.attach list photo) = body := Body.after_of_apply attached
      obtain ⟨photos, -, -, told⟩ := Body.attach_eq_ok_iff.mp attached
      split at told
      · cases told
        exact .spared there trivial
      · cases told

theorem attachPhoto_eq_error_iff {list : PhotoList} {photo : PhotoRef} {cause : EditError} :
    c.attachPhoto clock list photo = .error cause ↔
      c.body.apply (.attach list photo) = .error cause := by
  unfold attachPhoto
  rw [Body.apply]
  cases c.body.attach list photo <;> simp [Except.map]

/-! ### The selection -/

theorem steps_setHeader (c : Composer) (clock : Clock) (header : Header) :
    Steps clock c [] (c.setHeader clock header) := by
  unfold setHeader
  split
  · exact .idle c
  · exact .headed c header

theorem steps_deselect (c : Composer) (clock : Clock) (id : SectionId) :
    Steps clock c [] (c.deselect id) := by
  unfold deselect
  split
  · exact .selected _ (.idle _)
  · exact .idle c

theorem body_deselect (c : Composer) (id : SectionId) : (c.deselect id).body = c.body := by
  unfold deselect
  split <;> rfl

theorem steps_removeNext (clock : Clock) (r : List Change × Composer) (id : SectionId) :
    Steps clock r.2 [.remove id] (removeNext clock r id).2 := by
  have apply_eq : r.2.body.apply (.remove id) = (r.2.body.remove id).map Body.made := rfl
  unfold removeNext
  cases h : r.2.body.remove id with
  | error e =>
      rw [h] at apply_eq
      exact steps_refused apply_eq trivial
  | ok answer =>
      rw [h] at apply_eq
      exact .adopted apply_eq trivial rfl

theorem steps_duplicateNext (clock : Clock) (r : List SectionId × Composer) (id : SectionId) :
    Steps clock r.2 [.duplicate id] (duplicateNext clock r id).2 := by
  have apply_eq : r.2.body.apply (.duplicate id) = (r.2.body.duplicate id).map Body.made := rfl
  unfold duplicateNext duplicateSection
  cases h : r.2.body.duplicate id with
  | error e =>
      rw [h] at apply_eq
      exact steps_refused apply_eq trivial
  | ok answer =>
      rw [h] at apply_eq
      exact .adopted apply_eq trivial rfl

theorem steps_foldl {α : Type} {step : α × Composer → SectionId → α × Composer}
    {edit : SectionId → Edit} (one : ∀ r id, Steps clock r.2 [edit id] (step r id).2)
    (ids : List SectionId) (r : α × Composer) :
    Steps clock r.2 (ids.map edit) (ids.foldl step r).2 := by
  induction ids generalizing r with
  | nil => exact .idle r.2
  | cons id rest ih => exact (one r id).andThen (ih (step r id))

/-! ### The pointer -/

theorem steps_pointerUp (c : Composer) (clock : Clock) (now : Int) :
    Steps clock { c with gesture := (c.gesture.up now c.body).2 }
      ((c.gesture.up now c.body).1.toList.map Reorder.edit) (c.pointerUp clock now).2 := by
  unfold pointerUp
  generalize c.gesture.up now c.body = drop
  obtain ⟨command, gesture⟩ := drop
  cases command with
  | none => exact .idle _
  | some command =>
      have apply_eq := command.apply_edit c.body
      have plain : command.edit.Plain := by cases command <;> trivial
      have kept : command.edit.overwrites = false := by cases command <;> rfl
      simp only
      split
      · rename_i cause refused
        rw [refused] at apply_eq
        exact steps_refused apply_eq plain
      · rename_i r accepted
        rw [accepted] at apply_eq
        exact .adopted apply_eq plain kept

/-- A command of the pointer changes the drag first. -/
theorem steps_pointer (c : Composer) (clock : Clock) (event : PointerEvent) :
    ∃ gesture, Steps clock { c with gesture } (c.editsOf (.pointer event))
      (c.pointer clock event).2 := by
  cases event with
  | down source pointer origin now => exact ⟨_, .idle _⟩
  | move point hit now => exact ⟨_, .idle _⟩
  | tick now => exact ⟨_, .idle _⟩
  | cancel => exact ⟨_, .idle _⟩
  | up now =>
      have released := steps_pointerUp c clock now
      refine ⟨(c.gesture.up now c.body).2, ?_⟩
      unfold Composer.pointer
      simp only
      split <;> rename_i ended <;> rw [ended] at released <;> exact released

/-! ### Photos of the stock -/

theorem steps_stage {file : Incoming} {photo : StagedPhoto}
    (accepted : c.stage file = .ok (photo, after)) : Steps clock c [] after := by
  obtain ⟨⟨staged, stock⟩, stored, same⟩ := map_eq_ok_iff.mp accepted
  cases same
  exact .restocked stock (Stock.stage_kept stored)

theorem steps_capturePhoto (c : Composer) (clock : Clock) (list : PhotoList) (file : Incoming) :
    Steps clock c (c.editsOf (.capturePhoto list file))
      (c.capturePhoto clock list file).2 := by
  unfold capturePhoto
  cases stored : c.stage file with
  | error e =>
      have none : c.editsOf (.capturePhoto list file) = [] := by
        unfold stage at stored
        rw [editsOf]
        cases kept : c.stock.stage file with
        | error e => rfl
        | ok answer => simp [kept, Except.map] at stored
      rw [none]
      split <;> exact .idle c
  | ok answer =>
      obtain ⟨photo, staged⟩ := answer
      have one : c.editsOf (.capturePhoto list file) = [.attach list (.staged photo.id)] := by
        obtain ⟨r, kept, same⟩ := map_eq_ok_iff.mp stored
        cases same
        simp [editsOf, kept, Except.toOption]
      have first : Steps clock c [] staged := steps_stage stored
      rw [one]
      split
      · rename_i e missing
        have turned : c.body.apply (.attach list (.staged photo.id)) = .error e := by
          rw [Body.apply, Body.attach, missing]
        exact steps_refused turned trivial
      · simp only
        split
        · rename_i e turned
          exact first.andThen (steps_refused (attachPhoto_eq_error_iff.mp turned) trivial)
        · rename_i attached
          exact first.andThen (steps_attachPhoto attached)

/-! ### One command -/

/-- One command that edits the document or stands beside it, other than those for the draft and
those of the pointer. -/
theorem perform_steps {command : Command} (isEdit : command.isEdit = true)
    (quiet : command.notesUploads = false) (elsewhere : command.handlesDraft = false)
    (still : command.isPointer = false) (c : Composer) (clock : Clock) :
    Steps clock c (c.editsOf command) (c.perform clock command).2 := by
  cases command with
  | setHeader header => exact steps_setHeader c clock header
  | setRemoteId id => exact .linked c id
  | applyStore entry => exact steps_setHeader c clock _
  | addSection kind => exact .adopted (e := .add kind) rfl trivial rfl
  | addBlock layout => exact .adopted (e := .addBlock layout) rfl trivial rfl
  | removeSection id =>
      refine steps_ofEdit (e := .remove id) rfl trivial fun made removed => ?_
      have applied : (c.deselect id).body.apply (.remove id) = .ok (Body.made made) := by
        rw [body_deselect, Body.apply, removed]
        rfl
      exact (steps_deselect c clock id).andThen (.adopted applied trivial rfl)
  | updateSection id patch => exact steps_edit (e := .update id patch) rfl trivial rfl
  | moveSection id stop => exact steps_edit (e := .move id stop) rfl trivial rfl
  | duplicateSection id =>
      refine steps_ofEdit (e := .duplicate id) rfl trivial fun made copied => ?_
      have applied : c.body.apply (.duplicate id) = .ok (Body.made made) := by
        rw [Body.apply, copied]
        rfl
      exact .adopted applied trivial rfl
  | attachPhoto list photo =>
      cases accepted : c.attachPhoto clock list photo with
      | error cause =>
          rw [perform, accepted]
          exact steps_refused (attachPhoto_eq_error_iff.mp accepted) trivial
      | ok answer =>
          rw [perform, accepted]
          exact steps_attachPhoto accepted
  | removePhoto list photo => exact steps_edit (e := .detach list photo) rfl trivial rfl
  | moveWithin list start stop =>
      refine steps_ofEdit (e := .moveWithin list start stop) rfl trivial fun made moved => ?_
      have applied : c.body.apply (.moveWithin list start stop) = .ok (Body.made made) := by
        rw [Body.apply, moved]
        rfl
      split
      · rename_i still
        subst still
        have same : made.1 = c.body := Body.moveWithin_self moved
        have after_eq := Body.after_of_apply applied
        rw [same]
        exact .spared (after_eq.trans same) trivial
      · exact .adopted applied trivial rfl
  | moveAcross source index target =>
      exact steps_edit (e := .moveAcross source index target) rfl trivial rfl
  | toggleSelected id =>
      simp only [perform, toggleSelected]
      split
      · exact .idle c
      · split
        · exact steps_deselect c clock id
        · exact .selected _ (.idle _)
  | clearSelection =>
      simp only [perform, clearSelection]
      split
      · exact .idle c
      · exact .selected [] (.idle _)
  | removeSelected =>
      have removals := steps_foldl (steps_removeNext clock) c.selection
        ([], { c with selection := [] })
      exact .selected [] removals
  | duplicateSelected => exact steps_foldl (steps_duplicateNext clock) _ ([], c)
  | capturePhoto list file =>
      have captured := steps_capturePhoto c clock list file
      simp only [perform]
      split <;> rename_i ended <;> rw [ended] at captured <;> exact captured
  | stage file =>
      simp only [perform, stageOne]
      split
      · rename_i accepted
        exact steps_stage accepted
      · exact .idle c
  | stageBatch files completion =>
      exact .restocked _ (c.stock.stageBatch_kept completion files)
  | photo id => exact .idle c
  | photos => exact .idle c
  | deletePhoto id => exact .restocked _ (c.stock.remove_lost id).toKept
  | deletePhotos => exact .restocked _ c.stock.clearAll_kept
  | preview id =>
      have same : Store.Kept c.stock.store (c.stock.preview id).2.store := by
        rw [Stock.preview_store]
        exact .refl _
      exact .restocked _ same
  | loadDraft => exact .idle c
  | pointer event => cases still
  | pollAutosave now => cases elsewhere
  | flushDraft => cases elsewhere
  | checkDraft now => cases elsewhere
  | declineDraft => cases elsewhere
  | markUploaded id url => cases quiet
  | runSubmit service batchSize ticket => cases quiet
  | restore draft => cases isEdit
  | discardDocument => cases isEdit
  | applySubmit outcome => cases isEdit
  | submit service batchSize => cases isEdit

theorem Steps.gesture_eq {edits : List Edit} (steps : Steps clock c edits after) :
    after.gesture = c.gesture := by
  induction steps with
  | andThen first next ih ih' => exact ih'.trans ih
  | adopted accepted plain kept =>
      unfold adopt commit
      split <;> rfl
  | selected ids work ih => exact ih
  | _ => rfl

end Composer

end SiteReport
