import SiteReport.Proofs.Composer.DraftSlot

/-!
What stands beside the sections: the header, the link to the server, and what is selected. Most
commands work on the sections, the photos in stock or the draft, and leave all of it as it was.
-/

namespace SiteReport

/-- Commands that leave alone what stands beside the sections. -/
def Command.isWithin : Command → Bool
  | .setHeader _ => false
  | .setRemoteId _ => false
  | .applyStore _ => false
  | .removeSection _ => false
  | .toggleSelected _ => false
  | .clearSelection => false
  | .removeSelected => false
  | .restore _ => false
  | .discardDocument => false
  | .applySubmit _ => false
  | .submit _ _ => false
  | _ => true

namespace Composer

/-- What stands beside the sections is as it was. -/
structure Beside (c after : Composer) : Prop where
  header_eq : after.header = c.header
  remoteId_eq : after.remoteId = c.remoteId
  selection_eq : after.selection = c.selection

variable {c mid after : Composer} {clock : Clock}

namespace Beside

theorem refl (c : Composer) : Beside c c := ⟨rfl, rfl, rfl⟩

theorem trans (h : Beside c mid) (next : Beside mid after) : Beside c after where
  header_eq := next.header_eq.trans h.header_eq
  remoteId_eq := next.remoteId_eq.trans h.remoteId_eq
  selection_eq := next.selection_eq.trans h.selection_eq

theorem adopt (c : Composer) (clock : Clock) (r : Body × Change) : Beside c (c.adopt clock r) := by
  unfold Composer.adopt commit
  split <;> exact ⟨rfl, rfl, rfl⟩

/-- An edit that may be refused, and then leaves everything as it is. -/
theorem ofEdit {α β : Type} {answer : α → Answer} {r : Except EditError β}
    {told : β → α × Composer} (accepted : ∀ made, r = .ok made → Beside c (told made).2) :
    Beside c (Answer.ofEdit c answer (r.map told)).2 := by
  cases r with
  | error e => exact refl c
  | ok made => exact accepted made rfl

theorem edit (answer : Change → Answer) (r : Except EditError (Body × Change)) :
    Beside c (Answer.ofEdit c answer (c.edit clock r)).2 :=
  ofEdit fun made _ => adopt c clock made

theorem foldl {α : Type} {step : α × Composer → SectionId → α × Composer}
    (one : ∀ r id, Beside r.2 (step r id).2) (ids : List SectionId) (r : α × Composer) :
    Beside r.2 (ids.foldl step r).2 := by
  induction ids generalizing r with
  | nil => exact refl r.2
  | cons id rest ih => exact (one r id).trans (ih (step r id))

end Beside

@[simp] theorem body_adopt (c : Composer) (clock : Clock) (r : Body × Change) :
    (c.adopt clock r).body = r.1 := by
  unfold adopt commit
  split <;> rfl

theorem removeNext_beside (clock : Clock) (r : List Change × Composer) (id : SectionId) :
    Beside r.2 (removeNext clock r id).2 := by
  unfold removeNext
  split
  · exact .adopt r.2 clock _
  · exact .refl r.2

theorem duplicateNext_beside (clock : Clock) (r : List SectionId × Composer) (id : SectionId) :
    Beside r.2 (duplicateNext clock r id).2 := by
  unfold duplicateNext
  split
  · rename_i copied
    obtain ⟨made, -, same⟩ := map_eq_ok_iff.mp copied
    cases same
    exact .adopt r.2 clock made
  · exact .refl r.2

theorem attachPhoto_beside {list : PhotoList} {photo : PhotoRef}
    {answer : Option Change × Composer} (h : c.attachPhoto clock list photo = .ok answer) :
    Beside c answer.2 := by
  obtain ⟨⟨body, change⟩, -, same⟩ := map_eq_ok_iff.mp h
  cases change with
  | none =>
      cases same
      exact .refl c
  | some change =>
      cases same
      exact .adopt c clock (body, change)

theorem stage_beside {file : Incoming} {answer : StagedPhoto × Composer}
    (h : c.stage file = .ok answer) : Beside c answer.2 := by
  obtain ⟨made, -, same⟩ := map_eq_ok_iff.mp h
  cases same
  exact ⟨rfl, rfl, rfl⟩

theorem capturePhoto_beside (c : Composer) (clock : Clock) (list : PhotoList) (file : Incoming) :
    Beside c (c.capturePhoto clock list file).2 := by
  unfold capturePhoto
  split
  · exact .refl c
  · split
    · exact .refl c
    · rename_i staged
      split
      · exact stage_beside staged
      · rename_i attached
        exact (stage_beside staged).trans (attachPhoto_beside attached)

theorem pointerUp_beside (c : Composer) (clock : Clock) (now : Int) :
    Beside c (c.pointerUp clock now).2 := by
  have dropped : Beside c { c with gesture := (c.gesture.up now c.body).2 } := ⟨rfl, rfl, rfl⟩
  unfold pointerUp
  simp only
  split
  · exact dropped
  · split
    · exact dropped
    · exact dropped.trans (.adopt _ clock _)

theorem pointer_beside (c : Composer) (clock : Clock) (event : PointerEvent) :
    Beside c (c.pointer clock event).2 := by
  cases event with
  | up now =>
      have released := c.pointerUp_beside clock now
      unfold pointer
      simp only
      split <;> rename_i ended <;> rw [ended] at released <;> exact released
  | _ => exact ⟨rfl, rfl, rfl⟩

theorem Filed.beside {command : Command} (h : Filed c clock command after) : Beside c after := by
  obtain ⟨store, autosave, published, rfl⟩ := h.rest
  exact ⟨rfl, rfl, rfl⟩

/-- One command. -/
theorem perform_beside {command : Command} (within : command.isWithin = true) (c : Composer)
    (clock : Clock) : Beside c (c.perform clock command).2 := by
  cases drafts : command.handlesDraft with
  | true => exact (perform_filed drafts c clock).beside
  | false =>
      cases command with
      | addSection kind => exact .adopt c clock (c.body.add kind)
      | addBlock layout => exact .adopt c clock (c.body.addBlock layout)
      | updateSection id patch => exact .edit _ _
      | moveSection id stop => exact .edit _ _
      | duplicateSection id => exact .ofEdit fun made _ => .adopt c clock made
      | attachPhoto list photo =>
          simp only [perform, Answer.ofEdit]
          split
          · rename_i attached
            exact attachPhoto_beside attached
          · exact .refl c
      | removePhoto list photo => exact .edit _ _
      | moveWithin list start stop =>
          refine .ofEdit fun made _ => ?_
          split
          · exact ⟨rfl, rfl, rfl⟩
          · exact .adopt c clock made
      | moveAcross source index target => exact .edit _ _
      | duplicateSelected => exact .foldl (duplicateNext_beside clock) _ ([], c)
      | pointer event => exact c.pointer_beside clock event
      | capturePhoto list file =>
          have captured := c.capturePhoto_beside clock list file
          simp only [perform]
          split <;> rename_i ended <;> rw [ended] at captured <;> exact captured
      | stage file =>
          simp only [perform, stageOne]
          split
          · rename_i staged
            exact stage_beside staged
          · exact .refl c
      | markUploaded id url =>
          simp only [perform, markUploaded]
          split <;> exact ⟨rfl, rfl, rfl⟩
      | stageBatch files completion => exact ⟨rfl, rfl, rfl⟩
      | photo id => exact .refl c
      | photos => exact .refl c
      | deletePhoto id => exact ⟨rfl, rfl, rfl⟩
      | deletePhotos => exact ⟨rfl, rfl, rfl⟩
      | preview id => exact ⟨rfl, rfl, rfl⟩
      | loadDraft => exact .refl c
      | runSubmit service n ticket => exact ⟨rfl, rfl, rfl⟩
      | pollAutosave now => cases drafts
      | flushDraft => cases drafts
      | checkDraft now => cases drafts
      | declineDraft => cases drafts
      | _ => cases within

end Composer

end SiteReport
