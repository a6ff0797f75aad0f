import SiteReport.Proofs.Composer.Steps

/-!
What the commands of a session do to the document of a composer. All but four of them, which replace
the document or take over what a run found, come down to edits of the body and of the header; and
whatever they change they count, so that an equal count means an equal document.
-/

namespace SiteReport

namespace Body

/-- A change that is none leaves the body as it was. -/
theorem apply_noop {b after : Body} {e : Edit} {change : Change}
    (accepted : b.apply e = .ok (after, some change)) (noop : change.isNoop = true) :
    after = b := by
  have told {answer : Except EditError (Body × Change)}
      (h : answer.map made = .ok (after, some change)) : answer = .ok (after, change) := by
    obtain ⟨_, answered, same⟩ := map_made_eq_ok_iff.mp h
    cases same
    exact answered
  cases e with
  | add kind => cases accepted; cases noop
  | addBlock layout => cases accepted; cases noop
  | push content => cases accepted; cases noop
  | remove id =>
      obtain ⟨_, _, _, _, h⟩ := remove_eq_ok_iff.mp (told accepted)
      cases h
      cases noop
  | update id patch =>
      obtain ⟨_, _, _, _, _, _, h⟩ := update_eq_ok_iff.mp (told accepted)
      cases h
      cases noop
  | move id stop =>
      obtain ⟨pre, s, post, split, inside, h⟩ := move_eq_ok_iff.mp (told accepted)
      cases h
      have same : pre.length = stop := by simpa [Change.isNoop] using noop
      rw [same, moveItem_self]
  | duplicate id =>
      obtain ⟨_, _, _, _, h⟩ := duplicate_eq_ok_iff.mp (told accepted)
      cases h
      cases noop
  | attach list photo =>
      obtain ⟨photos, _, _, h⟩ := attach_eq_ok_iff.mp accepted
      split at h
      · cases h
      · cases h
        cases noop
  | detach list photo =>
      obtain ⟨_, _, _, h⟩ := detach_eq_ok_iff.mp (told accepted)
      cases h
      cases noop
  | moveWithin list start stop =>
      obtain ⟨_, _, _, _, h⟩ := moveWithin_eq_ok_iff.mp (told accepted)
      cases h
      cases noop
  | moveAcross source index target =>
      rcases moveAcross_eq_ok_iff.mp (told accepted) with ⟨_, _, _, within⟩ | ⟨_, _, _, _, h⟩
      · obtain ⟨_, _, _, _, h⟩ := moveWithin_eq_ok_iff.mp within
        cases h
        cases noop
      · cases h
        cases noop
  | resolve resolution => cases accepted; cases noop
  | clear => cases accepted; cases noop

end Body

namespace Composer

variable {c mid after : Composer} {clock : Clock}

/-- A composer after edits of its document, each of them counted. -/
structure Edited (c : Composer) (edits : List Edit) (after : Composer) : Prop where
  body_eq : after.body = c.body.run edits
  plain : ∀ e ∈ edits, e.Plain
  generation_eq : after.generation = c.generation
  revision_le : c.revision ≤ after.revision
  unchanged : after.revision = c.revision →
    after.header = c.header ∧ after.body = c.body ∧ after.remoteId = c.remoteId

namespace Edited

theorem aside (header : after.header = c.header) (body : after.body = c.body)
    (remoteId : after.remoteId = c.remoteId) (generation : after.generation = c.generation)
    (revision : after.revision = c.revision) : Edited c [] after :=
  ⟨body, nofun, generation, revision ▸ Nat.le_refl _, fun _ => ⟨header, body, remoteId⟩⟩

theorem refl (c : Composer) : Edited c [] c := aside rfl rfl rfl rfl rfl

theorem trans {edits more : List Edit} (h : Edited c edits mid) (next : Edited mid more after) :
    Edited c (edits ++ more) after where
  body_eq := by rw [next.body_eq, h.body_eq, Body.run, Body.run, Body.run, List.foldl_append]
  plain := fun e he => (List.mem_append.mp he).elim (h.plain e) (next.plain e)
  generation_eq := next.generation_eq.trans h.generation_eq
  revision_le := Nat.le_trans h.revision_le next.revision_le
  unchanged := by
    intro same
    -- the count never falls, so it stood still in both parts
    have first : mid.revision = c.revision :=
      Nat.le_antisymm (same ▸ next.revision_le) h.revision_le
    obtain ⟨header, body, remoteId⟩ := h.unchanged first
    obtain ⟨header', body', remoteId'⟩ := next.unchanged (same.trans first.symm)
    exact ⟨header'.trans header, body'.trans body, remoteId'.trans remoteId⟩

/-- What is counted may change the document. -/
theorem counted {edits : List Edit} (body : after.body = c.body.run edits)
    (plain : ∀ e ∈ edits, e.Plain) (generation : after.generation = c.generation)
    (revision : c.revision < after.revision) : Edited c edits after :=
  ⟨body, plain, generation, Nat.le_of_lt revision, fun same => absurd same (Nat.ne_of_gt revision)⟩

/-- An accepted edit is taken over, and counted if it changed something. -/
theorem adopt {e : Edit} {r : Body × Change} (accepted : c.body.apply e = .ok (Body.made r))
    (plain : e.Plain) : Edited c [e] (c.adopt clock r) := by
  have body : r.1 = c.body.run [e] := (Body.after_of_apply accepted).symm
  have plain : ∀ e' ∈ [e], e'.Plain := by simpa using plain
  unfold Composer.adopt Composer.commit
  split
  · rename_i noop
    have same : r.1 = c.body := Body.apply_noop accepted noop
    exact ⟨body, plain, rfl, Nat.le_refl _, fun _ => ⟨rfl, same, rfl⟩⟩
  · exact counted body plain rfl (Nat.lt_succ_self _)

/-- An edit that leaves the body as it is, and is not counted. -/
theorem idle {e : Edit} (same : c.body.after e = c.body) (plain : e.Plain) : Edited c [e] c :=
  ⟨same.symm, by simpa using plain, rfl, Nat.le_refl _, fun _ => ⟨rfl, rfl, rfl⟩⟩

end Edited

/-! ### One command -/

/-- How many section identifiers a command gives out at most. -/
def given (c : Composer) : Command → Nat
  | .addSection _ => 1
  | .addBlock _ => 1
  | .duplicateSection _ => 1
  | .duplicateSelected => (c.body.ids.filter (c.selection.contains ·)).length
  | _ => 0

theorem countP_map_numbers {α : Type} {f : α → Edit} (plain : ∀ a, (f a).numbers = false)
    (items : List α) (most : Nat) : (items.map f).countP (·.numbers) ≤ most := by
  have none : (items.map f).countP (·.numbers) = 0 := by
    rw [List.countP_eq_zero]
    intro e member
    obtain ⟨a, -, rfl⟩ := List.mem_map.mp member
    simp [plain a]
  omega

theorem countP_editsOf_le (c : Composer) (command : Command) :
    (c.editsOf command).countP (·.numbers) ≤ c.given command := by
  cases command with
  | addSection kind => exact Nat.le_refl 1
  | addBlock layout => exact Nat.le_refl 1
  | duplicateSection id => exact Nat.le_refl 1
  | removeSelected => exact countP_map_numbers (fun _ => rfl) _ _
  | duplicateSelected =>
      refine Nat.le_trans List.countP_le_length ?_
      rw [editsOf, List.length_map]
      exact Nat.le_refl _
  | pointer event =>
      cases event with
      | up now => exact countP_map_numbers (fun r => by cases r <;> rfl) _ _
      | _ => exact Nat.le_refl 0
  | capturePhoto list file => exact countP_map_numbers (fun _ => rfl) _ _
  | applySubmit outcome => exact countP_map_numbers (fun _ => rfl) _ _
  | submit service batchSize => exact countP_map_numbers (fun _ => rfl) _ _
  | _ => exact Nat.le_refl 0

/-- Edits that leave the draft in its slot alone. What is counted makes the draft due again. -/
structure Works (c : Composer) (edits : List Edit) (after : Composer) : Prop where
  edited : Edited c edits after
  kept : Store.Kept c.stock.store after.stock.store
  timer : after.revision = c.revision ∧ after.autosave = c.autosave ∨
    c.revision < after.revision ∧ after.isDirty = true
  linked : c.remoteId.isSome = true → after.remoteId.isSome = true

namespace Works

/-- A command that leaves the document alone. -/
theorem beside (header : after.header = c.header) (body : after.body = c.body)
    (remoteId : after.remoteId = c.remoteId) (generation : after.generation = c.generation)
    (revision : after.revision = c.revision) (autosave : after.autosave = c.autosave)
    (kept : Store.Kept c.stock.store after.stock.store) : Works c [] after where
  edited := .aside header body remoteId generation revision
  kept := kept
  timer := .inl ⟨revision, autosave⟩
  linked := fun known => remoteId ▸ known

/-- Neither the document nor the stock was touched. -/
theorem aside (header : after.header = c.header) (body : after.body = c.body)
    (remoteId : after.remoteId = c.remoteId) (generation : after.generation = c.generation)
    (revision : after.revision = c.revision) (autosave : after.autosave = c.autosave)
    (stock : after.stock = c.stock) : Works c [] after :=
  .beside header body remoteId generation revision autosave (stock ▸ .refl _)

theorem refl (c : Composer) : Works c [] c := .aside rfl rfl rfl rfl rfl rfl rfl

theorem trans {edits more : List Edit} (h : Works c edits mid) (next : Works mid more after) :
    Works c (edits ++ more) after := by
  refine ⟨h.edited.trans next.edited, h.kept.trans next.kept, ?_,
    fun known => next.linked (h.linked known)⟩
  rcases next.timer with ⟨still, same⟩ | ⟨counted, dirty⟩
  · rw [still, same, isDirty, same]
    exact h.timer
  · exact .inr ⟨Nat.lt_of_le_of_lt h.edited.revision_le counted, dirty⟩

theorem adopt {e : Edit} {r : Body × Change} (accepted : c.body.apply e = .ok (Body.made r))
    (plain : e.Plain) : Works c [e] (c.adopt clock r) := by
  have edited : Edited c [e] (c.adopt clock r) := .adopt accepted plain
  by_cases noop : r.2.isNoop = true
  · have still : c.adopt clock r = { c with body := r.1 } := if_pos noop
    rw [still] at edited ⊢
    exact ⟨edited, .refl _, .inl ⟨rfl, rfl⟩, id⟩
  · have told : c.adopt clock r = ({ c with body := r.1 }.touch clock).emit (.body r.2) :=
      if_neg noop
    rw [told] at edited ⊢
    exact ⟨edited, .refl _, .inr ⟨Nat.lt_succ_self _, rfl⟩, id⟩

theorem idle {e : Edit} (same : c.body.after e = c.body) (plain : e.Plain) : Works c [e] c :=
  ⟨.idle same plain, .refl _, .inl ⟨rfl, rfl⟩, id⟩

/-- Changes of the header and of the link to the server are counted. -/
theorem counted (body : after.body = c.body) (generation : after.generation = c.generation)
    (revision : c.revision < after.revision) (dirty : after.isDirty = true)
    (stock : after.stock = c.stock)
    (linked : c.remoteId.isSome = true → after.remoteId.isSome = true) : Works c [] after where
  edited := .counted body nofun generation revision
  kept := stock ▸ .refl _
  timer := .inr ⟨revision, dirty⟩
  linked := linked

end Works

theorem Steps.works {edits : List Edit} (steps : Steps clock c edits after) :
    Works c edits after := by
  induction steps with
  | idle c => exact .refl c
  | andThen first next ih ih' => exact ih.trans ih'
  | adopted accepted plain kept => exact .adopt accepted plain
  | spared same plain => exact .idle same plain
  | headed c header => exact .counted rfl rfl (Nat.lt_succ_self _) rfl rfl id
  | linked c id => exact .counted rfl rfl (Nat.lt_succ_self _) rfl rfl fun _ => rfl
  | @selected c mid edits ids work ih =>
      have picked : Works c [] { c with selection := ids } := .aside rfl rfl rfl rfl rfl rfl rfl
      have told : Works mid [] (mid.emit .selectionChanged) := .aside rfl rfl rfl rfl rfl rfl rfl
      simpa using (picked.trans ih).trans told
  | restocked stock kept => exact .beside rfl rfl rfl rfl rfl rfl kept

/-- One command that edits the document or stands beside it, other than those for the draft. -/
theorem perform_works {command : Command} (isEdit : command.isEdit = true)
    (quiet : command.notesUploads = false) (elsewhere : command.handlesDraft = false)
    (c : Composer) (clock : Clock) :
    Works c (c.editsOf command) (c.perform clock command).2 := by
  cases still : command.isPointer with
  | false => exact (perform_steps isEdit quiet elsewhere still c clock).works
  | true =>
      cases command with
      | pointer event =>
          obtain ⟨gesture, steps⟩ := steps_pointer c clock event
          have dragged : Works c [] { c with gesture } := .aside rfl rfl rfl rfl rfl rfl rfl
          exact dragged.trans steps.works
      | _ => cases still

theorem Filed.edited {command : Command} (drafts : command.handlesDraft = true)
    (h : Filed c clock command after) : Edited c (c.editsOf command) after := by
  have none : c.editsOf command = [] := by
    cases command <;> first | rfl | cases drafts
  obtain ⟨store, autosave, published, rfl⟩ := h.rest
  rw [none]
  exact .aside rfl rfl rfl rfl rfl

/-- One command that edits the document or stands beside it. -/
theorem perform_edited {command : Command} (isEdit : command.isEdit = true) (c : Composer)
    (clock : Clock) : Edited c (c.editsOf command) (c.perform clock command).2 := by
  cases drafts : command.handlesDraft with
  | true => exact (perform_filed drafts c clock).edited drafts
  | false =>
      cases quiet : command.notesUploads with
      | false => exact (perform_works isEdit quiet drafts c clock).edited
      | true =>
          cases command with
          | runSubmit service batchSize ticket => exact .aside rfl rfl rfl rfl rfl
          | markUploaded id url =>
              simp only [perform, markUploaded]
              split <;> exact .aside rfl rfl rfl rfl rfl
          | submit service batchSize => cases isEdit
          | _ => cases quiet

/-- Such a command puts no address on record, unless it is one that does. -/
theorem perform_records {command : Command} (isEdit : command.isEdit = true)
    (quiet : command.notesUploads = false) (c : Composer) (clock : Clock) :
    (c.perform clock command).2.stock.store.RecordsFrom c.stock.store := by
  cases drafts : command.handlesDraft with
  | true => exact (perform_filed drafts c clock).records
  | false => exact (perform_works isEdit quiet drafts c clock).kept.records

/-- A session of edits. -/
theorem play_edited {session : List (Clock × Command)}
    (isEdit : ∀ e ∈ session, e.2.isEdit = true) (c : Composer) :
    ∃ edits, Edited c edits (c.play session) := by
  induction session generalizing c with
  | nil => exact ⟨[], .refl c⟩
  | cons e rest ih =>
      have first := perform_edited (isEdit e List.mem_cons_self) c e.1
      obtain ⟨more, others⟩ := ih (fun e' he' => isEdit e' (List.mem_cons_of_mem _ he'))
        (c.perform e.1 e.2).2
      exact ⟨_, first.trans others⟩

end Composer

end SiteReport
