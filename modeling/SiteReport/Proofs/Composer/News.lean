import SiteReport.Proofs.Composer.RemoteLink

/-!
Whether those who listen to a composer learn that it changed. The header, the sections and the
selection never change in silence, whatever the command and whatever the stores do. The link to a
report on the server does, when it is set by hand: the edit is counted and put up for saving, and
nobody is told.
-/

namespace SiteReport

namespace Composer

variable {c mid after : Composer} {clock : Clock}

/-- Something was published since, or the header, the sections and the selection are as they were. -/
def Aired (c after : Composer) : Prop :=
  ∃ news, after.published = c.published ++ news ∧
    (news = [] → after.header = c.header ∧ after.body = c.body ∧ after.selection = c.selection)

/-- Something was published since, and what was published before is still there. -/
def Spoken (c after : Composer) : Prop :=
  ∃ news, after.published = c.published ++ news ∧ news ≠ []

/-! ### What is told -/

theorem ToldAside.spoken {e : ComposerEvent} (told : ToldAside (c.emit e) after) :
    Spoken c after := by
  obtain ⟨news, published, -⟩ := told
  refine ⟨e :: news, ?_, List.cons_ne_nil e news⟩
  rw [published, Composer.emit, List.append_assoc, List.singleton_append]

namespace Spoken

theorem emit (kept : c.published <+: mid.published) (e : ComposerEvent) :
    Spoken c (mid.emit e) := by
  obtain ⟨news, told⟩ := kept
  refine ⟨news ++ [e], ?_, by simp⟩
  rw [Composer.emit, ← told, List.append_assoc]

theorem aired (h : Spoken c after) : Aired c after := by
  obtain ⟨news, published, loud⟩ := h
  exact ⟨news, published, fun quiet => absurd quiet loud⟩

end Spoken

namespace Aired

theorem silent (published : after.published = c.published) (header : after.header = c.header)
    (body : after.body = c.body) (selection : after.selection = c.selection) : Aired c after :=
  ⟨[], published.trans (List.append_nil _).symm, fun _ => ⟨header, body, selection⟩⟩

theorem refl (c : Composer) : Aired c c := .silent rfl rfl rfl rfl

theorem trans (h : Aired c mid) (next : Aired mid after) : Aired c after := by
  obtain ⟨news, published, same⟩ := h
  obtain ⟨more, published', same'⟩ := next
  refine ⟨news ++ more, by rw [published', published, List.append_assoc], fun quiet => ?_⟩
  obtain ⟨none, none'⟩ := List.append_eq_nil_iff.mp quiet
  obtain ⟨header, body, selection⟩ := same none
  obtain ⟨header', body', selection'⟩ := same' none'
  exact ⟨header'.trans header, body'.trans body, selection'.trans selection⟩

theorem adopted {e : Edit} {r : Body × Change} (accepted : c.body.apply e = .ok (Body.made r)) :
    Aired c (c.adopt clock r) := by
  unfold adopt commit
  split
  · rename_i noop
    exact .silent rfl rfl (Body.apply_noop accepted noop) rfl
  · have kept : c.published <+: ({ c with body := r.1 }.touch clock).published := List.prefix_rfl
    exact (Spoken.emit kept _).aired

theorem published_prefix (h : Aired c after) : c.published <+: after.published := by
  obtain ⟨news, published, -⟩ := h
  exact ⟨news, published.symm⟩

end Aired

/-! ### One command -/

theorem Steps.aired {edits : List Edit} (steps : Steps clock c edits after) : Aired c after := by
  induction steps with
  | idle c => exact .refl c
  | andThen first next ih ih' => exact ih.trans ih'
  | adopted accepted plain kept => exact .adopted accepted
  | @spared c e same plain => exact .refl c
  | headed c header =>
      have kept : c.published <+: ({ c with header }.touch clock).published := List.prefix_rfl
      exact (Spoken.emit kept _).aired
  | linked c id => exact .silent rfl rfl rfl rfl
  | @selected c mid edits ids work ih =>
      -- the new selection is told once the rest is done
      exact (Spoken.emit (c := c) ih.published_prefix _).aired
  | restocked stock kept => exact .silent rfl rfl rfl rfl

/-- An outcome is taken over and told, or changes nothing. -/
theorem applySubmit_spoken (c : Composer) (clock : Clock) (outcome : SubmitOutcome) :
    (c.applySubmit clock outcome).2 = c ∨ Spoken c (c.applySubmit clock outcome).2 := by
  rcases c.applySubmit_cases clock outcome with ⟨-, turned⟩ |
    ⟨-, ⟨e, -, turned⟩ | ⟨report, -, -, applied⟩⟩
  · exact .inl (congrArg Prod.snd turned)
  · exact .inl (congrArg Prod.snd turned)
  · exact .inr applied.told.spoken

theorem aired_applySubmit (c : Composer) (clock : Clock) (outcome : SubmitOutcome) :
    Aired c (c.applySubmit clock outcome).2 := by
  rcases applySubmit_spoken c clock outcome with same | spoken
  · rw [same]
    exact .refl c
  · exact spoken.aired

theorem restore_spoken (c : Composer) (draft : Snapshot) : Spoken c (c.restore draft).2 := by
  have told : ToldAside (c.emit (.body .replaced)) (c.restore draft).2 := .emit (.refl _) rfl
  exact told.spoken

theorem discardDocument_spoken (c : Composer) (clock : Clock) : Spoken c c.discardDocument.2 := by
  let gone := c.release (c.body.stagedPhotos.map (·.2))
  let renewed : Composer :=
    { gone with header := {}, body := gone.body.clear.1, remoteId := none }.resetTransient
  have told : ToldAside (c.emit .documentReset) c.discardDocument.2 :=
    (filed_declineDraft (renewed.emit .documentReset) clock).told
  exact told.spoken

/-- One command, whatever it is. -/
theorem perform_aired (c : Composer) (clock : Clock) (command : Command) :
    Aired c (c.perform clock command).2 := by
  cases drafts : command.handlesDraft with
  | true =>
      have filed := perform_filed drafts c clock
      obtain ⟨store, autosave, published, same⟩ := filed.rest
      obtain ⟨news, told, -⟩ := filed.told
      refine ⟨news, told, fun _ => ?_⟩
      rw [same]
      exact ⟨rfl, rfl, rfl⟩
  | false =>
      cases command with
      | pointer event =>
          obtain ⟨gesture, steps⟩ := steps_pointer c clock event
          exact steps.aired
      | markUploaded id url =>
          simp only [perform, markUploaded]
          split <;> exact .silent rfl rfl rfl rfl
      | runSubmit service batchSize ticket => exact .silent rfl rfl rfl rfl
      | restore draft => exact (restore_spoken c draft).aired
      | discardDocument => exact (discardDocument_spoken c clock).aired
      | applySubmit outcome => exact aired_applySubmit c clock outcome
      | submit service batchSize =>
          have run : Aired c (c.runSubmit service batchSize c.beginSubmit).2 :=
            .silent rfl rfl rfl rfl
          exact run.trans (aired_applySubmit _ clock _)
      | _ => exact (perform_steps rfl rfl drafts rfl c clock).aired

/-- The link changes with an event only, unless it is set by hand. -/
theorem perform_link_spoken {command : Command} (unset : ∀ id, command ≠ .setRemoteId id)
    (c : Composer) (clock : Clock) : (c.perform clock command).2.remoteId = c.remoteId ∨
      Spoken c (c.perform clock command).2 := by
  -- a submit takes an outcome over after its run, which leaves the link alone
  by_cases sends : ∃ service n, command = .submit service n
  · obtain ⟨service, n, rfl⟩ := sends
    let ran := (c.runSubmit service n c.beginSubmit).2
    rcases applySubmit_spoken ran clock (c.runSubmit service n c.beginSubmit).1.outcome with
      same | spoken
    · left
      exact congrArg (·.remoteId) same
    · exact .inr spoken
  · cases inTurn : command.inTurn with
    | true => exact .inl (remoteId_perform inTurn unset (fun s n same => sends ⟨s, n, same⟩) c clock)
    | false =>
        cases command with
        | restore draft => exact .inr (restore_spoken c draft)
        | discardDocument => exact .inr (discardDocument_spoken c clock)
        | runSubmit service batchSize ticket => exact .inl rfl
        | applySubmit outcome =>
            refine (applySubmit_spoken c clock outcome).imp_left fun same => ?_
            exact congrArg (·.remoteId) same
        | _ => cases inTurn

/-- Whatever the command, nothing that was told is taken back, and an event was published if the
header, the sections or the selection changed. If the link to a report changed, an event was published
exactly unless the command sets the link, and to another report. -/
theorem changes_told_iff (c : Composer) (clock : Clock) (command : Command) :
    let after := (c.perform clock command).2
    ∃ news, after.published = c.published ++ news ∧
      (after.header ≠ c.header ∨ after.body ≠ c.body ∨ after.selection ≠ c.selection →
        news ≠ []) ∧
      ((after.remoteId ≠ c.remoteId → news ≠ []) ↔
        ¬ ∃ id, command = .setRemoteId id ∧ c.remoteId ≠ some id) := by
  intro after
  obtain ⟨news, published, same⟩ := perform_aired c clock command
  refine ⟨news, published, ?_, ?_⟩
  · rintro changed rfl
    obtain ⟨header, body, selection⟩ := same rfl
    rcases changed with differs | differs | differs
    · exact differs header
    · exact differs body
    · exact differs selection
  · by_cases sets : ∃ id, command = .setRemoteId id
    · obtain ⟨id, rfl⟩ := sets
      have quiet : news = [] := List.append_right_eq_self.mp (published.symm.trans rfl)
      have linked : after.remoteId = some id := rfl
      rw [linked, quiet]
      constructor
      · rintro told ⟨other, given, differs⟩
        cases given
        exact told (Ne.symm differs) rfl
      · intro kept differs
        exact absurd ⟨id, rfl, Ne.symm differs⟩ kept
    · refine iff_of_true (fun differs => ?_) (fun ⟨id, given, _⟩ => sets ⟨id, given⟩)
      rcases perform_link_spoken (fun id given => sets ⟨id, given⟩) c clock with kept | spoken
      · exact absurd kept differs
      · obtain ⟨more, told, loud⟩ := spoken
        rwa [List.append_cancel_left (published.symm.trans told)]

/-- The link to a report is set: the draft is due, and nothing was published. -/
theorem link_set_in_silence :
    let c := Composer.new Twins.stock {}
    let after := (c.perform Twins.clock (.setRemoteId "r")).2
    after.remoteId ≠ c.remoteId ∧ after.isDirty = true ∧ after.published = c.published := by
  refine ⟨?_, rfl, rfl⟩
  exact Option.some_ne_none "r"

end Composer

end SiteReport
