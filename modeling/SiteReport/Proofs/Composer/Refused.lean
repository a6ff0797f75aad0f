import SiteReport.InPlace
import SiteReport.Proofs.Document.InPlace
import SiteReport.Proofs.Store.Staging
import SiteReport.Proofs.Submission.Resubmission

/-!
A refused operation changes nothing: not the document, and nothing that a composer keeps beside it.
Only a drag that is let go is over, whatever becomes of its command.
-/

namespace SiteReport

namespace InPlace

variable {ε ε' σ α : Type} {s left : σ} {answer : Except ε (σ × α)} {e : ε}

theorem settled_eq_error (h : settled s answer = (.error e, left)) :
    left = s ∧ answer = .error e := by
  cases answer with
  | ok r => cases h
  | error e' =>
      cases h
      exact ⟨rfl, rfl⟩

theorem exec_mapError {f : ε → ε'} {steps : InPlace ε σ α} (h : exec steps s = settled s answer) :
    exec (mapError f steps) s = settled s (answer.mapError f) := by
  show ((exec steps s).1.mapError f, (exec steps s).2) = _
  rw [h]
  cases answer <;> rfl

end InPlace

/-- A photo for which there is no room in a list that is there is staged, and stands in a list of
another category. -/
theorem Body.attach_refused {b : Body} {list : PhotoList} {photo : PhotoRef}
    {photos : List PhotoRef} {e : EditError} (known : b.photos list = .ok photos)
    (refused : b.attach list photo = .error e) : ∃ id other held, photo = .staged id ∧
      (other, held) ∈ b.lists ∧ .staged id ∈ held ∧ other.category ≠ list.category ∧
      e = .stagedElsewhere id other.category := by
  have clash : b.conflict? photo list.category none = some e := by
    rw [attach, known] at refused
    cases found : b.conflict? photo list.category none with
    | none =>
        simp only [found] at refused
        split at refused <;> cases refused
    | some cause =>
        simp only [found, Except.error.injEq] at refused
        rw [refused]
  cases photo with
  | resolved url => cases clash
  | staged id =>
      obtain ⟨⟨other, staged⟩, found, rfl⟩ := Option.map_eq_some_iff.mp clash
      have differs := List.find?_some found
      simp only [Bool.and_eq_true, beq_iff_eq, bne_iff_ne] at differs
      obtain ⟨⟨rfl, -⟩, apart⟩ := differs
      obtain ⟨held, listed, inside⟩ := mem_stagedPhotos_iff.mp (List.mem_of_find?_eq_some found)
      exact ⟨staged, other, held, rfl, listed, inside, apart, rfl⟩

namespace Composer.InPlace

open SiteReport.InPlace

variable {α β : Type} {c : Composer} {clock : Clock}

theorem exec_onBody {steps : InPlace EditError Body α} {answer : Except EditError (Body × α)}
    (h : exec steps c.body = settled c.body answer) :
    exec (onBody steps) c = settled c (answer.map fun r => ({ c with body := r.1 }, r.2)) := by
  show ((exec steps c.body).1, { c with body := (exec steps c.body).2 }) = _
  rw [h]
  cases answer <;> rfl

theorem exec_edit {steps : InPlace EditError Body Change}
    {answer : Except EditError (Body × Change)} (h : exec steps c.body = settled c.body answer) :
    exec (edit clock steps) c = settled c ((c.edit clock answer).map Prod.swap) := by
  rw [edit, exec_bind, exec_onBody h]
  cases answer <;> rfl

theorem exec_removeSection (id : SectionId) :
    exec (removeSection clock id) c = settled c ((c.removeSection clock id).map Prod.swap) := by
  rw [removeSection, exec_bind, exec_onBody (Body.InPlace.exec_remove id), Composer.removeSection]
  cases c.body.remove id with
  | error e => rfl
  | ok r =>
      -- the selection does not look at the body, so the two may be written in either order
      have apart : Composer.deselect { c with body := r.1 } id =
          { c.deselect id with body := r.1 } := by
        unfold Composer.deselect
        split <;> rfl
      show (_, Composer.commit (Composer.deselect { c with body := r.1 } id) clock r.2) = _
      rw [apart]
      rfl

theorem exec_duplicateSection (id : SectionId) :
    exec (duplicateSection clock id) c =
      settled c ((c.duplicateSection clock id).map Prod.swap) := by
  rw [duplicateSection, exec_bind, exec_onBody (Body.InPlace.exec_duplicate id),
    Composer.duplicateSection]
  cases c.body.duplicate id <;> rfl

theorem exec_attachPhoto (list : PhotoList) (photo : PhotoRef) :
    exec (attachPhoto clock list photo) c =
      settled c ((c.attachPhoto clock list photo).map Prod.swap) := by
  rw [attachPhoto, exec_bind, exec_onBody (Body.InPlace.exec_attach list photo),
    Composer.attachPhoto]
  cases attached : c.body.attach list photo with
  | error e => rfl
  | ok r =>
      obtain ⟨photos, -, -, rfl⟩ := Body.attach_eq_ok_iff.mp attached
      by_cases present : photo ∈ photos
      · rw [if_pos present]
        rfl
      · rw [if_neg present]
        rfl

theorem exec_moveWithin (list : PhotoList) (start stop : Nat) :
    exec (moveWithin clock list start stop) c =
      settled c ((c.moveWithin clock list start stop).map Prod.swap) := by
  rw [moveWithin, exec_bind, exec_onBody (Body.InPlace.exec_moveWithin list start stop),
    Composer.moveWithin]
  cases c.body.moveWithin list start stop with
  | error e => rfl
  | ok r =>
      by_cases same : start = stop
      · simp [same, settled, Except.map]
      · simp only [Except.map, settled, same, if_false]
        rfl

theorem exec_toggleSelected (id : SectionId) :
    exec (toggleSelected id) c = settled c ((c.toggleSelected id).map Prod.swap) := by
  rw [toggleSelected, Composer.toggleSelected]
  cases found : c.body.find? id with
  | none =>
      have refused : exec (Body.InPlace.indexOf id) c.body =
          settled c.body (.error (.unknownSection id)) := Body.InPlace.exec_indexOf_unknown found
      have unknown : exec (onBody (Body.InPlace.indexOf id)) c = (.error (.unknownSection id), c) :=
        exec_onBody refused
      rw [exec_bind_error unknown, Body.find?_eq_none_iff_indexOf?.mp found]
      rfl
  | some s =>
      obtain ⟨pre, post, split⟩ := Body.exists_split_of_find? found
      have known : exec (onBody (Body.InPlace.indexOf id)) c = (.ok pre.length, c) :=
        exec_onBody (show _ = settled c.body (.ok (_, _)) from Body.InPlace.exec_indexOf split)
      rw [exec_bind_ok known, split.indexOf?]
      show exec _ c = _
      rw [exec_bind_ok exec_get]
      cases c.selection.contains id <;> rfl

theorem exec_reorder {b : Body} (r : Reorder) : exec (reorder r) b = settled b (r.apply b) := by
  cases r with
  | moveSection id stop => exact Body.InPlace.exec_move id stop
  | moveWithin list start stop => exact Body.InPlace.exec_moveWithin list start stop
  | moveAcross source index target => exact Body.InPlace.exec_moveAcross source index target

/-- The drag is over when its command is looked at. -/
theorem exec_pointerUp (now : Int) : ∃ answer,
    exec (pointerUp clock now) c = settled { c with gesture := c.gesture.cancel } answer ∧
    c.pointerUp clock now = settled { c with gesture := c.gesture.cancel } answer := by
  rw [pointerUp, exec_bind_ok exec_get, Composer.pointerUp]
  have told : c.gesture.up now c.body = ((c.gesture.up now c.body).1, c.gesture.cancel) := rfl
  generalize (c.gesture.up now c.body).1 = command at told
  rw [told]
  let ended : Composer := { c with gesture := c.gesture.cancel }
  cases command with
  | none => exact ⟨.ok (ended, none), rfl, rfl⟩
  | some command =>
      have edited : exec (edit clock (reorder command)) ended = _ :=
        exec_edit (exec_reorder command)
      refine ⟨_, exec_map some _ edited, ?_⟩
      change _ = settled ended
        ((((command.apply c.body).map fun r => (r.2, ended.adopt clock r)).map Prod.swap).map _)
      dsimp only
      cases command.apply c.body <;> rfl

/-! ### Taking a photo -/

theorem exec_stage (file : Incoming) :
    exec (stage file) c =
      settled c (((c.stage file).map Prod.swap).mapError CaptureError.stage) := by
  rw [stage, exec_bind_ok exec_get]
  cases c.stage file <;> rfl

theorem exec_capturePhoto (list : PhotoList) (file : Incoming) :
    exec (capturePhoto clock list file) c = c.capturePhoto clock list file := by
  have looked : exec (mapError CaptureError.edit (onBody (Body.InPlace.photos list))) c =
      settled c (((c.body.photos list).map (c, ·)).mapError CaptureError.edit) := by
    apply exec_mapError
    have found : exec (Body.InPlace.photos list) c.body =
        settled c.body ((c.body.photos list).map (c.body, ·)) := by
      rw [Body.InPlace.exec_photos]
      cases c.body.photos list <;> rfl
    rw [exec_onBody found]
    cases c.body.photos list <;> rfl
  rw [capturePhoto, exec_bind, looked, Composer.capturePhoto]
  cases c.body.photos list with
  | error e => rfl
  | ok photos =>
      show exec (stage file >>= _) c = _
      rw [exec_bind, exec_stage]
      cases c.stage file with
      | error e => rfl
      | ok r =>
          obtain ⟨photo, staged⟩ := r
          show exec (mapError CaptureError.edit (attachPhoto clock list _) >>= _) staged = _
          rw [exec_bind, exec_mapError (exec_attachPhoto list _)]
          dsimp only
          cases staged.attachPhoto clock list (.staged photo.id) <;> rfl

/-! ### All commands -/

/-- What the steps of a command come to, after the gesture was written. -/
structure Settles (c : Composer) (clock : Clock) (command : Command)
    (steps : InPlace EditError Composer Answer) (base : Composer)
    (answer : Except EditError (Composer × Answer)) : Prop where
  exec_eq : exec steps c = settled base answer
  perform_eq : c.perform clock command = Answer.ofSteps (settled base answer)
  told : ∀ r, answer = .ok r → ∀ cause, r.2 ≠ .refused cause

theorem settles_map {command : Command} {steps : InPlace EditError Composer α} {f : α → Answer}
    {answer : Except EditError (α × Composer)}
    (h : exec steps c = settled c (answer.map Prod.swap))
    (performed : c.perform clock command = Answer.ofEdit c f answer)
    (told : ∀ a cause, f a ≠ .refused cause) :
    ∃ answer, Settles c clock command (f <$> steps) c answer := by
  refine ⟨_, exec_map f steps h, performed.trans ?_, ?_⟩
  · cases answer <;> rfl
  · rintro ⟨left, a⟩ accepted cause
    cases answer with
    | error e => cases accepted
    | ok r =>
        cases accepted
        exact told r.1 cause

theorem Settles.refused_iff {command : Command} {steps : InPlace EditError Composer Answer}
    {base left : Composer} {answer : Except EditError (Composer × Answer)} {cause : EditError}
    (h : Settles c clock command steps base answer) :
    (c.perform clock command = (.refused cause, left) ↔ exec steps c = (.error cause, left)) ∧
    (exec steps c = (.error cause, left) → left = base) := by
  rw [h.exec_eq, h.perform_eq]
  refine ⟨?_, fun failed => (settled_eq_error failed).1⟩
  cases answer with
  | ok r => simpa [settled, Answer.ofSteps] using fun refused => absurd refused (h.told r rfl cause)
  | error e => simp [settled, Answer.ofSteps]

/-- The steps of a command come to what the command does, and write nothing before they fail; a drag
that is let go is over before. -/
theorem perform?_settles {command : Command} {steps : InPlace EditError Composer Answer}
    (known : perform? clock command = some steps) :
    (∃ answer, Settles c clock command steps c answer) ∨
      ∃ now answer, command = .pointer (.up now) ∧
        Settles c clock command steps { c with gesture := c.gesture.cancel } answer := by
  have changed : ∀ a cause, (Answer.changed ∘ some) a ≠ .refused cause := by
    rintro a cause ⟨⟩
  cases command with
  | removeSection id =>
      cases known
      exact .inl (settles_map (exec_removeSection id) rfl changed)
  | updateSection id patch =>
      cases known
      exact .inl (settles_map (exec_edit (Body.InPlace.exec_update id patch)) rfl changed)
  | moveSection id stop =>
      cases known
      exact .inl (settles_map (exec_edit (Body.InPlace.exec_move id stop)) rfl changed)
  | duplicateSection id =>
      cases known
      exact .inl (settles_map (exec_duplicateSection id) rfl fun _ _ told => by cases told)
  | attachPhoto list photo =>
      cases known
      exact .inl (settles_map (exec_attachPhoto list photo) rfl fun _ _ told => by cases told)
  | removePhoto list photo =>
      cases known
      exact .inl (settles_map (exec_edit (Body.InPlace.exec_detach list photo)) rfl changed)
  | moveWithin list start stop =>
      cases known
      exact .inl (settles_map (exec_moveWithin list start stop) rfl changed)
  | moveAcross source index target =>
      cases known
      refine .inl (settles_map ?_ rfl changed)
      exact exec_edit (Body.InPlace.exec_moveAcross source index target)
  | toggleSelected id =>
      cases known
      exact .inl (settles_map (exec_toggleSelected id) rfl fun _ _ told => by cases told)
  | pointer event =>
      cases event with
      | up now =>
          cases known
          obtain ⟨answer, ended, released⟩ := @exec_pointerUp c clock now
          refine .inr ⟨now, answer.map fun r => (r.1, .changed r.2), rfl, ?_, ?_, ?_⟩
          · rw [map_eq_pure_bind, exec_bind, ended]
            cases answer <;> rfl
          · rw [perform, pointer, released]
            cases answer <;> rfl
          · rintro r accepted cause
            cases answer with
            | error e => cases accepted
            | ok a =>
                cases accepted
                rintro ⟨⟩
      | _ => cases known
  | _ => cases known

/-- Only these commands are ever refused. -/
theorem perform?_of_refused {command : Command} {cause : EditError} {left : Composer}
    (refused : c.perform clock command = (.refused cause, left)) :
    ∃ steps, perform? clock command = some steps := by
  have answered : (c.perform clock command).1 = .refused cause := by rw [refused]
  clear refused
  cases command
  case pointer event =>
    cases event
    case up now => exact ⟨_, rfl⟩
    case move point hit now =>
      dsimp only [perform, Composer.pointer] at answered
      split at answered <;> cases answered
    all_goals cases answered
  case capturePhoto | stage | photo | photos | markUploaded | pollAutosave | flushDraft |
      loadDraft | checkDraft | declineDraft | discardDocument =>
    dsimp only [perform, stageOne, Composer.markUploaded, lookAtDraft, Answer.ofStore] at answered
    split at answered <;> cases answered
  all_goals first
    | exact ⟨_, rfl⟩
    | cases answered

/-- A photo that was taken is refused only if its fresh identifier stands in the document already,
under another category. -/
theorem capturePhoto_refused {list : PhotoList} {file : Incoming} {cause : EditError}
    {left : Composer} (refused : c.capturePhoto clock list file = (.error (.edit cause), left)) :
    left = c ∨ left = { c with stock := left.stock } ∧ ∃ other photos,
      (other, photos) ∈ c.body.lists ∧ .staged file.fresh ∈ photos ∧
      other.category ≠ list.category ∧ cause = .stagedElsewhere file.fresh other.category := by
  unfold Composer.capturePhoto at refused
  cases known : c.body.photos list with
  | error e =>
      rw [known] at refused
      cases refused
      exact .inl rfl
  | ok photos =>
      rw [known] at refused
      dsimp only [Composer.stage] at refused
      cases taken : c.stock.stage file with
      | error e =>
          rw [taken] at refused
          cases refused
      | ok r =>
          obtain ⟨photo, stock⟩ := r
          rw [taken] at refused
          dsimp only [Except.map, Composer.attachPhoto] at refused
          cases attached : c.body.attach list (.staged photo.id) with
          | ok r =>
              rw [attached] at refused
              cases refused
          | error e =>
              rw [attached] at refused
              cases refused
              obtain ⟨id, other, held, same, listed, inside, apart, rfl⟩ :=
                Body.attach_refused known attached
              cases same
              rw [Stock.id_of_stage taken] at inside ⊢
              exact .inr ⟨rfl, other, held, listed, inside, apart, rfl⟩

end Composer.InPlace

namespace Composer

open SiteReport.InPlace

/-- A refused edit leaves the document as it was, also one in which identifiers repeat; and a
refused operation leaves the composer as it was, with its document, selection, count of edits, draft,
stock and all that was told, but for a drag that is over when it is let go. A photo that cannot be
attached after it was taken stays in the stock; this asks for a fresh identifier that the document
has already. -/
theorem refused_changes_nothing :
    (∀ (b : Body) (e : Edit) cause left,
      exec (Body.InPlace.apply e) b = (.error cause, left) ↔
        left = b ∧ b.apply e = .error cause) ∧
    (∀ (c : Composer) clock command cause left,
      (c.perform clock command = (.refused cause, left) ↔
        ∃ steps, InPlace.perform? clock command = some steps ∧
          exec steps c = (.error cause, left)) ∧
      (c.perform clock command = (.refused cause, left) → left = c ∨
        ∃ now, command = .pointer (.up now) ∧ left = { c with gesture := c.gesture.cancel })) ∧
    ∀ (c : Composer) clock list file cause left,
      (c.perform clock (.capturePhoto list file) = (.captureFailed (.edit cause), left) ↔
        exec (InPlace.capturePhoto clock list file) c = (.error (.edit cause), left)) ∧
      (c.perform clock (.capturePhoto list file) = (.captureFailed (.edit cause), left) →
        left = c ∨ left = { c with stock := left.stock } ∧ ∃ other photos,
          (other, photos) ∈ c.body.lists ∧ .staged file.fresh ∈ photos ∧
          other.category ≠ list.category ∧
          cause = .stagedElsewhere file.fresh other.category) := by
  refine ⟨?_, ?_, ?_⟩
  · intro b e cause left
    rw [Body.InPlace.exec_apply]
    constructor
    · exact settled_eq_error
    · rintro ⟨rfl, refused⟩
      rw [refused]
      rfl
  · intro c clock command cause left
    constructor
    · constructor
      · intro refused
        obtain ⟨steps, known⟩ := InPlace.perform?_of_refused refused
        refine ⟨steps, known, ?_⟩
        rcases InPlace.perform?_settles known with ⟨_, settles⟩ | ⟨_, _, -, settles⟩
        · exact settles.refused_iff.1.mp refused
        · exact settles.refused_iff.1.mp refused
      · rintro ⟨steps, known, failed⟩
        rcases InPlace.perform?_settles known with ⟨_, settles⟩ | ⟨_, _, -, settles⟩
        · exact settles.refused_iff.1.mpr failed
        · exact settles.refused_iff.1.mpr failed
    · intro refused
      obtain ⟨steps, known⟩ := InPlace.perform?_of_refused refused
      rcases InPlace.perform?_settles known with ⟨_, settles⟩ | ⟨now, _, released, settles⟩
      · exact .inl (settles.refused_iff.2 (settles.refused_iff.1.mp refused))
      · exact .inr ⟨now, released, settles.refused_iff.2 (settles.refused_iff.1.mp refused)⟩
  · intro c clock list file cause left
    rw [InPlace.exec_capturePhoto]
    have answered : c.perform clock (.capturePhoto list file) =
          (.captureFailed (.edit cause), left) ↔
        c.capturePhoto clock list file = (.error (.edit cause), left) := by
      rw [perform]
      rcases c.capturePhoto clock list file with ⟨answer | answer, after⟩ <;> simp
    exact ⟨answered, fun failed => InPlace.capturePhoto_refused (answered.mp failed)⟩

namespace Crowded

def origin : PhotoList := ⟨⟨1⟩, .before⟩

def goal : PhotoList := ⟨⟨1⟩, .after⟩

/-- Two sections have one identifier, and a photo stands in two lists; it is dragged. -/
def composer : Composer :=
  { Twins.composer with
    body := .ofParts [⟨⟨1⟩, .photos (.beforeAfter [.staged Twins.left, .staged Twins.right] [])⟩,
      ⟨⟨1⟩, .comment "dry"⟩, ⟨⟨2⟩, .photos (.beforeAfter [.staged Twins.left] [])⟩] 0
    gesture := { holdDelay := 0, threshold := 0,
                 phase := .armed (.photo origin 0) (some (.list goal)) } }

def edit : Edit := .moveAcross origin 0 goal

def file : Incoming := ⟨Twins.left, Twins.clock.wall, "a.png", []⟩

/-- The photo cannot change its category while the other list has it, and there is no third section
to attach it to. -/
theorem refused_moves_change_nothing :
    exec (Body.InPlace.apply edit) composer.body =
      (.error (.stagedElsewhere Twins.left .before), composer.body) ∧
    (composer.perform Twins.clock (.moveAcross origin 0 goal)).2 = composer ∧
    (composer.perform Twins.clock (.pointer (.up 0))).2 =
      { composer with gesture := composer.gesture.cancel } ∧
    (composer.perform Twins.clock (.capturePhoto ⟨⟨3⟩, .before⟩ file)).2 = composer := by
  obtain ⟨edits, operations, captures⟩ := refused_changes_nothing
  have refused : composer.body.apply edit = .error (.stagedElsewhere Twins.left .before) := rfl
  refine ⟨(edits _ _ _ _).mpr ⟨rfl, refused⟩, ?_, ?_, ?_⟩
  · rcases (operations composer Twins.clock (.moveAcross origin 0 goal)
      (.stagedElsewhere Twins.left .before) _).2 rfl with same | ⟨_, other, -⟩
    · exact same
    · cases other
  · rcases (operations composer Twins.clock (.pointer (.up 0))
      (.stagedElsewhere Twins.left .before) _).2 rfl with same | ⟨_, -, same⟩
    · exact absurd (congrArg Composer.gesture same) (by decide)
    · exact same
  · rcases (captures composer Twins.clock ⟨⟨3⟩, .before⟩ file (.unknownSection ⟨3⟩) _).2 rfl
      with same | ⟨-, _, _, -, -, -, other⟩
    · exact same
    · cases other

end Crowded

end Composer

end SiteReport
