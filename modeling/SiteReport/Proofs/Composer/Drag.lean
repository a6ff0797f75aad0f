import SiteReport.Proofs.Composer.Moments
import SiteReport.Proofs.Document.Places
import SiteReport.Proofs.Gesture.Trace

/-!
A photo that is dragged while the document is edited. The drag remembers the place where it was taken
up and nothing of the photo, so what it moves at the end is the photo that stands at this place then.
-/

namespace SiteReport

/-- The pointer is pressed, which takes something up. -/
def Command.presses : Command → Bool
  | .pointer (.down _ _ _ _) => true
  | _ => false

/-- No drag is left after the command. -/
def Command.endsDrag : Command → Bool
  | .pointer .cancel => true
  | .pointer (.up _) => true
  | command => command.replaces

/-! ### The gesture -/

namespace Gesture

variable {g : Gesture} {b : Body}

theorem source?_move (g : Gesture) (point : Point) (hit : Option DropTarget) (now : Int) :
    (g.move point hit now).source? = g.source? ∨ (g.move point hit now).source? = none := by
  obtain ⟨delay, threshold, phase⟩ := g
  cases phase with
  | idle => exact .inl rfl
  | armed source target => exact .inl rfl
  | pending source pointer origin since =>
      simp only [move]
      split
      · exact .inl rfl
      · split
        · cases pointer with
          | mouse => exact .inl rfl
          | touch => exact .inr rfl
        · exact .inl rfl

@[simp] theorem source?_tick (g : Gesture) (now : Int) : (g.tick now).source? = g.source? := by
  obtain ⟨delay, threshold, phase⟩ := g
  cases phase with
  | idle => rfl
  | armed source target => rfl
  | pending source pointer origin since =>
      simp only [tick]
      split <;> rfl

/-- A release gives a command for what was taken up. -/
theorem up_eq_some {now : Int} {r : Reorder} (released : (g.up now b).1 = some r) :
    ∃ source target, g.source? = some source ∧ Reorder.ofDrop? b source target = some r := by
  obtain ⟨source, target, armed, asked⟩ := up_eq_some_iff.mp released
  exact ⟨source, target, by rw [source?, armed], asked⟩

end Gesture

/-- A photo that is dropped is moved from the place where it was taken up. -/
theorem Reorder.ofDrop?_photo {b : Body} {list : PhotoList} {index : Nat} {target : DropTarget}
    {r : Reorder} (dropped : ofDrop? b (.photo list index) target = some r) :
    (∃ stop, r = .moveWithin list index stop) ∨ ∃ goal, r = .moveAcross list index goal := by
  have same := source_of_ofDrop? dropped
  cases r with
  | moveSection id stop => cases same
  | moveWithin origin start stop => cases same; exact .inl ⟨stop, rfl⟩
  | moveAcross origin start goal => cases same; exact .inr ⟨goal, rfl⟩

namespace Composer

variable {c : Composer} {clock : Clock} {command : Command}

/-! ### The drag under other commands -/

theorem gesture_applySubmit (c : Composer) (clock : Clock) (outcome : SubmitOutcome) :
    (c.applySubmit clock outcome).2.gesture = c.gesture := by
  rcases c.applySubmit_cases clock outcome with ⟨-, kept⟩ | ⟨-, ⟨e, -, kept⟩ | ⟨_, -, -, applied⟩⟩
  · rw [kept]
  · rw [kept]
  · exact applied.gesture_eq

/-- Only the pointer, and what replaces the document, touch the drag. -/
theorem gesture_perform (elsewhere : command.isPointer = false)
    (kept : command.replaces = false) (c : Composer) (clock : Clock) :
    (c.perform clock command).2.gesture = c.gesture := by
  cases drafts : command.handlesDraft with
  | true =>
      obtain ⟨store, autosave, published, same⟩ := (perform_filed drafts c clock).rest
      rw [same]
  | false =>
      cases command with
      | markUploaded id url =>
          simp only [perform, markUploaded]
          split <;> rfl
      | runSubmit service batchSize ticket => rfl
      | applySubmit outcome => exact gesture_applySubmit c clock outcome
      | submit service batchSize =>
          exact gesture_applySubmit (c.runSubmit service batchSize c.beginSubmit).2 clock _
      | restore draft => cases kept
      | discardDocument => cases kept
      | _ => exact (perform_steps rfl rfl drafts elsewhere c clock).gesture_eq

theorem source?_discardDocument (c : Composer) :
    c.discardDocument.2.gesture.source? = none := by
  unfold discardDocument declineDraft
  simp only
  split <;> rfl

theorem source?_pointerUp (c : Composer) (clock : Clock) (now : Int) :
    (c.pointer clock (.up now)).2.gesture.source? = none := by
  have released : (c.pointerUp clock now).2.gesture.source? = none :=
    congrArg Gesture.source? (steps_pointerUp c clock now).gesture_eq
  unfold Composer.pointer
  simp only
  split <;> rename_i ended <;> rw [ended] at released <;> exact released

theorem source?_perform (unpressed : command.presses = false) (c : Composer) (clock : Clock) :
    (c.perform clock command).2.gesture.source? = c.gesture.source? ∨
      (c.perform clock command).2.gesture.source? = none := by
  cases command with
  | pointer event =>
      cases event with
      | down source pointer origin now => cases unpressed
      | move point hit now => exact c.gesture.source?_move point hit now
      | tick now => exact .inl (c.gesture.source?_tick now)
      | cancel => exact .inr rfl
      | up now => exact .inr (source?_pointerUp c clock now)
  | restore draft => exact .inr rfl
  | discardDocument => exact .inr (source?_discardDocument c)
  | _ => exact .inl (congrArg Gesture.source? (gesture_perform (by rfl) (by rfl) c clock))

theorem source?_of_endsDrag (ends : command.endsDrag = true) (c : Composer) (clock : Clock) :
    (c.perform clock command).2.gesture.source? = none := by
  cases command with
  | pointer event =>
      cases event with
      | cancel => rfl
      | up now => exact source?_pointerUp c clock now
      | _ => cases ends
  | restore draft => rfl
  | discardDocument => exact source?_discardDocument c
  | _ => cases ends

/-! ### A session under a drag -/

variable {list : PhotoList} {index : Nat} {p : PhotoRef} {session : List (Moment × Command)}

theorem source?_playAt (unpressed : ∀ e ∈ session, e.2.presses = false) (c : Composer) :
    (c.playAt session).gesture.source? = c.gesture.source? ∨
      (c.playAt session).gesture.source? = none := by
  induction session generalizing c with
  | nil => exact .inl rfl
  | cons e rest ih =>
      obtain ⟨m, command⟩ := e
      obtain ⟨one, others⟩ := List.forall_mem_cons.mp unpressed
      have first := source?_perform one (c.under m.faults) m.clock
      rcases ih others (c.performAt m command) with same | gone
      · rcases first with kept | gone
        · exact .inl (same.trans kept)
        · exact .inr (same.trans gone)
      · exact .inr gone

/-- What a photo of the document is after a session. -/
def followed : Composer → List (Moment × Command) → PhotoRef → PhotoRef
  | _, [], p => p
  | c, (m, command) :: rest, p =>
    followed (c.performAt m command) rest
      (Body.follow ((c.under m.faults).editsOf command) p)

/-- Each command of the session ends the drag, or leaves the photo at the place where it is. -/
def Undisturbed (list : PhotoList) (index : Nat) : Composer → List (Moment × Command) → Prop
  | _, [] => True
  | c, (m, command) :: rest =>
    (command.endsDrag = true ∨
      c.body.Undisturbed list index ((c.under m.faults).editsOf command)) ∧
    Undisturbed list index (c.performAt m command) rest

theorem replaces_of_endsDrag (going : command.endsDrag = false) : command.replaces = false := by
  cases command <;> first | rfl | cases going

/-- The photo at the place is still there, unless the drag is over. -/
theorem photoAt?_playAt (h : c.body.WellFormed) (unpressed : ∀ e ∈ session, e.2.presses = false)
    (spared : c.Undisturbed list index session) (stands : c.body.photoAt? list index = some p) :
    (c.playAt session).gesture.source? = none ∨
      (c.playAt session).body.photoAt? list index = some (c.followed session p) := by
  induction session generalizing c p with
  | nil => exact .inr stands
  | cons e rest ih =>
      obtain ⟨m, command⟩ := e
      have others := (List.forall_mem_cons.mp unpressed).2
      obtain ⟨spares, later⟩ := spared
      -- a drag that is over stays so, as nothing is pressed
      cases going : command.endsDrag with
      | true =>
          have gone : (c.performAt m command).gesture.source? = none :=
            source?_of_endsDrag going (c.under m.faults) m.clock
          rcases source?_playAt others (c.performAt m command) with same | ended
          · exact .inl (same.trans gone)
          · exact .inl ended
      | false =>
          rw [going] at spares
          have spared := spares.resolve_left Bool.false_ne_true
          have body : (c.performAt m command).body =
              c.body.run ((c.under m.faults).editsOf command) :=
            body_perform (replaces_of_endsDrag going) (c.under m.faults) m.clock
          obtain ⟨sound, there⟩ := Body.photoAt?_run h spared stands
          rw [← body] at sound there
          exact ih sound others later there

/-! ### The end of a drag -/

/-- A release that changes the body moves the photo that stands at the place which was taken up. -/
theorem release_relocates {now : Int} (held : ∀ source, c.gesture.source? = some source →
      source = .photo list index)
    (changed : (c.perform clock (.pointer (.up now))).2.body ≠ c.body) :
    c.gesture.source? ≠ none ∧
    ∃ photo target, c.body.Relocated list index photo target
      (c.perform clock (.pointer (.up now))).2.body := by
  have body : (c.perform clock (.pointer (.up now))).2.body =
      c.body.run ((c.gesture.up now c.body).1.toList.map Reorder.edit) := body_perform rfl c clock
  cases released : (c.gesture.up now c.body).1 with
  | none =>
      rw [released] at body
      exact absurd body changed
  | some r =>
      obtain ⟨source, target, taken, dropped⟩ := Gesture.up_eq_some released
      have edited : (c.perform clock (.pointer (.up now))).2.body = r.after c.body := by
        rw [body, released, r.after_eq]
        rfl
      refine ⟨by simp [taken], ?_⟩
      rw [held source taken] at dropped
      rw [edited] at changed ⊢
      unfold Reorder.after at changed ⊢
      cases accepted : r.apply c.body with
      | error cause =>
          rw [accepted] at changed
          exact absurd rfl changed
      | ok answer =>
          rcases Reorder.ofDrop?_photo dropped with ⟨stop, rfl⟩ | ⟨goal, rfl⟩
          · obtain ⟨photo, relocated⟩ := Body.relocated_moveWithin accepted
            exact ⟨photo, list, relocated⟩
          · obtain ⟨photo, relocated⟩ := Body.relocated_moveAcross accepted
            exact ⟨photo, goal, relocated⟩

/-- The photo that is moved at the end of a drag is the one that was picked up, or the address that
took its place, exactly if this one still stands at the place where it was picked up. It does if
nothing in between takes out, moves or merges photos there or before. -/
theorem release_moves_picked_iff {picked : PhotoRef}
    (stands : c.body.photoAt? list index = some picked) (press release : Moment)
    (pointer : Pointer) (origin : Point) (pressed released : Int)
    (unpressed : ∀ e ∈ session, e.2.presses = false) :
    let held := c.performAt press (.pointer (.down (.photo list index) pointer origin pressed))
    let dragged := held.playAt session
    let after := dragged.performAt release (.pointer (.up released))
    after.body ≠ dragged.body →
    ∃ photo target, dragged.body.Relocated list index photo target after.body ∧
      (photo = held.followed session picked ↔
        dragged.body.photoAt? list index = some (held.followed session picked)) ∧
      (c.body.WellFormed → held.Undisturbed list index session →
        photo = held.followed session picked) := by
  intro held dragged after changed
  have source : held.gesture.source? = some (.photo list index) := rfl
  have known : ∀ other, dragged.gesture.source? = some other → other = .photo list index := by
    intro other there
    rcases source?_playAt unpressed held with same | gone
    · rw [same, source] at there
      exact (Option.some.inj there).symm
    · rw [gone] at there
      cases there
  obtain ⟨dragging, photo, target, relocated⟩ :=
    release_relocates (c := dragged.under release.faults) known changed
  have taken : dragged.body.photoAt? list index = some photo := relocated.taken
  refine ⟨photo, target, relocated, ?_, ?_⟩
  · rw [taken, Option.some.injEq]
  · intro sound spared
    rcases photoAt?_playAt (c := held) sound unpressed spared stands with ended | there
    · exact absurd ended dragging
    · rw [taken] at there
      exact Option.some.inj there

/-! ### A photo that goes while it is dragged -/

namespace Dragged

def origin : PhotoList := ⟨⟨1⟩, .before⟩

def goal : PhotoList := ⟨⟨1⟩, .after⟩

def composer : Composer :=
  { Twins.composer with
    body := ⟨[⟨⟨1⟩, .photos (.beforeAfter [.staged Twins.left, .staged Twins.right] [])⟩], 1⟩ }

def calm : Moment := { clock := Twins.clock }

/-- The first photo is taken up. -/
def held : Composer :=
  composer.performAt calm (.pointer (.down (.photo origin 0) .mouse ⟨0, 0⟩ 0))

/-- Something happens, and the photo is dragged over the other list. -/
def during (command : Command) : List (Moment × Command) :=
  [(calm, command), (calm, .pointer (.move ⟨10, 0⟩ (some (.list goal)) 0))]

theorem unpressed {command : Command} (h : command.presses = false) :
    ∀ e ∈ during command, e.2.presses = false := by
  intro e member
  rcases List.mem_pair.mp member with rfl | rfl
  · exact h
  · rfl

/-- The photo that was taken up is removed, and the one behind it is moved. -/
theorem next_photo_moved :
    let removal := during (.removePhoto origin (.staged Twins.left))
    let dragged := held.playAt removal
    composer.body.WellFormed ∧ composer.body.photoAt? origin 0 = some (.staged Twins.left) ∧
    held.followed removal (.staged Twins.left) = .staged Twins.left ∧
    dragged.body.lists = [(origin, [.staged Twins.right]), (goal, [])] ∧
    (dragged.performAt calm (.pointer (.up 0))).body.lists =
      [(origin, []), (goal, [.staged Twins.right])] := by
  refine ⟨by decide, rfl, rfl, rfl, rfl⟩

/-- The photo that was taken up is sent, and its address is moved. -/
theorem sent_photo_moved :
    let sending := during (.submit Twins.service 3)
    let dragged := held.playAt sending
    held.followed sending (.staged Twins.left) = .resolved "u" ∧
    ∃ target, dragged.body.Relocated origin 0 (.resolved "u") target
      (dragged.performAt calm (.pointer (.up 0))).body := by
  intro sending dragged
  have followed : held.followed sending (.staged Twins.left) = .resolved "u" := rfl
  have changed : (dragged.performAt calm (.pointer (.up 0))).body ≠ dragged.body := by
    intro same
    have lists : (dragged.performAt calm (.pointer (.up 0))).body.lists =
        [(origin, []), (goal, [.resolved "u"])] := rfl
    rw [same] at lists
    cases lists
  have stands : composer.body.photoAt? origin 0 = some (.staged Twins.left) := rfl
  have unpressed : ∀ e ∈ sending, e.2.presses = false := unpressed rfl
  obtain ⟨photo, target, relocated, -, picked⟩ :=
    release_moves_picked_iff stands calm calm .mouse ⟨0, 0⟩ 0 0 unpressed changed
  have spared : held.Undisturbed origin 0 sending := by
    have edits : (held.under calm.faults).editsOf (.submit Twins.service 3) =
        [.resolve ⟨[(Twins.left, "u"), (Twins.right, "u")], []⟩] := rfl
    refine ⟨.inr ?_, .inr trivial, trivial⟩
    rw [edits]
    refine ⟨nofun, fun photos known => ?_, trivial⟩
    cases known
    decide
  have same : photo = .resolved "u" := (picked (by decide) spared).trans followed
  exact ⟨followed, target, same ▸ relocated⟩

end Dragged

end Composer

end SiteReport
