import SiteReport.Proofs.Composer.Beside
import SiteReport.Proofs.Composer.Drag
import SiteReport.Proofs.Document.FutileMoves

/-!
What a composer makes of moves, those at the end of a drag among them. A move is to be counted, put up
for saving and told exactly if the sections or photos stand otherwise afterwards. The composer sees
when an item is moved onto its own place, and a drop does not ask for that; but a photo that is moved
to the end of its own list and stands there already is counted and told all the same.
-/

namespace SiteReport

/-- Commands that move sections or photos, the release of the pointer among them. -/
def Command.isMove : Command → Bool
  | .moveSection _ _ => true
  | .moveWithin _ _ _ => true
  | .moveAcross _ _ _ => true
  | .pointer (.up _) => true
  | _ => false

namespace Composer

variable {c after : Composer} {clock : Clock} {command : Command}

/-- The move that a command asks for, if it asks for one. -/
def reorder? (c : Composer) : Command → Option Reorder
  | .moveSection id stop => some (.moveSection id stop)
  | .moveWithin list start stop => some (.moveWithin list start stop)
  | .moveAcross source index target => some (.moveAcross source index target)
  | .pointer (.up now) => (c.gesture.up now c.body).1
  | _ => none

/-- An edit was counted, the draft is due again, and a change of the sections was told. -/
structure Noticed (c : Composer) (clock : Clock) (after : Composer) : Prop where
  revision_eq : after.revision = c.revision + 1
  autosave_eq : after.autosave = c.autosave.markDirty clock.ticks
  told : ∃ change, after.published = c.published ++ [.body change]

/-- Nothing was counted and nothing told, and the draft is no more due than before. -/
structure Unstirred (c after : Composer) : Prop where
  revision_eq : after.revision = c.revision
  autosave_eq : after.autosave = c.autosave
  published_eq : after.published = c.published

theorem Noticed.not_unstirred (h : Noticed c clock after) : ¬ Unstirred c after := fun still =>
  absurd (still.revision_eq.symm.trans h.revision_eq) (Nat.ne_of_lt (Nat.lt_succ_self _))

theorem adopt_noticed {r : Reorder} {made : Body × Change} (accepted : r.apply c.body = .ok made)
    (awake : r.isIdle c.body = false) : Noticed c clock (c.adopt clock made) := by
  have change : made.2.isNoop ≠ true := fun noop => by
    rw [Reorder.isIdle_of_isNoop accepted noop] at awake
    cases awake
  have told : c.adopt clock made = ({ c with body := made.1 }.touch clock).emit (.body made.2) :=
    if_neg change
  rw [told]
  exact ⟨rfl, rfl, made.2, rfl⟩

/-- A section is moved onto its own place. -/
theorem adopt_unstirred {id : SectionId} {stop : Nat} {made : Body × Change}
    (accepted : c.body.move id stop = .ok made)
    (idle : Reorder.isIdle c.body (.moveSection id stop) = true) :
    Unstirred c (c.adopt clock made) := by
  obtain ⟨pre, s, post, split, -, rfl⟩ := Body.move_eq_ok_iff.mp accepted
  have same : pre.length = stop := by simpa [Reorder.isIdle, split.indexOf?] using idle
  have noop : (Change.moved id pre.length stop).isNoop = true := by simp [Change.isNoop, same]
  rw [adopt, commit, if_pos noop]
  exact ⟨rfl, rfl, rfl⟩

/-- What becomes of a move: it is made and noticed, or it is refused or seen to lead to the same
place, and everything stays as it was. -/
inductive Moved (c : Composer) (clock : Clock) (command : Command) (after : Composer) : Prop where
  | made (r : Reorder) (change : Change) (asked : c.reorder? command = some r)
      (awake : r.isIdle c.body = false) (accepted : r.apply c.body = .ok (after.body, change))
      (noticed : Noticed c clock after)
  | spared (body_eq : after.body = c.body) (still : Unstirred c after)
      (none : ∀ r, c.reorder? command = some r →
        r.isIdle c.body = true ∨ ∃ e, r.apply c.body = .error e)

namespace Moved

variable {r : Reorder} {made : Body × Change}

theorem refused {e : EditError} (asked : c.reorder? command = some r)
    (turned : r.apply c.body = .error e) : Moved c clock command c := by
  refine .spared rfl ⟨rfl, rfl, rfl⟩ fun other same => .inr ⟨e, ?_⟩
  obtain rfl : r = other := Option.some.inj (asked.symm.trans same)
  exact turned

theorem adopted (asked : c.reorder? command = some r) (accepted : r.apply c.body = .ok made)
    (awake : r.isIdle c.body = false) : Moved c clock command (c.adopt clock made) := by
  refine .made r made.2 asked awake ?_ (adopt_noticed accepted awake)
  rw [body_adopt]
  exact accepted

theorem onPlace (asked : c.reorder? command = some r) (accepted : r.apply c.body = .ok made)
    (idle : r.isIdle c.body = true) (body_eq : after.body = made.1) (still : Unstirred c after) :
    Moved c clock command after := by
  refine .spared (body_eq.trans (Reorder.apply_idle accepted idle)) still fun other same => .inl ?_
  obtain rfl : r = other := Option.some.inj (asked.symm.trans same)
  exact idle

/-- A command that carries out the move it asks for, and sees to moves that lead to the same place. -/
theorem ofEdit {answer : Change → Answer} {told : Body × Change → Change × Composer}
    (asked : c.reorder? command = some r)
    (awake : r.isIdle c.body = false → ∀ made, (told made).2 = c.adopt clock made)
    (idle : r.isIdle c.body = true → ∀ made, r.apply c.body = .ok made →
      (told made).2.body = made.1 ∧ Unstirred c (told made).2) :
    Moved c clock command (Answer.ofEdit c answer ((r.apply c.body).map told)).2 := by
  cases accepted : r.apply c.body with
  | error e => exact .refused asked accepted
  | ok made =>
      show Moved c clock command (told made).2
      cases seen : r.isIdle c.body with
      | false =>
          rw [awake seen made]
          exact .adopted asked accepted seen
      | true =>
          obtain ⟨body_eq, still⟩ := idle seen made accepted
          exact .onPlace asked accepted seen body_eq still

end Moved

/-- The composer after the pointer was released. -/
theorem perform_up (c : Composer) (clock : Clock) (now : Int) :
    let held : Composer := { c with gesture := (c.gesture.up now c.body).2 }
    (c.perform clock (.pointer (.up now))).2 =
      match (c.gesture.up now c.body).1 with
      | none => held
      | some r =>
        match r.apply c.body with
        | .error _ => held
        | .ok made => held.adopt clock made := by
  have released : (c.perform clock (.pointer (.up now))).2 = (c.pointerUp clock now).2 := by
    simp only [perform, pointer]
    split <;> rename_i ended <;> rw [ended]
  rw [released, pointerUp]
  generalize c.gesture.up now c.body = drop
  obtain ⟨command, gesture⟩ := drop
  cases command with
  | none => rfl
  | some r => cases accepted : r.apply c.body <;> simp only [accepted]

theorem perform_moved (moves : command.isMove = true) (c : Composer) (clock : Clock) :
    Moved c clock command (c.perform clock command).2 := by
  cases command with
  | moveSection id stop =>
      refine Moved.ofEdit (r := .moveSection id stop) rfl (fun _ _ => rfl) fun idle made accepted => ?_
      exact ⟨body_adopt _ _ _, adopt_unstirred accepted idle⟩
  | moveWithin list start stop =>
      refine Moved.ofEdit (r := .moveWithin list start stop) rfl (fun awake made => ?_)
        fun idle made accepted => ?_
      · have apart : start ≠ stop := ne_of_beq_false awake
        exact if_neg apart
      · have onto : start = stop := eq_of_beq idle
        simp only [if_pos onto]
        exact ⟨trivial, rfl, rfl, rfl⟩
  | moveAcross source index target =>
      -- here no place is looked at
      refine Moved.ofEdit (r := .moveAcross source index target) rfl (fun _ _ => rfl) fun idle => ?_
      cases idle
  | pointer event =>
      cases event with
      | up now =>
          have asked : c.reorder? (.pointer (.up now)) = (c.gesture.up now c.body).1 := rfl
          let held : Composer := { c with gesture := (c.gesture.up now c.body).2 }
          have quiet : Unstirred c held := ⟨rfl, rfl, rfl⟩
          rw [perform_up]
          cases dropped : (c.gesture.up now c.body).1 with
          | none =>
              refine .spared rfl quiet fun r same => ?_
              rw [asked, dropped] at same
              cases same
          | some r =>
              obtain ⟨source, target, -, fits⟩ := Gesture.up_eq_some dropped
              have awake := Reorder.isIdle_of_ofDrop? fits
              cases accepted : r.apply c.body with
              | error e =>
                  simp only [accepted]
                  refine .spared rfl quiet fun other same => .inr ⟨e, ?_⟩
                  obtain rfl : r = other := Option.some.inj ((asked.trans dropped).symm.trans same)
                  exact accepted
              | ok made =>
                  simp only [accepted]
                  have noticed : Noticed held clock (held.adopt clock made) :=
                    adopt_noticed (c := held) accepted awake
                  refine .made r made.2 (asked.trans dropped) awake ?_
                    ⟨noticed.revision_eq, noticed.autosave_eq, noticed.told⟩
                  rw [body_adopt]
                  exact accepted
      | _ => cases moves
  | _ => cases moves

/-- The command asks for a move that makes no difference and is not seen to. -/
def Futile (c : Composer) (command : Command) : Prop :=
  ∃ r, c.reorder? command = some r ∧ r.Futile c.body

theorem Moved.noticed_iff (moved : Moved c clock command after) :
    (Noticed c clock after ↔ after.body ≠ c.body) ↔ ¬ c.Futile command := by
  cases moved with
  | made r change asked awake accepted noticed =>
      have once : c.Futile command ↔ after.body = c.body := by
        constructor
        · rintro ⟨other, same, futile⟩
          obtain rfl : r = other := Option.some.inj (asked.symm.trans same)
          obtain ⟨-, kept, idle⟩ := Reorder.futile_iff.mp futile
          exact (Prod.mk.inj (Except.ok.inj (accepted.symm.trans idle))).1
        · intro same
          exact ⟨r, asked, Reorder.futile_iff.mpr ⟨awake, change, same ▸ accepted⟩⟩
      rw [once, iff_true_intro noticed, true_iff]
  | spared body_eq still none =>
      have sensible : ¬ c.Futile command := by
        rintro ⟨r, asked, futile⟩
        obtain ⟨awake, change, accepted⟩ := Reorder.futile_iff.mp futile
        rcases none r asked with idle | ⟨e, turned⟩
        · rw [awake] at idle
          cases idle
        · rw [accepted] at turned
          cases turned
      have silent : ¬ Noticed c clock after := fun noticed => noticed.not_unstirred still
      exact iff_of_true (iff_of_false silent (not_not.mpr body_eq)) sensible

theorem futile_iff_of_wellFormed (moves : command.isMove = true) (sound : c.body.WellFormed) :
    c.Futile command ↔ ∃ list photos, c.body.photos list = .ok photos ∧ photos ≠ [] ∧
      command = .moveAcross list (photos.length - 1) list := by
  constructor
  · rintro ⟨r, asked, futile⟩
    obtain ⟨list, photos, known, filled, rfl⟩ :=
      (Reorder.futile_iff_of_wellFormed sound).mp futile
    refine ⟨list, photos, known, filled, ?_⟩
    cases command with
    | moveSection id stop => cases asked
    | moveWithin list start stop => cases asked
    | moveAcross source index target =>
        cases asked
        rfl
    | pointer event =>
        cases event with
        | up now =>
            obtain ⟨source, target, -, fits⟩ := Gesture.up_eq_some asked
            exact absurd rfl (Reorder.apart_of_ofDrop? fits)
        | _ => cases moves
    | _ => cases moves
  · rintro ⟨list, photos, known, filled, rfl⟩
    have futile := (Reorder.futile_iff_of_wellFormed sound).mpr ⟨list, photos, known, filled, rfl⟩
    exact ⟨_, rfl, futile⟩

/-- A move is made, counted, put up for saving and told, or nothing of the kind happens. Whatever
moves sections or photos is noticed; and a move is noticed exactly if it makes a difference, unless it
leads past nothing but items that are the same, and is not seen to lead to the same place. In a
document that came about by edits this is so for one kind of move: the last photo of a list is moved
to the end of the list. -/
theorem moves_noticed_iff_changed (moves : command.isMove = true) (c : Composer) (clock : Clock) :
    let after := (c.perform clock command).2
    (Noticed c clock after ∨ Unstirred c after) ∧
    (after.body ≠ c.body → Noticed c clock after) ∧
    ((Noticed c clock after ↔ after.body ≠ c.body) ↔ ¬ c.Futile command) ∧
    (c.body.WellFormed → (c.Futile command ↔ ∃ list photos, c.body.photos list = .ok photos ∧
      photos ≠ [] ∧ command = .moveAcross list (photos.length - 1) list)) := by
  intro after
  have moved := perform_moved moves c clock
  refine ⟨?_, ?_, moved.noticed_iff, futile_iff_of_wellFormed moves⟩
  · cases moved with
    | made r change asked awake accepted noticed => exact .inl noticed
    | spared body_eq still none => exact .inr still
  · intro changed
    cases moved with
    | made r change asked awake accepted noticed => exact noticed
    | spared body_eq still none => exact absurd body_eq changed

namespace Standing

def list : PhotoList := ⟨⟨1⟩, .completed⟩

def calm : Moment := { clock := Twins.clock }

/-- A composer that was given a list with some photos, and has saved its draft. -/
def composer (urls : List String) : Composer :=
  (Composer.new Twins.stock {}).playAt <|
    (calm, .addBlock .completed) ::
      urls.map (fun url => (calm, .attachPhoto list (.resolved url))) ++ [(calm, .flushDraft)]

/-- The last photo of a list is moved to the end of the list, once over the list and once in it. -/
theorem photo_moved_onto_its_place :
    let c := composer ["u"]
    let across := c.performAt calm (.moveAcross list 0 list)
    let within := c.performAt calm (.moveWithin list 0 0)
    c.body.photos list = .ok [.resolved "u"] ∧ c.isDirty = false ∧
    across.body = c.body ∧ across.isDirty = true ∧ across.revision = c.revision + 1 ∧
    across.published = c.published ++ [.body (.photosChanged ⟨1⟩)] ∧
    within.body = c.body ∧ within.isDirty = false ∧ within.revision = c.revision ∧
    within.published = c.published := by
  refine ⟨rfl, rfl, rfl, rfl, rfl, rfl, rfl, rfl, rfl, rfl⟩

/-- Of two photos the first one is moved to the end, which is noticed. -/
theorem first_photo_moved_noticed :
    let c := composer ["u", "v"]
    let command : Command := .moveAcross list 0 list
    let after := (c.perform calm.clock command).2
    command.isMove = true ∧ c.body.WellFormed ∧ Noticed c calm.clock after ∧ after.body ≠ c.body ∧
    after.body.photos list = .ok [.resolved "v", .resolved "u"] := by
  intro c command after
  have shown : c.body.photos list = .ok [.resolved "u", .resolved "v"] := rfl
  have listed : after.body.photos list = .ok [.resolved "v", .resolved "u"] := rfl
  have sound : c.body.WellFormed := by decide
  have moves : command.isMove = true := rfl
  obtain ⟨-, -, noticed, futile⟩ := moves_noticed_iff_changed moves c calm.clock
  have other : ¬ c.Futile command := by
    rw [futile sound]
    rintro ⟨l, photos, known, -, same⟩
    obtain ⟨rfl, last, -⟩ := Command.moveAcross.inj same
    obtain rfl := Except.ok.inj (shown.symm.trans known)
    cases last
  have changed : after.body ≠ c.body := by
    intro same
    rw [same, shown] at listed
    exact absurd listed (by decide)
  exact ⟨moves, sound, (noticed.mpr other).mpr changed, changed, listed⟩

end Standing

end Composer

end SiteReport
