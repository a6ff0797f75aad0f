import SiteReport.Proofs.Gesture.Distance

/-!
What led to the command of a drag. A gesture keeps little of the events that it saw, but a command at
its end tells a good deal of them: which press it goes back to, that nothing ended the press since,
what armed the drag, and which move gave the target. A touch that goes beyond the threshold too early
gives no command, unless it goes so far that its distance does not fit 32 bits.
-/

namespace SiteReport

/-- What is pressed, how, where and when. -/
structure Press where
  source : DragSource
  pointer : Pointer
  origin : Point
  since : Int

namespace Press

def event (p : Press) : PointerEvent := .down p.source p.pointer p.origin p.since

def phase (p : Press) : GesturePhase := .pending p.source p.pointer p.origin p.since

end Press

namespace PointerEvent

def presses : PointerEvent → Bool
  | .down _ _ _ _ => true
  | _ => false

/-- Moves and ticks let a press go on; any other event ends it or begins another one. -/
def carriesOn : PointerEvent → Bool
  | .move _ _ _ => true
  | .tick _ => true
  | _ => false

/-- When time is looked at. -/
def time? : PointerEvent → Option Int
  | .move _ _ now => some now
  | .tick now => some now
  | _ => none

/-- What a move found under the pointer, which may be nothing. -/
def hit? : PointerEvent → Option (Option DropTarget)
  | .move _ hit _ => some hit
  | _ => none

/-- What the latest move found under the pointer. -/
def latestHit? (events : List PointerEvent) : Option (Option DropTarget) :=
  (events.filterMap hit?).getLast?

theorem latestHit?_append (events more : List PointerEvent) :
    latestHit? (events ++ more) = (latestHit? more).or (latestHit? events) := by
  rw [latestHit?, List.filterMap_append, List.getLast?_append]
  rfl

theorem latestHit?_singleton (e : PointerEvent) : latestHit? [e] = e.hit? := by
  cases e <;> rfl

theorem latestHit?_cons (e : PointerEvent) (rest : List PointerEvent) :
    latestHit? (e :: rest) = (latestHit? rest).or e.hit? := by
  rw [← List.singleton_append, latestHit?_append, latestHit?_singleton]

end PointerEvent

/-- What a command moves. -/
def Reorder.source : Reorder → DragSource
  | .moveSection id _ => .wholeSection id
  | .moveWithin list start _ => .photo list start
  | .moveAcross source index _ => .photo source index

theorem Reorder.source_of_ofDrop? {b : Body} {source : DragSource} {target : DropTarget}
    {r : Reorder} (asked : ofDrop? b source target = some r) : r.source = source := by
  cases source with
  | wholeSection id =>
      cases target with
      | wholeSection goal =>
          simp only [ofDrop?] at asked
          split at asked
          · split at asked
            · cases asked
            · exact Option.some.inj asked ▸ rfl
          · cases asked
      | _ => cases asked
  | photo list index =>
      cases target with
      | wholeSection goal => cases asked
      | photo goal stop =>
          simp only [ofDrop?] at asked
          split at asked
          · split at asked
            · cases asked
            · exact Option.some.inj asked ▸ rfl
          · exact Option.some.inj asked ▸ rfl
      | list goal =>
          simp only [ofDrop?] at asked
          split at asked
          · split at asked
            · split at asked
              · cases asked
              · exact Option.some.inj asked ▸ rfl
            · cases asked
          · exact Option.some.inj asked ▸ rfl

/-- Whatever is picked up, there is a document and a place in it where a drop moves it. -/
theorem Reorder.exists_drop (source : DragSource) :
    ∃ b target r, ofDrop? b source target = some r := by
  cases source with
  | wholeSection id =>
      let other : SectionId := ⟨id.number + 1⟩
      have apart : other ≠ id := fun same => by
        have number : id.number + 1 = id.number := congrArg SectionId.number same
        simp at number
      let b : Body := ⟨[⟨other, .comment ""⟩, ⟨id, .comment ""⟩], 0⟩
      have first : b.indexOf? other = some 0 := by simp [b, Body.indexOf?, List.findIdx?_cons]
      have second : b.indexOf? id = some 1 := by simp [b, Body.indexOf?, List.findIdx?_cons, apart]
      refine ⟨b, .wholeSection other, .moveSection id 0, ?_⟩
      simp only [ofDrop?, first, second]
      rfl
  | photo list index =>
      obtain ⟨goal, apart⟩ : ∃ goal : PhotoList, list ≠ goal := by
        obtain ⟨block, category⟩ := list
        cases category with
        | before => exact ⟨⟨block, .after⟩, by simp⟩
        | _ => exact ⟨⟨block, .before⟩, by simp⟩
      exact ⟨{}, .photo goal 0, .moveAcross list index goal, if_neg apart⟩

namespace Gesture

open PointerEvent

/-! ### A gesture under events -/

/-- The gesture after an event. The document has no part in it. -/
def after (g : Gesture) (e : PointerEvent) : Gesture := (g.step {} e).2

def play (g : Gesture) (events : List PointerEvent) : Gesture := events.foldl after g

theorem play_append (g : Gesture) (events more : List PointerEvent) :
    g.play (events ++ more) = (g.play events).play more := List.foldl_append

/-- A tick or move that comes after the hold, or the move of a mouse beyond the threshold. -/
def arms (g : Gesture) (p : Press) : PointerEvent → Bool
  | .move point _ now =>
    g.isHeld p.since now || p.pointer = .mouse && point.exceeds p.origin g.threshold
  | .tick now => g.isHeld p.since now
  | _ => false

/-- No other press, and no tick or move that comes after the hold or goes beyond the threshold. -/
def quiet (g : Gesture) (p : Press) : PointerEvent → Bool
  | .down _ _ _ _ => false
  | .move point _ now => !g.isHeld p.since now && !point.exceeds p.origin g.threshold
  | .tick now => !g.isHeld p.since now
  | _ => true

/-- The same, with what is beyond the threshold in truth. -/
def Calm (g : Gesture) (p : Press) : PointerEvent → Prop
  | .down _ _ _ _ => False
  | .move point _ now => g.isHeld p.since now = false ∧ ¬ point.Beyond p.origin g.threshold
  | .tick now => g.isHeld p.since now = false
  | _ => True

/-- The gesture with its settings in a phase. -/
def inPhase (g : Gesture) (phase : GesturePhase) : Gesture := { g with phase }

variable {g : Gesture} {p : Press} {e : PointerEvent} {events : List PointerEvent}

theorem quiet_of_calm (calm : g.Calm p e) : g.quiet p e = true := by
  cases e with
  | down source pointer origin now => exact calm.elim
  | move point hit now =>
      have near : point.exceeds p.origin g.threshold = false :=
        (Bool.not_eq_true _).mp fun far => calm.2 (Point.beyond_of_exceeds far)
      rw [quiet, calm.1, near]
      rfl
  | tick now => exact (Bool.not_eq_true' _).mpr calm
  | _ => rfl

/-- What arms the drag comes after the hold, or is the move of a mouse beyond the threshold. -/
theorem held_or_beyond_of_arms (armed : g.arms p e = true) :
    (∃ now, e.time? = some now ∧ g.isHeld p.since now = true) ∨
      p.pointer = .mouse ∧
        ∃ point hit now, e = .move point hit now ∧ point.Beyond p.origin g.threshold := by
  cases e with
  | move point hit now =>
      rcases Bool.or_eq_true_iff.mp armed with held | wide
      · exact .inl ⟨now, rfl, held⟩
      · obtain ⟨mouse, far⟩ := Bool.and_eq_true_iff.mp wide
        exact .inr ⟨of_decide_eq_true mouse, point, hit, now, rfl, Point.beyond_of_exceeds far⟩
  | tick now => exact .inl ⟨now, rfl, armed⟩
  | _ => cases armed

/-- Events leave the settings alone. -/
theorem inPhase_after (g : Gesture) (e : PointerEvent) (phase : GesturePhase) :
    (g.after e).inPhase phase = g.inPhase phase := by
  obtain ⟨hold, threshold, current⟩ := g
  cases e with
  | move point hit now =>
      cases current with
      | pending source pointer origin since =>
          simp only [after, step, move]
          split
          · rfl
          · split
            · cases pointer <;> rfl
            · rfl
      | _ => rfl
  | tick now =>
      cases current with
      | pending source pointer origin since =>
          simp only [after, step, tick]
          split <;> rfl
      | _ => rfl
  | _ => rfl

theorem inPhase_play (g : Gesture) (events : List PointerEvent) (phase : GesturePhase) :
    (g.play events).inPhase phase = g.inPhase phase := by
  induction events generalizing g with
  | nil => rfl
  | cons e rest ih => exact (ih (g.after e)).trans (inPhase_after g e phase)

/-- A press forgets what was before it. -/
theorem play_press (g : Gesture) (past : List PointerEvent) (p : Press)
    (held : List PointerEvent) :
    g.play (past ++ p.event :: held) = (g.inPhase p.phase).play held := by
  rw [play_append, ← inPhase_play g past p.phase]
  rfl

/-! ### One phase after another -/

theorem after_idle (unpressed : e.presses = false) :
    (g.inPhase .idle).after e = g.inPhase .idle := by
  cases e <;> first | rfl | cases unpressed

theorem play_idle (unpressed : ∀ e ∈ events, e.presses = false) :
    (g.inPhase .idle).play events = g.inPhase .idle := by
  induction events with
  | nil => rfl
  | cons e rest ih =>
      obtain ⟨one, others⟩ := List.forall_mem_cons.mp unpressed
      exact (congrArg (play · rest) (after_idle one)).trans (ih others)

theorem after_armed {source : DragSource} {target : Option DropTarget}
    (carried : e.carriesOn = true) :
    (g.inPhase (.armed source target)).after e =
      g.inPhase (.armed source (e.hit?.getD target)) := by
  cases e <;> first | rfl | cases carried

/-- An armed drag follows the moves. -/
theorem play_armed {source : DragSource} {target : Option DropTarget}
    (carried : ∀ e ∈ events, e.carriesOn = true) :
    (g.inPhase (.armed source target)).play events =
      g.inPhase (.armed source ((latestHit? events).getD target)) := by
  induction events generalizing target with
  | nil => rfl
  | cons e rest ih =>
      obtain ⟨one, others⟩ := List.forall_mem_cons.mp carried
      refine (congrArg (play · rest) (after_armed one)).trans ((ih others).trans ?_)
      rw [latestHit?_cons]
      cases latestHit? rest <;> rfl

theorem after_pressed_move (g : Gesture) (p : Press) (point : Point) (hit : Option DropTarget)
    (now : Int) :
    (g.inPhase p.phase).after (.move point hit now) =
      if g.arms p (.move point hit now) then g.inPhase (.armed p.source hit)
      else if point.exceeds p.origin g.threshold then g.inPhase .idle
      else g.inPhase p.phase := by
  obtain ⟨source, pointer, origin, since⟩ := p
  cases pointer with
  | mouse =>
      have pressed : (g.inPhase (.pending source .mouse origin since)).after (.move point hit now) =
          if g.isHeld since now then g.inPhase (.armed source hit)
          else if point.exceeds origin g.threshold then g.inPhase (.armed source hit)
          else g.inPhase (.pending source .mouse origin since) := rfl
      rw [Press.phase, pressed, arms]
      cases g.isHeld since now <;> cases point.exceeds origin g.threshold <;> rfl
  | touch =>
      have pressed : (g.inPhase (.pending source .touch origin since)).after (.move point hit now) =
          if g.isHeld since now then g.inPhase (.armed source hit)
          else if point.exceeds origin g.threshold then g.inPhase .idle
          else g.inPhase (.pending source .touch origin since) := rfl
      rw [Press.phase, pressed, arms]
      cases g.isHeld since now <;> cases point.exceeds origin g.threshold <;> rfl

theorem after_pressed_tick (g : Gesture) (p : Press) (now : Int) :
    (g.inPhase p.phase).after (.tick now) =
      if g.isHeld p.since now then g.inPhase (.armed p.source none) else g.inPhase p.phase := rfl

/-- Nothing arms the drag yet; but the press may be over. -/
theorem after_quiet (still : g.quiet p e = true) :
    (g.inPhase p.phase).after e = g.inPhase (if e.carriesOn then p.phase else .idle) := by
  cases e with
  | down source pointer origin now => cases still
  | move point hit now =>
      obtain ⟨early, near⟩ := Bool.and_eq_true_iff.mp still
      rw [Bool.not_eq_true'] at early near
      simp [after_pressed_move, arms, early, near, carriesOn]
  | tick now =>
      have early : g.isHeld p.since now = false := (Bool.not_eq_true' _).mp still
      simp [after_pressed_tick, early, carriesOn]
  | cancel => rfl
  | up now => rfl

theorem after_arms (armed : g.arms p e = true) :
    (g.inPhase p.phase).after e = g.inPhase (.armed p.source e.hit?.join) := by
  cases e with
  | move point hit now => rw [after_pressed_move, if_pos armed]; rfl
  | tick now => exact (after_pressed_tick g p now).trans (if_pos armed)
  | _ => cases armed

theorem carriesOn_of_arms (armed : g.arms p e = true) : e.carriesOn = true := by
  cases e <;> first | rfl | cases armed

/-- What does not arm the drag of a press and is not quiet is a touch that scrolls. -/
theorem after_scroll (unpressed : e.presses = false) (unarmed : g.arms p e = false)
    (moved : g.quiet p e = false) : (g.inPhase p.phase).after e = g.inPhase .idle := by
  cases e with
  | move point hit now =>
      have early : g.isHeld p.since now = false := (Bool.or_eq_false_iff.mp unarmed).1
      have far : point.exceeds p.origin g.threshold = true := by
        rw [quiet, early] at moved
        simpa using moved
      rw [after_pressed_move, unarmed, if_neg (by decide), if_pos far]
  | tick now =>
      have early : g.isHeld p.since now = false := unarmed
      rw [quiet, early] at moved
      cases moved
  | down source pointer origin now => cases unpressed
  | _ => cases moved

/-- A press that nothing arms is pending as long as it goes on, and nothing but another press begins a
drag after it. -/
theorem play_quiet (still : ∀ e ∈ events, g.quiet p e = true) :
    (g.inPhase p.phase).play events =
      g.inPhase (if events.all carriesOn then p.phase else .idle) := by
  induction events with
  | nil => rfl
  | cons e rest ih =>
      obtain ⟨one, others⟩ := List.forall_mem_cons.mp still
      refine (congrArg (play · rest) (after_quiet one)).trans ?_
      rw [List.all_cons]
      cases e.carriesOn with
      | true => exact ih others
      | false =>
          refine play_idle fun x hx => ?_
          have alone := others x hx
          cases x <;> first | rfl | cases alone

theorem after_ended (unpressed : e.presses = false) (ends : e.carriesOn = false) :
    g.after e = g.inPhase .idle := by
  cases e with
  | down source pointer origin now => cases unpressed
  | cancel => rfl
  | up now => rfl
  | _ => cases ends

/-! ### What led to a phase -/

/-- What follows the press goes on with it. Nothing in its first part arms the drag, and then an event
does. -/
structure ArmedBy (g : Gesture) (p : Press) (early : List PointerEvent) (e : PointerEvent)
    (late : List PointerEvent) : Prop where
  carried : ∀ x ∈ early ++ e :: late, x.carriesOn = true
  still : ∀ x ∈ early, g.quiet p x = true
  arms : g.arms p e = true

/-- What a phase tells of the events before it. -/
inductive Told (g : Gesture) (events : List PointerEvent) : GesturePhase → Prop
  | idle : Told g events .idle
  | pending (past : List PointerEvent) (p : Press) (held : List PointerEvent)
      (eq : events = past ++ p.event :: held) (carried : ∀ x ∈ held, x.carriesOn = true)
      (still : ∀ x ∈ held, g.quiet p x = true) : Told g events p.phase
  | armed (past : List PointerEvent) (p : Press) (early : List PointerEvent) (e : PointerEvent)
      (late : List PointerEvent) (eq : events = past ++ p.event :: (early ++ e :: late))
      (arming : g.ArmedBy p early e late) :
      Told g events (.armed p.source (latestHit? (e :: late)).join)

theorem ArmedBy.play_eq {early late : List PointerEvent} (h : g.ArmedBy p early e late) :
    (g.inPhase p.phase).play (early ++ e :: late) =
      g.inPhase (.armed p.source (latestHit? (e :: late)).join) := by
  have before : (g.inPhase p.phase).play early = g.inPhase p.phase := by
    have on : early.all carriesOn = true :=
      List.all_eq_true.mpr fun x hx => h.carried x (List.mem_append_left _ hx)
    rw [play_quiet h.still, if_pos on]
  have after : ∀ x ∈ late, x.carriesOn = true := fun x hx =>
    h.carried x (List.mem_append_right _ (List.mem_cons_of_mem e hx))
  rw [play_append, before]
  refine (congrArg (play · late) (after_arms h.arms)).trans ((play_armed after).trans ?_)
  rw [latestHit?_cons]
  cases latestHit? late <;> rfl

/-- Each event leads to a phase that tells of the events with this one. -/
theorem Told.after {phase : GesturePhase} (told : g.Told events phase) (e : PointerEvent) :
    ∃ next, (g.inPhase phase).after e = g.inPhase next ∧ g.Told (events ++ [e]) next := by
  cases pressed : e.presses with
  | true =>
      cases e with
      | down source pointer origin now =>
          exact ⟨_, rfl, .pending events ⟨source, pointer, origin, now⟩ [] rfl nofun nofun⟩
      | _ => cases pressed
  | false =>
      cases told with
      | idle => exact ⟨.idle, after_idle pressed, .idle⟩
      | pending past p held eq carried still =>
          have longer : events ++ [e] = past ++ p.event :: (held ++ [e]) := by
            rw [eq, List.append_assoc, List.cons_append]
          cases moved : g.quiet p e with
          | true =>
              refine ⟨_, after_quiet moved, ?_⟩
              cases on : e.carriesOn with
              | true =>
                  exact .pending past p (held ++ [e]) longer
                    (List.forall_mem_append.mpr ⟨carried, List.forall_mem_singleton.mpr on⟩)
                    (List.forall_mem_append.mpr ⟨still, List.forall_mem_singleton.mpr moved⟩)
              | false => exact .idle
          | false =>
              cases armed : g.arms p e with
              | true =>
                  refine ⟨_, after_arms armed, ?_⟩
                  rw [← latestHit?_singleton]
                  refine .armed past p held e [] longer ⟨?_, still, armed⟩
                  exact List.forall_mem_append.mpr
                    ⟨carried, List.forall_mem_singleton.mpr (carriesOn_of_arms armed)⟩
              | false => exact ⟨.idle, after_scroll pressed armed moved, .idle⟩
      | armed past p early first late eq arming =>
          cases on : e.carriesOn with
          | true =>
              refine ⟨_, after_armed on, ?_⟩
              have latest : e.hit?.getD (latestHit? (first :: late)).join =
                  (latestHit? (first :: (late ++ [e]))).join := by
                rw [← List.cons_append, latestHit?_append, latestHit?_singleton]
                cases e.hit? <;> rfl
              rw [latest]
              refine .armed past p early first (late ++ [e]) ?_ ⟨?_, arming.still, arming.arms⟩
              · rw [eq, List.append_assoc, List.cons_append, List.append_assoc, List.cons_append]
              · rw [← List.cons_append, ← List.append_assoc]
                exact List.forall_mem_append.mpr
                  ⟨arming.carried, List.forall_mem_singleton.mpr on⟩
          | false => exact ⟨.idle, after_ended pressed on, .idle⟩

theorem Told.play {phase : GesturePhase} (told : g.Told events phase)
    (more : List PointerEvent) :
    ∃ last, (g.inPhase phase).play more = g.inPhase last ∧ g.Told (events ++ more) last := by
  induction more generalizing events phase with
  | nil => exact ⟨phase, rfl, (List.append_nil events).symm ▸ told⟩
  | cons e rest ih =>
      obtain ⟨next, step, told⟩ := told.after e
      obtain ⟨last, run, told⟩ := ih told
      rw [List.append_assoc] at told
      exact ⟨last, (congrArg (play · rest) step).trans run, told⟩

/-! ### The release -/

/-- A drag that a tick arms is over nothing. -/
theorem phase_tick_iff (g : Gesture) (now : Int) {source : DragSource} {target : DropTarget} :
    (g.tick now).phase = .armed source (some target) ↔ g.phase = .armed source (some target) := by
  obtain ⟨hold, threshold, phase⟩ := g
  cases phase with
  | pending source pointer origin since =>
      simp only [tick]
      split
      · exact ⟨nofun, nofun⟩
      · exact Iff.rfl
  | _ => exact Iff.rfl

theorem up_eq_some_iff {b : Body} {now : Int} {r : Reorder} :
    (g.up now b).1 = some r ↔
      ∃ source target, g.phase = .armed source (some target) ∧
        Reorder.ofDrop? b source target = some r := by
  refine Iff.trans ?_ (exists_congr fun source => exists_congr fun target =>
    and_congr_left' (g.phase_tick_iff now))
  unfold up
  cases (g.tick now).phase with
  | armed source target =>
      cases target with
      | none => exact ⟨nofun, nofun⟩
      | some target =>
          refine ⟨fun asked => ⟨source, target, rfl, asked⟩, ?_⟩
          rintro ⟨_, _, ⟨⟩, asked⟩
          exact asked
  | _ => exact ⟨nofun, nofun⟩

variable {b : Body}

theorem up_of_armedBy {past early late : List PointerEvent} {target : DropTarget} {r : Reorder}
    (arming : g.ArmedBy p early e late) (latest : latestHit? (e :: late) = some (some target))
    (asked : Reorder.ofDrop? b p.source target = some r) (now : Int) :
    ((g.play (past ++ p.event :: (early ++ e :: late))).up now b).1 = some r := by
  refine up_eq_some_iff.mpr ⟨p.source, target, ?_, asked⟩
  have armed := (g.play_press past p _).trans arming.play_eq
  rw [armed, latest]
  rfl

/-- A touch that is seen to go beyond the threshold gives no command up to the next press. -/
theorem up_of_scrolled {past early late : List PointerEvent} {point : Point}
    {hit : Option DropTarget} {time : Int} (touch : p.pointer = .touch)
    (still : ∀ e ∈ early, g.quiet p e = true) (unheld : g.isHeld p.since time = false)
    (far : point.exceeds p.origin g.threshold = true) (unpressed : ∀ e ∈ late, e.presses = false)
    (now : Int) :
    ((g.play (past ++ p.event :: (early ++ .move point hit time :: late))).up now b).1 = none := by
  have scrolled : (g.inPhase p.phase).after (.move point hit time) = g.inPhase .idle := by
    refine after_scroll rfl ?_ ?_
    · rw [arms, unheld, touch]; rfl
    · rw [quiet, far]; exact Bool.and_false _
  have ended : g.play (past ++ p.event :: (early ++ .move point hit time :: late)) =
      g.inPhase .idle := by
    rw [play_press, play_append, play_quiet still]
    cases early.all carriesOn with
    | true => exact (congrArg (play · late) scrolled).trans (play_idle unpressed)
    | false => exact play_idle (List.forall_mem_cons.mpr ⟨rfl, unpressed⟩)
  rw [ended]
  rfl

/-- A touch whose early move is not seen to go beyond the threshold can still be held, and dragged. -/
theorem exists_command_of_unseen (past : List PointerEvent) {early : List PointerEvent} {point : Point}
    (hit : Option DropTarget) {time : Int} (carried : ∀ e ∈ early, e.carriesOn = true)
    (still : ∀ e ∈ early, g.quiet p e = true) (unheld : g.isHeld p.since time = false)
    (near : point.exceeds p.origin g.threshold = false) :
    ∃ late, (∀ e ∈ late, e.presses = false) ∧ ∃ now b r,
      ((g.play (past ++ p.event :: (early ++ .move point hit time :: late))).up now b).1 =
        some r := by
  obtain ⟨b, target, r, asked⟩ := Reorder.exists_drop p.source
  let held := p.since + g.holdDelay
  let late : List PointerEvent := [.tick held, .move p.origin (some target) held]
  have enough : g.isHeld p.since held = true := by
    simp only [isHeld, held, decide_eq_true_eq]
    omega
  have unmoved : g.quiet p (.move point hit time) = true := by
    rw [quiet, unheld, near]
    rfl
  have arming : g.ArmedBy p (early ++ [.move point hit time]) (.tick held)
      [.move p.origin (some target) held] := by
    refine ⟨?_, ?_, enough⟩
    · rw [List.append_assoc]
      exact List.forall_mem_append.mpr ⟨carried, by simp [carriesOn]⟩
    · exact List.forall_mem_append.mpr ⟨still, List.forall_mem_singleton.mpr unmoved⟩
  refine ⟨late, by simp [late, presses], held, b, r, ?_⟩
  rw [List.append_cons early]
  exact up_of_armedBy arming rfl asked held

/-- A release gives a command exactly if it ends what one press began: no other event but moves and
ticks has followed the press, one of them has armed the drag, and since then a move was over the target,
which no later move has left. What is pressed is what the command moves, and what armed the drag came
after the hold or was the move of a mouse beyond the threshold. A touch that goes beyond the threshold
before anything arms the drag gives no command up to the next press exactly if this is seen, as it is
where the distances that are computed fit 32 bits. -/
theorem up_eq_some_iff_dragged (holdDelay : Nat) (threshold : Int32) (events : List PointerEvent)
    (now : Int) (b : Body) :
    let g : Gesture := { holdDelay, threshold }
    (∀ r, ((g.play events).up now b).1 = some r ↔
      ∃ past p early e late target, events = past ++ p.event :: (early ++ e :: late) ∧
        g.ArmedBy p early e late ∧ latestHit? (e :: late) = some (some target) ∧
        latestHit? (early ++ e :: late) = some (some target) ∧ r.source = p.source ∧
        Reorder.ofDrop? b p.source target = some r) ∧
    (∀ p e, g.arms p e = true →
      (∃ now, e.time? = some now ∧ g.isHeld p.since now = true) ∨
        p.pointer = .mouse ∧
          ∃ point hit now, e = .move point hit now ∧ point.Beyond p.origin threshold) ∧
    (∀ past p early point hit time late,
      events = past ++ p.event :: (early ++ .move point hit time :: late) → p.pointer = .touch →
      (∀ e ∈ early, g.Calm p e) → g.isHeld p.since time = false →
      point.exceeds p.origin threshold = true → (∀ e ∈ late, e.presses = false) →
      ((g.play events).up now b).1 = none) ∧
    (∀ past p early point hit time, p.pointer = .touch →
      (∀ e ∈ early, g.Calm p e ∧ e.carriesOn = true) → g.isHeld p.since time = false →
      ((∀ late, (∀ e ∈ late, e.presses = false) → ∀ now b,
        ((g.play (past ++ p.event :: (early ++ .move point hit time :: late))).up now b).1 =
          none) ↔ point.exceeds p.origin threshold = true)) ∧
    ∀ point origin : Point, point.overflows origin threshold = false →
      (point.exceeds origin threshold = true ↔ point.Beyond origin threshold) := by
  intro g
  refine ⟨fun r => ⟨?_, ?_⟩, fun p e => held_or_beyond_of_arms, ?_, ?_,
    fun point origin => Point.exceeds_iff_beyond⟩
  · intro given
    obtain ⟨source, target, armed, asked⟩ := up_eq_some_iff.mp given
    obtain ⟨phase, led, told⟩ := Told.play (.idle : g.Told [] .idle) events
    have led : g.play events = g.inPhase phase := led
    rw [led] at armed
    cases told with
    | idle => cases armed
    | pending past p held eq carried still => cases armed
    | armed past p early e late eq arming =>
        obtain ⟨rfl, reached⟩ := GesturePhase.armed.inj armed
        have latest := Option.join_eq_some_iff.mp reached
        refine ⟨past, p, early, e, late, target, eq, arming, latest, ?_,
          Reorder.source_of_ofDrop? asked, asked⟩
        rw [latestHit?_append, latest, Option.some_or]
  · rintro ⟨past, p, early, e, late, target, rfl, arming, latest, -, -, asked⟩
    exact up_of_armedBy arming latest asked now
  · rintro past p early point hit time late rfl touch calm unheld far unpressed
    exact up_of_scrolled touch (fun e he => quiet_of_calm (calm e he)) unheld far unpressed now
  · intro past p early point hit time touch calm unheld
    have still : ∀ e ∈ early, g.quiet p e = true := fun e he => quiet_of_calm (calm e he).1
    refine ⟨fun silent => ?_, fun far late unpressed now b => ?_⟩
    · cases seen : point.exceeds p.origin threshold with
      | true => rfl
      | false =>
          obtain ⟨late, unpressed, now, b, r, given⟩ := exists_command_of_unseen past hit
            (fun e he => (calm e he).2) still unheld seen
          rw [silent late unpressed now b] at given
          cases given
    · exact up_of_scrolled touch still unheld far unpressed now

namespace Swiped

def body : Body := ⟨[⟨⟨1⟩, .comment ""⟩, ⟨⟨2⟩, .comment ""⟩], 2⟩

def gesture : Gesture := ⟨300, 5, .idle⟩

def onto : Option DropTarget := some (.wholeSection ⟨2⟩)

/-- A touch that is held while the clock runs backwards, after a press that was cancelled, and a touch
that scrolls. -/
theorem hold_dragged_and_scroll_ignored :
    let p : Press := ⟨.wholeSection ⟨1⟩, .touch, ⟨0, 0⟩, 100⟩
    let past : List PointerEvent := [.down (.wholeSection ⟨2⟩) .mouse ⟨0, 0⟩ 0, .cancel]
    let held : List PointerEvent :=
      [.tick 50, .move ⟨5, 0⟩ none 120, .tick 400, .move ⟨90, 0⟩ onto 0]
    let scrolled : List PointerEvent :=
      [.tick 50, .move ⟨6, 0⟩ onto 120, .tick 400, .move ⟨7, 0⟩ onto 401]
    ((gesture.play (past ++ p.event :: held)).up 0 body).1 = some (.moveSection ⟨1⟩ 1) ∧
      ((gesture.play (past ++ p.event :: scrolled)).up 402 body).1 = none := by
  intro p past held scrolled
  constructor
  · exact ((up_eq_some_iff_dragged 300 5 (past ++ p.event :: held) 0 body).1 _).mpr
      ⟨past, p, [.tick 50, .move ⟨5, 0⟩ none 120], .tick 400, [.move ⟨90, 0⟩ onto 0],
        .wholeSection ⟨2⟩, rfl, ⟨by decide, by decide, by decide⟩, rfl, rfl, rfl, rfl⟩
  · have calm : ∀ e ∈ [PointerEvent.tick 50], gesture.Calm p e :=
      List.forall_mem_singleton.mpr (rfl : gesture.isHeld 100 50 = false)
    exact (up_eq_some_iff_dragged 300 5 (past ++ p.event :: scrolled) 402 body).2.2.1 past p
      [.tick 50] ⟨6, 0⟩ onto 120 [.tick 400, .move ⟨7, 0⟩ onto 401] rfl rfl calm (by decide)
      (by decide) (by decide)

/-- A touch that goes from the one end of the numbers to the other early on is taken for a touch that
has moved by one, and is dragged later. -/
theorem far_touch_dragged :
    let p : Press := ⟨.wholeSection ⟨1⟩, .touch, ⟨-2147483648, 0⟩, 0⟩
    let events : List PointerEvent := [p.event, .move ⟨2147483647, 0⟩ none 10, .tick 300,
      .move ⟨2147483647, 0⟩ onto 400]
    Point.Beyond ⟨2147483647, 0⟩ p.origin gesture.threshold ∧
      gesture.isHeld p.since 10 = false ∧
      ((gesture.play events).up 401 body).1 = some (.moveSection ⟨1⟩ 1) := by
  decide

end Swiped

end Gesture

end SiteReport
