import SiteReport.Proofs.Composer.Moments

/-!
Listening to a composer. Whoever keeps a list of section identifiers, follows what is published and
misses nothing, has the identifiers of the document after every command: each change can be made in
the list as it is then, and the sections that it names stand where it says.
-/

namespace SiteReport

/-- Puts an identifier right after another one. -/
def putAfter (source copy : SectionId) : List SectionId → List SectionId
  | [] => []
  | id :: rest => if id = source then id :: copy :: rest else id :: putAfter source copy rest

namespace Change

/-- The list of a listener after a change. The identifiers of the document as it is `now` are looked
up where the change does not say what became of them. -/
def follow (now known : List SectionId) : Change → List SectionId
  | .added id index => known.insertIdx index id
  | .removed _ index => known.eraseIdx index
  | .moved _ start stop => Body.moveItem known start stop
  | .duplicated source copy => putAfter source copy known
  | .replaced => now
  | _ => known

/-- The list has the places that a change speaks of, and the section that it names stands there. -/
def Fits (known : List SectionId) : Change → Prop
  | .added _ index => index ≤ known.length
  | .removed id index => known[index]? = some id
  | .moved id start stop => known[start]? = some id ∧ stop < known.length
  | .duplicated source _ => source ∈ known
  | _ => True

end Change

namespace ComposerEvent

def follow (now known : List SectionId) : ComposerEvent → List SectionId
  | .body change => change.follow now known
  | .documentReset => now
  | _ => known

def Fits (known : List SectionId) : ComposerEvent → Prop
  | .body change => change.Fits known
  | _ => True

/-- Several events, the oldest first. -/
def followAll (now known : List SectionId) (events : List ComposerEvent) : List SectionId :=
  events.foldl (fun known e => e.follow now known) known

/-- Each event fits the list that the listener has by then. -/
def AllFit (now : List SectionId) : (known : List SectionId) → List ComposerEvent → Prop
  | _, [] => True
  | known, e :: rest => e.Fits known ∧ AllFit now (e.follow now known) rest

variable {now known : List SectionId} {events more : List ComposerEvent}

theorem followAll_append : followAll now known (events ++ more) =
    followAll now (followAll now known events) more := List.foldl_append

theorem AllFit.append (h : AllFit now known events)
    (next : AllFit now (followAll now known events) more) : AllFit now known (events ++ more) := by
  induction events generalizing known with
  | nil => exact next
  | cons e rest ih => exact ⟨h.1, ih h.2 next⟩

theorem follow_aside {e : ComposerEvent} (aside : e.isAside = true) (now known : List SectionId) :
    e.follow now known = known ∧ e.Fits known := by
  cases e with
  | body change => cases aside
  | documentReset => cases aside
  | _ => exact ⟨rfl, trivial⟩

theorem followAll_aside (aside : ∀ e ∈ events, e.isAside = true) (now known : List SectionId) :
    followAll now known events = known ∧ AllFit now known events := by
  induction events with
  | nil => exact ⟨rfl, trivial⟩
  | cons e rest ih =>
      obtain ⟨first, others⟩ := List.forall_mem_cons.mp aside
      obtain ⟨same, fits⟩ := follow_aside first now known
      obtain ⟨still, all⟩ := ih others
      rw [followAll, List.foldl_cons, AllFit, same]
      exact ⟨still, fits, all⟩

end ComposerEvent

/-! ### One edit -/

theorem putAfter_append {source copy : SectionId} {pre : List SectionId} (fresh : source ∉ pre)
    (post : List SectionId) :
    putAfter source copy (pre ++ source :: post) = pre ++ source :: copy :: post := by
  induction pre with
  | nil => simp [putAfter]
  | cons id pre ih =>
      rw [List.mem_cons, not_or] at fresh
      rw [List.cons_append, putAfter, if_neg (Ne.symm fresh.1), ih fresh.2, List.cons_append]

namespace Body

variable {b : Body}

theorem push_followed (b : Body) (content : Content) (now : List SectionId) :
    (b.push content).1.ids = (b.push content).2.follow now b.ids ∧
      (b.push content).2.Fits b.ids := by
  have length : b.sections.length = b.ids.length := (List.length_map _).symm
  refine ⟨?_, Nat.le_of_eq length⟩
  rw [ids_push, push, Change.follow, length, List.insertIdx_length_self]

/-- An accepted edit does to the identifiers what its change says, unless it is about the whole
document. -/
theorem ids_of_apply {e : Edit} {after : Body} {change : Change}
    (accepted : b.apply e = .ok (after, some change)) (kept : e.overwrites = false)
    (now : List SectionId) : after.ids = change.follow now b.ids ∧ change.Fits b.ids := by
  have told {answer : Except EditError (Body × Change)}
      (h : answer.map made = .ok (after, some change)) : answer = .ok (after, change) := by
    obtain ⟨_, answered, same⟩ := map_made_eq_ok_iff.mp h
    cases same
    exact answered
  cases e with
  | add kind => cases accepted; exact push_followed b _ now
  | addBlock layout => cases accepted; exact push_followed b _ now
  | push content => cases accepted; exact push_followed b content now
  | remove id =>
      obtain ⟨pre, s, post, split, h⟩ := remove_eq_ok_iff.mp (told accepted)
      cases h
      refine ⟨?_, split.getElem?_ids⟩
      show (pre ++ post).map (·.id) = (b.sections.map (·.id)).eraseIdx pre.length
      rw [List.eraseIdx_map, split.eraseIdx]
  | update id patch =>
      obtain ⟨pre, s, post, content, split, -, h⟩ := update_eq_ok_iff.mp (told accepted)
      cases h
      refine ⟨?_, trivial⟩
      simp [Change.follow, ids, split.sections_eq]
  | move id stop =>
      obtain ⟨pre, s, post, split, inside, h⟩ := move_eq_ok_iff.mp (told accepted)
      cases h
      refine ⟨map_moveItem _ _ _ _, split.getElem?_ids, ?_⟩
      rwa [ids, List.length_map]
  | duplicate id =>
      obtain ⟨pre, s, post, split, h⟩ := duplicate_eq_ok_iff.mp (told accepted)
      cases h
      have fresh : id ∉ pre.map (·.id) := by
        intro member
        obtain ⟨t, before, same⟩ := List.mem_map.mp member
        exact split.pre_ne t before same
      refine ⟨?_, ?_⟩
      · rw [Change.follow, split.ids, putAfter_append fresh]
        simp [ids, split.id_eq]
      · rw [Change.Fits, split.ids]
        exact List.mem_append_right _ List.mem_cons_self
  | attach list photo =>
      obtain ⟨photos, -, -, h⟩ := attach_eq_ok_iff.mp accepted
      split at h <;> cases h
      exact ⟨ids_setPhotos _ _ _, trivial⟩
  | detach list photo =>
      obtain ⟨_, _, _, h⟩ := detach_eq_ok_iff.mp (told accepted)
      cases h
      exact ⟨ids_setPhotos _ _ _, trivial⟩
  | moveWithin list start stop =>
      obtain ⟨_, _, _, _, h⟩ := moveWithin_eq_ok_iff.mp (told accepted)
      cases h
      exact ⟨ids_setPhotos _ _ _, trivial⟩
  | moveAcross source index target =>
      rcases moveAcross_eq_ok_iff.mp (told accepted) with ⟨_, _, _, within⟩ | ⟨_, _, _, _, h⟩
      · obtain ⟨_, _, _, _, h⟩ := moveWithin_eq_ok_iff.mp within
        cases h
        exact ⟨ids_setPhotos _ _ _, trivial⟩
      · cases h
        refine ⟨?_, trivial⟩
        simp only [Change.follow]
        split <;> simp
  | resolve resolution => cases kept
  | clear => cases kept

end Body

namespace Composer

open ComposerEvent

variable {c mid after : Composer} {clock : Clock} {now : List SectionId}

/-! ### One command -/

/-- Following what was published in between leads from the identifiers of one composer to those of
the other, and all of it fits. -/
def Heard (now : List SectionId) (c after : Composer) : Prop :=
  ∃ news, after.published = c.published ++ news ∧
    followAll now c.body.ids news = after.body.ids ∧ AllFit now c.body.ids news

namespace Heard

theorem aside (ids_eq : after.body.ids = c.body.ids) (told : ToldAside c after) :
    Heard now c after := by
  obtain ⟨news, published, quiet⟩ := told
  obtain ⟨same, fits⟩ := followAll_aside quiet now c.body.ids
  exact ⟨news, published, same.trans ids_eq.symm, fits⟩

theorem trans (h : Heard now c mid) (next : Heard now mid after) : Heard now c after := by
  obtain ⟨news, published, same, fits⟩ := h
  obtain ⟨more, published', same', fits'⟩ := next
  refine ⟨news ++ more, ?_, ?_, ?_⟩
  · rw [published', published, List.append_assoc]
  · rw [followAll_append, same, same']
  · exact fits.append (same.symm ▸ fits')

/-- An event that makes the listener look the identifiers up. -/
theorem reloaded {e : ComposerEvent} (reload : ∀ known, e.follow now known = now)
    (fits : ∀ known, e.Fits known) (told : ToldAside (c.emit e) after)
    (now_eq : now = after.body.ids) : Heard now c after := by
  obtain ⟨news, published, quiet⟩ := told
  obtain ⟨same, all⟩ := followAll_aside quiet now now
  refine ⟨e :: news, ?_, ?_, ?_⟩
  · rw [published, emit, List.append_assoc, List.singleton_append]
  · rw [followAll, List.foldl_cons, reload, ← now_eq]
    exact same
  · rw [AllFit, reload]
    exact ⟨fits _, all⟩

theorem adopted {e : Edit} {r : Body × Change} (accepted : c.body.apply e = .ok (Body.made r))
    (kept : e.overwrites = false) : Heard now c (c.adopt clock r) := by
  unfold adopt commit
  split
  · rename_i noop
    have same : r.1 = c.body := Body.apply_noop accepted noop
    exact aside (congrArg Body.ids same) (.refl c)
  · obtain ⟨ids_eq, fits⟩ := Body.ids_of_apply accepted kept now
    exact ⟨[.body r.2], rfl, ids_eq.symm, fits, trivial⟩

end Heard

theorem Steps.heard {edits : List Edit} (steps : Steps clock c edits after) :
    Heard now c after := by
  induction steps with
  | idle c => exact .aside rfl (.refl c)
  | andThen first next ih ih' => exact ih.trans ih'
  | adopted accepted plain kept => exact .adopted accepted kept
  | @spared c e same plain => exact .aside rfl (.refl c)
  | headed c header => exact .aside rfl (.emit (.refl c) rfl)
  | linked c id => exact .aside rfl (.refl c)
  | @selected c mid edits ids work ih =>
      have told : Heard now mid (mid.emit .selectionChanged) := .aside rfl (.emit (.refl mid) rfl)
      exact Heard.trans ih told
  | @restocked c stock kept => exact .aside rfl (.refl c)

theorem heard_applySubmit (c : Composer) (clock : Clock) (outcome : SubmitOutcome) :
    Heard (c.applySubmit clock outcome).2.body.ids c (c.applySubmit clock outcome).2 := by
  rcases c.applySubmit_cases clock outcome with ⟨-, kept⟩ | ⟨-, ⟨e, -, kept⟩ | ⟨_, -, -, applied⟩⟩
  · rw [kept]
    exact .aside rfl (.refl c)
  · rw [kept]
    exact .aside rfl (.refl c)
  · exact .reloaded (e := .body .replaced) (fun _ => rfl) (fun _ => trivial) applied.told rfl

theorem heard_discardDocument (c : Composer) (clock : Clock) :
    Heard c.discardDocument.2.body.ids c c.discardDocument.2 := by
  let gone := c.release (c.body.stagedPhotos.map (·.2))
  let renewed : Composer :=
    { gone with header := {}, body := gone.body.clear.1, remoteId := none }.resetTransient
  have told : ToldAside (renewed.emit .documentReset) c.discardDocument.2 :=
    (filed_declineDraft (renewed.emit .documentReset) clock).told
  exact .reloaded (e := .documentReset) (fun _ => rfl) (fun _ => trivial) told rfl

/-- One command, whatever it is. -/
theorem perform_heard (c : Composer) (clock : Clock) (command : Command) :
    Heard (c.perform clock command).2.body.ids c (c.perform clock command).2 := by
  cases drafts : command.handlesDraft with
  | true =>
      have filed := perform_filed drafts c clock
      obtain ⟨store, autosave, published, same⟩ := filed.rest
      exact .aside (by rw [same]) filed.told
  | false =>
      cases command with
      | pointer event =>
          obtain ⟨gesture, steps⟩ := steps_pointer c clock event
          exact steps.heard
      | markUploaded id url =>
          simp only [perform, markUploaded]
          split <;> exact .aside rfl (.refl c)
      | runSubmit service batchSize ticket => exact .aside rfl (.refl c)
      | restore draft =>
          have told : ToldAside (c.emit (.body .replaced)) (c.restore draft).2 :=
            .emit (.refl _) rfl
          exact .reloaded (e := .body .replaced) (fun _ => rfl) (fun _ => trivial) told rfl
      | discardDocument => exact heard_discardDocument c clock
      | applySubmit outcome => exact heard_applySubmit c clock outcome
      | submit service batchSize =>
          exact heard_applySubmit (c.runSubmit service batchSize c.beginSubmit).2 clock _
      | _ => exact (perform_steps rfl rfl drafts rfl c clock).heard

/-! ### A session -/

/-- The list of a listener after a session. What a command published is followed once it is done. -/
def listened : Composer → List (Moment × Command) → (known : List SectionId) → List SectionId
  | _, [], known => known
  | c, (m, command) :: rest, known =>
    let after := c.performAt m command
    after.listened rest
      (followAll after.body.ids known (after.published.drop c.published.length))

/-- A listener has the identifiers of the document after every command, whatever the stores do.
Nothing that was published is taken back, and all that a command publishes fits: the section that
is removed or moved stands at the place that is told. -/
theorem listener_keeps_ids (c : Composer) (session : List (Moment × Command)) :
    c.listened session c.body.ids = (c.playAt session).body.ids ∧
    ∀ m command,
      let before := c.playAt session
      let after := before.performAt m command
      ∃ news, after.published = before.published ++ news ∧
        followAll after.body.ids before.body.ids news = after.body.ids ∧
        AllFit after.body.ids before.body.ids news := by
  refine ⟨?_, fun m command => perform_heard ((c.playAt session).under m.faults) m.clock command⟩
  induction session generalizing c with
  | nil => rfl
  | cons e rest ih =>
      obtain ⟨m, command⟩ := e
      obtain ⟨news, published, same, -⟩ := perform_heard (c.under m.faults) m.clock command
      have since : (c.performAt m command).published.drop c.published.length = news := by
        rw [performAt, published]
        exact List.drop_left
      rw [listened, since]
      exact (congrArg _ same).trans (ih (c.performAt m command))

end Composer

end SiteReport
