import SiteReport.Proofs.Settings.Breakdown
import SiteReport.Proofs.Store.Records
import SiteReport.Proofs.Store.SavedDraft
import SiteReport.Proofs.Store.Shared

/-!
The look at the draft slot. Whatever text is in the slot, the look comes to its end: a draft that is
younger than the window is offered and stays, and anything else leaves an empty slot behind, which is
what every look finds until a draft is saved. Only what the store refuses is an error.
-/

namespace SiteReport

namespace Timestamp

/-- Nanoseconds since day zero began, leap seconds left out. -/
def nanos (t : Timestamp) : Int := t.seconds * 1000000000 + t.time.nano

/-- Outside leap seconds the time between two instants is the difference of their counts. -/
theorem nanosBetween_eq_sub {earlier later : Timestamp} (regular : earlier.time.nano < 1000000000)
    (regular' : later.time.nano < 1000000000) :
    nanosBetween earlier later = later.nanos - earlier.nanos := by
  have seconds : secondsBetween earlier.time later.time =
      later.time.secondOfDay - earlier.time.secondOfDay := by
    unfold secondsBetween
    simp only
    rw [if_neg (by omega), if_neg (by omega)]
  unfold nanosBetween nanos Timestamp.seconds
  rw [seconds]
  omega

end Timestamp

/-- What may happen to a store between one look at its draft and another. -/
inductive StoreEvent where
  | request (r : StoreRequest)
  | look (now : Timestamp) (window : Int)

/-- No draft is put into the slot. -/
def StoreEvent.Spares : StoreEvent → Prop
  | .request (.draft (.save _)) => False
  | _ => True

namespace Store

variable {s after : Store} {now : Timestamp} {window : Int}

def meet (s : Store) : StoreEvent → Store
  | .request r => (s.handle r).2
  | .look now window =>
    match s.checkDraft now window with
    | .ok (_, after) => after
    | .error _ => s

def meets (s : Store) (events : List StoreEvent) : Store := events.foldl meet s

/-! ### One look -/

/-- The text in the slot is a draft that is younger than the window. -/
def Offers (s : Store) (now : Timestamp) (window : Int) (draft : Snapshot) : Prop :=
  ∃ text, s.slot = some text ∧ Snapshot.parse? text = some draft ∧ draft.age now < window

/-- A look at an empty slot, at one with a young draft, and at any other one. -/
theorem checkDraft_cases (loads : s.faults .draftLoad = none) (now : Timestamp) (window : Int) :
    (s.slot = none ∧ s.checkDraft now window = .ok (.empty, s)) ∨
    (∃ draft, s.Offers now window draft ∧ s.checkDraft now window = .ok (.offer draft, s)) ∨
    (s.slot ≠ none ∧ (∀ draft, ¬ s.Offers now window draft) ∧
      ∃ check, (check = .stale ∨ check = .corrupt) ∧
        s.checkDraft now window = s.clearDraft.map (check, ·)) := by
  unfold Offers checkDraft
  rw [loadDraft_eq loads]
  cases s.slot with
  | none => exact .inl ⟨rfl, rfl⟩
  | some text =>
      refine .inr ?_
      simp only [Option.some.injEq, exists_eq_left']
      cases Snapshot.parse? text with
      | none => exact .inr ⟨nofun, fun _ => nofun, .corrupt, .inr rfl, rfl⟩
      | some draft =>
          by_cases young : draft.age now < window
          · refine .inl ⟨draft, ⟨rfl, young⟩, ?_⟩
            exact if_pos (decide_eq_true young)
          · refine .inr ⟨nofun, ?_, .stale, .inl rfl, ?_⟩
            · rintro _ ⟨⟨⟩, younger⟩
              exact young younger
            · exact if_neg (by simpa [Snapshot.isFresh] using young)

theorem Offers.unique {draft other : Snapshot} (h : s.Offers now window draft)
    (h' : s.Offers now window other) : draft = other := by
  obtain ⟨text, slot, read, -⟩ := h
  obtain ⟨text', slot', read', -⟩ := h'
  cases slot.symm.trans slot'
  exact Option.some.inj (read.symm.trans read')

theorem Offers.slot_ne_none {draft : Snapshot} (h : s.Offers now window draft) : s.slot ≠ none := by
  obtain ⟨text, slot, -⟩ := h
  simp [slot]

/-- A look that fails changes nothing. -/
theorem meet_of_error {e : StoreError} (failed : s.checkDraft now window = .error e) :
    s.meet (.look now window) = s := by
  simp only [meet, failed]

/-- A store that refuses to load a draft cannot be looked at. -/
theorem checkDraft_of_unloaded {e : StoreError} (refused : s.faults .draftLoad = some e)
    (other : e ≠ .undecodable) : s.checkDraft now window = .error e := by
  unfold checkDraft
  rw [loadDraft_of_fault refused]
  cases e with
  | undecodable => exact absurd rfl other
  | _ => rfl

/-! ### From one look to the next -/

theorem settled_kept {α : Type} {r : Except StoreError α} {told : α → PhotoAnswer × Store}
    (kept : ∀ a, r = .ok a → (told a).2.slot = s.slot ∧ (told a).2.faults = s.faults) :
    (s.settled (r.map told)).2.slot = s.slot ∧ (s.settled (r.map told)).2.faults = s.faults := by
  cases r with
  | error e => exact ⟨rfl, rfl⟩
  | ok a => exact kept a rfl

/-- Calls on the photos leave the draft alone. -/
theorem serve_kept (s : Store) (call : PhotoCall) :
    (s.serve call).2.slot = s.slot ∧ (s.serve call).2.faults = s.faults := by
  cases call with
  | put p =>
      refine settled_kept fun after accepted => ?_
      obtain ⟨faults, slot, -⟩ := put_spec accepted
      exact ⟨slot, faults⟩
  | get id => exact ⟨rfl, rfl⟩
  | getAll => exact ⟨rfl, rfl⟩
  | delete id =>
      refine settled_kept fun answer accepted => ?_
      obtain ⟨faults, slot, -⟩ := delete_spec accepted
      exact ⟨slot, faults⟩
  | clear =>
      refine settled_kept fun after accepted => ?_
      obtain ⟨faults, slot, -⟩ := clear_spec accepted
      exact ⟨slot, faults⟩
  | markUploaded id url =>
      refine settled_kept fun answer accepted => ?_
      obtain ⟨-, -, same⟩ := markUploaded_eq_ok_iff.mp accepted
      exact same ▸ ⟨slot_note s id url, rfl⟩

/-- An empty slot stays empty as long as no draft is saved. -/
theorem meet_empty (empty : s.slot = none) {e : StoreEvent} (spares : e.Spares) :
    (s.meet e).slot = none ∧ (s.meet e).faults = s.faults := by
  have cleared (after : Store) (accepted : s.clearDraft = .ok after) :
      after.slot = none ∧ after.faults = s.faults := by
    obtain ⟨-, faults, slot, -⟩ := clearDraft_spec accepted
    exact ⟨slot, faults⟩
  cases e with
  | request r =>
      cases r with
      | photos call =>
          obtain ⟨slot, faults⟩ := s.serve_kept call
          exact ⟨slot.trans empty, faults⟩
      | draft call =>
          cases call with
          | save draft => exact absurd spares id
          | load => exact ⟨empty, rfl⟩
          | clear =>
              simp only [meet, handle, serveDraft]
              split
              · rename_i after accepted
                exact cleared after accepted
              · exact ⟨empty, rfl⟩
  | look now window =>
      simp only [meet]
      split
      · rename_i check after looked
        rcases checkDraft_spec looked with ⟨-, accepted⟩ | ⟨-, rfl⟩
        · exact cleared after accepted
        · exact ⟨empty, rfl⟩
      · exact ⟨empty, rfl⟩

theorem meets_empty (empty : s.slot = none) {events : List StoreEvent}
    (spares : ∀ e ∈ events, e.Spares) :
    (s.meets events).slot = none ∧ (s.meets events).faults = s.faults := by
  induction events generalizing s with
  | nil => exact ⟨empty, rfl⟩
  | cons e rest ih =>
      obtain ⟨first, others⟩ := List.forall_mem_cons.mp spares
      obtain ⟨slot, faults⟩ := meet_empty empty first
      obtain ⟨slot', faults'⟩ := ih slot others
      exact ⟨slot', faults'.trans faults⟩

/-- Until a draft is saved, an empty slot is found empty whenever it is looked at. -/
theorem checkDraft_meets_empty (loads : s.faults .draftLoad = none) (empty : s.slot = none)
    {events : List StoreEvent} (spares : ∀ e ∈ events, e.Spares) (now : Timestamp) (window : Int) :
    (s.meets events).checkDraft now window = .ok (.empty, s.meets events) := by
  obtain ⟨slot, faults⟩ := meets_empty empty spares
  rw [checkDraft, loadDraft_eq (faults ▸ loads), slot]

/-! ### Any text in the slot -/

/-- A look at the slot comes to its end: the age of a draft is a span. It fails only if the store
refuses to load the draft, or to clear one that has to go, and then the slot stays as it is. Else a
draft is offered exactly if the text in the slot decodes to it and its age is below the window; then
too the slot stays as it is. Otherwise the slot was empty or is cleared, and it is found empty until a
draft is saved. -/
theorem checkDraft_exactly (s : Store) (now : Timestamp) (window : Int) :
    Store.Checked.checkDraft s now window = .ok (s.checkDraft now window) ∧
    (∀ draft : Snapshot, draft.savedAt.time.nano < 1000000000 → now.time.nano < 1000000000 →
      draft.age now = now.nanos - draft.savedAt.nanos) ∧
    (∀ e, s.faults .draftLoad = some e → e ≠ .undecodable →
      s.checkDraft now window = .error e ∧ s.meet (.look now window) = s) ∧
    (s.faults .draftLoad = none →
      (∀ e, s.faults .draftClear = some e → s.slot ≠ none →
        (∀ draft, ¬ s.Offers now window draft) →
        s.checkDraft now window = .error e ∧ s.meet (.look now window) = s) ∧
      (s.faults .draftClear = none ∨ s.slot = none ∨ (∃ draft, s.Offers now window draft) →
        ∃ check after, s.checkDraft now window = .ok (check, after) ∧
          (∀ draft, check = .offer draft ↔ s.Offers now window draft) ∧
          (check = .empty ↔ s.slot = none) ∧
          (check = .empty ∨ (∃ draft, check = .offer draft) → after = s) ∧
          after.stored = s.stored ∧
          ((∀ draft, check ≠ .offer draft) → after.slot = none ∧
            ∀ events : List StoreEvent, (∀ e ∈ events, e.Spares) → ∀ now window,
              (after.meets events).checkDraft now window =
                .ok (.empty, after.meets events)))) := by
  refine ⟨checked_checkDraft s now window, fun draft => Timestamp.nanosBetween_eq_sub, ?_,
    fun loads => ⟨?_, ?_⟩⟩
  · intro e refused other
    have failed : s.checkDraft now window = .error e := checkDraft_of_unloaded refused other
    exact ⟨failed, meet_of_error failed⟩
  · intro e refused full old
    rcases checkDraft_cases loads now window with ⟨empty, -⟩ | ⟨draft, offers, -⟩ |
      ⟨-, -, check, -, looked⟩
    · exact absurd empty full
    · exact absurd offers (old draft)
    · have kept : s.clearDraft = .error e := change_eq_error_iff.mpr refused
      rw [kept] at looked
      exact ⟨looked, meet_of_error looked⟩
  · intro settles
    rcases checkDraft_cases loads now window with ⟨empty, looked⟩ | ⟨draft, offers, looked⟩ |
      ⟨full, old, check, told, looked⟩
    · refine ⟨.empty, s, looked, ?_, ?_, fun _ => rfl, rfl, fun _ => ⟨empty, ?_⟩⟩
      · exact fun draft => ⟨nofun, fun offers => absurd empty offers.slot_ne_none⟩
      · exact ⟨fun _ => empty, fun _ => rfl⟩
      · exact fun events spares now window => checkDraft_meets_empty loads empty spares now window
    · refine ⟨.offer draft, s, looked, ?_, ?_, fun _ => rfl, rfl, fun none => ?_⟩
      · intro other
        constructor
        · rintro ⟨⟩
          exact offers
        · exact fun offers' => congrArg DraftCheck.offer (offers.unique offers')
      · exact ⟨nofun, fun empty => absurd empty offers.slot_ne_none⟩
      · exact absurd rfl (none draft)
    · have clears : s.faults .draftClear = none := by
        rcases settles with clears | empty | ⟨draft, offers⟩
        · exact clears
        · exact absurd empty full
        · exact absurd offers (old draft)
      obtain ⟨after, cleared⟩ : ∃ after, s.clearDraft = .ok after :=
        ⟨_, change_eq_ok_iff.mpr ⟨clears, rfl⟩⟩
      obtain ⟨-, faults, slot, stored⟩ := clearDraft_spec cleared
      rw [cleared] at looked
      have other : check ≠ .empty ∧ ∀ draft, check ≠ .offer draft := by
        rcases told with rfl | rfl <;> exact ⟨nofun, fun _ => nofun⟩
      refine ⟨check, after, looked, ?_, ?_, ?_, stored, fun _ => ⟨slot, ?_⟩⟩
      · exact fun draft => ⟨fun offer => absurd offer (other.2 draft),
          fun young => absurd young (old draft)⟩
      · exact ⟨fun none => absurd none other.1, fun empty => absurd empty full⟩
      · rintro (none | ⟨draft, offer⟩)
        · exact absurd none other.1
        · exact absurd offer (other.2 draft)
      · exact fun events spares now window =>
          checkDraft_meets_empty (faults ▸ loads) slot spares now window

namespace Filled

def draft : Snapshot := .capture {} body (some "r") savedAt

theorem parse_draft : Snapshot.parse? draft.text = some draft := by
  have told : draft.told = draft := rfl
  rw [Snapshot.parse?_text, told]

/-- The draft is in the slot, and the one beside it cannot be read. -/
def shelf : Store :=
  { backend := .database { drafts := [⟨"night", "\x7b"⟩, ⟨"day", draft.text⟩] } "day" }

/-- The same shelf in a database that refuses one kind of request. -/
def refusing (call : StoreCall) : Store :=
  { shelf with faults := fun asked => if asked = call then some (.database "locked") else none }

theorem slot_refusing (call : StoreCall) : (refusing call).slot = some draft.text := rfl

/-- The age of the draft is no longer below the window. -/
theorem old (call : StoreCall) (other : Snapshot) :
    ¬ (refusing call).Offers later (draft.age later) other := by
  rintro ⟨text, held, read, young⟩
  have same : draft.text = text := Option.some.inj ((slot_refusing call).symm.trans held)
  rw [← same, parse_draft] at read
  rw [← Option.some.inj read] at young
  exact Int.lt_irrefl _ young

/-- A draft of just the age of the window is too old, whatever is asked of the store meanwhile. A
database that refuses the clearing keeps it, and a young one is offered all the same. -/
theorem draft_offered_below_window :
    (∃ check after, (refusing .put).checkDraft later (draft.age later) = .ok (check, after) ∧
      after.slot = none ∧ ∀ now window,
        (after.meets [.look now window, .request (.draft .load)]).checkDraft now window =
          .ok (.empty, after.meets [.look now window, .request (.draft .load)])) ∧
    (refusing .draftClear).checkDraft later (draft.age later + 1) =
      .ok (.offer draft, refusing .draftClear) ∧
    (refusing .draftClear).meet (.look later (draft.age later)) = refusing .draftClear := by
  refine ⟨?_, ?_, ?_⟩
  · obtain ⟨-, -, -, looks⟩ := checkDraft_exactly (refusing .put) later (draft.age later)
    obtain ⟨check, after, looked, offers, -, -, -, gone⟩ := (looks rfl).2 (.inl rfl)
    obtain ⟨emptied, later⟩ := gone fun other offered => old _ _ ((offers other).mp offered)
    refine ⟨check, after, looked, emptied, fun now window => later _ ?_ now window⟩
    intro e member
    rcases List.mem_pair.mp member with rfl | rfl <;> trivial
  · have young : (refusing .draftClear).Offers later (draft.age later + 1) draft :=
      ⟨draft.text, slot_refusing _, parse_draft, Int.lt_succ _⟩
    obtain ⟨-, -, -, looks⟩ := checkDraft_exactly (refusing .draftClear) later (draft.age later + 1)
    obtain ⟨check, after, looked, offers, -, kept, -⟩ := (looks rfl).2 (.inr (.inr ⟨draft, young⟩))
    have offered := (offers draft).mpr young
    rw [looked, offered, kept (.inr ⟨draft, offered⟩)]
  · obtain ⟨-, -, -, looks⟩ := checkDraft_exactly (refusing .draftClear) later (draft.age later)
    have full : (refusing .draftClear).slot ≠ none := by simp [slot_refusing]
    exact ((looks rfl).1 _ rfl full (old _)).2

/-- The look does fail: a database that refuses to load the draft, or to clear one that is too old,
makes it. -/
theorem look_at_locked_slot :
    (refusing .draftLoad).checkDraft later (draft.age later + 1) = .error (.database "locked") ∧
    (refusing .draftClear).checkDraft later (draft.age later) = .error (.database "locked") := by
  refine ⟨checkDraft_of_unloaded rfl nofun, ?_⟩
  have loads : (refusing .draftClear).faults .draftLoad = none := rfl
  have full : (refusing .draftClear).slot ≠ none := by simp [slot_refusing]
  rcases checkDraft_cases loads later (draft.age later) with ⟨empty, -⟩ | ⟨other, offers, -⟩ |
    ⟨-, -, check, -, looked⟩
  · exact absurd empty full
  · exact absurd offers (old _ other)
  · have kept : (refusing .draftClear).clearDraft = .error (.database "locked") :=
      change_eq_error_iff.mpr rfl
    rw [looked, kept]
    rfl

end Filled

end Store

end SiteReport
