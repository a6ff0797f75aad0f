import SiteReport.Composer
import SiteReport.Proofs.Document.Rewrite
import SiteReport.Proofs.Store.Records

/-!
What taking over the outcome of a run does to a composer: to its document, its draft and the photos
in its stock.
-/

namespace SiteReport

/-- An event that says nothing of the sections. -/
def ComposerEvent.isAside : ComposerEvent → Bool
  | .body _ => false
  | .documentReset => false
  | _ => true

namespace Composer

/-- Whatever was published since says nothing of the sections. -/
def ToldAside (c after : Composer) : Prop :=
  ∃ news, after.published = c.published ++ news ∧ ∀ e ∈ news, e.isAside = true

theorem ToldAside.refl (c : Composer) : ToldAside c c :=
  ⟨[], (List.append_nil _).symm, fun _ none => absurd none List.not_mem_nil⟩

theorem ToldAside.emit {c after : Composer} (h : ToldAside c after) {e : ComposerEvent}
    (aside : e.isAside = true) : ToldAside c (after.emit e) := by
  obtain ⟨news, told, quiet⟩ := h
  refine ⟨news ++ [e], ?_, ?_⟩
  · rw [Composer.emit, told, List.append_assoc]
  · intro e' member
    rcases List.mem_append.mp member with old | new
    · exact quiet e' old
    · rwa [List.mem_singleton.mp new]

/-! ### The draft -/

/-- The draft after a report was sent. An edit since the ticket was taken keeps it; else it goes,
unless the store fails to clear it. -/
theorem settleDraft_spec (c : Composer) (clock : Clock) (revision : Nat) :
    ∃ store autosave revision' published,
      c.settleDraft clock revision =
        { c with stock := { c.stock with store }, autosave, revision := revision', published } ∧
      store.faults = c.stock.store.faults ∧ store.stored = c.stock.store.stored ∧
      (revision = c.revision → autosave.isDirty = false ∧
        store.slot = if c.stock.store.faults .draftClear = none then none else c.stock.store.slot) ∧
      (revision ≠ c.revision → autosave.isDirty = true ∧ store = c.stock.store) := by
  unfold settleDraft
  by_cases same : revision = c.revision
  · rw [if_pos same]
    simp only
    cases cleared : c.stock.store.clearDraft with
    | ok store =>
        obtain ⟨allowed, faults, slot, stored⟩ := Store.clearDraft_spec cleared
        refine ⟨store, _, _, _, rfl, faults, stored, ?_, ?_⟩
        · intro _
          rw [if_pos allowed]
          exact ⟨rfl, slot⟩
        · exact fun h => absurd same h
    | error e =>
        refine ⟨c.stock.store, _, _, _, rfl, rfl, rfl, ?_, ?_⟩
        · intro _
          rw [Store.change_eq_error_iff.mp cleared, if_neg (by simp)]
          exact ⟨rfl, rfl⟩
        · exact fun h => absurd same h
  · rw [if_neg same]
    refine ⟨c.stock.store, _, _, _, rfl, rfl, rfl, ?_, ?_⟩
    · exact fun h => absurd h same
    · exact fun _ => ⟨rfl, rfl⟩

theorem settleDraft_told (c : Composer) (clock : Clock) (revision : Nat) :
    ToldAside c (c.settleDraft clock revision) := by
  unfold settleDraft
  split
  · simp only
    split
    · exact .emit (.refl c) rfl
    · exact .refl c
  · exact .refl c

/-! ### A successful outcome -/

variable {c : Composer} {outcome : SubmitOutcome} {report : SubmitReport}

/-- The composer after it took over a report for its document. -/
structure Applied (c : Composer) (revision : Nat) (report : SubmitReport) (after : Composer) :
    Prop where
  header_eq : after.header = c.header
  body_eq : after.body = (c.body.resolve report.resolution).1
  remoteId_eq : after.remoteId = some report.remoteId
  generation_eq : after.generation = c.generation
  gesture_eq : after.gesture = c.gesture
  told : ToldAside (c.emit (.body .replaced)) after
  faults_eq : after.stock.store.faults = c.stock.store.faults
  stored_eq : ∀ id ∉ report.resolution.resolved.map (·.1),
    after.stock.store.stored id = c.stock.store.stored id
  records : after.stock.store.RecordsFrom c.stock.store
  unedited : revision = c.revision → after.isDirty = false ∧
    after.stock.store.slot =
      if c.stock.store.faults .draftClear = none then none else c.stock.store.slot
  edited : revision ≠ c.revision → after.isDirty = true ∧
    after.stock.store.slot = c.stock.store.slot

theorem settled_applied (c : Composer) (clock : Clock) (revision : Nat) (report : SubmitReport) :
    Applied c revision report
      (({ c with
        body := (c.body.resolve report.resolution).1
        remoteId := some report.remoteId }.emit
        (.body (c.body.resolve report.resolution).2)).settleDraft clock revision) := by
  let sent : Composer := { c with
      body := (c.body.resolve report.resolution).1
      remoteId := some report.remoteId }.emit (.body (c.body.resolve report.resolution).2)
  have told : ToldAside sent (sent.settleDraft clock revision) := sent.settleDraft_told _ _
  obtain ⟨store, autosave, revision', published, settled, faults, stored, unedited, edited⟩ :=
    sent.settleDraft_spec clock revision
  rw [settled] at told ⊢
  constructor
  · rfl
  · rfl
  · rfl
  · rfl
  · rfl
  · exact told
  · exact faults
  · exact fun id _ => congrFun stored id
  · exact .of_stored fun id => .inl (congrFun stored id)
  · exact unedited
  · intro differs
    obtain ⟨dirty, same⟩ := edited differs
    exact ⟨dirty, congrArg Store.slot same⟩

theorem Applied.pruned {revision : Nat} {mid : Composer} (h : Applied c revision report mid)
    {stock : Stock} (lost : Store.Lost (report.resolution.resolved.map (·.1)) mid.stock.store
      stock.store) : Applied c revision report { mid with stock } where
  header_eq := h.header_eq
  body_eq := h.body_eq
  remoteId_eq := h.remoteId_eq
  generation_eq := h.generation_eq
  gesture_eq := h.gesture_eq
  told := h.told
  faults_eq := lost.faults_eq.trans h.faults_eq
  stored_eq := fun id absent => (lost.stored_eq id absent).trans (h.stored_eq id absent)
  records := lost.records.trans h.records
  unedited := fun same => ⟨(h.unedited same).1, lost.slot_eq.trans (h.unedited same).2⟩
  edited := fun differs => ⟨(h.edited differs).1, lost.slot_eq.trans (h.edited differs).2⟩

theorem Applied.emit {revision : Nat} {mid : Composer} (h : Applied c revision report mid)
    {e : ComposerEvent} (aside : e.isAside = true) : Applied c revision report (mid.emit e) :=
  { h with told := h.told.emit aside }

theorem applySubmit_applied (clock : Clock) (current : outcome.generation = c.generation)
    (done : outcome.result = .ok report) :
    (c.applySubmit clock outcome).1 = .ok report ∧
    Applied c outcome.revision report (c.applySubmit clock outcome).2 := by
  have mid := settled_applied c clock outcome.revision report
  unfold applySubmit
  rw [if_neg (not_not.mpr current), done]
  refine ⟨rfl, Applied.emit ?_ rfl⟩
  split
  · exact mid.pruned (Stock.foldl_remove_lost _ _)
  · exact mid

/-- An outcome is turned away, tells of a failure, or is taken over. Only the last does anything. -/
theorem applySubmit_cases (c : Composer) (clock : Clock) (outcome : SubmitOutcome) :
    (outcome.generation ≠ c.generation ∧
      c.applySubmit clock outcome = (.error .superseded, c)) ∨
    outcome.generation = c.generation ∧
      ((∃ e, outcome.result = .error e ∧ c.applySubmit clock outcome = (.error e, c)) ∨
        ∃ report, outcome.result = .ok report ∧ (c.applySubmit clock outcome).1 = .ok report ∧
          Applied c outcome.revision report (c.applySubmit clock outcome).2) := by
  by_cases current : outcome.generation = c.generation
  · right
    refine ⟨current, ?_⟩
    cases done : outcome.result with
    | error e =>
        refine .inl ⟨e, rfl, ?_⟩
        rw [applySubmit, if_neg (not_not.mpr current), done]
    | ok report => exact .inr ⟨report, rfl, applySubmit_applied clock current done⟩
  · exact .inl ⟨current, if_pos current⟩

end Composer

end SiteReport
