import SiteReport.Proofs.CommandLine.Retry
import SiteReport.Proofs.Description.Portions
import SiteReport.Proofs.Store.DraftCheck

/-!
The draft slot after a call that submits. A description is composed without a look at the slot, a
saved draft is taken up or cleared, the report is saved in the slot before it is sent, and a report
that was sent clears it: so the slot tells how far the call came. The database may refuse any of
these requests, and then the slot stays as it was.
-/

namespace SiteReport

/-! ### The slot of a database -/

/-- A store in a database, with what it refuses and the text in the slot of a program that names
none. -/
def Store.Slotted (s : Store) (faults : StoreCall → Option StoreError) (text : Option String) :
    Prop :=
  ∃ rows, s = ⟨.database rows defaultDraftKey, faults⟩ ∧ rows.draftText? defaultDraftKey = text

namespace Store.Slotted

variable {s after : Store} {faults : StoreCall → Option StoreError} {text : Option String}

theorem put (h : s.Slotted faults text) {p : StagedPhoto} (accepted : s.put p = .ok after) :
    after.Slotted faults text := by
  obtain ⟨rows, rfl, slot⟩ := h
  obtain ⟨-, rfl⟩ := change_eq_ok_iff.mp accepted
  exact ⟨rows.put p, rfl, slot⟩

theorem saveDraft (h : s.Slotted faults text) (draft : Snapshot) :
    (∃ e, faults .draftSave = some e ∧ s.saveDraft draft = .error e) ∨
    ∃ after, s.saveDraft draft = .ok after ∧ after.Slotted faults (some draft.text) := by
  obtain ⟨rows, rfl, -⟩ := h
  cases refused : faults .draftSave with
  | some e => exact .inl ⟨e, rfl, change_eq_error_iff.mpr refused⟩
  | none =>
      exact .inr ⟨_, change_eq_ok_iff.mpr ⟨refused, rfl⟩, _, rfl, rows.draftText?_putDraft _ _⟩

theorem clearDraft (h : s.Slotted faults text) :
    (∃ e, faults .draftClear = some e ∧ s.clearDraft = .error e) ∨
    ∃ after, faults .draftClear = none ∧ s.clearDraft = .ok after ∧ after.Slotted faults none := by
  obtain ⟨rows, rfl, -⟩ := h
  cases refused : faults .draftClear with
  | some e => exact .inl ⟨e, rfl, change_eq_error_iff.mpr refused⟩
  | none =>
      exact .inr ⟨_, rfl, change_eq_ok_iff.mpr ⟨refused, rfl⟩, _, rfl, rows.draftText?_clearDraft _⟩

theorem noteAll (h : s.Slotted faults text) (notes : List (PhotoId × String)) :
    (s.noteAll notes).Slotted faults text := by
  induction notes generalizing s with
  | nil => exact h
  | cons note rest ih =>
      obtain ⟨rows, rfl, slot⟩ := h
      exact ih ⟨rows.markUploaded note.1 note.2, rfl, slot⟩

theorem remove {stock : Stock} (h : stock.store.Slotted faults text) (id : PhotoId) :
    (stock.remove id).2.store.Slotted faults text := by
  unfold Stock.remove
  simp only
  cases deleted : (stock.evict id).store.delete id with
  | error e => exact h
  | ok answer =>
      obtain ⟨rows, store, slot⟩ := h
      obtain ⟨after, accepted, rfl⟩ := map_eq_ok_iff.mp deleted
      obtain ⟨-, rfl⟩ := change_eq_ok_iff.mp accepted
      rw [show (stock.evict id).store = stock.store from rfl, store]
      exact ⟨rows.delete id, rfl, slot⟩

theorem release {c : Composer} (h : c.stock.store.Slotted faults text) (photos : List PhotoId) :
    (c.release photos).stock.store.Slotted faults text := by
  unfold Composer.release
  generalize c.stock = stock at h ⊢
  induction photos generalizing stock with
  | nil => exact h
  | cons id rest ih => exact ih (stock.remove id).2 (h.remove id)

theorem database (h : s.Slotted faults text) :
    ∃ rows, s.database? = some rows ∧ rows.draftText? defaultDraftKey = text := by
  obtain ⟨rows, rfl, slot⟩ := h
  exact ⟨rows, rfl, slot⟩

/-- A look that clears the slot fails if the store refuses that. -/
theorem checkDraft_of_clear (h : s.Slotted faults text) {now : Timestamp} {window : Int}
    {check : DraftCheck} (other : ∀ draft, check ≠ .offer draft)
    (looked : s.checkDraft now window = s.clearDraft.map (check, ·)) :
    (∃ call e, faults call = some e ∧ s.checkDraft now window = .error e) ∨
    ∃ check after, (∀ draft, check ≠ .offer draft) ∧ s.checkDraft now window = .ok (check, after) ∧
      after.Slotted faults none := by
  rw [looked]
  rcases h.clearDraft with ⟨e, refused, failed⟩ | ⟨after, -, cleared, empty⟩
  · exact .inl ⟨.draftClear, e, refused, by rw [failed]; rfl⟩
  · exact .inr ⟨check, after, other, by rw [cleared]; rfl, empty⟩

/-- A look at the slot fails for what the store refuses. Else it offers what is in the slot, or leaves
the slot empty. -/
theorem checkDraft (h : s.Slotted faults text) (now : Timestamp) (window : Int) :
    (∃ call e, faults call = some e ∧ s.checkDraft now window = .error e) ∨
    (∃ draft, s.Offers now window draft ∧ s.checkDraft now window = .ok (.offer draft, s)) ∨
    ∃ check after, (∀ draft, check ≠ .offer draft) ∧ s.checkDraft now window = .ok (check, after) ∧
      after.Slotted faults none := by
  have same : s.faults = faults ∧ s.slot = text := by
    obtain ⟨rows, rfl, slot⟩ := h
    exact ⟨rfl, slot⟩
  cases loads : faults .draftLoad with
  | some e =>
      have refused : s.faults .draftLoad = some e := by rw [same.1, loads]
      by_cases unread : e = .undecodable
      · subst unread
        have looked : s.checkDraft now window = s.clearDraft.map (.corrupt, ·) := by
          unfold Store.checkDraft
          rw [loadDraft_of_fault refused]
        exact Or.imp_right Or.inr (h.checkDraft_of_clear (fun _ other => by cases other) looked)
      · exact .inl ⟨.draftLoad, e, loads, checkDraft_of_unloaded refused unread⟩
  | none =>
      have loads : s.faults .draftLoad = none := by rw [same.1, loads]
      rcases checkDraft_cases loads now window with ⟨empty, looked⟩ | ⟨draft, offers, looked⟩ |
        ⟨-, -, check, told, looked⟩
      · exact .inr (.inr ⟨.empty, s, fun _ => nofun, looked, same.2.symm.trans empty ▸ h⟩)
      · exact .inr (.inl ⟨draft, offers, looked⟩)
      · refine Or.imp_right Or.inr (h.checkDraft_of_clear ?_ looked)
        rcases told with rfl | rfl <;> exact fun _ => nofun

end Store.Slotted

/-! ### From the description to the attempt -/

/-- A composer with a header, over a database with a text in the slot. -/
structure Composer.Slotted (c : Composer) (header : Header)
    (faults : StoreCall → Option StoreError) (text : Option String) : Prop where
  header_eq : c.header = header
  store : c.stock.store.Slotted faults text

section

variable {s : Surroundings} {d : Desk} {c : Composer} {header : Header}
  {faults : StoreCall → Option StoreError} {text : Option String}

theorem Composer.Slotted.wrote (h : c.Slotted header faults text) {body : Body} {after : Composer}
    (wrote : c.Wrote body after) : after.Slotted header faults text :=
  ⟨wrote.header_eq.trans h.header_eq, wrote.stock_eq ▸ h.store⟩

/-- Taking a photo puts a photo into the store at most. -/
theorem Composer.Slotted.capturePhoto (h : c.Slotted header faults text) (clock : Clock)
    (list : PhotoList) (file : Incoming) :
    (c.capturePhoto clock list file).2.Slotted header faults text := by
  unfold Composer.capturePhoto
  split
  · exact h
  · split
    · exact h
    · rename_i photo mid staged
      obtain ⟨⟨photo', stock⟩, stocked, same⟩ := map_eq_ok_iff.mp staged
      cases same
      obtain ⟨bytes, store, -, rfl, put, rfl⟩ := Stock.stage_eq_ok_iff.mp stocked
      have kept : (c.mapStore store).Slotted header faults text := ⟨h.header_eq, h.store.put put⟩
      split
      · exact kept
      · rename_i attached
        obtain ⟨r, accepted⟩ := attach_of_attachPhoto attached
        obtain ⟨after, answered, wrote⟩ := attachPhoto_wrote accepted clock
        cases attached.symm.trans answered
        exact kept.wrote wrote

namespace Desk

theorem edit_attachPhoto_slotted (h : d.composer.Slotted header faults text) (clock : Clock)
    (list : PhotoList) (photo : PhotoRef) :
    (d.edit (d.composer.attachPhoto clock list photo)).2.composer.Slotted header faults text := by
  rcases d.edit_attachPhoto_cases clock list photo with ⟨cause, failed⟩ | ⟨r, after, -, wrote, went⟩
  · rw [failed]
    exact h
  · rw [went]
    exact h.wrote wrote

theorem write_slotted (portion : Portion) (h : d.composer.Slotted header faults text) :
    (d.write s portion).2.composer.Slotted header faults text := by
  cases portion with
  | opening part =>
      obtain ⟨-, stock, same, -⟩ := d.add_bare s part
      exact ⟨same.trans h.header_eq, stock ▸ h.store⟩
  | photo category described =>
      cases described with
      | url address => exact edit_attachPhoto_slotted h _ _ _
      | staged id =>
          simp only [write, attach]
          cases d.composer.stock.get id with
          | error cause => exact h
          | ok found =>
              cases found with
              | none => exact h
              | some photo => exact edit_attachPhoto_slotted h _ _ _
      | file path =>
          simp only [write, attach, capture]
          cases (s.look (Path.join s.folder path)).bytes with
          | error cause => exact h
          | ok raw =>
              have kept := h.capturePhoto s.clock ⟨⟨d.composer.body.counter⟩, category⟩
                ⟨s.fresh d.used, s.clock.wall, Path.name (Path.join s.folder path), raw⟩
              simp only
              split <;> exact kept

end Desk

/-- A description is written, or not, without a look at the slot. -/
theorem Description.apply_slotted (d : Description) (s : Surroundings)
    (h : c.stock.store.Slotted faults text) : (d.apply s c).2.Slotted d.header faults text := by
  rw [apply_eq_portions]
  refine Desk.advance_keeps (fun d' => d'.composer.Slotted d.header faults text)
    (fun d portion => d.write_slotted portion) d.portions ?_
  obtain ⟨header, -, -, stock⟩ := c.setHeader_eq s.clock d.header
  exact ⟨header, stock ▸ h⟩

/-- A report that is taken over for a document without edits since then clears the slot, if the
database lets it. -/
theorem Composer.applySubmit_slotted (h : c.stock.store.Slotted faults text) (clock : Clock)
    {outcome : SubmitOutcome} {report : SubmitReport} (current : outcome.generation = c.generation)
    (unedited : outcome.revision = c.revision) (sent : outcome.result = .ok report) :
    (c.applySubmit clock outcome).2.stock.store.Slotted faults
      (if faults .draftClear = none then none else text) := by
  have settled : ∀ mid : Composer, mid.stock = c.stock → mid.revision = c.revision →
      (mid.settleDraft clock outcome.revision).stock.store.Slotted faults
        (if faults .draftClear = none then none else text) := by
    intro mid stock revision
    unfold settleDraft
    rw [if_pos (unedited.trans revision.symm)]
    rcases h.clearDraft with ⟨e, refused, failed⟩ | ⟨cleared, allowed, clears, empty⟩
    · have failed : mid.stock.store.clearDraft = .error e := by rw [stock, failed]
      simp only [failed, refused]
      exact stock ▸ h
    · have clears : mid.stock.store.clearDraft = .ok cleared := by rw [stock, clears]
      simp only [clears, allowed]
      exact empty
  let taken : Composer := { c with
      body := (c.body.resolve report.resolution).1
      remoteId := some report.remoteId }.emit (.body (c.body.resolve report.resolution).2)
  unfold applySubmit
  rw [if_neg (not_not.mpr current), sent]
  simp only
  split
  · exact (settled taken rfl rfl).release _
  · exact settled taken rfl rfl

end

namespace CommandLine

variable {c : Composer} {faults : StoreCall → Option StoreError} {text : Option String}

/-- Link and store leave the stock alone, and the times of the header. -/
theorem label_spec (w : World) (d : Description) (stores : Option String) (c : Composer) :
    (label w d stores c).2.stock = c.stock ∧
    (c.header.OnMinute → (label w d stores c).2.header.OnMinute) := by
  have linked : (link w d c).stock = c.stock ∧ (link w d c).header = c.header := by
    unfold link
    split <;> exact ⟨rfl, rfl⟩
  obtain ⟨stock, same⟩ := linked
  unfold label
  split
  · exact ⟨stock, fun regular => same ▸ regular⟩
  · split
    · exact ⟨stock, fun regular => same ▸ regular⟩
    · rename_i entry _
      obtain ⟨named, -, -, kept⟩ :=
        (link w d c).setHeader_eq w.clock (entry.applyTo (link w d c).header)
      refine ⟨kept.trans stock, fun regular => ?_⟩
      rw [Composer.applyStoreEntry, named, same]
      exact regular

/-- A description is composed, or not, without a look at the slot; and it tells no leap second within
a minute. -/
theorem compose_slotted (h : c.stock.store.Slotted faults text) (w : World) (path : String)
    (stores : Option String) : (compose w c path stores).2.stock.store.Slotted faults text ∧
    ((compose w c path stores).1 = .ok () → (compose w c path stores).2.header.OnMinute) := by
  cases read : (w.look path).text with
  | error cause =>
      unfold compose
      rw [read]
      exact ⟨h, fun failed => by cases failed⟩
  | ok told =>
      cases parsed : Description.parse? told with
      | none =>
          simp only [compose, read, parsed]
          exact ⟨h, fun failed => by cases failed⟩
      | some d =>
          have kept := d.apply_slotted (surroundings w path) h
          cases applied : d.apply (surroundings w path) c with
          | mk result mid =>
              rw [applied] at kept
              cases result with
              | error e =>
                  rw [surroundings] at applied
                  simp only [compose, read, parsed, applied]
                  exact ⟨kept.store, fun failed => by cases failed⟩
              | ok _ =>
                  obtain ⟨stock, regular⟩ := label_spec w d stores mid
                  rw [compose_eq_label read parsed applied, stock]
                  refine ⟨kept.store, fun _ => regular ?_⟩
                  rw [kept.header_eq]
                  exact (Description.spec_of_parse? parsed).1

/-- There is no window for drafts, or the database refuses a request. -/
def Hinders (settings : EditSettings) (faults : StoreCall → Option StoreError) (e : Failure) : Prop :=
  (settings.draftWindow? = none ∧ e = .noWindow settings.draftFreshnessHours) ∨
    ∃ call cause, faults call = some cause ∧ e = .store cause

/-- What is left of the text in the slot by a call that fails before it saves a report. With a
description nothing happens to it. Without one it had to go if there was no draft to take up; and it
stays if the failure kept the call from finding that out, or from saving the draft anew. -/
structure Unsaved (settings : EditSettings) (faults : StoreCall → Option StoreError)
    (report : Option String) (e : Failure) (text left : Option String) : Prop where
  described : report.isSome = true → left = text
  resumed : report = none → (e = .noReport ∧ left = none) ∨ (Hinders settings faults e ∧ left = text)

/-- A saved draft is taken up again and stays in the slot. -/
theorem resume_slotted (h : c.stock.store.Slotted faults text) (w : World) :
    (∃ notes mid, resume w c = (.ok notes, mid) ∧ mid.header.OnMinute ∧
      mid.stock.store.Slotted faults text) ∨
    ∃ e mid left, resume w c = (.error e, mid) ∧ mid.stock.store.Slotted faults left ∧
      ((e = .noReport ∧ left = none) ∨ (Hinders c.settings faults e ∧ left = text)) := by
  unfold resume Composer.checkDraft
  cases given : c.settings.draftWindow? with
  | none => exact .inr ⟨_, c, text, rfl, h, .inr ⟨.inl ⟨given, rfl⟩, rfl⟩⟩
  | some window =>
      rcases h.checkDraft w.now window with ⟨call, cause, refused, failed⟩ |
        ⟨draft, offers, looked⟩ | ⟨check, after, other, looked, empty⟩
      · simp only [failed]
        exact .inr ⟨_, c, text, rfl, h, .inr ⟨.inr ⟨call, cause, refused, rfl⟩, rfl⟩⟩
      · simp only [looked]
        obtain ⟨told, -, read, -⟩ := offers
        exact .inl ⟨_, _, rfl, Snapshot.onMinute_header read, h⟩
      · simp only [looked]
        cases check with
        | offer draft => exact absurd rfl (other draft)
        | _ => exact .inr ⟨_, _, none, rfl, empty, .inl ⟨rfl, rfl⟩⟩

/-- What a report is composed from, and how the slot stands when it cannot be composed. -/
theorem prepare_slotted (h : c.stock.store.Slotted faults text) (w : World)
    (report stores : Option String) :
    (∃ notes mid, prepare w c report stores = (.ok notes, mid) ∧ mid.header.OnMinute ∧
      mid.stock.store.Slotted faults text) ∨
    ∃ e mid left, prepare w c report stores = (.error e, mid) ∧ mid.stock.store.Slotted faults left ∧
      Unsaved c.settings faults report e text left := by
  cases report with
  | none =>
      unfold prepare
      refine (resume_slotted h w).imp_right ?_
      rintro ⟨e, mid, left, failed, stands, why⟩
      exact ⟨e, mid, left, failed, stands, nofun, fun _ => why⟩
  | some path =>
      obtain ⟨kept, regular⟩ := compose_slotted h w path stores
      cases composed : compose w c path stores with
      | mk result mid =>
          rw [composed] at kept regular
          cases result with
          | error e =>
              exact .inr ⟨e, mid, text, by simp only [prepare, composed], kept, fun _ => rfl, nofun⟩
          | ok _ => exact .inl ⟨[], mid, by simp only [prepare, composed], regular rfl, kept⟩

/-- The report is saved in the slot, unless the database refuses. -/
theorem flushDraft_slotted (h : c.stock.store.Slotted faults text) (clock : Clock) :
    (∃ cause after, faults .draftSave = some cause ∧ c.flushDraft clock = (.error cause, after) ∧
      after.stock.store.Slotted faults text) ∨
    ∃ after, c.flushDraft clock = (.ok (), after) ∧ after.header = c.header ∧
      after.stock.store.Slotted faults (some (after.snapshot clock.wall).text) := by
  rcases h.saveDraft (c.snapshot clock.wall) with ⟨cause, refused, failed⟩ | ⟨store, saved, kept⟩
  · let cancelled : Composer := { c with autosave := c.autosave.cancel }
    have failed : cancelled.stock.store.saveDraft (cancelled.snapshot clock.wall) = .error cause :=
      failed
    refine .inl ⟨cause, { cancelled with autosave := cancelled.autosave.markDirty clock.ticks },
      refused, ?_, h⟩
    simp only [Composer.flushDraft, Composer.saveDraft, cancelled] at failed ⊢
    rw [failed]
  · have works : c.stock.store.faults .draftSave = none := (Store.change_eq_ok_iff.mp saved).1
    obtain ⟨store', after, saved', flushed, body, header, remoteId, stock⟩ :=
      Composer.flushDraft_saves works clock
    cases saved.symm.trans saved'
    have drafted : after.snapshot clock.wall = c.snapshot clock.wall := by
      rw [Composer.snapshot, header, body, remoteId]
      rfl
    exact .inr ⟨after, flushed, header, by rw [stock, drafted]; exact kept⟩

/-- A report that was sent clears the slot, if the database lets it; a report that was not leaves it
as it was. -/
theorem send_slotted (h : c.stock.store.Slotted faults text) (w : World) (settings : Settings) :
    (∃ e, (send w settings c).1.result = .error (.submit e) ∧
      (send w settings c).2.stock.store.Slotted faults text) ∨
    ((send w settings c).1.result = .ok () ∧ (send w settings c).2.stock.store.Slotted faults
      (if faults .draftClear = none then none else text)) := by
  let a := attemptOf w settings c
  let ran : Composer := { c with stock := a.run.stock }
  have noted : ran.stock.store.Slotted faults text := by
    obtain ⟨notes, -, stock_eq, -⟩ := a.run_stock
    rw [show ran.stock = a.run.stock from rfl, stock_eq]
    exact h.noteAll notes
  rcases send_cases w settings c with ⟨e, -, failed, same⟩ | ⟨report, sent, ok⟩
  · rw [same]
    exact .inl ⟨e, failed, noted⟩
  · have taken : (send w settings c).2 = (ran.applySubmit w.clock a.run.outcome).2 := by
      unfold send
      simp only
      split <;> rfl
    rw [taken]
    exact .inr ⟨ok, Composer.applySubmit_slotted noted w.clock rfl rfl sent⟩

end CommandLine

namespace Invocation

open CommandLine

/-- The settings of a call and the database that it opens. -/
def opened? (w : World) (i : Invocation) : Option (Settings × Database) :=
  match i.settings w with
  | .error _ => none
  | .ok settings => (Database.atPath? w.look settings.storage.dbPath).map (settings, ·)

variable {w : World} {i : Invocation} {report stores : Option String}
  {faults : StoreCall → Option StoreError}

theorem opened?_eq_some_iff {settings : Settings} {rows : Database} :
    i.opened? w = some (settings, rows) ↔
      i.settings w = .ok settings ∧ Database.atPath? w.look settings.storage.dbPath = some rows := by
  unfold opened?
  cases i.settings w with
  | error e => simp
  | ok own =>
      simp only [Option.map_eq_some_iff, Prod.mk.injEq, Except.ok.injEq]
      constructor
      · rintro ⟨found, there, rfl, rfl⟩
        exact ⟨rfl, there⟩
      · rintro ⟨rfl, there⟩
        exact ⟨rows, there, rfl, rfl⟩

/-- A call that does not come to a database leaves every database as it was. -/
theorem run_of_unopened (unopened : i.opened? w = none) :
    (∃ e, (i.run w faults).told.result = .error e) ∧ (i.run w faults).database = none := by
  unfold opened? at unopened
  unfold run
  cases given : i.settings w with
  | error e => exact ⟨⟨_, rfl⟩, rfl⟩
  | ok settings =>
      rw [given] at unopened
      have closed := Option.map_eq_none_iff.mp unopened
      simp only [closed]
      exact ⟨⟨_, rfl⟩, trivial⟩

/-- A call that fails before its report is saved tells why, and leaves what its composer left. -/
theorem run_of_unsaved (task : i.task = .submit report stores) {settings : Settings}
    {rows : Database} (opened : i.opened? w = some (settings, rows)) {e : Failure}
    {notes : List String} {mid : Composer}
    (failed : runSubmit w settings (composer w.codec settings rows faults) report stores =
      ({ Told.failed e with notes }, mid))
    {left : Option String} (stands : mid.stock.store.Slotted faults left) :
    (i.run w faults).told.result = .error e ∧
    ∃ after, (i.run w faults).database = some (settings.storage.dbPath, after) ∧
      after.draftText? defaultDraftKey = left := by
  obtain ⟨given, found⟩ := opened?_eq_some_iff.mp opened
  obtain ⟨after, there, slot⟩ := stands.database
  have ran : CommandLine.run w settings (composer w.codec settings rows faults) i.task =
      ({ Told.failed e with notes }, mid) := by
    rw [task]
    exact failed
  refine ⟨?_, after, ?_, slot⟩
  · simp only [run, given, found, ran]
    rfl
  · simp only [run, given, found, ran, there]
    rfl

/-- A call that submits fails without a report saved, or comes to send the one that it has saved. -/
theorem unsaved_or_sending (faults : StoreCall → Option StoreError)
    (task : i.task = .submit report stores) {settings : Settings} {rows : Database}
    (opened : i.opened? w = some (settings, rows)) :
    (∃ e after, i.sending? w faults = none ∧ (i.run w faults).told.result = .error e ∧
      (i.run w faults).database = some (settings.storage.dbPath, after) ∧
      Unsaved settings.edit faults report e (rows.draftText? defaultDraftKey)
        (after.draftText? defaultDraftKey)) ∨
    ∃ c, i.sending? w faults = some (settings, c) ∧ c.header.OnMinute ∧
      c.stock.store.Slotted faults (some (c.snapshot w.now).text) := by
  obtain ⟨given, found⟩ := opened?_eq_some_iff.mp opened
  have start : (composer w.codec settings rows faults).stock.store.Slotted faults
      (rows.draftText? defaultDraftKey) := ⟨rows, rfl, rfl⟩
  rcases prepare_slotted start w report stores with ⟨notes, mid, prepared, regular, kept⟩ |
    ⟨e, mid, left, prepared, stands, why⟩
  · rcases flushDraft_slotted kept w.clock with ⟨cause, last, refused, flushed, stands⟩ |
      ⟨last, flushed, header, saved⟩
    · have failed : runSubmit w settings (composer w.codec settings rows faults) report stores =
          ({ Told.failed (.store cause) with notes }, last) := by
        simp only [runSubmit, prepared, flushed]
      obtain ⟨result, after, database, slot⟩ := run_of_unsaved task opened failed stands
      refine .inl ⟨.store cause, after, ?_, result, database, fun _ => slot, fun _ => .inr ⟨?_, slot⟩⟩
      · simp only [sending?, given, found, task, prepared, flushed]
      · exact .inr ⟨.draftSave, cause, refused, rfl⟩
    · refine .inr ⟨last, ?_, header ▸ regular, saved⟩
      simp only [sending?, given, found, task, prepared, flushed]
  · have failed : runSubmit w settings (composer w.codec settings rows faults) report stores =
        ({ Told.failed e with notes := [] }, mid) := by
      simp only [runSubmit, prepared]
      rfl
    obtain ⟨result, after, database, slot⟩ := run_of_unsaved task opened failed stands
    refine .inl ⟨e, after, ?_, result, database, slot ▸ why⟩
    simp only [sending?, given, found, task, prepared]

/-- A call that has saved its report sends it. -/
theorem run_of_saved {settings : Settings} {c : Composer}
    (sending : i.sending? w faults = some (settings, c)) (regular : c.header.OnMinute)
    {draft : Snapshot} (captured : draft = .capture c.header c.body c.remoteId w.now)
    (saved : c.stock.store.Slotted faults (some draft.text)) :
    ∃ after, (i.run w faults).database = some (settings.storage.dbPath, after) ∧
      ((∃ e, (i.run w faults).told.result = .error e ∧
          after.draftText? defaultDraftKey = some draft.text ∧
          after.loadDraft defaultDraftKey =
            .ok (some (.capture c.header c.body c.remoteId w.now.told))) ∨
        ((i.run w faults).told.result = .ok () ∧ after.draftText? defaultDraftKey =
          if faults .draftClear = none then none else some draft.text)) := by
  obtain ⟨-, result, database⟩ := run_of_sending sending
  rw [result, database]
  rcases send_slotted saved w settings with ⟨e, failed, stands⟩ | ⟨ok, settled⟩
  · obtain ⟨after, there, slot⟩ := stands.database
    rw [there]
    refine ⟨after, rfl, .inl ⟨_, failed, slot, ?_⟩⟩
    rw [Database.loadDraft, slot]
    simp only [Snapshot.parse?_text]
    rw [captured, Snapshot.told_capture, Header.told_eq_self_iff.mpr regular]
  · obtain ⟨after, there, slot⟩ := settled.database
    rw [there]
    exact ⟨after, rfl, .inr ⟨ok, slot⟩⟩

/-- The draft slot after a call that submits, whatever the database refuses. A call that does not come
to a database touches none. A failure before the report is saved leaves the slot as it was if there is
a description, and else empty, unless it kept the call from looking. A failure after that leaves the
report in it, and success empties it, if the database lets it be cleared. -/
theorem slot_after_submit (task : i.task = .submit report stores)
    (faults : StoreCall → Option StoreError) :
    (i.opened? w = none →
      (∃ e, (i.run w faults).told.result = .error e) ∧ (i.run w faults).database = none) ∧
    ∀ settings rows, i.opened? w = some (settings, rows) →
      ∃ after, (i.run w faults).database = some (settings.storage.dbPath, after) ∧
        (i.sending? w faults = none → ∃ e, (i.run w faults).told.result = .error e ∧
          Unsaved settings.edit faults report e (rows.draftText? defaultDraftKey)
            (after.draftText? defaultDraftKey)) ∧
        ∀ own c, i.sending? w faults = some (own, c) →
          ((i.run w faults).told.result = .ok () → after.draftText? defaultDraftKey =
            if faults .draftClear = none then none
            else some (Snapshot.capture c.header c.body c.remoteId w.now).text) ∧
          (∀ e, (i.run w faults).told.result = .error e →
            after.draftText? defaultDraftKey =
              some (Snapshot.capture c.header c.body c.remoteId w.now).text ∧
            after.loadDraft defaultDraftKey =
              .ok (some (Snapshot.capture c.header c.body c.remoteId w.now.told))) := by
  refine ⟨run_of_unopened, fun settings rows opened => ?_⟩
  rcases unsaved_or_sending faults task opened with
    ⟨e, after, unsent, failed, database, why⟩ | ⟨c, sending, regular, saved⟩
  · rw [unsent, failed]
    exact ⟨after, database, fun _ => ⟨e, rfl, why⟩, fun own c absent => by cases absent⟩
  · obtain ⟨after, database, sent⟩ := run_of_saved sending regular rfl saved
    rw [sending]
    refine ⟨after, database, (fun absent => by cases absent), ?_⟩
    rintro own last same
    cases same
    rcases sent with ⟨e, failed, held⟩ | ⟨ok, settled⟩
    · rw [failed]
      exact ⟨nofun, fun _ _ => held⟩
    · rw [ok]
      exact ⟨fun _ => settled, nofun⟩

namespace Twice

/-- The report that the server turns away is the draft after the call. -/
theorem draft_of_refused_report :
    call.task = .submit (some "r.json") none ∧ call.opened? first = some (fine, rows) ∧
    ∃ after, (call.run first).database = some ("fieldreport.db", after) ∧
      after.loadDraft defaultDraftKey = .ok (some (Snapshot.capture (saved rows first).header
        (saved rows first).body (saved rows first).remoteId first.now.told)) := by
  have opens : call.opened? first = some (fine, rows) :=
    opened?_eq_some_iff.mpr ⟨given rows _ _, opened rows _ _ recent_rows⟩
  obtain ⟨-, slot⟩ := slot_after_submit (i := call) (w := first) rfl fun _ => none
  obtain ⟨after, left, -, sends⟩ := slot fine rows opens
  obtain ⟨-, held⟩ := sends _ _ sending_first
  exact ⟨rfl, opens, after, left, (held _ result_first).2⟩

/-- A server that takes the report. -/
def taking : World := world rows Twins.right accepted

/-- A database in which no draft can be cleared. -/
def keeping : StoreCall → Option StoreError :=
  fun call => if call = .draftClear then some (.database "locked") else none

theorem sending_taking : call.sending? taking keeping = some (fine, saved rows taking keeping) := by
  refine sending_eq rows Twins.right _ recent_rows ?_ ?_
  · rfl
  · rfl

theorem report_taken :
    (attemptOf taking fine (saved rows taking keeping)).run.outcome.result.toOption.isSome = true := by
  decide +kernel

/-- The call ends well, and its draft is still in the slot. -/
theorem draft_kept_by_refused_clear :
    call.task = .submit (some "r.json") none ∧ call.opened? taking = some (fine, rows) ∧
    (call.run taking keeping).told.result = .ok () ∧
    ∃ after, (call.run taking keeping).database = some ("fieldreport.db", after) ∧
      after.draftText? defaultDraftKey ≠ none := by
  have opens : call.opened? taking = some (fine, rows) :=
    opened?_eq_some_iff.mpr ⟨given rows _ _, opened rows _ _ recent_rows⟩
  have ok : (call.run taking keeping).told.result = .ok () := by
    rw [(run_of_sending sending_taking).2.1]
    rcases send_cases taking fine (saved rows taking keeping) with ⟨e, failed, -⟩ | ⟨-, -, sent⟩
    · have taken := report_taken
      rw [failed] at taken
      cases taken
    · exact sent
  refine ⟨rfl, opens, ok, ?_⟩
  rcases unsaved_or_sending keeping rfl opens with ⟨e, -, unsent, -⟩ |
    ⟨c, sending, regular, saved⟩
  · rw [sending_taking] at unsent
    cases unsent
  · obtain ⟨after, database, ⟨e, failed, -⟩ | ⟨-, settled⟩⟩ := run_of_saved sending regular rfl saved
    · cases ok.symm.trans failed
    · refine ⟨after, database, ?_⟩
      rw [settled, if_neg (by decide)]
      exact nofun

end Twice

end Invocation

end SiteReport
