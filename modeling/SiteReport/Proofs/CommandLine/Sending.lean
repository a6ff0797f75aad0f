import SiteReport.Proofs.CommandLine.Composed
import SiteReport.Proofs.Composer.Apply
import SiteReport.Proofs.Store.SavedDraft
import SiteReport.Proofs.Submission.Reuse

/-!
The attempt that a call of the program makes to send its report. What the call shows of it is the
trace of the attempt, and an attempt that fails leaves the database as its uploads left it. Two
calls over the same files compose the same report, but for the identifiers of the photos that they
stage.
-/

namespace SiteReport

/-! ### From the description to the report -/

namespace CommandLine

def surroundings (w : World) (path : String) : Surroundings :=
  ⟨w.clock, folderOf path, w.look, w.fresh⟩

/-- The link to the server that a description gives. -/
def link (w : World) (d : Description) (c : Composer) : Composer :=
  match d.remoteId with
  | some id => c.setRemoteId w.clock id
  | none => c

/-- Link and store, once the sections are written. -/
def label (w : World) (d : Description) (stores : Option String) (c : Composer) :
    Except Failure Unit × Composer :=
  match d.store with
  | none => (.ok (), link w d c)
  | some id =>
    match findStore w stores id with
    | .error e => (.error e, link w d c)
    | .ok entry => (.ok (), (link w d c).applyStoreEntry w.clock entry)

theorem compose_eq_label {w : World} {path text : String} {stores : Option String}
    {d : Description} {c mid : Composer} (read : (w.look path).text = .ok text)
    (parsed : Description.parse? text = some d)
    (applied : d.apply (surroundings w path) c = (.ok (), mid)) :
    compose w c path stores = label w d stores mid := by
  rw [surroundings] at applied
  simp only [compose, read, parsed, applied]
  rfl

/-- A report is composed only from a description that could be written. -/
theorem applied_of_compose {w : World} {path text : String} {stores : Option String}
    {d : Description} {c : Composer} (read : (w.look path).text = .ok text)
    (parsed : Description.parse? text = some d) (ok : (compose w c path stores).1 = .ok ()) :
    ∃ mid, d.apply (surroundings w path) c = (.ok (), mid) := by
  simp only [compose, read, parsed] at ok
  cases applied : d.apply (surroundings w path) c with
  | mk result mid =>
      cases result with
      | error e =>
          rw [surroundings] at applied
          simp [applied] at ok
      | ok _ => exact ⟨mid, rfl⟩

end CommandLine

namespace Composer

theorem setHeader_eq (c : Composer) (clock : Clock) (header : Header) :
    (c.setHeader clock header).header = header ∧ (c.setHeader clock header).body = c.body ∧
    (c.setHeader clock header).remoteId = c.remoteId ∧
    (c.setHeader clock header).stock = c.stock := by
  unfold setHeader
  split
  · rename_i same
    exact ⟨same.symm, rfl, rfl, rfl⟩
  · exact ⟨rfl, rfl, rfl, rfl⟩

theorem flushDraft_saves {c : Composer} (works : c.stock.store.faults .draftSave = none)
    (clock : Clock) :
    ∃ store after, c.stock.store.saveDraft (c.snapshot clock.wall) = .ok store ∧
      c.flushDraft clock = (.ok (), after) ∧ after.body = c.body ∧ after.header = c.header ∧
      after.remoteId = c.remoteId ∧ after.stock = { c.stock with store } := by
  obtain ⟨store, saved⟩ := c.stock.store.saveDraft_ok works (c.snapshot clock.wall)
  let cancelled : Composer := { c with autosave := c.autosave.cancel }
  refine ⟨store, (cancelled.mapStore store).emit (.draftSaved clock.wall), saved, ?_,
    rfl, rfl, rfl, rfl⟩
  have saved' : cancelled.stock.store.saveDraft (cancelled.snapshot clock.wall) = .ok store := saved
  simp only [flushDraft, saveDraft, cancelled] at saved' ⊢
  rw [saved']

end Composer

/-- Saving the draft touches no photo. -/
theorem Filed.saved {s : Surroundings} {names : List PhotoId} {before store after : Store}
    (h : Filed s names before files store) {draft : Snapshot}
    (saved : store.saveDraft draft = .ok after) : Filed s names before files after := by
  obtain ⟨faults, -, stored⟩ := Store.saveDraft_spec saved
  refine ⟨faults.trans h.works, ?_, ?_⟩
  · rw [stored]
    exact h.kept
  · rw [stored]
    exact h.filed

namespace Pairing

open CommandLine

variable {m : Pairing} {files : List (String × Bytes)} {c₁ c₂ : Composer}

/-- Header and link may be set on both sides. -/
theorem Alike.relabel (h : m.Alike files ⟨c₁, files.length⟩ ⟨c₂, files.length⟩)
    {after₁ after₂ : Composer} (body₁ : after₁.body = c₁.body) (body₂ : after₂.body = c₂.body)
    (stock₁ : after₁.stock = c₁.stock) (stock₂ : after₂.stock = c₂.stock)
    (header : after₂.header = after₁.header) (remoteId : after₂.remoteId = after₁.remoteId) :
    m.Alike files ⟨after₁, files.length⟩ ⟨after₂, files.length⟩ where
  within := h.within
  used₁ := rfl
  used₂ := rfl
  body := by rw [body₁, body₂, h.body]
  header := header
  remoteId := remoteId
  normalizer := by rw [stock₁, stock₂, h.normalizer]
  filed₁ := stock₁ ▸ h.filed₁
  filed₂ := stock₂ ▸ h.filed₂
  photos := body₁ ▸ h.photos

theorem Alike.applyStoreEntry (h : m.Alike files ⟨c₁, files.length⟩ ⟨c₂, files.length⟩)
    (clock₁ clock₂ : Clock) (entry : DirectoryEntry) :
    m.Alike files ⟨c₁.applyStoreEntry clock₁ entry, files.length⟩
      ⟨c₂.applyStoreEntry clock₂ entry, files.length⟩ := by
  obtain ⟨header₁, body₁, remoteId₁, stock₁⟩ := c₁.setHeader_eq clock₁ (entry.applyTo c₁.header)
  obtain ⟨header₂, body₂, remoteId₂, stock₂⟩ := c₂.setHeader_eq clock₂ (entry.applyTo c₂.header)
  have header : c₂.header = c₁.header := h.header
  have remoteId : c₂.remoteId = c₁.remoteId := h.remoteId
  refine h.relabel body₁ body₂ stock₁ stock₂ ?_ ?_
  · exact header₂.trans (header ▸ header₁.symm)
  · exact remoteId₂.trans (remoteId.trans remoteId₁.symm)

theorem Alike.flushDraft (h : m.Alike files ⟨c₁, files.length⟩ ⟨c₂, files.length⟩)
    (clock₁ clock₂ : Clock) :
    (c₁.flushDraft clock₁).1 = .ok () ∧ (c₂.flushDraft clock₂).1 = .ok () ∧
    m.Alike files ⟨(c₁.flushDraft clock₁).2, files.length⟩
      ⟨(c₂.flushDraft clock₂).2, files.length⟩ := by
  obtain ⟨store₁, after₁, saved₁, flushed₁, body₁, header₁, remoteId₁, stock₁⟩ :=
    Composer.flushDraft_saves (congrFun h.filed₁.works _) clock₁
  obtain ⟨store₂, after₂, saved₂, flushed₂, body₂, header₂, remoteId₂, stock₂⟩ :=
    Composer.flushDraft_saves (congrFun h.filed₂.works _) clock₂
  rw [flushed₁, flushed₂]
  refine ⟨rfl, rfl, ?_⟩
  constructor
  · exact h.within
  · rfl
  · rfl
  · exact body₂.trans (h.body.trans (congrArg _ body₁.symm))
  · exact header₂.trans (h.header.trans header₁.symm)
  · exact remoteId₂.trans (h.remoteId.trans remoteId₁.symm)
  · rw [stock₁, stock₂]
    exact h.normalizer
  · rw [stock₁]
    exact h.filed₁.saved saved₁
  · rw [stock₂]
    exact h.filed₂.saved saved₂
  · rw [body₁]
    exact h.photos

theorem findStore_eq {w₁ w₂ : World} {stores : Option String}
    (directory : ∀ path, stores = some path → w₂.look path = w₁.look path) (id : String) :
    findStore w₂ stores id = findStore w₁ stores id := by
  cases stores with
  | none => rfl
  | some path => simp only [findStore, directory path rfl]

/-- What a description says besides the sections: the link to the server, and the store. -/
theorem Alike.labelled {w₁ w₂ : World} {stores : Option String} (d : Description)
    (directory : ∀ path, stores = some path → w₂.look path = w₁.look path)
    (h : m.Alike files ⟨c₁, files.length⟩ ⟨c₂, files.length⟩)
    (ok : (label w₁ d stores c₁).1 = .ok ()) :
    (label w₂ d stores c₂).1 = .ok () ∧ ∃ files,
      m.Alike files ⟨(label w₁ d stores c₁).2, files.length⟩
        ⟨(label w₂ d stores c₂).2, files.length⟩ := by
  have linked : m.Alike files ⟨link w₁ d c₁, files.length⟩ ⟨link w₂ d c₂, files.length⟩ := by
    unfold link
    cases d.remoteId with
    | none => exact h
    | some id => exact h.relabel rfl rfl rfl rfl h.header rfl
  unfold label at ok ⊢
  cases named : d.store with
  | none => exact ⟨rfl, files, linked⟩
  | some id =>
      simp only [named, findStore_eq directory] at ok ⊢
      cases found : findStore w₁ stores id with
      | error e =>
          rw [found] at ok
          cases ok
      | ok entry => exact ⟨rfl, files, linked.applyStoreEntry w₁.clock w₂.clock entry⟩

/-- A report that is composed the first time is composed the second time. -/
theorem Alike.compose {w₁ w₂ : World} {path text : String} {stores : Option String}
    {d : Description} (first : m.first = surroundings w₁ path)
    (second : m.second = surroundings w₂ path) (read₁ : (w₁.look path).text = .ok text)
    (read₂ : (w₂.look path).text = .ok text) (parsed : Description.parse? text = some d)
    (names : d.named = m.names) (paths : d.paths (folderOf path) = m.paths)
    (directory : ∀ path, stores = some path → w₂.look path = w₁.look path)
    (h : m.Alike [] { composer := c₁ } { composer := c₂ })
    (ok : (CommandLine.compose w₁ c₁ path stores).1 = .ok ()) :
    (CommandLine.compose w₂ c₂ path stores).1 = .ok () ∧ ∃ files,
      m.Alike files ⟨(CommandLine.compose w₁ c₁ path stores).2, files.length⟩
        ⟨(CommandLine.compose w₂ c₂ path stores).2, files.length⟩ := by
  obtain ⟨header₁, body₁, remoteId₁, stock₁⟩ := c₁.setHeader_eq m.first.clock d.header
  obtain ⟨header₂, body₂, remoteId₂, stock₂⟩ := c₂.setHeader_eq m.second.clock d.header
  have alone : m.Alike [] ⟨c₁, ([] : List (String × Bytes)).length⟩
      ⟨c₂, ([] : List (String × Bytes)).length⟩ := h
  have start := alone.relabel body₁ body₂ stock₁ stock₂ (header₂.trans header₁.symm)
    (remoteId₂.trans (h.remoteId.trans remoteId₁.symm))
  obtain ⟨mid₁, applied₁⟩ := applied_of_compose read₁ parsed ok
  obtain ⟨well, files, alike⟩ := start.apply names (by rw [first]; exact paths)
    (by rw [first, applied₁])
  have applied₂ : d.apply (surroundings w₂ path) c₂ =
      (.ok (), (d.apply (surroundings w₂ path) c₂).2) := Prod.ext (by rw [← second, well]) rfl
  rw [first, second, applied₁] at alike
  rw [compose_eq_label read₁ parsed applied₁] at ok ⊢
  rw [compose_eq_label read₂ parsed applied₂]
  exact alike.labelled d directory ok

end Pairing

/-! ### The call and its attempt -/

namespace CommandLine

def attemptOf (w : World) (settings : Settings) (c : Composer) : Attempt :=
  ⟨service w settings, settings.edit.uploadBatchSize, c.stock, c.beginSubmit⟩

theorem trace_send (w : World) (settings : Settings) (c : Composer) :
    (send w settings c).1.trace = (attemptOf w settings c).run.trace := by
  unfold send
  simp only
  split <;> rfl

/-- A call fails with its attempt, and then leaves the composer with the stock after it. -/
theorem send_cases (w : World) (settings : Settings) (c : Composer) :
    (∃ e, (attemptOf w settings c).run.outcome.result = .error e ∧
      (send w settings c).1.result = .error (.submit e) ∧
      (send w settings c).2 = { c with stock := (attemptOf w settings c).run.stock }) ∨
    ∃ report, (attemptOf w settings c).run.outcome.result = .ok report ∧
      (send w settings c).1.result = .ok () := by
  let after : Composer := { c with stock := (attemptOf w settings c).run.stock }
  let applied := after.applySubmit w.clock (attemptOf w settings c).run.outcome
  have submitted : c.submit w.clock (service w settings) settings.edit.uploadBatchSize =
      ((applied.1, (attemptOf w settings c).run), applied.2) := rfl
  unfold send
  simp only [submitted]
  rcases after.applySubmit_cases w.clock (attemptOf w settings c).run.outcome with
    ⟨other, -⟩ | ⟨-, ⟨e, failed, same⟩ | ⟨report, sent, same, -⟩⟩
  · exact absurd rfl other
  · left
    simp only [applied, same]
    exact ⟨e, failed, rfl, rfl⟩
  · right
    simp only [applied, same]
    exact ⟨report, sent, trivial⟩

theorem send_failed {w : World} {settings : Settings} {c : Composer} {e : SubmitError}
    (failed : (send w settings c).1.result = .error (.submit e)) :
    (send w settings c).2 = { c with stock := (attemptOf w settings c).run.stock } := by
  rcases send_cases w settings c with ⟨-, -, -, same⟩ | ⟨report, -, sent⟩
  · exact same
  · rw [sent] at failed
    cases failed

end CommandLine

namespace Invocation

open CommandLine

/-- The settings of a call that sends a report, and its composer with the report composed and saved
as a draft. -/
def sending? (w : World) (i : Invocation)
    (faults : StoreCall → Option StoreError := fun _ => none) : Option (Settings × Composer) :=
  match i.settings w with
  | .error _ => none
  | .ok settings =>
    match Database.atPath? w.look settings.storage.dbPath, i.task with
    | some rows, .submit report stores =>
      match prepare w (composer w.codec settings rows faults) report stores with
      | (.error _, _) => none
      | (.ok _, c) =>
        match c.flushDraft w.clock with
        | (.error _, _) => none
        | (.ok _, c) => some (settings, c)
    | _, _ => none

/-- The attempt that a call makes, if it comes to one. -/
def attempt? (w : World) (i : Invocation) : Option Attempt :=
  (i.sending? w).map fun (settings, c) => attemptOf w settings c

variable {w : World} {i : Invocation} {report stores : Option String}
  {faults : StoreCall → Option StoreError}

/-- What a call has done before its attempt. -/
theorem exists_of_sending {settings : Settings} {c : Composer}
    (sending : i.sending? w faults = some (settings, c)) :
    ∃ rows report stores notes mid, i.settings w = .ok settings ∧
      Database.atPath? w.look settings.storage.dbPath = some rows ∧
      i.task = .submit report stores ∧
      prepare w (composer w.codec settings rows faults) report stores = (.ok notes, mid) ∧
      mid.flushDraft w.clock = (.ok (), c) := by
  unfold sending? at sending
  split at sending
  · cases sending
  · rename_i own given
    split at sending
    · rename_i rows report stores opened task
      split at sending
      · cases sending
      · rename_i notes mid prepared
        split at sending
        · cases sending
        · rename_i last flushed
          cases sending
          exact ⟨rows, report, stores, notes, mid, given, opened, task, prepared, flushed⟩
    · cases sending

/-- What is seen of a call that comes to its attempt. -/
theorem run_of_sending {settings : Settings} {c : Composer}
    (sending : i.sending? w faults = some (settings, c)) :
    (i.run w faults).told.trace = (send w settings c).1.trace ∧
    (i.run w faults).told.result = (send w settings c).1.result ∧
    (i.run w faults).database =
      (send w settings c).2.stock.store.database?.map (settings.storage.dbPath, ·) := by
  obtain ⟨rows, report, stores, notes, mid, given, opened, task, prepared, flushed⟩ :=
    exists_of_sending sending
  have ran : CommandLine.run w settings (composer w.codec settings rows faults) i.task =
      ({ (send w settings c).1 with notes := notes ++ (send w settings c).1.notes },
        (send w settings c).2) := by
    simp only [CommandLine.run, task, runSubmit, prepared, flushed]
  refine ⟨?_, ?_, ?_⟩ <;> simp only [run, given, opened, ran]

/-- A call that shows a report request comes to its attempt. -/
theorem sending_of_sent (task : i.task = .submit report stores) {request : SendRequest}
    (sent : .send request ∈ (i.run w).told.trace) :
    ∃ settings c, i.sending? w = some (settings, c) := by
  unfold run at sent
  unfold sending?
  cases given : i.settings w with
  | error e => simp [given, Told.failed] at sent
  | ok settings =>
      cases opened : Database.atPath? w.look settings.storage.dbPath with
      | none => simp [given, opened, Told.failed] at sent
      | some rows =>
          simp only [given, opened, task, CommandLine.run, runSubmit] at sent ⊢
          cases prepared : prepare w (composer w.codec settings rows) report stores with
          | mk result mid =>
              cases result with
              | error e => simp [prepared, Told.failed] at sent
              | ok notes =>
                  simp only [prepared] at sent ⊢
                  cases flushed : mid.flushDraft w.clock with
                  | mk saved last =>
                      cases saved with
                      | error e => simp [flushed, Told.failed] at sent
                      | ok _ => exact ⟨settings, last, rfl⟩

end Invocation

end SiteReport
